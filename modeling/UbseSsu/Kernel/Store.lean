import UbseSsu.Kernel.Ioctls
import Mathlib.Logic.Function.Basic

/-!
# The kernel tables as one keyed store

What the two tables are for: at most one device for each minor, and a set of
maps in which a minor and a sector occur at most once, all of them on devices
that are there.  A `Store` cannot be otherwise.  Its steps say which requests
succeed and what they change; every sequence of ioctls is a run of the store.
-/

namespace UbseSsu.Kernel

structure Store where
  devices : Nat → Option LogdevReq
  maps : KeyedSet MapEntry.key
  owned : ∀ entry ∈ maps.rows, (devices entry.logicalMinor).isSome = true

namespace Store

def initial : Store where
  devices _ := none
  maps := { rows := ∅, distinct := nofun }
  owned := nofun

@[ext] theorem ext {left right : Store} (devices : left.devices = right.devices)
    (maps : left.maps = right.maps) : left = right := by
  cases left
  cases right
  simp_all

variable (store : Store)

def create (req : LogdevReq) : Store where
  devices := Function.update store.devices req.minor (some req)
  maps := store.maps
  owned entry member := by
    by_cases same : entry.logicalMinor = req.minor
    · rw [same, Function.update_self]
      rfl
    · rw [Function.update_of_ne same]
      exact store.owned entry member

def destroy (minor : Nat) : Store where
  devices := Function.update store.devices minor none
  maps := store.maps.filter fun entry => entry.logicalMinor ≠ minor
  owned entry member := by
    obtain ⟨old, different⟩ := Finset.mem_filter.mp member
    rw [Function.update_of_ne different]
    exact store.owned entry old

/-- When `MAP_ADD` succeeds. -/
structure Addable (entry : MapEntry) : Prop where
  nonempty : entry.lengthSectors ≠ 0
  physDev : entry.physDev.chars ≠ []
  live : (store.devices entry.logicalMinor).isSome = true
  fresh : ∀ old ∈ store.maps.rows, old.key ≠ entry.key
  room : store.maps.rows.card < maxMaps

variable {store} in
def add {entry : MapEntry} (addable : store.Addable entry) : Store where
  devices := store.devices
  maps := store.maps.insert entry addable.fresh
  owned other member := by
    rcases Finset.mem_insert.mp member with rfl | old
    · exact addable.live
    · exact store.owned other old

def del (key : Nat × UInt64) : Store where
  devices := store.devices
  maps := store.maps.filter fun entry => entry.key ≠ key
  owned entry member :=
    store.owned entry (Finset.mem_filter.mp member).1

/-- One request, its answer and the store after it. -/
inductive Step : Ioctl → Except Errno (Option MapEntry) → Store → Prop where
  | created {req : LogdevReq} (valid : validateLogdevReq req = true)
      (free : store.devices req.minor = none) :
      Step (.logdevCreate req none) (.ok none) (store.create req)
  | createRefused {req : LogdevReq} {blockLayer : Option Errno}
      {errno : Errno} (refused : validateLogdevReq req = false ∨
        (store.devices req.minor).isSome = true ∨ blockLayer = some errno) :
      Step (.logdevCreate req blockLayer) (.error errno) store
  | destroyed {minor : Nat} (live : (store.devices minor).isSome = true) :
      Step (.logdevDestroy minor) (.ok none) (store.destroy minor)
  | destroyRefused {minor : Nat} {errno : Errno}
      (missing : store.devices minor = none) :
      Step (.logdevDestroy minor) (.error errno) store
  | added {entry : MapEntry} (addable : store.Addable entry) :
      Step (.mapAdd entry) (.ok none) (add addable)
  | addRefused {entry : MapEntry} {errno : Errno}
      (refused : ¬store.Addable entry) :
      Step (.mapAdd entry) (.error errno) store
  | deleted {entry old : MapEntry} (member : old ∈ store.maps.rows)
      (same : old.key = entry.key) :
      Step (.mapDel entry) (.ok none) (store.del entry.key)
  | delMissing {entry : MapEntry}
      (missing : ∀ old ∈ store.maps.rows, old.key ≠ entry.key) :
      Step (.mapDel entry) (.error .enoent) store
  | found {logicalMinor : Nat} {logicalSector : UInt64} {entry : MapEntry}
      (member : entry ∈ store.maps.rows)
      (covered : Covers entry logicalMinor logicalSector) :
      Step (.mapQuery logicalMinor logicalSector) (.ok (some entry)) store
  | uncovered {logicalMinor : Nat} {logicalSector : UInt64}
      (missing : ∀ entry ∈ store.maps.rows,
        ¬Covers entry logicalMinor logicalSector) :
      Step (.mapQuery logicalMinor logicalSector) (.error .enoent) store

/-- Requests one after the other, with their answers. -/
inductive Run :
    Store → List Ioctl → List (Except Errno (Option MapEntry)) → Store → Prop
    where
  | nil (store : Store) : Run store [] [] store
  | cons {first next last : Store} {request : Ioctl}
      {answer : Except Errno (Option MapEntry)} {requests : List Ioctl}
      {answers : List (Except Errno (Option MapEntry))}
      (step : first.Step request answer next)
      (rest : Run next requests answers last) :
      Run first (request :: requests) (answer :: answers) last

end Store

section Refinement

variable {kernel after : KernelState}

/-- What the tables stand for. -/
def KernelState.store (kernel : KernelState) (sound : TablesSound kernel) :
    Store where
  devices := kernel.logdevs.get
  maps := kernel.maps.keyedSet sound.distinct
  owned entry member :=
    sound.owned entry ((SlotTable.mem_keyedSet sound.distinct).mp member)

variable (sound : TablesSound kernel)

theorem mem_store {entry : MapEntry} :
    entry ∈ (kernel.store sound).maps.rows ↔ entry ∈ kernel.maps.rows :=
  SlotTable.mem_keyedSet sound.distinct

theorem logdevs_update {size : Nat} {α : Type} {table : SlotTable α size}
    {minor : Nat} {row : α} (bound : minor < size) :
    (table.put minor row).get = Function.update table.get minor (some row) := by
  funext other
  by_cases same : other = minor
  · rw [same, SlotTable.get_put_self bound, Function.update_self]
  · rw [SlotTable.get_put_other (Ne.symm same), Function.update_of_ne same]

theorem logdevs_update_none {size : Nat} {α : Type}
    {table : SlotTable α size} {minor : Nat} :
    (table.clear minor).get = Function.update table.get minor none := by
  funext other
  by_cases same : other = minor
  · rw [same, SlotTable.get_clear_self, Function.update_self]
  · rw [SlotTable.get_clear_other (Ne.symm same), Function.update_of_ne same]

theorem store_logdevCreate {blockLayer : Option Errno} {req : LogdevReq}
    (created : logdevCreate blockLayer req kernel = .ok after) :
    after.store (sound.logdevCreate created) =
      (kernel.store sound).create req := by
  obtain ⟨valid, _, rfl⟩ := logdevCreate_ok created
  apply Store.ext
  · exact logdevs_update (validateLogdevReq_minor valid)
  · rfl

theorem store_logdevDestroy {minor : Nat}
    (destroyed : logdevDestroy minor kernel = .ok after) :
    after.store (sound.logdevDestroy destroyed) =
      (kernel.store sound).destroy minor := by
  obtain ⟨_, rfl⟩ := logdevDestroy_ok destroyed
  apply Store.ext
  · exact logdevs_update_none
  · have kept := SlotTable.keyedSet_eraseWhere sound.distinct
      (mapHasMinor minor)
    apply kept.trans
    apply KeyedSet.ext
    apply Finset.filter_congr
    intro entry _
    simp [mapHasMinor]

/-- `MAP_ADD` succeeds exactly when the store can take the entry. -/
theorem mapAdd_ok_iff {entry : MapEntry} :
    (∃ after, mapAdd entry kernel = .ok after) ↔
      (kernel.store sound).Addable entry := by
  constructor
  · rintro ⟨after, added⟩
    have fresh := mapAdd_fresh added
    have live := (mapAdd_ok added).1
    obtain ⟨checks, slot, free, _⟩ := mapAdd_eq_ok_iff.mp added
    obtain ⟨bound, isFree⟩ := SlotTable.get_firstFree free
    refine ⟨checks.nonempty, checks.physDev, live, ?_, ?_⟩
    · intro old member
      exact fresh old ((mem_store sound).mp member)
    · have full := (kernel.maps.put slot entry).length_rows_le
      have grown : (kernel.maps.put slot entry).rows.Perm
          (entry :: kernel.maps.rows) := SlotTable.rows_put_perm bound isFree
      rw [grown.length_eq, List.length_cons] at full
      exact (SlotTable.card_keyedSet sound.distinct).trans_lt full
  · rintro ⟨nonempty, physDev, live, fresh, room⟩
    have count : kernel.maps.rows.length < maxMaps := by
      rw [← SlotTable.card_keyedSet sound.distinct]
      exact room
    obtain ⟨slot, free⟩ := SlotTable.firstFree_isSome_of_room count
    obtain ⟨req, active⟩ := Option.isSome_iff_exists.mp live
    have present : logdevExists kernel entry.logicalMinor = true := by
      have small := SlotTable.lt_size_of_get_eq_some active
      exact Bool.and_eq_true_iff.mpr ⟨decide_eq_true small, live⟩
    have unused : kernel.maps.rows.any (mapHasKey entry) = false := by
      apply List.any_eq_false.mpr
      intro old member same
      exact fresh old ((mem_store sound).mpr member) (mapHasKey_iff.mp same)
    have room : kernel.maps.firstFree.isSome = true :=
      Option.isSome_iff_exists.mpr ⟨slot, free⟩
    exact ⟨_, mapAdd_eq_ok_iff.mpr
      ⟨⟨nonempty, physDev, present, unused, room⟩, slot, free, rfl⟩⟩

theorem store_mapAdd {entry : MapEntry}
    (added : mapAdd entry kernel = .ok after) :
    after.store (sound.mapAdd added) =
      Store.add ((mapAdd_ok_iff sound).mp ⟨after, added⟩) := by
  have fresh := mapAdd_fresh added
  obtain ⟨_, _, slot, free, rfl⟩ := mapAdd_ok added
  obtain ⟨bound, isFree⟩ := SlotTable.get_firstFree free
  apply Store.ext
  · rfl
  · exact SlotTable.keyedSet_put sound.distinct bound isFree fresh

theorem store_mapDel {entry : MapEntry}
    (deleted : mapDel entry kernel = .ok after) :
    (∃ old ∈ (kernel.store sound).maps.rows, old.key = entry.key) ∧
      after.store (sound.mapDel deleted) =
        (kernel.store sound).del entry.key := by
  obtain ⟨slot, found, rfl⟩ := mapDel_ok deleted
  obtain ⟨row, active, keyed⟩ := SlotTable.get_findSlot found
  have same := mapHasKey_iff.mp keyed
  constructor
  · refine ⟨row, ?_, same⟩
    exact (mem_store sound).mpr (SlotTable.mem_rows_of_get active)
  · apply Store.ext
    · rfl
    · have cleared := SlotTable.keyedSet_clear sound.distinct active
      rw [same] at cleared
      exact cleared

theorem mapDel_error {entry : MapEntry} {errno : Errno}
    (refused : mapDel entry kernel = .error errno) :
    errno = .enoent ∧ ∀ old ∈ kernel.maps.rows, old.key ≠ entry.key := by
  unfold mapDel at refused
  split at refused
  · rename_i missing
    refine ⟨(Except.error.inj refused).symm, ?_⟩
    intro old member same
    have skipped := SlotTable.findSlot_eq_none_iff.mp missing old member
    rw [mapHasKey_iff.mpr same] at skipped
    contradiction
  · cases refused

theorem logdevCreate_error {blockLayer : Option Errno} {req : LogdevReq}
    {errno : Errno}
    (refused : logdevCreate blockLayer req kernel = .error errno) :
    validateLogdevReq req = false ∨
      (kernel.logdevs.get req.minor).isSome = true ∨
        blockLayer = some errno := by
  unfold logdevCreate at refused
  split at refused
  · rename_i invalid
    exact .inl (by simpa using invalid)
  · split at refused
    · rename_i busy
      exact .inr (.inl busy)
    · split at refused
      · cases refused
        exact .inr (.inr rfl)
      · cases refused

theorem logdevDestroy_error {minor : Nat} {errno : Errno}
    (refused : logdevDestroy minor kernel = .error errno) :
    kernel.logdevs.get minor = none := by
  unfold logdevDestroy at refused
  split at refused
  · rename_i large
    cases found : kernel.logdevs.get minor with
    | none => rfl
    | some req =>
        have small := SlotTable.lt_size_of_get_eq_some found
        omega
  · split at refused
    · rename_i missing
      exact Option.isNone_iff_eq_none.mp missing
    · cases refused

theorem step_of_answer {request : Ioctl}
    {answer : Except Errno (Option MapEntry)}
    (answered : ioctl kernel request = (answer, after))
    (afterSound : TablesSound after)
    (step : (kernel.store sound).Step request answer
      (after.store afterSound)) :
    (kernel.store sound).Step request (ioctl kernel request).1
      ((ioctlStep kernel request).store (sound.step request)) := by
  have final : ioctlStep kernel request = after := congrArg Prod.snd answered
  subst final
  rw [congrArg Prod.fst answered]
  exact step

/-- One ioctl is one step of the store. -/
theorem ioctl_step (request : Ioctl) :
    (kernel.store sound).Step request (ioctl kernel request).1
      ((ioctlStep kernel request).store (sound.step request)) := by
  cases request with
  | logdevCreate req blockLayer =>
      cases result : logdevCreate blockLayer req kernel with
      | ok after =>
          obtain rfl := logdevCreate_blockLayer result
          obtain ⟨valid, free, _⟩ := logdevCreate_ok result
          apply step_of_answer sound (by rw [ioctl, result]; rfl)
            (sound.logdevCreate result)
          rw [store_logdevCreate sound result]
          exact .created valid free
      | error errno =>
          apply step_of_answer sound (by rw [ioctl, result]; rfl) sound
          exact .createRefused (logdevCreate_error result)
  | logdevDestroy minor =>
      cases result : logdevDestroy minor kernel with
      | ok after =>
          apply step_of_answer sound (by rw [ioctl, result]; rfl)
            (sound.logdevDestroy result)
          rw [store_logdevDestroy sound result]
          exact .destroyed (logdevDestroy_ok result).1
      | error errno =>
          apply step_of_answer sound (by rw [ioctl, result]; rfl) sound
          exact .destroyRefused (logdevDestroy_error result)
  | mapAdd entry =>
      cases result : mapAdd entry kernel with
      | ok after =>
          apply step_of_answer sound (by rw [ioctl, result]; rfl)
            (sound.mapAdd result)
          rw [store_mapAdd sound result]
          exact .added _
      | error errno =>
          apply step_of_answer sound (by rw [ioctl, result]; rfl) sound
          apply Store.Step.addRefused
          intro addable
          obtain ⟨after, added⟩ := (mapAdd_ok_iff sound).mpr addable
          rw [result] at added
          cases added
  | mapDel entry =>
      cases result : mapDel entry kernel with
      | ok after =>
          obtain ⟨⟨old, member, same⟩, final⟩ := store_mapDel sound result
          apply step_of_answer sound (by rw [ioctl, result]; rfl)
            (sound.mapDel result)
          rw [final]
          exact .deleted member same
      | error errno =>
          obtain ⟨rfl, missing⟩ := mapDel_error result
          apply step_of_answer sound (by rw [ioctl, result]; rfl) sound
          apply Store.Step.delMissing
          intro old member
          exact missing old ((mem_store sound).mp member)
  | mapQuery logicalMinor logicalSector =>
      cases result : mapQuery logicalMinor logicalSector kernel with
      | ok entry =>
          obtain ⟨member, covered⟩ := mapQuery_ok result
          apply step_of_answer sound (by rw [ioctl, result]) sound
          exact .found ((mem_store sound).mpr member) covered
      | error errno =>
          obtain ⟨rfl, missing⟩ := mapQuery_error_iff.mp result
          apply step_of_answer sound (by rw [ioctl, result]) sound
          apply Store.Step.uncovered
          intro entry member
          exact missing entry ((mem_store sound).mp member)

/-- The answers to requests one after the other. -/
def ioctlAnswers (kernel : KernelState) :
    List Ioctl → List (Except Errno (Option MapEntry))
  | [] => []
  | request :: requests =>
      (ioctl kernel request).1 ::
        ioctlAnswers (ioctlStep kernel request) requests

theorem ioctls_run (requests : List Ioctl) :
    (kernel.store sound).Run requests (ioctlAnswers kernel requests)
      ((Transition.run ioctlStep kernel requests).store
        (sound.run requests)) := by
  induction requests generalizing kernel with
  | nil => exact .nil _
  | cons request requests induction =>
      exact .cons (ioctl_step sound request) (induction (sound.step request))

theorem store_loaded : KernelState.loaded.store tablesSound_loaded = .initial := by
  apply Store.ext
  · funext minor
    exact SlotTable.get_empty minor
  · apply KeyedSet.ext
    ext entry
    rw [mem_store]
    simp [KernelState.loaded, Store.initial]

/-- From the module's load on, every sequence of ioctls is a run of the keyed
store with the same answers. -/
theorem ioctls_refine_store (requests : List Ioctl) :
    Store.Run .initial requests (ioctlAnswers .loaded requests)
      ((Transition.run ioctlStep .loaded requests).store
        (tablesSound_run requests)) := by
  rw [← store_loaded]
  exact ioctls_run tablesSound_loaded requests

end Refinement

end UbseSsu.Kernel

import UbseSsu.Library.CString
import UbseSsu.Library.SlotTable

/-!
# The tables of the ReqShim kernel module

The logical-device table of `reqshim_blk.c`, indexed by minor number, and the
map table of `reqshim_map.c`.  Every request answers with an errno and then
leaves the tables alone, or with the tables after it.  `reqshim_major` is
positive from the module's load to its unload, so no request sees it unset.
-/

namespace UbseSsu.Kernel

abbrev maxLogdevs : Nat := 256
abbrev maxMaps : Nat := 1024
/-- `SSU_REQSHIM_DISK_NAME_LEN` and the block layer's `DISK_NAME_LEN`. -/
abbrev diskNameLen : Nat := 32
abbrev sectorSize : Nat := 512
abbrev uapiVersion : Nat := 2

inductive Errno where
  | einval
  | enomem
  | enospc
  | enoent
  | enodev
  | ebusy
  | eexist
  | eopnotsupp
  | enosys
  | other (code : Nat)
deriving DecidableEq

structure LogdevReq where
  minor : Nat
  capacitySectors : UInt64
  logicalBlockSize : Nat
  /-- A `char[32]` that user space filled, with or without a NUL. -/
  diskName : BoundedString diskNameLen
deriving DecidableEq

structure MapEntry where
  logicalMinor : Nat
  logicalSector : UInt64
  lengthSectors : UInt64
  /-- A `char[64]` that user space filled, with or without a NUL. -/
  physDev : BoundedString 64
  nsid : Nat
  physSector : UInt64
deriving DecidableEq

structure KernelState where
  logdevs : SlotTable LogdevReq maxLogdevs
  maps : SlotTable MapEntry maxMaps

def KernelState.loaded : KernelState :=
  { logdevs := .empty maxLogdevs, maps := .empty maxMaps }

def diskNameCharIsValid (char : Char) : Bool :=
  ('a' ≤ char && char ≤ 'z') || ('A' ≤ char && char ≤ 'Z') ||
    ('0' ≤ char && char ≤ '9') ||
    char = '_' || char = '-' || char = '.' || char = ':'

def isPowerOf2 (value : Nat) : Bool :=
  value ≠ 0 && value &&& (value - 1) = 0

def validateLogdevReq (req : LogdevReq) : Bool :=
  decide (req.minor < maxLogdevs) && req.capacitySectors ≠ 0 &&
    req.diskName.chars ≠ [] &&
    decide (req.diskName.chars.length < diskNameLen) &&
    decide (req.diskName.chars.length + "ssu/".length < diskNameLen) &&
    req.diskName.chars.all diskNameCharIsValid &&
    decide (sectorSize ≤ req.logicalBlockSize) &&
    isPowerOf2 req.logicalBlockSize

def logdevExists (kernel : KernelState) (minor : Nat) : Bool :=
  decide (minor < maxLogdevs) && (kernel.logdevs.get minor).isSome

/-- `blockLayer` is what the tag set, the disk and `add_disk` answered. -/
def logdevCreate (blockLayer : Option Errno) (req : LogdevReq)
    (kernel : KernelState) : Except Errno KernelState :=
  if !validateLogdevReq req then .error .einval
  else if (kernel.logdevs.get req.minor).isSome then .error .ebusy
  else
    match blockLayer with
    | some errno => .error errno
    | none => .ok { kernel with logdevs := kernel.logdevs.put req.minor req }

def mapHasMinor (minor : Nat) (entry : MapEntry) : Bool :=
  entry.logicalMinor = minor

def mapHasKey (key : MapEntry) (entry : MapEntry) : Bool :=
  entry.logicalMinor = key.logicalMinor &&
    entry.logicalSector = key.logicalSector

def mapClearMinor (minor : Nat) (kernel : KernelState) : KernelState :=
  { kernel with maps := kernel.maps.eraseWhere (mapHasMinor minor) }

def logdevDestroy (minor : Nat) (kernel : KernelState) :
    Except Errno KernelState :=
  if maxLogdevs ≤ minor then .error .einval
  else if (kernel.logdevs.get minor).isNone then .error .enoent
  else
    .ok (mapClearMinor minor
      { kernel with logdevs := kernel.logdevs.clear minor })

def mapAdd (entry : MapEntry) (kernel : KernelState) :
    Except Errno KernelState :=
  if entry.lengthSectors = 0 ∨ entry.physDev.chars = [] then .error .einval
  else if !logdevExists kernel entry.logicalMinor then .error .enoent
  else if kernel.maps.rows.any (mapHasKey entry) then .error .eexist
  else
    match kernel.maps.firstFree with
    | none => .error .enospc
    | some slot => .ok { kernel with maps := kernel.maps.put slot entry }

def mapDel (entry : MapEntry) (kernel : KernelState) :
    Except Errno KernelState :=
  match kernel.maps.findSlot (mapHasKey entry) with
  | none => .error .enoent
  | some slot => .ok { kernel with maps := kernel.maps.clear slot }

section Invariant

/-- Every map belongs to a live logical device. -/
def MapsOwned (kernel : KernelState) : Prop :=
  ∀ entry ∈ kernel.maps.rows,
    (kernel.logdevs.get entry.logicalMinor).isSome = true

/-- What one minor shows: its logical device and its maps. -/
structure SameMinor (minor : Nat) (before after : KernelState) : Prop where
  logdev : after.logdevs.get minor = before.logdevs.get minor
  maps : after.maps.rows.filter (mapHasMinor minor) =
    before.maps.rows.filter (mapHasMinor minor)

theorem SameMinor.refl (minor : Nat) (kernel : KernelState) :
    SameMinor minor kernel kernel :=
  ⟨rfl, rfl⟩

theorem SameMinor.trans {minor : Nat} {first second third : KernelState}
    (left : SameMinor minor first second)
    (right : SameMinor minor second third) : SameMinor minor first third :=
  ⟨right.logdev.trans left.logdev, right.maps.trans left.maps⟩

theorem mapsOwned_loaded : MapsOwned .loaded := by
  simp [MapsOwned, KernelState.loaded]

variable {kernel after : KernelState} {req : LogdevReq} {entry : MapEntry}
  {minor other : Nat} {blockLayer : Option Errno}

theorem logdevCreate_ok
    (created : logdevCreate blockLayer req kernel = .ok after) :
    validateLogdevReq req = true ∧ kernel.logdevs.get req.minor = none ∧
      after = { kernel with logdevs := kernel.logdevs.put req.minor req } := by
  unfold logdevCreate at created
  split at created
  · contradiction
  · rename_i valid
    split at created
    · contradiction
    · rename_i free
      split at created
      · contradiction
      · exact ⟨by simpa using valid, by simpa using free,
          (Except.ok.inj created).symm⟩

theorem logdevCreate_blockLayer
    (created : logdevCreate blockLayer req kernel = .ok after) :
    blockLayer = none := by
  unfold logdevCreate at created
  split at created
  · cases created
  · split at created
    · cases created
    · split at created
      · cases created
      · rfl

theorem logdevDestroy_ok
    (destroyed : logdevDestroy minor kernel = .ok after) :
    (kernel.logdevs.get minor).isSome = true ∧
      after = mapClearMinor minor
        { kernel with logdevs := kernel.logdevs.clear minor } := by
  unfold logdevDestroy at destroyed
  split at destroyed
  · contradiction
  · split at destroyed
    · contradiction
    · rename_i present
      exact ⟨by simpa [Option.isSome_iff_ne_none] using present,
        (Except.ok.inj destroyed).symm⟩

/-- What `MAP_ADD` checks. -/
structure MapAddChecks (kernel : KernelState) (entry : MapEntry) : Prop where
  nonempty : entry.lengthSectors ≠ 0
  physDev : entry.physDev.chars ≠ []
  live : logdevExists kernel entry.logicalMinor = true
  fresh : kernel.maps.rows.any (mapHasKey entry) = false
  room : kernel.maps.firstFree.isSome = true

theorem mapAdd_eq_ok_iff :
    mapAdd entry kernel = .ok after ↔ MapAddChecks kernel entry ∧
      ∃ slot, kernel.maps.firstFree = some slot ∧
        after = { kernel with maps := kernel.maps.put slot entry } := by
  constructor
  · intro added
    unfold mapAdd at added
    split at added
    · contradiction
    · rename_i filled
      split at added
      · contradiction
      · rename_i present
        split at added
        · contradiction
        · rename_i unused
          split at added
          · contradiction
          · rename_i slot free
            obtain ⟨nonempty, physDev⟩ := not_or.mp filled
            refine ⟨⟨nonempty, physDev, by simpa using present,
              Bool.eq_false_iff.mpr unused, ?_⟩, slot, free,
              (Except.ok.inj added).symm⟩
            rw [free]
            rfl
  · rintro ⟨checks, slot, free, rfl⟩
    simp [mapAdd, checks.nonempty, checks.physDev, checks.live, checks.fresh,
      free]

theorem mapAdd_ok (added : mapAdd entry kernel = .ok after) :
    (kernel.logdevs.get entry.logicalMinor).isSome = true ∧
      kernel.maps.rows.any (mapHasKey entry) = false ∧
      ∃ slot, kernel.maps.firstFree = some slot ∧
        after = { kernel with maps := kernel.maps.put slot entry } := by
  obtain ⟨checks, slot, free, final⟩ := mapAdd_eq_ok_iff.mp added
  have live := checks.live
  simp only [logdevExists, Bool.and_eq_true] at live
  exact ⟨live.2, checks.fresh, slot, free, final⟩

theorem mapDel_ok (deleted : mapDel entry kernel = .ok after) :
    ∃ slot, kernel.maps.findSlot (mapHasKey entry) = some slot ∧
      after = { kernel with maps := kernel.maps.clear slot } := by
  unfold mapDel at deleted
  split at deleted
  · contradiction
  · rename_i slot found
    exact ⟨slot, found, (Except.ok.inj deleted).symm⟩

theorem logdevCreate_sameMinor
    (created : logdevCreate blockLayer req kernel = .ok after)
    (different : req.minor ≠ other) : SameMinor other kernel after := by
  obtain ⟨_, _, rfl⟩ := logdevCreate_ok created
  exact ⟨SlotTable.get_put_other different, rfl⟩

theorem mapClearMinor_rows :
    (mapClearMinor minor kernel).maps.rows =
      kernel.maps.rows.filter fun entry => !mapHasMinor minor entry :=
  SlotTable.rows_eraseWhere _ _

theorem logdevDestroy_sameMinor
    (destroyed : logdevDestroy minor kernel = .ok after)
    (different : minor ≠ other) : SameMinor other kernel after := by
  obtain ⟨_, rfl⟩ := logdevDestroy_ok destroyed
  refine ⟨SlotTable.get_clear_other different, ?_⟩
  rw [mapClearMinor_rows, List.filter_filter]
  refine List.filter_congr fun entry _ => ?_
  by_cases same : entry.logicalMinor = other
  · simp [mapHasMinor, same, different.symm]
  · simp [mapHasMinor, same]

theorem mapAdd_sameMinor (added : mapAdd entry kernel = .ok after)
    (different : entry.logicalMinor ≠ other) :
    SameMinor other kernel after := by
  obtain ⟨_, _, slot, free, rfl⟩ := mapAdd_ok added
  obtain ⟨bound, isFree⟩ := SlotTable.get_firstFree free
  exact ⟨rfl, SlotTable.filter_put_of_not bound isFree
    (by simp [mapHasMinor, different])⟩

theorem mapDel_sameMinor (deleted : mapDel entry kernel = .ok after)
    (different : entry.logicalMinor ≠ other) :
    SameMinor other kernel after := by
  obtain ⟨slot, found, rfl⟩ := mapDel_ok deleted
  obtain ⟨row, active, keyed⟩ := SlotTable.get_findSlot found
  refine ⟨rfl, SlotTable.filter_clear_of_not active ?_⟩
  simp only [mapHasKey, Bool.and_eq_true, decide_eq_true_eq] at keyed
  simp [mapHasMinor, keyed.1, different]

theorem validateLogdevReq_minor (valid : validateLogdevReq req = true) :
    req.minor < maxLogdevs := by
  unfold validateLogdevReq at valid
  simp only [Bool.and_eq_true] at valid
  exact of_decide_eq_true valid.1.1.1.1.1.1.1

theorem logdevCreate_owned (owned : MapsOwned kernel)
    (created : logdevCreate blockLayer req kernel = .ok after) :
    MapsOwned after := by
  obtain ⟨valid, _, rfl⟩ := logdevCreate_ok created
  intro entry member
  by_cases same : req.minor = entry.logicalMinor
  · rw [← same, SlotTable.get_put_self (validateLogdevReq_minor valid)]
    rfl
  · rw [SlotTable.get_put_other same]
    exact owned entry member

theorem logdevDestroy_owned (owned : MapsOwned kernel)
    (destroyed : logdevDestroy minor kernel = .ok after) :
    MapsOwned after := by
  obtain ⟨_, rfl⟩ := logdevDestroy_ok destroyed
  intro entry member
  rw [mapClearMinor_rows] at member
  obtain ⟨old, kept⟩ := List.mem_filter.mp member
  have different : minor ≠ entry.logicalMinor := by
    rintro rfl
    simp [mapHasMinor] at kept
  have present := owned entry old
  rwa [← SlotTable.get_clear_other different] at present

theorem mapAdd_owned (owned : MapsOwned kernel)
    (added : mapAdd entry kernel = .ok after) : MapsOwned after := by
  obtain ⟨present, _, slot, free, rfl⟩ := mapAdd_ok added
  obtain ⟨bound, isFree⟩ := SlotTable.get_firstFree free
  intro other member
  rcases List.mem_cons.mp
    ((SlotTable.rows_put_perm bound isFree).mem_iff.mp member) with rfl | old
  · exact present
  · exact owned other old

theorem mapDel_owned (owned : MapsOwned kernel)
    (deleted : mapDel entry kernel = .ok after) : MapsOwned after := by
  obtain ⟨slot, found, rfl⟩ := mapDel_ok deleted
  obtain ⟨row, active, _⟩ := SlotTable.get_findSlot found
  intro other member
  exact owned other ((SlotTable.rows_perm_clear active).mem_iff.mpr
    (List.mem_cons_of_mem _ member))

end Invariant

end UbseSsu.Kernel

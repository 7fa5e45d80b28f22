import UbseSsu.Kernel.Tables
import UbseSsu.Library.KeyedSet
import UbseSsu.Library.Transition

/-!
# The ioctls of the ReqShim control device

`ssu_reqshim_ioctl` on the tables, one request after the other, with the two
lookups: `ssu_reqshim_map_query` and `ssu_reqshim_translate_sector`.  The
block layer's answer to a `LOGDEV_CREATE` is part of the request here.
-/

namespace UbseSsu.Kernel

section Lookups

def mapMatchesQuery (logicalMinor : Nat) (logicalSector : UInt64)
    (entry : MapEntry) : Bool :=
  if entry.logicalMinor ≠ logicalMinor ∨ logicalSector < entry.logicalSector
  then false
  else decide (logicalSector - entry.logicalSector < entry.lengthSectors)

def mapQuery (logicalMinor : Nat) (logicalSector : UInt64)
    (kernel : KernelState) : Except Errno MapEntry :=
  match kernel.maps.findRow (mapMatchesQuery logicalMinor logicalSector) with
  | none => .error .enoent
  | some (_, entry) => .ok entry

/-- The extent and the sector on its device. -/
def translateSector (logicalMinor : Nat) (logicalSector : UInt64)
    (kernel : KernelState) : Except Errno (MapEntry × UInt64) :=
  match mapQuery logicalMinor logicalSector kernel with
  | .error errno => .error errno
  | .ok entry =>
      if logicalSector < entry.logicalSector then .error .einval
      else
        let delta := logicalSector - entry.logicalSector
        if entry.lengthSectors ≤ delta ∨
            entry.physSector > 0xFFFFFFFFFFFFFFFF - delta then
          .error .einval
        else .ok (entry, entry.physSector + delta)

end Lookups

inductive Ioctl where
  | logdevCreate (req : LogdevReq) (blockLayer : Option Errno)
  | logdevDestroy (minor : Nat)
  | mapAdd (entry : MapEntry)
  | mapDel (entry : MapEntry)
  | mapQuery (logicalMinor : Nat) (logicalSector : UInt64)
deriving DecidableEq

/-- The answer, with the entry that a query copies back, and the tables. -/
def ioctl (kernel : KernelState) :
    Ioctl → Except Errno (Option MapEntry) × KernelState
  | .logdevCreate req blockLayer =>
      answered (logdevCreate blockLayer req kernel)
  | .logdevDestroy minor => answered (logdevDestroy minor kernel)
  | .mapAdd entry => answered (Kernel.mapAdd entry kernel)
  | .mapDel entry => answered (Kernel.mapDel entry kernel)
  | .mapQuery logicalMinor logicalSector =>
      ((Kernel.mapQuery logicalMinor logicalSector kernel).map some, kernel)
where
  answered : Except Errno KernelState →
      Except Errno (Option MapEntry) × KernelState
    | .ok after => (.ok none, after)
    | .error errno => (.error errno, kernel)

def ioctlStep (kernel : KernelState) (request : Ioctl) : KernelState :=
  (ioctl kernel request).2

section Ranges

variable {entry : MapEntry} {logicalMinor : Nat} {logicalSector : UInt64}
  {kernel : KernelState}

/-- The sectors of an entry, as numbers that do not wrap. -/
structure Covers (entry : MapEntry) (logicalMinor : Nat)
    (logicalSector : UInt64) : Prop where
  minor : entry.logicalMinor = logicalMinor
  start : entry.logicalSector.toNat ≤ logicalSector.toNat
  before : logicalSector.toNat <
    entry.logicalSector.toNat + entry.lengthSectors.toNat

theorem sub_toNat {left right : UInt64} (order : right.toNat ≤ left.toNat) :
    (left - right).toNat = left.toNat - right.toNat :=
  UInt64.toNat_sub_of_le _ _ (UInt64.le_iff_toNat_le.mpr order)

theorem mapMatchesQuery_iff :
    mapMatchesQuery logicalMinor logicalSector entry = true ↔
      Covers entry logicalMinor logicalSector := by
  unfold mapMatchesQuery
  split
  · rename_i outside
    constructor
    · nofun
    · rintro ⟨minor, start, _⟩
      rcases outside with different | earlier
      · exact (different minor).elim
      · have order := UInt64.lt_iff_toNat_lt.mp earlier
        omega
  · rename_i inside
    obtain ⟨minor, start⟩ := not_or.mp inside
    have order : entry.logicalSector.toNat ≤ logicalSector.toNat :=
      Nat.le_of_not_lt fun earlier =>
        start (UInt64.lt_iff_toNat_lt.mpr earlier)
    rw [decide_eq_true_iff, UInt64.lt_iff_toNat_lt, sub_toNat order]
    constructor
    · intro before
      exact ⟨not_not.mp minor, order, by omega⟩
    · intro covered
      have before := covered.before
      omega

theorem mapQuery_error_iff {errno : Errno} :
    mapQuery logicalMinor logicalSector kernel = .error errno ↔
      errno = .enoent ∧ ∀ entry ∈ kernel.maps.rows,
        ¬Covers entry logicalMinor logicalSector := by
  unfold mapQuery
  split
  · rename_i missing
    have uncovered : ∀ entry ∈ kernel.maps.rows,
        ¬Covers entry logicalMinor logicalSector := by
      intro entry member covered
      have skipped := SlotTable.findRow_eq_none_iff.mp missing entry member
      rw [mapMatchesQuery_iff.mpr covered] at skipped
      contradiction
    constructor
    · intro same
      exact ⟨(Except.error.inj same).symm, uncovered⟩
    · rintro ⟨rfl, _⟩
      rfl
  · rename_i found
    obtain ⟨active, covered⟩ := SlotTable.findRow_eq_some found
    constructor
    · nofun
    · rintro ⟨_, uncovered⟩
      exact (uncovered _ (SlotTable.mem_rows_of_get active)
        (mapMatchesQuery_iff.mp covered)).elim

theorem mapQuery_ok
    (found : mapQuery logicalMinor logicalSector kernel = .ok entry) :
    entry ∈ kernel.maps.rows ∧ Covers entry logicalMinor logicalSector := by
  unfold mapQuery at found
  split at found
  · cases found
  · rename_i looked
    cases found
    obtain ⟨active, covered⟩ := SlotTable.findRow_eq_some looked
    exact ⟨SlotTable.mem_rows_of_get active, mapMatchesQuery_iff.mp covered⟩

/-- A covered sector is translated unless its physical sector would wrap. -/
theorem translateSector_eq
    (found : mapQuery logicalMinor logicalSector kernel = .ok entry) :
    translateSector logicalMinor logicalSector kernel =
      if entry.physSector.toNat +
          (logicalSector.toNat - entry.logicalSector.toNat) < 2 ^ 64 then
        .ok (entry,
          entry.physSector + (logicalSector - entry.logicalSector))
      else .error .einval := by
  obtain ⟨_, covered⟩ := mapQuery_ok found
  have start := covered.start
  have before := covered.before
  have difference := sub_toNat start
  have physical := entry.physSector.toNat_lt
  have notEarlier : ¬logicalSector < entry.logicalSector := by
    rw [UInt64.lt_iff_toNat_lt]
    omega
  have inside : ¬entry.lengthSectors ≤
      logicalSector - entry.logicalSector := by
    rw [UInt64.le_iff_toNat_le, difference]
    omega
  have limit : (0xFFFFFFFFFFFFFFFF - (logicalSector - entry.logicalSector) :
      UInt64).toNat =
        2 ^ 64 - 1 - (logicalSector.toNat - entry.logicalSector.toNat) := by
    have whole : (0xFFFFFFFFFFFFFFFF : UInt64).toNat = 2 ^ 64 - 1 := rfl
    have sector := logicalSector.toNat_lt
    rw [sub_toNat, whole, difference]
    omega
  have wraps : (entry.physSector >
        0xFFFFFFFFFFFFFFFF - (logicalSector - entry.logicalSector)) ↔
      ¬entry.physSector.toNat +
        (logicalSector.toNat - entry.logicalSector.toNat) < 2 ^ 64 := by
    have sector := logicalSector.toNat_lt
    rw [gt_iff_lt, UInt64.lt_iff_toNat_lt, limit]
    omega
  simp only [translateSector, found, if_neg notEarlier, inside, false_or,
    wraps, ite_not]

end Ranges

section Soundness

/-- What a map is searched by. -/
def MapEntry.key (entry : MapEntry) : Nat × UInt64 :=
  (entry.logicalMinor, entry.logicalSector)

/-- No key is mapped twice, and every map belongs to a live device. -/
structure TablesSound (kernel : KernelState) : Prop where
  distinct : SlotTable.KeysDistinct MapEntry.key kernel.maps
  owned : MapsOwned kernel

theorem tablesSound_loaded : TablesSound .loaded :=
  ⟨.empty _ _, mapsOwned_loaded⟩

variable {kernel after : KernelState} {entry : MapEntry} {minor : Nat}

theorem mapHasKey_iff {key row : MapEntry} :
    mapHasKey key row = true ↔ row.key = key.key := by
  simp [mapHasKey, MapEntry.key]

theorem TablesSound.logdevCreate (sound : TablesSound kernel)
    {blockLayer : Option Errno} {req : LogdevReq}
    (created : logdevCreate blockLayer req kernel = .ok after) :
    TablesSound after := by
  refine ⟨?_, logdevCreate_owned sound.owned created⟩
  obtain ⟨_, _, rfl⟩ := logdevCreate_ok created
  exact sound.distinct

theorem TablesSound.logdevDestroy (sound : TablesSound kernel)
    (destroyed : logdevDestroy minor kernel = .ok after) :
    TablesSound after := by
  refine ⟨?_, logdevDestroy_owned sound.owned destroyed⟩
  obtain ⟨_, rfl⟩ := logdevDestroy_ok destroyed
  exact sound.distinct.eraseWhere _

theorem mapAdd_fresh (added : mapAdd entry kernel = .ok after) :
    ∀ old ∈ kernel.maps.rows, old.key ≠ entry.key := by
  intro old member same
  have unused := (mapAdd_ok added).2.1
  have skipped := List.any_eq_false.mp unused old member
  exact skipped (mapHasKey_iff.mpr same)

theorem TablesSound.mapAdd (sound : TablesSound kernel)
    (added : mapAdd entry kernel = .ok after) : TablesSound after := by
  refine ⟨?_, mapAdd_owned sound.owned added⟩
  have fresh := mapAdd_fresh added
  obtain ⟨_, _, slot, free, rfl⟩ := mapAdd_ok added
  obtain ⟨bound, isFree⟩ := SlotTable.get_firstFree free
  exact sound.distinct.put bound isFree fresh

theorem TablesSound.mapDel (sound : TablesSound kernel)
    (deleted : mapDel entry kernel = .ok after) : TablesSound after := by
  refine ⟨?_, mapDel_owned sound.owned deleted⟩
  obtain ⟨slot, found, rfl⟩ := mapDel_ok deleted
  obtain ⟨row, active, _⟩ := SlotTable.get_findSlot found
  exact sound.distinct.clear active

theorem TablesSound.step (sound : TablesSound kernel) (request : Ioctl) :
    TablesSound (ioctlStep kernel request) := by
  have answered : ∀ {result : Except Errno KernelState},
      (∀ after, result = .ok after → TablesSound after) →
        TablesSound (ioctl.answered kernel result).2 := by
    intro result preserved
    cases result with
    | ok after => exact preserved after rfl
    | error errno => exact sound
  cases request with
  | logdevCreate req blockLayer =>
      exact answered fun _ created => sound.logdevCreate created
  | logdevDestroy minor =>
      exact answered fun _ destroyed => sound.logdevDestroy destroyed
  | mapAdd entry => exact answered fun _ added => sound.mapAdd added
  | mapDel entry => exact answered fun _ deleted => sound.mapDel deleted
  | mapQuery logicalMinor logicalSector => exact sound

theorem TablesSound.run (sound : TablesSound kernel) (requests : List Ioctl) :
    TablesSound (Transition.run ioctlStep kernel requests) :=
  Transition.run_invariant_always TablesSound
    (fun _ request sound => sound.step request) sound requests

theorem tablesSound_run (requests : List Ioctl) :
    TablesSound (Transition.run ioctlStep .loaded requests) :=
  tablesSound_loaded.run requests

end Soundness

theorem disk0_fits : "disk0".toList.length ≤ diskNameLen := by
  decide

theorem nvme0n1_fits : "/dev/nvme0n1".toList.length ≤ 64 := by
  decide

def eightSectors : LogdevReq :=
  { minor := 0
    capacitySectors := 8
    logicalBlockSize := 512
    diskName := ⟨"disk0".toList, disk0_fits⟩ }

def eightSectorMap : MapEntry :=
  { logicalMinor := 0
    logicalSector := 0
    lengthSectors := 8
    physDev := ⟨"/dev/nvme0n1".toList, nvme0n1_fits⟩
    nsid := 1
    physSector := 0 }

end UbseSsu.Kernel

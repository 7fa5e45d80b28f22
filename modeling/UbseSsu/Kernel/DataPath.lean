import UbseSsu.Kernel.Ioctls
import UbseSsu.Library.Regions

/-!
# The data path of the ReqShim kernel module

`ssu_reqshim_submit_bvec` cuts a segment of a request into chunks, each inside
one mapped extent.  The tables are well formed when the extents of a minor are
apart, lie inside its capacity and end before the last physical sector; then
a sector has one translation, and the end address that the submission computes
agrees with the offset that the translation computes.  `MAP_ADD` compares
keys only, so the tables stay well formed exactly as long as its callers do.
-/

namespace UbseSsu.Kernel

inductive BlkStatus where
  | ok
  | resource
  | notsupp
  | ioerr
deriving DecidableEq

def errnoToBlkStatus : Errno → BlkStatus
  | .enomem | .enospc => .resource
  | .eopnotsupp => .notsupp
  | _ => .ioerr

section Submission

def uintMax : Nat := 2 ^ 32 - 1

/-- `entry_end`, which wraps at `2 ^ 64`. -/
def MapEntry.entryEnd (entry : MapEntry) : UInt64 :=
  entry.logicalSector + entry.lengthSectors

/-- The range check between the translation and the chunk. -/
def beyondEntry (entry : MapEntry) (logicalSector : UInt64) : Bool :=
  entry.entryEnd ≤ logicalSector

def chunkBytes (entry : MapEntry) (logicalSector : UInt64)
    (bytesLeft : Nat) : Nat :=
  let sectorsLeft := (entry.entryEnd - logicalSector).toNat
  let maxBytes :=
    if uintMax / sectorSize < sectorsLeft then uintMax / sectorSize * sectorSize
    else sectorsLeft * sectorSize
  min bytesLeft maxBytes / sectorSize * sectorSize

/-- One round of `ssu_reqshim_submit_bvec`: the extent, the physical sector
and the bytes of the next chunk. -/
def nextChunk (minor : Nat) (logicalSector : UInt64) (bytesLeft : Nat)
    (kernel : KernelState) : Except BlkStatus (MapEntry × UInt64 × Nat) :=
  match translateSector minor logicalSector kernel with
  | .error errno => .error (errnoToBlkStatus errno)
  | .ok (entry, physSector) =>
      if beyondEntry entry logicalSector then .error .ioerr
      else
        let chunk := chunkBytes entry logicalSector bytesLeft
        if chunk = 0 then .error .ioerr else .ok (entry, physSector, chunk)

theorem nextChunk_size {minor bytesLeft chunk : Nat}
    {logicalSector physSector : UInt64} {kernel : KernelState}
    {entry : MapEntry}
    (cut : nextChunk minor logicalSector bytesLeft kernel =
      .ok (entry, physSector, chunk)) :
    0 < chunk ∧ chunk ≤ bytesLeft := by
  unfold nextChunk at cut
  split at cut
  · cases cut
  · split at cut
    · cases cut
    · simp only at cut
      split at cut
      · cases cut
      · rename_i nonzero
        cases cut
        refine ⟨Nat.pos_of_ne_zero nonzero, ?_⟩
        exact (Nat.div_mul_le_self _ _).trans (min_le_left _ _)

end Submission

section WellFormed

def MapEntry.logicalRange (entry : MapEntry) : Regions.Region Nat :=
  { device := entry.logicalMinor
    start := entry.logicalSector.toNat
    length := entry.lengthSectors.toNat }

/-- Inside the capacity of a live device, and no physical sector wraps. -/
structure MapFits (kernel : KernelState) (entry : MapEntry) : Prop where
  logical : ∃ req, kernel.logdevs.get entry.logicalMinor = some req ∧
    entry.logicalSector.toNat + entry.lengthSectors.toNat ≤
      req.capacitySectors.toNat
  physical : entry.physSector.toNat + entry.lengthSectors.toNat < 2 ^ 64

structure MappingsSafe (kernel : KernelState) : Prop where
  apart : Regions.Isolated (kernel.maps.rows.map MapEntry.logicalRange)
  fits : ∀ entry ∈ kernel.maps.rows, MapFits kernel entry
  oneTranslation : ∀ (minor : Nat) (sector : UInt64),
    ∀ first ∈ kernel.maps.rows, ∀ second ∈ kernel.maps.rows,
      Covers first minor sector → Covers second minor sector → first = second
  submitAgrees : ∀ (minor : Nat) (sector physSector : UInt64)
    (entry : MapEntry),
    translateSector minor sector kernel = .ok (entry, physSector) →
      beyondEntry entry sector = false

/-- The part of `MappingsSafe` that the rest follows from. -/
structure MappingsFit (kernel : KernelState) : Prop where
  apart : Regions.Isolated (kernel.maps.rows.map MapEntry.logicalRange)
  fits : ∀ entry ∈ kernel.maps.rows, MapFits kernel entry

theorem covers_logicalRange {entry : MapEntry} {minor : Nat}
    {sector : UInt64} (covered : Covers entry minor sector) :
    entry.logicalRange.Covers minor sector.toNat :=
  ⟨covered.minor, covered.start, covered.before⟩

theorem not_apart_of_covers {first second : MapEntry} {minor : Nat}
    {sector : UInt64} (left : Covers first minor sector)
    (right : Covers second minor sector) :
    ¬Regions.Apart first.logicalRange second.logicalRange := by
  intro apart
  have leftRange := covers_logicalRange left
  have rightRange := covers_logicalRange right
  have sides := apart (leftRange.1.trans rightRange.1.symm)
  have leftBounds := leftRange.2
  have rightBounds := rightRange.2
  omega

theorem MapFits.entryEnd {kernel : KernelState} {entry : MapEntry}
    (fits : MapFits kernel entry) :
    entry.entryEnd.toNat =
      entry.logicalSector.toNat + entry.lengthSectors.toNat := by
  obtain ⟨req, _, inside⟩ := fits.logical
  have capacity := req.capacitySectors.toNat_lt
  rw [MapEntry.entryEnd, UInt64.toNat_add, Nat.mod_eq_of_lt]
  omega

theorem translateSector_ok {minor : Nat} {sector physSector : UInt64}
    {kernel : KernelState} {entry : MapEntry}
    (translated : translateSector minor sector kernel =
      .ok (entry, physSector)) :
    mapQuery minor sector kernel = .ok entry := by
  unfold translateSector at translated
  split at translated
  · cases translated
  · rename_i found
    split at translated
    · cases translated
    · simp only at translated
      split at translated
      · cases translated
      · cases translated
        exact found

theorem MappingsFit.safe {kernel : KernelState} (fit : MappingsFit kernel) :
    MappingsSafe kernel := by
  refine ⟨fit.apart, fit.fits, ?_, ?_⟩
  · intro minor sector first firstMember second secondMember left right
    by_contra different
    have symmetric : Std.Symm fun first second : MapEntry =>
        Regions.Apart first.logicalRange second.logicalRange :=
      ⟨fun _ _ => Regions.Apart.symm⟩
    have separated := List.pairwise_map.mp fit.apart
    apply not_apart_of_covers left right
    exact separated.forall firstMember secondMember different
  · intro minor sector physSector entry translated
    obtain ⟨member, covered⟩ := mapQuery_ok (translateSector_ok translated)
    have ending := (fit.fits entry member).entryEnd
    apply decide_eq_false
    rw [UInt64.le_iff_toNat_le, ending]
    exact Nat.not_le_of_lt covered.before

theorem mappingsSafe_iff {kernel : KernelState} :
    MappingsSafe kernel ↔ MappingsFit kernel :=
  ⟨fun safe => ⟨safe.apart, safe.fits⟩, MappingsFit.safe⟩

/-- The next chunk of a sector that has a translation is not empty and stays
inside its extent. -/
theorem nextChunk_of_translated {kernel : KernelState} {minor bytesLeft : Nat}
    {sector physSector : UInt64} {entry : MapEntry}
    (ending : entry.entryEnd.toNat =
      entry.logicalSector.toNat + entry.lengthSectors.toNat)
    (translated : translateSector minor sector kernel =
      .ok (entry, physSector))
    (left : 0 < bytesLeft) (aligned : sectorSize ∣ bytesLeft) :
    ∃ sectors, 0 < sectors ∧ sectors * sectorSize ≤ bytesLeft ∧
      sector.toNat + sectors ≤
        entry.logicalSector.toNat + entry.lengthSectors.toNat ∧
      nextChunk minor sector bytesLeft kernel =
        .ok (entry, physSector, sectors * sectorSize) := by
  obtain ⟨_, covered⟩ := mapQuery_ok (translateSector_ok translated)
  have before := covered.before
  have inside : beyondEntry entry sector = false := by
    apply decide_eq_false
    rw [UInt64.le_iff_toNat_le, ending]
    exact Nat.not_le_of_lt before
  have sectorsLeft : (entry.entryEnd - sector).toNat =
      entry.logicalSector.toNat + entry.lengthSectors.toNat -
        sector.toNat := by
    rw [sub_toNat (by omega), ending]
  have many : 0 < uintMax / sectorSize := by decide
  obtain ⟨wanted, rfl⟩ := aligned
  obtain ⟨sectors, cut⟩ : ∃ sectors, sectors =
      min wanted (min (uintMax / sectorSize)
        (entry.entryEnd - sector).toNat) := ⟨_, rfl⟩
  have sized : chunkBytes entry sector (sectorSize * wanted) =
      sectors * sectorSize := by
    unfold chunkBytes
    simp only [sectorSize] at cut ⊢
    split <;> omega
  have nonempty : 0 < sectors := by
    simp only [sectorSize] at left cut many
    omega
  refine ⟨sectors, nonempty, ?_, ?_, ?_⟩
  · rw [Nat.mul_comm]
    exact Nat.mul_le_mul_left _ (cut ▸ min_le_left _ _)
  · omega
  · have nonzero : sectors * sectorSize ≠ 0 := by
      simp only [sectorSize]
      omega
    simp only [nextChunk, translated, inside, Bool.false_eq_true, if_false,
      sized, if_neg nonzero]

end WellFormed

section Runs

variable {kernel after : KernelState} {entry : MapEntry}

/-- What a caller of `MAP_ADD` has to keep to for the entries that the module
takes: the range lies inside the capacity, wraps nowhere and meets no other
range of the minor. -/
def KeepsToTheDevice (kernel : KernelState) : Ioctl → Prop
  | .mapAdd entry => MapAddChecks kernel entry →
      MapFits kernel entry ∧ ∀ other ∈ kernel.maps.rows,
        Regions.Apart entry.logicalRange other.logicalRange
  | _ => True

theorem MapFits.of_logdevs {before : KernelState}
    (fits : MapFits before entry)
    (same : after.logdevs.get entry.logicalMinor =
      before.logdevs.get entry.logicalMinor) : MapFits after entry := by
  obtain ⟨req, live, inside⟩ := fits.logical
  exact ⟨⟨req, same.trans live, inside⟩, fits.physical⟩

theorem mappingsFit_loaded : MappingsFit .loaded := by
  have none : KernelState.loaded.maps.rows = [] := SlotTable.rows_empty
  constructor
  · rw [none]
    exact List.Pairwise.nil
  · intro entry member
    rw [none] at member
    cases member

/-- Fewer maps on devices that stay as they are. -/
theorem MappingsFit.of_sublist (fit : MappingsFit kernel)
    (fewer : after.maps.rows.Sublist kernel.maps.rows)
    (same : ∀ entry ∈ after.maps.rows,
      after.logdevs.get entry.logicalMinor =
        kernel.logdevs.get entry.logicalMinor) : MappingsFit after := by
  constructor
  · exact fit.apart.sublist (fewer.map _)
  · intro entry member
    have before := fit.fits entry (fewer.subset member)
    exact before.of_logdevs (same entry member)

theorem MappingsFit.logdevCreate (fit : MappingsFit kernel)
    {blockLayer : Option Errno} {req : LogdevReq}
    (created : logdevCreate blockLayer req kernel = .ok after) :
    MappingsFit after := by
  obtain ⟨_, free, rfl⟩ := logdevCreate_ok created
  refine fit.of_sublist (List.Sublist.refl kernel.maps.rows) ?_
  intro entry member
  apply SlotTable.get_put_other
  intro same
  obtain ⟨old, live, _⟩ := (fit.fits entry member).logical
  rw [← same, free] at live
  cases live

theorem MappingsFit.logdevDestroy (fit : MappingsFit kernel) {minor : Nat}
    (destroyed : logdevDestroy minor kernel = .ok after) :
    MappingsFit after := by
  obtain ⟨_, rfl⟩ := logdevDestroy_ok destroyed
  apply fit.of_sublist
  · rw [mapClearMinor_rows]
    exact List.filter_sublist
  · intro entry member
    rw [mapClearMinor_rows] at member
    have kept := (List.mem_filter.mp member).2
    apply SlotTable.get_clear_other
    rintro rfl
    simp [mapHasMinor] at kept

theorem MappingsFit.mapDel (fit : MappingsFit kernel)
    (deleted : mapDel entry kernel = .ok after) : MappingsFit after := by
  obtain ⟨slot, found, rfl⟩ := mapDel_ok deleted
  obtain ⟨row, active, _⟩ := SlotTable.get_findSlot found
  exact fit.of_sublist (SlotTable.rows_clear_sublist active) fun _ _ => rfl

/-- `MAP_ADD` keeps the tables well formed exactly when the new entry fits. -/
theorem mapAdd_mappingsFit_iff (fit : MappingsFit kernel)
    (added : mapAdd entry kernel = .ok after) :
    MappingsFit after ↔ MapFits kernel entry ∧
      ∀ other ∈ kernel.maps.rows,
        Regions.Apart entry.logicalRange other.logicalRange := by
  obtain ⟨_, _, slot, free, rfl⟩ := mapAdd_ok added
  obtain ⟨bound, isFree⟩ := SlotTable.get_firstFree free
  have grown : (kernel.maps.put slot entry).rows.Perm
      (entry :: kernel.maps.rows) := SlotTable.rows_put_perm bound isFree
  have isolated := Regions.isolated_perm (grown.map MapEntry.logicalRange)
  constructor
  · intro safe
    have separated := List.pairwise_map.mp (isolated.mp safe.apart)
    constructor
    · have fits := safe.fits entry (grown.mem_iff.mpr List.mem_cons_self)
      exact fits.of_logdevs rfl
    · exact (List.pairwise_cons.mp separated).1
  · rintro ⟨fits, separated⟩
    constructor
    · apply isolated.mpr
      apply List.pairwise_map.mpr
      exact List.pairwise_cons.mpr
        ⟨separated, List.pairwise_map.mp fit.apart⟩
    · intro other member
      rcases List.mem_cons.mp (grown.mem_iff.mp member) with rfl | old
      · exact fits.of_logdevs rfl
      · exact (fit.fits other old).of_logdevs rfl

theorem mappingsFit_step_iff (fit : MappingsFit kernel) (request : Ioctl) :
    KeepsToTheDevice kernel request ↔
      MappingsFit (ioctlStep kernel request) := by
  have answered : ∀ {result : Except Errno KernelState},
      (∀ after, result = .ok after → MappingsFit after) →
        MappingsFit (ioctl.answered kernel result).2 := by
    intro result preserved
    cases result with
    | ok after => exact preserved after rfl
    | error errno => exact fit
  cases request with
  | logdevCreate req blockLayer =>
      exact iff_of_true trivial
        (answered fun _ created => fit.logdevCreate created)
  | logdevDestroy minor =>
      exact iff_of_true trivial
        (answered fun _ destroyed => fit.logdevDestroy destroyed)
  | mapDel entry =>
      exact iff_of_true trivial (answered fun _ deleted => fit.mapDel deleted)
  | mapQuery logicalMinor logicalSector => exact iff_of_true trivial fit
  | mapAdd entry =>
      simp only [KeepsToTheDevice, ioctlStep, ioctl]
      cases result : mapAdd entry kernel with
      | ok after =>
          obtain ⟨checks, _⟩ := mapAdd_eq_ok_iff.mp result
          apply Iff.trans _ (mapAdd_mappingsFit_iff fit result).symm
          exact ⟨fun keeps => keeps checks, fun keeps _ => keeps⟩
      | error errno =>
          apply iff_of_true _ fit
          intro checks
          obtain ⟨slot, free⟩ := Option.isSome_iff_exists.mp checks.room
          have added := mapAdd_eq_ok_iff.mpr ⟨checks, slot, free, rfl⟩
          rw [result] at added
          cases added

/-- Well-formed mappings throughout a run: exactly when no `MAP_ADD` that the
module takes leaves its device. -/
theorem mappings_safe_throughout (requests : List Ioctl) :
    (∀ done later, requests = done ++ later →
        MappingsSafe (Transition.run ioctlStep .loaded done)) ↔
      Transition.Admissible ioctlStep KeepsToTheDevice .loaded requests := by
  simp only [mappingsSafe_iff]
  exact Transition.invariant_throughout_iff MappingsFit
    (fun _ request fit => mappingsFit_step_iff fit request)
    mappingsFit_loaded requests

def sixteenSectors : MapEntry :=
  { logicalMinor := 0
    logicalSector := 0
    lengthSectors := 16
    physDev := ⟨"/dev/nvme0n1".toList, nvme0n1_fits⟩
    nsid := 1
    physSector := 0 }

theorem map_past_the_capacity :
    ¬MappingsSafe (Transition.run ioctlStep .loaded
      [.logdevCreate eightSectors none, .mapAdd sixteenSectors]) := by
  intro safe
  obtain ⟨req, live, inside⟩ :=
    (safe.fits sixteenSectors (by decide +kernel)).logical
  have device : (Transition.run ioctlStep .loaded
      [.logdevCreate eightSectors none, .mapAdd sixteenSectors]).logdevs.get 0 =
        some eightSectors := by
    decide +kernel
  have same : eightSectors = req := Option.some.inj (device.symm.trans live)
  rw [← same] at inside
  exact absurd inside (by decide)

end Runs

end UbseSsu.Kernel

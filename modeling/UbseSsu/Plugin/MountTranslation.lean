import UbseSsu.Library.Grouping
import UbseSsu.Library.Tiling
import UbseSsu.Plugin.MountAccepted
import UbseSsu.Plugin.MountSequence

/-!
# Sectors after a mount

From the byte extents of a mount to the sectors of the kernel module: when the
extents tile the device, every sector below the capacity has one translation,
on the extent that holds it, and no other device notices.
-/

namespace UbseSsu.Reqshim

open Kernel

def MapSpec.span (spec : MapSpec) : Tiling.Span :=
  (spec.logicalOffset.toNat, spec.length.toNat)

/-- The extent holds the first byte of the sector. -/
def MapSpec.Holds (spec : MapSpec) (sector : UInt64) : Prop :=
  Tiling.Span.covers (512 * sector.toNat) spec.span = true

/-- `phys_sector + (s - logical_offset / 512)` -/
def MapSpec.physOf (spec : MapSpec) (sector : UInt64) : Nat :=
  spec.physSector.toNat + (sector.toNat - spec.logicalOffset.toNat / 512)

/-- The sector is translated by the entry of the one extent that holds it. -/
structure TranslatedBy (minor : Nat) (specs : List MapSpec)
    (kernel : KernelState) (sector : UInt64) (spec : MapSpec) : Prop where
  member : spec ∈ specs
  holds : spec.Holds sector
  only : ∀ other ∈ specs, other.Holds sector → other = spec
  answer : ∃ entry physSector,
    translateSector minor sector kernel = .ok (entry, physSector) ∧
      EntryOf minor spec entry ∧ physSector.toNat = spec.physOf sector

structure Translates (minor : Nat) (specs : List MapSpec) (size : Nat)
    (before after : KernelState) : Prop where
  capacity : ∃ req, after.logdevs.get minor = some req ∧
    req.capacitySectors.toNat = size / 512
  inside : ∀ sector : UInt64, sector.toNat < size / 512 →
    ∃ spec, TranslatedBy minor specs after sector spec
  outside : ∀ sector : UInt64, size / 512 ≤ sector.toNat →
    translateSector minor sector after = .error .enoent
  others : ∀ other ≠ minor, ∀ sector,
    translateSector other sector after = translateSector other sector before

section OtherMinors

variable {before after : KernelState} {minor : Nat} {sector : UInt64}

theorem mapQuery_eq_find (minor : Nat) (sector : UInt64)
    (kernel : KernelState) :
    mapQuery minor sector kernel =
      match kernel.maps.rows.find? (mapMatchesQuery minor sector) with
      | none => .error .enoent
      | some entry => .ok entry := by
  rw [← SlotTable.findRow_map_snd, mapQuery]
  cases kernel.maps.findRow (mapMatchesQuery minor sector) <;> rfl

theorem mapQuery_of_sameMinor (same : SameMinor minor before after) :
    mapQuery minor sector after = mapQuery minor sector before := by
  have only : ∀ rows : List MapEntry,
      rows.find? (mapMatchesQuery minor sector) =
        (rows.filter (mapHasMinor minor)).find?
          (mapMatchesQuery minor sector) := by
    intro rows
    rw [List.find?_filter]
    congr 1
    funext entry
    by_cases own : entry.logicalMinor = minor
    · simp [mapHasMinor, own]
    · simp [mapMatchesQuery, mapHasMinor, own]
  rw [mapQuery_eq_find, mapQuery_eq_find, only, same.maps, ← only]

theorem translateSector_of_sameMinor (same : SameMinor minor before after) :
    translateSector minor sector after =
      translateSector minor sector before := by
  simp only [translateSector, mapQuery_of_sameMinor same]

end OtherMinors

section Inside

variable {minor : Nat} {specs : List MapSpec} {entries : List MapEntry}
  {spec : MapSpec} {entry : MapEntry} {sector : UInt64}

/-- In sectors the entry covers what the extent holds in bytes. -/
theorem covers_iff_holds (fits : SpecFits spec)
    (made : EntryOf minor spec entry) :
    Covers entry minor sector ↔ spec.Holds sector := by
  obtain ⟨first, offset⟩ := fits.offset
  obtain ⟨count, length⟩ := fits.length
  have size : sectorSize.toNat = 512 := rfl
  have start : entry.logicalSector.toNat = first := by
    rw [made.sector, UInt64.toNat_div, size, offset]
    omega
  have extent : entry.lengthSectors.toNat = count := by
    rw [made.lengthSectors, UInt64.toNat_div, size, length]
    omega
  rw [MapSpec.Holds, Tiling.Span.covers_iff]
  simp only [MapSpec.span, offset, length]
  constructor
  · rintro ⟨_, low, high⟩
    omega
  · intro bounds
    exact ⟨made.minor, by omega, by omega⟩

variable {before after : KernelState} {req : LogdevReq}

/-- The maps of the new minor are the entries of the mount. -/
theorem Mounted.mem_iff
    (mounted : Mounted minor specs entries req before after)
    (owned : MapsOwned before) (own : entry.logicalMinor = minor) :
    entry ∈ after.maps.rows ↔ entry ∈ entries := by
  rw [mounted.maps.mem_iff, List.mem_append]
  constructor
  · rintro (new | old)
    · exact new
    · have live := owned entry old
      rw [own, mounted.free] at live
      cases live
  · exact Or.inl

theorem Mounted.query (mounted : Mounted minor specs entries req before after)
    (sector : UInt64) (owned : MapsOwned before) :
    (∀ entry, mapQuery minor sector after = .ok entry →
      ∃ spec ∈ specs, EntryOf minor spec entry ∧ spec.Holds sector) ∧
    (mapQuery minor sector after = .error .enoent ↔
      ∀ spec ∈ specs, ¬spec.Holds sector) := by
  have built := buildEntries_ok mounted.built
  have fits := (buildEntries_checked mounted.built).1
  constructor
  · intro entry found
    obtain ⟨member, covered⟩ := mapQuery_ok found
    have listed := (mounted.mem_iff owned covered.minor).mp member
    obtain ⟨spec, given, made⟩ := Grouping.exists_of_forall₂ built.flip listed
    exact ⟨spec, given, made,
      (covers_iff_holds (fits spec given) made).mp covered⟩
  · rw [mapQuery_error_iff]
    constructor
    · rintro ⟨_, uncovered⟩ spec given holds
      obtain ⟨entry, listed, made⟩ := Grouping.exists_of_forall₂ built given
      apply uncovered entry
      · exact (mounted.mem_iff owned made.minor).mpr listed
      · exact (covers_iff_holds (fits spec given) made).mpr holds
    · intro missed
      refine ⟨rfl, ?_⟩
      intro entry member covered
      have listed := (mounted.mem_iff owned covered.minor).mp member
      obtain ⟨spec, given, made⟩ := Grouping.exists_of_forall₂ built.flip listed
      exact missed spec given
        ((covers_iff_holds (fits spec given) made).mp covered)

theorem translate_of_query {kernel : KernelState} (fits : SpecFits spec)
    (made : EntryOf minor spec entry) (holds : spec.Holds sector)
    (noWrap : spec.physSector.toNat + spec.length.toNat / 512 ≤ 2 ^ 64)
    (found : mapQuery minor sector kernel = .ok entry) :
    ∃ physSector, translateSector minor sector kernel =
        .ok (entry, physSector) ∧ physSector.toNat = spec.physOf sector := by
  have covered := (covers_iff_holds fits made).mpr holds
  have start := covered.start
  have before := covered.before
  have size : sectorSize.toNat = 512 := rfl
  have offset : entry.logicalSector.toNat = spec.logicalOffset.toNat / 512 := by
    rw [made.sector, UInt64.toNat_div, size]
  have length : entry.lengthSectors.toNat = spec.length.toNat / 512 := by
    rw [made.lengthSectors, UInt64.toNat_div, size]
  have inside : entry.physSector.toNat +
      (sector.toNat - entry.logicalSector.toNat) < 2 ^ 64 := by
    rw [made.physSector]
    omega
  refine ⟨entry.physSector + (sector - entry.logicalSector), ?_, ?_⟩
  · rw [translateSector_eq found, if_pos inside]
  · rw [UInt64.toNat_add, sub_toNat start, Nat.mod_eq_of_lt inside,
      made.physSector, offset]
    rfl

end Inside

section Mount

variable {minor : Nat} {specs : List MapSpec} {entries : List MapEntry}
  {before after : KernelState} {req : LogdevReq} {total : Nat}

/-- The capacity of a mount whose extents tile `[0, total)`. -/
theorem Mounted.size (mounted : Mounted minor specs entries req before after)
    (tiles : Tiling.Tiles total (specs.map MapSpec.span)) :
    512 * req.capacitySectors.toNat = total := by
  obtain ⟨fits, ends, last, lastMember, ending⟩ :=
    buildEntries_checked mounted.built
  apply Nat.le_antisymm
  · by_contra larger
    have nonempty := (fits last lastMember).nonempty
    have held := tiles.inside (512 * req.capacitySectors.toNat - 1) (by omega)
    rw [List.countP_eq_zero] at held
    apply held last.span (List.mem_map_of_mem lastMember)
    rw [Tiling.Span.covers_iff]
    simp only [MapSpec.span]
    omega
  · by_contra smaller
    have held := tiles.once (512 * req.capacitySectors.toNat) (by omega)
    have some' : 0 < (specs.map MapSpec.span).countP
        (Tiling.Span.covers (512 * req.capacitySectors.toNat)) := by omega
    obtain ⟨span, member, covered⟩ := List.countP_pos_iff.mp some'
    obtain ⟨spec, given, rfl⟩ := List.mem_map.mp member
    have bound := ends spec given
    rw [Tiling.Span.covers_iff] at covered
    simp only [MapSpec.span] at covered
    omega

theorem Mounted.translates
    (mounted : Mounted minor specs entries req before after)
    (others : OnlyMinor minor before after) (owned : MapsOwned before)
    (tiles : Tiling.Tiles total (specs.map MapSpec.span))
    (noWrap : ∀ spec ∈ specs,
      spec.physSector.toNat + spec.length.toNat / 512 ≤ 2 ^ 64) :
    Translates minor specs total before after := by
  have capacity := mounted.size tiles
  have fits := (buildEntries_checked mounted.built).1
  refine ⟨?_, ?_, ?_, ?_⟩
  · refine ⟨req, ?_, by omega⟩
    rw [mounted.logdevs]
    exact SlotTable.get_put_self mounted.small
  · intro sector bound
    obtain ⟨query, missing⟩ := mounted.query sector owned
    have once := tiles.once (512 * sector.toNat) (by omega)
    rw [List.countP_map] at once
    have unique : ∀ first ∈ specs, ∀ second ∈ specs, first.Holds sector →
        second.Holds sector → first = second := by
      intro first firstGiven second secondGiven left right
      exact Tiling.eq_of_countP_eq_one once firstGiven secondGiven left right
    cases found : mapQuery minor sector after with
    | error errno =>
        have same := (mapQuery_error_iff.mp found).1
        rw [same] at found
        have some' : 0 < specs.countP
            (Tiling.Span.covers (512 * sector.toNat) ∘ MapSpec.span) := by
          rw [once]
          exact Nat.zero_lt_one
        obtain ⟨spec, given, holds⟩ := List.countP_pos_iff.mp some'
        exact (missing.mp found spec given holds).elim
    | ok entry =>
        obtain ⟨spec, given, made, holds⟩ := query entry found
        obtain ⟨physSector, translated, phys⟩ := translate_of_query
          (fits spec given) made holds (noWrap spec given) found
        refine ⟨spec, given, holds, ?_, entry, physSector, translated, made,
          phys⟩
        intro other otherGiven otherHolds
        exact unique other otherGiven spec given otherHolds holds
  · intro sector bound
    have none := tiles.inside (512 * sector.toNat) (by omega)
    rw [List.countP_map, List.countP_eq_zero] at none
    have missing := (mounted.query sector owned).2.mpr none
    simp only [translateSector, missing]
  · intro other different sector
    exact translateSector_of_sameMinor (others.others other different)

/-- After a mount on a kernel that only answered ioctls so far, every sector
of the new device is translated and nothing else changed. -/
theorem mount_translates (requests : List Ioctl) (logicalDev : CString)
    (minor : Nat) (specs : List MapSpec) (allowMissing : Bool)
    (ctl : CtlAnswer) (total : Nat)
    (tiles : Tiling.Tiles total (specs.map MapSpec.span))
    (noWrap : ∀ spec ∈ specs,
      spec.physSector.toNat + spec.length.toNat / 512 ≤ 2 ^ 64)
    (present : ctl.openErrno = none)
    (accepted : (mountLogdevWithMinor logicalDev minor specs allowMissing ctl
      (Transition.run ioctlStep .loaded requests)).1 = .ok) :
    Translates minor specs total
      (Transition.run ioctlStep .loaded requests)
      (mountLogdevWithMinor logicalDev minor specs allowMissing ctl
        (Transition.run ioctlStep .loaded requests)).2 := by
  obtain ⟨_, entries, req, mounted⟩ := mountLogdevWithMinor_ok logicalDev
    minor specs allowMissing ctl _ present accepted
  apply mounted.translates
  · exact mountLogdevWithMinor_only logicalDev minor specs allowMissing ctl _
  · exact (tablesSound_run requests).owned
  · exact tiles
  · exact noWrap

/-- Two extents, the later one first. -/
def twoExtents : List MapSpec :=
  [{ physDev := ⟨"/dev/nvme1n1".toList, by decide⟩
     nsId := ⟨"ns-2".toList, by decide⟩
     logicalOffset := 4096
     length := 4096
     physSector := 64 },
   { physDev := ⟨"/dev/nvme0n1".toList, nvme0n1_fits⟩
     nsId := ⟨"ns-1".toList, ns1_fits⟩
     logicalOffset := 0
     length := 4096
     physSector := 16 }]

theorem twoExtents_tiles :
    Tiling.Tiles 8192 (twoExtents.map MapSpec.span) := by
  have laid : Tiling.Consecutive 0 8192 [(0, 4096), (4096, 4096)] :=
    ⟨rfl, rfl, rfl⟩
  exact laid.tiles.perm (List.Perm.swap _ _ [])

theorem mount_translates_twoExtents :
    Translates 3 twoExtents 8192 .loaded
      (mountLogdevWithMinor "/dev/ssu/disk0".toList 3 twoExtents false
        { openErrno := none, blockLayer := none } .loaded).2 :=
  mount_translates [] "/dev/ssu/disk0".toList 3 twoExtents false
    { openErrno := none, blockLayer := none } 8192 twoExtents_tiles
    (by decide) rfl (by decide +kernel)

end Mount

end UbseSsu.Reqshim

import UbseSsu.Plugin.ReqshimEffects

/-!
# When ReqShim accepts a mount

The checks of `build_entries`, of the disk name and of the kernel module, put
the other way round: extents that fit, a usable name and a free minor are
enough for every request of the sequence to be accepted.
-/

namespace UbseSsu.Reqshim

open Kernel

section Entries

/-- Every check of `build_entries` on one extent. -/
structure SpecFits (spec : MapSpec) : Prop where
  physDev : spec.physDev.chars ≠ []
  nonempty : 0 < spec.length.toNat
  offset : 512 ∣ spec.logicalOffset.toNat
  length : 512 ∣ spec.length.toNat
  ending : spec.logicalOffset.toNat + spec.length.toNat < 2 ^ 64
  nsNumber : (parseUintTail spec.nsId.chars).isSome = true

variable {spec : MapSpec} {specs : List MapSpec}

theorem mod_sectorSize_eq_zero_iff (value : UInt64) :
    value % sectorSize = 0 ↔ 512 ∣ value.toNat := by
  rw [← UInt64.toNat_inj, UInt64.toNat_mod]
  exact (Nat.dvd_iff_mod_eq_zero).symm

theorem ne_zero_of_toNat_pos {value : UInt64} (positive : 0 < value.toNat) :
    value ≠ 0 := by
  rintro rfl
  exact Nat.lt_irrefl 0 positive

theorem buildMapEntry_fits (fits : SpecFits spec) (minor : Nat) :
    ∃ entry, buildMapEntry spec minor = .ok entry := by
  obtain ⟨nsid, parsed⟩ := Option.isSome_iff_exists.mp fits.nsNumber
  have accepted : ¬(isEmptyString spec.physDev.chars = true ∨
      spec.length = 0 ∨ spec.logicalOffset % sectorSize ≠ 0 ∨
      spec.length % sectorSize ≠ 0 ∨ 64 ≤ spec.physDev.chars.length) := by
    have short : spec.physDev.chars.length ≤ 63 := spec.physDev.fits
    rw [isEmptyString_iff]
    rintro (empty | none | offset | length | long)
    · exact fits.physDev empty
    · exact ne_zero_of_toNat_pos fits.nonempty none
    · exact offset ((mod_sectorSize_eq_zero_iff _).mpr fits.offset)
    · exact length ((mod_sectorSize_eq_zero_iff _).mpr fits.length)
    · omega
  unfold buildMapEntry
  rw [if_neg accepted, parsed]
  exact ⟨_, rfl⟩

theorem end_toNat (fits : SpecFits spec) :
    (spec.logicalOffset + spec.length).toNat =
      spec.logicalOffset.toNat + spec.length.toNat := by
  rw [UInt64.toNat_add]
  exact Nat.mod_eq_of_lt fits.ending

theorem buildEntriesLoop_fits (minor : Nat)
    (fits : ∀ spec ∈ specs, SpecFits spec) {capacity : UInt64}
    (aligned : 512 ∣ capacity.toNat) :
    ∃ entries total,
      buildEntriesLoop minor specs capacity = .ok (entries, total) ∧
        512 ∣ total.toNat ∧ capacity ≤ total ∧
        ∀ spec ∈ specs, spec.logicalOffset + spec.length ≤ total := by
  induction specs generalizing capacity with
  | nil => exact ⟨[], capacity, rfl, aligned, Nat.le_refl _, nofun⟩
  | cons spec specs induction =>
      obtain ⟨first, others⟩ := List.forall_mem_cons.mp fits
      obtain ⟨entry, built⟩ := buildMapEntry_fits first minor
      have whole := end_toNat first
      have inside : ¬spec.logicalOffset > uint64Max - spec.length := by
        have size := spec.length.toNat_lt
        have bounded := first.ending
        rw [gt_iff_lt, UInt64.lt_iff_toNat_lt, UInt64.toNat_sub_of_le]
        · have top : uint64Max.toNat = 2 ^ 64 - 1 := rfl
          omega
        · rw [UInt64.le_iff_toNat_le]
          have top : uint64Max.toNat = 2 ^ 64 - 1 := rfl
          omega
      let larger := if spec.logicalOffset + spec.length > capacity then
        spec.logicalOffset + spec.length else capacity
      have largerAligned : 512 ∣ larger.toNat := by
        simp only [larger]
        split
        · rw [whole]
          exact Nat.dvd_add first.offset first.length
        · exact aligned
      have capacityLe : capacity ≤ larger := by
        simp only [larger]
        split
        · rename_i more
          exact UInt64.le_of_lt more
        · exact Nat.le_refl _
      have endLe : spec.logicalOffset + spec.length ≤ larger := by
        simp only [larger]
        split
        · exact Nat.le_refl _
        · rename_i less
          exact UInt64.not_lt.mp less
      obtain ⟨entries, total, rest, totalAligned, above, ends⟩ :=
        induction others largerAligned
      refine ⟨entry :: entries, total, ?_, totalAligned,
        UInt64.le_trans capacityLe above, ?_⟩
      · simp only [buildEntriesLoop, if_neg inside, built]
        simp only [larger] at rest
        simp only [rest]
      · exact List.forall_mem_cons.mpr
          ⟨UInt64.le_trans endLe above, ends⟩

/-- Fitting extents give entries and a capacity of at least one sector. -/
theorem buildEntries_fits (minor : Nat) (some : specs ≠ [])
    (fits : ∀ spec ∈ specs, SpecFits spec) :
    ∃ entries capacitySectors,
      buildEntries specs minor = .ok (entries, capacitySectors) ∧
        capacitySectors ≠ 0 := by
  have none : 512 ∣ (0 : UInt64).toNat := Nat.dvd_zero 512
  obtain ⟨entries, total, built, aligned, _, ends⟩ :=
    buildEntriesLoop_fits minor fits none
  obtain ⟨spec, member⟩ := List.exists_mem_of_ne_nil specs some
  have positive : 0 < total.toNat := by
    have above := UInt64.le_iff_toNat_le.mp (ends spec member)
    have nonempty := (fits spec member).nonempty
    rw [end_toNat (fits spec member)] at above
    omega
  have accepted : ¬(total = 0 ∨ total % sectorSize ≠ 0) := by
    rintro (none | odd)
    · exact ne_zero_of_toNat_pos positive none
    · exact odd ((mod_sectorSize_eq_zero_iff _).mpr aligned)
  refine ⟨entries, total / sectorSize, ?_, ?_⟩
  · simp only [buildEntries, built, if_neg accepted]
  · apply ne_zero_of_toNat_pos
    rw [UInt64.toNat_div]
    exact Nat.div_pos (Nat.le_of_dvd positive aligned) (by decide)

theorem buildMapEntry_checked {minor : Nat} {entry : MapEntry}
    (built : buildMapEntry spec minor = .ok entry)
    (ending : spec.logicalOffset.toNat + spec.length.toNat < 2 ^ 64) :
    SpecFits spec := by
  unfold buildMapEntry at built
  split at built
  · cases built
  · rename_i accepted
    simp only [not_or, not_not, isEmptyString_iff] at accepted
    obtain ⟨physDev, nonempty, offset, length, _⟩ := accepted
    split at built
    · cases built
    · rename_i nsid parsed
      have sized : spec.length.toNat ≠ 0 := by
        intro none
        exact nonempty (UInt64.toNat_inj.mp none)
      exact {
        physDev := physDev
        nonempty := Nat.pos_of_ne_zero sized
        offset := (mod_sectorSize_eq_zero_iff _).mp offset
        length := (mod_sectorSize_eq_zero_iff _).mp length
        ending := ending
        nsNumber := by rw [parsed]; rfl }

/-- Only fitting extents are built, and the capacity is the largest end. -/
theorem buildEntriesLoop_checked {minor : Nat} {capacity total : UInt64}
    {entries : List MapEntry}
    (built : buildEntriesLoop minor specs capacity = .ok (entries, total)) :
    (∀ spec ∈ specs, SpecFits spec) ∧ capacity ≤ total ∧
      (∀ spec ∈ specs, spec.logicalOffset + spec.length ≤ total) ∧
        (total = capacity ∨
          ∃ spec ∈ specs, total = spec.logicalOffset + spec.length) := by
  induction specs generalizing capacity total entries with
  | nil =>
      cases built
      exact ⟨nofun, UInt64.le_refl _, nofun, .inl rfl⟩
  | cons spec specs induction =>
      simp only [buildEntriesLoop] at built
      split at built
      · cases built
      · rename_i inside
        split at built
        · cases built
        · rename_i entry first
          split at built
          · cases built
          · rename_i rest last others
            cases built
            obtain ⟨fits, above, ends, attained⟩ := induction others
            have ending : spec.logicalOffset.toNat + spec.length.toNat <
                2 ^ 64 := by
              have top : uint64Max.toNat = 2 ^ 64 - 1 := rfl
              have size := spec.length.toNat_lt
              rw [gt_iff_lt, UInt64.lt_iff_toNat_lt,
                UInt64.toNat_sub_of_le _ _ (by
                  rw [UInt64.le_iff_toNat_le]; omega)] at inside
              omega
            have head := buildMapEntry_checked first ending
            have larger : capacity ≤ total ∧
                spec.logicalOffset + spec.length ≤ total := by
              split at above
              · rename_i more
                exact ⟨UInt64.le_trans (UInt64.le_of_lt more) above, above⟩
              · rename_i less
                exact ⟨above, UInt64.le_trans (UInt64.not_lt.mp less) above⟩
            refine ⟨List.forall_mem_cons.mpr ⟨head, fits⟩, larger.1,
              List.forall_mem_cons.mpr ⟨larger.2, ends⟩, ?_⟩
            rcases attained with same | ⟨other, member, same⟩
            · split at same
              · exact .inr ⟨spec, List.mem_cons_self, same⟩
              · exact .inl same
            · exact .inr ⟨other, List.mem_cons_of_mem _ member, same⟩

/-- What the entries of a mount and its capacity are. -/
theorem buildEntries_checked {minor : Nat} {capacitySectors : UInt64}
    {entries : List MapEntry}
    (built : buildEntries specs minor = .ok (entries, capacitySectors)) :
    (∀ spec ∈ specs, SpecFits spec) ∧
      (∀ spec ∈ specs, spec.logicalOffset.toNat + spec.length.toNat ≤
        512 * capacitySectors.toNat) ∧
        ∃ spec ∈ specs, spec.logicalOffset.toNat + spec.length.toNat =
          512 * capacitySectors.toNat := by
  unfold buildEntries at built
  split at built
  · cases built
  · rename_i listed total loop
    split at built
    · cases built
    · rename_i accepted
      obtain ⟨nonzero, aligned⟩ := not_or.mp accepted
      cases built
      obtain ⟨fits, _, ends, attained⟩ := buildEntriesLoop_checked loop
      have whole : 512 * (total / sectorSize).toNat = total.toNat := by
        have divided := (mod_sectorSize_eq_zero_iff total).mp
          (not_not.mp aligned)
        rw [UInt64.toNat_div]
        exact Nat.mul_div_cancel' divided
      rw [whole]
      refine ⟨fits, ?_, ?_⟩
      · intro spec member
        rw [← end_toNat (fits spec member)]
        exact UInt64.le_iff_toNat_le.mp (ends spec member)
      · rcases attained with none | ⟨spec, member, same⟩
        · exact (nonzero none).elim
        · refine ⟨spec, member, ?_⟩
          rw [same, end_toNat (fits spec member)]

end Entries

section Name

/-- The last component of the path is a disk name. -/
structure NameFits (logicalDev : CString) : Prop where
  path : logicalDev ≠ []
  named : afterLastSlash logicalDev ≠ []
  short : (afterLastSlash logicalDev).length ≤ maxDiskNameLen
  valid : (afterLastSlash logicalDev).all logicalDiskNameCharIsValid = true

variable {logicalDev : CString}

theorem copyLogicalDiskName_fits (fits : NameFits logicalDev) :
    copyLogicalDiskName logicalDev =
      .ok (copyCstr diskNameLen (afterLastSlash logicalDev)) := by
  have short := fits.short
  have limit : maxDiskNameLen ≤ 27 := by decide
  have size : diskNameLen = 32 := rfl
  have present : (isEmptyString logicalDev ||
      isEmptyString (afterLastSlash logicalDev)) = false := by
    simp [isEmptyString, fits.path, fits.named]
  have bounded : ¬(diskNameLen ≤ (afterLastSlash logicalDev).length ∨
      maxDiskNameLen < (afterLastSlash logicalDev).length) := by omega
  simp only [copyLogicalDiskName, present, Bool.false_eq_true, if_false,
    if_neg bounded, fits.valid, if_true]

theorem validateLogdevReq_fits (fits : NameFits logicalDev) {minor : Nat}
    (small : minor < Kernel.maxLogdevs) {capacitySectors : UInt64}
    (some : capacitySectors ≠ 0) :
    validateLogdevReq
      { minor, capacitySectors, logicalBlockSize := 512
        diskName := (copyCstr diskNameLen (afterLastSlash logicalDev)).widen
          (Nat.le_succ 31) } = true := by
  have short := fits.short
  have limit : maxDiskNameLen ≤ 27 := by decide
  have size : diskNameLen = 32 := rfl
  have lead : "ssu/".length = 4 := by decide
  have whole : ((copyCstr diskNameLen (afterLastSlash logicalDev)).widen
      (Nat.le_succ 31) : BoundedString diskNameLen).chars =
      afterLastSlash logicalDev := by
    rw [BoundedString.chars_widen]
    apply copyCstr_chars_of_fits
    omega
  have valid : (afterLastSlash logicalDev).all diskNameCharIsValid = true :=
    fits.valid
  have power : isPowerOf2 512 = true := by decide
  simp only [validateLogdevReq, whole, valid, power, Bool.and_true,
    Bool.and_eq_true, decide_eq_true_eq, ne_eq]
  refine ⟨⟨⟨⟨⟨small, ?_⟩, ?_⟩, ?_⟩, ?_⟩, ?_⟩
  · simpa using some
  · simpa using fits.named
  · omega
  · omega
  · decide

end Name

section Maps

variable {kernel : KernelState} {minor : Nat} {entry : MapEntry}
  {entries added : List MapEntry}

theorem mapAdd_accepted (live : (kernel.logdevs.get minor).isSome = true)
    (own : entry.logicalMinor = minor) (some : entry.lengthSectors ≠ 0)
    (physDev : entry.physDev.chars ≠ [])
    (unused : ∀ old ∈ kernel.maps.rows, old.logicalMinor = minor →
      old.logicalSector ≠ entry.logicalSector)
    (room : kernel.maps.rows.length < maxMaps) :
    ∃ slot, slot < maxMaps ∧ kernel.maps.get slot = none ∧
      mapAdd entry kernel =
        .ok { kernel with maps := kernel.maps.put slot entry } := by
  obtain ⟨slot, found⟩ := SlotTable.firstFree_isSome_of_room room
  obtain ⟨bound, free⟩ := SlotTable.get_firstFree found
  obtain ⟨req, active⟩ := Option.isSome_iff_exists.mp live
  have small := SlotTable.lt_size_of_get_eq_some active
  have present : logdevExists kernel entry.logicalMinor = true := by
    simp [logdevExists, own, small, live]
  have fresh : kernel.maps.rows.any (mapHasKey entry) = false := by
    apply List.any_eq_false.mpr
    intro old member same
    simp only [mapHasKey, Bool.and_eq_true, decide_eq_true_eq] at same
    exact unused old member (same.1.trans own) same.2
  refine ⟨slot, bound, free, ?_⟩
  simp [mapAdd, some, physDev, present, fresh, found]

/-- Maps of one live minor with different sectors are all added when there is
room for them. -/
theorem addMaps_accepted (live : (kernel.logdevs.get minor).isSome = true)
    (fits : ∀ entry ∈ entries, entry.logicalMinor = minor ∧
      entry.lengthSectors ≠ 0 ∧ entry.physDev.chars ≠ [])
    (distinct : (entries.map MapEntry.logicalSector).Nodup)
    (unused : ∀ old ∈ kernel.maps.rows, old.logicalMinor = minor →
      old.logicalSector ∉ entries.map MapEntry.logicalSector)
    (room : kernel.maps.rows.length + entries.length ≤ maxMaps) :
    (addMaps minor entries added kernel).1 = .ok := by
  induction entries generalizing added kernel with
  | nil => rfl
  | cons entry entries induction =>
      obtain ⟨⟨own, some, physDev⟩, others⟩ := List.forall_mem_cons.mp fits
      obtain ⟨fresh, distinct⟩ := List.nodup_cons.mp distinct
      rw [List.length_cons] at room
      obtain ⟨slot, bound, free, accepted⟩ := mapAdd_accepted live own some
        physDev (fun old member same equal => unused old member same (by
          rw [List.map_cons, equal]
          exact List.mem_cons_self)) (by omega)
      have rows : (kernel.maps.put slot entry).rows.Perm
          (entry :: kernel.maps.rows) := SlotTable.rows_put_perm bound free
      have still : (({ kernel with maps := kernel.maps.put slot entry } :
          KernelState).logdevs.get minor).isSome = true := live
      simp only [addMaps, accepted]
      apply induction still others distinct
      · intro old member same listed
        rcases List.mem_cons.mp (rows.mem_iff.mp member) with rfl | earlier
        · exact fresh listed
        · exact unused old earlier same (List.mem_cons_of_mem _ listed)
      · rw [rows.length_eq, List.length_cons]
        omega

end Maps

section Sequence

variable {kernel : KernelState} {minor : Nat} {specs : List MapSpec}
  {entries : List MapEntry} {logicalDev : CString}

theorem entries_sectors
    (built : List.Forall₂ (EntryOf minor) specs entries) :
    entries.map MapEntry.logicalSector =
      specs.map fun spec => spec.logicalOffset / sectorSize := by
  induction built with
  | nil => rfl
  | cons first _ induction =>
      rw [List.map_cons, List.map_cons, first.sector, induction]

/-- Aligned offsets that differ start in different sectors. -/
theorem sectors_nodup (fits : ∀ spec ∈ specs, SpecFits spec)
    (distinct : (specs.map MapSpec.logicalOffset).Nodup) :
    (specs.map fun spec => spec.logicalOffset / sectorSize).Nodup := by
  rw [List.Nodup, List.pairwise_map] at distinct ⊢
  apply distinct.imp_of_mem
  intro left right leftMember rightMember different same
  apply different
  obtain ⟨first, leftSectors⟩ := (fits left leftMember).offset
  obtain ⟨second, rightSectors⟩ := (fits right rightMember).offset
  have values := congrArg UInt64.toNat same
  have size : sectorSize.toNat = 512 := rfl
  rw [UInt64.toNat_div, UInt64.toNat_div, size, leftSectors, rightSectors]
    at values
  apply UInt64.toNat_inj.mp
  omega

theorem entries_fit (fits : ∀ spec ∈ specs, SpecFits spec)
    (built : List.Forall₂ (EntryOf minor) specs entries) :
    ∀ entry ∈ entries, entry.logicalMinor = minor ∧
      entry.lengthSectors ≠ 0 ∧ entry.physDev.chars ≠ [] := by
  induction built with
  | nil => nofun
  | cons first _ induction =>
      obtain ⟨head, others⟩ := List.forall_mem_cons.mp fits
      refine List.forall_mem_cons.mpr
        ⟨⟨first.minor, ?_, ?_⟩, induction others⟩
      · rw [first.lengthSectors]
        apply ne_zero_of_toNat_pos
        rw [UInt64.toNat_div]
        exact Nat.div_pos (Nat.le_of_dvd head.nonempty head.length) (by decide)
      · rw [first.physDev]
        exact head.physDev

/-- A mount on a minor that is not live is accepted with the control device
there and with room in the kernel's map table. -/
theorem mountLogdevWithMinor_accepted (some : specs ≠ [])
    (fits : ∀ spec ∈ specs, SpecFits spec)
    (distinct : (specs.map MapSpec.logicalOffset).Nodup)
    (named : NameFits logicalDev) (small : minor < Kernel.maxLogdevs)
    (unused : kernel.logdevs.get minor = none) (owned : MapsOwned kernel)
    (room : kernel.maps.rows.length + specs.length ≤ maxMaps)
    (allowMissing : Bool) {ctl : CtlAnswer} (ready : ctl.Ready)
    (noError : ctl.blockLayer = none) :
    (mountLogdevWithMinor logicalDev minor specs allowMissing ctl
      kernel).1 = .ok := by
  obtain ⟨entries, capacitySectors, built, capacity⟩ :=
    buildEntries_fits minor some fits
  have entriesOf := buildEntries_ok built
  have valid := validateLogdevReq_fits named small capacity
  have noMaps : ∀ old ∈ kernel.maps.rows, old.logicalMinor ≠ minor := by
    intro old member same
    have present := owned old member
    rw [same, unused] at present
    contradiction
  simp only [mountLogdevWithMinor, if_neg some, built,
    copyLogicalDiskName_fits named, openReqshimCtl, ready.1,
    checkVersion_ready ready, logdevCreate, noError, valid, unused,
    Bool.not_true, Bool.false_eq_true, Option.isSome_none, if_false]
  apply addMaps_accepted
  · rw [SlotTable.get_put_self small]
    rfl
  · exact entries_fit fits entriesOf
  · rw [entries_sectors entriesOf]
    exact sectors_nodup fits distinct
  · intro old member same
    exact (noMaps old member same).elim
  · rw [← entriesOf.length_eq]
    exact room

end Sequence

end UbseSsu.Reqshim

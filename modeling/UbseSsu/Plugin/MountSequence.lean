import UbseSsu.Kernel.Ioctls
import UbseSsu.Plugin.ReqshimEffects

/-!
# What a mount through the control device did

When the control device is there, a mount that answers `SSU_OK` created one
logical device and added the entries of its extents, and nothing else.
-/

namespace UbseSsu.Reqshim

open Kernel

/-- The same devices and the same maps, whatever the slots of the maps. -/
structure SameTables (before after : KernelState) : Prop where
  logdevs : ∀ minor, after.logdevs.get minor = before.logdevs.get minor
  maps : after.maps.rows.Perm before.maps.rows

section SameTables

variable {before after : KernelState}

theorem filter_mapHasMinor_beq (entry : MapEntry) (rows : List MapEntry) :
    (rows.filter (mapHasMinor entry.logicalMinor)).count entry =
      rows.count entry := by
  apply List.count_filter
  simp [mapHasMinor]

theorem SameTables.of_minors
    (same : ∀ minor, SameMinor minor before after) :
    SameTables before after := by
  constructor
  · intro minor
    exact (same minor).logdev
  · apply List.perm_iff_count.mpr
    intro entry
    rw [← filter_mapHasMinor_beq entry after.maps.rows,
      ← filter_mapHasMinor_beq entry before.maps.rows,
      (same entry.logicalMinor).maps]

end SameTables

section Added

variable {kernel : KernelState} {minor : Nat}
  {entries added : List MapEntry}

theorem addMaps_ok {after : KernelState}
    (accepted : addMaps minor entries added kernel = (.ok, after)) :
    after.logdevs = kernel.logdevs ∧
      after.maps.rows.Perm (entries ++ kernel.maps.rows) := by
  induction entries generalizing added kernel with
  | nil =>
      cases accepted
      exact ⟨rfl, List.Perm.refl _⟩
  | cons entry entries induction =>
      simp only [addMaps] at accepted
      split at accepted
      · rename_i next one
        obtain ⟨_, _, slot, free, rfl⟩ := mapAdd_ok one
        obtain ⟨bound, isFree⟩ := SlotTable.get_firstFree free
        obtain ⟨logdevs, rows⟩ := induction accepted
        refine ⟨logdevs, rows.trans ?_⟩
        have grown : (kernel.maps.put slot entry).rows.Perm
            (entry :: kernel.maps.rows) :=
          SlotTable.rows_put_perm bound isFree
        exact (grown.append_left entries).trans List.perm_middle
      · exact (errnoToSsuErr_ne_ok _ (congrArg Prod.fst accepted)).elim

/-- Maps of one minor that were all added start in different sectors. -/
theorem addMaps_distinct {after : KernelState}
    (own : ∀ entry ∈ entries, entry.logicalMinor = minor)
    (accepted : addMaps minor entries added kernel = (.ok, after)) :
    (entries.map MapEntry.logicalSector).Nodup ∧
      ∀ entry ∈ entries, ∀ old ∈ kernel.maps.rows,
        mapHasKey entry old = false := by
  induction entries generalizing added kernel with
  | nil => simp
  | cons entry entries induction =>
      simp only [addMaps] at accepted
      split at accepted
      · rename_i next one
        obtain ⟨_, fresh, slot, free, rfl⟩ := mapAdd_ok one
        obtain ⟨bound, isFree⟩ := SlotTable.get_firstFree free
        obtain ⟨first, others⟩ := List.forall_mem_cons.mp own
        obtain ⟨distinct, unused⟩ := induction others accepted
        have grown : (kernel.maps.put slot entry).rows.Perm
            (entry :: kernel.maps.rows) :=
          SlotTable.rows_put_perm bound isFree
        constructor
        · refine List.nodup_cons.mpr ⟨fun listed => ?_, distinct⟩
          obtain ⟨other, member, same⟩ := List.mem_map.mp listed
          have missed := unused other member entry
            (grown.mem_iff.mpr List.mem_cons_self)
          simp [mapHasKey, first, others other member, same] at missed
        · refine List.forall_mem_cons.mpr ⟨?_, ?_⟩
          · simpa using fresh
          · intro other member old stored
            exact unused other member old
              (grown.mem_iff.mpr (List.mem_cons_of_mem _ stored))
      · exact (errnoToSsuErr_ne_ok _ (congrArg Prod.fst accepted)).elim

end Added

section Mounted

variable {logicalDev : CString} {minor : Nat} {specs : List MapSpec}

/-- One logical device and the maps of its extents were added. -/
structure Mounted (minor : Nat) (specs : List MapSpec)
    (entries : List MapEntry) (req : LogdevReq)
    (before after : KernelState) : Prop where
  built : buildEntries specs minor = .ok (entries, req.capacitySectors)
  small : minor < Kernel.maxLogdevs
  free : before.logdevs.get minor = none
  logdevs : after.logdevs = before.logdevs.put minor req
  maps : after.maps.rows.Perm (entries ++ before.maps.rows)

theorem buildEntriesLoop_error {capacity : UInt64} {err : SsuErr}
    (failed : buildEntriesLoop minor specs capacity = .error err) :
    err = .invalid := by
  induction specs generalizing capacity with
  | nil => cases failed
  | cons spec specs induction =>
      simp only [buildEntriesLoop] at failed
      split at failed
      · cases failed
        rfl
      · split at failed
        · rename_i refused
          cases failed
          unfold buildMapEntry at refused
          split at refused
          · cases refused
            rfl
          · split at refused <;> cases refused
            rfl
        · split at failed
          · rename_i rest
            cases failed
            exact induction rest
          · cases failed

theorem buildEntries_error {err : SsuErr}
    (failed : buildEntries specs minor = .error err) : err = .invalid := by
  unfold buildEntries at failed
  split at failed
  · rename_i loop
    cases failed
    exact buildEntriesLoop_error loop
  · split at failed <;> cases failed
    rfl

theorem copyLogicalDiskName_error {err : SsuErr}
    (failed : copyLogicalDiskName logicalDev = .error err) :
    err = .invalid := by
  unfold copyLogicalDiskName at failed
  simp only at failed
  split at failed
  · cases failed
    rfl
  · split at failed
    · cases failed
      rfl
    · split at failed <;> cases failed
      rfl

/-- The requests behind an accepted mount. -/
theorem mountLogdevWithMinor_added {allowMissing : Bool} {ctl : CtlAnswer}
    {kernel after : KernelState} (present : ctl.openErrno = none)
    (mounted : mountLogdevWithMinor logicalDev minor specs allowMissing ctl
      kernel = (.ok, after)) :
    specs ≠ [] ∧ ctl.Ready ∧ ∃ entries req created,
      req.minor = minor ∧
      buildEntries specs minor = .ok (entries, req.capacitySectors) ∧
      logdevCreate ctl.blockLayer req kernel = .ok created ∧
      addMaps minor entries [] created = (.ok, after) := by
  unfold mountLogdevWithMinor at mounted
  split at mounted
  · cases mounted
  · rename_i filled
    split at mounted
    · rename_i failed
      rw [buildEntries_error failed] at mounted
      cases mounted
    · rename_i entries capacitySectors built
      split at mounted
      · rename_i failed
        rw [copyLogicalDiskName_error failed] at mounted
        cases mounted
      · rename_i diskName _
        simp only [openReqshimCtl, present] at mounted
        split at mounted
        · rename_i agreed
          split at mounted
          · exact (errnoToSsuErr_ne_ok _ (congrArg Prod.fst mounted)).elim
          · rename_i created accepted
            exact ⟨filled, ⟨present, version_of_checkVersion agreed⟩, entries,
              _, created, rfl, built, accepted, mounted⟩
        · rename_i refused
          exact (refused (congrArg Prod.fst mounted)).elim

theorem mountLogdevWithMinor_ok (logicalDev : CString) (minor : Nat)
    (specs : List MapSpec) (allowMissing : Bool) (ctl : CtlAnswer)
    (kernel : KernelState) (present : ctl.openErrno = none)
    (accepted : (mountLogdevWithMinor logicalDev minor specs allowMissing ctl
      kernel).1 = .ok) :
    ctl.Ready ∧ ∃ entries req, Mounted minor specs entries req kernel
      (mountLogdevWithMinor logicalDev minor specs allowMissing ctl
        kernel).2 := by
  obtain ⟨_, ready, entries, req, created, rfl, built, create, add⟩ :=
    mountLogdevWithMinor_added present (Prod.ext accepted rfl)
  obtain ⟨valid, free, rfl⟩ := logdevCreate_ok create
  obtain ⟨logdevs, maps⟩ := addMaps_ok add
  refine ⟨ready, entries, req, ?_⟩
  exact {
    built := built
    small := validateLogdevReq_minor valid
    free := free
    logdevs := logdevs
    maps := maps }

end Mounted

theorem nvme0n1_fits : "/dev/nvme0n1".toList.length ≤ 63 := by
  decide

theorem ns1_fits : "ns-1".toList.length ≤ 31 := by
  decide

end UbseSsu.Reqshim

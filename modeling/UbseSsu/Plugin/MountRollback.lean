import UbseSsu.Plugin.MountSequence

/-!
# A mount and its unmount

A refused mount leaves the kernel tables as they were, an accepted one adds
one device with its maps, and the unmount of the same device takes exactly
those away again.
-/

namespace UbseSsu.Reqshim

open Kernel

variable {kernel after : KernelState} {minor : Nat}

theorem logdevDestroy_live
    (live : (kernel.logdevs.get minor).isSome = true) :
    ∃ after, logdevDestroy minor kernel = .ok after ∧ Bare minor after := by
  obtain ⟨noDevice, noMaps⟩ := attempt_logdevDestroy_minor live
  cases result : logdevDestroy minor kernel with
  | ok after =>
      rw [attempt, result] at noDevice noMaps
      exact ⟨after, rfl, noDevice, noMaps⟩
  | error errno =>
      rw [attempt, result] at noDevice
      simp only at noDevice
      rw [noDevice] at live
      cases live

/-- The unmount of a live device succeeds and leaves nothing of it. -/
theorem unmountLogdevWithMinor_live {specs : List MapSpec}
    (allowMissing : Bool) {ctl : CtlAnswer}
    (live : (kernel.logdevs.get minor).isSome = true) (ready : ctl.Ready)
    (built : specs = [] ∨
      ∃ entries, buildEntries specs minor = .ok entries) :
    (unmountLogdevWithMinor minor specs allowMissing ctl kernel).1 = .ok ∧
      Bare minor
        (unmountLogdevWithMinor minor specs allowMissing ctl kernel).2 := by
  have deleted : ∀ entries, ∃ after,
      logdevDestroy minor (deleteMaps entries kernel) = .ok after ∧
        Bare minor after := by
    intro entries
    apply logdevDestroy_live
    rw [deleteMaps_logdevs]
    exact live
  rcases built with rfl | ⟨⟨entries, capacity⟩, built⟩
  · obtain ⟨after, destroyed, bare⟩ := deleted []
    simp only [unmountLogdevWithMinor, openReqshimCtl, ready.1,
      checkVersion_ready ready, if_true, destroyed, true_and]
    exact bare
  · obtain ⟨after, destroyed, bare⟩ := deleted entries
    by_cases none : specs = []
    · subst none
      cases built
    · simp only [unmountLogdevWithMinor, openReqshimCtl, ready.1,
        checkVersion_ready ready, if_neg none, built, destroyed, true_and]
      exact bare

/-- The unmount undoes the mount. -/
theorem Mounted.unmount {specs given : List MapSpec} {entries : List MapEntry}
    {req : LogdevReq} {allowMissing : Bool} {ctl : CtlAnswer}
    (mounted : Mounted minor specs entries req kernel after)
    (others : OnlyMinor minor kernel after) (owned : MapsOwned kernel)
    (ready : ctl.Ready) (same : given = specs ∨ given = []) :
    (unmountLogdevWithMinor minor given allowMissing ctl after).1 = .ok ∧
      SameTables kernel
        (unmountLogdevWithMinor minor given allowMissing ctl after).2 := by
  have live : (after.logdevs.get minor).isSome = true := by
    rw [mounted.logdevs, SlotTable.get_put_self mounted.small]
    rfl
  have built : given = [] ∨
      ∃ entries, buildEntries given minor = .ok entries := by
    rcases same with rfl | rfl
    · exact .inr ⟨_, mounted.built⟩
    · exact .inl rfl
  obtain ⟨answer, bare⟩ :=
    unmountLogdevWithMinor_live allowMissing live ready built
  refine ⟨answer, SameTables.of_minors ?_⟩
  intro other
  by_cases own : other = minor
  · subst own
    exact (bare_of_free owned mounted.free).sameMinor bare
  · have undone := unmountLogdevWithMinor_only minor given allowMissing ctl
      after
    exact (others.trans undone).others other own

/-- What the mount of an allocation leaves in the kernel tables: nothing when
it is refused, one device with the maps of the extents when it is accepted,
and a following unmount takes these away. -/
structure AllOrNothing (logicalDev allocateId : CString)
    (specs : List MapSpec) (ctl : CtlAnswer) (before : KernelState)
    (answer : SsuErr) (after : KernelState) : Prop where
  refused : answer ≠ .ok → SameTables before after
  added : answer = .ok → ∃ minor entries req,
    minorForAllocate logicalDev allocateId = some minor ∧
      Mounted minor specs entries req before after ∧
      List.Forall₂ (EntryOf minor) specs entries
  undone : answer = .ok → ∀ (given : List MapSpec) (allowMissing : Bool)
    (later : CtlAnswer), given = specs ∨ given = [] →
      later.openErrno = none → later.version = ctl.version →
      (unmountLogdevForAllocate logicalDev allocateId given allowMissing later
        after).1 = .ok ∧
      SameTables before (unmountLogdevForAllocate logicalDev allocateId given
        allowMissing later after).2

theorem SameTables.refl (kernel : KernelState) : SameTables kernel kernel :=
  ⟨fun _ => rfl, List.Perm.refl _⟩

theorem mountLogdevForAllocate_allOrNothing (requests : List Ioctl)
    (logicalDev allocateId : CString) (specs : List MapSpec)
    (allowMissing : Bool) (ctl : CtlAnswer) (present : ctl.openErrno = none) :
    AllOrNothing logicalDev allocateId specs ctl
      (Transition.run ioctlStep .loaded requests)
      (mountLogdevForAllocate logicalDev allocateId specs allowMissing ctl
        (Transition.run ioctlStep .loaded requests)).1
      (mountLogdevForAllocate logicalDev allocateId specs allowMissing ctl
        (Transition.run ioctlStep .loaded requests)).2 := by
  have owned := (tablesSound_run requests).owned
  generalize Transition.run ioctlStep .loaded requests = kernel at owned ⊢
  cases parsed : minorForAllocate logicalDev allocateId with
  | none =>
      simp only [mountLogdevForAllocate, parsed]
      exact ⟨fun _ => .refl kernel, nofun, nofun⟩
  | some minor =>
      simp only [mountLogdevForAllocate, parsed]
      have others := mountLogdevWithMinor_only logicalDev minor specs
        allowMissing ctl kernel
      have made := mountLogdevWithMinor_ok logicalDev minor specs allowMissing
        ctl kernel present
      constructor
      · intro failed
        exact SameTables.of_minors (mountLogdevWithMinor_failed owned failed)
      · intro answered
        obtain ⟨_, entries, req, mounted⟩ := made answered
        exact ⟨minor, entries, req, parsed, mounted,
          buildEntries_ok mounted.built⟩
      · intro answered given allow later same opened version
        obtain ⟨ready, entries, req, mounted⟩ := made answered
        simp only [unmountLogdevForAllocate, parsed]
        exact mounted.unmount others owned ⟨opened, version.trans ready.2⟩ same

def oneExtent : List MapSpec :=
  [{ physDev := ⟨"/dev/nvme0n1".toList, nvme0n1_fits⟩
     nsId := ⟨"ns-1".toList, ns1_fits⟩
     logicalOffset := 0
     length := 4096
     physSector := 16 }]

def readyCtl : CtlAnswer := { openErrno := none, blockLayer := none }

/-- The accepted case, on the tables that the module loads with. -/
theorem mount_oneExtent :
    (mountLogdevForAllocate "/dev/ssu/disk0".toList "alloc-7".toList oneExtent
      false readyCtl .loaded).1 = .ok ∧
    AllOrNothing "/dev/ssu/disk0".toList "alloc-7".toList oneExtent readyCtl
      .loaded
      (mountLogdevForAllocate "/dev/ssu/disk0".toList "alloc-7".toList
        oneExtent false readyCtl .loaded).1
      (mountLogdevForAllocate "/dev/ssu/disk0".toList "alloc-7".toList
        oneExtent false readyCtl .loaded).2 :=
  ⟨by decide +kernel,
    mountLogdevForAllocate_allOrNothing [] "/dev/ssu/disk0".toList
      "alloc-7".toList oneExtent false readyCtl rfl⟩

end UbseSsu.Reqshim

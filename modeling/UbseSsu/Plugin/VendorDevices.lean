import UbseSsu.Plugin.MountSequence
import UbseSsu.Plugin.VendorTables

/-!
# The devices behind a mount table

A mount brings at most its own device to life, and an unmount none.  When the
control device is there, an unmount of a row that answers `SSU_OK` leaves no
device of this row.
-/

namespace UbseSsu.Plugin

open Kernel Reqshim

variable {capacity : Nat}

section Sequences

variable {kernel : KernelState}

/-- A mount only brings its own device to life. -/
theorem mountLogdevForAllocate_devices (logicalDev allocateId : CString)
    (specs : List MapSpec) (allowMissing : Bool) (device : CtlAnswer)
    (owned : MapsOwned kernel) :
    let result := mountLogdevForAllocate logicalDev allocateId specs
      allowMissing device kernel
    MapsOwned result.2 ∧
      ∀ minor, (result.2.logdevs.get minor).isSome = true →
        (kernel.logdevs.get minor).isSome = true ∨
          result.1 = .ok ∧
            minorForAllocate logicalDev allocateId = some minor := by
  cases parsed : minorForAllocate logicalDev allocateId with
  | none =>
      simp only [mountLogdevForAllocate, parsed]
      exact ⟨owned, fun _ live => .inl live⟩
  | some target =>
      simp only [mountLogdevForAllocate, parsed]
      have only := mountLogdevWithMinor_only logicalDev target specs
        allowMissing device kernel
      refine ⟨only.owned owned, fun minor live => ?_⟩
      by_cases ok : (mountLogdevWithMinor logicalDev target specs allowMissing
        device kernel).1 = .ok
      · by_cases own : minor = target
        · subst own
          exact .inr ⟨ok, rfl⟩
        · rw [(only.others minor own).logdev] at live
          exact .inl live
      · rw [(mountLogdevWithMinor_failed owned ok minor).logdev] at live
        exact .inl live

/-- An unmount brings no device to life, and takes its own one when it
succeeds. -/
theorem unmountLogdevWithMinor_devices (target : Nat) (specs : List MapSpec)
    (allowMissing : Bool) (device : CtlAnswer) (kernel : KernelState) :
    let result := unmountLogdevWithMinor target specs allowMissing device kernel
    (∀ minor, (result.2.logdevs.get minor).isSome = true →
        (kernel.logdevs.get minor).isSome = true) ∧
      (device.openErrno = none → result.1 = .ok →
        result.2.logdevs.get target = none) := by
  unfold unmountLogdevWithMinor
  simp only
  split
  · rename_i err failed
    refine ⟨fun _ live => live, fun _ ok => ?_⟩
    split at failed
    · cases failed
    · cases ok
      cases buildEntries_error failed
  · rename_i entries _ _
    have unmapped := deleteMaps_logdevs entries kernel
    split
    · rename_i skipped
      refine ⟨fun _ live => live, fun present => ?_⟩
      rw [openReqshimCtl, present] at skipped
      cases skipped
    · refine ⟨fun _ live => live, fun _ ok => ?_⟩
      cases ok
    · split
      · split
        · rename_i destroyed
          obtain ⟨_, rfl⟩ := logdevDestroy_ok destroyed
          refine ⟨fun minor live => ?_, fun _ _ => SlotTable.get_clear_self⟩
          by_cases own : minor = target
          · subst own
            rw [mapClearMinor, SlotTable.get_clear_self] at live
            cases live
          · have other := (logdevDestroy_only destroyed).others minor own
            rw [other.logdev, unmapped] at live
            exact live
        · rename_i errno _
          refine ⟨fun minor live => ?_, fun _ ok => ?_⟩
          · rw [unmapped] at live
            exact live
          · exact (errnoToSsuErr_ne_ok errno ok).elim
      · rename_i refused
        exact ⟨fun _ live => live, fun _ ok => (refused ok).elim⟩

theorem unmountLogdevForAllocate_devices (logicalDev allocateId : CString)
    (specs : List MapSpec) (allowMissing : Bool) (device : CtlAnswer)
    (kernel : KernelState) :
    let result := unmountLogdevForAllocate logicalDev allocateId specs
      allowMissing device kernel
    (∀ minor, (result.2.logdevs.get minor).isSome = true →
        (kernel.logdevs.get minor).isSome = true) ∧
      (device.openErrno = none → result.1 = .ok →
        ∀ minor, minorForAllocate logicalDev allocateId = some minor →
          result.2.logdevs.get minor = none) := by
  unfold unmountLogdevForAllocate
  split
  · refine ⟨fun _ live => live, fun _ ok => ?_⟩
    cases ok
  · rename_i target parsed
    obtain ⟨live, gone⟩ := unmountLogdevWithMinor_devices target specs
      allowMissing device kernel
    refine ⟨live, fun present ok minor same => ?_⟩
    rw [parsed] at same
    cases same
    exact gone present ok

theorem unmountLogdevForAllocate_owned (logicalDev allocateId : CString)
    (specs : List MapSpec) (allowMissing : Bool) (device : CtlAnswer)
    (owned : MapsOwned kernel) :
    MapsOwned (unmountLogdevForAllocate logicalDev allocateId specs
      allowMissing device kernel).2 := by
  unfold unmountLogdevForAllocate
  split
  · exact owned
  · exact (unmountLogdevWithMinor_only _ _ _ _ _).owned owned

theorem unmountLogdev_devices (logicalDev : CString) (specs : List MapSpec)
    (allowMissing : Bool) (device : CtlAnswer) (kernel : KernelState) :
    let result := unmountLogdev logicalDev specs allowMissing device kernel
    (MapsOwned kernel → MapsOwned result.2) ∧
      ∀ minor, (result.2.logdevs.get minor).isSome = true →
        (kernel.logdevs.get minor).isSome = true := by
  unfold unmountLogdev
  split
  · exact ⟨id, fun _ live => live⟩
  · exact ⟨(unmountLogdevWithMinor_only _ _ _ _ _).owned,
      (unmountLogdevWithMinor_devices _ _ _ _ _).1⟩

end Sequences

section Answers

variable {before after : MountTables capacity} {err : SsuErr}
  {device : CtlAnswer} {allocateId hostId logicalDev : CString}

theorem MountAnswered.devices
    (answered : MountAnswered device allocateId hostId logicalDev before
      (err, after)) (owned : MapsOwned before.kernel) :
    MapsOwned after.kernel ∧
      ∀ minor, (after.kernel.logdevs.get minor).isSome = true →
        (before.kernel.logdevs.get minor).isSome = true ∨
          err = .ok ∧ minorForAllocate logicalDev allocateId = some minor := by
  have same : MapsOwned before.kernel ∧
      ∀ minor, (before.kernel.logdevs.get minor).isSome = true →
        (before.kernel.logdevs.get minor).isSome = true ∨
          err = .ok ∧ minorForAllocate logicalDev allocateId = some minor :=
    ⟨owned, fun _ live => .inl live⟩
  generalize result : (err, after) = answer at answered
  cases answered with
  | refused _ =>
      obtain ⟨rfl, rfl⟩ := Prod.mk.inj result
      exact same
  | asked hasNamespace maps allowMissing honest =>
      have outcome : VendorMountOutcome maps allowMissing device allocateId
          hostId logicalDev before (err, after) :=
        result ▸ vendorMount_outcome honest
      cases outcome with
      | refused _ => exact same
      | @rejected specs _ _ ended _ =>
          have mounted := mountLogdevForAllocate_devices logicalDev
            allocateId specs allowMissing device owned
          rw [ended] at mounted
          exact mounted
      | @accepted _ _ specs _ _ _ ended =>
          have mounted := mountLogdevForAllocate_devices logicalDev
            allocateId specs allowMissing device owned
          rw [ended] at mounted
          exact mounted

/-- An unmount that answers `SSU_OK` for a row of the table leaves no device
of this row. -/
theorem UnmountAnswered.devices (present : device.openErrno = none)
    (answered : UnmountAnswered device logicalDev before (err, after))
    (owned : MapsOwned before.kernel) :
    MapsOwned after.kernel ∧
      (∀ minor, (after.kernel.logdevs.get minor).isSome = true →
        (before.kernel.logdevs.get minor).isSome = true) ∧
      (after.mounts = before.mounts ∨ ∃ mount : VendorMount,
        before.mounts.rows.Perm (mount :: after.mounts.rows) ∧
          ∀ minor, minorForAllocate mount.logicalDev.chars
              mount.allocateId.chars = some minor →
            after.kernel.logdevs.get minor = none) := by
  generalize result : (err, after) = answer at answered
  cases answered with
  | refused _ _ =>
      obtain ⟨rfl, rfl⟩ := Prod.mk.inj result
      exact ⟨owned, fun _ live => live, .inl rfl⟩
  | asked collect allowMissing honest =>
      have outcome : VendorUnmountOutcome collect allowMissing device logicalDev
          before (err, after) := result ▸ vendorUnmount_outcome honest
      cases outcome with
      | stale _ cleaned =>
          obtain ⟨kept, live⟩ := unmountLogdev_devices logicalDev []
            allowMissing device before.kernel
          rw [cleaned] at kept live
          exact ⟨kept owned, live, .inl rfl⟩
      | refused _ => exact ⟨owned, fun _ live => live, .inl rfl⟩
      | @rejected _ mount _ _ specs _ _ ended _ =>
          have kept := unmountLogdevForAllocate_owned logicalDev
            mount.allocateId.chars specs allowMissing device owned
          have devices := unmountLogdevForAllocate_devices logicalDev
            mount.allocateId.chars specs allowMissing device before.kernel
          rw [ended] at kept devices
          exact ⟨kept, devices.1, .inl rfl⟩
      | @unmounted _ mount active path specs _ _ ended =>
          have kept := unmountLogdevForAllocate_owned logicalDev
            mount.allocateId.chars specs allowMissing device owned
          have devices := unmountLogdevForAllocate_devices logicalDev
            mount.allocateId.chars specs allowMissing device before.kernel
          rw [ended] at kept devices
          refine ⟨kept, devices.1, .inr ⟨mount,
            SlotTable.rows_perm_clear active, ?_⟩⟩
          rw [path]
          exact devices.2 present rfl

end Answers

end UbseSsu.Plugin

import UbseSsu.System.MountedDevices

/-!
# Unmounting a path that nobody mounted

`ssu_controller_unmount` hands an unknown path to the plugin, which takes the
minor from the digits of the path and destroys that minor.  A mounted device
has the minor of its allocation's number instead, so the cleanup of one path
can hit the device of another.  It leaves every mounted device alone exactly
when it does not.
-/

namespace UbseSsu.System

open Controller Plugin Kernel Reqshim

variable {PluginState : Type} {plugin : SsuPluginOps PluginState}
  {capacity : Nat} {tables : PluginState → MountTables capacity}
  {ctl : PluginState → CtlAnswer}

section Stale

/-- The minor of a mounted path, as the mount of its allocation chose it. -/
def MountedMinor (state : ControllerState) (minor : Nat) : Prop :=
  ∃ logdev ∈ state.logdevs.rows,
    minorForAllocate logdev.logicalDev.chars logdev.allocateId.chars =
      some minor

/-- The device and the maps of every mounted path are as they were. -/
def MountedUntouched (state : ControllerState) (before after : KernelState) :
    Prop :=
  ∀ minor, MountedMinor state minor → SameMinor minor before after

/-- The digits of the path are the minor of a mounted device that is live, and
the control device is ready. -/
def HitsMounted (state : ControllerState) (kernel : KernelState)
    (ctl : CtlAnswer) (logicalDev : CString) : Prop :=
  ctl.Ready ∧
    ∃ minor ∈ parseLogicalMinor logicalDev,
      MountedMinor state minor ∧ (kernel.logdevs.get minor).isSome = true

instance (state : ControllerState) (minor : Nat) :
    Decidable (MountedMinor state minor) :=
  inferInstanceAs (Decidable (∃ logdev ∈ state.logdevs.rows, _))

instance (state : ControllerState) (kernel : KernelState) (ctl : CtlAnswer)
    (logicalDev : CString) :
    Decidable (HitsMounted state kernel ctl logicalDev) :=
  inferInstanceAs (Decidable (_ ∧ ∃ minor ∈ parseLogicalMinor logicalDev, _))

theorem attempt_logdevDestroy_absent {kernel : KernelState} {minor : Nat}
    (absent : (kernel.logdevs.get minor).isSome = false) :
    attempt (logdevDestroy minor) kernel = kernel := by
  unfold attempt logdevDestroy
  by_cases bound : Kernel.maxLogdevs ≤ minor
  · rw [if_pos bound]
  · rw [if_neg bound, if_pos (by simpa using absent)]

theorem cleanup_untouched_iff (state : ControllerState) (kernel : KernelState)
    (ctl : CtlAnswer) (logicalDev : CString) :
    MountedUntouched state kernel
        (match parseLogicalMinor logicalDev with
          | none => kernel
          | some minor =>
              if ctl.Ready then
                attempt (logdevDestroy minor) kernel
              else kernel) ↔
      ¬HitsMounted state kernel ctl logicalDev := by
  cases parsed : parseLogicalMinor logicalDev with
  | none =>
      refine iff_of_true (fun minor _ => .refl minor kernel) ?_
      rintro ⟨_, minor, same, _⟩
      rw [parsed] at same
      contradiction
  | some target =>
      by_cases opens : ctl.Ready
      · simp only [opens, if_true]
        constructor
        · rintro untouched ⟨_, minor, same, mounted, live⟩
          rw [parsed, Option.mem_def, Option.some.injEq] at same
          subst same
          have gone := (attempt_logdevDestroy_minor live).logdev
          rw [(untouched target mounted).logdev] at gone
          rw [gone] at live
          contradiction
        · intro missed minor mounted
          by_cases same : minor = target
          · subst same
            have absent : (kernel.logdevs.get minor).isSome = false := by
              refine Bool.eq_false_iff.mpr fun live => missed ?_
              exact ⟨opens, minor, parsed, mounted, live⟩
            rw [attempt_logdevDestroy_absent absent]
            exact .refl minor kernel
          · exact (attempt_only fun _ destroyed =>
              logdevDestroy_only destroyed).others minor same
      · simp only [opens, if_false]
        exact iff_of_true (fun minor _ => .refl minor kernel)
          (fun hit => opens hit.1)

/-- One stale unmount over any plugin that keeps its mounts as the vendors
do. -/
theorem staleUnmount_untouched_iff (vendor : VendorPlugin plugin tables ctl)
    {state : ControllerState} {world : PluginState}
    (known : MountsKnown tables state world) {unmount}
    (provided : plugin.unmount = some unmount) (logicalDev : CString)
    (unknown : ∀ logdev ∈ state.logdevs.rows,
      logdev.logicalDev.chars ≠ logicalDev) :
    MountedUntouched state (tables world).kernel
        (tables (step plugin (state, world)
          (.unmount logicalDev)).2).kernel ↔
      ¬HitsMounted state (tables world).kernel (ctl world) logicalDev := by
  have absent : findLogdevByDev state logicalDev = none := by
    simpa [findLogdevByDev, logdevHasDev] using unknown
  have result : (tables (step plugin (state, world)
      (.unmount logicalDev)).2).kernel =
      match parseLogicalMinor logicalDev with
      | none => (tables world).kernel
      | some minor =>
          if (ctl world).Ready then
            attempt (logdevDestroy minor) (tables world).kernel
          else (tables world).kernel := by
    simp only [step, exec, ssuControllerUnmount, provided, absent]
    split
    · rename_i unnamed
      rw [(isEmptyString_iff _).mp unnamed]
      rfl
    · refine (vendor.unmount provided logicalDev world).stale ?_
      intro mount member same
      obtain ⟨logdev, logdevMember, sameDev⟩ := known.known mount member
      exact unknown logdev logdevMember ((congrArg _ sameDev).trans same)
  rw [result]
  exact cleanup_untouched_iff _ _ _ _

/-- In every reachable state of both vendors, the unmount of a path without a
logical-device row leaves the devices and maps of all mounted paths alone if
and only if its digits do not name one of them. -/
theorem staleUnmount_safe_iff (mockHost : MockHost) (lbcHost : LbcHost)
    (ops : List ControllerOp) (logicalDev : CString) :
    (let current := Transition.run (step (mockPlugin mockHost))
      (.initial, .initial) ops
    (∀ logdev ∈ current.1.logdevs.rows,
        logdev.logicalDev.chars ≠ logicalDev) →
      (MountedUntouched current.1 current.2.tables.kernel
          (step (mockPlugin mockHost) current
            (.unmount logicalDev)).2.tables.kernel ↔
        ¬HitsMounted current.1 current.2.tables.kernel
          (mockHost.ctl current.2.clock) logicalDev)) ∧
      let current := Transition.run (step (lbcMockPlugin lbcHost))
        (.initial, .initial) ops
      (∀ logdev ∈ current.1.logdevs.rows,
          logdev.logicalDev.chars ≠ logicalDev) →
        (MountedUntouched current.1 current.2.tables.kernel
            (step (lbcMockPlugin lbcHost) current
              (.unmount logicalDev)).2.tables.kernel ↔
          ¬HitsMounted current.1 current.2.tables.kernel
            (lbcHost.ctl current.2.clock) logicalDev) := by
  constructor
  · intro current unknown
    have vendor := mock_vendorPlugin mockHost
    have known := ((mountsKnown_preserved vendor).run
      (mountsKnown_initial _ .initial rfl) ops).2
    exact staleUnmount_untouched_iff vendor known rfl logicalDev unknown
  · intro current unknown
    have vendor := lbcMock_vendorPlugin lbcHost
    have known := ((mountsKnown_preserved vendor).run
      (mountsKnown_initial _ .initial rfl) ops).2
    exact staleUnmount_untouched_iff vendor known rfl logicalDev unknown

/-- The control device is there, and the one mock SSU is `/dev/nullb0`. -/
def liveMockHost : MockHost :=
  { ssuCount := "1".toList
    backendDir := []
    sysBlock := fun _ => []
    nullblkExists := fun _ _ => false
    nullblkSectors := fun _ _ => none
    openBackend := fun _ _ => false
    ctl := fun _ => { openErrno := none, blockLayer := none } }

/-- The scripts succeed, and every new namespace appears as `nvme0n1`. -/
def liveLbcHost : LbcHost :=
  { resourceCount := 1
    countInRange := oneResource_inRange
    resourceBytes := uint64Max
    devDir := "/dev".toList
    configfsDir := "/sys/kernel/config/nvmet/subsystems".toList
    scriptsAvailable := fun _ => true
    setupCommand := fun _ => true
    createCommand := fun _ => true
    deleteCommand := fun _ => true
    createdDev := fun _ _ => some "/dev/nvme0n1".toList
    createdNsid := fun _ _ => some "1".toList
    ctl := fun _ => { openErrno := none, blockLayer := none } }

/-- A disk named `data` is mounted; its kernel minor is 0. -/
def mountNamed : List ControllerOp :=
  [.refreshPool, .alloc (plainRequest 8192 "data".toList) ⟨true, 8⟩,
    .mount (plainMount "alloc-0".toList "/dev/ssu/data".toList)]

theorem staleUnmount_misses_named :
    (let current := Transition.run (step (mockPlugin liveMockHost))
      (.initial, .initial) mountNamed
    MountedUntouched current.1 current.2.tables.kernel
      (step (mockPlugin liveMockHost) current
        (.unmount "/dev/ssu/ssu7".toList)).2.tables.kernel) ∧
    (let current := Transition.run (step (lbcMockPlugin liveLbcHost))
      (.initial, .initial) mountNamed
    MountedUntouched current.1 current.2.tables.kernel
      (step (lbcMockPlugin liveLbcHost) current
        (.unmount "/dev/ssu/ssu7".toList)).2.tables.kernel) :=
  ⟨((staleUnmount_safe_iff liveMockHost liveLbcHost mountNamed
      "/dev/ssu/ssu7".toList).1 (by decide +kernel)).mpr (by decide +kernel),
    ((staleUnmount_safe_iff liveMockHost liveLbcHost mountNamed
      "/dev/ssu/ssu7".toList).2 (by decide +kernel)).mpr (by decide +kernel)⟩

/-- Nobody mounted `/dev/ssu/ssu0`, yet its unmount destroys the device of
`/dev/ssu/data`. -/
theorem staleUnmount_hits_named :
    let current := Transition.run (step (mockPlugin liveMockHost))
      (.initial, .initial) mountNamed
    (∀ logdev ∈ current.1.logdevs.rows,
        logdev.logicalDev.chars ≠ "/dev/ssu/ssu0".toList) ∧
      ¬MountedUntouched current.1 current.2.tables.kernel
        (step (mockPlugin liveMockHost) current
          (.unmount "/dev/ssu/ssu0".toList)).2.tables.kernel := by
  refine ⟨by decide +kernel, fun untouched => ?_⟩
  have same := (untouched 0 (by decide +kernel)).logdev
  revert same
  decide +kernel

end Stale

end UbseSsu.System

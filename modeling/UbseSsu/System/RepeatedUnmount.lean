import UbseSsu.System.StaleUnmount

/-!
# Unmounting a path twice

The first unmount takes the rows of the path, so the second one is the cleanup
of an unknown path: it takes a minor from the digits of the path and asks the
kernel to destroy it.  It answers `SSU_OK` and changes nothing exactly when
the path has such digits and there is no control device to ask.
-/

namespace UbseSsu.System

open Controller Plugin Kernel Reqshim

section Cleanup

/-- The control device does not exist. -/
def Missing (ctl : CtlAnswer) : Prop :=
  ctl.openErrno = some .enoent ∨ ctl.openErrno = some .enodev

instance (ctl : CtlAnswer) : Decidable (Missing ctl) :=
  inferInstanceAs (Decidable (_ ∨ _))

variable {ctl : CtlAnswer}

theorem openReqshimCtl_missing (missing : Missing ctl) :
    openReqshimCtl true ctl = .skipped := by
  unfold openReqshimCtl
  rcases missing with absent | absent
  · simp only [absent, if_true]
  · simp only [absent, if_true]

/-- A device that is destroyed was there before and is not there after. -/
theorem logdevDestroy_changes {kernel after : KernelState} {minor : Nat}
    (destroyed : logdevDestroy minor kernel = .ok after) : after ≠ kernel := by
  obtain ⟨live, rfl⟩ := logdevDestroy_ok destroyed
  intro same
  have gone : (mapClearMinor minor { kernel with
      logdevs := kernel.logdevs.clear minor }).logdevs.get minor = none :=
    SlotTable.get_clear_self
  rw [same] at gone
  rw [gone] at live
  cases live

/-- The cleanup succeeds without an effect when it has a minor and nobody to
ask. -/
theorem unmountLogdev_kept_iff (logicalDev : CString) (ctl : CtlAnswer)
    (kernel : KernelState) :
    unmountLogdev logicalDev [] true ctl kernel = (.ok, kernel) ↔
      (parseLogicalMinor logicalDev).isSome = true ∧ Missing ctl := by
  cases parsed : parseLogicalMinor logicalDev with
  | none => simp [unmountLogdev, parsed]
  | some minor =>
      simp only [unmountLogdev, parsed, unmountLogdevWithMinor, if_true,
        Option.isSome_some, true_and]
      constructor
      · intro kept
        cases opened : openReqshimCtl true ctl with
        | skipped =>
            unfold openReqshimCtl at opened
            split at opened
            · cases opened
            · rename_i absent
              exact .inl absent
            · rename_i absent
              exact .inr absent
            · cases opened
        | failed =>
            simp only [opened] at kept
            cases kept
        | opened =>
            simp only [opened] at kept
            cases version : checkVersion ctl with
            | ok =>
                simp only [version, deleteMaps, List.foldl_nil] at kept
                cases destroyed : logdevDestroy minor kernel with
                | ok after =>
                    rw [destroyed] at kept
                    have same := congrArg Prod.snd kept
                    exact (logdevDestroy_changes destroyed same).elim
                | error errno =>
                    rw [destroyed] at kept
                    have ok := congrArg Prod.fst kept
                    exact (errnoToSsuErr_ne_ok errno ok).elim
            | _ =>
                simp only [version] at kept
                cases kept
      · intro missing
        simp only [openReqshimCtl_missing missing]

end Cleanup

section Repeated

variable {host : MockHost} {state : ControllerState} {world : MockState}
  {logicalDev : CString}

/-- An unmount that answers `SSU_OK` leaves no row of its path. -/
theorem unmounted_unknown
    (known : MountsKnown MockState.tables state world)
    (answered : (ssuControllerUnmount (mockPlugin host) logicalDev state
      world).1 = .ok) :
    let after := (ssuControllerUnmount (mockPlugin host) logicalDev state
      world).2
    (∀ logdev ∈ after.1.logdevs.rows, logdev.logicalDev.chars ≠ logicalDev) ∧
      ∀ mount ∈ after.2.tables.mounts.rows,
        mount.logicalDev.chars ≠ logicalDev := by
  have vendor := mock_vendorPlugin host
  have outcome := ssuControllerUnmount_outcome (mockPlugin host) logicalDev
    state world
  simp only
  generalize ssuControllerUnmount (mockPlugin host) logicalDev state world =
    result at outcome answered ⊢
  have cleared : ∀ {unmount}, (mockPlugin host).unmount = some unmount →
      (unmount logicalDev world).1 = .ok →
      ∀ mount ∈ (unmount logicalDev world).2.tables.mounts.rows,
        mount.logicalDev.chars ≠ logicalDev := by
    intro unmount provided ok mount member
    have parts := (vendor.unmount provided logicalDev world).mounts
    exact (known.kept_of_unmount
      (parts.imp (fun kept => ⟨kept.1, kept.2 ok⟩) And.right) mount member).2
  cases outcome with
  | refused failed => exact (failed answered).elim
  | rejected _ _ failed => exact (failed answered).elim
  | stale provided _ unknown => exact ⟨unknown, cleared provided answered⟩
  | unmounted provided found accepted =>
      refine ⟨?_, ?_⟩
      · intro logdev member
        rw [recordUnmount_logdevs] at member
        have other := (List.mem_filter.mp member).2
        simpa [logdevHasDev] using other
      · have taken := cleared provided (by rw [accepted])
        rwa [accepted] at taken

/-- The unmount of a path without rows is the cleanup alone. -/
theorem unmount_unknown (named : logicalDev ≠ [])
    (unknown : ∀ logdev ∈ state.logdevs.rows,
      logdev.logicalDev.chars ≠ logicalDev)
    (unmounted : ∀ mount ∈ world.tables.mounts.rows,
      mount.logicalDev.chars ≠ logicalDev) :
    ssuControllerUnmount (mockPlugin host) logicalDev state world =
      let cleanup := unmountLogdev logicalDev [] true (host.ctl world.clock)
        world.tables.kernel
      (cleanup.1, state, { world.tick with
        tables := { world.tables with kernel := cleanup.2 } }) := by
  have noDisk : findLogdevByDev state logicalDev = none := by
    simpa [findLogdevByDev, logdevHasDev] using unknown
  have noMount : world.tables.mounts.findRow (mountHasDev logicalDev) = none :=
    SlotTable.findRow_eq_none_iff.mpr (by simpa [mountHasDev] using unmounted)
  have filled : isEmptyString logicalDev = false :=
    Bool.eq_false_iff.mpr fun unnamed =>
      named ((isEmptyString_iff _).mp unnamed)
  simp [ssuControllerUnmount, mockPlugin, mockUnmount, vendorUnmount, filled,
    noDisk, noMount]

/-- In every reachable state, the unmount that repeats a successful one
answers `SSU_OK` with every table as it was if and only if the path ends in
`ssu` and a number and there is no control device. -/
theorem repeated_unmount_iff (host : MockHost) (ops : List ControllerOp)
    (logicalDev : CString) :
    let current := Transition.run (step (mockPlugin host))
      (.initial, .initial) ops
    let unmount := ssuControllerUnmount (mockPlugin host) logicalDev
    let first := unmount current.1 current.2
    first.1 = .ok →
      (unmount first.2.1 first.2.2 =
          (.ok, first.2.1, first.2.2.tick) ↔
        (parseLogicalMinor logicalDev).isSome = true ∧
          Missing (host.ctl first.2.2.clock)) := by
  intro current unmount first answered
  have known := ((mountsKnown_preserved (mock_vendorPlugin host)).run
    (mountsKnown_initial _ .initial rfl) ops).2
  obtain ⟨unknown, unmounted⟩ := unmounted_unknown known answered
  have named : logicalDev ≠ [] := by
    rintro rfl
    cases answered
  rw [show unmount first.2.1 first.2.2 = _ from
    unmount_unknown named unknown unmounted]
  rw [← unmountLogdev_kept_iff]
  constructor
  · intro kept
    have ok := congrArg Prod.fst kept
    have kernel := congrArg (fun result => result.2.2.tables.kernel) kept
    exact Prod.ext ok kernel
  · intro kept
    rw [kept]
    rfl

/-- No kernel module is loaded. -/
def noModuleHost : MockHost :=
  { liveMockHost with
    ctl := fun _ => { openErrno := some .enoent, blockLayer := none } }

/-- A disk is mounted under the name that its number gives it. -/
def mountNumbered : List ControllerOp :=
  [.refreshPool, .alloc (plainRequest 8192 "data".toList) ⟨true, 8⟩,
    .mount (plainMount "alloc-0".toList "/dev/ssu/ssu0".toList)]

theorem repeated_unmount_numbered :
    let current := Transition.run (step (mockPlugin noModuleHost))
      (.initial, .initial) mountNumbered
    let unmount := ssuControllerUnmount (mockPlugin noModuleHost)
      "/dev/ssu/ssu0".toList
    let first := unmount current.1 current.2
    unmount first.2.1 first.2.2 = (.ok, first.2.1, first.2.2.tick) :=
  (repeated_unmount_iff noModuleHost mountNumbered "/dev/ssu/ssu0".toList
    (by decide +kernel)).mpr (by decide +kernel)

/-- The disk `data` is unmounted, and the repeated unmount finds no number in
the path. -/
theorem repeated_unmount_refused :
    let current := Transition.run (step (mockPlugin liveMockHost))
      (.initial, .initial) mountNamed
    let unmount := ssuControllerUnmount (mockPlugin liveMockHost)
      "/dev/ssu/data".toList
    let first := unmount current.1 current.2
    first.1 = .ok ∧ (unmount first.2.1 first.2.2).1 = .invalid := by
  decide +kernel

end Repeated

end UbseSsu.System

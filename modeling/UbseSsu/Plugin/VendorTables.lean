import UbseSsu.Plugin.LbcMock
import UbseSsu.Plugin.Mock

/-!
# What both vendor plugins do to their mount tables

`VendorPlugin` says that a plugin touches its mount table and the kernel in
`mount` and `unmount` only, and there through the common sequences.  Both
vendors satisfy it, so what follows from it is proved once for both.
-/

namespace UbseSsu.Plugin

open Kernel Reqshim

variable {capacity : Nat}

inductive MountAnswered (ctl : CtlAnswer) (allocateId hostId : CString)
    (logicalDev : CString) (tables : MountTables capacity) :
    SsuErr × MountTables capacity → Prop where
  | refused {err : SsuErr} (failed : err ≠ .ok) :
      MountAnswered ctl allocateId hostId logicalDev tables (err, tables)
  | asked (hasNamespace : Bool) (maps : Except SsuErr (List MapSpec))
      (allowMissing : Bool) (honest : ∀ err, maps = .error err → err ≠ .ok) :
      MountAnswered ctl allocateId hostId logicalDev tables
        (vendorMount hasNamespace maps allowMissing ctl allocateId hostId
          logicalDev tables)

inductive UnmountAnswered (ctl : CtlAnswer) (logicalDev : CString)
    (tables : MountTables capacity) : SsuErr × MountTables capacity → Prop where
  | refused {err : SsuErr} (unnamed : logicalDev = []) (failed : err ≠ .ok) :
      UnmountAnswered ctl logicalDev tables (err, tables)
  | asked (collect : CString → Except SsuErr (List MapSpec))
      (allowMissing : Bool)
      (honest : ∀ allocateId err, collect allocateId = .error err →
        err ≠ .ok) :
      UnmountAnswered ctl logicalDev tables
        (vendorUnmount collect allowMissing ctl logicalDev tables)

structure VendorPlugin {PluginState : Type} (plugin : SsuPluginOps PluginState)
    (tables : PluginState → MountTables capacity)
    (ctl : PluginState → CtlAnswer) : Prop where
  discover : ∀ {discover}, plugin.discover = some discover →
    ∀ world, tables (discover world).2 = tables world
  connect : ∀ {connect}, plugin.connect = some connect →
    ∀ ssuId world, tables (connect ssuId world).2 = tables world
  healthCheck : ∀ {healthCheck}, plugin.healthCheck = some healthCheck →
    ∀ ssuId world, tables (healthCheck ssuId world).2 = tables world
  createNs : ∀ {createNs}, plugin.createNs = some createNs →
    ∀ extentReq world, tables (createNs extentReq world).2 = tables world
  deleteNs : ∀ {deleteNs}, plugin.deleteNs = some deleteNs →
    ∀ ssuId nsId world, tables (deleteNs ssuId nsId world).2 = tables world
  mount : ∀ {mount}, plugin.mount = some mount →
    ∀ allocateId hostId logicalDev world,
      MountAnswered (ctl world) allocateId hostId logicalDev.chars
        (tables world) ((mount allocateId hostId logicalDev world).1,
          tables (mount allocateId hostId logicalDev world).2)
  unmount : ∀ {unmount}, plugin.unmount = some unmount →
    ∀ logicalDev world, UnmountAnswered (ctl world) logicalDev (tables world)
      ((unmount logicalDev world).1, tables (unmount logicalDev world).2)

section Collect

theorem collectMapsLoop_error {host : MockHost} {time : Nat}
    {rows : List MockNamespace} {err : SsuErr}
    (failed : collectMapsLoop host time rows = .error err) : err ≠ .ok := by
  induction rows with
  | nil => cases failed
  | cons ns others induction =>
      simp only [collectMapsLoop] at failed
      split at failed
      · split at failed
        · rename_i later
          exact induction (later.trans (congrArg _ (Except.error.inj failed)))
        · cases failed
      · rename_i refused _
        obtain rfl := Except.error.inj failed
        exact refused

theorem collectReqshimMaps_error (host : MockHost) (world : MockState)
    (allocateId : CString) (err : SsuErr)
    (failed : collectReqshimMaps host world allocateId = .error err) :
    err ≠ .ok := by
  unfold collectReqshimMaps at failed
  split at failed
  · exact Except.error.inj failed ▸ (by decide)
  · exact collectMapsLoop_error failed

theorem lbcCollectLoop_error {rows : List LbcNamespace} {err : SsuErr}
    (failed : lbcCollectLoop rows = .error err) : err ≠ .ok := by
  induction rows with
  | nil => cases failed
  | cons ns others induction =>
      simp only [lbcCollectLoop] at failed
      split at failed
      · exact Except.error.inj failed ▸ (by decide)
      · split at failed
        · rename_i later
          exact induction (later.trans (congrArg _ (Except.error.inj failed)))
        · cases failed

theorem lbcCollectReqshimMaps_error (world : LbcState) (allocateId : CString)
    (err : SsuErr)
    (failed : lbcCollectReqshimMaps world allocateId = .error err) :
    err ≠ .ok := by
  unfold lbcCollectReqshimMaps at failed
  split at failed
  · exact Except.error.inj failed ▸ (by decide)
  · split at failed
    · exact Except.error.inj failed ▸ (by decide)
    · exact lbcCollectLoop_error failed

end Collect

section Vendors

theorem mock_vendorPlugin (host : MockHost) :
    VendorPlugin (mockPlugin host) MockState.tables
      (fun world => host.ctl world.clock) where
  discover provided world := by cases provided; rfl
  connect provided ssuId world := by cases provided; rfl
  healthCheck provided ssuId world := by cases provided; rfl
  createNs provided extentReq world := by
    cases provided
    unfold mockCreateNs
    simp only
    split
    · rfl
    · split <;> rfl
  deleteNs provided ssuId nsId world := by
    cases provided
    unfold mockDeleteNs
    split <;> rfl
  mount provided allocateId hostId logicalDev world := by
    cases provided
    exact .asked _ _ true (collectReqshimMaps_error host world allocateId)
  unmount provided logicalDev world := by
    cases provided
    exact .asked _ true (collectReqshimMaps_error host world)

theorem lbcMock_vendorPlugin (host : LbcHost) :
    VendorPlugin (lbcMockPlugin host) LbcState.tables
      (fun world => host.ctl world.clock) where
  discover provided world := by cases provided; rfl
  connect provided ssuId world := by cases provided; rfl
  healthCheck provided ssuId world := by cases provided; rfl
  createNs provided extentReq world := by
    cases provided
    unfold lbcMockCreateNs
    simp only
    split
    · rfl
    · split
      · rfl
      · split
        · rfl
        · split
          · rfl
          · split
            · rfl
            · split
              · rfl
              · split <;> rfl
            · rfl
  deleteNs provided ssuId nsId world := by
    cases provided
    unfold lbcMockDeleteNs
    split
    · rfl
    · split
      · rfl
      · split <;> rfl
  mount provided allocateId hostId logicalDev world := by
    cases provided
    unfold lbcMockMount
    split
    · exact .refused nofun
    · exact .asked _ _ _ (lbcCollectReqshimMaps_error world allocateId)
  unmount provided logicalDev world := by
    cases provided
    unfold lbcMockUnmount
    split
    · rename_i unnamed
      exact .refused ((isEmptyString_iff _).mp unnamed) nofun
    · exact .asked _ _ (lbcCollectReqshimMaps_error world)

end Vendors

section Sequences

variable {hasNamespace allowMissing : Bool}
  {maps : Except SsuErr (List MapSpec)}
  {collect : CString → Except SsuErr (List MapSpec)} {ctl : CtlAnswer}
  {allocateId hostId logicalDev : CString} {tables : MountTables capacity}

/-- What the common mount sequence can do. -/
inductive VendorMountOutcome (maps : Except SsuErr (List MapSpec))
    (allowMissing : Bool) (ctl : CtlAnswer)
    (allocateId hostId logicalDev : CString) (tables : MountTables capacity) :
    SsuErr × MountTables capacity → Prop where
  | refused {err : SsuErr} (failed : err ≠ .ok) :
      VendorMountOutcome maps allowMissing ctl allocateId hostId logicalDev
        tables (err, tables)
  | rejected {specs : List MapSpec} {err : SsuErr} {kernel : KernelState}
      (mounted : mountLogdevForAllocate logicalDev allocateId specs
        allowMissing ctl tables.kernel = (err, kernel)) (failed : err ≠ .ok) :
      VendorMountOutcome maps allowMissing ctl allocateId hostId logicalDev
        tables (err, { tables with kernel })
  | accepted {slot : Nat} (free : tables.mounts.firstFree = some slot)
      {specs : List MapSpec} (collected : maps = .ok specs)
      (unused : ∀ mount ∈ tables.mounts.rows,
        mount.logicalDev.chars ≠ logicalDev)
      {kernel : KernelState}
      (mounted : mountLogdevForAllocate logicalDev allocateId specs
        allowMissing ctl tables.kernel = (.ok, kernel)) :
      VendorMountOutcome maps allowMissing ctl allocateId hostId logicalDev
        tables
        (.ok,
          { mounts := tables.mounts.put slot
              { allocateId := copyCstr 64 allocateId
                hostId := copyCstr 64 hostId
                logicalDev := copyCstr 64 logicalDev }
            kernel })

theorem vendorMount_outcome (honest : ∀ err, maps = .error err → err ≠ .ok) :
    VendorMountOutcome maps allowMissing ctl allocateId hostId logicalDev
      tables (vendorMount hasNamespace maps allowMissing ctl allocateId hostId
        logicalDev tables) := by
  unfold vendorMount
  split
  · exact .refused (by decide)
  · split
    · exact .refused (by decide)
    · rename_i unused
      have missing := Option.not_isSome_iff_eq_none.mp unused
      split
      · exact .refused (by decide)
      · exact .refused (honest _ rfl)
      · rename_i slot specs free
        split
        · rename_i kernel mounted
          refine .accepted free rfl ?_ mounted
          simpa [mountHasDev] using SlotTable.findRow_eq_none_iff.mp missing
        · rename_i failed mounted
          exact .rejected mounted failed

/-- What the common unmount sequence can do. -/
inductive VendorUnmountOutcome
    (collect : CString → Except SsuErr (List MapSpec)) (allowMissing : Bool)
    (ctl : CtlAnswer) (logicalDev : CString) (tables : MountTables capacity) :
    SsuErr × MountTables capacity → Prop where
  | stale (unknown : ∀ mount ∈ tables.mounts.rows,
        mount.logicalDev.chars ≠ logicalDev)
      {err : SsuErr} {kernel : KernelState}
      (cleaned : unmountLogdev logicalDev [] allowMissing ctl tables.kernel =
        (err, kernel)) :
      VendorUnmountOutcome collect allowMissing ctl logicalDev tables
        (err, { tables with kernel })
  | refused {err : SsuErr} (failed : err ≠ .ok) :
      VendorUnmountOutcome collect allowMissing ctl logicalDev tables
        (err, tables)
  | rejected {slot : Nat} {mount : VendorMount}
      (active : tables.mounts.get slot = some mount)
      (path : mount.logicalDev.chars = logicalDev) {specs : List MapSpec}
      {err : SsuErr} {kernel : KernelState}
      (unmounted : unmountLogdevForAllocate logicalDev mount.allocateId.chars
        specs allowMissing ctl tables.kernel = (err, kernel))
      (failed : err ≠ .ok) :
      VendorUnmountOutcome collect allowMissing ctl logicalDev tables
        (err, { tables with kernel })
  | unmounted {slot : Nat} {mount : VendorMount}
      (active : tables.mounts.get slot = some mount)
      (path : mount.logicalDev.chars = logicalDev) {specs : List MapSpec}
      (collected : collect mount.allocateId.chars = .ok specs)
      {kernel : KernelState}
      (unmounted : unmountLogdevForAllocate logicalDev mount.allocateId.chars
        specs allowMissing ctl tables.kernel = (.ok, kernel)) :
      VendorUnmountOutcome collect allowMissing ctl logicalDev tables
        (.ok, { mounts := tables.mounts.clear slot, kernel })

theorem vendorUnmount_outcome
    (honest : ∀ allocateId err, collect allocateId = .error err → err ≠ .ok) :
    VendorUnmountOutcome collect allowMissing ctl logicalDev tables
      (vendorUnmount collect allowMissing ctl logicalDev tables) := by
  unfold vendorUnmount
  split
  · rename_i missing
    refine .stale ?_ rfl
    simpa [mountHasDev] using SlotTable.findRow_eq_none_iff.mp missing
  · rename_i slot mount found
    obtain ⟨active, named⟩ := SlotTable.findRow_eq_some found
    have path : mount.logicalDev.chars = logicalDev := of_decide_eq_true named
    split
    · rename_i refused
      exact .refused (honest _ _ refused)
    · rename_i specs collected
      split
      · rename_i unmounted
        exact .unmounted active path collected unmounted
      · rename_i failed unmounted
        exact .rejected active path unmounted failed

end Sequences

section Mounts

variable {tables after : MountTables capacity} {err : SsuErr}
  {ctl : CtlAnswer} {allocateId hostId logicalDev : CString}

/-- A refused mount leaves the mount table alone, an accepted one adds a row
under a path that was not there. -/
theorem MountAnswered.mounts
    (answered : MountAnswered ctl allocateId hostId logicalDev tables
      (err, after)) :
    (err ≠ .ok ∧ after.mounts = tables.mounts) ∨
      (err = .ok ∧ (∀ mount ∈ tables.mounts.rows,
          mount.logicalDev.chars ≠ logicalDev) ∧
        ∃ mount : VendorMount, mount.logicalDev = copyCstr 64 logicalDev ∧
          mount.allocateId = copyCstr 64 allocateId ∧
          after.mounts.rows.Perm (mount :: tables.mounts.rows)) := by
  generalize result : (err, after) = answer at answered
  cases answered with
  | refused failed =>
      obtain ⟨rfl, rfl⟩ := Prod.mk.inj result
      exact .inl ⟨failed, rfl⟩
  | asked hasNamespace maps allowMissing honest =>
      have outcome : VendorMountOutcome maps allowMissing ctl allocateId hostId
          logicalDev tables (err, after) := result ▸ vendorMount_outcome honest
      cases outcome with
      | refused failed => exact .inl ⟨failed, rfl⟩
      | rejected _ failed => exact .inl ⟨failed, rfl⟩
      | accepted free _ unused _ =>
          obtain ⟨bound, isFree⟩ := SlotTable.get_firstFree free
          exact .inr ⟨rfl, unused, _, rfl, rfl,
            SlotTable.rows_put_perm bound isFree⟩

/-- An unmount removes at most the row of its path. -/
theorem UnmountAnswered.mounts
    (answered : UnmountAnswered ctl logicalDev tables (err, after)) :
    after.mounts = tables.mounts ∧
        (err = .ok → ∀ mount ∈ tables.mounts.rows,
          mount.logicalDev.chars ≠ logicalDev) ∨
      err = .ok ∧ ∃ mount : VendorMount, mount.logicalDev.chars = logicalDev ∧
        tables.mounts.rows.Perm (mount :: after.mounts.rows) := by
  generalize result : (err, after) = answer at answered
  cases answered with
  | refused _ failed =>
      obtain ⟨rfl, rfl⟩ := Prod.mk.inj result
      exact .inl ⟨rfl, fun ok => (failed ok).elim⟩
  | asked collect allowMissing honest =>
      have outcome : VendorUnmountOutcome collect allowMissing ctl logicalDev
          tables (err, after) := result ▸ vendorUnmount_outcome honest
      cases outcome with
      | stale unknown _ => exact .inl ⟨rfl, fun _ => unknown⟩
      | refused failed => exact .inl ⟨rfl, fun ok => (failed ok).elim⟩
      | rejected _ _ _ failed => exact .inl ⟨rfl, fun ok => (failed ok).elim⟩
      | unmounted active path _ _ =>
          exact .inr ⟨rfl, _, path, SlotTable.rows_perm_clear active⟩

/-- A path without a row only meets the stale cleanup of its minor. -/
theorem UnmountAnswered.stale
    (answered : UnmountAnswered ctl logicalDev tables (err, after))
    (unknown : ∀ mount ∈ tables.mounts.rows,
      mount.logicalDev.chars ≠ logicalDev) :
    after.kernel =
      match parseLogicalMinor logicalDev with
      | none => tables.kernel
      | some minor =>
          if ctl.Ready then
            attempt (logdevDestroy minor) tables.kernel
          else tables.kernel := by
  generalize result : (err, after) = answer at answered
  cases answered with
  | refused unnamed _ =>
      obtain ⟨rfl, rfl⟩ := Prod.mk.inj result
      subst unnamed
      rfl
  | asked collect allowMissing _ =>
      have missing : tables.mounts.findRow (mountHasDev logicalDev) = none :=
        SlotTable.findRow_eq_none_iff.mpr (by simpa [mountHasDev] using unknown)
      simp only [vendorUnmount, missing] at result
      obtain ⟨rfl, rfl⟩ := Prod.mk.inj result
      cases parsed : parseLogicalMinor logicalDev with
      | none => simp only [unmountLogdev, parsed]
      | some minor =>
          simp only [unmountLogdev, parsed]
          exact unmountLogdevWithMinor_nil minor allowMissing ctl tables.kernel

end Mounts

end UbseSsu.Plugin

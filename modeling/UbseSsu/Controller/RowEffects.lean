import UbseSsu.Controller.MountState

/-!
# What one operation does to the allocation rows

Between two operations the allocation table only changes in three ways: an
allocation adds its rows, a release removes some, and a mount or an unmount
rewrites the state of one allocation's rows.
-/

namespace UbseSsu.Controller

variable {PluginState : Type} {plugin : SsuPluginOps PluginState}

inductive RowsEffect (plugin : SsuPluginOps PluginState)
    (current : ControllerState × PluginState) :
    ControllerOp → ControllerState × PluginState → Prop where
  | kept {op : ControllerOp} {after : ControllerState × PluginState}
      (same : after.1.allocations = current.1.allocations) :
      RowsEffect plugin current op after
  | restated {op : ControllerOp} {after : ControllerState × PluginState}
      (allocateId : CString) (newState : CBuf 16)
      (rows : after.1.allocations.rows =
        current.1.allocations.rows.map (setRowState allocateId newState)) :
      RowsEffect plugin current op after
  | placed {req : SsuAllocReq} {buffer : ExtentBuffer} {createNs}
      (provided : plugin.createNs = some createNs) {ctx : AllocContext}
      {number : UInt64} {selected : List Nat}
      {entries : List (Nat × ControllerAllocation)}
      {last : ControllerState × PluginState}
      (plan : AllocPlan req current.1 ctx number selected)
      (run : ExtentRun createNs ctx selected 0 0
        (numbered current.1 number, current.2) entries last)
      (fresh : exec plugin (.alloc req buffer) current.1 current.2 =
        (.ok, advanced last.1, last.2)) :
      RowsEffect plugin current (.alloc req buffer) (advanced last.1, last.2)
  | removed {allocateId : CString} {after : ControllerState × PluginState}
      (gone : List ControllerAllocation)
      (owned : ∀ row ∈ gone, rowHasId allocateId row = true)
      (rows : current.1.allocations.rows.Perm
        (gone ++ after.1.allocations.rows)) :
      RowsEffect plugin current (.release allocateId) after

theorem rowsEffect_alloc (current : ControllerState × PluginState)
    (named : LogdevsNamed current.1) (req : SsuAllocReq)
    (buffer : ExtentBuffer) :
    RowsEffect plugin current (.alloc req buffer)
      (step plugin current (.alloc req buffer)) := by
  obtain ⟨state, world⟩ := current
  have outcome := ssuControllerAlloc_outcome plugin req buffer state world
  simp only [step, exec]
  generalize answered : ssuControllerAlloc plugin req buffer state world =
    result at outcome
  cases outcome with
  | refused number _ => exact .kept rfl
  | reused _ => exact .kept rfl
  | @undone _ _ _ _ _ _ _ _ _ _ after plan _ run _ _ =>
      exact .kept (AllocOutcome.undone_tables plugin after plan named run).1
  | created provided plan run ok _ =>
      refine .placed provided plan run ?_
      simp only [exec, answered, ok]

theorem rowsEffect_release (current : ControllerState × PluginState)
    (allocateId : CString) :
    RowsEffect plugin current (.release allocateId)
      (step plugin current (.release allocateId)) := by
  obtain ⟨state, world⟩ := current
  have outcome := ssuControllerRelease_outcome plugin allocateId state world
  simp only [step, exec]
  generalize ssuControllerRelease plugin allocateId state world = result
    at outcome
  cases outcome with
  | refused _ => exact .kept rfl
  | stopped _ _ run _ _ _ _ => exact .removed _ run.owned run.rows_perm
  | released _ _ run _ _ =>
      refine .removed _ run.owned ?_
      rw [rememberReleasedId_allocations]
      exact run.rows_perm
  | absent _ => exact .kept rfl

theorem rowsEffect_unmount (current : ControllerState × PluginState)
    (named : LogdevsNamed current.1) (logicalDev : CString) :
    RowsEffect plugin current (.unmount logicalDev)
      (step plugin current (.unmount logicalDev)) := by
  obtain ⟨state, world⟩ := current
  have outcome := ssuControllerUnmount_outcome plugin logicalDev state world
  simp only [step, exec]
  generalize ssuControllerUnmount plugin logicalDev state world = result
    at outcome
  cases outcome with
  | refused _ => exact .kept rfl
  | stale _ _ _ => exact .kept rfl
  | rejected _ _ _ => exact .kept rfl
  | unmounted _ found _ =>
      have member := (findLogdevByDev_some found).1
      have recorded := recordUnmount_rows logicalDev named member
      exact .restated _ _ ((congrArg (fun state : ControllerState =>
        state.allocations.rows) recorded).trans (setAllocationState_rows _ _ _))

theorem step_rowsEffect (plugin : SsuPluginOps PluginState)
    (current : ControllerState × PluginState)
    (named : LogdevsNamed current.1) (op : ControllerOp) :
    RowsEffect plugin current op (step plugin current op) := by
  cases op with
  | refreshPool => exact .kept (refreshPool_tables plugin _ _).1
  | alloc req buffer => exact rowsEffect_alloc current named req buffer
  | release allocateId => exact rowsEffect_release current allocateId
  | unmount logicalDev => exact rowsEffect_unmount current named logicalDev
  | mount req =>
      have outcome := ssuControllerMount_outcome plugin req current.1 current.2
      simp only [step, exec]
      generalize ssuControllerMount plugin req current.1 current.2 = result
        at outcome
      cases outcome with
      | refused _ => exact .kept rfl
      | unconnected _ _ _ => exact .kept rfl
      | rejected _ _ _ _ _ => exact .kept rfl
      | mounted _ _ _ _ _ _ =>
          exact .restated _ _ (setAllocationState_rows _ _ _)

end UbseSsu.Controller

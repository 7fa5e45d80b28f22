import UbseSsu.Controller.MountState

/-!
# Invariants of the controller together with its plugin

What every event and every step of a pool refresh preserves holds in every
reachable state of the pair.  The mount state of the controller may be used in
each case, since it holds in every reachable state anyway.
-/

namespace UbseSsu.Controller

variable {PluginState : Type}

/-- The cases of an invariant over controller and plugin states. -/
structure Preserved (plugin : SsuPluginOps PluginState)
    (invariant : ControllerState → PluginState → Prop) : Prop where
  event : ∀ before after, ControllerEvent plugin before after →
    MountState before.1 → invariant before.1 before.2 →
      invariant after.1 after.2
  discovered : ∀ {discover}, plugin.discover = some discover →
    ∀ state world, invariant state world → invariant state (discover world).2
  checked : ∀ {healthCheck}, plugin.healthCheck = some healthCheck →
    ∀ state world ssuId, invariant state world →
      invariant state (healthCheck ssuId world).2
  pooled : ∀ state world pool, invariant state world →
    invariant { state with pool := pool } world

/-- What a pool refresh needs of them. -/
structure PoolPreserved (plugin : SsuPluginOps PluginState)
    (invariant : ControllerState → PluginState → Prop) : Prop where
  discovered : ∀ {discover}, plugin.discover = some discover →
    ∀ state world, invariant state world → invariant state (discover world).2
  checked : ∀ {healthCheck}, plugin.healthCheck = some healthCheck →
    ∀ state world ssuId, invariant state world →
      invariant state (healthCheck ssuId world).2
  pooled : ∀ state world pool, invariant state world →
    invariant { state with pool := pool } world

namespace PoolPreserved

variable {plugin : SsuPluginOps PluginState}
  {invariant : ControllerState → PluginState → Prop}
  (preserved : PoolPreserved plugin invariant)
include preserved

theorem refreshResourceState {state : ControllerState} {world : PluginState}
    (holds : invariant state world) (resource : SsuResourceInfo) :
    invariant state (refreshResourceState plugin resource world).2 := by
  unfold Controller.refreshResourceState
  split
  · exact holds
  · rename_i healthCheck provided
    have called := preserved.checked provided state world resource.ssuId holds
    split <;> (rename_i answered; rw [answered] at called; exact called)

theorem mergeDiscovered {state : ControllerState}
    (pool resources : List SsuResourceInfo) {world : PluginState}
    (holds : invariant state world) :
    invariant state (mergeDiscovered plugin pool resources world).2 := by
  induction resources generalizing world with
  | nil => exact holds
  | cons resource resources induction =>
      exact induction (preserved.refreshResourceState holds _)

theorem keepKnown {state : ControllerState} (others : List SsuResourceInfo)
    (nextPool : CountedArray SsuResourceInfo maxResources)
    {world : PluginState} (holds : invariant state world) :
    invariant state (keepKnown plugin others nextPool world).2 := by
  induction others generalizing nextPool world with
  | nil => exact holds
  | cons known others induction =>
      unfold Controller.keepKnown
      split
      · exact induction nextPool holds
      · split
        · exact induction _ (preserved.refreshResourceState holds known)
        · exact holds

theorem refreshPool {state : ControllerState} {world : PluginState}
    (holds : invariant state world) :
    invariant (ssuControllerRefreshPool plugin state world).2.1
      (ssuControllerRefreshPool plugin state world).2.2 := by
  unfold ssuControllerRefreshPool
  split
  · exact holds
  · rename_i discover provided
    have called := preserved.discovered provided state world holds
    split
    · rename_i discovered after answered
      rw [answered] at called
      split
      · simp only
        have merged := preserved.mergeDiscovered state.pool.items discovered
          called
        have kept := fun nextPool =>
          preserved.keepKnown state.pool.items nextPool merged
        split
        · rename_i pool final ended
          exact preserved.pooled state final pool
            ((congrArg (fun result => invariant state result.2) ended).mp
              (kept _))
        · rename_i final ended
          exact (congrArg (fun result => invariant state result.2) ended).mp
            (kept _)
      · exact called
    · rename_i answered
      rw [answered] at called
      exact called

end PoolPreserved

namespace Preserved

variable {plugin : SsuPluginOps PluginState}
  {invariant : ControllerState → PluginState → Prop}
  (preserved : Preserved plugin invariant)
include preserved

theorem pool : PoolPreserved plugin invariant where
  discovered := preserved.discovered
  checked := preserved.checked
  pooled := preserved.pooled

theorem step (current : ControllerState × PluginState) (op : ControllerOp)
    (mounts : MountState current.1) (holds : invariant current.1 current.2) :
    invariant (step plugin current op).1 (step plugin current op).2 := by
  by_cases refresh : op = .refreshPool
  · subst refresh
    exact preserved.pool.refreshPool holds
  · exact (Transition.chain_invariant
      (fun current : ControllerState × PluginState =>
        MountState current.1 ∧ invariant current.1 current.2)
      (fun before after event both => ⟨mountState_event event both.1,
        preserved.event before after event both.1 both.2⟩)
      (step_chain plugin current refresh mounts.named) ⟨mounts, holds⟩).2

theorem run {world : PluginState} (initially : invariant .initial world)
    (ops : List ControllerOp) :
    let current := Transition.run (Controller.step plugin)
      (.initial, world) ops
    MountState current.1 ∧ invariant current.1 current.2 :=
  Transition.run_invariant_always
    (fun current : ControllerState × PluginState =>
      MountState current.1 ∧ invariant current.1 current.2)
    (fun current op both => ⟨mountState_step plugin current op both.1,
      preserved.step current op both.1 both.2⟩)
    ⟨mountState_initial, initially⟩ ops

end Preserved

section Rows

variable {PluginState : Type} {plugin : SsuPluginOps PluginState}
  {state : ControllerState} {property : ControllerAllocation → Prop}

theorem rows_dropExtent (holds : ∀ row ∈ state.allocations.rows, property row)
    {slot : Nat} {row : ControllerAllocation}
    (active : state.allocations.get slot = some row) :
    ∀ other ∈ (dropExtent state slot row).allocations.rows,
      property other := by
  intro other member
  rw [dropExtent_allocations] at member
  exact holds other ((SlotTable.rows_clear_sublist active).subset member)

variable (restated : ∀ allocateId newState row, property row →
  property (setRowState allocateId newState row))
include restated

theorem rows_setAllocationState
    (holds : ∀ row ∈ state.allocations.rows, property row)
    (allocateId : CString) (newState : CBuf 16) :
    ∀ row ∈ (setAllocationState state allocateId newState).allocations.rows,
      property row := by
  intro other member
  rw [setAllocationState_rows] at member
  obtain ⟨row, old, rfl⟩ := List.mem_map.mp member
  exact restated allocateId newState row (holds row old)

theorem rows_recordUnmount
    (holds : ∀ row ∈ state.allocations.rows, property row)
    (logicalDev allocateId : CString) :
    ∀ row ∈ (recordUnmount logicalDev allocateId state).allocations.rows,
      property row := by
  have removed : ∀ row ∈ ({ state with
      logdevs := state.logdevs.eraseWhere (logdevHasDev logicalDev) } :
        ControllerState).allocations.rows, property row := holds
  simp only [recordUnmount]
  split
  · exact rows_setAllocationState restated removed _ _
  · exact removed

/-- What every new row has, and keeps when its state is set, every row has. -/
theorem rows_preserved
    (created : ∀ {ctx state slot poolIndex index offset resource},
      ExtentPlaced ctx state slot poolIndex index offset resource →
        ∀ answer, property
          (ctx.row (ctx.extentReq resource index offset) answer)) :
    Preserved plugin
      (fun state _ => ∀ row ∈ state.allocations.rows, property row) where
  event before after event _ holds := by
    cases event with
    | numbered => exact holds
    | extentRefused => exact holds
    | extentCreated state world provided placed answered accepted =>
        obtain ⟨bound, free⟩ := SlotTable.get_firstFree placed.free
        intro other member
        rw [addExtent_allocations] at member
        rcases List.mem_cons.mp
          ((SlotTable.rows_put_perm bound free).mem_iff.mp member) with rfl | old
        · exact created placed _
        · exact holds other old
    | extentUndone _ _ active _ => exact rows_dropExtent holds active
    | extentReleased _ _ _ active _ _ => exact rows_dropExtent holds active
    | extentKept => exact holds
    | remembered state world allocateId =>
        intro row member
        rw [rememberReleasedId_allocations] at member
        exact holds row member
    | connected => exact holds
    | mountRefused => exact holds
    | mounted => exact rows_setAllocationState restated holds _ _
    | unmountRefused => exact holds
    | unmountedStale => exact holds
    | unmounted => exact rows_recordUnmount restated holds _ _
  discovered _ _ _ holds := holds
  checked _ _ _ _ holds := holds
  pooled _ _ _ holds := holds

omit restated in
theorem idsNamed_preserved :
    Preserved plugin (fun state _ => ∀ row ∈ state.allocations.rows,
      row.info.allocateId.chars ≠ []) := by
  apply rows_preserved
  · intro allocateId newState row named
    rwa [setRowState_allocateId]
  · intro ctx _ _ _ _ _ _ placed answer
    obtain ⟨number, numbered⟩ := placed.ready.idNumber
    simp only [AllocContext.row, numbered]
    exact autoAllocateId_ne_nil number

end Rows

end UbseSsu.Controller

import UbseSsu.Api.Outcomes
import UbseSsu.Controller.History
import UbseSsu.Controller.SystemInvariant

/-!
# Recording the namespace calls below the API

The API goes through the same states over a recording plugin.
-/

namespace UbseSsu.Api

open Controller

variable {PluginState : Type} (plugin : SsuPluginOps PluginState)

/-- The state without the log. -/
def ApiState.plain (current : ApiState (Logged PluginState)) :
    ApiState PluginState :=
  { cache := current.cache
    controller := current.controller
    world := current.world.1 }

section Resource

variable (state : ControllerState) (world : Logged PluginState)

theorem ssuResourceAlloc_plain (req : SsuAllocReq) :
    plainStep (ssuResourceAlloc (recording plugin) state world req) =
      ssuResourceAlloc plugin state world.1 req := by
  unfold ssuResourceAlloc
  split
  · rfl
  · have refreshed := refreshPool_plain plugin state world
    rcases called : ssuControllerRefreshPool (recording plugin) state world with
      ⟨err, after, later⟩
    rw [called] at refreshed
    rw [← refreshed]
    cases err with
    | ok =>
        simp only [plainStep]
        have asked := alloc_plain plugin after later req
          { present := false, count := 0 }
        rcases probed : ssuControllerAlloc (recording plugin) req
          { present := false, count := 0 } after later with
          ⟨answer, asking, last⟩
        rw [probed] at asked
        simp only [← asked, plainStep]
        split
        · rfl
        · exact alloc_plain plugin asking last req _
    | _ => rfl

theorem ssuResourceMount_plain (req : SsuMountReq) :
    plainStep (ssuResourceMount (recording plugin) state world req) =
      ssuResourceMount plugin state world.1 req := by
  unfold ssuResourceMount
  split
  · rfl
  · exact mount_plain plugin state world req

theorem ssuResourceUnmount_plain (logicalDev : CString) :
    plainStep (ssuResourceUnmount (recording plugin) state world logicalDev) =
      ssuResourceUnmount plugin state world.1 logicalDev := by
  unfold ssuResourceUnmount
  split
  · rfl
  · exact unmount_plain plugin state world logicalDev

theorem ssuResourceRelease_plain (allocateId : CString) :
    plainStep (ssuResourceRelease (recording plugin) state world allocateId) =
      ssuResourceRelease plugin state world.1 allocateId := by
  unfold ssuResourceRelease
  split
  · rfl
  · exact release_plain plugin state world allocateId

end Resource

section Calls

variable (current : ApiState (Logged PluginState))

theorem ssuApiAllocate_plain (req : ApiAllocateReq) :
    ssuApiAllocate plugin req current.plain =
      ((ssuApiAllocate (recording plugin) req current).1,
        (ssuApiAllocate (recording plugin) req current).2.plain) := by
  have allocated := ssuResourceAlloc_plain plugin current.controller
    current.world req.resourceReq
  unfold ssuApiAllocate
  split
  · rcases called : ssuResourceAlloc (recording plugin) current.controller
      current.world req.resourceReq with ⟨answer, state, world⟩
    rw [called] at allocated
    simp only [ApiState.plain, ← allocated, plainStep]
    split
    · rfl
    · split
      · rfl
      · split
        · rfl
        · simp only [← ssuResourceRelease_plain]
          rfl
  · rfl

theorem ssuApiAllocateResultGet_plain (requestId : CString) :
    ssuApiAllocateResultGet requestId current.plain =
      ((ssuApiAllocateResultGet requestId current).1,
        (ssuApiAllocateResultGet requestId current).2.plain) := by
  obtain ⟨cache, controller, world⟩ := current
  have plain : ApiState.plain { cache, controller, world } =
      { cache, controller, world := world.1 } := rfl
  rw [plain]
  unfold ssuApiAllocateResultGet
  split
  · rfl
  · split
    · rfl
    · simp only
      cases registerRequestPath controller requestId cache with
      | mk path left =>
          cases path with
          | none => rfl
          | some devicePath =>
              simp only
              cases fillAllocationLbas controller requestId <;> rfl

/-- The recorded call returns the same status and reaches the same states. -/
theorem apiExec_plain (op : ApiOp) :
    apiExec plugin current.plain op =
      ((apiExec (recording plugin) current op).1,
        (apiExec (recording plugin) current op).2.plain) := by
  cases op with
  | allocate req =>
      simp only [apiExec, ssuApiAllocate_plain]
  | resultGet requestId =>
      simp only [apiExec, ssuApiAllocateResultGet_plain]
  | mount devicePath hostId =>
      simp only [apiExec, ssuApiMount, ApiState.plain]
      split
      · rfl
      · split
        · rfl
        · rename_i requestId resolved _
          have mounted := ssuResourceMount_plain plugin current.controller
            current.world
            { allocateId := requestId.chars
              hostId := hostId
              logicalDev := copyCstr 64 devicePath }
          rcases called : ssuResourceMount (recording plugin)
            current.controller current.world
            { allocateId := requestId.chars
              hostId := hostId
              logicalDev := copyCstr 64 devicePath } with
            ⟨err, controller, world⟩
          rw [called] at mounted
          simp only [← mounted, plainStep]
          cases err <;> rfl
  | unmount devicePath =>
      simp only [apiExec, ssuApiUnmount, ApiState.plain]
      split
      · rfl
      · rw [← ssuResourceUnmount_plain]
        rfl
  | free devicePath =>
      simp only [apiExec, ssuApiFree, ApiState.plain]
      split
      · rfl
      · rename_i requestId resolved _
        have released := ssuResourceRelease_plain plugin current.controller
          current.world requestId.chars
        rcases called : ssuResourceRelease (recording plugin)
          current.controller current.world requestId.chars with
          ⟨err, controller, world⟩
        rw [called] at released
        simp only [← released, plainStep]
        cases err <;> rfl

theorem apiRun_plain (ops : List ApiOp) :
    (Transition.run (apiStep (recording plugin)) current ops).plain =
      Transition.run (apiStep plugin) current.plain ops := by
  induction ops generalizing current with
  | nil => rfl
  | cons op ops induction =>
      have stepped : apiStep plugin current.plain op =
          (apiStep (recording plugin) current op).plain :=
        congrArg Prod.snd (apiExec_plain plugin current op)
      rw [Transition.run_cons, Transition.run_cons, stepped]
      exact induction _

end Calls

section Log

variable {plugin} {earlier : List NamespaceCall}

theorem prefix_noted {call : NamespaceCall} {log : List NamespaceCall}
    (written : earlier <+: log) : earlier <+: log ++ [call] :=
  written.trans (List.prefix_append _ _)

/-- No call takes anything out of the log. -/
theorem log_preserved (plugin : SsuPluginOps PluginState)
    (earlier : List NamespaceCall) :
    Preserved (recording plugin) fun _ world => earlier <+: world.2 where
  event before after event _ written := by
    cases event with
    | numbered => exact written
    | extentRefused _ _ provided extentReq _ =>
        obtain ⟨createNs, rfl⟩ := recording_createNs provided
        exact prefix_noted written
    | extentCreated _ _ provided _ answered _ =>
        obtain ⟨createNs, rfl⟩ := recording_createNs provided
        simp only [recordCreate, noted, Prod.mk.injEq] at answered
        obtain ⟨_, rfl⟩ := answered
        exact prefix_noted written
    | extentUndone _ _ active _ =>
        unfold rollbackDelete
        split
        · exact written
        · rename_i provided
          obtain ⟨deleteNs, rfl⟩ := recording_deleteNs provided
          exact prefix_noted written
    | extentReleased _ _ provided active _ deleted =>
        obtain ⟨deleteNs, rfl⟩ := recording_deleteNs provided
        simp only [recordDelete, noted, Prod.mk.injEq] at deleted
        obtain ⟨_, rfl⟩ := deleted
        exact prefix_noted written
    | extentKept _ _ provided active _ =>
        obtain ⟨deleteNs, rfl⟩ := recording_deleteNs provided
        exact prefix_noted written
    | remembered => exact written
    | connected _ _ provided _ =>
        obtain ⟨connect, _, rfl⟩ := Option.map_eq_some_iff.mp provided
        exact written
    | mountRefused _ _ provided _ _ =>
        obtain ⟨mount, _, rfl⟩ := Option.map_eq_some_iff.mp provided
        exact written
    | mounted _ _ provided _ accepted =>
        obtain ⟨mount, _, rfl⟩ := Option.map_eq_some_iff.mp provided
        simp only [silent, Prod.mk.injEq] at accepted
        obtain ⟨_, rfl⟩ := accepted
        exact written
    | unmountRefused _ _ provided _ _ | unmountedStale _ _ provided _ _ _ =>
        obtain ⟨unmount, _, rfl⟩ := Option.map_eq_some_iff.mp provided
        exact written
    | unmounted _ _ provided _ accepted =>
        obtain ⟨unmount, _, rfl⟩ := Option.map_eq_some_iff.mp provided
        simp only [silent, Prod.mk.injEq] at accepted
        obtain ⟨_, rfl⟩ := accepted
        exact written
  discovered provided _ _ written := by
    obtain ⟨discover, _, rfl⟩ := Option.map_eq_some_iff.mp provided
    exact written
  checked provided _ _ _ written := by
    obtain ⟨healthCheck, _, rfl⟩ := Option.map_eq_some_iff.mp provided
    exact written
  pooled _ _ _ written := written

/-- A pool refresh calls neither `create_ns` nor `delete_ns`. -/
theorem refreshPool_log (plugin : SsuPluginOps PluginState)
    (state : ControllerState) (world : Logged PluginState) :
    (ssuControllerRefreshPool (recording plugin) state world).2.2.2 =
      world.2 := by
  have preserved : PoolPreserved (recording plugin)
      (fun _ later => later.2 = world.2) :=
    { discovered := fun provided _ _ same => by
        obtain ⟨discover, _, rfl⟩ := Option.map_eq_some_iff.mp provided
        exact same
      checked := fun provided _ _ _ same => by
        obtain ⟨healthCheck, _, rfl⟩ := Option.map_eq_some_iff.mp provided
        exact same
      pooled := fun _ _ _ same => same }
  exact @PoolPreserved.refreshPool _ _ _ preserved state world rfl

theorem ControllerRun.log
    {before after : ControllerState × Logged PluginState}
    (reached : ControllerRun (recording plugin) before after)
    (mounts : MountState before.1) : before.2.2 <+: after.2.2 := by
  obtain ⟨ops, rfl⟩ := reached
  exact (Transition.run_invariant_always
    (fun current : ControllerState × Logged PluginState =>
      MountState current.1 ∧ before.2.2 <+: current.2.2)
    (fun current op both => ⟨mountState_step (recording plugin) current op both.1,
      (log_preserved plugin before.2.2).step current op both.1 both.2⟩)
    ⟨mounts, List.prefix_refl _⟩ ops).2

end Log

end UbseSsu.Api

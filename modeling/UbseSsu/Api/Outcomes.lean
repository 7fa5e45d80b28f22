import UbseSsu.Api.Operations
import UbseSsu.Controller.MountState

/-!
# What the API sees of the controller and does to it

The queries of the API answer from the tables alone.  Every entry point is a
run of controller calls, so whatever holds in every reachable state of the
controller holds below the API, and an allocation through it has one of three
effects on the tables.
-/

namespace UbseSsu.Api

open Controller

variable {PluginState : Type}

section Queries

variable {state : ControllerState}

/-- The local array has room for the whole table. -/
theorem queriedAllocations_eq (state : ControllerState) :
    queriedAllocations state =
      state.allocations.rows.map ControllerAllocation.info := by
  have room : (state.allocations.rows.map
      ControllerAllocation.info).length ≤ (128 : UInt32).toNat := by
    rw [List.length_map]
    exact state.allocations.length_rows_le
  simp only [queriedAllocations, ssuControllerQueryAllocations,
    queryRows_present, if_pos room]
  rfl

theorem queriedLogdevs_eq (state : ControllerState) :
    queriedLogdevs state = state.logdevs.rows := by
  have room : state.logdevs.rows.length ≤ (128 : UInt32).toNat :=
    state.logdevs.length_rows_le
  simp only [queriedLogdevs, ssuControllerQueryLogdevs, queryRows_present,
    if_pos room]
  rfl

theorem allocationExists_iff {requestId : CString} :
    allocationExists state requestId = true ↔
      ∃ row ∈ state.allocations.rows,
        row.info.allocateId.chars = requestId := by
  simp [allocationExists, queriedAllocations_eq, infoHasId]

theorem allocationNameExists_eq (state : ControllerState)
    (diskName : CString) :
    allocationNameExists state diskName = diskNameIsActive state diskName := by
  by_cases unnamed : diskName = []
  · simp [allocationNameExists, diskNameIsActive,
      findAllocationRowsByDiskName, isEmptyString, unnamed]
  · rw [Bool.eq_iff_iff]
    simp [allocationNameExists, diskNameIsActive, queriedAllocations_eq,
      findAllocationRowsByDiskName, isEmptyString, unnamed, infoHasName,
      rowHasDiskName]

theorem logdevRequestId_eq (state : ControllerState) (devicePath : CString) :
    logdevRequestId state devicePath =
      (findLogdevByDev state devicePath).map SsuLogdevInfo.allocateId := by
  rw [logdevRequestId, queriedLogdevs_eq]
  rfl

/-- What the four lookups of a device path come to: a refusal, the id of a
mounted device, the id of a cached request, or that of an allocation whose path
is registered on the way. -/
inductive PathLookup (state : ControllerState) (cache : ApiCache) :
    Except SsuErr (CBuf 64) × ApiCache → Prop
  | unknown {err : SsuErr} (failed : err ≠ .ok) :
      PathLookup state cache (.error err, cache)
  | mounted {logdev : SsuLogdevInfo} (member : logdev ∈ state.logdevs.rows) :
      PathLookup state cache (.ok logdev.allocateId, cache)
  | cached {row : ControllerAllocation}
      (active : row ∈ state.allocations.rows) :
      PathLookup state cache (.ok row.info.allocateId, cache)
  | registered {row : ControllerAllocation} {diskName : CString}
      (active : row ∈ state.allocations.rows)
      (name : diskName = [] ∨ diskName = row.info.diskName.chars) :
      PathLookup state cache (.ok row.info.allocateId,
        (registerRequestPathWithName state row.info.allocateId.chars diskName
          cache).2)

theorem namedAllocationRequestId_found {devicePath : CString}
    {cache left : ApiCache} {requestId : CBuf 64}
    (found : namedAllocationRequestId state devicePath cache =
      (some requestId, left)) :
    ∃ row ∈ state.allocations.rows, row.info.allocateId = requestId ∧
      (registerRequestPathWithName state row.info.allocateId.chars
        row.info.diskName.chars cache).2 = left := by
  simp only [namedAllocationRequestId] at found
  split at found
  · cases found
  · split at found
    · cases found
    · rename_i info scanned
      rw [queriedAllocations_eq] at scanned
      obtain ⟨row, active, rfl⟩ :=
        List.mem_map.mp (List.mem_of_find?_eq_some scanned)
      cases found
      exact ⟨row, active, rfl, rfl⟩

theorem namedAllocationRequestId_missing {devicePath : CString}
    {cache left : ApiCache}
    (missing : namedAllocationRequestId state devicePath cache =
      (none, left)) : left = cache := by
  simp only [namedAllocationRequestId] at missing
  split at missing
  · cases missing
    rfl
  · split at missing
    · cases missing
      rfl
    · cases missing

theorem requestIdFromDevicePath_lookup (state : ControllerState)
    (devicePath : CString) (cache : ApiCache) :
    PathLookup state cache (requestIdFromDevicePath state devicePath cache) := by
  simp only [requestIdFromDevicePath]
  split
  · apply PathLookup.unknown
    decide
  · split
    · rename_i requestId _ _ looked
      rw [logdevRequestId_eq] at looked
      obtain ⟨logdev, device, rfl⟩ := Option.map_eq_some_iff.mp looked
      exact .mounted (findLogdevByDev_some device).1
    · rename_i slot request _ _ cached
      obtain ⟨_, known⟩ := Option.filter_eq_some_iff.mp cached
      obtain ⟨row, active, own⟩ := allocationExists_iff.mp known
      rw [← BoundedString.ext own]
      exact .cached active
    · rename_i requestId _ _ numbered
      obtain ⟨_, known⟩ := Option.filter_eq_some_iff.mp numbered
      obtain ⟨row, active, own⟩ := allocationExists_iff.mp known
      rw [← BoundedString.ext own]
      exact .registered active (.inl rfl)
    · split
      · rename_i found
        obtain ⟨row, active, rfl, rfl⟩ := namedAllocationRequestId_found found
        exact .registered active (.inr rfl)
      · rename_i missing
        rw [namedAllocationRequestId_missing missing]
        apply PathLookup.unknown
        decide

/-- The name of an active allocation, when all its rows carry the same. -/
theorem allocationDiskName_eq {row : ControllerAllocation}
    (active : row ∈ state.allocations.rows)
    (numbered : row.info.allocateId.chars ≠ [])
    (sameName : ∀ other ∈ state.allocations.rows,
      other.info.allocateId = row.info.allocateId →
        other.info.diskName = row.info.diskName) :
    allocationDiskName state row.info.allocateId.chars =
      row.info.diskName.chars := by
  have present : isEmptyString row.info.allocateId.chars = false := by
    simp [isEmptyString, numbered]
  simp only [allocationDiskName, present, Bool.false_eq_true, if_false,
    queriedAllocations_eq]
  split
  · rename_i missing
    have skipped := List.find?_eq_none.mp missing row.info
      (List.mem_map_of_mem active)
    by_contra named
    have nonempty : row.info.diskName.chars ≠ [] := fun unnamed =>
      named unnamed.symm
    apply skipped
    simp [infoHasId, isEmptyString, nonempty]
  · rename_i info found
    obtain ⟨other, member, rfl⟩ := List.mem_map.mp (List.mem_of_find?_eq_some found)
    have owned := List.find?_some found
    simp only [infoHasId, Bool.and_eq_true, decide_eq_true_eq] at owned
    exact congrArg BoundedString.chars
      (sameName other member (BoundedString.ext owned.1))

/-- Every active allocation has extents to list. -/
theorem fillAllocationLbas_ok {row : ControllerAllocation}
    (active : row ∈ state.allocations.rows) :
    ∃ lbas, fillAllocationLbas state row.info.allocateId.chars = .ok lbas := by
  have room : (state.allocations.rows.map
      ControllerAllocation.info).length ≤ (128 : UInt32).toNat := by
    rw [List.length_map]
    exact state.allocations.length_rows_le
  have owned : row.info ∈ (state.allocations.rows.map
      ControllerAllocation.info).filter
        (infoHasId row.info.allocateId.chars) :=
    List.mem_filter.mpr
      ⟨List.mem_map_of_mem active, decide_eq_true rfl⟩
  simp only [fillAllocationLbas, ssuControllerQueryAllocations,
    queryRows_present, if_pos room, ne_eq, not_true_eq_false, if_false,
    Option.getD_some]
  split
  · rename_i nothing
    rw [nothing] at owned
    exact absurd owned List.not_mem_nil
  · exact ⟨_, rfl⟩

end Queries

section Runs

variable (plugin : SsuPluginOps PluginState)

def ApiState.system (current : ApiState PluginState) :
    ControllerState × PluginState :=
  (current.controller, current.world)

/-- States of the controller and the plugin that differ by controller calls. -/
def ControllerRun (before after : ControllerState × PluginState) : Prop :=
  ∃ ops, after = Transition.run (step plugin) before ops

variable {plugin}

theorem ControllerRun.refl (current : ControllerState × PluginState) :
    ControllerRun plugin current current :=
  ⟨[], rfl⟩

theorem ControllerRun.call (plugin : SsuPluginOps PluginState)
    (current : ControllerState × PluginState) (op : ControllerOp) :
    ControllerRun plugin current (step plugin current op) :=
  ⟨[op], rfl⟩

theorem ControllerRun.trans {first second third : ControllerState × PluginState}
    (left : ControllerRun plugin first second)
    (right : ControllerRun plugin second third) :
    ControllerRun plugin first third := by
  obtain ⟨earlier, rfl⟩ := left
  obtain ⟨later, rfl⟩ := right
  exact ⟨earlier ++ later, (Transition.run_append _ _ _ _).symm⟩

section Resource

variable (plugin) (state : ControllerState) (world : PluginState)

theorem ssuResourceAlloc_run (req : SsuAllocReq) :
    ControllerRun plugin (state, world)
      (ssuResourceAlloc plugin state world req).2 := by
  unfold ssuResourceAlloc
  split
  · exact .refl _
  · have refreshed := ControllerRun.call plugin (state, world)
      .refreshPool
    simp only [step, exec] at refreshed
    split
    · rename_i poolState poolWorld answered
      rw [answered] at refreshed
      have first := fun buffer => refreshed.trans
        (.call plugin _ (.alloc req buffer))
      simp only [step, exec] at first
      have asking := first { present := false, count := 0 }
      simp only
      generalize ssuControllerAlloc plugin req { present := false, count := 0 }
        poolState poolWorld = asked at asking
      obtain ⟨answer, allocState, allocWorld⟩ := asked
      simp only
      split
      · exact asking
      · have second := asking.trans (.call plugin _ (.alloc req
          { present := true, count := answer.extentCount }))
        simpa only [step, exec] using second
    · rename_i answered
      rw [answered] at refreshed
      exact refreshed

theorem ssuResourceMount_run (req : SsuMountReq) :
    ControllerRun plugin (state, world)
      (ssuResourceMount plugin state world req).2 := by
  unfold ssuResourceMount
  split
  · exact .refl _
  · exact .call plugin (state, world) (.mount req)

theorem ssuResourceUnmount_run (logicalDev : CString) :
    ControllerRun plugin (state, world)
      (ssuResourceUnmount plugin state world logicalDev).2 := by
  unfold ssuResourceUnmount
  split
  · exact .refl _
  · exact .call plugin (state, world) (.unmount logicalDev)

theorem ssuResourceRelease_run (allocateId : CString) :
    ControllerRun plugin (state, world)
      (ssuResourceRelease plugin state world allocateId).2 := by
  unfold ssuResourceRelease
  split
  · exact .refl _
  · exact .call plugin (state, world) (.release allocateId)

end Resource

/-- Every call of the API is a run of controller calls. -/
theorem apiStep_run (plugin : SsuPluginOps PluginState)
    (current : ApiState PluginState) (op : ApiOp) :
    ControllerRun plugin current.system (apiStep plugin current op).system := by
  obtain ⟨cache, state, world⟩ := current
  cases op with
  | allocate req =>
      have called := ssuResourceAlloc_run plugin state world
        req.resourceReq
      simp only [apiStep, apiExec, ssuApiAllocate]
      split
      · generalize ssuResourceAlloc plugin state world req.resourceReq = result
          at called
        obtain ⟨answer, after, last⟩ := result
        split
        · exact called
        · split
          · exact called
          · split
            · exact called
            · exact called.trans (ssuResourceRelease_run plugin after last _)
      · exact .refl _
  | resultGet requestId =>
      simp only [apiStep, apiExec, ssuApiAllocateResultGet]
      split
      · exact .refl _
      · split
        · exact .refl _
        · split
          · exact .refl _
          · split <;> exact .refl _
  | mount devicePath hostId =>
      simp only [apiStep, apiExec, ssuApiMount]
      split
      · exact .refl _
      · split
        · exact .refl _
        · rename_i requestId resolved _
          have called := ssuResourceMount_run plugin state world
            { allocateId := requestId.chars
              hostId := hostId
              logicalDev := copyCstr 64 devicePath }
          split <;> (rename_i answered; rw [answered] at called; exact called)
  | unmount devicePath =>
      simp only [apiStep, apiExec, ssuApiUnmount]
      split
      · exact .refl _
      · exact ssuResourceUnmount_run plugin state world devicePath
  | free devicePath =>
      simp only [apiStep, apiExec, ssuApiFree]
      split
      · exact .refl _
      · rename_i requestId resolved _
        have called := ssuResourceRelease_run plugin state world
          requestId.chars
        split <;> (rename_i answered; rw [answered] at called; exact called)

/-- So every state of the API lies over a reachable controller state. -/
theorem apiRun_run (plugin : SsuPluginOps PluginState) (world : PluginState) (ops : List ApiOp) :
    ControllerRun plugin (.initial, world)
      (Transition.run (apiStep plugin) (.initial world) ops).system :=
  Transition.run_invariant_always
    (fun current => ControllerRun plugin (.initial, world) current.system)
    (fun current op reached => reached.trans (apiStep_run plugin current op))
    (.refl _) ops

theorem ControllerRun.mountState {world : PluginState}
    {current : ControllerState × PluginState}
    (reached : ControllerRun plugin (.initial, world) current) :
    MountState current.1 := by
  obtain ⟨ops, rfl⟩ := reached
  exact mountState_run plugin world ops

end Runs

section Alloc

variable {plugin : SsuPluginOps PluginState} {req : SsuAllocReq}
  {state before : ControllerState}

/-- The tables are the same, and so is the next allocation id. -/
structure SameTables (state after : ControllerState) : Prop where
  allocations : after.allocations = state.allocations
  logdevs : after.logdevs = state.logdevs
  searched : (nextAutoAllocateId after).1 = (nextAutoAllocateId state).1

theorem SameTables.trans {first second third : ControllerState}
    (left : SameTables first second) (right : SameTables second third) :
    SameTables first third :=
  ⟨right.allocations.trans left.allocations,
    right.logdevs.trans left.logdevs, right.searched.trans left.searched⟩

theorem SameTables.named (same : SameTables state before)
    (named : LogdevsNamed state) : LogdevsNamed before := by
  intro logdev member
  rw [same.logdevs] at member
  obtain ⟨row, active, owned⟩ := named logdev member
  exact ⟨row, same.allocations ▸ active, owned⟩

theorem refreshPool_sameTables (plugin : SsuPluginOps PluginState)
    (state : ControllerState) (world : PluginState) :
    SameTables state (ssuControllerRefreshPool plugin state world).2.1 := by
  obtain ⟨pool, refreshed⟩ := refreshPool_state plugin state world
  rw [refreshed]
  refine ⟨rfl, rfl, ?_⟩
  apply nextAutoAllocateId_congr
  · rfl
  · rfl
  · rfl

/-- A failed allocation leaves no trace but for counters and numbers. -/
theorem failed_sameTables {world : PluginState}
    {result : AllocAnswer × ControllerState × PluginState}
    (outcome : AllocOutcome plugin req state world result)
    (named : LogdevsNamed state) (failed : result.1.err ≠ .ok) :
    SameTables state result.2.1 := by
  cases outcome with
  | refused number _ searched => exact ⟨rfl, rfl, searched⟩
  | reused _ => exact ⟨rfl, rfl, rfl⟩
  | @undone createNs provided answer ctx number selected placed rest entries
      last after plan parts run stopped _ =>
      obtain ⟨undone, final, rolled, _, restored⟩ := run.rollback
        plugin (plan.unmounted named) [] after
      rw [List.append_nil, rollbackExtents] at rolled
      rw [rolled]
      refine ⟨restored.allocations, restored.logdevs, ?_⟩
      have again := nextAutoAllocateId_again state
      rw [congrArg Prod.snd plan.searched] at again
      rw [← again]
      exact nextAutoAllocateId_congr restored.allocations restored.releasedIds
        restored.nextAllocationId
  | created _ _ _ answered _ => exact (failed answered).elim

/-- What `ssu_resource_alloc` does to the tables. -/
inductive AllocEffect (plugin : SsuPluginOps PluginState)
    (req : SsuAllocReq) (state : ControllerState) :
    AllocAnswer × ControllerState × PluginState → Prop where
  | failed {answer : AllocAnswer} {after : ControllerState}
      {world : PluginState} (failed : answer.err ≠ .ok)
      (same : SameTables state after) :
      AllocEffect plugin req state (answer, after, world)
  | reused {answer : AllocAnswer} {result : SsuAllocResult}
      {after : ControllerState} {world : PluginState}
      {row : ControllerAllocation}
      (nonempty : req.diskName ≠ [])
      (active : row ∈ state.allocations.rows)
      (named : row.info.diskName.chars = req.diskName)
      (answered : answer.err = .ok) (out : answer.out = some result)
      (own : result.allocateId = row.info.allocateId)
      (same : SameTables state after) :
      AllocEffect plugin req state (answer, after, world)
  | created {createNs} (provided : plugin.createNs = some createNs)
      {answer : AllocAnswer} {result : SsuAllocResult}
      {before : ControllerState}
      {world : PluginState} {ctx : AllocContext} {number : UInt64}
      {selected : List Nat} {entries : List (Nat × ControllerAllocation)}
      {last : ControllerState × PluginState}
      (same : SameTables state before)
      (plan : AllocPlan req before ctx number selected)
      (run : ExtentRun createNs ctx selected 0 0 (numbered before number, world)
        entries last)
      (answered : answer.err = .ok) (out : answer.out = some result)
      (own : result.allocateId = ctx.allocateId) :
      AllocEffect plugin req state (answer, advanced last.1, last.2)

theorem copyExistingAllocation_ok {diskName : CString}
    {buffer : ExtentBuffer}
    (answered : (copyExistingAllocation req diskName buffer state).err = .ok) :
    ∃ row ∈ state.allocations.rows, ∃ result,
      row.info.diskName.chars = diskName ∧
        (copyExistingAllocation req diskName buffer state).out = some result ∧
          result.allocateId = row.info.allocateId := by
  simp only [copyExistingAllocation] at answered ⊢
  split at answered
  · exact absurd answered nofun
  · rename_i first others listed
    have member : first ∈ findAllocationRowsByDiskName state diskName := by
      rw [listed]
      exact List.mem_cons_self
    have stored : first ∈ state.allocations.rows ∧
        first.info.diskName.chars = diskName := by
      unfold findAllocationRowsByDiskName at member
      split at member
      · exact absurd member List.not_mem_nil
      · exact ⟨(List.mem_filter.mp member).1,
          of_decide_eq_true (List.mem_filter.mp member).2⟩
    refine ⟨first, stored.1, ?_⟩
    split at answered
    · exact absurd answered nofun
    · split at answered
      · exact absurd answered nofun
      · split at answered
        · exact absurd answered nofun
        · rename_i keyed same enough
          rw [if_neg same, if_neg enough]
          exact ⟨_, stored.2, rfl, rfl⟩

theorem allocEffect_of_outcome {world : PluginState}
    {result : AllocAnswer × ControllerState × PluginState}
    (same : SameTables state before) (named : LogdevsNamed state)
    (outcome : AllocOutcome plugin req before world result) :
    AllocEffect plugin req state result := by
  by_cases answered : result.1.err = .ok
  · cases outcome with
    | refused _ failed _ => exact (failed answered).elim
    | undone _ _ _ _ _ failed => exact (failed answered).elim
    | reused active =>
        have nonempty : req.diskName ≠ [] := by
          intro unnamed
          simp [diskNameIsActive, findAllocationRowsByDiskName, isEmptyString,
            unnamed] at active
        obtain ⟨row, member, result, rowName, out, own⟩ :=
          copyExistingAllocation_ok answered
        exact .reused nonempty (same.allocations ▸ member) rowName answered out
          own same
    | created provided plan run _ out =>
        exact .created provided same plan run answered out rfl
  · exact .failed answered
      (same.trans (failed_sameTables outcome (same.named named) answered))

theorem ssuResourceAlloc_effect (plugin : SsuPluginOps PluginState)
    (req : SsuAllocReq) (state : ControllerState) (world : PluginState)
    (named : LogdevsNamed state) :
    AllocEffect plugin req state (ssuResourceAlloc plugin state world req) := by
  have unchanged : SameTables state state := ⟨rfl, rfl, rfl⟩
  unfold ssuResourceAlloc
  split
  · exact .failed nofun unchanged
  · have refreshed := refreshPool_sameTables plugin state world
    simp only
    split
    · rename_i poolState poolWorld answered
      rw [answered] at refreshed
      have first := ssuControllerAlloc_outcome plugin req
        { present := false, count := 0 } poolState poolWorld
      generalize ssuControllerAlloc plugin req { present := false, count := 0 }
        poolState poolWorld = asked at first
      obtain ⟨answer, allocState, allocWorld⟩ := asked
      simp only
      split
      · exact allocEffect_of_outcome refreshed named first
      · rename_i sized
        have asked := failed_sameTables first (refreshed.named named)
          (by rw [not_not.mp sized]; exact nofun)
        exact allocEffect_of_outcome (refreshed.trans asked) named
          (ssuControllerAlloc_outcome plugin req
            { present := true, count := answer.extentCount } allocState
            allocWorld)
    · rename_i err _ _ failed answered
      rw [answered] at refreshed
      exact .failed failed refreshed

end Alloc

end UbseSsu.Api

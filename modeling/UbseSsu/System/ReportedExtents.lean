import UbseSsu.Api.ProbedAllocation
import UbseSsu.Api.RecordedCalls
import UbseSsu.Controller.NamedAllocation
import UbseSsu.System.CachedRequests
import UbseSsu.System.NamespacesInStep

/-!
# The extents that a result shows

`ssu_api_allocate_result_get` collects the rows of an allocation from the whole
table and sorts them by offset.  Next to the `create_ns` calls of a run, it
shows the namespaces that were created for the allocation, all of them and in
their logical order, as long as no `delete_ns` fails: a failed one leaves a
part of the rows behind.
-/

namespace UbseSsu.System

open Controller Api Tiling

variable {PluginState : Type}

section Report

/-- The extent of a namespace as it was created. -/
def createdLba (one : Creation) : ApiPhysicalLba :=
  { ssuId := one.1.ssuId
    nsId := one.2.nsId
    logicalOffset := one.1.logicalOffset
    length := one.1.length
    lba := one.2.physSector }

def rowLba (row : ControllerAllocation) : ApiPhysicalLba :=
  { ssuId := row.info.ssuId
    nsId := row.info.nsId
    logicalOffset := row.info.logicalOffset
    length := row.info.length
    lba := row.info.physSector }

def lbaSpan (lba : ApiPhysicalLba) : Span :=
  (lba.logicalOffset.toNat, lba.length.toNat)

/-- The rows of an allocation are those of the created namespaces and lie end
to end. -/
structure ListsExtents (rows : List ControllerAllocation)
    (made : List Creation) (size : UInt64) : Prop where
  lbas : rows.map rowLba = made.map createdLba
  laid : Consecutive 0 size.toNat (rows.map rowSpan)
  nonempty : ∀ row ∈ rows, 0 < (rowSpan row).2
  named : ∀ left ∈ rows, ∀ right ∈ rows,
    left.info.diskName = right.info.diskName

variable {state : ControllerState} {requestId : CBuf 64}
  {made : List Creation} {size : UInt64}

theorem active_iff_ownRows :
    Active state requestId ↔ ownRows state requestId.chars ≠ [] := by
  constructor
  · rintro ⟨row, member, own⟩
    apply List.ne_nil_of_mem
    exact List.mem_map_of_mem (List.mem_filter.mpr ⟨member, rowHasId_iff.mpr own⟩)
  · intro some
    obtain ⟨_, listed⟩ := List.exists_mem_of_ne_nil _ some
    obtain ⟨row, member, _⟩ := List.mem_map.mp listed
    obtain ⟨present, own⟩ := List.mem_filter.mp member
    exact ⟨row, present, rowHasId_iff.mp own⟩

/-- Rows that the table lists in order are not moved. -/
theorem fillAllocationLbas_ordered (some : ownRows state requestId.chars ≠ [])
    (ordered : (ownRows state requestId.chars).Pairwise
      fun left right => left.info.logicalOffset ≤ right.info.logicalOffset) :
    fillAllocationLbas state requestId.chars =
      .ok ((ownRows state requestId.chars).map rowLba) := by
  have room : (state.allocations.rows.map
      ControllerAllocation.info).length ≤ (128 : UInt32).toNat := by
    rw [List.length_map]
    exact state.allocations.length_rows_le
  have listed : (state.allocations.rows.map
      ControllerAllocation.info).filter (infoHasId requestId.chars) =
      (state.allocations.rows.filter (rowHasId requestId.chars)).map
        ControllerAllocation.info := by
    rw [List.filter_map]
    rfl
  simp only [fillAllocationLbas, ssuControllerQueryAllocations,
    queryRows_present, if_pos room, ne_eq, not_true_eq_false, if_false,
    Option.getD_some, listed]
  rw [ownRows, List.map_map] at *
  split
  · rename_i nothing
    rw [List.map_eq_nil_iff] at nothing
    simp [nothing] at some
  · rename_i first others found
    rw [← found, List.mergeSort_of_pairwise]
    · rw [List.map_map]
      rfl
    · rw [List.pairwise_map] at ordered ⊢
      exact ordered.imp decide_eq_true

/-- What a result shows of an allocation made by these calls. -/
structure Reports (info : ApiAllocateResultInfo) (made : List Creation)
    (size : UInt64) : Prop where
  status : info.status = .ok
  count : info.physicalDisks.length = made.length
  extents : info.physicalDisks = made.map createdLba
  nonempty : info.physicalDisks ≠ []
  increasing : info.physicalDisks.Pairwise
    fun left right => left.logicalOffset < right.logicalOffset
  endToEnd : Consecutive 0 size.toNat (info.physicalDisks.map lbaSpan)
  whole : ((info.physicalDisks.map lbaSpan).map Prod.snd).sum = size.toNat

/-- What holds in every state of a run. -/
structure Sound (current : ApiState PluginState) : Prop where
  mounts : MountState current.controller
  cache : CacheExact current.cache current.controller
  named : ∀ row ∈ current.controller.allocations.rows,
    row.info.allocateId.chars ≠ []

theorem sound_run (plugin : SsuPluginOps PluginState) (world : PluginState)
    (ops : List ApiOp) :
    Sound (Transition.run (apiStep plugin) (.initial world) ops) := by
  have reached := apiRun_run plugin world ops
  refine ⟨reached.mountState, ?_, ?_⟩
  · have initially : ControllerRun plugin (.initial, world)
          (ApiState.initial world).system ∧
        CacheExact (ApiState.initial world).cache
          (ApiState.initial world).controller := ⟨.refl _, cacheExact_initial⟩
    exact (Transition.run_invariant_always
      (fun current => ControllerRun plugin (.initial, world) current.system ∧
        CacheExact current.cache current.controller)
      (fun current op both => ⟨both.1.trans (apiStep_run plugin current op),
        both.2.apiStep both.1.mountState.named op⟩) initially ops).2
  · obtain ⟨calls, last⟩ := reached
    have preserved : Preserved plugin (fun state _ =>
        ∀ row ∈ state.allocations.rows, row.info.allocateId.chars ≠ []) :=
      idsNamed_preserved
    have named := (@Preserved.run _ plugin _ preserved world
      (by simp [ControllerState.initial]) calls).2
    rw [← last] at named
    exact named

theorem ListsExtents.reports {current : ApiState PluginState}
    (lists : ListsExtents (ownRows current.controller requestId.chars) made
      size) (sound : Sound current)
    (active : Active current.controller requestId) :
    Reports (ssuApiAllocateResultGet requestId.chars current).1 made size := by
  obtain ⟨row, member, own⟩ := id active
  have present : isEmptyString requestId.chars = false := by
    rw [Bool.eq_false_iff, ne_eq, isEmptyString_iff, ← own]
    exact sound.named row member
  have known : allocationExists current.controller requestId.chars = true :=
    allocationExists_iff.mpr ⟨row, member, congrArg _ own⟩
  obtain ⟨devicePath, left, registered, _⟩ :=
    sound.cache.register active []
  have starts := (lists.laid.pairwise_lt (by
    intro span member
    obtain ⟨row, listed, rfl⟩ := List.mem_map.mp member
    exact lists.nonempty row listed)).2
  rw [List.pairwise_map] at starts
  have some := active_iff_ownRows.mp active
  have filled := fillAllocationLbas_ordered some
    (starts.imp fun less => UInt64.le_iff_toNat_le.mpr (Nat.le_of_lt less))
  have answered : (ssuApiAllocateResultGet requestId.chars current).1 =
      { status := .ok
        devicePath
        physicalDisks :=
          (ownRows current.controller requestId.chars).map rowLba
        errorMessage := .empty } := by
    simp only [ssuApiAllocateResultGet, present, known, registerRequestPath,
      registered, filled, Bool.false_eq_true, Bool.not_true, if_false]
  have spans : ((ownRows current.controller requestId.chars).map rowLba).map
      lbaSpan = (ownRows current.controller requestId.chars).map rowSpan := by
    rw [List.map_map]
    rfl
  rw [answered]
  constructor
  · rfl
  · simp only [lists.lbas, List.length_map]
  · exact lists.lbas
  · simpa using some
  · rw [List.pairwise_map]
    exact starts.imp UInt64.lt_iff_toNat_lt.mpr
  · rw [spans]
    exact lists.laid
  · have added := lists.laid.sum
    rw [spans]
    omega

end Report

section Allocate

variable {plugin : SsuPluginOps PluginState} {state : ControllerState}
  {req : SsuAllocReq}

/-- A request that succeeds is answered by one call of the controller. -/
theorem ssuResourceAlloc_ok {world last : PluginState} {answer : AllocAnswer}
    {after : ControllerState}
    (called : ssuResourceAlloc plugin state world req = (answer, after, last))
    (ok : answer.err = .ok) :
    ∃ before between direct,
      ssuControllerRefreshPool plugin state world = (.ok, before, between) ∧
      ssuControllerAlloc plugin req ⟨true, 128⟩ before between =
        (direct, after, last) ∧
      direct.err = .ok ∧ direct.out = answer.out := by
  have large : Holds ⟨true, 128⟩ maxAllocations := ⟨rfl, by decide⟩
  have probed := ssuResourceAlloc_probed plugin req state world _ large
  rw [called] at probed
  simp only [ssuResourceAllocInto] at probed
  split at probed
  · rw [outcome, outcome, ok] at probed
    cases probed
  · split at probed
    · rename_i before between refreshed
      obtain ⟨direct, ended⟩ : ∃ direct,
          ssuControllerAlloc plugin req ⟨true, 128⟩ before between = direct :=
        ⟨_, rfl⟩
      rw [ended] at probed
      obtain ⟨direct, after', last'⟩ := direct
      simp only [outcome, Prod.mk.injEq] at probed
      obtain ⟨sameErr, sameOut, rfl, rfl⟩ := probed
      exact ⟨before, between, direct, refreshed, ended, sameErr.symm.trans ok,
        sameOut.symm⟩
    · rename_i err _ _ failed refreshed
      simp only [outcome, Prod.mk.injEq, ok] at probed
      exact (failed probed.1.symm).elim

/-- A repeated named request has the size that its rows have together. -/
theorem copyExistingAllocation_size {diskName : CString}
    {buffer : ExtentBuffer}
    (answered : (copyExistingAllocation req diskName buffer state).err = .ok) :
    totalSize (findAllocationRowsByDiskName state diskName) =
      req.sizeBytes := by
  simp only [copyExistingAllocation] at answered
  split at answered
  · cases answered
  · rename_i first others listed
    split at answered
    · cases answered
    · split at answered
      · cases answered
      · rename_i agrees
        rw [listed]
        exact not_not.mp (not_or.mp agrees).1

/-- The rows of a new allocation are those of its `create_ns` calls. -/
theorem listsExtents_of_run {plugin : SsuPluginOps PluginState}
    {ctx : AllocContext} {number : UInt64} {selected : List Nat}
    (plan : AllocPlan req state ctx number selected) {createNs}
    (provided : (recording plugin).createNs = some createNs)
    {world : Logged PluginState} {entries : List (Nat × ControllerAllocation)}
    {last : ControllerState × Logged PluginState}
    (run : ExtentRun createNs ctx selected 0 0 (numbered state number, world)
      entries last) :
    ∃ made, CreatedFor ctx.allocateId made ∧
      last.2.2 = world.2 ++ made.map Creation.call ∧
      ListsExtents (ownRows last.1 ctx.allocateId.chars) made
        req.sizeBytes := by
  obtain ⟨createNs, rfl⟩ := recording_createNs provided
  obtain ⟨made, every, logged, rows⟩ := run.made
  obtain ⟨laid, nonempty⟩ := plan.laid run
  refine ⟨made, every, logged, ?_⟩
  rw [plan.ownRows run]
  constructor
  · rw [rows, List.map_map]
    rfl
  · rw [List.map_map]
    exact laid
  · intro row member
    obtain ⟨entry, listed, rfl⟩ := List.mem_map.mp member
    exact nonempty entry listed
  · intro left leftMember right rightMember
    obtain ⟨first, firstListed, rfl⟩ := List.mem_map.mp leftMember
    obtain ⟨second, secondListed, rfl⟩ := List.mem_map.mp rightMember
    rw [(run.written first firstListed).diskName,
      (run.written second secondListed).diskName]

/-- What `ssu_api_allocate` returns and does to the rows. -/
inductive AllocateChange (current : ApiState (Logged PluginState))
    (req : ApiAllocateReq) :
    (SsuErr × CBuf 64) × ApiState (Logged PluginState) → Prop where
  | failed {answer : SsuErr × CBuf 64} {after : ApiState (Logged PluginState)}
      (failed : answer.1 ≠ .ok)
      (kept : after.controller.allocations = current.controller.allocations) :
      AllocateChange current req (answer, after)
  | repeated {requestId : CBuf 64} {after : ApiState (Logged PluginState)}
      (kept : after.controller.allocations = current.controller.allocations)
      {row : ControllerAllocation}
      (member : row ∈ current.controller.allocations.rows)
      (own : row.info.allocateId = requestId)
      (name : row.info.diskName.chars = req.diskName)
      (named : req.diskName ≠ [])
      (size : totalSize (findAllocationRowsByDiskName current.controller
        req.diskName) = req.sizeBytes) :
      AllocateChange current req ((.ok, requestId), after)
  | created {requestId : CBuf 64} {after : ApiState (Logged PluginState)}
      {made : List Creation}
      (fresh : ¬Active current.controller requestId)
      (every : CreatedFor requestId made)
      (logged : after.world.2 = current.world.2 ++ made.map Creation.call)
      (lists : ListsExtents (ownRows after.controller requestId.chars) made
        req.sizeBytes)
      (others : ∀ other : CBuf 64, other ≠ requestId →
        ownRows after.controller other.chars =
          ownRows current.controller other.chars) :
      AllocateChange current req ((.ok, requestId), after)

/-- What an accepted request does, however its path was registered. -/
theorem acceptedAlloc_change {plugin : SsuPluginOps PluginState}
    {current : ApiState (Logged PluginState)} {req : ApiAllocateReq}
    {answer : AllocAnswer} {result : SsuAllocResult} {after : ControllerState}
    {last : Logged PluginState}
    (called : ssuResourceAlloc (recording plugin) current.controller
      current.world req.resourceReq = (answer, after, last))
    (ok : answer.err = .ok) (out : answer.out = some result)
    (cache : ApiCache) :
    AllocateChange current req ((.ok, result.allocateId),
      { cache, controller := after, world := last }) := by
  obtain ⟨before, between, direct, refreshed, ended, directOk,
    directOut⟩ := ssuResourceAlloc_ok called ok
  have same := refreshPool_sameTables (recording plugin)
    current.controller current.world
  have quiet := refreshPool_log plugin current.controller current.world
  have outcome := ssuControllerAlloc_outcome (recording plugin)
    req.resourceReq ⟨true, 128⟩ before between
  rw [refreshed] at same quiet
  rw [out] at directOut
  generalize ssuControllerAlloc (recording plugin) req.resourceReq
    ⟨true, 128⟩ before between = answered at outcome ended
  cases outcome with
  | refused _ failed =>
      exact (failed ((congrArg (·.1.err) ended).trans directOk)).elim
  | undone _ _ _ _ _ failed =>
      exact (failed ((congrArg (·.1.err) ended).trans directOk)).elim
  | @reused buffer active =>
      cases ended
      obtain ⟨row, member, found, name, listed, own⟩ :=
        copyExistingAllocation_ok directOk
      have size := copyExistingAllocation_size directOk
      have nonempty : req.diskName ≠ [] := by
        intro unnamed
        simp [diskNameIsActive, findAllocationRowsByDiskName,
          isEmptyString, ApiAllocateReq.resourceReq, unnamed] at active
      rw [directOut, Option.some.injEq] at listed
      rw [findAllocationRowsByDiskName, same.allocations] at size
      rw [same.allocations] at member
      exact .repeated same.allocations member
        (own.symm.trans (congrArg _ listed.symm)) name nonempty size
  | @created _ provided _ ctx _ _ _ ran plan run _ listed =>
      cases ended
      rw [directOut, Option.some.injEq] at listed
      have own : result.allocateId = ctx.allocateId :=
        congrArg SsuAllocResult.allocateId listed
      obtain ⟨made, every, logged, lists⟩ :=
        listsExtents_of_run plan provided run
      rw [own]
      refine .created ?_ every (logged.trans (by rw [quiet])) lists ?_
      · rintro ⟨row, member, owned⟩
        rw [← same.allocations] at member
        exact plan.unused member owned
      · intro other different
        have distinct : ctx.allocateId.chars ≠ other.chars :=
          fun equal => different (BoundedString.ext equal).symm
        have kept : before.allocations =
            current.controller.allocations := same.allocations
        rw [← ownRows_of_sameTables kept, ownRows, ownRows]
        exact congrArg _ (run.filter_rows_other distinct)

theorem ssuApiAllocate_change (plugin : SsuPluginOps PluginState)
    {current : ApiState (Logged PluginState)}
    (sound : Sound current) (req : ApiAllocateReq) :
    AllocateChange current req
      (ssuApiAllocate (recording plugin) req current) := by
  cases checked : checkAllocateReq req with
  | ok =>
      rcases called : ssuResourceAlloc (recording plugin) current.controller
        current.world req.resourceReq with ⟨answer, after, last⟩
      by_cases ok : answer.err = .ok
      · obtain ⟨stays, makes⟩ := alloc_active sound.mounts.named called
        obtain ⟨result, out, active⟩ := makes ok
        obtain ⟨path, left, registered, _⟩ :=
          (sound.cache.mono fun other _ => stays other).register active
            req.diskName
        have returned : ssuApiAllocate (recording plugin) req current =
            ((.ok, result.allocateId),
              { cache := left, controller := after, world := last }) := by
          simp only [ssuApiAllocate, checked, called, ok, out, registered,
            ne_eq, not_true_eq_false, if_false]
        rw [returned]
        exact acceptedAlloc_change called ok out left
      · have effect := ssuResourceAlloc_effect (recording plugin)
          req.resourceReq current.controller current.world sound.mounts.named
        rw [called] at effect
        have returned : ssuApiAllocate (recording plugin) req current =
            ((answer.err, .empty),
              { current with controller := after, world := last }) := by
          simp only [ssuApiAllocate, checked, called, ok, ne_eq,
            not_false_eq_true, if_true]
        rw [returned]
        apply AllocateChange.failed ok
        cases effect with
        | failed _ same => exact same.allocations
        | reused _ _ _ answered => exact (ok answered).elim
        | created _ _ _ _ answered => exact (ok answered).elim
  | _ =>
      simp only [ssuApiAllocate, checked]
      exact .failed (fun same => by cases same) rfl

end Allocate

section OtherCalls

/-- Only an allocation and a release change which rows there are. -/
theorem ownRows_step (plugin : SsuPluginOps PluginState)
    (current : ControllerState × PluginState)
    (named : LogdevsNamed current.1) {op : ControllerOp}
    (notAlloc : ∀ req buffer, op ≠ .alloc req buffer)
    (notRelease : ∀ allocateId, op ≠ .release allocateId)
    (allocateId : CString) :
    ownRows (step plugin current op).1 allocateId =
      ownRows current.1 allocateId := by
  have effect := step_rowsEffect plugin current named op
  generalize step plugin current op = after at effect ⊢
  cases effect with
  | kept same => exact ownRows_of_sameTables same allocateId
  | restated _ _ rows => exact ownRows_setStates rows allocateId
  | placed => exact (notAlloc _ _ rfl).elim
  | removed _ _ _ => exact (notRelease _ rfl).elim

theorem ownRows_resourceMount (plugin : SsuPluginOps PluginState)
    {state : ControllerState} (named : LogdevsNamed state)
    (world : PluginState) (req : SsuMountReq) (allocateId : CString) :
    ownRows (ssuResourceMount plugin state world req).2.1 allocateId =
      ownRows state allocateId := by
  unfold ssuResourceMount
  split
  · rfl
  · have kept : ownRows (step plugin (state, world) (.mount req)).1
        allocateId = ownRows state allocateId := by
      apply ownRows_step plugin (state, world) named
      · intro _ _ same
        cases same
      · intro _ same
        cases same
    exact kept

theorem ownRows_resourceUnmount (plugin : SsuPluginOps PluginState)
    {state : ControllerState} (named : LogdevsNamed state)
    (world : PluginState) (logicalDev allocateId : CString) :
    ownRows (ssuResourceUnmount plugin state world logicalDev).2.1 allocateId =
      ownRows state allocateId := by
  unfold ssuResourceUnmount
  split
  · rfl
  · have kept : ownRows (step plugin (state, world) (.unmount logicalDev)).1
        allocateId = ownRows state allocateId := by
      apply ownRows_step plugin (state, world) named
      · intro _ _ same
        cases same
      · intro _ same
        cases same
    exact kept

variable {plugin : SsuPluginOps PluginState} {requestId : CBuf 64}

/-- A release that stops has a failed `delete_ns` in the log; one that does not
leaves every other allocation its rows. -/
theorem ownRows_fullRelease (plugin : SsuPluginOps PluginState)
    (released : CString) (state : ControllerState)
    (world : Logged PluginState) :
    let result := ssuControllerRelease (recording plugin) released state world
    result.2.2.2.all deleteSucceeded = true →
      ∀ requestId : CBuf 64, Active result.2.1 requestId →
        ownRows result.2.1 requestId.chars = ownRows state requestId.chars := by
  have outcome := ssuControllerRelease_outcome (recording plugin) released
    state world
  simp only
  generalize ssuControllerRelease (recording plugin) released state world =
    result at outcome
  intro succeed requestId active
  cases outcome with
  | refused _ => rfl
  | absent _ => rfl
  | stopped provided _ _ _ _ stopped failed =>
      obtain ⟨deleteNs, rfl⟩ := recording_deleteNs provided
      simp only [recordDelete, noted, Prod.mk.injEq] at stopped
      obtain ⟨refused, rfl⟩ := stopped
      simp only [List.all_append, List.all_cons, deleteSucceeded, refused,
        Bool.and_eq_true, decide_eq_true_eq] at succeed
      exact (failed succeed.2.1).elim
  | released _ _ run _ gone =>
      obtain ⟨row, member, own⟩ := active
      rw [rememberReleasedId_allocations] at member
      have different : released ≠ requestId.chars := by
        rintro rfl
        have absent := gone row member
        rw [rowHasId_iff.mpr own] at absent
        cases absent
      rw [ownRows_of_sameTables (rememberReleasedId_allocations _ released),
        ownRows, ownRows]
      exact congrArg _ (run.filter_rows_other different)

theorem ownRows_resourceRelease (plugin : SsuPluginOps PluginState)
    (released : CString) (state : ControllerState)
    (world : Logged PluginState) :
    let result := ssuResourceRelease (recording plugin) state world released
    result.2.2.2.all deleteSucceeded = true →
      ∀ requestId : CBuf 64, Active result.2.1 requestId →
        ownRows result.2.1 requestId.chars = ownRows state requestId.chars := by
  unfold ssuResourceRelease
  split
  · exact fun _ _ _ => rfl
  · exact ownRows_fullRelease plugin released state world

/-- As long as no `delete_ns` fails, a call other than an allocation leaves
every active allocation all of its rows. -/
theorem ownRows_apiStep {current : ApiState (Logged PluginState)}
    (sound : Sound current) {op : ApiOp}
    (notAllocate : ∀ req, op ≠ .allocate req)
    (succeed : (apiStep (recording plugin) current op).world.2.all
      deleteSucceeded = true)
    (active : Active (apiStep (recording plugin) current op).controller
      requestId) :
    ownRows (apiStep (recording plugin) current op).controller
        requestId.chars =
      ownRows current.controller requestId.chars := by
  obtain ⟨cache, state, world⟩ := current
  have named : LogdevsNamed state := sound.mounts.named
  cases op with
  | allocate req => exact (notAllocate req rfl).elim
  | resultGet shown =>
      simp only [apiStep, apiExec, ssuApiAllocateResultGet]
      split
      · rfl
      · split
        · rfl
        · split
          · rfl
          · split <;> rfl
  | mount devicePath hostId =>
      simp only [apiStep, apiExec, ssuApiMount]
      split
      · rfl
      · split
        · rfl
        · rename_i resolved _ _
          have kept := ownRows_resourceMount (recording plugin) named world
            { allocateId := resolved.chars
              hostId := hostId
              logicalDev := copyCstr 64 devicePath } requestId.chars
          split <;> (rename_i answered; rw [answered] at kept; exact kept)
  | unmount devicePath =>
      simp only [apiStep, apiExec, ssuApiUnmount]
      split
      · rfl
      · exact ownRows_resourceUnmount (recording plugin) named world devicePath
          requestId.chars
  | free devicePath =>
      revert succeed active
      simp only [apiStep, apiExec, ssuApiFree]
      split
      · exact fun _ _ => rfl
      · rename_i resolved _ _
        have released := ownRows_resourceRelease plugin resolved.chars state
          world
        split <;>
          (rename_i answered
           rw [answered] at released
           exact fun succeed active => released succeed requestId active)

end OtherCalls

section Runs

variable (plugin : SsuPluginOps PluginState) (world : PluginState)

/-- The state after these calls, with the log of the plugin calls. -/
def loggedRun (ops : List ApiOp) : ApiState (Logged PluginState) :=
  Transition.run (apiStep (recording plugin)) (.initial (world, [])) ops

/-- The `create_ns` and `delete_ns` calls of a run. -/
def namespaceCalls (ops : List ApiOp) : List NamespaceCall :=
  (loggedRun plugin world ops).world.2

/-- The state after these calls. -/
def apiRun (ops : List ApiOp) : ApiState PluginState :=
  Transition.run (apiStep plugin) (.initial world) ops

/-- `ssu_api_allocate(creator)` after the calls of `first` made the allocation,
with these calls of `create_ns`. -/
structure CreatedBy (requestId : CBuf 64) (first : List ApiOp)
    (creator : ApiAllocateReq) (made : List Creation) : Prop where
  fresh : ¬Active (apiRun plugin world first).controller requestId
  returned : (ssuApiAllocate plugin creator (apiRun plugin world first)).1 =
    (.ok, requestId)
  calls : namespaceCalls plugin world (first ++ [.allocate creator]) =
    namespaceCalls plugin world first ++ made.map Creation.call
  every : CreatedFor requestId made

/-- The allocation is active after the calls of `done` and has been ever
since. -/
def ActiveSince (requestId : CBuf 64) (done later : List ApiOp) : Prop :=
  ∀ part, part <+: later →
    Active (apiRun plugin world (done ++ part)).controller requestId

variable {plugin world} {requestId : CBuf 64} {ops : List ApiOp}

theorem ActiveSince.append {done rest later : List ApiOp}
    (first : ActiveSince plugin world requestId done rest)
    (second : ActiveSince plugin world requestId (done ++ rest) later) :
    ActiveSince plugin world requestId done (rest ++ later) := by
  intro part among
  rcases List.prefix_or_prefix_of_prefix among (List.prefix_append rest later)
    with early | late
  · exact first part early
  · obtain ⟨tail, rfl⟩ := late
    rw [← List.append_assoc]
    exact second tail ((List.prefix_append_right_inj rest).mp among)

theorem loggedRun_plain (plugin : SsuPluginOps PluginState)
    (world : PluginState) (ops : List ApiOp) :
    (loggedRun plugin world ops).plain = apiRun plugin world ops :=
  apiRun_plain plugin (.initial (world, [])) ops

theorem loggedRun_snoc (plugin : SsuPluginOps PluginState)
    (world : PluginState) (ops : List ApiOp) (op : ApiOp) :
    loggedRun plugin world (ops ++ [op]) =
      apiStep (recording plugin) (loggedRun plugin world ops) op :=
  Transition.run_append _ _ _ _

theorem loggedRun_controller (plugin : SsuPluginOps PluginState)
    (world : PluginState) (ops : List ApiOp) :
    (loggedRun plugin world ops).controller =
      (apiRun plugin world ops).controller :=
  congrArg ApiState.controller (loggedRun_plain plugin world ops)

/-- The calls return the same over the recording plugin. -/
theorem loggedRun_returns (plugin : SsuPluginOps PluginState)
    (world : PluginState) (ops : List ApiOp) (req : ApiAllocateReq) :
    (ssuApiAllocate plugin req (apiRun plugin world ops)).1 =
      (ssuApiAllocate (recording plugin) req (loggedRun plugin world ops)).1 := by
  rw [← loggedRun_plain, ssuApiAllocate_plain]

theorem namespaceCalls_append (ops later : List ApiOp) :
    namespaceCalls plugin world ops <+:
      namespaceCalls plugin world (ops ++ later) := by
  induction later using List.reverseRecOn with
  | nil =>
      rw [List.append_nil]
  | append_singleton later op induction =>
      have mounts := (sound_run (recording plugin) (world, [])
        (ops ++ later)).mounts
      have extended := (apiStep_run (recording plugin)
        (loggedRun plugin world (ops ++ later)) op).log mounts
      rw [← loggedRun_snoc, List.append_assoc] at extended
      exact induction.trans extended

theorem succeed_of_append {later : List ApiOp}
    (succeed : (namespaceCalls plugin world (ops ++ later)).all
      deleteSucceeded = true) :
    (namespaceCalls plugin world ops).all deleteSucceeded = true := by
  rw [List.all_eq_true] at succeed ⊢
  intro call member
  exact succeed call ((namespaceCalls_append ops later).subset member)

/-- One more call leaves an active allocation its rows or makes it. -/
theorem ownRows_snoc {op : ApiOp}
    (succeed : (namespaceCalls plugin world (ops ++ [op])).all
      deleteSucceeded = true)
    (active : Active (apiRun plugin world (ops ++ [op])).controller
      requestId) :
    ownRows (apiRun plugin world (ops ++ [op])).controller requestId.chars =
        ownRows (apiRun plugin world ops).controller requestId.chars ∨
      ∃ creator made, op = .allocate creator ∧
        CreatedBy plugin world requestId ops creator made ∧
        ListsExtents (ownRows (apiRun plugin world (ops ++ [op])).controller
          requestId.chars) made creator.sizeBytes := by
  have sound : Sound (loggedRun plugin world ops) :=
    sound_run (recording plugin) (world, []) ops
  rw [namespaceCalls, loggedRun_snoc] at succeed
  rw [← loggedRun_controller, loggedRun_snoc] at active
  rw [← loggedRun_controller, ← loggedRun_controller, loggedRun_snoc]
  cases op with
  | allocate req =>
      have change := ssuApiAllocate_change plugin sound req
      have stepped : apiStep (recording plugin) (loggedRun plugin world ops)
          (.allocate req) = (ssuApiAllocate (recording plugin) req
            (loggedRun plugin world ops)).2 := rfl
      have calls := congrArg (fun current => current.world.2)
        (loggedRun_snoc plugin world ops (.allocate req))
      have returns := loggedRun_returns plugin world ops req
      rw [stepped] at active calls ⊢
      generalize ssuApiAllocate (recording plugin) req
        (loggedRun plugin world ops) = result at change active calls returns ⊢
      cases change with
      | failed _ kept => exact .inl (ownRows_of_sameTables kept _)
      | repeated kept => exact .inl (ownRows_of_sameTables kept _)
      | @created newId _ made fresh every logged lists others =>
          by_cases own : newId = requestId
          · subst own
            rw [loggedRun_controller] at fresh
            exact .inr ⟨req, made, rfl,
              ⟨fresh, returns, calls.trans logged, every⟩, lists⟩
          · exact .inl (others requestId (Ne.symm own))
  | resultGet _ | mount _ _ | unmount _ | free _ =>
      left
      apply ownRows_apiStep sound _ succeed active
      intro req same
      cases same

/-- What is known of an active allocation: its creation and its rows. -/
structure Traced (plugin : SsuPluginOps PluginState) (world : PluginState)
    (ops : List ApiOp) (requestId : CBuf 64) (made : List Creation)
    (size : UInt64) : Prop where
  origin : ∃ first creator rest,
    ops = first ++ .allocate creator :: rest ∧ creator.sizeBytes = size ∧
      CreatedBy plugin world requestId first creator made ∧
      ActiveSince plugin world requestId (first ++ [.allocate creator]) rest
  lists : ListsExtents
    (ownRows (apiRun plugin world ops).controller requestId.chars) made size

namespace Traced

variable {made : List Creation} {size : UInt64} {op : ApiOp}

/-- The calls that keep the rows keep the trace. -/
theorem extend (traced : Traced plugin world ops requestId made size)
    (active : Active (apiRun plugin world (ops ++ [op])).controller requestId)
    (kept : ownRows (apiRun plugin world (ops ++ [op])).controller
        requestId.chars =
      ownRows (apiRun plugin world ops).controller requestId.chars) :
    Traced plugin world (ops ++ [op]) requestId made size := by
  obtain ⟨first, creator, rest, rfl, sized, created, since⟩ := traced.origin
  refine ⟨⟨first, creator, rest ++ [op], ?_, sized, created, ?_⟩, ?_⟩
  · rw [List.append_assoc, List.cons_append]
  · intro part among
    rcases List.prefix_concat_iff.mp among with rfl | earlier
    · have split : first ++ [.allocate creator] ++ (rest ++ [op]) =
          first ++ .allocate creator :: rest ++ [op] := by simp
      rw [split]
      exact active
    · exact since part earlier
  · rw [kept]
    exact traced.lists

/-- So does every call that leaves the allocation active. -/
theorem step (traced : Traced plugin world ops requestId made size)
    (before : Active (apiRun plugin world ops).controller requestId)
    (active : Active (apiRun plugin world (ops ++ [op])).controller requestId)
    (succeed : (namespaceCalls plugin world (ops ++ [op])).all
      deleteSucceeded = true) :
    Traced plugin world (ops ++ [op]) requestId made size := by
  rcases ownRows_snoc succeed active with kept | ⟨_, _, _, created, _⟩
  · exact traced.extend active kept
  · exact (created.fresh before).elim

theorem run {later : List ApiOp}
    (traced : Traced plugin world ops requestId made size)
    (still : ActiveSince plugin world requestId ops later)
    (succeed : (namespaceCalls plugin world (ops ++ later)).all
      deleteSucceeded = true) :
    Traced plugin world (ops ++ later) requestId made size := by
  induction later using List.reverseRecOn with
  | nil =>
      rw [List.append_nil]
      exact traced
  | append_singleton later op induction =>
      rw [← List.append_assoc] at succeed ⊢
      have earlier : ActiveSince plugin world requestId ops later :=
        fun part among => still part (among.trans (List.prefix_append _ _))
      have now := still (later ++ [op]) (List.prefix_refl _)
      rw [← List.append_assoc] at now
      exact (induction earlier (succeed_of_append succeed)).step
        (earlier later (List.prefix_refl _)) now succeed

end Traced

/-- Every active allocation has a trace. -/
theorem traced_of_active
    (succeed : (namespaceCalls plugin world ops).all deleteSucceeded = true)
    (active : Active (apiRun plugin world ops).controller requestId) :
    ∃ made size, Traced plugin world ops requestId made size := by
  induction ops using List.reverseRecOn with
  | nil =>
      obtain ⟨row, member, _⟩ := active
      simp [apiRun, ApiState.initial, ControllerState.initial] at member
  | append_singleton ops op induction =>
      rcases ownRows_snoc succeed active with
        kept | ⟨creator, made, rfl, created, lists⟩
      · have before : Active (apiRun plugin world ops).controller
            requestId := by
          rw [active_iff_ownRows, ← kept, ← active_iff_ownRows]
          exact active
        obtain ⟨made, size, traced⟩ :=
          induction (succeed_of_append succeed) before
        exact ⟨made, size, traced.extend active kept⟩
      · refine ⟨made, creator.sizeBytes,
          ⟨ops, creator, [], rfl, rfl, created, ?_⟩, lists⟩
        intro part among
        rw [List.prefix_nil.mp among, List.append_nil]
        exact active

theorem ListsExtents.size_eq {rows : List ControllerAllocation}
    {made : List Creation} {size : UInt64}
    (lists : ListsExtents rows made size) :
    totalSize rows = size := by
  have added := lists.laid.sum
  rw [Nat.zero_add] at added
  apply UInt64.toNat_inj.mp
  rw [toNat_totalSize rows (added ▸ size.toNat_lt)]
  exact added

theorem totalSize_unmarked (rows : List ControllerAllocation) :
    totalSize (rows.map unmarked) = totalSize rows :=
  List.foldl_map

theorem ListsExtents.find {state : ControllerState} {made : List Creation}
    {size : UInt64} {diskName : CString} {row : ControllerAllocation}
    (lists : ListsExtents (ownRows state requestId.chars) made size)
    (mounts : MountState state) (member : row ∈ state.allocations.rows)
    (own : row.info.allocateId = requestId)
    (name : row.info.diskName.chars = diskName) (named : diskName ≠ []) :
    findAllocationRowsByDiskName state diskName =
      state.allocations.rows.filter (rowHasId requestId.chars) := by
  have listed : ∀ row ∈ state.allocations.rows,
      row.info.allocateId = requestId →
        unmarked row ∈ ownRows state requestId.chars :=
    fun row member own => List.mem_map_of_mem
      (List.mem_filter.mpr ⟨member, rowHasId_iff.mpr own⟩)
  apply find_eq_own mounts named member own
  intro other otherMember sameId
  have sameName := lists.named _ (listed other otherMember sameId) _
    (listed row member own)
  exact (congrArg BoundedString.chars sameName).trans name

/-- Whatever request has returned the id, it has asked for this size. -/
theorem Traced.returned_size {made : List Creation} {size : UInt64}
    {req : ApiAllocateReq}
    (traced : Traced plugin world (ops ++ [.allocate req]) requestId made size)
    (returned : (ssuApiAllocate plugin req (apiRun plugin world ops)).1 =
      (.ok, requestId)) : size = req.sizeBytes := by
  have sound : Sound (loggedRun plugin world ops) :=
    sound_run (recording plugin) (world, []) ops
  have change := ssuApiAllocate_change plugin sound req
  have lists := traced.lists
  have stepped : apiStep (recording plugin) (loggedRun plugin world ops)
      (.allocate req) = (ssuApiAllocate (recording plugin) req
        (loggedRun plugin world ops)).2 := rfl
  rw [loggedRun_returns] at returned
  rw [← loggedRun_controller, loggedRun_snoc, stepped] at lists
  generalize ssuApiAllocate (recording plugin) req
    (loggedRun plugin world ops) = result at change returned lists
  cases change with
  | failed failed _ => exact (failed (congrArg Prod.fst returned)).elim
  | repeated kept member own name named size =>
      cases returned
      rw [ownRows_of_sameTables kept] at lists
      rw [lists.find sound.mounts member own name named,
        ← totalSize_unmarked] at size
      exact lists.size_eq.symm.trans size
  | created _ _ _ own _ =>
      cases returned
      exact lists.size_eq.symm.trans own.size_eq

/-- While no `delete_ns` fails, the result of an active request shows all
namespaces that were created for it, in their logical order. -/
theorem allocate_result_whole (plugin : SsuPluginOps PluginState)
    (world : PluginState) {done later : List ApiOp} {req : ApiAllocateReq}
    {requestId : CBuf 64}
    (returned : (ssuApiAllocate plugin req (apiRun plugin world done)).1 =
      (.ok, requestId))
    (still : ActiveSince plugin world requestId (done ++ [.allocate req]) later)
    (succeed : (namespaceCalls plugin world
      (done ++ [.allocate req] ++ later)).all deleteSucceeded = true) :
    ∃ first creator rest made,
      done ++ [.allocate req] = first ++ .allocate creator :: rest ∧
      CreatedBy plugin world requestId first creator made ∧
      ActiveSince plugin world requestId (first ++ [.allocate creator])
        (rest ++ later) ∧
      Reports (ssuApiAllocateResultGet requestId.chars
        (apiRun plugin world (done ++ [.allocate req] ++ later))).1 made
        req.sizeBytes := by
  have active := still [] List.nil_prefix
  rw [List.append_nil] at active
  obtain ⟨made, size, traced⟩ :=
    traced_of_active (succeed_of_append succeed) active
  obtain ⟨first, creator, rest, parts, _, created, since⟩ := traced.origin
  have split : first ++ [.allocate creator] ++ rest =
      done ++ [.allocate req] := by
    rw [parts, List.append_assoc, List.singleton_append]
  have lists := (traced.run still succeed).lists
  rw [traced.returned_size returned] at lists
  refine ⟨first, creator, rest, made, parts, created, ?_, ?_⟩
  · apply since.append
    rw [split]
    exact still
  · exact lists.reports (sound_run plugin world _)
      (still later (List.prefix_refl _))

def onTwoSsus : ApiAllocateReq :=
  { apiRequest 4096 [] with physicalDiskCount := 2 }

/-- A free slot below that of an active allocation. -/
def gapBelow : List ApiOp :=
  [.allocate (apiRequest 512 []), .allocate (apiRequest 512 []),
    .free "/dev/ssu/ssu0".toList]

/-- The two rows lie on both sides of the row of another allocation, which is
then freed. -/
theorem allocate_result_whole_two :
    ∃ made, Reports (ssuApiAllocateResultGet (autoAllocateId 2).chars
      (apiRun twoSsus () (gapBelow ++ [.allocate onTwoSsus] ++
        [.free "/dev/ssu/ssu1".toList]))).1 made 4096 := by
  have returned : (ssuApiAllocate twoSsus onTwoSsus
      (apiRun twoSsus () gapBelow)).1 = (.ok, autoAllocateId 2) := by
    decide +kernel
  have still : ActiveSince twoSsus () (autoAllocateId 2)
      (gapBelow ++ [.allocate onTwoSsus])
      [.free "/dev/ssu/ssu1".toList] := by
    have here : ∃ row ∈ (apiRun twoSsus () (gapBelow ++
        [.allocate onTwoSsus])).controller.allocations.rows,
        row.info.allocateId = autoAllocateId 2 := by
      decide +kernel
    have later : ∃ row ∈ (apiRun twoSsus () (gapBelow ++
        [.allocate onTwoSsus] ++
        [.free "/dev/ssu/ssu1".toList])).controller.allocations.rows,
        row.info.allocateId = autoAllocateId 2 := by
      decide +kernel
    intro part among
    cases part with
    | nil =>
        rw [List.append_nil]
        exact here
    | cons op rest =>
        obtain ⟨rfl, none⟩ := List.cons_prefix_cons.mp among
        rw [List.prefix_nil.mp none]
        exact later
  obtain ⟨_, _, _, made, _, _, _, reports⟩ :=
    allocate_result_whole twoSsus () returned still (by decide +kernel)
  exact ⟨made, reports⟩

end Runs

end UbseSsu.System

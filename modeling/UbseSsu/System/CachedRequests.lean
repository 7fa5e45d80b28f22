import UbseSsu.Controller.Capacity
import UbseSsu.Controller.RowEffects
import UbseSsu.Runtime.CommandEffects
import UbseSsu.System.DevicePaths

/-!
# The request cache under the manager's commands

The API keeps a slot for every request id that it has handed out, and gives it
up in `ssu_api_free` only.  A `RELEASE` command goes to the controller, past
the cache: the slot of the released allocation stays, and after as many such
slots as the cache has the API cannot hand out anything.  Every other command
keeps the cache exact.
-/

namespace UbseSsu.System

open Controller Api UbseSsu.Runtime

variable {PluginState : Type}

/-- The id has an active allocation. -/
def Active (state : ControllerState) (requestId : CBuf 64) : Prop :=
  ∃ row ∈ state.allocations.rows, row.info.allocateId = requestId

/-- Every slot in use belongs to an active allocation, and no two of them to
the same one. -/
structure CacheExact (cache : ApiCache) (state : ControllerState) : Prop where
  live : ∀ requestId ∈ cache.requests.rows.map ApiRequest.requestId,
    Active state requestId
  distinct : (cache.requests.rows.map ApiRequest.requestId).Nodup

theorem cacheExact_initial : CacheExact .initial ControllerState.initial := by
  constructor
  · simp [ApiCache.initial]
  · simp [ApiCache.initial]

namespace CacheExact

variable {cache left : ApiCache} {state after : ControllerState}
  {requestId : CBuf 64}

theorem of_perm (exact : CacheExact cache state)
    (same : (left.requests.rows.map ApiRequest.requestId).Perm
      (cache.requests.rows.map ApiRequest.requestId)) :
    CacheExact left state := by
  constructor
  · intro other member
    exact exact.live other (same.mem_iff.mp member)
  · exact same.nodup_iff.mpr exact.distinct

theorem mono (exact : CacheExact cache state)
    (kept : ∀ other ∈ cache.requests.rows.map ApiRequest.requestId,
      Active state other → Active after other) : CacheExact cache after := by
  constructor
  · intro other member
    exact kept other member (exact.live other member)
  · exact exact.distinct

/-- An active allocation without a slot leaves room for one. -/
theorem room (exact : CacheExact cache state)
    (active : Active state requestId)
    (unknown : requestId ∉ cache.requests.rows.map ApiRequest.requestId) :
    cache.requests.rows.length < apiMaxRequests := by
  have covered : requestId :: cache.requests.rows.map ApiRequest.requestId ⊆
      state.allocations.rows.map fun row => row.info.allocateId := by
    intro other member
    apply List.mem_map.mpr
    rcases List.mem_cons.mp member with rfl | cached
    · exact active
    · exact exact.live other cached
  have distinct := List.nodup_cons.mpr ⟨unknown, exact.distinct⟩
  have counted := (distinct.subperm covered).length_le
  have bound := state.allocations.length_rows_le
  have sizes : maxAllocations = apiMaxRequests := rfl
  simp only [List.length_cons, List.length_map] at counted
  omega

/-- So a path can be registered for every active allocation. -/
theorem register (exact : CacheExact cache state)
    (active : Active state requestId) (diskName : CString) :
    ∃ devicePath left,
      registerRequestPathWithName state requestId.chars diskName cache =
          (some devicePath, left) ∧ CacheExact left state := by
  simp only [registerRequestPathWithName]
  generalize defaultDevicePathForRequest requestId.chars _
    cache.nextDeviceIndex = path
  cases found : findRequestById requestId.chars cache with
  | some entry =>
      obtain ⟨slot, request⟩ := entry
      have held := (SlotTable.findRow_eq_some found).1
      refine ⟨path.1, _, rfl, exact.of_perm ?_⟩
      apply SlotTable.map_rows_put_perm held
      rfl
  | none =>
      have unknown : requestId ∉
          cache.requests.rows.map ApiRequest.requestId := by
        intro member
        obtain ⟨request, stored, same⟩ := List.mem_map.mp member
        have skipped := SlotTable.findRow_eq_none_iff.mp found request stored
        simp [requestHasId, same] at skipped
      obtain ⟨slot, free⟩ :=
        SlotTable.firstFree_isSome_of_room (exact.room active unknown)
      obtain ⟨bound, isFree⟩ := SlotTable.get_firstFree free
      simp only [free]
      refine ⟨path.1, _, rfl, ?_⟩
      have ids : ((cache.requests.put slot
          ⟨copyCstr 64 requestId.chars, path.1⟩).rows.map
            ApiRequest.requestId).Perm
          (copyCstr 64 requestId.chars ::
            cache.requests.rows.map ApiRequest.requestId) :=
        (SlotTable.rows_put_perm bound isFree).map ApiRequest.requestId
      rw [copyCstr_chars_self] at ids ⊢
      constructor
      · intro other member
        rcases List.mem_cons.mp (ids.mem_iff.mp member) with rfl | cached
        · exact active
        · exact exact.live other cached
      · apply ids.nodup_iff.mpr
        exact List.nodup_cons.mpr ⟨unknown, exact.distinct⟩

/-- Forgetting an id leaves the others. -/
theorem forget_ids (exact : CacheExact cache state) (requestId : CBuf 64) :
    ((forgetRequestPath requestId.chars cache).requests.rows.map
        ApiRequest.requestId).Sublist
        (cache.requests.rows.map ApiRequest.requestId) ∧
      requestId ∉ (forgetRequestPath requestId.chars cache).requests.rows.map
        ApiRequest.requestId := by
  unfold forgetRequestPath
  cases found : findRequestById requestId.chars cache with
  | none =>
      refine ⟨.refl _, fun member => ?_⟩
      obtain ⟨request, stored, same⟩ := List.mem_map.mp member
      have skipped := SlotTable.findRow_eq_none_iff.mp found request stored
      simp [requestHasId, same] at skipped
  | some entry =>
      obtain ⟨slot, request⟩ := entry
      obtain ⟨held, owned⟩ := SlotTable.findRow_eq_some found
      have own : request.requestId = requestId :=
        BoundedString.ext (of_decide_eq_true owned)
      refine ⟨(SlotTable.rows_clear_sublist held).map _, ?_⟩
      have parted := (SlotTable.rows_perm_clear held).map ApiRequest.requestId
      have distinct := parted.nodup_iff.mp exact.distinct
      rw [List.map_cons, own] at distinct
      exact (List.nodup_cons.mp distinct).1

theorem forget (exact : CacheExact cache state)
    (kept : ∀ other, other ≠ requestId → Active state other →
      Active after other) :
    CacheExact (forgetRequestPath requestId.chars cache) after := by
  obtain ⟨fewer, gone⟩ := exact.forget_ids requestId
  constructor
  · intro other member
    apply kept other
    · rintro rfl
      exact gone member
    · exact exact.live other (fewer.subset member)
  · exact exact.distinct.sublist fewer

/-- A lookup keeps the cache exact, and what it finds is active. -/
theorem lookup (exact : CacheExact cache state) (named : LogdevsNamed state)
    (devicePath : CString) :
    ∃ answer left, requestIdFromDevicePath state devicePath cache =
        (answer, left) ∧ CacheExact left state ∧
      ∀ requestId, answer = .ok requestId → Active state requestId := by
  have looked := requestIdFromDevicePath_lookup state devicePath cache
  generalize requestIdFromDevicePath state devicePath cache = result at looked
  cases looked with
  | unknown _ => exact ⟨_, _, rfl, exact, fun _ failed => by cases failed⟩
  | @mounted logdev member =>
      refine ⟨_, _, rfl, exact, fun requestId same => ?_⟩
      cases same
      exact named logdev member
  | @cached row active =>
      refine ⟨_, _, rfl, exact, fun requestId same => ?_⟩
      cases same
      exact ⟨row, active, rfl⟩
  | @registered row diskName active _ =>
      obtain ⟨path, left, registered, kept⟩ :=
        exact.register ⟨row, active, rfl⟩ diskName
      rw [registered]
      refine ⟨_, _, rfl, kept, fun requestId same => ?_⟩
      cases same
      exact ⟨row, active, rfl⟩

end CacheExact

section Controller

variable {plugin : SsuPluginOps PluginState} {state : ControllerState}
  {world : PluginState} {requestId : CBuf 64}

/-- Only a release ends an allocation. -/
theorem step_active (current : ControllerState × PluginState)
    (named : LogdevsNamed current.1) {op : ControllerOp}
    (notRelease : ∀ allocateId, op ≠ .release allocateId)
    (active : Active current.1 requestId) :
    Active (step plugin current op).1 requestId := by
  have effect := step_rowsEffect plugin current named op
  obtain ⟨row, member, own⟩ := active
  generalize step plugin current op = after at effect ⊢
  cases effect with
  | kept same => exact ⟨row, same ▸ member, own⟩
  | restated allocateId newState rows =>
      refine ⟨setRowState allocateId newState row, ?_, ?_⟩
      · rw [rows]
        exact List.mem_map_of_mem member
      · rw [setRowState_allocateId]
        exact own
  | placed _ _ run _ =>
      refine ⟨row, run.rows_perm.mem_iff.mpr ?_, own⟩
      exact List.mem_append_right _ member
  | removed _ _ _ => exact (notRelease _ rfl).elim

/-- Whether `delete_ns` accepts the extents one after the other. -/
def deletesAll
    (deleteNs : CBuf 64 → CBuf 32 → PluginState → SsuErr × PluginState) :
    List ControllerAllocation → PluginState → Bool
  | [], _ => true
  | row :: rows, world =>
      match deleteNs row.info.ssuId row.info.nsId world with
      | (.ok, world) => deletesAll deleteNs rows world
      | _ => false

/-- The allocation is not mounted, and its extents can be deleted. -/
def Releasable (plugin : SsuPluginOps PluginState) (allocateId : CString)
    (state : ControllerState) (world : PluginState) : Prop :=
  allocationHasLogdev state allocateId = false ∧
    ∃ deleteNs, plugin.deleteNs = some deleteNs ∧
      deletesAll deleteNs
        (state.allocations.rows.filter (rowHasId allocateId)) world = true

theorem deletesAll_of_run
    {deleteNs : CBuf 64 → CBuf 32 → PluginState → SsuErr × PluginState}
    {allocateId : CString} {first last : ControllerState × PluginState}
    {rows : List ControllerAllocation}
    (run : ReleaseRun deleteNs allocateId first rows last) :
    deletesAll deleteNs rows first.2 = true := by
  induction run with
  | done => rfl
  | delete _ _ _ deleted _ induction =>
      simp only [deletesAll, deleted]
      exact induction

/-- A release leaves everything active, or ends the allocation that it is
called for. -/
theorem release_active (plugin : SsuPluginOps PluginState)
    (allocateId : CString) (state : ControllerState) (world : PluginState) :
    let result := ssuControllerRelease plugin allocateId state world
    (∀ other, Active state other → Active result.2.1 other) ∨
      result.1 = .ok ∧ Releasable plugin allocateId state world ∧
        ∀ other : CBuf 64, other.chars ≠ allocateId →
          Active state other → Active result.2.1 other := by
  have outcome := ssuControllerRelease_outcome plugin allocateId state world
  simp only
  generalize ssuControllerRelease plugin allocateId state world = result
    at outcome ⊢
  cases outcome with
  | refused _ => exact .inl fun _ active => active
  | absent _ => exact .inl fun _ active => active
  | @stopped _ _ _ rows last run stuck kept owned _ _ _ _ =>
      left
      rintro other ⟨row, member, own⟩
      rcases List.mem_append.mp (run.rows_perm.mem_iff.mp member) with
        gone | left
      · have same : stuck.info.allocateId = row.info.allocateId := by
          apply BoundedString.ext
          have stuckId : stuck.info.allocateId.chars = allocateId :=
            of_decide_eq_true owned
          have rowId : row.info.allocateId.chars = allocateId :=
            of_decide_eq_true (run.owned row gone)
          rw [stuckId, rowId]
        exact ⟨stuck, kept, same.trans own⟩
      · exact ⟨row, left, own⟩
  | @released deleteNs provided unmounted rows last run found gone =>
      right
      refine ⟨rfl, ⟨unmounted, deleteNs, provided, ?_⟩, ?_⟩
      · have own := run.filter_rows_own
        have rest : last.1.allocations.rows.filter (rowHasId allocateId) =
            [] := by
          apply List.filter_eq_nil_iff.mpr
          intro row member
          rw [gone row member]
          exact Bool.false_ne_true
        rw [rest, List.append_nil] at own
        simp only at own
        rw [own]
        exact deletesAll_of_run run
      · rintro other different ⟨row, member, own⟩
        rcases List.mem_append.mp (run.rows_perm.mem_iff.mp member) with
          taken | left
        · have rowId : row.info.allocateId.chars = allocateId :=
            of_decide_eq_true (run.owned row taken)
          rw [own] at rowId
          exact (different rowId).elim
        · refine ⟨row, ?_, own⟩
          rw [rememberReleasedId_allocations]
          exact left

theorem resourceRelease_active (plugin : SsuPluginOps PluginState)
    (requestId : CBuf 64) (state : ControllerState) (world : PluginState) :
    let result := ssuResourceRelease plugin state world requestId.chars
    (result.1 ≠ .ok → ∀ other, Active state other → Active result.2.1 other) ∧
      ∀ other, other ≠ requestId → Active state other →
        Active result.2.1 other := by
  simp only [ssuResourceRelease]
  split
  · exact ⟨fun _ _ active => active, fun _ _ active => active⟩
  · rcases release_active plugin requestId.chars state world with
      all | ⟨answered, _, others⟩
    · exact ⟨fun _ => all, fun other _ => all other⟩
    · refine ⟨fun failed => (failed answered).elim, ?_⟩
      intro other different active
      apply others other _ active
      intro same
      exact different (BoundedString.ext same)

end Controller

section Calls

variable {plugin : SsuPluginOps PluginState} {current : ApiState PluginState}

/-- An allocation that was made has an active id, and ends none. -/
theorem alloc_active (named : LogdevsNamed current.controller)
    {req : SsuAllocReq} {answer : AllocAnswer} {state : ControllerState}
    {world : PluginState}
    (called : ssuResourceAlloc plugin current.controller current.world req =
      (answer, state, world)) :
    (∀ other, Active current.controller other → Active state other) ∧
      (answer.err = .ok → ∃ result, answer.out = some result ∧
        Active state result.allocateId) := by
  have effect := ssuResourceAlloc_effect plugin req current.controller
    current.world named
  rw [called] at effect
  cases effect with
  | failed failed same =>
      constructor
      · rintro other ⟨row, member, own⟩
        exact ⟨row, same.allocations ▸ member, own⟩
      · intro ok
        exact (failed ok).elim
  | reused _ active _ _ out own same =>
      constructor
      · rintro other ⟨row, member, own⟩
        exact ⟨row, same.allocations ▸ member, own⟩
      · intro _
        exact ⟨_, out, _, same.allocations ▸ active, own.symm⟩
  | created _ same plan run _ out own =>
      have added := rowsAdded_of_run named same plan run
      constructor
      · rintro other ⟨row, member, own⟩
        exact ⟨row, added.kept row member, own⟩
      · intro _
        obtain ⟨row, member, newId⟩ := added.some
        exact ⟨_, out, row, member, newId.trans own.symm⟩

/-- The call registers its allocation, so it answers as the allocation. -/
theorem CacheExact.allocate
    (exact : CacheExact current.cache current.controller)
    (named : LogdevsNamed current.controller) (req : ApiAllocateReq)
    (checked : checkAllocateReq req = .ok) {answer : AllocAnswer}
    {state : ControllerState} {world : PluginState}
    (called : ssuResourceAlloc plugin current.controller current.world
      req.resourceReq = (answer, state, world)) :
    (ssuApiAllocate plugin req current).1.1 = answer.err ∧
      CacheExact (ssuApiAllocate plugin req current).2.cache
        (ssuApiAllocate plugin req current).2.controller := by
  obtain ⟨kept, made⟩ := alloc_active named called
  have after := exact.mono fun other _ => kept other
  simp only [ssuApiAllocate, checked, called]
  by_cases answered : answer.err = .ok
  · obtain ⟨result, out, active⟩ := made answered
    obtain ⟨path, left, registered, registers⟩ :=
      after.register active req.diskName
    simp only [answered, out, registered, ne_eq, not_true_eq_false, if_false]
    exact ⟨trivial, registers⟩
  · simp only [answered, ne_eq, not_false_eq_true, if_true]
    exact ⟨trivial, after⟩

theorem CacheExact.resultGet
    (exact : CacheExact current.cache current.controller)
    (requestId : CString) :
    CacheExact (ssuApiAllocateResultGet requestId current).2.cache
      (ssuApiAllocateResultGet requestId current).2.controller := by
  unfold ssuApiAllocateResultGet
  split
  · exact exact
  · split
    · exact exact
    · rename_i known
      simp only [Bool.not_eq_true', Bool.not_eq_false] at known
      obtain ⟨row, member, rfl⟩ := allocationExists_iff.mp known
      obtain ⟨path, left, registered, kept⟩ :=
        exact.register ⟨row, member, rfl⟩ []
      simp only [registerRequestPath, registered]
      split <;> exact kept

theorem CacheExact.mount
    (exact : CacheExact current.cache current.controller)
    (named : LogdevsNamed current.controller) (devicePath hostId : CString) :
    CacheExact (ssuApiMount plugin devicePath hostId current).2.cache
      (ssuApiMount plugin devicePath hostId current).2.controller := by
  obtain ⟨answer, left, looked, kept, found⟩ := exact.lookup named devicePath
  simp only [ssuApiMount, looked]
  split
  · exact exact
  · cases answer with
    | error err => exact kept
    | ok requestId =>
        have active := found requestId rfl
        have stays : ∀ other, Active current.controller other →
            Active (ssuResourceMount plugin current.controller current.world
              (apiMountReq requestId devicePath hostId)).2.1 other := by
          intro other before
          unfold ssuResourceMount
          split
          · exact before
          · have mounted : Active (step plugin current.system
                (.mount (apiMountReq requestId devicePath hostId))).1 other := by
              apply step_active current.system named _ before
              intro allocateId release
              cases release
            exact mounted
        obtain ⟨err, controller, world, answered⟩ : ∃ err controller world,
            ssuResourceMount plugin current.controller current.world
              (apiMountReq requestId devicePath hostId) =
                (err, controller, world) := ⟨_, _, _, rfl⟩
        rw [answered] at stays
        have after := kept.mono fun other _ => stays other
        simp only [apiMountReq] at answered
        simp only [answered]
        cases err with
        | ok =>
            obtain ⟨path, last, registered, registers⟩ :=
              after.register (stays requestId active) []
            simp only [registerRequestPath, registered]
            exact registers
        | _ => exact after

theorem CacheExact.free
    (exact : CacheExact current.cache current.controller)
    (named : LogdevsNamed current.controller) (devicePath : CString) :
    CacheExact (ssuApiFree plugin devicePath current).2.cache
      (ssuApiFree plugin devicePath current).2.controller := by
  obtain ⟨answer, left, looked, kept, found⟩ := exact.lookup named devicePath
  simp only [ssuApiFree, looked]
  cases answer with
  | error err => exact kept
  | ok requestId =>
      obtain ⟨err, controller, world, answered⟩ : ∃ err controller world,
          ssuResourceRelease plugin current.controller current.world
            requestId.chars = (err, controller, world) := ⟨_, _, _, rfl⟩
      have released := resourceRelease_active plugin requestId
        current.controller current.world
      rw [answered] at released
      simp only [answered]
      cases err with
      | ok =>
          apply kept.forget
          intro other different before
          exact released.2 other different before
      | _ => exact kept.mono fun other _ =>
          released.1 (fun same => by cases same) other

theorem CacheExact.apiStep
    (exact : CacheExact current.cache current.controller)
    (named : LogdevsNamed current.controller) (op : ApiOp) :
    CacheExact (apiStep plugin current op).cache
      (apiStep plugin current op).controller := by
  cases op with
  | allocate req =>
      cases checked : checkAllocateReq req with
      | ok => exact (exact.allocate named req checked rfl).2
      | _ =>
          simp only [Api.apiStep, apiExec, ssuApiAllocate, checked]
          exact exact
  | resultGet requestId => exact exact.resultGet requestId
  | mount devicePath hostId => exact exact.mount named devicePath hostId
  | free devicePath => exact exact.free named devicePath
  | unmount devicePath =>
      simp only [Api.apiStep, apiExec, ssuApiUnmount, ssuResourceUnmount]
      split
      · exact exact
      · apply exact.mono
        intro other _ before
        have kept : Active (step plugin current.system
            (.unmount devicePath)).1 other := by
          apply step_active current.system named _ before
          intro allocateId release
          cases release
        exact kept

end Calls

section Commands

variable {plugin : SsuPluginOps PluginState} {pluginName : CString}
  {current : ApiState PluginState}

/-- A `RELEASE` command leaves the cache alone, so its allocation must not be
in there if it can be released. -/
def LeavesCached (plugin : SsuPluginOps PluginState)
    (current : ApiState PluginState) (request : CString) : Prop :=
  ∀ allocateId : CBuf 64, releasedId request = some allocateId.chars →
    allocateId ∈ current.cache.requests.rows.map ApiRequest.requestId →
      ¬Releasable plugin allocateId.chars current.controller current.world

theorem CacheExact.controllerStep
    (exact : CacheExact current.cache current.controller)
    (named : LogdevsNamed current.controller) {op : ControllerOp}
    (leaves : ∀ allocateId : CBuf 64, op = .release allocateId.chars →
      allocateId ∈ current.cache.requests.rows.map ApiRequest.requestId →
        ¬Releasable plugin allocateId.chars current.controller
          current.world) :
    CacheExact (controllerStep plugin current op).cache
      (controllerStep plugin current op).controller := by
  apply exact.mono
  intro other cached active
  cases op with
  | release allocateId =>
      rcases release_active plugin allocateId current.controller
        current.world with all | ⟨_, releasable, others⟩
      · exact all other active
      · apply others other _ active
        rintro rfl
        exact leaves other rfl cached releasable
  | refreshPool | alloc _ _ | mount _ | unmount _ =>
      apply step_active current.system named _ active
      intro allocateId release
      cases release

theorem CacheExact.commandStep
    (exact : CacheExact current.cache current.controller)
    (named : LogdevsNamed current.controller) (request : CString)
    (leaves : LeavesCached plugin current request) :
    CacheExact (commandStep plugin pluginName current request).cache
      (commandStep plugin pluginName current request).controller := by
  have effect := handleCommand_effect plugin pluginName request current
  generalize Runtime.commandStep plugin pluginName current request = after
    at effect ⊢
  cases effect with
  | unchanged => exact exact
  | api op => exact exact.apiStep named op
  | controller op release =>
      apply exact.controllerStep named
      intro allocateId same
      exact leaves allocateId (release allocateId.chars same)

/-- What is promised of the cache in one state: it is exact, and so an
allocation that was made is always registered. -/
structure CacheServes (plugin : SsuPluginOps PluginState)
    (current : ApiState PluginState) : Prop where
  exact : CacheExact current.cache current.controller
  registers : ∀ req : ApiAllocateReq, checkAllocateReq req = .ok →
    (ssuApiAllocate plugin req current).1.1 =
      (ssuResourceAlloc plugin current.controller current.world
        req.resourceReq).1.err

/-- The cache of the API serves every run in which no `RELEASE` command ends
an allocation that the cache holds. -/
theorem cache_serves (plugin : SsuPluginOps PluginState)
    (pluginName : CString) (world : PluginState) {requests : List CString}
    (leaves : Transition.Admissible (commandStep plugin pluginName)
      (LeavesCached plugin) (.initial world) requests) :
    ∀ done later, requests = done ++ later →
      CacheServes plugin (Transition.run (commandStep plugin pluginName)
        (.initial world) done) := by
  rintro done later rfl
  obtain ⟨reached, exact⟩ := Transition.run_invariant
    (fun current => ControllerRun plugin (.initial, world) current.system ∧
      CacheExact current.cache current.controller)
    (fun current request holds leaves =>
      ⟨holds.1.trans (commandStep_run plugin pluginName request current),
        holds.2.commandStep holds.1.mountState.named request leaves⟩)
    ⟨.refl _, cacheExact_initial⟩ leaves.append.1
  refine ⟨exact, ?_⟩
  intro req checked
  exact (exact.allocate reached.mountState.named req checked rfl).1

def allocateCommand : CString :=
  "ALLOCATE 512 0 1 0 user host0".toList

theorem cache_serves_free :
    CacheServes (acceptingPlugin [oneSsu])
      (Transition.run (commandStep (acceptingPlugin [oneSsu]) "mock".toList)
        (.initial ()) [allocateCommand, "RELEASE alloc-7".toList,
          "FREE /dev/ssu/ssu0".toList]) := by
  refine cache_serves (acceptingPlugin [oneSsu]) "mock".toList () ?_ _ []
    (List.append_nil _).symm
  have noId : releasedId allocateCommand = none ∧
      releasedId "FREE /dev/ssu/ssu0".toList = none := by
    decide +kernel
  have other : releasedId "RELEASE alloc-7".toList =
      some (autoAllocateId 7).chars := by
    decide +kernel
  refine ⟨fun _ released => ?_, fun allocateId released cached => ?_,
    fun _ released => ?_, trivial⟩
  · rw [noId.1] at released
    cases released
  · rw [other] at released
    have seven : autoAllocateId 7 = allocateId :=
      BoundedString.ext (Option.some.inj released)
    rw [← seven] at cached
    have absent : autoAllocateId 7 ∉ (commandStep (acceptingPlugin [oneSsu])
        "mock".toList (.initial ()) allocateCommand).cache.requests.rows.map
          ApiRequest.requestId := by
      decide +kernel
    exact (absent cached).elim
  · rw [noId.2] at released
    cases released

theorem release_leaves_cached :
    ¬CacheServes (acceptingPlugin [oneSsu])
      (Transition.run (commandStep (acceptingPlugin [oneSsu]) "mock".toList)
        (.initial ()) [allocateCommand, "RELEASE alloc-0".toList]) := by
  intro serves
  have cached : autoAllocateId 0 ∈ (Transition.run
      (commandStep (acceptingPlugin [oneSsu]) "mock".toList) (.initial ())
      [allocateCommand,
        "RELEASE alloc-0".toList]).cache.requests.rows.map
          ApiRequest.requestId := by
    decide +kernel
  have none : (Transition.run
      (commandStep (acceptingPlugin [oneSsu]) "mock".toList) (.initial ())
      [allocateCommand,
        "RELEASE alloc-0".toList]).controller.allocations.rows = [] := by
    decide +kernel
  obtain ⟨row, member, _⟩ := serves.exact.live _ cached
  rw [none] at member
  cases member

end Commands

end UbseSsu.System

import UbseSsu.Controller.Capacity

/-!
# What a failed operation leaves

A failed allocation takes its extents back one by one.  Each of them finds its
SSU again by name, so with distinct names every counter returns to what it
was.
-/

namespace UbseSsu.Controller

variable {PluginState : Type}

/-- The pool, the rows and the remembered ids of `before`. -/
structure Unchanged (before after : ControllerState) : Prop where
  pool : after.pool = before.pool
  allocations : after.allocations = before.allocations
  logdevs : after.logdevs = before.logdevs
  releasedIds : after.releasedIds = before.releasedIds

theorem Unchanged.refl (state : ControllerState) : Unchanged state state :=
  ⟨rfl, rfl, rfl, rfl⟩

section Counters

variable {resources : List SsuResourceInfo} {index : Nat}
  {resource : SsuResourceInfo}

/-- With distinct names the lookup finds the entry it was written to. -/
theorem findResourceIndex_of_get (distinct : (ssuIds resources).Nodup)
    (pooled : resources[index]? = some resource) :
    findResourceIndex resources resource.ssuId = some index := by
  have listed : resource.ssuId ∈ ssuIds resources :=
    List.mem_map_of_mem (List.mem_of_getElem? pooled)
  obtain ⟨first, other, found, there, sameId⟩ :=
    findResourceIndex_of_mem listed
  obtain ⟨firstInside, _⟩ := List.getElem?_eq_some_iff.mp there
  have inside : first < (ssuIds resources).length := by
    rw [ssuIds, List.length_map]
    exact firstInside
  have ids : (ssuIds resources)[first]? = (ssuIds resources)[index]? := by
    simp [ssuIds, there, pooled, sameId]
  rw [found, (List.getElem?_inj inside distinct).mp ids]

theorem modify_eq_self {update : SsuResourceInfo → SsuResourceInfo}
    (pooled : resources[index]? = some resource)
    (same : update resource = resource) :
    resources.modify index update = resources := by
  apply List.ext_getElem?
  intro place
  rw [List.getElem?_modify]
  by_cases here : index = place
  · subst here
    simp [pooled, same]
  · simp [here]

theorem ssuIds_modify (length : UInt64) :
    ssuIds (resources.modify index fun counter =>
      { counter with usedBytes := counter.usedBytes + length }) =
      ssuIds resources := by
  apply List.ext_getElem?
  intro place
  simp only [ssuIds, List.getElem?_map, List.getElem?_modify]
  by_cases here : index = place
  · subst here
    simp [Function.comp_def]
  · simp [here]

/-- Taking an extent back undoes the counting of the extent. -/
theorem subUsedBytes_addUsedBytes {state between : ControllerState}
    {length : UInt64} (distinct : (ssuIds state.pool.items).Nodup)
    (pooled : state.pool.items[index]? = some resource)
    (counted : (resource.usedBytes + length).toNat =
      resource.usedBytes.toNat + length.toNat)
    (added : between.pool = (addUsedBytes state index length).pool) :
    (subUsedBytes between resource.ssuId length).pool = state.pool := by
  have items : between.pool.items =
      state.pool.items.modify index fun counter =>
        { counter with usedBytes := counter.usedBytes + length } :=
    congrArg CountedArray.items added
  have now : between.pool.items[index]? =
      some { resource with usedBytes := resource.usedBytes + length } := by
    rw [items, List.getElem?_modify]
    simp [pooled]
  have found : findResourceIndex between.pool.items resource.ssuId =
      some index := by
    apply findResourceIndex_of_get _ now
    rw [items, ssuIds_modify]
    exact distinct
  have enough : length ≤ resource.usedBytes + length := by
    rw [UInt64.le_iff_toNat_le, counted]
    omega
  have back : resource.usedBytes + length - length = resource.usedBytes := by
    simp
  apply CountedArray.ext
  simp only [subUsedBytes, found, CountedArray.items_modifyAt]
  rw [items, List.modify_modify_eq]
  apply modify_eq_self pooled
  simp [enough, back]

end Counters

section Rollback

variable
  {createNs : SsuExtentCreateReq → PluginState → CreateNsAnswer × PluginState}
  {ctx : AllocContext}

/-- The rollback undoes the rounds one by one, counters included. -/
theorem ExtentRun.rollback_unchanged {poolIndexes : List Nat} {index : Nat}
    {offset : UInt64} {first last : ControllerState × PluginState}
    {entries : List (Nat × ControllerAllocation)}
    (run : ExtentRun createNs ctx poolIndexes index offset first entries last)
    (plugin : SsuPluginOps PluginState)
    (distinct : (ssuIds first.1.pool.items).Nodup)
    (created : List Nat) (world : PluginState) :
    ∃ undone after,
      rollbackExtents plugin ((entries.map Prod.fst).reverse ++ created) last.1
          world = rollbackExtents plugin created undone after ∧
        Unchanged first.1 undone := by
  induction run generalizing created with
  | done => exact ⟨_, world, rfl, .refl _⟩
  | @place state _ _ slot poolIndex index offset resource answer _ _ _ checked
      _ _ _ induction =>
      obtain ⟨bound, free⟩ := SlotTable.get_firstFree checked.free
      let row := ctx.row (ctx.extentReq resource index offset) answer
      have sameIds : ssuIds (addExtent state slot poolIndex row).pool.items =
          ssuIds state.pool.items := ssuIds_modify _
      obtain ⟨undone, after, rolled, unchanged⟩ :=
        induction (sameIds ▸ distinct) (slot :: created)
      have active : undone.allocations.get slot = some row := by
        rw [unchanged.allocations]
        exact SlotTable.get_put_self bound
      refine ⟨dropExtent undone slot row, rollbackDelete plugin row after,
        ?_, ?_⟩
      · rw [List.map_cons, List.reverse_cons, List.append_assoc,
          List.singleton_append, rolled, rollbackExtents, active]
      · refine ⟨?_, ?_, ?_, ?_⟩
        · exact subUsedBytes_addUsedBytes distinct checked.pooled
            checked.toNat_add unchanged.pool
        · rw [dropExtent_allocations, unchanged.allocations]
          exact SlotTable.clear_put_of_free bound free
        · simpa using unchanged.logdevs
        · simpa using unchanged.releasedIds

end Rollback

section Operations

variable {plugin : SsuPluginOps PluginState} {state : ControllerState}
  {world : PluginState}

theorem AllocOutcome.unchanged {req : SsuAllocReq}
    {result : AllocAnswer × ControllerState × PluginState}
    (outcome : AllocOutcome plugin req state world result)
    (distinct : (ssuIds state.pool.items).Nodup)
    (failed : result.1.err ≠ .ok) : Unchanged state result.2.1 := by
  cases outcome with
  | refused => exact ⟨rfl, rfl, rfl, rfl⟩
  | reused => exact .refl state
  | @undone createNs provided _ ctx number selected placed rest entries last
      after plan parts run stopped _ =>
      obtain ⟨undone, final, rolled, unchanged⟩ :=
        run.rollback_unchanged plugin distinct [] after
      rw [List.append_nil, rollbackExtents] at rolled
      rw [rolled]
      exact ⟨unchanged.pool, unchanged.allocations, unchanged.logdevs,
        unchanged.releasedIds⟩
  | created _ _ _ answered _ => exact (failed answered).elim

theorem MountOutcome.unchanged {req : SsuMountReq}
    {result : SsuErr × ControllerState × PluginState}
    (outcome : MountOutcome plugin req state world result)
    (failed : result.1 ≠ .ok) : Unchanged state result.2.1 := by
  cases outcome with
  | refused => exact .refl state
  | unconnected => exact .refl state
  | rejected => exact .refl state
  | mounted => exact (failed rfl).elim

theorem UnmountOutcome.unchanged {logicalDev : CString}
    {result : SsuErr × ControllerState × PluginState}
    (outcome : UnmountOutcome plugin logicalDev state world result)
    (failed : result.1 ≠ .ok) : Unchanged state result.2.1 := by
  cases outcome with
  | refused => exact .refl state
  | stale => exact .refl state
  | rejected => exact .refl state
  | unmounted => exact (failed rfl).elim

theorem refreshPool_unchanged
    (failed : (ssuControllerRefreshPool plugin state world).1 ≠ .ok) :
    Unchanged state (ssuControllerRefreshPool plugin state world).2.1 := by
  revert failed
  unfold ssuControllerRefreshPool
  split
  · exact fun _ => .refl state
  · split
    · split
      · simp only
        split
        · exact fun failed => (failed rfl).elim
        · exact fun _ => .refl state
      · exact fun _ => .refl state
    · exact fun _ => .refl state

/-- Whatever the plugin answers: an allocation, a mount, an unmount or a
refresh that fails leaves the controller's views as they were. -/
theorem failed_op_unchanged (plugin : SsuPluginOps PluginState)
    (state : ControllerState) (world : PluginState)
    (distinct : (ssuIds state.pool.items).Nodup) (op : ControllerOp)
    (notRelease : ∀ allocateId, op ≠ .release allocateId)
    (failed : (exec plugin op state world).1 ≠ .ok) :
    Unchanged state (exec plugin op state world).2.1 := by
  cases op with
  | refreshPool => exact refreshPool_unchanged failed
  | alloc req buffer =>
      exact (ssuControllerAlloc_outcome plugin req buffer state
        world).unchanged distinct failed
  | release allocateId => exact (notRelease allocateId rfl).elim
  | mount req =>
      exact (ssuControllerMount_outcome plugin req state world).unchanged
        failed
  | unmount logicalDev =>
      exact (ssuControllerUnmount_outcome plugin logicalDev state
        world).unchanged failed

/-- Two SSUs, room for one namespace, and a `delete_ns` that never works. -/
def crampedPlugin : SsuPluginOps Nat :=
  let ssu := fun name : String =>
    { ssuId := copyCstr 64 name.toList
      totalBytes := 8192
      usedBytes := 0
      state := onlineState
      hostId := copyCstr 64 "host0".toList : SsuResourceInfo }
  let answer := fun err : SsuErr =>
    { err := err, nsId := copyCstr 32 "1".toList, physSector := 0 :
      CreateNsAnswer }
  { discover := some fun world => ((.ok, [ssu "ssu0", ssu "ssu1"]), world)
    connect := none
    healthCheck := none
    createNs := some fun _ world =>
      if world = 0 then (answer .ok, 1) else (answer .noResource, world)
    deleteNs := some fun _ _ world => (.io, world)
    mount := none
    unmount := none }

/-- The second extent is refused and the first one taken back. -/
theorem failed_op_unchanged_cramped :
    Unchanged (step crampedPlugin (.initial, 0) .refreshPool).1
      (exec crampedPlugin (.alloc (plainRequest 4096 []) ⟨true, 8⟩)
        (step crampedPlugin (.initial, 0) .refreshPool).1
        (step crampedPlugin (.initial, 0) .refreshPool).2).2.1 :=
  failed_op_unchanged crampedPlugin
    (step crampedPlugin (.initial, 0) .refreshPool).1
    (step crampedPlugin (.initial, 0) .refreshPool).2 (by decide +kernel)
    (.alloc (plainRequest 4096 []) ⟨true, 8⟩) (by nofun) (by decide +kernel)

end Operations

end UbseSsu.Controller

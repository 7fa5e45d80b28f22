import UbseSsu.Controller.PoolRefresh
import UbseSsu.Library.Charges

/-!
# Capacity conservation

The pool's `used_bytes` counters are charged by allocation, refunded by the
rollback and by release, and carried over by the pool refresh.  They stay
equal to the sums of the active row lengths through any interleaving of these
operations, provided that discovery lists distinct SSUs and reports nothing
used on an SSU it shows for the first time.
-/

namespace UbseSsu.Controller

variable {PluginState : Type} {plugin : SsuPluginOps PluginState}

/-- Sum of the lengths of the active rows on one SSU. -/
def allocatedBytes (state : ControllerState) (ssuId : CBuf 64) : Nat :=
  Charges.total (fun row : ControllerAllocation => row.info.ssuId)
    (fun row => row.info.length.toNat) state.allocations.rows ssuId

/-- The counters of the pool account for the allocation rows. -/
abbrev Accounted (state : ControllerState) : Prop :=
  Charges.Balanced SsuResourceInfo.ssuId
    (fun resource => resource.usedBytes.toNat)
    (fun row : ControllerAllocation => row.info.ssuId)
    (fun row => row.info.length.toNat) state.pool.items state.allocations.rows

/-- The counters of the pool show the allocation rows on top of `base`. -/
abbrev AccountedAbove (base : CBuf 64 → Nat) (state : ControllerState) :
    Prop :=
  Charges.Backed SsuResourceInfo.ssuId
    (fun resource => resource.usedBytes.toNat)
    (fun row : ControllerAllocation => row.info.ssuId)
    (fun row => row.info.length.toNat) base state.pool.items
    state.allocations.rows

theorem accounted_iff {state : ControllerState} :
    Accounted state ↔ AccountedAbove (fun _ => 0) state :=
  Charges.Backed.balanced_iff

def WithinCapacity (state : ControllerState) : Prop :=
  ∀ resource ∈ state.pool.items, resource.usedBytes ≤ resource.totalBytes

/-- A discovery answer lists distinct SSUs, and those that the pool does not
hold yet with nothing used. -/
def HonestDiscovery (plugin : SsuPluginOps PluginState)
    (current : ControllerState × PluginState) : ControllerOp → Prop
  | .refreshPool =>
      ∀ discovered ∈ discoveredResources plugin current.2,
        (ssuIds discovered).Nodup ∧
          ∀ resource ∈ discovered,
            resource.ssuId ∉ ssuIds current.1.pool.items →
              resource.usedBytes = 0
  | _ => True

/-- Discovery never lowers the size of an SSU in the pool. -/
def KeepsTotals (plugin : SsuPluginOps PluginState)
    (current : ControllerState × PluginState) : ControllerOp → Prop
  | .refreshPool =>
      ∀ discovered ∈ discoveredResources plugin current.2,
        ∀ resource ∈ discovered, ∀ known ∈ current.1.pool.items,
          known.ssuId = resource.ssuId →
            known.totalBytes ≤ resource.totalBytes
  | _ => True

instance decidableHonestDiscovery (plugin : SsuPluginOps PluginState)
    (current : ControllerState × PluginState) :
    ∀ op, Decidable (HonestDiscovery plugin current op)
  | .refreshPool =>
      inferInstanceAs (Decidable (∀ discovered ∈
        discoveredResources plugin current.2, _ ∧ _))
  | .alloc _ _ | .release _ | .mount _ | .unmount _ =>
      inferInstanceAs (Decidable True)

instance decidableKeepsTotals (plugin : SsuPluginOps PluginState)
    (current : ControllerState × PluginState) :
    ∀ op, Decidable (KeepsTotals plugin current op)
  | .refreshPool =>
      inferInstanceAs (Decidable (∀ discovered ∈
        discoveredResources plugin current.2, ∀ resource ∈ discovered,
          ∀ known ∈ current.1.pool.items, _ → _))
  | .alloc _ _ | .release _ | .mount _ | .unmount _ =>
      inferInstanceAs (Decidable True)

section Refresh

variable {state : ControllerState} {discovered : List SsuResourceInfo}
  {pool : CountedArray SsuResourceInfo maxResources}

theorem carryUsedBytes_cases (pool : List SsuResourceInfo)
    (resource : SsuResourceInfo) :
    (∃ known ∈ pool, known.ssuId = resource.ssuId ∧
      (carryUsedBytes pool resource).usedBytes = known.usedBytes) ∨
    resource.ssuId ∉ ssuIds pool ∧
      (carryUsedBytes pool resource).usedBytes = resource.usedBytes := by
  unfold carryUsedBytes
  split
  · rename_i missing
    refine .inr ⟨?_, rfl⟩
    simpa [ssuIds] using missing
  · rename_i known found
    have same := List.find?_some found
    exact .inl ⟨known, List.mem_of_find?_eq_some found, by simpa using same,
      rfl⟩

/-- A counter of the new pool is carried over or a discovered one. -/
theorem PoolRebuilt.carried
    (rebuilt : PoolRebuilt discovered state.pool.items pool.items)
    {resource : SsuResourceInfo} (member : resource ∈ pool.items) :
    (∃ known ∈ state.pool.items, known.ssuId = resource.ssuId ∧
      known.usedBytes = resource.usedBytes) ∨
    resource.ssuId ∉ ssuIds state.pool.items ∧
      ∃ found ∈ discovered, found.ssuId = resource.ssuId ∧
        found.usedBytes = resource.usedBytes := by
  rcases rebuilt.origin resource member with ⟨found, foundMember, same⟩ |
    ⟨known, knownMember, same⟩
  · have id := same.ssuId.trans (carryUsedBytes_ssuId _ _)
    rcases carryUsedBytes_cases state.pool.items found with
      ⟨known, knownMember, sameId, used⟩ | ⟨unknown, used⟩
    · exact .inl ⟨known, knownMember, sameId.trans id.symm,
        (same.usedBytes.trans used).symm⟩
    · exact .inr ⟨id ▸ unknown, found, foundMember, id.symm,
        (same.usedBytes.trans used).symm⟩
  · exact .inl ⟨known, knownMember, same.ssuId.symm, same.usedBytes.symm⟩

theorem Accounted.rebuild (accounted : Accounted state)
    (rebuilt : PoolRebuilt discovered state.pool.items pool.items)
    (unique : (ssuIds discovered).Nodup)
    (fresh : ∀ resource ∈ discovered,
      resource.ssuId ∉ ssuIds state.pool.items → resource.usedBytes = 0) :
    Accounted { state with pool := pool } := by
  refine Charges.Balanced.rebuild accounted (rebuilt.distinct unique)
    rebuilt.kept fun resource member => ?_
  refine (rebuilt.carried member).imp ?_ ?_
  · rintro ⟨known, knownMember, id, used⟩
    exact ⟨known, knownMember, id, congrArg UInt64.toNat used⟩
  · rintro ⟨unknown, found, foundMember, id, used⟩
    have zero := fresh found foundMember (id ▸ unknown)
    exact ⟨unknown, congrArg UInt64.toNat (used.symm.trans zero)⟩

theorem AccountedAbove.rebuild {base : CBuf 64 → Nat}
    (accounted : AccountedAbove base state)
    (rebuilt : PoolRebuilt discovered state.pool.items pool.items)
    (unique : (ssuIds discovered).Nodup) :
    ∃ base, AccountedAbove base { state with pool := pool } := by
  refine ⟨_, Charges.Backed.rebuild accounted (rebuilt.distinct unique)
    rebuilt.kept fun resource member => ?_⟩
  refine (rebuilt.carried member).imp ?_ And.left
  rintro ⟨known, knownMember, id, used⟩
  exact ⟨known, knownMember, id, congrArg UInt64.toNat used⟩

theorem WithinCapacity.rebuild (within : WithinCapacity state)
    (rebuilt : PoolRebuilt discovered state.pool.items pool.items)
    (fresh : ∀ resource ∈ discovered,
      resource.ssuId ∉ ssuIds state.pool.items → resource.usedBytes = 0)
    (grows : ∀ resource ∈ discovered, ∀ known ∈ state.pool.items,
      known.ssuId = resource.ssuId →
        known.totalBytes ≤ resource.totalBytes) :
    WithinCapacity { state with pool := pool } := by
  intro resource member
  rcases rebuilt.origin resource member with ⟨found, foundMember, same⟩ |
    ⟨known, knownMember, same⟩
  · rw [same.usedBytes, same.totalBytes, carryUsedBytes_totalBytes]
    rcases carryUsedBytes_cases state.pool.items found with
      ⟨known, knownMember, sameId, used⟩ | ⟨unknown, used⟩
    · rw [used]
      exact UInt64.le_trans (within known knownMember)
        (grows found foundMember known knownMember sameId)
    · rw [used, fresh found foundMember unknown]
      exact UInt64.zero_le
  · rw [same.usedBytes, same.totalBytes]
    exact within known knownMember

end Refresh

section Extents

variable {base : CBuf 64 → Nat} {state : ControllerState} {slot : Nat}
  {row : ControllerAllocation}

/-- The extent loop has checked that the addition stays below the capacity. -/
theorem ExtentChecked.used_add {ctx : AllocContext} {poolIndex index : Nat}
    {resource : SsuResourceInfo}
    (checked : ExtentChecked ctx state slot poolIndex index resource) :
    resource.usedBytes.toNat +
        (extentLength ctx.baseLength ctx.remainder index).toNat ≤
      resource.totalBytes.toNat := by
  have counted := UInt64.le_iff_toNat_le.mp checked.counted
  have fits := UInt64.le_iff_toNat_le.mp checked.fits
  rw [UInt64.toNat_sub_of_le _ _ checked.counted] at fits
  omega

theorem ExtentChecked.toNat_add {ctx : AllocContext} {poolIndex index : Nat}
    {resource : SsuResourceInfo}
    (checked : ExtentChecked ctx state slot poolIndex index resource) :
    (resource.usedBytes +
        extentLength ctx.baseLength ctx.remainder index).toNat =
      resource.usedBytes.toNat +
        (extentLength ctx.baseLength ctx.remainder index).toNat := by
  have within := checked.used_add
  rw [UInt64.toNat_add]
  exact Nat.mod_eq_of_lt (Nat.lt_of_le_of_lt within resource.totalBytes.toNat_lt)

theorem AccountedAbove.addExtent (accounted : AccountedAbove base state)
    {ctx : AllocContext} {poolIndex index : Nat} {offset : UInt64}
    {resource : SsuResourceInfo}
    (checked : ExtentChecked ctx state slot poolIndex index resource)
    (answer : CreateNsAnswer) :
    AccountedAbove base (addExtent state slot poolIndex
      (ctx.row (ctx.extentReq resource index offset) answer)) := by
  obtain ⟨bound, free⟩ := SlotTable.get_firstFree checked.free
  have charged := accounted.charge
    (ctx.row (ctx.extentReq resource index offset) answer)
    (fun counter => { counter with
      usedBytes := counter.usedBytes +
        extentLength ctx.baseLength ctx.remainder index })
    checked.pooled (fun _ => rfl) checked.toNat_add rfl
  exact charged.perm (SlotTable.rows_put_perm bound free).symm

theorem WithinCapacity.addExtent (within : WithinCapacity state)
    (accounted : Accounted state) {ctx : AllocContext}
    {poolIndex index : Nat} {offset : UInt64} {resource : SsuResourceInfo}
    (checked : ExtentChecked ctx state slot poolIndex index resource)
    (answer : CreateNsAnswer) :
    WithinCapacity (addExtent state slot poolIndex
      (ctx.row (ctx.extentReq resource index offset) answer)) := by
  intro other member
  rcases Charges.mem_modify accounted.distinct checked.pooled member with
    rfl | ⟨old, _⟩
  · refine UInt64.le_iff_toNat_le.mpr ?_
    exact checked.toNat_add ▸ checked.used_add
  · exact within other old

theorem findResourceIndex_of_mem {resources : List SsuResourceInfo}
    {ssuId : CBuf 64} (listed : ssuId ∈ ssuIds resources) :
    ∃ index resource, findResourceIndex resources ssuId = some index ∧
      resources[index]? = some resource ∧ resource.ssuId = ssuId := by
  obtain ⟨index, found⟩ := Option.isSome_iff_exists.mp
    (findResourceIndex_isSome.mpr listed)
  obtain ⟨inside, same, _⟩ := List.findIdx?_eq_some_iff_getElem.mp found
  exact ⟨index, _, found, List.getElem?_eq_getElem inside, by simpa using same⟩

/-- The guarded subtraction takes effect: the row is part of the counter. -/
theorem AccountedAbove.subUsedBytes_pool
    (accounted : AccountedAbove base state)
    (member : row ∈ state.allocations.rows) :
    ∃ index resource, state.pool.items[index]? = some resource ∧
      resource.ssuId = row.info.ssuId ∧
      row.info.length ≤ resource.usedBytes ∧
      (subUsedBytes state row.info.ssuId row.info.length).pool.items =
        state.pool.items.modify index fun counter =>
          if counter.usedBytes ≥ row.info.length then
            { counter with usedBytes := counter.usedBytes - row.info.length }
          else counter := by
  obtain ⟨index, resource, found, pooled, same⟩ :=
    findResourceIndex_of_mem (accounted.balanced.covered row member)
  have charged := accounted.amount_le member (List.mem_of_getElem? pooled)
    same.symm
  refine ⟨index, resource, pooled, same, ?_, ?_⟩
  · exact UInt64.le_iff_toNat_le.mpr (by omega)
  · simp [subUsedBytes, found]

theorem AccountedAbove.dropExtent (accounted : AccountedAbove base state)
    (active : state.allocations.get slot = some row) :
    AccountedAbove base (dropExtent state slot row) := by
  obtain ⟨index, resource, pooled, same, enough, pool⟩ :=
    accounted.subUsedBytes_pool (SlotTable.mem_rows_of_get active)
  have refunded := (accounted.perm
    (SlotTable.rows_perm_clear active)).refund
    (fun counter : SsuResourceInfo =>
      if counter.usedBytes ≥ row.info.length then
        { counter with usedBytes := counter.usedBytes - row.info.length }
      else counter) pooled
    (fun counter => by split <;> rfl)
    (by
      have enoughNat := UInt64.le_iff_toNat_le.mp enough
      simp only [ge_iff_le, enough, if_true]
      rw [UInt64.toNat_sub_of_le _ _ enough]
      omega)
    same.symm
  rw [← pool] at refunded
  simpa [Controller.dropExtent] using refunded

theorem WithinCapacity.dropExtent (within : WithinCapacity state)
    (accounted : Accounted state)
    (active : state.allocations.get slot = some row) :
    WithinCapacity (dropExtent state slot row) := by
  obtain ⟨index, resource, pooled, _, enough, pool⟩ :=
    (accounted_iff.mp accounted).subUsedBytes_pool
      (SlotTable.mem_rows_of_get active)
  intro other member
  have member : other ∈ (subUsedBytes state row.info.ssuId
    row.info.length).pool.items := member
  rw [pool] at member
  rcases Charges.mem_modify accounted.distinct pooled member with
    rfl | ⟨old, _⟩
  · have before := UInt64.le_iff_toNat_le.mp
      (within resource (List.mem_of_getElem? pooled))
    simp only [ge_iff_le, enough, if_true]
    refine UInt64.le_iff_toNat_le.mpr ?_
    rw [UInt64.toNat_sub_of_le _ _ enough]
    omega
  · exact within other old

end Extents

section Events

variable {before after : ControllerState × PluginState}

theorem recordUnmount_pool (logicalDev allocateId : CString)
    (state : ControllerState) :
    (recordUnmount logicalDev allocateId state).pool = state.pool := by
  obtain ⟨_, _, same⟩ := recordUnmount_frame logicalDev allocateId state
  rw [same]

namespace AccountedAbove

variable {base : CBuf 64 → Nat} {state : ControllerState}

theorem setStates (accounted : AccountedAbove base state)
    (allocateId : CString) (newState : CBuf 16) :
    AccountedAbove base (setAllocationState state allocateId newState) := by
  have mapped := accounted.map_items
    (setRowState allocateId newState) (by simp) (by simp)
  rw [← setAllocationState_rows] at mapped
  exact mapped

theorem recordUnmount (accounted : AccountedAbove base state)
    (logicalDev allocateId : CString) :
    AccountedAbove base (recordUnmount logicalDev allocateId state) := by
  unfold Controller.recordUnmount
  simp only
  split
  · exact setStates accounted _ _
  · exact accounted

theorem event (accounted : AccountedAbove base before.1)
    (event : ControllerEvent plugin before after) :
    AccountedAbove base after.1 := by
  cases event with
  | numbered => exact accounted
  | remembered state _ allocateId =>
      unfold AccountedAbove
      rw [rememberReleasedId_pool, rememberReleasedId_allocations]
      exact accounted
  | extentCreated _ _ _ placed _ _ =>
      exact accounted.addExtent placed.toExtentChecked _
  | extentUndone _ _ active _ => exact accounted.dropExtent active
  | extentReleased _ _ _ active _ _ => exact accounted.dropExtent active
  | mounted _ _ _ _ _ => exact setStates accounted _ _
  | unmounted _ _ _ _ _ => exact recordUnmount accounted _ _
  | extentRefused => exact accounted
  | extentKept => exact accounted
  | connected => exact accounted
  | mountRefused => exact accounted
  | unmountRefused => exact accounted
  | unmountedStale => exact accounted

end AccountedAbove

theorem accounted_event (event : ControllerEvent plugin before after)
    (accounted : Accounted before.1) : Accounted after.1 :=
  accounted_iff.mpr ((accounted_iff.mp accounted).event event)

theorem withinCapacity_event (event : ControllerEvent plugin before after)
    (holds : Accounted before.1 ∧ WithinCapacity before.1) :
    Accounted after.1 ∧ WithinCapacity after.1 := by
  refine ⟨accounted_event event holds.1, ?_⟩
  obtain ⟨accounted, within⟩ := holds
  cases event with
  | numbered => exact within
  | remembered state _ allocateId =>
      simpa [WithinCapacity] using within
  | extentCreated _ _ _ placed _ _ =>
      exact within.addExtent accounted placed.toExtentChecked _
  | extentUndone _ _ active _ => exact within.dropExtent accounted active
  | extentReleased _ _ _ active _ _ =>
      exact within.dropExtent accounted active
  | mounted _ _ _ _ _ => exact within
  | unmounted _ _ _ _ _ =>
      unfold WithinCapacity
      rw [recordUnmount_pool]
      exact within
  | extentRefused => exact within
  | extentKept => exact within
  | connected => exact within
  | mountRefused => exact within
  | unmountRefused => exact within
  | unmountedStale => exact within

end Events

section Runs

/-- What the run carries along; the mount state gives the event chains. -/
structure Conserved (current : ControllerState × PluginState) : Prop where
  mounts : MountState current.1
  accounted : Accounted current.1

theorem conserved_step (plugin : SsuPluginOps PluginState)
    (current : ControllerState × PluginState) (op : ControllerOp)
    (holds : Conserved current) (honest : HonestDiscovery plugin current op) :
    Conserved (step plugin current op) := by
  refine ⟨mountState_step plugin current op holds.mounts, ?_⟩
  by_cases refresh : op = .refreshPool
  · subst refresh
    rcases refreshPool_outcome plugin current.1 current.2 with same |
      ⟨discovered, reported, pool, rebuilt, result⟩
    · exact same ▸ holds.accounted
    · obtain ⟨unique, fresh⟩ := honest discovered reported
      exact result ▸ holds.accounted.rebuild rebuilt unique fresh
  · exact Transition.chain_invariant
      (fun current : ControllerState × PluginState =>
        Accounted current.1)
      (fun _ _ => accounted_event)
      (step_chain plugin current refresh holds.mounts.named) holds.accounted

theorem withinCapacity_step (plugin : SsuPluginOps PluginState)
    (current : ControllerState × PluginState) (op : ControllerOp)
    (holds : Conserved current ∧ WithinCapacity current.1)
    (allowed : HonestDiscovery plugin current op ∧
      KeepsTotals plugin current op) :
    Conserved (step plugin current op) ∧
      WithinCapacity (step plugin current op).1 := by
  refine ⟨conserved_step plugin current op holds.1 allowed.1, ?_⟩
  by_cases refresh : op = .refreshPool
  · subst refresh
    rcases refreshPool_outcome plugin current.1 current.2 with same |
      ⟨discovered, reported, pool, rebuilt, result⟩
    · exact same ▸ holds.2
    · exact result ▸ holds.2.rebuild rebuilt
        (allowed.1 discovered reported).2 (allowed.2 discovered reported)
  · exact (Transition.chain_invariant
      (fun current : ControllerState × PluginState =>
        Accounted current.1 ∧ WithinCapacity current.1)
      (fun _ _ => withinCapacity_event)
      (step_chain plugin current refresh holds.1.mounts.named)
      ⟨holds.1.accounted, holds.2⟩).2

theorem conserved_initial (world : PluginState) :
    Conserved (.initial, world) where
  mounts := mountState_initial
  accounted :=
    { distinct := List.nodup_nil
      covered := by simp [ControllerState.initial]
      exact := nofun }

/-- The counters equal the sums also between the rounds of an extent loop. -/
theorem ExtentRun.accounted
    {createNs : SsuExtentCreateReq → PluginState → CreateNsAnswer × PluginState}
    {ctx : AllocContext} {poolIndexes : List Nat} {index : Nat}
    {offset : UInt64} {first last : ControllerState × PluginState}
    {entries : List (Nat × ControllerAllocation)}
    (run : ExtentRun createNs ctx poolIndexes index offset first entries last)
    (accounted : Accounted first.1) : Accounted last.1 := by
  induction run with
  | done => exact accounted
  | place checked _ _ _ induction =>
      exact induction (accounted_iff.mpr
        ((accounted_iff.mp accounted).addExtent checked _))

/-- The two 64-bit sums of the extent loop, at any point of it: the counter
of the next SSU and the running logical offset. -/
structure SumsExact (ctx : AllocContext) (req : SsuAllocReq)
    (entries : List (Nat × ControllerAllocation))
    (state : ControllerState) : Prop where
  used : ∀ slot poolIndex index resource,
    ExtentChecked ctx state slot poolIndex index resource →
      (resource.usedBytes +
          extentLength ctx.baseLength ctx.remainder index).toNat =
        resource.usedBytes.toNat +
          (extentLength ctx.baseLength ctx.remainder index).toNat
  offset : ∀ entry ∈ entries,
    entry.2.info.logicalOffset.toNat + entry.2.info.length.toNat ≤
      req.sizeBytes.toNat

theorem AllocPlan.sumsExact {req : SsuAllocReq} {state : ControllerState}
    {ctx : AllocContext} {number : UInt64} {selected placed rest : List Nat}
    (plan : AllocPlan req state ctx number selected)
    (parts : selected = placed ++ rest)
    {createNs : SsuExtentCreateReq → PluginState → CreateNsAnswer × PluginState}
    {world : PluginState} {entries : List (Nat × ControllerAllocation)}
    {last : ControllerState × PluginState}
    (run : ExtentRun createNs ctx placed 0 0 (numbered state number, world)
      entries last) : SumsExact ctx req entries last.1 where
  used _ _ _ _ checked := checked.toNat_add
  offset entry member := by
    have reach := plan.placed_le parts
    have laid := run.consecutive (by simp) (by
      rw [Nat.zero_add]
      exact Nat.lt_of_le_of_lt reach req.sizeBytes.toNat_lt)
    have within := laid.span_le (List.mem_map_of_mem member)
    rw [Nat.zero_add] at within
    exact within.trans reach

/-- Through any run with any plugin answers the counter of every SSU is the
sum of the active rows on it, between the rounds of an allocation as well, no
64-bit addition of the loop wraps, and a pool whose sizes never shrink is
never overcommitted. -/
theorem capacity_conserved (plugin : SsuPluginOps PluginState)
    (world : PluginState) (ops : List ControllerOp)
    (honest : Transition.Admissible (step plugin) (HonestDiscovery plugin)
      (.initial, world) ops) :
    let current := Transition.run (step plugin) (.initial, world) ops
    (∀ resource ∈ current.1.pool.items,
      resource.usedBytes.toNat = allocatedBytes current.1 resource.ssuId) ∧
    (∀ req ctx number selected placed rest createNs entries last,
      AllocPlan req current.1 ctx number selected →
        selected = placed ++ rest →
          ExtentRun createNs ctx placed 0 0
            (numbered current.1 number, current.2) entries last →
            SumsExact ctx req entries last.1 ∧
              ∀ resource ∈ last.1.pool.items,
                resource.usedBytes.toNat =
                  allocatedBytes last.1 resource.ssuId) ∧
    (Transition.Admissible (step plugin) (KeepsTotals plugin)
        (.initial, world) ops →
      ∀ resource ∈ current.1.pool.items,
        resource.usedBytes ≤ resource.totalBytes) := by
  intro current
  have conserved : Conserved current :=
    Transition.run_invariant Conserved (conserved_step plugin)
      (conserved_initial world) honest
  refine ⟨conserved.accounted.exact, ?_, fun grows => ?_⟩
  · intro req ctx number selected placed rest createNs entries last plan parts
      run
    exact ⟨plan.sumsExact parts run,
      (ExtentRun.accounted run conserved.accounted).exact⟩
  · exact (Transition.run_invariant
      (fun current : ControllerState × PluginState =>
        Conserved current ∧ WithinCapacity current.1)
      (withinCapacity_step plugin)
      ⟨conserved_initial world, nofun⟩ (honest.and grows)).2

/-- A plugin that always reports the same SSUs and accepts every call. -/
def acceptingPlugin (resources : List SsuResourceInfo) : SsuPluginOps Unit :=
  { discover := some fun world => ((.ok, resources), world)
    connect := some fun ssuId world => ((.ok, ssuId), world)
    healthCheck := some fun _ world => ((.ok, onlineState), world)
    createNs := some fun extentReq world =>
      ({ err := .ok, nsId := copyCstr 32 "ns".toList
         physSector := extentReq.physOffsetHint }, world)
    deleteNs := some fun _ _ world => (.ok, world)
    mount := some fun _ _ _ world => (.ok, world)
    unmount := some fun _ world => (.ok, world) }

def oneSsu : SsuResourceInfo :=
  { ssuId := copyCstr 64 "ssu0".toList
    totalBytes := 8192
    usedBytes := 0
    state := onlineState
    hostId := copyCstr 64 "host0".toList }

def oneSsuRun : List ControllerOp :=
  [.refreshPool, .alloc (plainRequest 4096 []) ⟨true, 8⟩]

theorem capacity_conserved_oneSsu :
    let current := Transition.run (step (acceptingPlugin [oneSsu]))
      (.initial, ()) oneSsuRun
    (∀ resource ∈ current.1.pool.items,
      resource.usedBytes.toNat = allocatedBytes current.1 resource.ssuId) ∧
    ∀ resource ∈ current.1.pool.items,
      resource.usedBytes ≤ resource.totalBytes := by
  have grows : Transition.Admissible (step (acceptingPlugin [oneSsu]))
      (KeepsTotals (acceptingPlugin [oneSsu])) (.initial, ()) oneSsuRun := by
    decide +kernel
  have conserved := capacity_conserved (acceptingPlugin [oneSsu]) ()
    oneSsuRun (by decide +kernel)
  exact ⟨conserved.1, conserved.2.2 grows⟩

end Runs

end UbseSsu.Controller

import UbseSsu.Controller.ReleasedIds

/-!
# Allocate ids are given out once

The rows and the remembered ids show only some of the ids that were given out:
the table of remembered ids stops at 128.  What keeps an id from coming back is
the counter, which is above the number of every id returned so far.
-/

namespace UbseSsu.Controller

variable {PluginState : Type} {plugin : SsuPluginOps PluginState}

section Search

/-- The endless loop of `next_auto_allocate_id`: the rounds from a state on. -/
inductive IdSearch : ControllerState → CBuf 64 × ControllerState → Prop where
  | found {state : ControllerState}
      (free : (!allocationIdIsActive state
          (autoAllocateId state.nextAllocationId).chars &&
        !releasedIdExists state
          (autoAllocateId state.nextAllocationId).chars) = true) :
      IdSearch state (autoAllocateId state.nextAllocationId, state)
  | next {state : ControllerState} {result : CBuf 64 × ControllerState}
      (taken : ¬(!allocationIdIsActive state
          (autoAllocateId state.nextAllocationId).chars &&
        !releasedIdExists state
          (autoAllocateId state.nextAllocationId).chars) = true)
      (rest : IdSearch (advanced state) result) : IdSearch state result

theorem nextAutoAllocateIdLoop_idSearch (fuel : Nat) (state : ControllerState)
    (ended : IdSearch (nextAutoAllocateIdLoop fuel state).2
      (nextAutoAllocateIdLoop fuel state)) :
    IdSearch state (nextAutoAllocateIdLoop fuel state) := by
  induction fuel generalizing state with
  | zero => exact ended
  | succ fuel induction =>
      by_cases free : (!allocationIdIsActive state
          (autoAllocateId state.nextAllocationId).chars &&
        !releasedIdExists state
          (autoAllocateId state.nextAllocationId).chars) = true
      · simp only [nextAutoAllocateIdLoop, if_pos free]
        exact .found free
      · simp only [nextAutoAllocateIdLoop, if_neg free] at ended ⊢
        exact .next free (induction (advanced state) ended)

/-- The endless loop ends in every state, with what the bounded one yields. -/
theorem nextAutoAllocateId_idSearch (state : ControllerState) :
    IdSearch state (nextAutoAllocateId state) := by
  obtain ⟨number, searched, unblocked⟩ := nextAutoAllocateId_spec state
  apply nextAutoAllocateIdLoop_idSearch
  have result : nextAutoAllocateIdLoop (maxAllocations + maxReleased + 1)
      state = _ := searched
  rw [result]
  exact .found ((not_blocked_iff _ number).mpr unblocked)

end Search

section Counter

theorem createExtents_next
    (createNs : SsuExtentCreateReq → PluginState → CreateNsAnswer × PluginState)
    (ctx : AllocContext) (poolIndexes : List Nat) (index : Nat)
    (offset : UInt64) (created : List Nat) (extents : List SsuAllocExtent)
    (state : ControllerState) (world : PluginState) :
    (createExtents createNs ctx poolIndexes index offset created extents state
      world).state.nextAllocationId = state.nextAllocationId := by
  induction poolIndexes generalizing index offset created extents state world
  with
  | nil => rfl
  | cons poolIndex poolIndexes induction =>
      simp only [createExtents]
      split
      · rfl
      · rfl
      · split
        · rfl
        · split
          · rfl
          · split
            · rfl
            · exact induction ..

theorem rollbackExtents_next (plugin : SsuPluginOps PluginState)
    (created : List Nat) (state : ControllerState) (world : PluginState) :
    (rollbackExtents plugin created state world).1.nextAllocationId =
      state.nextAllocationId := by
  induction created generalizing state world with
  | nil => rfl
  | cons slot created induction =>
      simp only [rollbackExtents]
      split
      · exact induction state world
      · rw [induction, dropExtent_nextAllocationId]

/-- What an allocation call does to the counter. -/
inductive CounterEffect (req : SsuAllocReq) (state : ControllerState) :
    AllocAnswer × ControllerState → Prop where
  | failed {answer : AllocAnswer} {after : ControllerState}
      (failed : answer.err ≠ .ok)
      (same : after.nextAllocationId = state.nextAllocationId) :
      CounterEffect req state (answer, after)
  | reused {answer : AllocAnswer} {row : ControllerAllocation}
      (named : diskNameIsActive state req.diskName = true)
      (active : row ∈ state.allocations.rows)
      (returns : Returns row.info.allocateId.chars answer) :
      CounterEffect req state (answer, state)
  | created {answer : AllocAnswer} {after : ControllerState}
      (returns : Returns (autoAllocateId state.nextAllocationId).chars answer)
      (next : after.nextAllocationId = state.nextAllocationId + 1) :
      CounterEffect req state (answer, after)

theorem allocNew_counterEffect
    (createNs : SsuExtentCreateReq → PluginState → CreateNsAnswer × PluginState)
    (req : SsuAllocReq) (hostKey : CBuf hostKeySize) (buffer : ExtentBuffer)
    {state : ControllerState} (world : PluginState)
    (free : ¬idIsBlocked state (autoAllocateId state.nextAllocationId)) :
    CounterEffect req state
      ((allocNew createNs plugin req hostKey buffer state world).1,
        (allocNew createNs plugin req hostKey buffer state world).2.1) := by
  have scarce : SsuErr.noResource ≠ .ok := by decide
  have short : SsuErr.bufferTooSmall ≠ .ok := by decide
  unfold allocNew
  rw [nextAutoAllocateId_of_free state free]
  simp only
  split
  · exact .failed scarce rfl
  · split
    · exact .failed scarce rfl
    · split
      · exact .failed short rfl
      · split
        · exact .failed scarce rfl
        · split
          · rename_i selection
            rw [selectPoolIndexes_error selection]
            exact .failed scarce rfl
          · split
            · rename_i refused
              refine .failed refused ?_
              rw [rollbackExtents_next, createExtents_next]
            · refine .created ⟨rfl, rfl⟩ ?_
              rw [createExtents_next]

theorem copyExisting_counterEffect (req : SsuAllocReq) (buffer : ExtentBuffer)
    {state : ControllerState}
    (named : diskNameIsActive state req.diskName = true) :
    CounterEffect req state
      (copyExistingAllocation req req.diskName buffer state, state) := by
  have absent : SsuErr.notFound ≠ .ok := by decide
  have invalid : SsuErr.invalid ≠ .ok := by decide
  have other : SsuErr.nsExists ≠ .ok := by decide
  have short : SsuErr.bufferTooSmall ≠ .ok := by decide
  unfold copyExistingAllocation
  split
  · exact .failed absent rfl
  · rename_i first others found
    have active : first ∈ state.allocations.rows := by
      have listed : first ∈ findAllocationRowsByDiskName state
          req.diskName := by
        rw [found]
        exact List.mem_cons_self
      unfold findAllocationRowsByDiskName at listed
      split at listed
      · cases listed
      · exact (List.mem_filter.mp listed).1
    simp only
    split
    · exact .failed invalid rfl
    · split
      · exact .failed other rfl
      · split
        · exact .failed short rfl
        · exact .reused named active ⟨rfl, rfl⟩

/-- From a state whose next number is free. -/
theorem alloc_counterEffect (plugin : SsuPluginOps PluginState)
    (req : SsuAllocReq) (buffer : ExtentBuffer) {state : ControllerState}
    (world : PluginState)
    (free : ¬idIsBlocked state (autoAllocateId state.nextAllocationId)) :
    CounterEffect req state
      ((ssuControllerAlloc plugin req buffer state world).1,
        (ssuControllerAlloc plugin req buffer state world).2.1) := by
  have invalid : SsuErr.invalid ≠ .ok := by decide
  have unsupported : SsuErr.unsupported ≠ .ok := by decide
  unfold ssuControllerAlloc
  split
  · exact .failed invalid rfl
  · split
    · exact .failed unsupported rfl
    · split
      · exact .failed invalid rfl
      · split
        · exact .failed invalid rfl
        · split
          · exact allocNew_counterEffect _ req _ buffer world free
          · split
            · exact .failed invalid rfl
            · split
              · rename_i named
                exact copyExisting_counterEffect req buffer named
              · exact allocNew_counterEffect _ req _ buffer world free

/-- An allocation call keeps the numbers of the ids below the counter. -/
theorem CounterEffect.below {req : SsuAllocReq}
    {state after : ControllerState} {answer : AllocAnswer}
    (effect : CounterEffect req state (answer, after))
    (room : state.nextAllocationId.toNat + 1 < 2 ^ 64)
    (rows : ∀ row ∈ state.allocations.rows,
      ∃ number < state.nextAllocationId,
        row.info.allocateId.chars = (autoAllocateId number).chars) :
    state.nextAllocationId ≤ after.nextAllocationId ∧
      after.nextAllocationId.toNat ≤ state.nextAllocationId.toNat + 1 ∧
        ∀ allocateId, Returns allocateId answer →
          ∃ number < after.nextAllocationId,
            allocateId = (autoAllocateId number).chars := by
  have unique : ∀ {first second : CString}, Returns first answer →
      Returns second answer → first = second := by
    intro first second returns again
    exact Option.some.inj (returns.2.symm.trans again.2)
  cases effect with
  | failed failed same =>
      rw [same]
      refine ⟨UInt64.le_refl _, Nat.le_succ _, ?_⟩
      intro allocateId returns
      exact (failed returns.1).elim
  | reused named active returned =>
      refine ⟨UInt64.le_refl _, Nat.le_succ _, ?_⟩
      intro allocateId returns
      obtain ⟨number, less, same⟩ := rows _ active
      exact ⟨number, less, (unique returns returned).trans same⟩
  | created returned next =>
      have successor : after.nextAllocationId.toNat =
          state.nextAllocationId.toNat + 1 := by
        rw [next, UInt64.toNat_add]
        exact Nat.mod_eq_of_lt room
      refine ⟨UInt64.le_iff_toNat_le.mpr (by omega), successor.le, ?_⟩
      intro allocateId returns
      refine ⟨state.nextAllocationId, UInt64.lt_iff_toNat_lt.mpr (by omega), ?_⟩
      exact unique returns returned

theorem rememberReleasedId_next (state : ControllerState)
    (allocateId : CString) :
    (rememberReleasedId state allocateId).nextAllocationId =
      state.nextAllocationId := by
  unfold rememberReleasedId
  split
  · rfl
  · split <;> rfl

/-- Only allocations move the counter. -/
theorem step_next (plugin : SsuPluginOps PluginState)
    (current : ControllerState × PluginState) {op : ControllerOp}
    (notAlloc : ∀ req buffer, op ≠ .alloc req buffer) :
    (step plugin current op).1.nextAllocationId =
      current.1.nextAllocationId := by
  cases op with
  | refreshPool =>
      obtain ⟨pool, same⟩ := refreshPool_state plugin current.1 current.2
      have kept := congrArg ControllerState.nextAllocationId same
      exact kept
  | alloc req buffer => exact (notAlloc req buffer rfl).elim
  | release allocateId =>
      have outcome := ssuControllerRelease_outcome plugin allocateId current.1
        current.2
      simp only [step, exec]
      generalize ssuControllerRelease plugin allocateId current.1 current.2 =
        result at outcome
      cases outcome with
      | refused _ => rfl
      | stopped _ _ run _ _ _ _ => exact run.nextAllocationId
      | released _ _ run _ _ =>
          exact (rememberReleasedId_next ..).trans run.nextAllocationId
      | absent _ => rfl
  | mount req =>
      obtain ⟨_, _, same⟩ := mount_frame plugin req current.1 current.2
      have kept := congrArg ControllerState.nextAllocationId same
      exact kept
  | unmount logicalDev =>
      obtain ⟨_, _, same⟩ := unmount_frame plugin logicalDev current.1
        current.2
      have kept := congrArg ControllerState.nextAllocationId same
      exact kept

end Counter

section Runs

def isAlloc : ControllerOp → Bool
  | .alloc _ _ => true
  | _ => false

/-- The allocations of a run, whatever they answer. -/
def allocCount (ops : List ControllerOp) : Nat :=
  ops.countP isAlloc

variable {world : PluginState} {ops : List ControllerOp}
  {allocateId : CString}

theorem ReturnedIn.of_snoc {op : ControllerOp}
    (returned : ReturnedIn plugin world (ops ++ [op]) allocateId) :
    ReturnedIn plugin world ops allocateId ∨
      ∃ req buffer, op = .alloc req buffer ∧
        Returns allocateId (ssuControllerAlloc plugin req buffer
          (reached plugin world ops).1 (reached plugin world ops).2).1 := by
  obtain ⟨done, req, buffer, later, parts, answered⟩ := returned
  rcases List.eq_nil_or_concat later with rfl | ⟨early, last, rfl⟩
  · obtain ⟨rfl, same⟩ := List.append_inj' parts rfl
    exact .inr ⟨req, buffer, List.singleton_inj.mp same, answered⟩
  · rw [List.concat_eq_append, ← List.cons_append, ← List.append_assoc]
      at parts
    obtain ⟨rfl, _⟩ := List.append_inj' parts rfl
    exact .inl ⟨done, req, buffer, early, rfl, answered⟩

/-- The counter is above the number of every id returned so far, and has not
moved on more often than there were allocations. -/
structure IdsBelow (plugin : SsuPluginOps PluginState) (world : PluginState)
    (ops : List ControllerOp) : Prop where
  counted : (reached plugin world ops).1.nextAllocationId.toNat ≤
    allocCount ops
  below : ∀ allocateId, ReturnedIn plugin world ops allocateId →
    ∃ number < (reached plugin world ops).1.nextAllocationId,
      allocateId = (autoAllocateId number).chars

theorem autoAllocateId_chars_inj {left right : UInt64}
    (same : (autoAllocateId left).chars = (autoAllocateId right).chars) :
    left = right :=
  autoAllocateId_injective (BoundedString.chars_inj.mp same)

theorem IdsBelow.unreturned (below : IdsBelow plugin world ops) :
    ¬ReturnedIn plugin world ops (autoAllocateId
      (reached plugin world ops).1.nextAllocationId).chars := by
  intro returned
  obtain ⟨number, less, same⟩ := below.below _ returned
  rw [autoAllocateId_chars_inj same] at less
  exact UInt64.lt_irrefl number less

theorem IdsBelow.free (below : IdsBelow plugin world ops) :
    ¬idIsBlocked (reached plugin world ops).1
      (autoAllocateId (reached plugin world ops).1.nextAllocationId) := by
  have known := idsKnown plugin world ops
  rintro (active | remembered)
  · obtain ⟨row, member, same⟩ := List.mem_map.mp active
    exact below.unreturned (same ▸ known.rows row member)
  · exact below.unreturned (known.remembered _ remembered)

theorem IdsBelow.effect (below : IdsBelow plugin world ops)
    (req : SsuAllocReq) (buffer : ExtentBuffer) :
    CounterEffect req (reached plugin world ops).1
      ((ssuControllerAlloc plugin req buffer (reached plugin world ops).1
          (reached plugin world ops).2).1,
        (reached plugin world (ops ++ [.alloc req buffer])).1) := by
  rw [reached_snoc]
  exact alloc_counterEffect plugin req buffer _ below.free

theorem allocCount_snoc (ops : List ControllerOp) (op : ControllerOp) :
    allocCount (ops ++ [op]) =
      allocCount ops + if isAlloc op then 1 else 0 := by
  simp [allocCount, List.countP_append, List.countP_singleton]

theorem IdsBelow.snoc (below : IdsBelow plugin world ops) (op : ControllerOp)
    (few : allocCount (ops ++ [op]) < 2 ^ 64) :
    IdsBelow plugin world (ops ++ [op]) := by
  have counted := below.counted
  by_cases allocates : ∃ req buffer, op = .alloc req buffer
  · obtain ⟨req, buffer, rfl⟩ := allocates
    rw [allocCount_snoc, isAlloc, if_pos rfl] at few
    obtain ⟨grows, most, returned⟩ := (below.effect req buffer).below
      (by omega) (fun row member =>
        below.below _ ((idsKnown plugin world ops).rows row member))
    constructor
    · rw [allocCount_snoc, isAlloc, if_pos rfl]
      omega
    · intro allocateId returns
      rcases returns.of_snoc with old | ⟨_, _, same, new⟩
      · obtain ⟨number, less, same⟩ := below.below _ old
        exact ⟨number, UInt64.lt_of_lt_of_le less grows, same⟩
      · cases same
        exact returned allocateId new
  · have notAlloc : ∀ req buffer, op ≠ .alloc req buffer :=
      fun req buffer same => allocates ⟨req, buffer, same⟩
    have next : (reached plugin world (ops ++ [op])).1.nextAllocationId =
        (reached plugin world ops).1.nextAllocationId := by
      rw [reached_snoc]
      exact step_next plugin (reached plugin world ops) notAlloc
    constructor
    · rw [next, allocCount_snoc]
      exact counted.trans (Nat.le_add_right _ _)
    · rw [next]
      intro allocateId returns
      rcases returns.of_snoc with old | ⟨req, buffer, same, _⟩
      · exact below.below _ old
      · exact (notAlloc req buffer same).elim

theorem idsBelow_reached (plugin : SsuPluginOps PluginState) (world : PluginState)
    {ops : List ControllerOp} (few : allocCount ops < 2 ^ 64) :
    IdsBelow plugin world ops := by
  induction ops using List.reverseRecOn with
  | nil =>
      constructor
      · exact Nat.zero_le _
      · rintro allocateId ⟨done, req, buffer, later, parts, _⟩
        simp at parts
  | append_singleton ops op induction =>
      have count := allocCount_snoc ops op
      exact (induction (by omega)).snoc op few

/-- In a run of fewer than `2^64 - 1` allocations the search for an id ends in
every state, and a new allocation gets an id that no earlier call returned. -/
theorem ids_never_reused (plugin : SsuPluginOps PluginState)
    (world : PluginState) (ops : List ControllerOp)
    (few : allocCount ops < 2 ^ 64 - 1) :
    (∀ done later, ops = done ++ later →
      IdSearch (reached plugin world done).1
        (nextAutoAllocateId (reached plugin world done).1)) ∧
    ∀ done req buffer later, ops = done ++ .alloc req buffer :: later →
      FreshRequest req (reached plugin world done).1 →
        ∀ allocateId, Returns allocateId (ssuControllerAlloc plugin req buffer
            (reached plugin world done).1 (reached plugin world done).2).1 →
          ¬ReturnedIn plugin world done allocateId := by
  constructor
  · intro done later _
    exact nextAutoAllocateId_idSearch _
  · rintro done req buffer later rfl fresh allocateId returns
    have count : allocCount done < 2 ^ 64 := by
      simp only [allocCount, List.countP_append] at few ⊢
      omega
    have below := idsBelow_reached plugin world count
    have effect := below.effect req buffer
    have unreturned := below.unreturned
    generalize (ssuControllerAlloc plugin req buffer
      (reached plugin world done).1 (reached plugin world done).2).1 = answer
      at effect returns
    generalize (reached plugin world (done ++ [.alloc req buffer])).1 = after
      at effect
    cases effect with
    | failed failed _ => exact (failed returns.1).elim
    | reused named _ _ =>
        rcases fresh with unnamed | inactive
        · simp [diskNameIsActive, findAllocationRowsByDiskName, unnamed,
            isEmptyString] at named
        · rw [inactive] at named
          cases named
    | created returned _ =>
        have same : (autoAllocateId
            (reached plugin world done).1.nextAllocationId).chars =
              allocateId :=
          Option.some.inj (returned.2.symm.trans returns.2)
        exact same ▸ unreturned

/-- The second allocation after a release gets a new id. -/
theorem ids_never_reused_oneSsu :
    ¬ReturnedIn (acceptingPlugin [oneSsu]) ()
      [.refreshPool, .alloc (onOneDisk 512) ⟨true, 1⟩,
        .release (autoAllocateId 0).chars] (autoAllocateId 1).chars := by
  apply (ids_never_reused (acceptingPlugin [oneSsu]) ()
    [.refreshPool, .alloc (onOneDisk 512) ⟨true, 1⟩,
      .release (autoAllocateId 0).chars, .alloc (onOneDisk 512) ⟨true, 1⟩]
    (by decide)).2 _ (onOneDisk 512) ⟨true, 1⟩ [] rfl
  · exact .inl rfl
  · exact ⟨by decide +kernel, by decide +kernel⟩

end Runs

end UbseSsu.Controller

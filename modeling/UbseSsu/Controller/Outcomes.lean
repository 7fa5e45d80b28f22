import UbseSsu.Controller.Loops

/-!
# What each controller operation can do

One case analysis for each entry point: its outcomes, with every fact the
source has established on the way there.  From them follows that an operation
is a chain of atomic events, whatever the plugin answers.
-/

namespace UbseSsu.Controller

open Relation (ReflTransGen)

variable {PluginState : Type} {plugin : SsuPluginOps PluginState}

/-- Every logical device was mounted on an allocation that is still there. -/
def LogdevsNamed (state : ControllerState) : Prop :=
  ∀ logdev ∈ state.logdevs.rows, ∃ row ∈ state.allocations.rows,
    row.info.allocateId = logdev.allocateId

section Rollback

variable
  {createNs : SsuExtentCreateReq → PluginState → CreateNsAnswer × PluginState}
  {ctx : AllocContext}

/-- Both tables and the id bookkeeping are as before; only counters of the
pool may differ. -/
structure Restored (before after : ControllerState) : Prop where
  allocations : after.allocations = before.allocations
  logdevs : after.logdevs = before.logdevs
  releasedIds : after.releasedIds = before.releasedIds
  nextAllocationId : after.nextAllocationId = before.nextAllocationId

theorem Restored.refl (state : ControllerState) : Restored state state :=
  ⟨rfl, rfl, rfl, rfl⟩

/-- The rollback undoes the rounds one by one, the last one first. -/
theorem ExtentRun.rollback {poolIndexes : List Nat} {index : Nat}
    {offset : UInt64} {first last : ControllerState × PluginState}
    {entries : List (Nat × ControllerAllocation)}
    (run : ExtentRun createNs ctx poolIndexes index offset first entries last)
    (plugin : SsuPluginOps PluginState)
    (unmounted : ∀ logdev ∈ first.1.logdevs.rows,
      logdev.allocateId ≠ ctx.allocateId)
    (created : List Nat) (world : PluginState) :
    ∃ undone after,
      rollbackExtents plugin ((entries.map Prod.fst).reverse ++ created) last.1
          world = rollbackExtents plugin created undone after ∧
        ControllerChain plugin (last.1, world) (undone, after) ∧
        Restored first.1 undone := by
  induction run generalizing created with
  | done => exact ⟨_, world, rfl, .refl, .refl _⟩
  | @place state _ _ slot poolIndex index offset resource answer _ _ _ checked
      _ _ _ induction =>
      obtain ⟨bound, free⟩ := SlotTable.get_firstFree checked.free
      let row := ctx.row (ctx.extentReq resource index offset) answer
      obtain ⟨undone, after, rolled, chain, restored⟩ :=
        induction unmounted (slot :: created)
      have active : undone.allocations.get slot = some row := by
        rw [restored.allocations]
        exact SlotTable.get_put_self bound
      refine ⟨dropExtent undone slot row, rollbackDelete plugin row after,
        ?_, chain.tail (.extentUndone undone after active ?_), ?_⟩
      · rw [List.map_cons, List.reverse_cons, List.append_assoc,
          List.singleton_append, rolled, rollbackExtents, active]
      · rw [restored.logdevs]
        exact unmounted
      · refine ⟨?_, ?_, ?_, ?_⟩
        · rw [dropExtent_allocations, restored.allocations]
          exact SlotTable.clear_put_of_free bound free
        · simpa using restored.logdevs
        · simpa using restored.releasedIds
        · simpa using restored.nextAllocationId

end Rollback

section Alloc

/-- Placing an extent keeps the loop's bookkeeping, one extent further. -/
theorem AllocReady.addExtent {ctx : AllocContext} {state : ControllerState}
    {offset next : UInt64} (ready : AllocReady ctx state offset)
    {slot poolIndex : Nat} {extentReq : SsuExtentCreateReq}
    {answer : CreateNsAnswer}
    (free : state.allocations.firstFree = some slot)
    (starts : extentReq.logicalOffset = offset)
    (ends : offset.toNat + extentReq.length.toNat = next.toNat) :
    AllocReady ctx
      (addExtent state slot poolIndex (ctx.row extentReq answer)) next := by
  obtain ⟨bound, isFree⟩ := SlotTable.get_firstFree free
  have rows : ∀ row,
      row ∈ (state.allocations.put slot (ctx.row extentReq answer)).rows →
        row = ctx.row extentReq answer ∨ row ∈ state.allocations.rows :=
    fun row member => List.mem_cons.mp
      ((SlotTable.rows_put_perm bound isFree).mem_iff.mp member)
  refine { ready with unmounted := ?_, ownId := ?_, ownName := ?_ }
  · simpa using ready.unmounted
  · intro row member same
    rcases rows row member with rfl | old
    · refine ⟨writtenBy_row ctx _ _, ?_⟩
      simp only [AllocContext.row, starts]
      omega
    · obtain ⟨written, within⟩ := ready.ownId row old same
      exact ⟨written, by omega⟩
  · intro named row member same
    rcases rows row member with rfl | old
    · rfl
    · exact ready.ownName named row old same

def numbered (state : ControllerState) (number : UInt64) : ControllerState :=
  { state with nextAllocationId := number }

@[simp] theorem onlinePoolIndexes_numbered (state : ControllerState)
    (number : UInt64) :
    onlinePoolIndexes (numbered state number) = onlinePoolIndexes state :=
  rfl

/-- The selection reads the pool only. -/
theorem selectPoolIndexes_numbered (state : ControllerState)
    (number : UInt64) (onlineIndexes : List Nat)
    (baseLength remainder : UInt64) (extents selected : List Nat) :
    selectPoolIndexes (numbered state number) onlineIndexes baseLength
        remainder extents selected =
      selectPoolIndexes state onlineIndexes baseLength remainder extents
        selected := by
  induction extents generalizing selected with
  | nil => rfl
  | cons extent extents induction =>
      simp only [selectPoolIndexes, induction]
      rfl

/-- What a new allocation has settled before its extent loop. -/
structure AllocPlan (req : SsuAllocReq) (state : ControllerState)
    (ctx : AllocContext) (number : UInt64) (selected : List Nat) : Prop where
  request : ctx.req = req
  hostKey : buildHostKey req.hostIds = some ctx.hostKey
  allocateId : ctx.allocateId = autoAllocateId number
  unblocked : ¬idIsBlocked state ctx.allocateId
  searched : nextAutoAllocateId state =
    (ctx.allocateId, numbered state number)
  stripe : req.reliability = .stripe
  sized : req.sizeBytes ≠ 0
  name : req.diskName = [] ∨
    allocationNameIsValid req.diskName = true ∧
      diskNameIsActive state req.diskName = false
  planned : selected.length =
    plannedExtentCount req (onlinePoolIndexes state).length
  positive : 0 < selected.length
  atMostSize : selected.length ≤ req.sizeBytes.toNat
  atMostPool : selected.length ≤ maxResources
  baseLength : ctx.baseLength =
    req.sizeBytes / UInt64.ofNat selected.length
  remainder : ctx.remainder =
    req.sizeBytes % UInt64.ofNat selected.length
  chosen : Selected state (onlinePoolIndexes state) ctx.baseLength
    ctx.remainder (List.range selected.length) selected
  selection : selectPoolIndexes state (onlinePoolIndexes state)
    ctx.baseLength ctx.remainder (List.range selected.length) [] =
      .ok selected

/-- The counter after a success. -/
def advanced (state : ControllerState) : ControllerState :=
  { state with nextAllocationId := state.nextAllocationId + 1 }

inductive AllocOutcome (plugin : SsuPluginOps PluginState)
    (req : SsuAllocReq) (state : ControllerState) (world : PluginState) :
    AllocAnswer × ControllerState × PluginState → Prop where
  | refused {answer : AllocAnswer} (number : UInt64)
      (failed : answer.err ≠ .ok)
      (searched : (nextAutoAllocateId (numbered state number)).1 =
        (nextAutoAllocateId state).1) :
      AllocOutcome plugin req state world
        (answer, numbered state number, world)
  | reused {buffer : ExtentBuffer}
      (named : diskNameIsActive state req.diskName = true) :
      AllocOutcome plugin req state world
        (copyExistingAllocation req req.diskName buffer state, state, world)
  | undone {createNs} (provided : plugin.createNs = some createNs)
      {answer : AllocAnswer} {ctx : AllocContext} {number : UInt64}
      {selected placed rest : List Nat}
      {entries : List (Nat × ControllerAllocation)}
      {last : ControllerState × PluginState} {after : PluginState}
      (plan : AllocPlan req state ctx number selected)
      (parts : selected = placed ++ rest)
      (run : ExtentRun createNs ctx placed 0 0 (numbered state number, world)
        entries last)
      (stopped : after = last.2 ∨
        ∃ extentReq, (createNs extentReq last.2).1.err ≠ .ok ∧
          after = (createNs extentReq last.2).2)
      (failed : answer.err ≠ .ok) :
      AllocOutcome plugin req state world
        (answer, rollbackExtents plugin (entries.map Prod.fst).reverse last.1
          after)
  | created {createNs} (provided : plugin.createNs = some createNs)
      {answer : AllocAnswer} {ctx : AllocContext} {number : UInt64}
      {selected : List Nat}
      {entries : List (Nat × ControllerAllocation)}
      {last : ControllerState × PluginState}
      (plan : AllocPlan req state ctx number selected)
      (run : ExtentRun createNs ctx selected 0 0
        (numbered state number, world) entries last)
      (answered : answer.err = .ok)
      (out : answer.out = some
        { allocateId := ctx.allocateId
          logicalSizeBytes := req.sizeBytes
          extentCount := UInt32.ofNat selected.length }) :
      AllocOutcome plugin req state world (answer, advanced last.1, last.2)

theorem plannedExtentCount_pos {req : SsuAllocReq} {onlineCount : Nat}
    (sized : req.sizeBytes ≠ 0) (online : onlineCount ≠ 0) :
    0 < plannedExtentCount req onlineCount := by
  have positive : 0 < req.sizeBytes.toNat :=
    Nat.pos_of_ne_zero fun zero => sized (UInt64.toNat_inj.mp zero)
  unfold plannedExtentCount
  simp only
  split <;> split
  · exact positive
  · rename_i disks _
    exact UInt32.lt_iff_toNat_lt.mp disks
  · exact positive
  · exact Nat.pos_of_ne_zero online

theorem plannedExtentCount_le_size (req : SsuAllocReq) (onlineCount : Nat) :
    plannedExtentCount req onlineCount ≤ req.sizeBytes.toNat := by
  unfold plannedExtentCount
  simp only
  split <;> split <;> omega

theorem plannedExtentCount_le_online {req : SsuAllocReq} {onlineCount : Nat}
    (enough : req.physicalDiskCount.toNat ≤ onlineCount) :
    plannedExtentCount req onlineCount ≤ onlineCount := by
  unfold plannedExtentCount
  simp only
  split <;> split <;> omega

theorem length_onlinePoolIndexes_le (state : ControllerState) :
    (onlinePoolIndexes state).length ≤ maxResources := by
  have kept := List.length_filter_le
    (fun index => (state.pool.items[index]?).any resourceIsOnline)
    (List.range state.pool.items.length)
  rw [List.length_range] at kept
  exact kept.trans state.pool.fits

theorem allocNew_outcome
    {createNs : SsuExtentCreateReq → PluginState → CreateNsAnswer × PluginState}
    (provided : plugin.createNs = some createNs) {req : SsuAllocReq}
    (stripe : req.reliability = .stripe) (sized : req.sizeBytes ≠ 0)
    {hostKey : CBuf hostKeySize} (keyed : buildHostKey req.hostIds = some hostKey)
    (buffer : ExtentBuffer) {state : ControllerState}
    (name : req.diskName = [] ∨
      allocationNameIsValid req.diskName = true ∧
        diskNameIsActive state req.diskName = false)
    (world : PluginState) :
    AllocOutcome plugin req state world
      (allocNew createNs plugin req hostKey buffer state world) := by
  obtain ⟨number, search, unblocked⟩ := nextAutoAllocateId_spec state
  have search : nextAutoAllocateId state =
      (autoAllocateId number, numbered state number) := search
  have again := nextAutoAllocateId_again state
  rw [congrArg Prod.snd search] at again
  simp only [allocNew, search, onlinePoolIndexes_numbered,
    selectPoolIndexes_numbered]
  -- The failures before the extent loop only moved the number.
  have early : ∀ answer : AllocAnswer, answer.err ≠ .ok →
      AllocOutcome plugin req state world
        (answer, numbered state number, world) :=
    fun answer failed => .refused number failed again
  split
  · exact early _ nofun
  · rename_i online
    split
    · exact early _ nofun
    · rename_i enough
      have positive := plannedExtentCount_pos sized online
      have atMostOnline := plannedExtentCount_le_online (not_lt.mp enough)
      split
      · exact early _ nofun
      · split
        · exact early _ nofun
        · split
          · rename_i selection
            rw [selectPoolIndexes_error selection]
            exact early _ nofun
          · rename_i selected selection
            have chosen : Selected state (onlinePoolIndexes state) _ _
                ([] ++ List.range _) selected :=
              selectPoolIndexes_ok ⟨List.nodup_nil, nofun, .nil⟩ selection
            have count := chosen.room.length_eq
            rw [List.nil_append, List.length_range] at count
            let planned := plannedExtentCount req (onlinePoolIndexes state).length
            let ctx : AllocContext :=
              { req, allocateId := autoAllocateId number, hostKey
                baseLength := req.sizeBytes / UInt64.ofNat planned
                remainder := req.sizeBytes % UInt64.ofNat planned }
            have plan : AllocPlan req state ctx number selected :=
              { request := rfl
                hostKey := keyed
                allocateId := rfl
                searched := search
                unblocked, stripe, sized, name
                planned := count.symm
                positive := count ▸ positive
                atMostSize := count ▸ plannedExtentCount_le_size req _
                atMostPool := (count ▸ atMostOnline).trans
                  (length_onlinePoolIndexes_le state)
                baseLength := by rw [← count]
                remainder := by rw [← count]
                chosen := by rw [← count]; exact chosen
                selection := by rw [← count]; exact selection }
            obtain ⟨placed, entries, last, run, ended⟩ :=
              createExtents_run createNs ctx selected 0 0
                [] [] (numbered state number) world
            split
            · rename_i failed
              obtain ⟨rest, parts⟩ := ended.head
              rw [ended.created, ended.state, List.append_nil]
              exact .undone provided plan parts run (ended.stopped failed)
                failed
            · rename_i fine
              obtain ⟨all, sameWorld⟩ := ended.complete (not_not.mp fine)
              subst all
              rw [ended.state, sameWorld]
              exact .created provided plan run rfl (by rw [count])

theorem ssuControllerAlloc_outcome (plugin : SsuPluginOps PluginState)
    (req : SsuAllocReq) (buffer : ExtentBuffer) (state : ControllerState)
    (world : PluginState) :
    AllocOutcome plugin req state world
      (ssuControllerAlloc plugin req buffer state world) := by
  -- A refusal before the choice of the id changes nothing at all.
  have unchanged : ∀ err, err ≠ SsuErr.ok →
      AllocOutcome plugin req state world
        (.failed err buffer, state, world) :=
    fun err failed => .refused state.nextAllocationId failed rfl
  unfold ssuControllerAlloc
  split
  · exact unchanged _ (by decide)
  · rename_i createNs provided
    split
    · exact unchanged _ (by decide)
    · rename_i stripe
      split
      · exact unchanged _ (by decide)
      · rename_i sized
        split
        · exact unchanged _ (by decide)
        · rename_i hostKey keyed
          split
          · rename_i unnamed
            exact allocNew_outcome provided (not_not.mp stripe) sized keyed
              buffer (.inl ((isEmptyString_iff _).mp unnamed)) world
          · split
            · exact unchanged _ (by decide)
            · rename_i valid
              split
              · rename_i active
                exact .reused active
              · rename_i fresh
                exact allocNew_outcome provided (not_not.mp stripe) sized
                  keyed buffer (.inr ⟨by simpa using valid, by simpa using fresh⟩)
                  world

variable {req : SsuAllocReq} {state : ControllerState} {ctx : AllocContext}
  {number : UInt64} {selected : List Nat}

theorem AllocPlan.unused (plan : AllocPlan req state ctx number selected)
    {row : ControllerAllocation} (member : row ∈ state.allocations.rows) :
    row.info.allocateId ≠ ctx.allocateId :=
  fun same => plan.unblocked (.inl (List.mem_map.mpr ⟨row, member, same⟩))

theorem AllocPlan.unmounted (plan : AllocPlan req state ctx number selected)
    (named : LogdevsNamed state) :
    ∀ logdev ∈ state.logdevs.rows, logdev.allocateId ≠ ctx.allocateId := by
  intro logdev member same
  obtain ⟨row, rowMember, rowId⟩ := named logdev member
  exact plan.unused rowMember (rowId.trans same)

theorem diskNameIsActive_eq_false {state : ControllerState}
    {diskName : CString} (named : diskName ≠ [])
    (free : diskNameIsActive state diskName = false) :
    ∀ row ∈ state.allocations.rows, row.info.diskName.chars ≠ diskName := by
  simpa [diskNameIsActive, findAllocationRowsByDiskName, isEmptyString, named,
    rowHasDiskName] using free

/-- Nothing in the tables carries the new id or the new name. -/
theorem AllocPlan.ready (plan : AllocPlan req state ctx number selected)
    (named : LogdevsNamed state) :
    AllocReady ctx (numbered state number) 0 where
  idNumber := ⟨number, plan.allocateId⟩
  stripe := plan.request ▸ plan.stripe
  validName := by
    rw [plan.request]
    exact plan.name.imp id And.left
  unmounted := plan.unmounted named
  ownId row member same := (plan.unused member same).elim
  ownName := by
    rw [plan.request]
    intro nonempty row member same
    rcases plan.name with unnamed | ⟨_, free⟩
    · exact (nonempty unnamed).elim
    · exact (diskNameIsActive_eq_false nonempty free row member same).elim

theorem AllocPlan.total (plan : AllocPlan req state ctx number selected) :
    extentOffset ctx.baseLength ctx.remainder selected.length =
      req.sizeBytes.toNat := by
  rw [plan.baseLength, plan.remainder]
  have small : maxResources < 2 ^ 64 := by decide
  exact extentOffset_total _ plan.positive
    (Nat.lt_of_le_of_lt plan.atMostPool small)

/-- No disk gets an empty extent. -/
theorem AllocPlan.baseLength_pos
    (plan : AllocPlan req state ctx number selected) :
    0 < ctx.baseLength.toNat := by
  have small : maxResources < 2 ^ 64 := by decide
  have count : (UInt64.ofNat selected.length).toNat = selected.length :=
    UInt64.toNat_ofNat_of_lt' (Nat.lt_of_le_of_lt plan.atMostPool small)
  rw [plan.baseLength, UInt64.toNat_div, count]
  exact Nat.div_pos plan.atMostSize plan.positive

variable
  {createNs : SsuExtentCreateReq → PluginState → CreateNsAnswer × PluginState}

/-- The rounds of the extent loop are events, and the loop's own bookkeeping
holds when it ends. -/
theorem ExtentRun.chain (provided : plugin.createNs = some createNs)
    {poolIndexes : List Nat} {index : Nat} {offset : UInt64}
    {first last : ControllerState × PluginState}
    {entries : List (Nat × ControllerAllocation)}
    (run : ExtentRun createNs ctx poolIndexes index offset first entries last)
    (ready : AllocReady ctx first.1 offset)
    (starts : offset.toNat =
      extentOffset ctx.baseLength ctx.remainder index)
    (bounded : extentOffset ctx.baseLength ctx.remainder
      (index + poolIndexes.length) < 2 ^ 64)
    (positive : 0 < ctx.baseLength.toNat) :
    ControllerChain plugin first last := by
  induction run with
  | done => exact .refl
  | @place state world after slot poolIndex index offset resource answer
      poolIndexes _ _ checked answered accepted _ induction =>
      have reach : index + (poolIndexes.length + 1) =
          index + 1 + poolIndexes.length := by omega
      rw [List.length_cons, reach] at bounded
      have nextBounded := Nat.lt_of_le_of_lt
        (extentOffset_mono ctx.baseLength ctx.remainder
          (Nat.le_add_right (index + 1) _)) bounded
      obtain ⟨next, added⟩ := offset_add_length starts nextBounded
      have long := extentLength_ge ctx.baseLength ctx.remainder nextBounded
      have placed : ExtentPlaced ctx state slot poolIndex index offset
          resource :=
        { checked with
          ready
          nonempty := by omega
          progress := by omega }
      refine .head (.extentCreated state world provided placed answered
        accepted) (induction ?_ next bounded)
      exact ready.addExtent checked.free rfl (by rw [next]; exact added)

/-- A part of the rounds covers at most the requested size. -/
theorem AllocPlan.placed_le (plan : AllocPlan req state ctx number selected)
    {placed rest : List Nat} (parts : selected = placed ++ rest) :
    extentOffset ctx.baseLength ctx.remainder placed.length ≤
      req.sizeBytes.toNat := by
  rw [← plan.total, parts, List.length_append]
  exact extentOffset_mono _ _ (Nat.le_add_right _ _)

theorem AllocPlan.chain (plan : AllocPlan req state ctx number selected)
    (provided : plugin.createNs = some createNs) (named : LogdevsNamed state)
    {world : PluginState} {placed rest : List Nat}
    {entries : List (Nat × ControllerAllocation)}
    {last : ControllerState × PluginState}
    (parts : selected = placed ++ rest)
    (run : ExtentRun createNs ctx placed 0 0 (numbered state number, world)
      entries last) :
    ControllerChain plugin (state, world) last := by
  refine .head (.numbered state world number)
    (run.chain provided (plan.ready named) (by simp) ?_ plan.baseLength_pos)
  rw [Nat.zero_add]
  exact Nat.lt_of_le_of_lt (plan.placed_le parts) req.sizeBytes.toNat_lt

theorem AllocOutcome.undone_tables (plugin : SsuPluginOps PluginState)
    {createNs : SsuExtentCreateReq → PluginState → CreateNsAnswer × PluginState}
    (after : PluginState) {placed : List Nat} {world : PluginState}
    {entries : List (Nat × ControllerAllocation)}
    {last : ControllerState × PluginState}
    (plan : AllocPlan req state ctx number selected)
    (named : LogdevsNamed state)
    (run : ExtentRun createNs ctx placed 0 0 (numbered state number, world)
      entries last) :
    let undone := (rollbackExtents plugin (entries.map Prod.fst).reverse
      last.1 after).1
    undone.allocations = state.allocations ∧ undone.logdevs = state.logdevs := by
  obtain ⟨undone, final, rolled, _, restored⟩ := run.rollback
    plugin (plan.unmounted named) [] after
  rw [List.append_nil, rollbackExtents] at rolled
  simp only [rolled]
  exact ⟨restored.allocations, restored.logdevs⟩

theorem AllocOutcome.chain {world : PluginState}
    {result : AllocAnswer × ControllerState × PluginState}
    (outcome : AllocOutcome plugin req state world result)
    (named : LogdevsNamed state) :
    ControllerChain plugin (state, world) result.2 := by
  cases outcome with
  | refused number _ => exact .single (.numbered state world number)
  | reused _ => exact .refl
  | @undone createNs provided _ ctx number selected placed rest entries last
      after plan parts run stopped _ =>
      have placing := plan.chain provided named parts run
      have answered : ControllerChain plugin last (last.1, after) := by
        rcases stopped with rfl | ⟨extentReq, refused, rfl⟩
        · exact .refl
        · exact .single
            (.extentRefused last.1 last.2 provided extentReq refused)
      obtain ⟨undone, finalWorld, rolled, undoing, _⟩ := run.rollback
        plugin (plan.unmounted named) [] after
      rw [List.append_nil, rollbackExtents] at rolled
      rw [rolled]
      exact placing.trans (answered.trans undoing)
  | created provided plan run _ _ =>
      exact (plan.chain provided named (List.append_nil _).symm run).tail
        (.numbered _ _ _)

end Alloc

section Release

/-- Successful rounds of the deletion loop, with the deleted rows. -/
inductive ReleaseRun
    (deleteNs : CBuf 64 → CBuf 32 → PluginState → SsuErr × PluginState)
    (allocateId : CString) :
    ControllerState × PluginState → List ControllerAllocation →
      ControllerState × PluginState → Prop where
  | done (current : ControllerState × PluginState) :
      ReleaseRun deleteNs allocateId current [] current
  | delete {state : ControllerState} {world after : PluginState}
      {slot : Nat} {row : ControllerAllocation}
      {rows : List ControllerAllocation}
      {last : ControllerState × PluginState}
      (active : state.allocations.get slot = some row)
      (owned : rowHasId allocateId row = true)
      (isFirst : ∀ other < slot, ∀ content,
        state.allocations.get other = some content →
          rowHasId allocateId content = false)
      (deleted : deleteNs row.info.ssuId row.info.nsId world = (.ok, after))
      (rest : ReleaseRun deleteNs allocateId (dropExtent state slot row, after)
        rows last) :
      ReleaseRun deleteNs allocateId (state, world) (row :: rows) last

/-- How the deletion loop ended after deleting `rows`. -/
structure ReleaseEnded
    (deleteNs : CBuf 64 → CBuf 32 → PluginState → SsuErr × PluginState)
    (allocateId : CString) (found : Bool) (rows : List ControllerAllocation)
    (last : ControllerState × PluginState)
    (result : ReleaseResult PluginState) : Prop where
  state : result.state = last.1
  found : result.found = (found || !rows.isEmpty)
  complete : result.err = .ok → result.world = last.2 ∧
    ∀ row ∈ last.1.allocations.rows, rowHasId allocateId row = false
  stopped : result.err ≠ .ok → ∃ row ∈ last.1.allocations.rows,
    rowHasId allocateId row = true ∧
      deleteNs row.info.ssuId row.info.nsId last.2 =
        (result.err, result.world)

/-- No slot below `start` holds a row of the allocation. -/
def NoneBelow (allocateId : CString) (state : ControllerState)
    (start : Nat) : Prop :=
  ∀ other < start, ∀ content, state.allocations.get other = some content →
    rowHasId allocateId content = false

namespace NoneBelow

variable {allocateId : CString} {state : ControllerState} {start : Nat}

theorem zero : NoneBelow allocateId state 0 := by
  intro other below
  omega

theorem succ (none : NoneBelow allocateId state start)
    (here : ∀ content, state.allocations.get start = some content →
      rowHasId allocateId content = false) :
    NoneBelow allocateId state (start + 1) := by
  intro other below content active
  rcases Nat.lt_succ_iff_lt_or_eq.mp below with earlier | rfl
  · exact none other earlier content active
  · exact here content active

/-- The loop goes on after a deletion. -/
theorem dropExtent (none : NoneBelow allocateId state start)
    (row : ControllerAllocation) :
    NoneBelow allocateId (dropExtent state start row) (start + 1) := by
  intro other below content active
  rw [dropExtent_allocations] at active
  rcases Nat.lt_succ_iff_lt_or_eq.mp below with earlier | rfl
  · rw [SlotTable.get_clear_other (Nat.ne_of_gt earlier)] at active
    exact none other earlier content active
  · rw [SlotTable.get_clear_self] at active
    cases active

theorem all (none : NoneBelow allocateId state maxAllocations) :
    ∀ row ∈ state.allocations.rows, rowHasId allocateId row = false := by
  intro row member
  obtain ⟨slot, active⟩ := SlotTable.mem_rows_iff.mp member
  exact none slot (SlotTable.lt_size_of_get_eq_some active) row active

end NoneBelow

theorem releaseExtents_run
    (deleteNs : CBuf 64 → CBuf 32 → PluginState → SsuErr × PluginState)
    (allocateId : CString) (start count : Nat)
    (all : start + count = maxAllocations) (found : Bool)
    (state : ControllerState) (world : PluginState)
    (none : NoneBelow allocateId state start) :
    ∃ rows last,
      ReleaseRun deleteNs allocateId (state, world) rows last ∧
        ReleaseEnded deleteNs allocateId found rows last
          (releaseExtents deleteNs allocateId (List.range' start count) found
            state world) := by
  induction count generalizing start found state world with
  | zero =>
      subst all
      exact ⟨[], _, .done _, rfl, by simp [releaseExtents],
        fun _ => ⟨rfl, none.all⟩, fun failed => (failed rfl).elim⟩
  | succ count induction =>
      rw [List.range'_succ]
      cases active : state.allocations.get start with
      | none =>
          simp only [releaseExtents, active]
          exact induction (start + 1) (by omega) found state world
            (none.succ (by simp [active]))
      | some row =>
          simp only [releaseExtents, active]
          split
          · rename_i owned
            cases deleted : deleteNs row.info.ssuId row.info.nsId world with
            | mk err after =>
                by_cases fine : err = .ok
                · subst fine
                  obtain ⟨rows, last, run, ended⟩ := induction (start + 1)
                    (by omega) true (dropExtent state start row) after
                    (none.dropExtent row)
                  refine ⟨row :: rows, last,
                    .delete active owned none deleted run, ended.state,
                    ?_, ended.complete, ended.stopped⟩
                  simp [ended.found]
                · have member := SlotTable.mem_rows_of_get active
                  split
                  · rename_i same
                    exact (fine (Prod.mk.inj same).1).elim
                  · rename_i refused
                    obtain ⟨rfl, rfl⟩ := Prod.mk.inj refused
                    exact ⟨[], _, .done _, rfl, by simp,
                      fun ok => (fine ok).elim,
                      fun _ => ⟨row, member, owned, deleted⟩⟩
          · rename_i other
            exact induction (start + 1) (by omega) found state world
              (none.succ (by
                intro content same
                rw [active, Option.some.injEq] at same
                exact same ▸ Bool.eq_false_iff.mpr other))

namespace ReleaseRun

variable
  {deleteNs : CBuf 64 → CBuf 32 → PluginState → SsuErr × PluginState}
  {allocateId : CString} {first last : ControllerState × PluginState}
  {rows : List ControllerAllocation}

/-- A release changes the pool and the rows and nothing else. -/
theorem frame (run : ReleaseRun deleteNs allocateId first rows last) :
    ∃ pool allocations, last.1 =
      { first.1 with pool := pool, allocations := allocations } := by
  induction run with
  | done => exact ⟨_, _, rfl⟩
  | delete _ _ _ _ _ induction =>
      obtain ⟨pool, allocations, same⟩ := induction
      exact ⟨pool, allocations, by simpa using same⟩

theorem logdevs (run : ReleaseRun deleteNs allocateId first rows last) :
    last.1.logdevs = first.1.logdevs := by
  obtain ⟨_, _, same⟩ := run.frame
  rw [same]

theorem releasedIds (run : ReleaseRun deleteNs allocateId first rows last) :
    last.1.releasedIds = first.1.releasedIds := by
  obtain ⟨_, _, same⟩ := run.frame
  rw [same]

theorem nextAllocationId
    (run : ReleaseRun deleteNs allocateId first rows last) :
    last.1.nextAllocationId = first.1.nextAllocationId := by
  obtain ⟨_, _, same⟩ := run.frame
  rw [same]

theorem owned (run : ReleaseRun deleteNs allocateId first rows last) :
    ∀ row ∈ rows, rowHasId allocateId row = true := by
  induction run with
  | done => simp
  | delete _ owned _ _ _ induction =>
      exact List.forall_mem_cons.mpr ⟨owned, induction⟩

theorem rows_perm (run : ReleaseRun deleteNs allocateId first rows last) :
    first.1.allocations.rows.Perm (rows ++ last.1.allocations.rows) := by
  induction run with
  | done => exact .refl _
  | delete active _ _ _ _ induction =>
      rw [dropExtent_allocations] at induction
      exact (SlotTable.rows_perm_clear active).trans (induction.cons _)

/-- The rows go in the order in which the table lists them. -/
theorem filter_rows_own (run : ReleaseRun deleteNs allocateId first rows last) :
    first.1.allocations.rows.filter (rowHasId allocateId) =
      rows ++ last.1.allocations.rows.filter (rowHasId allocateId) := by
  induction run with
  | done => rfl
  | delete active owned isFirst _ _ induction =>
      rw [dropExtent_allocations] at induction
      rw [SlotTable.filter_rows_of_first active owned isFirst, induction]
      rfl

theorem filter_rows_other
    (run : ReleaseRun deleteNs allocateId first rows last) {other : CString}
    (different : allocateId ≠ other) :
    last.1.allocations.rows.filter (rowHasId other) =
      first.1.allocations.rows.filter (rowHasId other) := by
  induction run with
  | done => rfl
  | delete active owned _ _ _ induction =>
      rw [induction, dropExtent_allocations]
      refine SlotTable.filter_clear_of_not active ?_
      have named := of_decide_eq_true owned
      simp [rowHasId, named, different]

theorem chain (provided : plugin.deleteNs = some deleteNs)
    (run : ReleaseRun deleteNs allocateId first rows last)
    (unmounted : allocationHasLogdev first.1 allocateId = false) :
    ControllerChain plugin first last := by
  induction run with
  | done => exact .refl
  | delete active owned _ deleted _ induction =>
      refine .head (.extentReleased _ _ provided active ?_ deleted)
        (induction (by simpa [allocationHasLogdev] using unmounted))
      have named := of_decide_eq_true owned
      intro logdev member same
      have absent := List.any_eq_false.mp unmounted logdev member
      simp [logdevHasId, same, named] at absent

end ReleaseRun

inductive ReleaseOutcome (plugin : SsuPluginOps PluginState)
    (allocateId : CString) (state : ControllerState) (world : PluginState) :
    SsuErr × ControllerState × PluginState → Prop where
  | refused {err : SsuErr} (failed : err ≠ .ok) :
      ReleaseOutcome plugin allocateId state world (err, state, world)
  | stopped {deleteNs} (provided : plugin.deleteNs = some deleteNs)
      (unmounted : allocationHasLogdev state allocateId = false)
      {rows : List ControllerAllocation}
      {last : ControllerState × PluginState}
      (run : ReleaseRun deleteNs allocateId (state, world) rows last)
      {row : ControllerAllocation} (kept : row ∈ last.1.allocations.rows)
      (owned : rowHasId allocateId row = true)
      {err : SsuErr} {after : PluginState}
      (stopped : deleteNs row.info.ssuId row.info.nsId last.2 = (err, after))
      (failed : err ≠ .ok) :
      ReleaseOutcome plugin allocateId state world (err, last.1, after)
  | released {deleteNs} (provided : plugin.deleteNs = some deleteNs)
      (unmounted : allocationHasLogdev state allocateId = false)
      {rows : List ControllerAllocation}
      {last : ControllerState × PluginState}
      (run : ReleaseRun deleteNs allocateId (state, world) rows last)
      (found : rows ≠ [])
      (gone : ∀ row ∈ last.1.allocations.rows,
        rowHasId allocateId row = false) :
      ReleaseOutcome plugin allocateId state world
        (.ok, rememberReleasedId last.1 allocateId, last.2)
  | absent (gone : ∀ row ∈ state.allocations.rows,
        rowHasId allocateId row = false) :
      ReleaseOutcome plugin allocateId state world
        (if releasedIdExists state allocateId then .ok else .notFound, state,
          world)

theorem ssuControllerRelease_outcome (plugin : SsuPluginOps PluginState)
    (allocateId : CString) (state : ControllerState) (world : PluginState) :
    ReleaseOutcome plugin allocateId state world
      (ssuControllerRelease plugin allocateId state world) := by
  unfold ssuControllerRelease
  split
  · exact .refused (by decide)
  · rename_i deleteNs provided
    split
    · exact .refused (by decide)
    · split
      · exact .refused (by decide)
      · rename_i unmounted
        have unmounted := Bool.eq_false_iff.mpr unmounted
        obtain ⟨rows, last, run, ended⟩ := releaseExtents_run
          deleteNs allocateId 0 maxAllocations
          (by rfl) false state world .zero
        rw [← List.range_eq_range'] at ended
        simp only
        split
        · rename_i failed
          obtain ⟨row, kept, owned, stopped⟩ := ended.stopped failed
          rw [ended.state]
          exact .stopped provided unmounted run kept owned stopped failed
        · rename_i fine
          obtain ⟨sameWorld, gone⟩ := ended.complete (not_not.mp fine)
          rw [ended.state, ended.found, sameWorld, Bool.false_or]
          cases run with
          | done =>
              have nothing : ReleaseOutcome plugin allocateId state world
                  (if releasedIdExists state allocateId then .ok else .notFound,
                    state, world) := .absent gone
              simp only [List.isEmpty_nil, Bool.not_true, Bool.false_eq_true,
                if_false]
              split
              · rename_i known
                simpa [known] using nothing
              · rename_i unknown
                simpa [unknown] using nothing
          | delete active owned isFirst deleted rest =>
              simp only [List.isEmpty_cons, Bool.not_false, if_true]
              exact .released provided unmounted
                (.delete active owned isFirst deleted rest) (by simp) gone

theorem ReleaseOutcome.chain {allocateId : CString} {state : ControllerState}
    {world : PluginState} {result : SsuErr × ControllerState × PluginState}
    (outcome : ReleaseOutcome plugin allocateId state world result) :
    ControllerChain plugin (state, world) result.2 := by
  cases outcome with
  | refused _ => exact .refl
  | @stopped deleteNs provided unmounted rows last run row kept _ err after
      stopped failed =>
      have refused : ControllerEvent plugin (last.1, last.2) _ :=
        .extentKept last.1 last.2 provided kept (by rw [stopped]; exact failed)
      rw [stopped] at refused
      exact (run.chain provided unmounted).tail refused
  | released provided unmounted run _ _ =>
      exact (run.chain provided unmounted).tail (.remembered _ _ _)
  | absent _ => exact .refl

end Release

end UbseSsu.Controller

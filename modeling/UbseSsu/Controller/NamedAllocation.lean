import UbseSsu.Controller.HostKey
import UbseSsu.Controller.WholeMounts

/-!
# Asking again for a named allocation

A request for an active name is compared with what the rows have kept of the
first request, and answered from them.  The rows keep the whole request unless
the number of disks was clipped to the size or the tenant cut to its field,
and they answer the same extents until a release has deleted one of them or
the pool shows another host for one of the SSUs.
-/

namespace UbseSsu.Controller

variable {PluginState : Type} {plugin : SsuPluginOps PluginState}

section Answer

/-- The extent of a row, with the host of its SSU. -/
def rowExtent (row : ControllerAllocation) (hostId : CBuf 64) :
    SsuAllocExtent :=
  { ssuId := row.info.ssuId
    hostId := hostId
    nsId := row.info.nsId
    logicalOffset := row.info.logicalOffset
    length := row.info.length }

/-- The host that the pool shows for an SSU. -/
def pooledHost (state : ControllerState) (ssuId : CBuf 64) : CBuf 64 :=
  match (findResourceIndex state.pool.items ssuId).bind
      (state.pool.items[·]?) with
  | none => .empty
  | some resource => resource.hostId

theorem existingExtent_eq (state : ControllerState)
    (row : ControllerAllocation) :
    existingExtent state row =
      rowExtent row (pooledHost state row.info.ssuId) := rfl

/-- The extents shown to the caller are those of the rows. -/
abbrev ShownAs (rows : List ControllerAllocation)
    (extents : List SsuAllocExtent) : Prop :=
  List.Forall₂ (fun row extent => extent = rowExtent row extent.hostId) rows
    extents

/-- The loop reports one extent for each row it writes. -/
theorem ExtentRun.outExtents
    {createNs : SsuExtentCreateReq → PluginState → CreateNsAnswer × PluginState}
    {ctx : AllocContext} {poolIndexes : List Nat} {index : Nat}
    {offset : UInt64} {first last : ControllerState × PluginState}
    {entries : List (Nat × ControllerAllocation)}
    (run : ExtentRun createNs ctx poolIndexes index offset first entries last)
    (created : List Nat) (extents : List SsuAllocExtent) :
    ∃ shown, (createExtents createNs ctx poolIndexes index offset created
        extents first.1 first.2).outExtents = extents.reverse ++ shown ∧
      ShownAs (entries.map Prod.snd) shown := by
  induction run generalizing created extents with
  | done => exact ⟨[], by simp [createExtents], .nil⟩
  | @place _ _ _ slot _ index offset resource answer _ _ _ checked answered
      accepted _ induction =>
      let extentReq := ctx.extentReq resource index offset
      obtain ⟨shown, reported, shows⟩ := induction (slot :: created)
        (AllocContext.extent resource extentReq answer :: extents)
      refine ⟨AllocContext.extent resource extentReq answer :: shown, ?_, ?_⟩
      · have counted := UInt64.not_lt.mpr checked.counted
        have fits := UInt64.not_lt.mpr checked.fits
        simp only [createExtents, checked.free, checked.pooled, counted, fits,
          or_self, if_false, checked.aligned, ne_eq, not_true_eq_false,
          answered, accepted]
        rw [reported]
        simp [extentReq]
      · exact .cons rfl shows

variable {req : SsuAllocReq} {state : ControllerState} {ctx : AllocContext}
  {number : UInt64} {selected : List Nat}

theorem AllocPlan.outExtents (plan : AllocPlan req state ctx number selected)
    {createNs : SsuExtentCreateReq → PluginState → CreateNsAnswer × PluginState}
    {buffer : ExtentBuffer} {world : PluginState}
    (accepted : (allocNew createNs plugin req ctx.hostKey buffer state
      world).1.err = .ok) :
    (allocNew createNs plugin req ctx.hostKey buffer state
        world).1.outExtents =
      some (createExtents createNs ctx selected 0 0 [] []
        (numbered state number) world).outExtents := by
  have context : ctx =
      { req, allocateId := ctx.allocateId, hostKey := ctx.hostKey
        baseLength := ctx.baseLength
        remainder := ctx.remainder } := by
    rw [← plan.request]
  revert accepted
  simp only [allocNew, plan.searched, onlinePoolIndexes_numbered,
    selectPoolIndexes_numbered, ← plan.planned, ← plan.baseLength,
    ← plan.remainder, plan.selection, ← context]
  split
  · intro accepted
    cases accepted
  · split
    · intro accepted
      cases accepted
    · split
      · intro accepted
        cases accepted
      · split
        · intro accepted
          cases accepted
        · split
          · rename_i failed
            exact fun accepted => (failed accepted).elim
          · exact fun _ => rfl

/-- A new allocation reports the extents of its rows. -/
theorem AllocPlan.shown (plan : AllocPlan req state ctx number selected)
    {createNs : SsuExtentCreateReq → PluginState → CreateNsAnswer × PluginState}
    (provided : plugin.createNs = some createNs) (buffer : ExtentBuffer)
    {world : PluginState} {entries : List (Nat × ControllerAllocation)}
    {last : ControllerState × PluginState}
    (run : ExtentRun createNs ctx selected 0 0 (numbered state number, world)
      entries last)
    (accepted : (ssuControllerAlloc plugin req buffer state world).1.err =
      .ok) :
    ∃ extents, (ssuControllerAlloc plugin req buffer state world).1.outExtents =
        some extents ∧ ShownAs (entries.map Prod.snd) extents := by
  have viaNew : ssuControllerAlloc plugin req buffer state world =
      allocNew createNs plugin req ctx.hostKey buffer state world := by
    rcases plan.name with unnamed | ⟨valid, fresh⟩
    · simp [ssuControllerAlloc, provided, plan.stripe, plan.sized,
        plan.hostKey, unnamed, isEmptyString]
    · simp [ssuControllerAlloc, provided, plan.stripe, plan.sized,
        plan.hostKey, valid, fresh]
  rw [viaNew] at accepted ⊢
  obtain ⟨reported, listed, shows⟩ := run.outExtents [] []
  have listed : _ = [] ++ reported := listed
  rw [List.nil_append] at listed
  exact ⟨reported, by rw [plan.outExtents accepted, listed], shows⟩

end Answer

/-- A call that made a new named allocation, with its answer. -/
structure NamedAfresh (plugin : SsuPluginOps PluginState)
    (current : ControllerState × PluginState) (first : SsuAllocReq)
    (buffer : ExtentBuffer) (out : SsuAllocResult)
    (extents : List SsuAllocExtent)
    (after : ControllerState × PluginState) : Prop where
  named : first.diskName ≠ []
  disks : 1 ≤ first.physicalDiskCount
  fresh : diskNameIsActive current.1 first.diskName = false
  answered : ∃ count,
    ssuControllerAlloc plugin first buffer current.1 current.2 =
      ({ err := .ok, out := some out, outExtents := some extents,
         extentCount := count }, after)

theorem NamedAfresh.of_answer {current : ControllerState × PluginState}
    {first : SsuAllocReq} {buffer : ExtentBuffer} {out : SsuAllocResult}
    {extents : List SsuAllocExtent} (count : UInt32)
    (named : first.diskName ≠ []) (disks : 1 ≤ first.physicalDiskCount)
    (fresh : diskNameIsActive current.1 first.diskName = false)
    (answered :
      (ssuControllerAlloc plugin first buffer current.1 current.2).1 =
        { err := .ok, out := some out, outExtents := some extents
          extentCount := count }) :
    NamedAfresh plugin current first buffer out extents
      (ssuControllerAlloc plugin first buffer current.1 current.2).2 :=
  ⟨named, disks, fresh, count, Prod.ext answered rfl⟩

/-- The states after a run of `ops`, with the history of these calls. -/
def recordedFrom (plugin : SsuPluginOps PluginState)
    (start : ControllerState × PluginState) (ops : List ControllerOp) :
    Recorded PluginState :=
  Transition.run (recordStep plugin) ⟨[], start.1, start.2⟩ ops

/-- What two requests for one name have in common. -/
structure Agrees (first again : SsuAllocReq) : Prop where
  sizeBytes : again.sizeBytes = first.sizeBytes
  physicalDiskCount : again.physicalDiskCount = first.physicalDiskCount
  shareType : again.shareType = first.shareType
  tenant : again.tenant = first.tenant
  hostIds : again.hostIds.Perm first.hostIds

/-- A later request for the name, with room for the answer. -/
structure AsksAgain (first again : SsuAllocReq)
    (extents : List SsuAllocExtent) (buffer : ExtentBuffer) : Prop where
  diskName : again.diskName = first.diskName
  disks : 1 ≤ again.physicalDiskCount
  stripe : again.reliability = .stripe
  hosts : (buildHostKey again.hostIds).isSome = true
  present : buffer.present = true
  room : extents.length ≤ buffer.count.toNat

/-- The answer names the first request's allocation and its extents. -/
structure AnswersSame (out : SsuAllocResult) (extents : List SsuAllocExtent)
    (answer : AllocAnswer) : Prop where
  err : answer.err = .ok
  allocateId : answer.out.map SsuAllocResult.allocateId = some out.allocateId
  extents : answer.outExtents = some extents

/-- A request that agrees with the first one gets its answer, any other one a
conflict, and neither changes anything. -/
structure Idempotent (first again : SsuAllocReq) (out : SsuAllocResult)
    (extents : List SsuAllocExtent) (current : ControllerState × PluginState)
    (result : AllocAnswer × ControllerState × PluginState) : Prop where
  same : AnswersSame out extents result.1 ↔ Agrees first again
  conflict : ¬Agrees first again → result.1.err = .nsExists
  unchanged : result.2 = current

/-- The rows hold all of the first request and of its answer. -/
structure KeptWhole (first : SsuAllocReq) (out : SsuAllocResult)
    (extents : List SsuAllocExtent) (later : Recorded PluginState) : Prop where
  disks : first.physicalDiskCount.toNat ≤ first.sizeBytes.toNat
  tenant : first.tenant.length ≤ 63
  rows : ∀ entry ∈ later.history,
    deletesFrom out.allocateId.chars entry = false
  hosts : ∀ extent ∈ extents,
    pooledHost later.state extent.ssuId = extent.hostId

section Rows

/-- The rows of a new allocation. -/
structure WrittenRows (first : SsuAllocReq) (ctx : AllocContext)
    (extents : List SsuAllocExtent) (rows : List ControllerAllocation) :
    Prop where
  request : ctx.req = first
  stripe : first.reliability = .stripe
  sized : first.sizeBytes ≠ 0
  name : allocationNameIsValid first.diskName = true
  hostKey : buildHostKey first.hostIds = some ctx.hostKey
  written : ∀ row ∈ rows, WrittenBy ctx row
  shown : ShownAs rows extents
  laid : Tiling.Consecutive 0 first.sizeBytes.toNat (rows.map rowSpan)
  nonempty : ∀ row ∈ rows, 0 < (rowSpan row).2
  count : rows.length =
    min first.physicalDiskCount.toNat first.sizeBytes.toNat
  atMostPool : rows.length ≤ maxResources

theorem plannedExtentCount_eq_min {req : SsuAllocReq}
    (disks : 1 ≤ req.physicalDiskCount) (onlineCount : Nat) :
    plannedExtentCount req onlineCount =
      min req.physicalDiskCount.toNat req.sizeBytes.toNat := by
  have some : req.physicalDiskCount > 0 := by
    rw [gt_iff_lt, UInt32.lt_iff_toNat_lt]
    exact UInt32.le_iff_toNat_le.mp disks
  simp only [plannedExtentCount, some, if_true]
  split <;> omega

theorem NamedAfresh.rows {current after : ControllerState × PluginState}
    {first : SsuAllocReq} {buffer : ExtentBuffer} {out : SsuAllocResult}
    {extents : List SsuAllocExtent}
    (created : NamedAfresh plugin current first buffer out extents after) :
    plugin.createNs.isSome = true ∧
      ∃ ctx, ctx.allocateId = out.allocateId ∧
        WrittenRows first ctx extents
          (ownRows after.1 out.allocateId.chars) := by
  obtain ⟨count, answered⟩ := created.answered
  have outcome := ssuControllerAlloc_outcome plugin first buffer current.1
    current.2
  generalize called : ssuControllerAlloc plugin first buffer current.1
    current.2 = result at outcome answered
  cases outcome with
  | refused _ failed => exact (failed (congrArg (·.1.err) answered)).elim
  | reused active =>
      rw [created.fresh] at active
      cases active
  | undone _ _ _ _ _ failed =>
      exact (failed (congrArg (·.1.err) answered)).elim
  | @created createNs provided answer ctx number selected entries last plan run
      ok reported =>
      obtain ⟨rfl, rfl⟩ := Prod.mk.inj answered
      have sameId : ctx.allocateId = out.allocateId := by
        cases reported
        rfl
      have valid : allocationNameIsValid first.diskName = true := by
        rcases plan.name with unnamed | ⟨valid, _⟩
        · exact (created.named unnamed).elim
        · exact valid
      have rows : ownRows (advanced last.1) out.allocateId.chars =
          entries.map Prod.snd := by
        rw [← sameId]
        exact plan.ownRows run
      obtain ⟨reported, listed, shows⟩ :=
        plan.shown provided buffer run (congrArg (·.1.err) called)
      rw [called] at listed
      cases listed
      obtain ⟨laid, nonempty⟩ := plan.laid run
      have length : entries.length = selected.length := run.length_entries
      refine ⟨by rw [provided]; rfl, ctx, sameId, ?_⟩
      rw [rows]
      refine ⟨plan.request, plan.stripe, plan.sized, valid, plan.hostKey, ?_,
        shows, ?_, ?_, ?_, ?_⟩
      · intro row member
        obtain ⟨entry, entryMember, rfl⟩ := List.mem_map.mp member
        exact run.written entry entryMember
      · rw [List.map_map]
        exact laid
      · intro row member
        obtain ⟨entry, entryMember, rfl⟩ := List.mem_map.mp member
        exact nonempty entry entryMember
      · rw [List.length_map, length, plan.planned,
          plannedExtentCount_eq_min created.disks]
      · rw [List.length_map, length]
        exact plan.atMostPool

/-- The active rows of an allocation are a tail of its rows as written. -/
structure Remains (allocateId : CBuf 64) (written : List ControllerAllocation)
    (state : ControllerState) (lost : List ControllerAllocation) : Prop where
  mounts : MountState state
  active : ownRows state allocateId.chars ≠ []
  rows : written = lost ++ ownRows state allocateId.chars

/-- As long as no call of the history releases the allocation, some of its
rows remain, and all of them if none was deleted. -/
def RowsRemain (allocateId : CBuf 64) (written : List ControllerAllocation)
    (current : Recorded PluginState) : Prop :=
  MountState current.state ∧
    ((∀ entry ∈ current.history,
        releases allocateId.chars entry = false) →
      ∃ lost, Remains allocateId written current.state lost ∧
        ((∀ entry ∈ current.history,
          deletesFrom allocateId.chars entry = false) ↔ lost = []))

theorem RowsRemain.step {allocateId : CBuf 64}
    {written : List ControllerAllocation} (current : Recorded PluginState)
    (op : ControllerOp) (remain : RowsRemain allocateId written current) :
    RowsRemain allocateId written (recordStep plugin current op) := by
  have mounts := mountState_recordStep plugin current op remain.1
  refine ⟨mounts, fun held => ?_⟩
  rw [recordStep_history, List.forall_mem_cons] at held
  obtain ⟨lost, remains, whole⟩ := remain.2 held.2
  obtain ⟨gone, cut⟩ :=
    ownRows_recordStep plugin current op remain.1 remains.active
  refine ⟨lost ++ gone, ⟨mounts, cut.stays held.1 remains.active, ?_⟩, ?_⟩
  · rw [remains.rows, cut.rows, List.append_assoc]
  · have deletes := cut.deletes
    rw [recordStep_history, List.forall_mem_cons, whole, ← Bool.not_eq_true,
      deletes, ne_eq, not_not, List.append_eq_nil_iff]
    exact and_comm

theorem rows_remain (plugin : SsuPluginOps PluginState)
    (start : ControllerState × PluginState) (mounts : MountState start.1)
    {allocateId : CBuf 64} (active : ownRows start.1 allocateId.chars ≠ [])
    (ops : List ControllerOp) :
    RowsRemain allocateId (ownRows start.1 allocateId.chars)
      (recordedFrom plugin start ops) := by
  apply Transition.run_invariant_always _ (fun current op => .step current op)
  refine ⟨mounts, fun _ => ⟨[], ⟨mounts, active, rfl⟩, ?_⟩⟩
  simp

theorem toNat_totalSize (rows : List ControllerAllocation)
    (small : ((rows.map rowSpan).map Prod.snd).sum < 2 ^ 64) :
    (totalSize rows).toNat = ((rows.map rowSpan).map Prod.snd).sum := by
  have added : ∀ start : UInt64,
      start.toNat + ((rows.map rowSpan).map Prod.snd).sum < 2 ^ 64 →
        (rows.foldl (fun total row => total + row.info.length) start).toNat =
          start.toNat + ((rows.map rowSpan).map Prod.snd).sum := by
    clear small
    induction rows with
    | nil => intro start _; rfl
    | cons row rows induction =>
        intro start small
        simp only [List.map_cons, List.sum_cons, List.foldl_cons] at small ⊢
        have length : (rowSpan row).2 = row.info.length.toNat := rfl
        have next : (start + row.info.length).toNat =
            start.toNat + (rowSpan row).2 := by
          rw [UInt64.toNat_add, ← length]
          exact Nat.mod_eq_of_lt (by omega)
        rw [induction _ (by omega), next]
        omega
  simpa [totalSize] using added 0 (by simpa using small)

end Rows

section Again

variable {first again : SsuAllocReq} {ctx : AllocContext}
  {out : SsuAllocResult} {extents : List SsuAllocExtent}
  {written : List ControllerAllocation} {state : ControllerState}
  {room : ExtentBuffer}

def rowsOf (out : SsuAllocResult) (state : ControllerState) :
    List ControllerAllocation :=
  state.allocations.rows.filter (rowHasId out.allocateId.chars)

variable {lost : List ControllerAllocation}

theorem Remains.row_written (remains : Remains out.allocateId written state lost)
    (rows : WrittenRows first ctx extents written) {row : ControllerAllocation}
    (member : row ∈ rowsOf out state) : WrittenBy ctx (unmarked row) := by
  apply rows.written
  rw [remains.rows]
  exact List.mem_append_right _ (List.mem_map_of_mem member)

/-- The rows with the name of an allocation are its own. -/
theorem find_eq_own {diskName : CString} {allocateId : CBuf 64}
    (mounts : MountState state) (named : diskName ≠ [])
    {row : ControllerAllocation} (member : row ∈ state.allocations.rows)
    (rowId : row.info.allocateId = allocateId)
    (own : ∀ other ∈ state.allocations.rows,
      other.info.allocateId = allocateId →
        other.info.diskName.chars = diskName) :
    findAllocationRowsByDiskName state diskName =
      state.allocations.rows.filter (rowHasId allocateId.chars) := by
  have notEmpty : isEmptyString diskName = false := by
    simp [isEmptyString, named]
  have rowName := own row member rowId
  rw [findAllocationRowsByDiskName, notEmpty]
  simp only [Bool.false_eq_true, if_false]
  apply List.filter_congr
  intro other otherMember
  rw [Bool.eq_iff_iff, rowHasId_iff, rowHasDiskName, decide_eq_true_eq,
    ← rowId]
  constructor
  · intro sameName
    apply mounts.nameOfOne other otherMember row member
    · rw [sameName]
      exact named
    · apply BoundedString.ext
      rw [sameName, rowName]
  · intro sameId
    exact own other otherMember (sameId.trans rowId)

theorem Remains.find (remains : Remains out.allocateId written state lost)
    (rows : WrittenRows first ctx extents written) :
    findAllocationRowsByDiskName state first.diskName = rowsOf out state := by
  have name := rows.name
  have named : first.diskName ≠ [] := by
    intro empty
    rw [empty] at name
    simp [allocationNameIsValid, isEmptyString] at name
  have own : ∀ row ∈ rowsOf out state,
      row.info.diskName.chars = first.diskName := by
    intro row member
    have written := (remains.row_written rows member).diskName
    have kept : row.info.diskName = copyCstr 64 first.diskName := by
      rw [← rows.request]
      exact written
    rw [kept]
    exact copyCstr_validName (.inr name)
  obtain ⟨kept, keptMember⟩ := List.exists_mem_of_ne_nil _ remains.active
  obtain ⟨row, member, rfl⟩ := List.mem_map.mp keptMember
  have present := (List.mem_filter.mp member).1
  have rowId : row.info.allocateId = out.allocateId :=
    rowHasId_iff.mp (List.mem_filter.mp member).2
  apply find_eq_own remains.mounts named present rowId
  intro other otherMember sameId
  exact own other (List.mem_filter.mpr ⟨otherMember, rowHasId_iff.mpr sameId⟩)

/-- What the source compares: the request with the rows. -/
structure Matches (first again : SsuAllocReq)
    (rows : List ControllerAllocation) : Prop where
  size : totalSize rows = again.sizeBytes
  count : again.physicalDiskCount.toNat = rows.length
  shareType : again.shareType = first.shareType
  tenant : again.tenant = (copyCstr 64 first.tenant).chars
  hosts : again.hostIds.Perm first.hostIds

def existingAnswer (out : SsuAllocResult) (state : ControllerState) :
    AllocAnswer :=
  { err := .ok
    out := some
      { allocateId := out.allocateId
        logicalSizeBytes := totalSize (rowsOf out state)
        extentCount := UInt32.ofNat (rowsOf out state).length }
    outExtents := some ((rowsOf out state).map (existingExtent state))
    extentCount := UInt32.ofNat (rowsOf out state).length }

theorem Remains.answer (remains : Remains out.allocateId written state lost)
    (rows : WrittenRows first ctx extents written)
    (asks : AsksAgain first again extents room) :
    (Matches first again (rowsOf out state) ∧
        copyExistingAllocation again again.diskName room state =
          existingAnswer out state) ∨
      (¬Matches first again (rowsOf out state) ∧
        copyExistingAllocation again again.diskName room state =
          .failed .nsExists room) := by
  obtain ⟨key, keyed⟩ := Option.isSome_iff_exists.mp asks.hosts
  have found := remains.find rows
  have kept : ∀ row ∈ rowsOf out state, WrittenBy ctx (unmarked row) :=
    fun row member => remains.row_written rows member
  have own : ∀ row ∈ rowsOf out state,
      row.info.allocateId = out.allocateId :=
    fun row member => rowHasId_iff.mp (List.mem_filter.mp member).2
  have short : (rowsOf out state).length ≤ extents.length := by
    have same := congrArg List.length remains.rows
    rw [List.length_append, ownRows, List.length_map,
      rows.shown.length_eq] at same
    rw [same]
    exact Nat.le_add_left _ _
  have some : rowsOf out state ≠ [] := by
    intro none
    apply remains.active
    have none : state.allocations.rows.filter
        (rowHasId out.allocateId.chars) = [] := none
    rw [ownRows, none, List.map_nil]
  obtain ⟨row, others, listed⟩ := List.exists_cons_of_ne_nil some
  have rowKept := kept row (by simp [listed])
  have rowId := own row (by simp [listed])
  have policy : row.info.policy = again.reliability := by
    rw [asks.stripe, ← rows.stripe, ← rows.request]
    exact rowKept.policy
  have shareType : row.info.shareType = first.shareType := by
    rw [← rows.request]
    exact rowKept.shareType
  have tenant : row.info.tenant = copyCstr 64 first.tenant := by
    rw [← rows.request]
    exact rowKept.tenant
  have hostKey : row.hostKey = key ↔ again.hostIds.Perm first.hostIds := by
    have stored : row.hostKey = ctx.hostKey := rowKept.hostKey
    rw [stored, eq_comm]
    exact buildHostKey_eq_iff keyed rows.hostKey
  have disks : again.physicalDiskCount > 0 := by
    rw [gt_iff_lt, UInt32.lt_iff_toNat_lt]
    exact UInt32.le_iff_toNat_le.mp asks.disks
  have enough : ¬room.count.toNat < (rowsOf out state).length :=
    not_lt.mpr (short.trans asks.room)
  have conflict : (totalSize (row :: others) ≠ again.sizeBytes ∨
      (again.physicalDiskCount > 0 ∧
        again.physicalDiskCount.toNat ≠ (row :: others).length) ∨
      row.info.policy ≠ again.reliability ∨
      row.info.shareType ≠ again.shareType ∨
      row.info.tenant.chars ≠ again.tenant ∨ row.hostKey ≠ key) ↔
        ¬Matches first again (rowsOf out state) := by
    rw [← listed, shareType, tenant, ne_eq row.hostKey, hostKey]
    constructor
    · intro differs same
      have sameShare := same.shareType.symm
      have sameTenant := same.tenant.symm
      simp [same.size, same.count, policy, sameShare, sameTenant,
        same.hosts] at differs
    · intro differs
      by_contra equal
      simp only [not_or, not_and, not_not, ne_eq] at equal
      obtain ⟨size, count, _, sameShare, sameTenant, hosts⟩ := equal
      exact differs
        ⟨size, count disks, sameShare.symm, sameTenant.symm, hosts⟩
  rw [copyExistingAllocation, asks.diskName, found, listed]
  simp only [keyed]
  by_cases same : Matches first again (rowsOf out state)
  · have agreed := mt conflict.mp (not_not.mpr same)
    rw [if_neg agreed, asks.present, ← listed]
    simp only [Bool.not_true, Bool.false_or, enough, decide_false,
      Bool.false_eq_true, if_false]
    exact .inl ⟨same, by rw [existingAnswer, rowId]⟩
  · rw [if_pos (conflict.mpr same), ← listed]
    exact .inr ⟨same, rfl⟩

theorem ownRows_eq (out : SsuAllocResult) (state : ControllerState) :
    ownRows state out.allocateId.chars = (rowsOf out state).map unmarked := rfl

/-- The lengths of the rows that are left and of those that are gone. -/
theorem Remains.total (remains : Remains out.allocateId written state lost)
    (rows : WrittenRows first ctx extents written) :
    ((lost.map rowSpan).map Prod.snd).sum +
      (totalSize (rowsOf out state)).toNat = first.sizeBytes.toNat := by
  have laid := rows.laid.sum
  rw [Nat.zero_add, remains.rows, ownRows_eq] at laid
  have spans : ((rowsOf out state).map unmarked).map rowSpan =
      (rowsOf out state).map rowSpan := by
    rw [List.map_map]
    rfl
  rw [List.map_append, List.map_append, List.sum_append, spans] at laid
  have bounded := first.sizeBytes.toNat_lt
  rw [toNat_totalSize _ (by omega)]
  exact laid

theorem Remains.totalSize_iff
    (remains : Remains out.allocateId written state lost)
    (rows : WrittenRows first ctx extents written) :
    totalSize (rowsOf out state) = first.sizeBytes ↔ lost = [] := by
  have total := remains.total rows
  rw [← UInt64.toNat_inj]
  constructor
  · intro same
    cases lost with
    | nil => rfl
    | cons row others =>
        have positive : 0 < (rowSpan row).2 := by
          apply rows.nonempty
          rw [remains.rows]
          simp
        simp only [List.map_cons, List.sum_cons] at total
        omega
  · rintro rfl
    simpa using total

/-- Of the extents shown to the first caller, the rows answer the same ones
exactly as long as the pool shows the same hosts. -/
theorem ShownAs.existing {rows : List ControllerAllocation}
    (shown : ShownAs (rows.map unmarked) extents) :
    rows.map (existingExtent state) = extents ↔
      ∀ extent ∈ extents, pooledHost state extent.ssuId = extent.hostId := by
  induction rows generalizing extents with
  | nil =>
      cases shown
      simp
  | cons row rows induction =>
      cases shown with
      | @cons _ extent _ others same shown =>
          have ssuId : extent.ssuId = row.info.ssuId := by
            rw [same]
            rfl
          rw [List.map_cons, List.cons.injEq, induction shown,
            List.forall_mem_cons, existingExtent_eq, ssuId]
          apply and_congr_left'
          constructor
          · intro equal
            exact congrArg SsuAllocExtent.hostId equal
          · intro hosts
            rw [hosts, same]
            rfl

end Again

theorem Agrees.refl (first : SsuAllocReq) : Agrees first first :=
  ⟨rfl, rfl, rfl, rfl, .refl _⟩

section Main

variable {state : ControllerState} {world : PluginState}
  {first again : SsuAllocReq} {buffer room : ExtentBuffer}
  {out : SsuAllocResult} {extents : List SsuAllocExtent}

/-- A later request is compared with the rows. -/
theorem alloc_again (creates : plugin.createNs.isSome = true)
    {ctx : AllocContext} {written lost : List ControllerAllocation}
    (rows : WrittenRows first ctx extents written)
    (remains : Remains out.allocateId written state lost)
    (asks : AsksAgain first again extents room)
    (sized : again.sizeBytes ≠ 0) :
    ssuControllerAlloc plugin again room state world =
      (copyExistingAllocation again again.diskName room state, state,
        world) := by
  obtain ⟨createNs, provided⟩ := Option.isSome_iff_exists.mp creates
  obtain ⟨key, keyed⟩ := Option.isSome_iff_exists.mp asks.hosts
  have valid : allocationNameIsValid again.diskName = true := by
    rw [asks.diskName]
    exact rows.name
  have notEmpty : isEmptyString again.diskName = false := by
    simp only [allocationNameIsValid, Bool.and_eq_true, Bool.not_eq_true']
      at valid
    exact valid.1.1
  have active : diskNameIsActive state again.diskName = true := by
    have some := remains.active
    rw [ownRows_eq, ne_eq, List.map_eq_nil_iff] at some
    rw [diskNameIsActive, asks.diskName, remains.find rows]
    simpa using some
  simp [ssuControllerAlloc, provided, asks.stripe, sized, keyed, notEmpty,
    valid, active]

/-- A request without a size is refused before the name is looked at. -/
theorem alloc_again_empty (creates : plugin.createNs.isSome = true)
    (asks : AsksAgain first again extents room)
    (empty : again.sizeBytes = 0) :
    ssuControllerAlloc plugin again room state world =
      (.failed .invalid room, state, world) := by
  obtain ⟨createNs, provided⟩ := Option.isSome_iff_exists.mp creates
  simp [ssuControllerAlloc, provided, asks.stripe, empty]

variable {ctx : AllocContext} {written lost : List ControllerAllocation}

theorem AnswersSame.of_existing
    (same : (rowsOf out state).map (existingExtent state) = extents) :
    AnswersSame out extents (existingAnswer out state) :=
  ⟨rfl, rfl, congrArg some same⟩

/-- With whole rows the comparison is that of the two requests. -/
theorem matches_iff (rows : WrittenRows first ctx extents written)
    (remains : Remains out.allocateId written state lost)
    (disks : first.physicalDiskCount.toNat ≤ first.sizeBytes.toNat)
    (tenant : first.tenant.length ≤ 63) (whole : lost = []) :
    Matches first again (rowsOf out state) ↔ Agrees first again := by
  have size := (remains.totalSize_iff rows).mpr whole
  have length : (rowsOf out state).length =
      first.physicalDiskCount.toNat := by
    have all := congrArg List.length remains.rows
    rw [whole, List.nil_append, ownRows_eq, List.length_map, rows.count] at all
    omega
  have stored : (copyCstr 64 first.tenant).chars = first.tenant :=
    copyCstr_chars_of_fits tenant
  constructor
  · intro same
    refine ⟨same.size.symm.trans size, ?_, same.shareType,
      same.tenant.trans stored, same.hosts⟩
    apply UInt32.toNat_inj.mp
    rw [same.count, length]
  · intro agrees
    refine ⟨size.trans agrees.sizeBytes.symm, ?_, agrees.shareType,
      agrees.tenant.trans stored.symm, agrees.hostIds⟩
    rw [agrees.physicalDiskCount, length]

theorem idempotent_of_keptWhole (creates : plugin.createNs.isSome = true)
    (rows : WrittenRows first ctx extents written)
    {later : Recorded PluginState}
    (remains : Remains out.allocateId written later.state lost)
    (history : (∀ entry ∈ later.history,
      deletesFrom out.allocateId.chars entry = false) ↔ lost = [])
    (kept : KeptWhole first out extents later)
    (asks : AsksAgain first again extents room)
    (sized : again.sizeBytes ≠ 0) :
    Idempotent first again out extents (later.state, later.world)
      (ssuControllerAlloc plugin again room later.state later.world) := by
  have whole := history.mp kept.rows
  have agreed : Matches first again (rowsOf out later.state) ↔
      Agrees first again :=
    matches_iff rows remains kept.disks kept.tenant whole
  have shown := rows.shown
  rw [remains.rows, whole, List.nil_append, ownRows_eq] at shown
  have extents := shown.existing.mpr kept.hosts
  rw [alloc_again creates rows remains asks sized]
  rcases remains.answer rows asks with ⟨same, answered⟩ | ⟨differ, answered⟩
  · have agrees := agreed.mp same
    refine ⟨iff_of_true ?_ agrees, fun other => (other agrees).elim, rfl⟩
    simp only [answered]
    exact .of_existing extents
  · have disagrees := mt agreed.mpr differ
    refine ⟨iff_of_false ?_ disagrees, fun _ => ?_, rfl⟩
    · intro same
      have failed := same.err
      simp only [answered] at failed
      cases failed
    · simp only [answered]
      rfl

theorem keptWhole_of_idempotent (creates : plugin.createNs.isSome = true)
    (rows : WrittenRows first ctx extents written)
    {later : Recorded PluginState}
    (remains : Remains out.allocateId written later.state lost)
    (history : (∀ entry ∈ later.history,
      deletesFrom out.allocateId.chars entry = false) ↔ lost = [])
    (asks : AsksAgain first first extents room)
    (idempotent : Idempotent first first out extents
      (later.state, later.world)
      (ssuControllerAlloc plugin first room later.state later.world)) :
    KeptWhole first out extents later := by
  have same := idempotent.same.mpr (.refl first)
  rw [alloc_again creates rows remains asks rows.sized] at same
  rcases remains.answer rows asks with
    ⟨matched, answered⟩ | ⟨_, answered⟩
  · rw [answered] at same
    have whole := (remains.totalSize_iff rows).mp matched.size
    have shown := rows.shown
    rw [remains.rows, whole, List.nil_append, ownRows_eq] at shown
    refine ⟨?_, ?_, history.mpr whole, ?_⟩
    · have count := rows.count
      rw [remains.rows, whole, List.nil_append, ownRows_eq, List.length_map,
        ← matched.count] at count
      omega
    · rw [matched.tenant]
      exact (copyCstr 64 first.tenant).fits
    · exact shown.existing.mp (Option.some.inj same.extents)
  · rw [answered] at same
    cases same.err

/-- A later request for the name of an allocation that has not been released:
it is answered as the first request was exactly if it agrees with it, and
refused otherwise, if and only if the rows hold all of the first request and
of its answer.  A request without a size is refused as invalid. -/
theorem named_alloc_idempotent_iff (plugin : SsuPluginOps PluginState)
    (initial : PluginState) (earlier between : List ControllerOp)
    {after : ControllerState × PluginState}
    (created : NamedAfresh plugin
      (Transition.run (step plugin) (.initial, initial) earlier) first buffer
      out extents after)
    (held : ∀ entry ∈ (recordedFrom plugin after between).history,
      releases out.allocateId.chars entry = false) :
    let later := recordedFrom plugin after between
    (later.state, later.world) = Transition.run (step plugin) after between ∧
      ((∀ again room, AsksAgain first again extents room →
          again.sizeBytes ≠ 0 →
            Idempotent first again out extents (later.state, later.world)
              (ssuControllerAlloc plugin again room later.state
                later.world)) ↔
        KeptWhole first out extents later) ∧
      ∀ again room, AsksAgain first again extents room →
        again.sizeBytes = 0 →
          ssuControllerAlloc plugin again room later.state later.world =
            (.failed .invalid room, later.state, later.world) := by
  intro later
  obtain ⟨creates, ctx, sameId, rows⟩ := created.rows
  have mountsBefore := mountState_run plugin initial earlier
  have mounts : MountState after.1 := by
    obtain ⟨count, answered⟩ := created.answered
    have stepped := mountState_step plugin _ (.alloc first buffer) mountsBefore
    simp only [step, exec, answered] at stepped
    exact stepped
  have active : ownRows after.1 out.allocateId.chars ≠ [] := by
    have positive : 0 < first.sizeBytes.toNat :=
      Nat.pos_of_ne_zero fun zero => rows.sized (UInt64.toNat_inj.mp zero)
    have disks : 1 ≤ first.physicalDiskCount.toNat :=
      UInt32.le_iff_toNat_le.mp created.disks
    rw [← List.length_pos_iff, rows.count]
    omega
  obtain ⟨lost, remains, history⟩ :=
    (rows_remain plugin after mounts active between).2 held
  refine ⟨run_recordStep_plain plugin ⟨[], after.1, after.2⟩ between,
    ⟨fun idempotent => ?_, fun kept again room asks sized => ?_⟩,
    fun again room asks empty => alloc_again_empty creates asks empty⟩
  · have small : extents.length ≤ maxResources := by
      rw [← rows.shown.length_eq]
      exact rows.atMostPool
    have asks : AsksAgain first first extents ⟨true, 128⟩ :=
      { diskName := rfl
        disks := created.disks
        stripe := rows.stripe
        hosts := Option.isSome_iff_exists.mpr ⟨_, rows.hostKey⟩
        present := rfl
        room := small }
    exact keptWhole_of_idempotent creates rows remains history asks
      (idempotent first ⟨true, 128⟩ asks rows.sized)
  · exact idempotent_of_keptWhole creates rows remains history kept asks sized

def twoSsus : SsuPluginOps Unit :=
  acceptingPlugin [oneSsu, otherSsu]

/-- The states after a refresh of the pool. -/
def twoSsusPooled : ControllerState × Unit :=
  Transition.run (step twoSsus) (.initial, ()) [.refreshPool]

def dataOnTwoDisks (size : UInt64) : SsuAllocReq :=
  { plainRequest size "data".toList with physicalDiskCount := 2 }

def dataExtent (ssu : SsuResourceInfo) (offset length : UInt64) :
    SsuAllocExtent :=
  { ssuId := ssu.ssuId
    hostId := ssu.hostId
    nsId := copyCstr 32 "ns".toList
    logicalOffset := offset
    length := length }

def dataOut (size : UInt64) (count : UInt32) : SsuAllocResult :=
  { allocateId := copyCstr 64 "alloc-0".toList
    logicalSizeBytes := size
    extentCount := count }

/-- Asked for again after a mount. -/
theorem named_alloc_idempotent_mounted :
    let after := (ssuControllerAlloc twoSsus (dataOnTwoDisks 4096) ⟨true, 8⟩
      twoSsusPooled.1 twoSsusPooled.2).2
    let later := recordedFrom twoSsus after
      [.mount (plainMount "alloc-0".toList "/dev/ssu/data".toList)]
    AnswersSame (dataOut 4096 2)
      [dataExtent oneSsu 0 2048, dataExtent otherSsu 2048 2048]
      (ssuControllerAlloc twoSsus (dataOnTwoDisks 4096) ⟨true, 2⟩ later.state
        later.world).1 := by
  intro after later
  have created : NamedAfresh twoSsus twoSsusPooled (dataOnTwoDisks 4096)
      ⟨true, 8⟩ (dataOut 4096 2)
      [dataExtent oneSsu 0 2048, dataExtent otherSsu 2048 2048] after := by
    apply NamedAfresh.of_answer 2 (by decide) (by decide) (by decide +kernel)
    decide +kernel
  obtain ⟨_, answers, _⟩ := named_alloc_idempotent_iff twoSsus () [.refreshPool]
    [.mount (plainMount "alloc-0".toList "/dev/ssu/data".toList)] created
    (by decide +kernel)
  have idempotent := answers.mpr
    ⟨by decide, by decide, by decide +kernel, by decide +kernel⟩
    (dataOnTwoDisks 4096) ⟨true, 2⟩
    ⟨rfl, by decide, rfl, by decide +kernel, rfl, by decide⟩ (by decide)
  exact idempotent.same.mpr (.refl _)

/-- One byte does not fill two disks, and the rows remember one. -/
theorem named_alloc_conflicts_with_itself :
    let after := (ssuControllerAlloc twoSsus (dataOnTwoDisks 1) ⟨true, 8⟩
      twoSsusPooled.1 twoSsusPooled.2).2
    NamedAfresh twoSsus twoSsusPooled (dataOnTwoDisks 1) ⟨true, 8⟩
        (dataOut 1 1) [dataExtent oneSsu 0 1] after ∧
      AsksAgain (dataOnTwoDisks 1) (dataOnTwoDisks 1) [dataExtent oneSsu 0 1]
        ⟨true, 8⟩ ∧
      ¬Idempotent (dataOnTwoDisks 1) (dataOnTwoDisks 1) (dataOut 1 1)
        [dataExtent oneSsu 0 1] after
        (ssuControllerAlloc twoSsus (dataOnTwoDisks 1) ⟨true, 8⟩ after.1
          after.2) := by
  intro after
  refine ⟨?_, ?_, ?_⟩
  · apply NamedAfresh.of_answer 1 (by decide) (by decide) (by decide +kernel)
    decide +kernel
  · exact ⟨rfl, by decide, rfl, by decide +kernel, rfl, by decide⟩
  · intro idempotent
    have accepted := (idempotent.same.mpr (.refl _)).err
    revert accepted
    decide +kernel

end Main

end UbseSsu.Controller

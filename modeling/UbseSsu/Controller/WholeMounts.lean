import UbseSsu.Controller.Capacity
import UbseSsu.Controller.OwnRows

/-!
# When a mounted disk has no holes

A release deletes the extents one by one and stops at the first failure; the
rows that are left keep their state and can be mounted.  `partlyReleased`
reads off the history whether a namespace of the allocation has gone since its
creation, and this is exactly what decides whether a mount covers the whole
allocated range.
-/

namespace UbseSsu.Controller

open Tiling (Consecutive Span Tiles)

variable {PluginState : Type}

/-- The size that a call allocated under an id. -/
def createdSize (allocateId : CString) (entry : HistoryEntry) :
    Option UInt64 :=
  match entry.op with
  | .alloc req _ =>
      if entry.status = .ok ∧
          (entry.calls.filterMap (createdExtent req)).any
            (extentHasId allocateId) = true then
        some req.sizeBytes
      else none
  | _ => none

/-- The size of the latest allocation under an id. -/
def originalSize (allocateId : CString) : List HistoryEntry → Option UInt64
  | [] => none
  | entry :: earlier =>
      match createdSize allocateId entry with
      | some size => some size
      | none => originalSize allocateId earlier

/-- Some namespace was deleted after the latest allocation under the id. -/
def partlyReleased (allocateId : CString) : List HistoryEntry → Bool
  | [] => false
  | entry :: earlier =>
      match createdSize allocateId entry with
      | some _ => false
      | none => deletesFrom allocateId entry || partlyReleased allocateId earlier

def logdevSpan (row : SsuLogdevInfo) : Span :=
  (row.logicalOffset.toNat, row.length.toNat)

/-- The spans of one allocation's rows, in slot order. -/
def extentSpans (state : ControllerState) (allocateId : CString) :
    List Span :=
  (state.allocations.rows.filter (rowHasId allocateId)).map rowSpan

/-- Before the deletions the spans lay end to end over the whole size. -/
structure CutFrom (history : List HistoryEntry) (allocateId : CString)
    (spans : List Span) (size : UInt64) (lost : List Span) : Prop where
  original : originalSize allocateId history = some size
  laid : Consecutive 0 size.toNat (lost ++ spans)
  nonempty : ∀ span ∈ lost ++ spans, 0 < span.2
  cut : partlyReleased allocateId history = true ↔ lost ≠ []

/-- Every active allocation is a remainder of what was allocated. -/
def Remainders (history : List HistoryEntry) (state : ControllerState) :
    Prop :=
  ∀ allocateId, extentSpans state allocateId ≠ [] →
    ∃ size lost, CutFrom history allocateId (extentSpans state allocateId)
      size lost

section Steps

variable {history : List HistoryEntry} {state : ControllerState}

theorem extentSpans_eq (state : ControllerState) (allocateId : CString) :
    extentSpans state allocateId =
      (ownRows state allocateId).map rowSpan := by
  rw [ownRows, List.map_map]
  rfl

/-- A call that does not create under the id cuts rows off from the front. -/
theorem CutFrom.cutRows {allocateId : CString} {size : UInt64}
    {lost : List Span} {entry : HistoryEntry}
    {before gone after : List ControllerAllocation}
    (cut : CutFrom history allocateId (before.map rowSpan) size lost)
    (rowsCut : RowsCut allocateId entry before gone after)
    (uncreated : createdSize allocateId entry = none) :
    CutFrom (entry :: history) allocateId (after.map rowSpan) size
      (lost ++ gone.map rowSpan) := by
  have laid := cut.laid
  have nonempty := cut.nonempty
  rw [rowsCut.rows, List.map_append, ← List.append_assoc] at laid nonempty
  refine ⟨?_, laid, nonempty, ?_⟩
  · rw [originalSize, uncreated]
    exact cut.original
  · have sofar := cut.cut
    simp only [partlyReleased, uncreated, Bool.or_eq_true, rowsCut.deletes,
      sofar]
    simp only [ne_eq, List.append_eq_nil_iff, List.map_eq_nil_iff]
    tauto

theorem Remainders.cutRows {after : ControllerState} {allocateId : CString}
    {entry : HistoryEntry} {gone : List ControllerAllocation}
    (remainders : Remainders history state)
    (rowsCut : RowsCut allocateId entry (ownRows state allocateId) gone
      (ownRows after allocateId))
    (uncreated : createdSize allocateId entry = none)
    (active : extentSpans after allocateId ≠ []) :
    ∃ size lost, CutFrom (entry :: history) allocateId
      (extentSpans after allocateId) size lost := by
  have before : extentSpans state allocateId ≠ [] := by
    rw [extentSpans_eq, rowsCut.rows, List.map_append, ← extentSpans_eq]
    exact List.append_ne_nil_of_right_ne_nil _ active
  obtain ⟨size, lost, cut⟩ := remainders allocateId before
  rw [extentSpans_eq] at cut ⊢
  exact ⟨size, _, cut.cutRows rowsCut uncreated⟩

variable {req : SsuAllocReq} {ctx : AllocContext} {number : UInt64}
  {selected : List Nat}
  {createNs : SsuExtentCreateReq → PluginState → CreateNsAnswer × PluginState}

/-- No extent of a new allocation is empty. -/
theorem ExtentRun.lengths_pos {poolIndexes : List Nat} {index : Nat}
    {offset : UInt64} {first last : ControllerState × PluginState}
    {entries : List (Nat × ControllerAllocation)}
    (run : ExtentRun createNs ctx poolIndexes index offset first entries last)
    (positive : 0 < ctx.baseLength.toNat)
    (bounded : extentOffset ctx.baseLength ctx.remainder
      (index + poolIndexes.length) < 2 ^ 64) :
    ∀ entry ∈ entries, 0 < (rowSpan entry.2).2 := by
  induction run with
  | done => simp
  | @place _ _ _ _ _ index _ _ _ poolIndexes _ _ _ _ _ _ induction =>
      have reach : index + (poolIndexes.length + 1) =
          index + 1 + poolIndexes.length := by omega
      rw [List.length_cons, reach] at bounded
      refine List.forall_mem_cons.mpr ⟨?_, induction bounded⟩
      have long := extentLength_ge ctx.baseLength ctx.remainder
        (Nat.lt_of_le_of_lt (extentOffset_mono _ _ (Nat.le_add_right (index + 1) _))
          bounded)
      exact Nat.lt_of_lt_of_le positive long

/-- The rows of a new allocation lie end to end over its size. -/
theorem AllocPlan.laid (plan : AllocPlan req state ctx number selected)
    {first last : ControllerState × PluginState}
    {entries : List (Nat × ControllerAllocation)}
    (run : ExtentRun createNs ctx selected 0 0 first entries last) :
    Consecutive 0 req.sizeBytes.toNat
        (entries.map fun entry => rowSpan entry.2) ∧
      ∀ entry ∈ entries, 0 < (rowSpan entry.2).2 := by
  have whole : extentOffset ctx.baseLength ctx.remainder
      (0 + selected.length) < 2 ^ 64 := by
    rw [Nat.zero_add, plan.total]
    exact req.sizeBytes.toNat_lt
  have laid := run.consecutive (by simp) whole
  rw [Nat.zero_add, plan.total] at laid
  exact ⟨laid, run.lengths_pos plan.baseLength_pos whole⟩

theorem Remainders.created (remainders : Remainders history state)
    (plan : AllocPlan req state ctx number selected)
    {world : PluginState} {entries : List (Nat × ControllerAllocation)}
    {last : ControllerState × PluginState}
    (run : ExtentRun createNs ctx selected 0 0 (numbered state number, world)
      entries last)
    {calls : List NamespaceCall} {buffer : ExtentBuffer}
    (records : calls.filterMap (createdExtent req) =
      entries.map fun entry => asCreated entry.2) :
    Remainders ({ op := .alloc req buffer, status := .ok, calls } :: history)
      last.1 := by
  have newIds : ∀ allocateId,
      (calls.filterMap (createdExtent req)).any (extentHasId allocateId) =
          true ↔
        ctx.allocateId.chars = allocateId := by
    intro allocateId
    have some : entries ≠ [] := by
      rw [← List.length_pos_iff, run.length_entries]
      exact plan.positive
    obtain ⟨entry, member⟩ := List.exists_mem_of_ne_nil _ some
    rw [records, List.any_map, List.any_eq_true]
    constructor
    · rintro ⟨other, otherMember, named⟩
      have id := (run.written other otherMember).allocateId
      simpa [extentHasId, asCreated, id] using named
    · rintro rfl
      have id := (run.written entry member).allocateId
      exact ⟨entry, member, by simp [extentHasId, asCreated, id]⟩
  intro allocateId active
  by_cases own : ctx.allocateId.chars = allocateId
  · subst own
    have created : createdSize ctx.allocateId.chars
        { op := .alloc req buffer, status := .ok, calls } =
          some req.sizeBytes := by
      simp [createdSize, (newIds _).mpr rfl]
    have spans : extentSpans last.1 ctx.allocateId.chars =
        entries.map fun entry => rowSpan entry.2 := by
      rw [extentSpans_eq, plan.ownRows run, List.map_map]
      rfl
    obtain ⟨laid, nonempty⟩ := plan.laid run
    refine ⟨req.sizeBytes, [], ?_, ?_, ?_, ?_⟩
    · rw [originalSize, created]
    · rw [spans]
      exact laid
    · rw [spans]
      intro span member
      obtain ⟨entry, entryMember, rfl⟩ := List.mem_map.mp member
      exact nonempty entry entryMember
    · simp [partlyReleased, created]
  · have kept : ownRows last.1 allocateId = ownRows state allocateId := by
      rw [ownRows, ownRows, run.filter_rows_other own]
      rfl
    apply remainders.cutRows (.same kept rfl) _ active
    simp [createdSize, mt (newIds allocateId).mp own]

variable {plugin : SsuPluginOps PluginState}

theorem remainders_alloc (remainders : Remainders history state)
    (named : LogdevsNamed state) {world : PluginState} {buffer : ExtentBuffer}
    {result : AllocAnswer × ControllerState × Logged PluginState}
    (outcome : AllocOutcome (recording plugin) req state (world, []) result) :
    Remainders
      ({ op := .alloc req buffer, status := result.1.err,
         calls := result.2.2.2 } :: history) result.2.1 := by
  have quiet : ∀ {after : ControllerState} {entry : HistoryEntry},
      after.allocations = state.allocations →
        entry.op = .alloc req buffer →
          (∀ allocateId, createdSize allocateId entry = none) →
            Remainders (entry :: history) after := by
    intro after entry allocations isAlloc uncreated allocateId active
    have kept := ownRows_of_sameTables allocations allocateId
    have undeleted : deletesFrom allocateId entry = false := by
      rw [deletesFrom, isAlloc]
    exact remainders.cutRows (.same kept undeleted) (uncreated allocateId)
      active
  cases outcome with
  | refused number failed =>
      exact quiet rfl rfl (by simp [createdSize, failed])
  | reused => exact quiet rfl rfl (by simp [createdSize])
  | undone provided plan parts run stopped failed =>
      exact quiet (AllocOutcome.undone_tables _ _ plan named run).1 rfl
        (by simp [createdSize, failed])
  | created provided plan run answered _ =>
      obtain ⟨createNs, rfl⟩ := recording_createNs provided
      obtain ⟨calls, logged, records⟩ := run.calls
      rw [List.nil_append] at logged
      rw [plan.request] at records
      simp only [answered, logged]
      exact remainders.created plan run records

theorem remainders_recordStep (plugin : SsuPluginOps PluginState)
    (current : Recorded PluginState) (op : ControllerOp)
    (mounts : MountState current.state)
    (remainders : Remainders current.history current.state) :
    Remainders (recordStep plugin current op).history
      (recordStep plugin current op).state := by
  by_cases isAlloc : ∃ req buffer, op = .alloc req buffer
  · obtain ⟨req, buffer, rfl⟩ := isAlloc
    exact remainders_alloc remainders mounts.named
      (ssuControllerAlloc_outcome (recording plugin) req buffer current.state
        (current.world, []))
  · intro allocateId active
    have notAlloc : ∀ req buffer, op ≠ .alloc req buffer :=
      fun req buffer same => isAlloc ⟨req, buffer, same⟩
    obtain ⟨gone, cut⟩ :=
      ownRows_otherStep plugin current op notAlloc mounts allocateId
    apply remainders.cutRows cut _ active
    cases op with
    | alloc req buffer => exact (notAlloc req buffer rfl).elim
    | _ => rfl

end Steps

section Mounts

variable {state : ControllerState}

/-- The rows recorded for the new path cover the allocation's rows. -/
theorem recordMount_spans {req : SsuMountReq}
    {connected : List (ControllerAllocation × Nat × CBuf 64)}
    (checked : MountChecked req state connected) :
    (((recordMount req connected state).logdevs.rows.filter
        (logdevHasDev req.logicalDev.chars)).map logdevSpan).Perm
      (extentSpans state req.allocateId) := by
  have new : (connected.map fun entry =>
        logdevRow req entry.1 entry.2.2).filter
          (logdevHasDev req.logicalDev.chars) =
      connected.map fun entry => logdevRow req entry.1 entry.2.2 := by
    refine List.filter_eq_self.mpr fun row member => ?_
    obtain ⟨entry, _, rfl⟩ := List.mem_map.mp member
    simp [logdevHasDev, logdevRow]
  have old : state.logdevs.rows.filter
      (logdevHasDev req.logicalDev.chars) = [] := by
    refine List.filter_eq_nil_iff.mpr fun row member => ?_
    simpa [logdevHasDev, BoundedString.chars_inj] using
      checked.unused row member
  have rows := ((recordMount_logdevs checked).filter
    (logdevHasDev req.logicalDev.chars)).map logdevSpan
  rw [List.filter_append, new, old, List.append_nil, List.map_map] at rows
  rw [extentSpans, ← checked.rows, List.map_map]
  exact rows

theorem remainders_recordedRun (plugin : SsuPluginOps PluginState)
    (world : PluginState) (ops : List ControllerOp) :
    Remainders (recordedRun plugin world ops).history
      (recordedRun plugin world ops).state :=
  (Transition.run_invariant_always
    (fun current : Recorded PluginState =>
      MountState current.state ∧ Remainders current.history current.state)
    (fun current op holds =>
      ⟨mountState_recordStep plugin current op holds.1,
        remainders_recordStep plugin current op holds.1 holds.2⟩)
    ⟨mountState_initial, fun _ active => (active rfl).elim⟩ ops).2

/-- A successful mount records rows that tile the allocated range if and only
if no namespace of the allocation was deleted since it was allocated. -/
theorem mounted_rows_tile_iff (plugin : SsuPluginOps PluginState)
    (world : PluginState) (ops : List ControllerOp) (req : SsuMountReq)
    (mounted : (exec plugin (.mount req) (recordedRun plugin world ops).state
      (recordedRun plugin world ops).world).1 = .ok) :
    let before := recordedRun plugin world ops
    let after := (exec plugin (.mount req) before.state before.world).2.1
    (before.state, before.world) =
        Transition.run (step plugin) (.initial, world) ops ∧
      ∃ size, originalSize req.allocateId before.history = some size ∧
        (Tiles size.toNat ((after.logdevs.rows.filter
            (logdevHasDev req.logicalDev.chars)).map logdevSpan) ↔
          partlyReleased req.allocateId before.history = false) := by
  intro before after
  refine ⟨recordedRun_plain plugin world ops, ?_⟩
  have remainders := remainders_recordedRun plugin world ops
  have outcome := ssuControllerMount_outcome plugin req before.state
    before.world
  simp only [after, exec]
  simp only [exec] at mounted
  generalize ssuControllerMount plugin req before.state before.world = result
    at mounted outcome ⊢
  cases outcome with
  | refused failed => exact (failed mounted).elim
  | unconnected _ _ failed => exact (failed mounted).elim
  | rejected _ _ _ _ failed => exact (failed mounted).elim
  | mounted _ _ _ _ checked _ =>
      have spans := recordMount_spans checked
      have active : extentSpans before.state req.allocateId ≠ [] := by
        rw [extentSpans, ← checked.rows]
        simpa using checked.found
      obtain ⟨size, lost, cut⟩ := remainders req.allocateId active
      refine ⟨size, cut.original, fun tiles => ?_, fun whole => ?_⟩
      · rw [← Bool.not_eq_true, cut.cut, ne_eq, not_not]
        by_contra some
        obtain ⟨span, member⟩ := List.exists_mem_of_ne_nil _ some
        exact cut.laid.not_tiles_of_lost (.refl _)
          ⟨span, member, cut.nonempty span (List.mem_append_left _ member)⟩
          (tiles.perm spans)
      · have nothing : lost = [] := by
          rw [← Bool.not_eq_true, cut.cut, ne_eq, not_not] at whole
          exact whole
        have laid := cut.laid
        rw [nothing, List.nil_append] at laid
        exact laid.tiles.perm spans.symm

def hostMount (allocateId : CString) (logicalDev : CString) : SsuMountReq :=
  { allocateId, hostId := "host0".toList, logicalDev := copyCstr 64 logicalDev }

def otherSsu : SsuResourceInfo :=
  { oneSsu with ssuId := copyCstr 64 "ssu1".toList }

/-- An allocation of two extents of 2048 bytes. -/
def twoSsuRun : List ControllerOp :=
  [.refreshPool, .alloc (plainRequest 4096 []) ⟨true, 8⟩]

/-- Both extents are mounted. -/
theorem mounted_rows_tile_twoSsus :
    let before := recordedRun (acceptingPlugin [oneSsu, otherSsu]) () twoSsuRun
    let after := (exec (acceptingPlugin [oneSsu, otherSsu])
      (.mount (hostMount "alloc-0".toList "/dev/ssu/ssu0".toList))
      before.state before.world).2.1
    (after.logdevs.rows.filter
        (logdevHasDev "/dev/ssu/ssu0".toList)).length = 2 ∧
      Tiles 4096 ((after.logdevs.rows.filter
        (logdevHasDev "/dev/ssu/ssu0".toList)).map logdevSpan) := by
  obtain ⟨_, size, original, tiles⟩ := mounted_rows_tile_iff
    (acceptingPlugin [oneSsu, otherSsu]) () twoSsuRun
    (hostMount "alloc-0".toList "/dev/ssu/ssu0".toList) (by decide +kernel)
  have whole : originalSize "alloc-0".toList (recordedRun
      (acceptingPlugin [oneSsu, otherSsu]) () twoSsuRun).history =
        some 4096 := by decide +kernel
  have same : size = 4096 := Option.some.inj (original.symm.trans whole)
  subst same
  constructor
  · decide +kernel
  · exact tiles.mpr (by decide +kernel)

/-- A plugin whose second `delete_ns` fails; its state counts the deletions. -/
def failingDelete (resources : List SsuResourceInfo) : SsuPluginOps Nat :=
  { discover := some fun world => ((.ok, resources), world)
    connect := some fun ssuId world => ((.ok, ssuId), world)
    healthCheck := some fun _ world => ((.ok, onlineState), world)
    createNs := some fun extentReq world =>
      ({ err := .ok, nsId := copyCstr 32 "ns".toList
         physSector := extentReq.physOffsetHint }, world)
    deleteNs := some fun _ _ world =>
      (if world = 1 then .io else .ok, world + 1)
    mount := some fun _ _ _ world => (.ok, world)
    unmount := some fun _ world => (.ok, world) }

/-- The release deletes the first extent and fails. -/
def partialRelease : List ControllerOp :=
  twoSsuRun ++ [.release "alloc-0".toList]

/-- The mount that follows succeeds and covers the second half only. -/
theorem mount_after_partialRelease :
    let plugin := failingDelete [oneSsu, otherSsu]
    let before := Transition.run (step plugin) (.initial, 0) partialRelease
    let result := exec plugin
      (.mount (hostMount "alloc-0".toList "/dev/ssu/ssu0".toList))
      before.1 before.2
    result.1 = .ok ∧
      (result.2.1.logdevs.rows.filter
        (logdevHasDev "/dev/ssu/ssu0".toList)).map logdevSpan =
          [(2048, 2048)] ∧
      ¬Tiles 4096 ((result.2.1.logdevs.rows.filter
        (logdevHasDev "/dev/ssu/ssu0".toList)).map logdevSpan) := by
  intro plugin before result
  have spans : (result.2.1.logdevs.rows.filter
      (logdevHasDev "/dev/ssu/ssu0".toList)).map logdevSpan =
        [(2048, 2048)] := by decide +kernel
  refine ⟨by decide +kernel, spans, fun tiles => ?_⟩
  rw [spans] at tiles
  exact absurd tiles.sum (by decide)

end Mounts

end UbseSsu.Controller

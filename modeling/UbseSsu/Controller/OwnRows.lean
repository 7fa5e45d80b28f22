import UbseSsu.Controller.History

/-!
# The rows of one allocation

An allocation's rows are written together and then only leave, the oldest
first: a release that stops at a failed `delete_ns` keeps the rows it has not
reached.  Mounting and unmounting rewrite their states and nothing else.
-/

namespace UbseSsu.Controller

variable {PluginState : Type} {plugin : SsuPluginOps PluginState}

/-- A call that deleted some namespace of the allocation. -/
def deletesFrom (allocateId : CString) (entry : HistoryEntry) : Bool :=
  match entry.op with
  | .release released =>
      decide (released = allocateId) && entry.calls.any fun call =>
        match call with
        | .deleted _ _ .ok => true
        | _ => false
  | _ => false

/-- A call that released the allocation. -/
def releases (allocateId : CString) (entry : HistoryEntry) : Bool :=
  decide (entry.op = .release allocateId) && decide (entry.status = .ok)

def unmarked (row : ControllerAllocation) : ControllerAllocation :=
  { row with info := asCreated row }

/-- The rows of an allocation in slot order, as they were written. -/
def ownRows (state : ControllerState) (allocateId : CString) :
    List ControllerAllocation :=
  (state.allocations.rows.filter (rowHasId allocateId)).map unmarked

/-- What one call leaves of the rows of an allocation. -/
structure RowsCut (allocateId : CString) (entry : HistoryEntry)
    (before gone after : List ControllerAllocation) : Prop where
  rows : before = gone ++ after
  deletes : deletesFrom allocateId entry = true ↔ gone ≠ []
  stays : releases allocateId entry = false → before ≠ [] → after ≠ []

/-- The recorded call of a step. -/
def callEntry (plugin : SsuPluginOps PluginState)
    (current : Recorded PluginState) (op : ControllerOp) : HistoryEntry :=
  let result := exec (recording plugin) op current.state (current.world, [])
  { op, status := result.1, calls := result.2.2.2 }

theorem recordStep_history (current : Recorded PluginState)
    (op : ControllerOp) :
    (recordStep plugin current op).history =
      callEntry plugin current op :: current.history := rfl

@[simp] theorem unmarked_setRowState (allocateId : CString)
    (newState : CBuf 16) (row : ControllerAllocation) :
    unmarked (setRowState allocateId newState row) = unmarked row := by
  unfold unmarked
  rw [asCreated_setRowState]
  unfold setRowState
  split <;> rfl

section Steps

variable {state after : ControllerState} {allocateId : CString}
  {entry : HistoryEntry}

theorem ownRows_of_sameTables
    (allocations : after.allocations = state.allocations)
    (allocateId : CString) :
    ownRows after allocateId = ownRows state allocateId := by
  rw [ownRows, ownRows, allocations]

theorem ownRows_setStates {changed : CString} {newState : CBuf 16}
    (rows : after.allocations.rows =
      state.allocations.rows.map (setRowState changed newState))
    (allocateId : CString) :
    ownRows after allocateId = ownRows state allocateId := by
  rw [ownRows, rows, List.filter_map, List.map_map]
  simp [ownRows, Function.comp_def]

theorem RowsCut.same (kept : ownRows after allocateId =
      ownRows state allocateId)
    (undeleted : deletesFrom allocateId entry = false) :
    RowsCut allocateId entry (ownRows state allocateId) []
      (ownRows after allocateId) where
  rows := kept.symm
  deletes := by simp [undeleted]
  stays _ some := kept ▸ some

theorem ownRows_alloc {req : SsuAllocReq} {buffer : ExtentBuffer}
    (named : LogdevsNamed state) (active : ownRows state allocateId ≠ [])
    {world : Logged PluginState} {status : SsuErr} {calls : List NamespaceCall}
    {result : AllocAnswer × ControllerState × Logged PluginState}
    (outcome : AllocOutcome (recording plugin) req state world result) :
    RowsCut allocateId { op := .alloc req buffer, status, calls }
      (ownRows state allocateId) [] (ownRows result.2.1 allocateId) := by
  apply RowsCut.same _ rfl
  cases outcome with
  | refused => rfl
  | reused => rfl
  | undone _ plan _ run _ _ =>
      exact ownRows_of_sameTables
        (AllocOutcome.undone_tables _ _ plan named run).1 allocateId
  | created _ plan run _ _ =>
      rw [ownRows, ownRows]
      apply congrArg
      apply run.filter_rows_other
      rintro rfl
      obtain ⟨row, member⟩ := List.exists_mem_of_ne_nil _ active
      obtain ⟨original, listed, _⟩ := List.mem_map.mp member
      obtain ⟨present, owned⟩ := List.mem_filter.mp listed
      exact plan.unused present (rowHasId_iff.mp owned)

theorem ownRows_released {released : CString}
    {deleteNs : CBuf 64 → CBuf 32 → PluginState → SsuErr × PluginState}
    {world : PluginState} {rows : List ControllerAllocation}
    {last : ControllerState × PluginState}
    (run : ReleaseRun deleteNs released (state, world) rows last)
    (allocateId : CString) :
    ownRows state allocateId =
      (if released = allocateId then rows.map unmarked else []) ++
        ownRows last.1 allocateId := by
  by_cases own : released = allocateId
  · subst own
    rw [if_pos rfl, ownRows, run.filter_rows_own, List.map_append]
    rfl
  · rw [if_neg own, ownRows, ownRows, run.filter_rows_other own]
    rfl

theorem deletesFrom_calls (released allocateId : CString) (status : SsuErr)
    (rows : List ControllerAllocation) (extra : List NamespaceCall)
    (refused : ∀ call ∈ extra, ∀ ssuId nsId,
      call ≠ .deleted ssuId nsId .ok) :
    deletesFrom allocateId
        { op := .release released, status
          calls := (rows.map fun row => NamespaceCall.deleted row.info.ssuId
            row.info.nsId .ok) ++ extra } = true ↔
      (if released = allocateId then rows.map unmarked else []) ≠ [] := by
  by_cases own : released = allocateId
  · rw [if_pos own, ne_eq, List.map_eq_nil_iff]
    cases rows with
    | nil =>
        simp only [deletesFrom, List.map_nil, List.nil_append, not_true_eq_false,
          iff_false, Bool.and_eq_true, List.any_eq_true, not_and, not_exists]
        intro _ call member
        have different := refused call member
        split
        · rename_i ssuId nsId
          exact (different ssuId nsId rfl).elim
        · simp
    | cons row rows => simp [deletesFrom, own]
  · simp [deletesFrom, own]

theorem ownRows_release {released : CString} {world : PluginState}
    {result : SsuErr × ControllerState × Logged PluginState}
    (outcome : ReleaseOutcome (recording plugin) released state (world, [])
      result) :
    ∃ gone, RowsCut allocateId
      { op := .release released, status := result.1,
        calls := result.2.2.2 } (ownRows state allocateId) gone
      (ownRows result.2.1 allocateId) := by
  have quiet : ∀ status, ∃ gone, RowsCut allocateId
      { op := .release released, status, calls := [] }
      (ownRows state allocateId) gone (ownRows state allocateId) :=
    fun status => ⟨[], .same rfl (by simp [deletesFrom])⟩
  cases outcome with
  | refused => exact quiet _
  | @stopped _ provided _ rows last run row kept owned _ _ stopped failed =>
      obtain ⟨deleteNs, rfl⟩ := recording_deleteNs provided
      have logged := run.calls
      simp only [recordDelete, noted, Prod.mk.injEq] at stopped
      obtain ⟨refusal, rfl⟩ := stopped
      rw [List.nil_append] at logged
      have cut := ownRows_released run allocateId
      refine ⟨_, cut, ?_, fun _ active => ?_⟩
      · simp only [logged, refusal]
        apply deletesFrom_calls
        intro call member ssuId nsId same
        rw [List.mem_singleton] at member
        subst member
        exact failed (NamespaceCall.deleted.inj same).2.2
      · by_cases own : released = allocateId
        · subst own
          have left : row ∈ last.1.allocations.rows.filter
              (rowHasId released) := List.mem_filter.mpr ⟨kept, owned⟩
          simpa [ownRows] using List.ne_nil_of_mem left
        · rw [if_neg own, List.nil_append] at cut
          exact cut ▸ active
  | @released _ provided _ rows last run found gone =>
      obtain ⟨deleteNs, rfl⟩ := recording_deleteNs provided
      have logged := run.calls
      rw [List.nil_append] at logged
      have tables := ownRows_of_sameTables
        (rememberReleasedId_allocations last.1 released) allocateId
      have cut := ownRows_released run allocateId
      rw [← tables] at cut
      refine ⟨_, cut, ?_, fun held active => ?_⟩
      · simp only [logged]
        have calls := deletesFrom_calls released allocateId .ok rows []
          (fun _ member => absurd member List.not_mem_nil)
        rwa [List.append_nil] at calls
      · have own : released ≠ allocateId := by
          rintro rfl
          simp [releases] at held
        rw [if_neg own, List.nil_append] at cut
        exact cut ▸ active
  | absent => exact quiet _

/-- A call other than an allocation leaves the rows of an allocation or takes
the first ones out. -/
theorem ownRows_otherStep (plugin : SsuPluginOps PluginState)
    (current : Recorded PluginState) (op : ControllerOp)
    (notAlloc : ∀ req buffer, op ≠ .alloc req buffer)
    (mounts : MountState current.state) (allocateId : CString) :
    ∃ gone, RowsCut allocateId (callEntry plugin current op)
      (ownRows current.state allocateId) gone
      (ownRows (recordStep plugin current op).state allocateId) := by
  obtain ⟨history, state, world⟩ := current
  cases op with
  | refreshPool =>
      have tables := refreshPool_tables (recording plugin) state (world, [])
      exact ⟨[], .same (ownRows_of_sameTables tables.1 allocateId) rfl⟩
  | alloc req buffer => exact (notAlloc req buffer rfl).elim
  | release released =>
      exact ownRows_release (ssuControllerRelease_outcome (recording plugin)
        released state (world, []))
  | mount req =>
      refine ⟨[], .same ?_ rfl⟩
      have outcome := ssuControllerMount_outcome (recording plugin) req state
        (world, [])
      simp only [recordStep, exec]
      generalize ssuControllerMount (recording plugin) req state (world, []) =
        result at outcome
      cases outcome with
      | refused => rfl
      | unconnected => rfl
      | rejected => rfl
      | mounted =>
          exact ownRows_setStates (setAllocationState_rows _ _ _) allocateId
  | unmount logicalDev =>
      refine ⟨[], .same ?_ rfl⟩
      have outcome := ssuControllerUnmount_outcome (recording plugin)
        logicalDev state (world, [])
      simp only [recordStep, exec]
      generalize ssuControllerUnmount (recording plugin) logicalDev state
        (world, []) = result at outcome
      cases outcome with
      | refused => rfl
      | stale => rfl
      | rejected => rfl
      | unmounted _ found _ =>
          have rows := congrArg (fun after => after.allocations.rows)
            (recordUnmount_rows logicalDev mounts.named
              (findLogdevByDev_some found).1)
          exact ownRows_setStates (rows.trans
            (setAllocationState_rows _ _ _)) allocateId

/-- So does every call, as long as the allocation has rows: a new one takes
another id. -/
theorem ownRows_recordStep (plugin : SsuPluginOps PluginState)
    (current : Recorded PluginState) (op : ControllerOp)
    (mounts : MountState current.state)
    (active : ownRows current.state allocateId ≠ []) :
    ∃ gone, RowsCut allocateId (callEntry plugin current op)
      (ownRows current.state allocateId) gone
      (ownRows (recordStep plugin current op).state allocateId) := by
  by_cases isAlloc : ∃ req buffer, op = .alloc req buffer
  · obtain ⟨req, buffer, rfl⟩ := isAlloc
    exact ⟨[], ownRows_alloc mounts.named active
      (ssuControllerAlloc_outcome (recording plugin) req buffer current.state
        (current.world, []))⟩
  · apply ownRows_otherStep plugin current op _ mounts
    intro req buffer same
    exact isAlloc ⟨req, buffer, same⟩

/-- The table lists the rows of a new allocation in the order of their
creation. -/
theorem AllocPlan.ownRows {req : SsuAllocReq} {ctx : AllocContext}
    {number : UInt64} {selected : List Nat}
    (plan : AllocPlan req state ctx number selected)
    {createNs : SsuExtentCreateReq → PluginState → CreateNsAnswer × PluginState}
    {world : PluginState} {last : ControllerState × PluginState}
    {entries : List (Nat × ControllerAllocation)}
    (run : ExtentRun createNs ctx selected 0 0 (numbered state number, world)
      entries last) :
    ownRows last.1 ctx.allocateId.chars = entries.map Prod.snd := by
  have unused : ∀ row ∈ state.allocations.rows,
      rowHasId ctx.allocateId.chars row = false := fun row member => by
    rw [← Bool.not_eq_true, rowHasId_iff]
    exact plan.unused member
  have inOrder := run.filter_rows_own fun free _ slot row active owned => by
    rw [unused row (SlotTable.mem_rows_of_get active)] at owned
    contradiction
  have none : state.allocations.rows.filter
      (rowHasId ctx.allocateId.chars) = [] := by
    simpa [List.filter_eq_nil_iff] using unused
  rw [Controller.ownRows, inOrder]
  simp only [numbered, none, List.nil_append, List.map_map]
  apply List.map_congr_left
  intro entry member
  have written := (run.written entry member).state
  rw [Function.comp_apply, unmarked, asCreated, ← written]

end Steps

end UbseSsu.Controller

import UbseSsu.Controller.Recording
import UbseSsu.Library.Grouping

/-!
# The tables refine the history of a run

The ledger is a plain set of records computed from the calls of a run and the
plugin's answers alone: an allocation that succeeded enters one record for
each namespace it created, a release takes out the records whose `delete_ns`
succeeded, a mount enters one record for each extent, an unmount takes the
records of its path out.  The two fixed tables of the controller, with slot
reuse, partial releases and rollbacks, hold exactly these records.
-/

namespace UbseSsu.Controller

variable {PluginState : Type}

/-- What a logical-device row says about one extent, next to its physical
device. -/
structure MountedExtent where
  logicalDev : CBuf 64
  hostId : CBuf 64
  allocateId : CBuf 64
  logicalOffset : UInt64
  length : UInt64
  nsId : CBuf 32
  physSector : UInt64
deriving DecidableEq

structure Ledger where
  extents : List SsuAllocationInfo
  mounts : List MountedExtent

/-- The record of a created namespace. -/
def createdExtent (req : SsuAllocReq) :
    NamespaceCall → Option SsuAllocationInfo
  | .created extentReq answer =>
      if answer.err = .ok then
        some
          { allocateId := extentReq.allocateId
            diskName := copyCstr 64 req.diskName
            tenant := copyCstr 64 req.tenant
            policy := req.reliability
            shareType := req.shareType
            state := activeState
            ssuId := extentReq.ssuId
            nsId := answer.nsId
            logicalOffset := extentReq.logicalOffset
            length := extentReq.length
            physSector := answer.physSector
            roleIndex := extentReq.roleIndex }
      else none
  | .deleted _ _ _ => none

def extentHasId (allocateId : CString) (extent : SsuAllocationInfo) : Bool :=
  extent.allocateId.chars = allocateId

/-- A deleted namespace takes the oldest record that names it out. -/
def deleteExtent (allocateId : CString) (extents : List SsuAllocationInfo) :
    NamespaceCall → List SsuAllocationInfo
  | .deleted ssuId nsId .ok =>
      extents.eraseP fun extent =>
        extentHasId allocateId extent && decide (extent.ssuId = ssuId) &&
          decide (extent.nsId = nsId)
  | _ => extents

def mountedExtent (req : SsuMountReq) (extent : SsuAllocationInfo) :
    MountedExtent :=
  { logicalDev := req.logicalDev
    hostId := copyCstr 64 req.hostId
    allocateId := extent.allocateId
    logicalOffset := extent.logicalOffset
    length := extent.length
    nsId := extent.nsId
    physSector := extent.physSector }

def Ledger.enter (ledger : Ledger) (entry : HistoryEntry) : Ledger :=
  match entry.op with
  | .refreshPool => ledger
  | .alloc req _ =>
      if entry.status = .ok then
        { ledger with
          extents :=
            ledger.extents ++ entry.calls.filterMap (createdExtent req) }
      else ledger
  | .release allocateId =>
      { ledger with
        extents := entry.calls.foldl (deleteExtent allocateId) ledger.extents }
  | .mount req =>
      if entry.status = .ok then
        { ledger with
          mounts := ledger.mounts ++
            (ledger.extents.filter (extentHasId req.allocateId)).map
              (mountedExtent req) }
      else ledger
  | .unmount logicalDev =>
      if entry.status = .ok then
        { ledger with
          mounts := ledger.mounts.filter fun mounted =>
            mounted.logicalDev.chars ≠ logicalDev }
      else ledger

/-- The ledger of a history that lists the latest call first. -/
def ledgerOf : List HistoryEntry → Ledger
  | [] => { extents := [], mounts := [] }
  | entry :: earlier => (ledgerOf earlier).enter entry

/-- An active extent, with the state that the mounts give it. -/
def Ledger.stamped (ledger : Ledger) (extent : SsuAllocationInfo) :
    SsuAllocationInfo :=
  { extent with
    state :=
      if extent.allocateId ∈ ledger.mounts.map MountedExtent.allocateId
        then mountedState else activeState }

/-- A row as its creation recorded it. -/
def asCreated (row : ControllerAllocation) : SsuAllocationInfo :=
  { row.info with state := activeState }

def asMounted (row : SsuLogdevInfo) : MountedExtent :=
  { logicalDev := row.logicalDev
    hostId := row.hostId
    allocateId := row.allocateId
    logicalOffset := row.logicalOffset
    length := row.length
    nsId := row.nsId
    physSector := row.physSector }

/-- The controller's tables show the ledger: for every id the rows stand in
the order of their creation, and the logical devices are the mounts. -/
structure Shows (ledger : Ledger) (state : ControllerState) : Prop where
  extents : ∀ allocateId,
    (state.allocations.rows.filter (rowHasId allocateId)).map asCreated =
      ledger.extents.filter (extentHasId allocateId)
  mounts : (state.logdevs.rows.map asMounted).Perm ledger.mounts

section Calls

variable {plugin : SsuPluginOps PluginState}

theorem recording_createNs {recorded}
    (provided : (recording plugin).createNs = some recorded) :
    ∃ createNs, recorded = recordCreate createNs := by
  obtain ⟨createNs, _, same⟩ := Option.map_eq_some_iff.mp provided
  exact ⟨createNs, same.symm⟩

theorem recording_deleteNs {recorded}
    (provided : (recording plugin).deleteNs = some recorded) :
    ∃ deleteNs, recorded = recordDelete deleteNs := by
  obtain ⟨deleteNs, _, same⟩ := Option.map_eq_some_iff.mp provided
  exact ⟨deleteNs, same.symm⟩

/-- The request and the answer of one `create_ns`. -/
abbrev Creation := SsuExtentCreateReq × CreateNsAnswer

def Creation.call (made : Creation) : NamespaceCall :=
  .created made.1 made.2

/-- Accepted calls for one allocation. -/
structure CreatedFor (allocateId : CBuf 64) (made : List Creation) :
    Prop where
  accepted : ∀ one ∈ made, one.2.err = .ok
  owned : ∀ one ∈ made, one.1.allocateId = allocateId

/-- Every round of the extent loop leaves one successful call in the log. -/
theorem ExtentRun.made
    {createNs : SsuExtentCreateReq → PluginState → CreateNsAnswer × PluginState}
    {ctx : AllocContext} {poolIndexes : List Nat} {index : Nat}
    {offset : UInt64} {first last : ControllerState × Logged PluginState}
    {entries : List (Nat × ControllerAllocation)}
    (run : ExtentRun (recordCreate createNs) ctx poolIndexes index offset first
      entries last) :
    ∃ made : List Creation, CreatedFor ctx.allocateId made ∧
      last.2.2 = first.2.2 ++ made.map Creation.call ∧
      entries.map Prod.snd = made.map fun one => ctx.row one.1 one.2 := by
  induction run with
  | done => exact ⟨[], ⟨by simp, by simp⟩, by simp, rfl⟩
  | @place _ world _ _ _ index offset resource _ _ _ _ _ answered accepted _
      induction =>
      obtain ⟨made, every, logged, rows⟩ := induction
      let extentReq := ctx.extentReq resource index offset
      simp only [recordCreate, noted, Prod.mk.injEq] at answered
      obtain ⟨rfl, rfl⟩ := answered
      refine ⟨(extentReq, (createNs extentReq world.1).1) :: made, ⟨?_, ?_⟩,
        ?_, ?_⟩
      · exact List.forall_mem_cons.mpr ⟨accepted, every.accepted⟩
      · exact List.forall_mem_cons.mpr ⟨rfl, every.owned⟩
      · rw [logged, List.append_assoc]
        rfl
      · rw [List.map_cons, rows]
        rfl

theorem ExtentRun.calls
    {createNs : SsuExtentCreateReq → PluginState → CreateNsAnswer × PluginState}
    {ctx : AllocContext} {poolIndexes : List Nat} {index : Nat}
    {offset : UInt64} {first last : ControllerState × Logged PluginState}
    {entries : List (Nat × ControllerAllocation)}
    (run : ExtentRun (recordCreate createNs) ctx poolIndexes index offset first
      entries last) :
    ∃ calls, last.2.2 = first.2.2 ++ calls ∧
      calls.filterMap (createdExtent ctx.req) =
        entries.map fun entry => asCreated entry.2 := by
  obtain ⟨made, every, logged, rows⟩ := run.made
  refine ⟨made.map Creation.call, logged, ?_⟩
  have records : ∀ one ∈ made, createdExtent ctx.req (Creation.call one) =
      some (asCreated (ctx.row one.1 one.2)) := by
    intro one member
    simp only [Creation.call, createdExtent, every.accepted one member,
      every.owned one member, if_true]
    rfl
  have entered : (entries.map fun entry => asCreated entry.2) =
      (entries.map Prod.snd).map asCreated := by
    rw [List.map_map]
    rfl
  rw [entered, rows, List.filterMap_map, List.map_map,
    ← List.filterMap_eq_map]
  exact List.filterMap_congr records

/-- Every round of the deletion loop does too. -/
theorem ReleaseRun.calls
    {deleteNs : CBuf 64 → CBuf 32 → PluginState → SsuErr × PluginState}
    {allocateId : CString} {first last : ControllerState × Logged PluginState}
    {rows : List ControllerAllocation}
    (run : ReleaseRun (recordDelete deleteNs) allocateId first rows last) :
    last.2.2 = first.2.2 ++
      rows.map fun row =>
        NamespaceCall.deleted row.info.ssuId row.info.nsId .ok := by
  induction run with
  | done => simp
  | delete _ _ _ deleted _ induction =>
      simp only [recordDelete, noted, Prod.mk.injEq] at deleted
      obtain ⟨fine, rfl⟩ := deleted
      rw [induction, fine, List.append_assoc]
      rfl

end Calls

section Steps

variable {plugin : SsuPluginOps PluginState} {ledger : Ledger}
  {state : ControllerState}

theorem Shows.of_sameTables {after : ControllerState}
    (shows : Shows ledger state)
    (allocations : after.allocations = state.allocations)
    (logdevs : after.logdevs = state.logdevs) : Shows ledger after where
  extents allocateId := by
    rw [allocations]
    exact shows.extents allocateId
  mounts := by
    rw [logdevs]
    exact shows.mounts

@[simp] theorem asCreated_setRowState (allocateId : CString)
    (newState : CBuf 16) (row : ControllerAllocation) :
    asCreated (setRowState allocateId newState row) = asCreated row := by
  unfold setRowState asCreated
  split <;> rfl

@[simp] theorem rowHasId_setRowState (allocateId other : CString)
    (newState : CBuf 16) (row : ControllerAllocation) :
    rowHasId other (setRowState allocateId newState row) =
      rowHasId other row := by
  simp [rowHasId]

/-- Row states are not part of the records. -/
theorem Shows.setStates (shows : Shows ledger state) (allocateId : CString)
    (newState : CBuf 16) :
    Shows ledger (setAllocationState state allocateId newState) where
  extents other := by
    rw [setAllocationState_rows, List.filter_map, List.map_map]
    simpa [Function.comp_def] using shows.extents other
  mounts := shows.mounts

theorem Shows.created (shows : Shows ledger state) {req : SsuAllocReq}
    {ctx : AllocContext} {number : UInt64} {selected : List Nat}
    (plan : AllocPlan req state ctx number selected)
    {createNs : SsuExtentCreateReq → PluginState → CreateNsAnswer × PluginState}
    {world : Logged PluginState}
    {entries : List (Nat × ControllerAllocation)}
    {last : ControllerState × Logged PluginState}
    (run : ExtentRun (recordCreate createNs) ctx selected 0 0
      (numbered state number, world) entries last)
    {calls : List NamespaceCall}
    (records : calls.filterMap (createdExtent ctx.req) =
      entries.map fun entry => asCreated entry.2) :
    Shows
      { ledger with
        extents := ledger.extents ++ calls.filterMap (createdExtent req) }
      last.1 where
  extents allocateId := by
    rw [← plan.request, records, List.filter_append]
    have newIds : ∀ entry ∈ entries,
        (asCreated entry.2).allocateId = ctx.allocateId :=
      fun entry member => (run.written entry member).allocateId
    by_cases own : ctx.allocateId.chars = allocateId
    · subst own
      have unused : ∀ row ∈ state.allocations.rows,
          rowHasId ctx.allocateId.chars row = false := fun row member => by
        rw [← Bool.not_eq_true, rowHasId_iff]
        exact plan.unused member
      have none : state.allocations.rows.filter
          (rowHasId ctx.allocateId.chars) = [] := by
        simpa [List.filter_eq_nil_iff] using unused
      have inOrder := run.filter_rows_own fun free _ slot row active owned => by
        rw [unused row (SlotTable.mem_rows_of_get active)] at owned
        contradiction
      have all : (entries.map fun entry => asCreated entry.2).filter
            (extentHasId ctx.allocateId.chars) =
          entries.map fun entry => asCreated entry.2 := by
        refine List.filter_eq_self.mpr fun extent member => ?_
        obtain ⟨entry, entryMember, rfl⟩ := List.mem_map.mp member
        simp [extentHasId, newIds entry entryMember]
      rw [all, ← shows.extents, inOrder, List.map_append]
      simp [numbered, none]
    · have others : (entries.map fun entry => asCreated entry.2).filter
          (extentHasId allocateId) = [] := by
        refine List.filter_eq_nil_iff.mpr fun extent member => ?_
        obtain ⟨entry, entryMember, rfl⟩ := List.mem_map.mp member
        simp [extentHasId, newIds entry entryMember, own]
      rw [others, List.append_nil, run.filter_rows_other own]
      exact shows.extents allocateId
  mounts := by
    rw [run.logdevs]
    exact shows.mounts

/-- Taking the deleted rows out one by one, the oldest first. -/
theorem foldl_deleteExtent (allocateId : CString)
    (rows : List ControllerAllocation)
    (owned : ∀ row ∈ rows, rowHasId allocateId row = true)
    {extents rest : List SsuAllocationInfo}
    (listed : extents.filter (extentHasId allocateId) =
      rows.map asCreated ++ rest) :
    let remaining := (rows.map fun row =>
        NamespaceCall.deleted row.info.ssuId row.info.nsId .ok).foldl
      (deleteExtent allocateId) extents
    remaining.filter (extentHasId allocateId) = rest ∧
      ∀ other, allocateId ≠ other →
        remaining.filter (extentHasId other) =
          extents.filter (extentHasId other) := by
  induction rows generalizing extents with
  | nil => exact ⟨listed, fun _ _ => rfl⟩
  | cons row rows induction =>
      obtain ⟨ownedRow, ownedRows⟩ := List.forall_mem_cons.mp owned
      have named : row.info.allocateId.chars = allocateId :=
        of_decide_eq_true ownedRow
      let matching : SsuAllocationInfo → Bool := fun extent =>
        extentHasId allocateId extent && decide (extent.ssuId = row.info.ssuId)
          && decide (extent.nsId = row.info.nsId)
      have inside : ∀ extent, matching extent = true →
          extentHasId allocateId extent = true := by
        intro extent matched
        simp only [matching, Bool.and_eq_true] at matched
        exact matched.1.1
      have matched : matching (asCreated row) = true := by
        simp [matching, extentHasId, asCreated, named]
      obtain ⟨own, others⟩ := induction ownedRows
        (Grouping.filter_eraseP_first inside matched listed)
      refine ⟨own, fun other different => ?_⟩
      refine (others other different).trans ?_
      refine Grouping.filter_eraseP_other fun extent same => ?_
      have id := of_decide_eq_true (inside extent same)
      simp [extentHasId, id, different]

theorem Shows.released (shows : Shows ledger state) {allocateId : CString}
    {deleteNs : CBuf 64 → CBuf 32 → PluginState → SsuErr × PluginState}
    {world : Logged PluginState} {rows : List ControllerAllocation}
    {last : ControllerState × Logged PluginState}
    (run : ReleaseRun (recordDelete deleteNs) allocateId (state, world) rows
      last) :
    Shows
      { ledger with
        extents := (rows.map fun row =>
            NamespaceCall.deleted row.info.ssuId row.info.nsId .ok).foldl
          (deleteExtent allocateId) ledger.extents }
      last.1 := by
  have listed := shows.extents allocateId
  rw [run.filter_rows_own, List.map_append] at listed
  obtain ⟨own, others⟩ := foldl_deleteExtent allocateId rows run.owned
    listed.symm
  refine ⟨fun other => ?_, ?_⟩
  · by_cases same : allocateId = other
    · subst same
      exact own.symm
    · rw [others other same, run.filter_rows_other same]
      exact shows.extents other
  · rw [run.logdevs]
    exact shows.mounts

theorem Shows.mounted (shows : Shows ledger state) {req : SsuMountReq}
    {connected : List (ControllerAllocation × Nat × CBuf 64)}
    (checked : MountChecked req state connected) :
    Shows
      { ledger with
        mounts := ledger.mounts ++
          (ledger.extents.filter (extentHasId req.allocateId)).map
            (mountedExtent req) }
      (recordMount req connected state) := by
  refine ⟨(shows.setStates req.allocateId mountedState).extents, ?_⟩
  have rows := ((recordMount_logdevs checked).map asMounted)
  have entered : connected.map (fun entry =>
        asMounted (logdevRow req entry.1 entry.2.2)) =
      (ledger.extents.filter (extentHasId req.allocateId)).map
        (mountedExtent req) := by
    rw [← shows.extents, ← checked.rows, List.map_map, List.map_map]
    refine List.map_congr_left fun entry member => ?_
    have source : entry.1 ∈ state.allocations.rows.filter
        (rowHasId req.allocateId) := by
      rw [← checked.rows]
      exact List.mem_map_of_mem member
    have named : entry.1.info.allocateId.chars = req.allocateId :=
      of_decide_eq_true (List.mem_filter.mp source).2
    have id : copyCstr 64 req.allocateId = entry.1.info.allocateId := by
      rw [← named, copyCstr_chars_self]
    simp [asMounted, logdevRow, mountedExtent, asCreated, id]
  rw [List.map_append, List.map_map] at rows
  refine rows.trans ?_
  rw [Function.comp_def, entered]
  exact List.perm_append_comm.trans (shows.mounts.append_right _)

theorem filter_asMounted (rows : List SsuLogdevInfo) (logicalDev : CString) :
    (rows.map asMounted).filter (fun mounted =>
        mounted.logicalDev.chars ≠ logicalDev) =
      (rows.filter fun logdev => !logdevHasDev logicalDev logdev).map
        asMounted := by
  rw [List.filter_map]
  congr 1
  refine List.filter_congr fun logdev _ => ?_
  by_cases same : logdev.logicalDev.chars = logicalDev <;>
    simp [asMounted, logdevHasDev, same]

theorem Shows.unmounted (shows : Shows ledger state) {logicalDev : CString}
    {after : ControllerState}
    (allocations : ∀ allocateId,
      (after.allocations.rows.filter (rowHasId allocateId)).map asCreated =
        (state.allocations.rows.filter (rowHasId allocateId)).map asCreated)
    (logdevs : after.logdevs.rows =
      state.logdevs.rows.filter fun logdev =>
        !logdevHasDev logicalDev logdev) :
    Shows
      { ledger with
        mounts := ledger.mounts.filter fun mounted =>
          mounted.logicalDev.chars ≠ logicalDev } after where
  extents allocateId := (allocations allocateId).trans
    (shows.extents allocateId)
  mounts := by
    rw [logdevs, ← filter_asMounted]
    exact shows.mounts.filter _

theorem Shows.alloc (shows : Shows ledger state) (named : LogdevsNamed state)
    {world : PluginState} {req : SsuAllocReq} {buffer : ExtentBuffer}
    {result : AllocAnswer × ControllerState × Logged PluginState}
    (outcome : AllocOutcome (recording plugin) req state (world, []) result) :
    Shows (ledger.enter
      { op := .alloc req buffer, status := result.1.err,
        calls := result.2.2.2 }) result.2.1 := by
  cases outcome with
  | refused number failed =>
      simp only [Ledger.enter, failed, if_false]
      exact shows.of_sameTables rfl rfl
  | reused =>
      simp only [Ledger.enter, List.filterMap_nil, List.append_nil]
      split <;> exact shows
  | undone provided plan parts run stopped failed =>
      simp only [Ledger.enter, failed, if_false]
      obtain ⟨allocations, logdevs⟩ :=
        AllocOutcome.undone_tables _ _ plan named run
      exact shows.of_sameTables allocations logdevs
  | created provided plan run answered _ =>
      obtain ⟨createNs, rfl⟩ := recording_createNs provided
      obtain ⟨calls, logged, records⟩ := run.calls
      rw [List.nil_append] at logged
      simp only [Ledger.enter, answered, if_true, logged]
      exact (shows.created plan run records).of_sameTables rfl rfl

theorem Shows.release (shows : Shows ledger state) {world : PluginState}
    {allocateId : CString}
    {result : SsuErr × ControllerState × Logged PluginState}
    (outcome : ReleaseOutcome (recording plugin) allocateId state (world, [])
      result) :
    Shows (ledger.enter
      { op := .release allocateId, status := result.1,
        calls := result.2.2.2 }) result.2.1 := by
  cases outcome with
  | refused => exact shows
  | stopped provided _ run _ _ stopped failed =>
      obtain ⟨deleteNs, rfl⟩ := recording_deleteNs provided
      have logged := run.calls
      simp only [recordDelete, noted, Prod.mk.injEq] at stopped
      obtain ⟨refusal, rfl⟩ := stopped
      rw [List.nil_append] at logged
      simp only [Ledger.enter, logged, refusal, List.foldl_append,
        List.foldl_cons, List.foldl_nil]
      -- The refused deletion takes nothing out.
      have ignored : ∀ extents ssuId nsId,
          deleteExtent allocateId extents (.deleted ssuId nsId _) = extents :=
        fun _ _ _ => by
          unfold deleteExtent
          split
          · rename_i same
            exact (failed (NamespaceCall.deleted.inj same).2.2).elim
          · rfl
      rw [ignored]
      exact shows.released run
  | released provided _ run _ _ =>
      obtain ⟨deleteNs, rfl⟩ := recording_deleteNs provided
      have logged := run.calls
      rw [List.nil_append] at logged
      simp only [Ledger.enter, logged]
      exact (shows.released run).of_sameTables
        (rememberReleasedId_allocations _ _) (rememberReleasedId_logdevs _ _)
  | absent => exact shows

theorem Shows.mount (shows : Shows ledger state) {world : Logged PluginState}
    {req : SsuMountReq} {calls : List NamespaceCall}
    {result : SsuErr × ControllerState × Logged PluginState}
    (outcome : MountOutcome (recording plugin) req state world result) :
    Shows (ledger.enter { op := .mount req, status := result.1, calls })
      result.2.1 := by
  cases outcome with
  | refused failed =>
      simp only [Ledger.enter, failed, if_false]
      exact shows
  | unconnected _ _ failed =>
      simp only [Ledger.enter, failed, if_false]
      exact shows
  | rejected _ _ _ _ failed =>
      simp only [Ledger.enter, failed, if_false]
      exact shows
  | mounted _ _ _ _ checked _ => exact shows.mounted checked

theorem Shows.unmount (shows : Shows ledger state)
    (named : LogdevsNamed state) {world : Logged PluginState}
    {logicalDev : CString} {calls : List NamespaceCall}
    {result : SsuErr × ControllerState × Logged PluginState}
    (outcome : UnmountOutcome (recording plugin) logicalDev state world
      result) :
    Shows (ledger.enter { op := .unmount logicalDev, status := result.1, calls })
      result.2.1 := by
  cases outcome with
  | refused failed =>
      simp only [Ledger.enter, failed, if_false]
      exact shows
  | rejected _ _ failed =>
      simp only [Ledger.enter, failed, if_false]
      exact shows
  | stale _ _ unknown =>
      simp only [Ledger.enter]
      split
      · refine shows.unmounted (fun _ => rfl) (List.filter_eq_self.mpr ?_).symm
        intro logdev member
        simp [logdevHasDev, unknown logdev member]
      · exact shows
  | unmounted _ found _ =>
      have member := (findLogdevByDev_some found).1
      refine shows.unmounted (fun other => ?_)
        (recordUnmount_logdevs _ _ _)
      rw [recordUnmount_rows _ named member, setAllocationState_rows,
        List.filter_map, List.map_map]
      simp [Function.comp_def]

theorem shows_recordStep (plugin : SsuPluginOps PluginState)
    (current : Recorded PluginState) (op : ControllerOp)
    (mounts : MountState current.state)
    (shows : Shows (ledgerOf current.history) current.state) :
    Shows (ledgerOf (recordStep plugin current op).history)
      (recordStep plugin current op).state := by
  obtain ⟨history, state, world⟩ := current
  cases op with
  | refreshPool =>
      obtain ⟨allocations, logdevs⟩ :=
        refreshPool_tables (recording plugin) state (world, [])
      exact shows.of_sameTables allocations logdevs
  | alloc req buffer =>
      exact shows.alloc mounts.named
        (ssuControllerAlloc_outcome (recording plugin) req buffer state
          (world, []))
  | release allocateId =>
      exact shows.release (ssuControllerRelease_outcome (recording plugin)
        allocateId state (world, []))
  | mount req =>
      exact shows.mount (ssuControllerMount_outcome (recording plugin) req
        state (world, []))
  | unmount logicalDev =>
      exact shows.unmount mounts.named
        (ssuControllerUnmount_outcome (recording plugin) logicalDev state
          (world, []))

end Steps

section Views

variable {ledger : Ledger} {state : ControllerState}

theorem Shows.extents_perm (shows : Shows ledger state) :
    (state.allocations.rows.map asCreated).Perm ledger.extents := by
  refine Grouping.perm_of_groups
    (fun extent : SsuAllocationInfo => extent.allocateId.chars) fun id => ?_
  rw [List.filter_map]
  exact shows.extents id

theorem Shows.isMounted_iff (shows : Shows ledger state)
    {allocateId : CBuf 64} :
    IsMounted state allocateId ↔
      allocateId ∈ ledger.mounts.map MountedExtent.allocateId := by
  rw [← (shows.mounts.map MountedExtent.allocateId).mem_iff]
  simp [IsMounted, asMounted]

/-- A row is its record with the state that the ledger's mounts give it. -/
theorem Shows.stamped_asCreated (shows : Shows ledger state)
    (mounts : MountState state) {row : ControllerAllocation}
    (member : row ∈ state.allocations.rows) :
    ledger.stamped (asCreated row) = row.info := by
  unfold Ledger.stamped asCreated
  by_cases mounted : IsMounted state row.info.allocateId
  · rw [if_pos (shows.isMounted_iff.mp mounted),
      ← mounts.mountedState row member mounted]
  · rw [if_neg (mt shows.isMounted_iff.mpr mounted),
      ← mounts.activeState row member mounted]

theorem Shows.rows_perm (shows : Shows ledger state)
    (mounts : MountState state) :
    (state.allocations.rows.map ControllerAllocation.info).Perm
      (ledger.extents.map ledger.stamped) := by
  have stamped := shows.extents_perm.map ledger.stamped
  rw [List.map_map] at stamped
  have rows : state.allocations.rows.map (ledger.stamped ∘ asCreated) =
      state.allocations.rows.map ControllerAllocation.info :=
    List.map_congr_left fun _ member => shows.stamped_asCreated mounts member
  rwa [rows] at stamped

end Views

section Runs

/-- The invariant of a recorded run. -/
structure Faithful (current : Recorded PluginState) : Prop where
  mounts : MountState current.state
  shows : Shows (ledgerOf current.history) current.state

theorem mountState_recordStep (plugin : SsuPluginOps PluginState)
    (current : Recorded PluginState) (op : ControllerOp)
    (mounts : MountState current.state) :
    MountState (recordStep plugin current op).state :=
  mountState_step (recording plugin) (current.state, (current.world, [])) op
    mounts

theorem faithful_recordedRun (plugin : SsuPluginOps PluginState)
    (world : PluginState) (ops : List ControllerOp) :
    Faithful (recordedRun plugin world ops) :=
  Transition.run_invariant_always Faithful
    (fun current op holds =>
      ⟨mountState_recordStep plugin current op holds.mounts,
        shows_recordStep plugin current op holds.mounts holds.shows⟩)
    ⟨mountState_initial,
      ⟨by simp [ControllerState.initial, ledgerOf],
        by simp [ControllerState.initial, ledgerOf]⟩⟩ ops

/-- For every run with any plugin answers: the allocation query returns the
records that successful allocations entered and deleted namespaces have not
taken out, the logical-device query one row for each extent of each mount that
was not undone, each exactly once. -/
theorem queries_show_history (plugin : SsuPluginOps PluginState)
    (world : PluginState) (ops : List ControllerOp) :
    let last := recordedRun plugin world ops
    let ledger := ledgerOf last.history
    (last.state, last.world) =
        Transition.run (step plugin) (.initial, world) ops ∧
      (∃ rows, rows.Perm (ledger.extents.map ledger.stamped) ∧
        ∀ capacity, ssuControllerQueryAllocations last.state true capacity =
          if rows.length ≤ capacity.toNat then
            { err := .ok, rows := some rows
              count := UInt32.ofNat rows.length }
          else
            { err := .bufferTooSmall, rows := none
              count := UInt32.ofNat rows.length }) ∧
      ∃ rows, (rows.map asMounted).Perm ledger.mounts ∧
        ∀ capacity, ssuControllerQueryLogdevs last.state true capacity =
          if rows.length ≤ capacity.toNat then
            { err := .ok, rows := some rows
              count := UInt32.ofNat rows.length }
          else
            { err := .bufferTooSmall, rows := none
              count := UInt32.ofNat rows.length } := by
  intro last ledger
  have faithful : Faithful last := faithful_recordedRun plugin world ops
  exact ⟨recordedRun_plain plugin world ops,
    ⟨_, faithful.shows.rows_perm faithful.mounts,
      fun capacity => queryRows_present _ capacity⟩,
    ⟨_, faithful.shows.mounts, fun capacity => queryRows_present _ capacity⟩⟩

end Runs

end UbseSsu.Controller

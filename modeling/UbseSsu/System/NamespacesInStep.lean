import UbseSsu.Controller.OwnRows
import UbseSsu.Controller.SystemInvariant
import UbseSsu.Library.Ledger

/-!
# The controller's rows and the plugin's namespaces

Over any plugin that adds and removes one namespace at a time, the rows of the
controller are the live namespaces exactly as long as no `delete_ns` of a
failed allocation's rollback has failed: the rollback frees the row without
looking at the status.
-/

namespace UbseSsu.System

open Controller Stored

variable {PluginState : Type}

structure Namespace where
  allocateId : CBuf 64
  ssuId : CBuf 64
  nsId : CBuf 32
  length : UInt64
deriving DecidableEq

/-- By what `delete_ns` finds a namespace. -/
def Namespace.name (ns : Namespace) : CBuf 64 × CBuf 32 :=
  (ns.ssuId, ns.nsId)

def createdNamespace (extentReq : SsuExtentCreateReq)
    (answer : CreateNsAnswer) : Namespace :=
  { allocateId := extentReq.allocateId
    ssuId := extentReq.ssuId
    nsId := answer.nsId
    length := extentReq.length }

def rowNamespace (row : ControllerAllocation) : Namespace :=
  { allocateId := row.info.allocateId
    ssuId := row.info.ssuId
    nsId := row.info.nsId
    length := row.info.length }

def rowNamespaces (state : ControllerState) : List Namespace :=
  state.allocations.rows.map rowNamespace

/-- `create_ns` fails without effect or adds one namespace under a new name,
`delete_ns` fails without effect or removes the named one, and nothing else
touches a namespace. -/
structure KeepsNamespaces (plugin : SsuPluginOps PluginState)
    (live : PluginState → Set Namespace) : Prop where
  discover : ∀ {discover}, plugin.discover = some discover →
    ∀ world, live (discover world).2 = live world
  connect : ∀ {connect}, plugin.connect = some connect →
    ∀ ssuId world, live (connect ssuId world).2 = live world
  healthCheck : ∀ {healthCheck}, plugin.healthCheck = some healthCheck →
    ∀ ssuId world, live (healthCheck ssuId world).2 = live world
  mount : ∀ {mount}, plugin.mount = some mount →
    ∀ allocateId hostId logicalDev world,
      live (mount allocateId hostId logicalDev world).2 = live world
  unmount : ∀ {unmount}, plugin.unmount = some unmount →
    ∀ logicalDev world, live (unmount logicalDev world).2 = live world
  refused : ∀ {createNs}, plugin.createNs = some createNs →
    ∀ extentReq world, (createNs extentReq world).1.err ≠ .ok →
      live (createNs extentReq world).2 = live world
  created : ∀ {createNs}, plugin.createNs = some createNs →
    ∀ extentReq world, (createNs extentReq world).1.err = .ok →
      (∀ ns ∈ live world, ns.name ≠
        (createdNamespace extentReq (createNs extentReq world).1).name) ∧
      live (createNs extentReq world).2 =
        insert (createdNamespace extentReq (createNs extentReq world).1)
          (live world)
  deletes : plugin.deleteNs.isSome = true
  kept : ∀ {deleteNs}, plugin.deleteNs = some deleteNs →
    ∀ ssuId nsId world, (deleteNs ssuId nsId world).1 ≠ .ok →
      live (deleteNs ssuId nsId world).2 = live world
  deleted : ∀ {deleteNs}, plugin.deleteNs = some deleteNs →
    ∀ ssuId nsId world, (deleteNs ssuId nsId world).1 = .ok →
      live (deleteNs ssuId nsId world).2 =
        {ns ∈ live world | ns.name ≠ (ssuId, nsId)}

/-- The same namespaces on both sides. -/
def NamespacesInStep (live : PluginState → Set Namespace)
    (state : ControllerState) (world : PluginState) : Prop :=
  live world = {ns | ns ∈ rowNamespaces state}

def deleteSucceeded : NamespaceCall → Bool
  | .created _ _ => true
  | .deleted _ _ err => err = .ok

/-- An allocation calls `delete_ns` in its rollback only. -/
def rollbackDeletes (entry : HistoryEntry) : Bool :=
  match entry.op with
  | .alloc _ _ => entry.calls.all deleteSucceeded
  | _ => true

/-- No allocation had to leave a namespace behind: `delete_ns` succeeded in
every rollback. -/
def RollbacksDelete (history : List HistoryEntry) : Prop :=
  ∀ entry ∈ history, rollbackDeletes entry = true

instance (history : List HistoryEntry) : Decidable (RollbacksDelete history) :=
  inferInstanceAs (Decidable (∀ _ ∈ _, _))

section Extents

variable {plugin : SsuPluginOps PluginState}
  {live : PluginState → Set Namespace} {base : Prop}

/-- The ledger within one operation, whose calls so far are in the log. -/
def Tracked (live : PluginState → Set Namespace) (base : Prop)
    (state : ControllerState) (world : Logged PluginState) : Prop :=
  Ledger Namespace.name (live world.1) (rowNamespaces state)
    (base ∧ world.2.all deleteSucceeded = true)

theorem rowNamespaces_addExtent {state : ControllerState} {slot : Nat}
    (free : state.allocations.firstFree = some slot) (poolIndex : Nat)
    (ctx : AllocContext) (resource : SsuResourceInfo) (index : Nat)
    (offset : UInt64) (answer : CreateNsAnswer) :
    (rowNamespaces (addExtent state slot poolIndex
        (ctx.row (ctx.extentReq resource index offset) answer))).Perm
      (createdNamespace (ctx.extentReq resource index offset) answer ::
        rowNamespaces state) := by
  obtain ⟨bound, isFree⟩ := SlotTable.get_firstFree free
  exact (SlotTable.rows_put_perm bound isFree).map rowNamespace

theorem rowNamespaces_dropExtent {state : ControllerState} {slot : Nat}
    {row : ControllerAllocation}
    (active : state.allocations.get slot = some row) :
    (rowNamespaces state).Perm
      (rowNamespace row :: rowNamespaces (dropExtent state slot row)) := by
  simp only [rowNamespaces, dropExtent_allocations]
  exact (SlotTable.rows_perm_clear active).map rowNamespace

variable (keeps : KeepsNamespaces plugin live)
include keeps

theorem tracked_refused {createNs}
    (provided : plugin.createNs = some createNs)
    {extentReq : SsuExtentCreateReq} {state : ControllerState}
    {world : Logged PluginState} (tracked : Tracked live base state world)
    (refused : (recordCreate createNs extentReq world).1.err ≠ .ok) :
    Tracked live base state (recordCreate createNs extentReq world).2 := by
  have same : live (recordCreate createNs extentReq world).2.1 =
      live world.1 := keeps.refused provided extentReq world.1 refused
  unfold Tracked
  rw [same]
  apply tracked.congr
  simp [recordCreate, noted, deleteSucceeded]

theorem tracked_placed {createNs}
    (provided : plugin.createNs = some createNs) {ctx : AllocContext}
    {poolIndexes : List Nat} {index : Nat} {offset : UInt64}
    {first last : ControllerState × Logged PluginState}
    {entries : List (Nat × ControllerAllocation)}
    (run : ExtentRun (recordCreate createNs) ctx poolIndexes index offset first
      entries last)
    (tracked : Tracked live base first.1 first.2) :
    Tracked live base last.1 last.2 := by
  induction run with
  | done => exact tracked
  | @place state world after slot poolIndex index offset resource answer _ _ _
      checked answered accepted _ induction =>
      apply induction
      cases answered
      obtain ⟨fresh, grown⟩ := keeps.created provided
        (ctx.extentReq resource index offset) world.1 accepted
      have arrived := tracked.create fresh
      rw [← grown] at arrived
      have listed := rowNamespaces_addExtent checked.free poolIndex ctx
        resource index offset
        (createNs (ctx.extentReq resource index offset) world.1).1
      apply (arrived.perm listed.symm).congr
      simp [deleteSucceeded]

theorem tracked_rollback (slots : List Nat) {state : ControllerState}
    {world : Logged PluginState} (tracked : Tracked live base state world) :
    Tracked live base
      (rollbackExtents (recording plugin) slots state world).1
      (rollbackExtents (recording plugin) slots state world).2 := by
  induction slots generalizing state world with
  | nil => exact tracked
  | cons slot slots induction =>
      unfold rollbackExtents
      split
      · exact induction tracked
      · rename_i row active
        apply induction
        have held := tracked.perm (rowNamespaces_dropExtent active)
        obtain ⟨deleteNs, provided⟩ := Option.isSome_iff_exists.mp keeps.deletes
        have recorded : (recording plugin).deleteNs =
            some (recordDelete deleteNs) := by
          simp [recording, provided]
        simp only [rollbackDelete, recorded]
        by_cases ok :
            (deleteNs row.info.ssuId row.info.nsId world.1).1 = .ok
        · have shrunk := keeps.deleted provided _ _ world.1 ok
          have removed := held.delete
          unfold Tracked
          rw [show live (recordDelete deleteNs row.info.ssuId row.info.nsId
            world).2.1 = _ from shrunk]
          apply removed.congr
          simp [recordDelete, noted, deleteSucceeded, ok]
        · have same := keeps.kept provided _ _ world.1 ok
          have orphaned := held.orphan
          unfold Tracked
          rw [show live (recordDelete deleteNs row.info.ssuId row.info.nsId
            world).2.1 = _ from same]
          apply orphaned.congr
          simp [recordDelete, noted, deleteSucceeded, ok]

theorem tracked_alloc (req : SsuAllocReq) (buffer : ExtentBuffer)
    {state : ControllerState} {world : Logged PluginState}
    (tracked : Tracked live base state world) :
    Tracked live base
      (ssuControllerAlloc (recording plugin) req buffer state world).2.1
      (ssuControllerAlloc (recording plugin) req buffer state world).2.2 := by
  have creates : ∀ {createNs}, (recording plugin).createNs = some createNs →
      ∃ plainly, plugin.createNs = some plainly ∧
        createNs = recordCreate plainly := by
    intro createNs provided
    obtain ⟨plainly, given, same⟩ := Option.map_eq_some_iff.mp provided
    exact ⟨plainly, given, same.symm⟩
  have outcome := ssuControllerAlloc_outcome (recording plugin) req buffer
    state world
  generalize ssuControllerAlloc (recording plugin) req buffer state world =
    result at outcome
  cases outcome with
  | refused => exact tracked
  | reused => exact tracked
  | @undone _ provided _ _ number _ _ _ _ last _ plan parts run stopped _ =>
      obtain ⟨createNs, given, rfl⟩ := creates provided
      have placed : Tracked live base last.1 last.2 :=
        tracked_placed keeps given run tracked
      apply tracked_rollback keeps
      rcases stopped with rfl | ⟨extentReq, refused, rfl⟩
      · exact placed
      · exact tracked_refused keeps given placed refused
  | @created _ provided _ _ _ _ _ last plan run _ _ =>
      obtain ⟨createNs, given, rfl⟩ := creates provided
      have placed : Tracked live base last.1 last.2 :=
        tracked_placed keeps given run tracked
      exact placed

end Extents

section OtherOperations

variable {plugin : SsuPluginOps PluginState}
  {live : PluginState → Set Namespace} {clean : Prop}

theorem rowNamespaces_setAllocationState (state : ControllerState)
    (allocateId : CString) (newState : CBuf 16) :
    rowNamespaces (setAllocationState state allocateId newState) =
      rowNamespaces state := by
  have same : ∀ row,
      rowNamespace (setRowState allocateId newState row) = rowNamespace row := by
    intro row
    unfold setRowState
    split <;> rfl
  simp [rowNamespaces, Function.comp_def, same]

theorem rowNamespaces_recordUnmount (state : ControllerState)
    (logicalDev allocateId : CString) :
    rowNamespaces (recordUnmount logicalDev allocateId state) =
      rowNamespaces state := by
  unfold recordUnmount
  simp only
  split
  · exact rowNamespaces_setAllocationState _ _ _
  · rfl

variable (keeps : KeepsNamespaces plugin live)
include keeps

theorem live_connectReach {connect} (provided : plugin.connect = some connect)
    {before after : PluginState} (reached : ConnectReach connect before after) :
    live after = live before := by
  induction reached with
  | refl => rfl
  | tail _ last induction =>
      obtain ⟨ssuId, rfl⟩ := last
      exact (keeps.connect provided ssuId _).trans induction

theorem live_refreshPool (state : ControllerState) (world : PluginState) :
    live (ssuControllerRefreshPool plugin state world).2.2 = live world := by
  have preserved : PoolPreserved plugin
      (fun _ later => live later = live world) :=
    { discovered := fun provided _ later same =>
        (keeps.discover provided later).trans same
      checked := fun provided _ later ssuId same =>
        (keeps.healthCheck provided ssuId later).trans same
      pooled := fun _ _ _ same => same }
  exact @PoolPreserved.refreshPool _ _ _ preserved state world rfl

theorem ledger_released {deleteNs}
    (provided : plugin.deleteNs = some deleteNs) {allocateId : CString}
    {first last : ControllerState × PluginState}
    {rows : List ControllerAllocation}
    (run : ReleaseRun deleteNs allocateId first rows last)
    (ledger : Ledger Namespace.name (live first.2) (rowNamespaces first.1)
      clean) :
    Ledger Namespace.name (live last.2) (rowNamespaces last.1) clean := by
  induction run with
  | done => exact ledger
  | @delete state world after slot row _ _ active _ _ deleted _ induction =>
      apply induction
      have removed := (ledger.perm (rowNamespaces_dropExtent active)).delete
      have shrunk := keeps.deleted provided row.info.ssuId row.info.nsId world
        (congrArg Prod.fst deleted)
      rw [deleted] at shrunk
      exact shrunk ▸ removed

/-- Everything but an allocation keeps the ledger. -/
theorem ledger_step {op : ControllerOp}
    (notAlloc : ∀ req buffer, op ≠ .alloc req buffer)
    {current : ControllerState × PluginState}
    (ledger : Ledger Namespace.name (live current.2) (rowNamespaces current.1)
      clean) :
    Ledger Namespace.name (live (step plugin current op).2)
      (rowNamespaces (step plugin current op).1) clean := by
  obtain ⟨state, world⟩ := current
  cases op with
  | alloc req buffer => exact (notAlloc req buffer rfl).elim
  | release allocateId =>
      have outcome := ssuControllerRelease_outcome plugin allocateId state world
      simp only [step, exec]
      generalize ssuControllerRelease plugin allocateId state world = answer
        at outcome ⊢
      cases outcome with
      | refused => exact ledger
      | @stopped _ provided _ _ last run row _ _ _ _ stopped failed =>
          have released := ledger_released keeps provided run ledger
          have same := keeps.kept provided row.info.ssuId row.info.nsId last.2
            (by rw [stopped]; exact failed)
          rw [stopped] at same
          exact same ▸ released
      | @released _ provided _ _ last run _ _ =>
          have released := ledger_released keeps provided run ledger
          have rows : rowNamespaces (rememberReleasedId last.1 allocateId) =
              rowNamespaces last.1 := by
            simp [rowNamespaces]
          exact rows ▸ released
      | absent => exact ledger
  | refreshPool =>
      have same := live_refreshPool keeps state world
      have rows : rowNamespaces
          (ssuControllerRefreshPool plugin state world).2.1 =
            rowNamespaces state := by
        rcases refreshPool_outcome plugin state world with kept |
          ⟨_, _, _, _, rebuilt⟩
        · rw [kept]
        · rw [rebuilt]
          rfl
      simp only [step, exec, same, rows]
      exact ledger
  | mount req =>
      have outcome := ssuControllerMount_outcome plugin req state world
      simp only [step, exec]
      generalize ssuControllerMount plugin req state world = answer at outcome ⊢
      cases outcome with
      | refused => exact ledger
      | unconnected provided reached _ =>
          have same := live_connectReach keeps provided reached
          exact same ▸ ledger
      | @rejected _ _ provided mounts _ middle _ reached rejected _ =>
          have same := live_connectReach keeps provided reached
          have called := keeps.mount mounts req.allocateId req.hostId
            req.logicalDev middle
          rw [rejected, same] at called
          exact called ▸ ledger
      | @mounted _ _ provided mounts _ middle _ reached _ _ accepted =>
          have same := live_connectReach keeps provided reached
          have called := keeps.mount mounts req.allocateId req.hostId
            req.logicalDev middle
          rw [accepted, same] at called
          simp only [recordMount, rowNamespaces_setAllocationState]
          exact called ▸ ledger
  | unmount logicalDev =>
      have outcome := ssuControllerUnmount_outcome plugin logicalDev state world
      simp only [step, exec]
      generalize ssuControllerUnmount plugin logicalDev state world = answer
        at outcome ⊢
      cases outcome with
      | refused => exact ledger
      | stale provided _ _ =>
          have called := keeps.unmount provided logicalDev world
          exact called ▸ ledger
      | rejected provided _ _ =>
          have called := keeps.unmount provided logicalDev world
          exact called ▸ ledger
      | unmounted provided _ accepted =>
          have called := keeps.unmount provided logicalDev world
          rw [accepted] at called
          simp only [rowNamespaces_recordUnmount]
          exact called ▸ ledger

end OtherOperations

section Runs

variable {plugin : SsuPluginOps PluginState}
  {live : PluginState → Set Namespace}

theorem rollbacksDelete_cons {entry : HistoryEntry}
    {history : List HistoryEntry} :
    RollbacksDelete (entry :: history) ↔
      RollbacksDelete history ∧ rollbackDeletes entry = true := by
  unfold RollbacksDelete
  rw [List.forall_mem_cons]
  exact and_comm

/-- The ledger of a recorded run. -/
def Ledgered (live : PluginState → Set Namespace)
    (current : Recorded PluginState) : Prop :=
  Ledger Namespace.name (live current.world) (rowNamespaces current.state)
    (RollbacksDelete current.history)

theorem ledgered_step (keeps : KeepsNamespaces plugin live)
    (current : Recorded PluginState) (op : ControllerOp)
    (ledgered : Ledgered live current) :
    Ledgered live (recordStep plugin current op) := by
  by_cases isAlloc : ∃ req buffer, op = .alloc req buffer
  · obtain ⟨req, buffer, rfl⟩ := isAlloc
    have start : Tracked live (RollbacksDelete current.history) current.state
        (current.world, []) := by
      apply ledgered.congr
      simp
    have tracked := tracked_alloc keeps req buffer start
    apply tracked.congr
    rw [recordStep_history, rollbacksDelete_cons]
    rfl
  · have plainly := recordStep_plain plugin current op
    have before : Ledger Namespace.name (live (current.state, current.world).2)
        (rowNamespaces (current.state, current.world).1)
        (RollbacksDelete current.history) := ledgered
    have kept := ledger_step keeps
      (fun req buffer same => isAlloc ⟨req, buffer, same⟩) before
    rw [← plainly] at kept
    apply kept.congr
    rw [recordStep_history, rollbacksDelete_cons]
    cases op with
    | alloc req buffer => exact (isAlloc ⟨req, buffer, rfl⟩).elim
    | _ => exact (and_iff_left rfl).symm

/-- In every run of controller operations: the rows are the live namespaces
exactly when no `delete_ns` of a rollback failed. -/
theorem namespaces_in_step_iff (keeps : KeepsNamespaces plugin live)
    (initial : PluginState) (empty : live initial = ∅)
    (ops : List ControllerOp) :
    NamespacesInStep live
        (Transition.run (step plugin) (.initial, initial) ops).1
        (Transition.run (step plugin) (.initial, initial) ops).2 ↔
      RollbacksDelete (recordedRun plugin initial ops).history := by
  have start : Ledgered live ⟨[], .initial, initial⟩ := by
    have rows : rowNamespaces .initial = [] := by
      simp [rowNamespaces, ControllerState.initial]
    unfold Ledgered
    rw [empty, rows]
    apply (Ledger.empty Namespace.name).congr
    constructor
    · intro _ entry member
      cases member
    · intro _
      trivial
  have ledgered : Ledgered live (recordedRun plugin initial ops) :=
    Transition.run_invariant_always (Ledgered live)
      (fun current op holds => ledgered_step keeps current op holds) start ops
  rw [← recordedRun_plain]
  exact ledgered.iff

/-- Two SSUs, room for one namespace, and a `delete_ns` that never works. -/
def stubbornPlugin : SsuPluginOps (Option Namespace) :=
  let ssu := fun name : String =>
    { ssuId := copyCstr 64 name.toList
      totalBytes := 8192
      usedBytes := 0
      state := onlineState
      hostId := copyCstr 64 "host0".toList : SsuResourceInfo }
  { discover := some fun world => ((.ok, [ssu "ssu0", ssu "ssu1"]), world)
    connect := none
    healthCheck := none
    createNs := some fun extentReq world =>
      match world with
      | some ns => ({ err := .noResource, nsId := .empty, physSector := 0 },
          some ns)
      | none =>
          let answer : CreateNsAnswer :=
            { err := .ok, nsId := copyCstr 32 "1".toList, physSector := 0 }
          (answer, some (createdNamespace extentReq answer))
    deleteNs := some fun _ _ world => (.io, world)
    mount := none
    unmount := none }

theorem stubborn_keepsNamespaces :
    KeepsNamespaces stubbornPlugin fun world => {ns | world = some ns} where
  discover provided world := by cases provided; rfl
  connect provided := by cases provided
  healthCheck provided := by cases provided
  mount provided := by cases provided
  unmount provided := by cases provided
  refused provided extentReq world failed := by
    cases provided
    cases world with
    | none => exact (failed rfl).elim
    | some ns => rfl
  created provided extentReq world accepted := by
    cases provided
    cases world with
    | none =>
        constructor
        · nofun
        · ext ns
          simp [eq_comm]
    | some ns => cases accepted
  deletes := rfl
  kept provided ssuId nsId world _ := by cases provided; rfl
  deleted provided ssuId nsId world ok := by cases provided; cases ok

def onDisks (count : UInt32) : ControllerOp :=
  .alloc { plainRequest 4096 [] with physicalDiskCount := count } ⟨true, 8⟩

/-- The same with a `delete_ns` that works. -/
def tidyPlugin : SsuPluginOps (Option Namespace) :=
  { stubbornPlugin with
    deleteNs := some fun ssuId nsId world =>
      (.ok, world.filter fun ns => ns.name ≠ (ssuId, nsId)) }

theorem tidy_keepsNamespaces :
    KeepsNamespaces tidyPlugin fun world => {ns | world = some ns} where
  discover := stubborn_keepsNamespaces.discover
  connect := stubborn_keepsNamespaces.connect
  healthCheck := stubborn_keepsNamespaces.healthCheck
  mount := stubborn_keepsNamespaces.mount
  unmount := stubborn_keepsNamespaces.unmount
  refused := stubborn_keepsNamespaces.refused
  created := stubborn_keepsNamespaces.created
  deletes := rfl
  kept provided ssuId nsId world failed := by
    cases provided
    exact (failed rfl).elim
  deleted provided ssuId nsId world _ := by
    cases provided
    ext ns
    simp [Option.filter_eq_some_iff]

/-- The second extent is refused and the first one deleted again, three calls
of the plugin; the disk that is allocated next has the only namespace. -/
def tidyRun : List ControllerOp :=
  [.refreshPool, onDisks 2, onDisks 1]

theorem tidy_in_step :
    (recordedRun tidyPlugin none tidyRun).history.map
        (fun entry => (entry.status, entry.calls.length)) =
      [(.ok, 1), (.noResource, 3), (.ok, 0)] ∧
      NamespacesInStep (fun world => {ns | world = some ns})
        (Transition.run (step tidyPlugin) (.initial, none) tidyRun).1
        (Transition.run (step tidyPlugin) (.initial, none) tidyRun).2 :=
  ⟨by decide +kernel,
    (namespaces_in_step_iff tidy_keepsNamespaces none (by ext; simp)
      tidyRun).mpr (by decide +kernel)⟩

/-- The second extent is refused and the first one cannot be deleted. -/
theorem stubborn_orphan :
    ¬NamespacesInStep (fun world => {ns | world = some ns})
      (Transition.run (step stubbornPlugin) (.initial, none)
        [.refreshPool, onDisks 2]).1
      (Transition.run (step stubbornPlugin) (.initial, none)
        [.refreshPool, onDisks 2]).2 := by
  intro same
  have rows : rowNamespaces (Transition.run (step stubbornPlugin)
      (.initial, none) [.refreshPool, onDisks 2]).1 = [] := by
    decide +kernel
  have alive : (Transition.run (step stubbornPlugin) (.initial, none)
      [.refreshPool, onDisks 2]).2.isSome = true := by
    decide +kernel
  generalize Transition.run (step stubbornPlugin) (.initial, none)
    [.refreshPool, onDisks 2] = final at same rows alive
  obtain ⟨ns, present⟩ := Option.isSome_iff_exists.mp alive
  have listed : ns ∈ rowNamespaces final.1 := same.subset present
  rw [rows] at listed
  cases listed

end Runs

end UbseSsu.System

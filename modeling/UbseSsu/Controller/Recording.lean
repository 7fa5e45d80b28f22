import UbseSsu.Controller.PoolRefresh

/-!
# Recording the namespace calls of a run

`recording plugin` answers like `plugin` and also notes every `create_ns` and
`delete_ns` with its answer.  The controller depends on a plugin through its
answers only, so a recorded run goes through the states of the plain one.
-/

namespace UbseSsu.Controller

variable {PluginState : Type}

inductive NamespaceCall where
  | created (extentReq : SsuExtentCreateReq) (answer : CreateNsAnswer)
  | deleted (ssuId : CBuf 64) (nsId : CBuf 32) (err : SsuErr)
deriving DecidableEq

abbrev Logged (PluginState : Type) := PluginState × List NamespaceCall

/-- A call that is not written down. -/
def silent {Answer : Type} (call : PluginState → Answer × PluginState)
    (world : Logged PluginState) : Answer × Logged PluginState :=
  ((call world.1).1, (call world.1).2, world.2)

def noted {Answer : Type} (note : Answer → NamespaceCall)
    (call : PluginState → Answer × PluginState)
    (world : Logged PluginState) : Answer × Logged PluginState :=
  ((call world.1).1, (call world.1).2, world.2 ++ [note (call world.1).1])

def recordCreate
    (createNs : SsuExtentCreateReq → PluginState → CreateNsAnswer × PluginState)
    (extentReq : SsuExtentCreateReq) :
    Logged PluginState → CreateNsAnswer × Logged PluginState :=
  noted (.created extentReq) (createNs extentReq)

def recordDelete
    (deleteNs : CBuf 64 → CBuf 32 → PluginState → SsuErr × PluginState)
    (ssuId : CBuf 64) (nsId : CBuf 32) :
    Logged PluginState → SsuErr × Logged PluginState :=
  noted (.deleted ssuId nsId) (deleteNs ssuId nsId)

def recording (plugin : SsuPluginOps PluginState) :
    SsuPluginOps (Logged PluginState) :=
  { discover := plugin.discover.map silent
    connect := plugin.connect.map fun connect ssuId => silent (connect ssuId)
    healthCheck := plugin.healthCheck.map fun healthCheck ssuId =>
      silent (healthCheck ssuId)
    createNs := plugin.createNs.map recordCreate
    deleteNs := plugin.deleteNs.map recordDelete
    mount := plugin.mount.map fun mount allocateId hostId logicalDev =>
      silent (mount allocateId hostId logicalDev)
    unmount := plugin.unmount.map fun unmount logicalDev =>
      silent (unmount logicalDev) }

section Transparent

/-- Results without the log. -/
def plain {Answer : Type} (result : Answer × Logged PluginState) :
    Answer × PluginState :=
  (result.1, result.2.1)

def plainStep {Answer : Type}
    (result : Answer × ControllerState × Logged PluginState) :
    Answer × ControllerState × PluginState :=
  (result.1, result.2.1, result.2.2.1)

def CreateResult.plain (result : CreateResult (Logged PluginState)) :
    CreateResult PluginState :=
  { err := result.err, created := result.created
    outExtents := result.outExtents, state := result.state
    world := result.world.1 }

def ReleaseResult.plain (result : ReleaseResult (Logged PluginState)) :
    ReleaseResult PluginState :=
  { err := result.err, found := result.found, state := result.state
    world := result.world.1 }

variable (plugin : SsuPluginOps PluginState) (state : ControllerState)
  (world : Logged PluginState)

theorem createExtents_plain
    (createNs : SsuExtentCreateReq → PluginState → CreateNsAnswer × PluginState)
    (ctx : AllocContext) (selected : List Nat) (index : Nat) (offset : UInt64)
    (created : List Nat) (extents : List SsuAllocExtent) :
    (createExtents (recordCreate createNs) ctx selected index offset created
        extents state world).plain =
      createExtents createNs ctx selected index offset created extents state
        world.1 := by
  induction selected generalizing index offset created extents state world with
  | nil => rfl
  | cons poolIndex selected induction =>
      cases free : state.allocations.firstFree with
      | none => simp only [createExtents, free, CreateResult.plain]
      | some slot =>
          cases pooled : state.pool.items[poolIndex]? with
          | none => simp only [createExtents, free, pooled, CreateResult.plain]
          | some resource =>
              simp only [createExtents, free, pooled, recordCreate, noted]
              split
              · rfl
              · split
                · rfl
                · by_cases refused : (createNs
                      (ctx.extentReq resource index offset)
                        world.1).1.err ≠ .ok
                  · rw [if_pos refused]
                    exact congrArg CreateResult.plain (if_pos refused)
                  · rw [if_neg refused]
                    exact (congrArg CreateResult.plain (if_neg refused)).trans
                      (induction ..)

theorem rollbackExtents_plain (created : List Nat) :
    plain (rollbackExtents (recording plugin) created state world) =
      rollbackExtents plugin created state world.1 := by
  induction created generalizing state world with
  | nil => rfl
  | cons slot created induction =>
      cases active : state.allocations.get slot with
      | none => simpa only [rollbackExtents, active] using induction state world
      | some row =>
          have deleted : (rollbackDelete (recording plugin) row world).1 =
              rollbackDelete plugin row world.1 := by
            unfold rollbackDelete recording
            cases plugin.deleteNs <;> rfl
          simpa only [rollbackExtents, active, deleted] using
            induction (dropExtent state slot row)
              (rollbackDelete (recording plugin) row world)

theorem releaseExtents_plain
    (deleteNs : CBuf 64 → CBuf 32 → PluginState → SsuErr × PluginState)
    (allocateId : CString) (slots : List Nat) (found : Bool) :
    (releaseExtents (recordDelete deleteNs) allocateId slots found state
        world).plain =
      releaseExtents deleteNs allocateId slots found state world.1 := by
  induction slots generalizing found state world with
  | nil => rfl
  | cons slot slots induction =>
      cases active : state.allocations.get slot with
      | none => simpa only [releaseExtents, active] using induction ..
      | some row =>
          simp only [releaseExtents, active]
          split
          · simp only [recordDelete, noted]
            cases deleted : deleteNs row.info.ssuId row.info.nsId world.1 with
            | mk err after =>
                cases err with
                | ok => exact induction ..
                | _ => rfl
          · exact induction ..

theorem connectExtents_plain
    (connect : CBuf 64 → PluginState → (SsuErr × CBuf 64) × PluginState)
    (rows : List ControllerAllocation) (slots : List Nat) :
    plain (connectExtents (fun ssuId => silent (connect ssuId)) rows slots
        world) =
      connectExtents connect rows slots world.1 := by
  induction rows generalizing slots world with
  | nil => rfl
  | cons row rows induction =>
      cases slots with
      | nil => rfl
      | cons slot slots =>
          simp only [connectExtents, silent]
          cases answered : connect row.info.ssuId world.1 with
          | mk answer after =>
              obtain ⟨err, physDev⟩ := answer
              cases err with
              | ok =>
                  have rest := induction (after, world.2) slots
                  simp only at rest ⊢
                  rw [← rest]
                  cases connectExtents (fun ssuId => silent (connect ssuId))
                    rows slots (after, world.2) with
                  | mk outcome last => cases outcome <;> rfl
              | _ => rfl

theorem refreshResourceState_plain (resource : SsuResourceInfo) :
    plain (refreshResourceState (recording plugin) resource world) =
      refreshResourceState plugin resource world.1 := by
  unfold refreshResourceState recording
  cases plugin.healthCheck with
  | none => rfl
  | some healthCheck =>
      simp only [Option.map_some, silent]
      cases healthCheck resource.ssuId world.1 with
      | mk answer after =>
          obtain ⟨err, health⟩ := answer
          cases err <;> rfl

theorem mergeDiscovered_plain (pool resources : List SsuResourceInfo) :
    plain (mergeDiscovered (recording plugin) pool resources world) =
      mergeDiscovered plugin pool resources world.1 := by
  induction resources generalizing world with
  | nil => rfl
  | cons resource resources induction =>
      have first := refreshResourceState_plain plugin world
        (carryUsedBytes pool resource)
      have rest := induction (refreshResourceState (recording plugin)
        (carryUsedBytes pool resource) world).2
      rw [mergeDiscovered_cons, mergeDiscovered_cons, ← first]
      simp only [plain] at rest ⊢
      rw [← rest]

theorem keepKnown_plain (others : List SsuResourceInfo)
    (nextPool : CountedArray SsuResourceInfo maxResources) :
    plain (keepKnown (recording plugin) others nextPool world) =
      keepKnown plugin others nextPool world.1 := by
  induction others generalizing nextPool world with
  | nil => rfl
  | cons known others induction =>
      have first := refreshResourceState_plain plugin world known
      simp only [keepKnown, ← first]
      split
      · exact induction ..
      · split
        · exact induction ..
        · rfl

end Transparent

section Operations

variable (plugin : SsuPluginOps PluginState) (state : ControllerState)
  (world : Logged PluginState)

theorem refreshPool_plain :
    plainStep (ssuControllerRefreshPool (recording plugin) state world) =
      ssuControllerRefreshPool plugin state world.1 := by
  unfold ssuControllerRefreshPool
  cases provided : plugin.discover with
  | none =>
      have missing : (recording plugin).discover = none := by
        simp [recording, provided]
      simp only [missing]
      rfl
  | some discover =>
      have discovers : (recording plugin).discover = some (silent discover) := by
        simp [recording, provided]
      simp only [discovers, silent]
      cases discover world.1 with
      | mk answer after =>
          obtain ⟨err, discovered⟩ := answer
          cases err with
          | ok =>
              simp only
              split
              · have merged := mergeDiscovered_plain plugin (after, world.2)
                  state.pool.items discovered
                have resources := congrArg Prod.fst merged
                have reached := congrArg Prod.snd merged
                simp only [plain] at resources reached
                simp only [← resources, ← reached]
                rw [← keepKnown_plain]
                generalize keepKnown (recording plugin) _ _ _ = outcome
                obtain ⟨pool, last⟩ := outcome
                cases pool <;> rfl
              · rfl
          | _ => rfl

theorem allocNew_plain
    (createNs : SsuExtentCreateReq → PluginState → CreateNsAnswer × PluginState)
    (req : SsuAllocReq) (hostKey : CBuf hostKeySize) (buffer : ExtentBuffer) :
    plainStep (allocNew (recordCreate createNs) (recording plugin) req hostKey
        buffer state world) =
      allocNew createNs plugin req hostKey buffer state world.1 := by
  simp only [allocNew]
  split
  · rfl
  · split
    · rfl
    · split
      · rfl
      · split
        · rfl
        · split
          · rfl
          · rename_i selected _
            rw [← createExtents_plain]
            generalize createExtents (recordCreate createNs) _ selected 0 0 []
              [] _ world = result
            by_cases failed : result.err ≠ .ok
            · have plainFailed : result.plain.err ≠ .ok := failed
              rw [if_pos failed, if_pos plainFailed]
              have rolled := rollbackExtents_plain plugin result.state
                result.world result.created
              exact congrArg (fun rest => (_, rest)) rolled
            · have plainFine : ¬result.plain.err ≠ .ok := failed
              rw [if_neg failed, if_neg plainFine]
              rfl

theorem alloc_plain (req : SsuAllocReq) (buffer : ExtentBuffer) :
    plainStep (ssuControllerAlloc (recording plugin) req buffer state world) =
      ssuControllerAlloc plugin req buffer state world.1 := by
  unfold ssuControllerAlloc
  cases provided : plugin.createNs with
  | none =>
      have missing : (recording plugin).createNs = none := by
        simp [recording, provided]
      simp only [missing]
      rfl
  | some createNs =>
      have creates : (recording plugin).createNs =
          some (recordCreate createNs) := by
        simp [recording, provided]
      simp only [creates]
      split
      · rfl
      · split
        · rfl
        · split
          · rfl
          · split
            · exact allocNew_plain ..
            · split
              · rfl
              · split
                · rfl
                · exact allocNew_plain ..

theorem release_plain (allocateId : CString) :
    plainStep (ssuControllerRelease (recording plugin) allocateId state world) =
      ssuControllerRelease plugin allocateId state world.1 := by
  unfold ssuControllerRelease
  cases provided : plugin.deleteNs with
  | none =>
      have missing : (recording plugin).deleteNs = none := by
        simp [recording, provided]
      simp only [missing]
      rfl
  | some deleteNs =>
      have deletes : (recording plugin).deleteNs =
          some (recordDelete deleteNs) := by
        simp [recording, provided]
      simp only [deletes]
      split
      · rfl
      · split
        · rfl
        · rw [← releaseExtents_plain]
          generalize releaseExtents (recordDelete deleteNs) allocateId _ false
            state world = result
          by_cases failed : result.err ≠ .ok
          · have plainFailed : result.plain.err ≠ .ok := failed
            rw [if_pos failed, if_pos plainFailed]
            rfl
          · have plainFine : ¬result.plain.err ≠ .ok := failed
            rw [if_neg failed, if_neg plainFine]
            obtain ⟨err, found, after, last⟩ := result
            simp only [ReleaseResult.plain]
            cases found with
            | true => rfl
            | false =>
                by_cases known : releasedIdExists after allocateId = true <;>
                  simp [plainStep, known]

theorem mount_plain (req : SsuMountReq) :
    plainStep (ssuControllerMount (recording plugin) req state world) =
      ssuControllerMount plugin req state world.1 := by
  unfold ssuControllerMount
  cases mounts : plugin.mount with
  | none =>
      have missing : (recording plugin).mount = none := by
        simp [recording, mounts]
      simp only [missing]
      rfl
  | some mount =>
      cases connects : plugin.connect with
      | none =>
          have present : ((recording plugin).mount).isSome = true := by
            simp [recording, mounts]
          obtain ⟨recorded, provided⟩ := Option.isSome_iff_exists.mp present
          have missing : (recording plugin).connect = none := by
            simp [recording, connects]
          simp only [provided, missing]
          rfl
      | some connect =>
          have mounts' : (recording plugin).mount =
              some fun allocateId hostId logicalDev =>
                silent (mount allocateId hostId logicalDev) := by
            simp [recording, mounts]
          have connects' : (recording plugin).connect =
              some fun ssuId => silent (connect ssuId) := by
            simp [recording, connects]
          simp only [mounts', connects']
          split
          · rfl
          · split
            · rfl
            · split
              · rfl
              · split
                · rfl
                · split
                  · rfl
                  · rw [← connectExtents_plain]
                    generalize connectExtents (fun ssuId =>
                      silent (connect ssuId)) _ _ world = outcome
                    obtain ⟨connected, middle⟩ := outcome
                    cases connected with
                    | error err => rfl
                    | ok connected =>
                        simp only [plain, silent]
                        generalize mount req.allocateId req.hostId
                          req.logicalDev middle.1 = answer
                        obtain ⟨err, after⟩ := answer
                        cases err <;> rfl

theorem unmount_plain (logicalDev : CString) :
    plainStep (ssuControllerUnmount (recording plugin) logicalDev state world) =
      ssuControllerUnmount plugin logicalDev state world.1 := by
  unfold ssuControllerUnmount
  cases unmounts : plugin.unmount with
  | none =>
      have missing : (recording plugin).unmount = none := by
        simp [recording, unmounts]
      simp only [missing]
      rfl
  | some unmount =>
      have unmounts' : (recording plugin).unmount =
          some fun logicalDev => silent (unmount logicalDev) := by
        simp [recording, unmounts]
      simp only [unmounts', silent]
      split
      · rfl
      · split
        · rfl
        · generalize unmount logicalDev world.1 = answer
          obtain ⟨err, after⟩ := answer
          cases err <;> rfl

/-- The recorded call returns the same status and reaches the same states. -/
theorem exec_plain (op : ControllerOp) :
    plainStep (exec (recording plugin) op state world) =
      exec plugin op state world.1 := by
  cases op with
  | refreshPool => exact refreshPool_plain plugin state world
  | alloc req buffer =>
      have same := alloc_plain plugin state world req buffer
      simp only [exec, ← same]
      rfl
  | release allocateId => exact release_plain plugin state world allocateId
  | mount req => exact mount_plain plugin state world req
  | unmount logicalDev => exact unmount_plain plugin state world logicalDev

end Operations

/-- One call as an observer at the plugin interface sees it. -/
structure HistoryEntry where
  op : ControllerOp
  status : SsuErr
  calls : List NamespaceCall
deriving DecidableEq

/-- The states of a run with its history, the latest call first. -/
structure Recorded (PluginState : Type) where
  history : List HistoryEntry
  state : ControllerState
  world : PluginState

def recordStep (plugin : SsuPluginOps PluginState)
    (current : Recorded PluginState) (op : ControllerOp) :
    Recorded PluginState :=
  let result := exec (recording plugin) op current.state (current.world, [])
  { history :=
      { op, status := result.1, calls := result.2.2.2 } :: current.history
    state := result.2.1
    world := result.2.2.1 }

def recordedRun (plugin : SsuPluginOps PluginState) (world : PluginState)
    (ops : List ControllerOp) : Recorded PluginState :=
  Transition.run (recordStep plugin) ⟨[], .initial, world⟩ ops

theorem recordStep_plain (plugin : SsuPluginOps PluginState)
    (current : Recorded PluginState) (op : ControllerOp) :
    let next := recordStep plugin current op
    (next.state, next.world) = step plugin (current.state, current.world) op :=
  congrArg Prod.snd (exec_plain plugin current.state (current.world, []) op)

/-- Recording changes nothing: both runs go through the same states. -/
theorem run_recordStep_plain (plugin : SsuPluginOps PluginState)
    (current : Recorded PluginState) (ops : List ControllerOp) :
    let last := Transition.run (recordStep plugin) current ops
    (last.state, last.world) =
      Transition.run (step plugin) (current.state, current.world) ops := by
  induction ops generalizing current with
  | nil => rfl
  | cons op ops induction =>
      rw [Transition.run_cons, Transition.run_cons,
        ← recordStep_plain plugin current op]
      exact induction (recordStep plugin current op)

theorem recordedRun_plain (plugin : SsuPluginOps PluginState)
    (world : PluginState) (ops : List ControllerOp) :
    ((recordedRun plugin world ops).state,
        (recordedRun plugin world ops).world) =
      Transition.run (step plugin) (.initial, world) ops :=
  run_recordStep_plain plugin ⟨[], .initial, world⟩ ops

end UbseSsu.Controller

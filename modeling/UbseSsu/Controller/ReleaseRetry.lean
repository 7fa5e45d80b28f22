import UbseSsu.Controller.Capacity
import UbseSsu.Controller.SystemInvariant
import UbseSsu.Controller.WholeMounts

/-!
# Releasing what is partly gone

A release asks the plugin to delete one namespace after the other and stops at
the first refusal.  It ends the allocation exactly when the plugin still has
all of its namespaces.  The counters go down by what the rows hold, whatever
discovery once reported as used.
-/

namespace UbseSsu.Controller

variable {PluginState : Type} {plugin : SsuPluginOps PluginState}

section Counters

/-- A discovery answer lists distinct SSUs. -/
def DistinctDiscovery (plugin : SsuPluginOps PluginState)
    (current : ControllerState × PluginState) : ControllerOp → Prop
  | .refreshPool =>
      ∀ discovered ∈ discoveredResources plugin current.2,
        (ssuIds discovered).Nodup
  | _ => True

instance decidableDistinctDiscovery (plugin : SsuPluginOps PluginState)
    (current : ControllerState × PluginState) :
    ∀ op, Decidable (DistinctDiscovery plugin current op)
  | .refreshPool =>
      inferInstanceAs (Decidable (∀ discovered ∈
        discoveredResources plugin current.2, _))
  | .alloc _ _ | .release _ | .mount _ | .unmount _ =>
      inferInstanceAs (Decidable True)

/-- What the run carries along; the mount state gives the event chains. -/
structure BackedState (current : ControllerState × PluginState) : Prop where
  mounts : MountState current.1
  accounted : ∃ base, AccountedAbove base current.1

theorem backedState_initial (world : PluginState) :
    BackedState (.initial, world) where
  mounts := mountState_initial
  accounted := ⟨fun _ => 0, accounted_iff.mp (conserved_initial world).accounted⟩

theorem backedState_step (plugin : SsuPluginOps PluginState)
    (current : ControllerState × PluginState) (op : ControllerOp)
    (holds : BackedState current)
    (distinct : DistinctDiscovery plugin current op) :
    BackedState (step plugin current op) := by
  refine ⟨mountState_step plugin current op holds.mounts, ?_⟩
  obtain ⟨base, accounted⟩ := holds.accounted
  by_cases refresh : op = .refreshPool
  · subst refresh
    rcases refreshPool_outcome plugin current.1 current.2 with same |
      ⟨discovered, reported, pool, rebuilt, result⟩
    · exact same ▸ ⟨base, accounted⟩
    · exact result ▸ accounted.rebuild rebuilt (distinct discovered reported)
  · refine ⟨base, ?_⟩
    exact Transition.chain_invariant
      (fun current : ControllerState × PluginState =>
        AccountedAbove base current.1)
      (fun _ _ event accounted => accounted.event event)
      (step_chain plugin current refresh holds.mounts.named) accounted

end Counters

section Answers

variable {deleteNs : CBuf 64 → CBuf 32 → PluginState → SsuErr × PluginState}
  {missing : ControllerAllocation → Bool} {allocateId : CString}

/-- The deletions one after the other, up to the first refusal. -/
def deleteAll
    (deleteNs : CBuf 64 → CBuf 32 → PluginState → SsuErr × PluginState) :
    List ControllerAllocation → PluginState → SsuErr × PluginState
  | [], world => (.ok, world)
  | row :: rows, world =>
      match deleteNs row.info.ssuId row.info.nsId world with
      | (.ok, after) => deleteAll deleteNs rows after
      | (err, after) => (err, after)

theorem deleteAll_cons_ok {row : ControllerAllocation}
    {rows : List ControllerAllocation} {world : PluginState}
    (answered : (deleteNs row.info.ssuId row.info.nsId world).1 = .ok) :
    deleteAll deleteNs (row :: rows) world =
      deleteAll deleteNs rows (deleteNs row.info.ssuId row.info.nsId world).2 := by
  rw [deleteAll]
  split
  · rename_i called
    rw [called]
  · rename_i refused called
    rw [called] at answered
    exact (refused answered).elim

theorem deleteAll_cons_refused {row : ControllerAllocation}
    {rows : List ControllerAllocation} {world : PluginState}
    (failed : (deleteNs row.info.ssuId row.info.nsId world).1 ≠ .ok) :
    deleteAll deleteNs (row :: rows) world =
      deleteNs row.info.ssuId row.info.nsId world := by
  rw [deleteAll]
  split
  · rename_i called
    rw [called] at failed
    exact (failed rfl).elim
  · rename_i called
    exact called.symm

theorem filter_own_eq_nil {state : ControllerState}
    (gone : ∀ row ∈ state.allocations.rows,
      rowHasId allocateId row = false) :
    state.allocations.rows.filter (rowHasId allocateId) = [] := by
  rw [List.filter_eq_nil_iff]
  intro row member
  rw [gone row member]
  exact Bool.false_ne_true

/-- The loop of the release goes through the rows of its allocation. -/
theorem releaseExtents_err (allocateId : CString) (start count : Nat)
    (all : start + count = maxAllocations) (found : Bool)
    (state : ControllerState) (world : PluginState)
    (none : NoneBelow allocateId state start) :
    (releaseExtents deleteNs allocateId (List.range' start count) found state
        world).err =
      (deleteAll deleteNs
        (state.allocations.rows.filter (rowHasId allocateId)) world).1 := by
  induction count generalizing start found state world with
  | zero =>
      subst all
      rw [filter_own_eq_nil none.all]
      rfl
  | succ count induction =>
      rw [List.range'_succ]
      cases active : state.allocations.get start with
      | none =>
          simp only [releaseExtents, active]
          exact induction (start + 1) (by omega) found state world
            (none.succ (by simp [active]))
      | some row =>
          simp only [releaseExtents, active]
          split
          · rename_i owned
            rw [SlotTable.filter_rows_of_first active owned none]
            split
            · rename_i after deleted
              rw [deleteAll_cons_ok (by rw [deleted]), deleted]
              have rest := induction (start + 1) (by omega) true
                (dropExtent state start row) after (none.dropExtent row)
              rw [dropExtent_allocations] at rest
              exact rest
            · rename_i err after refused called
              have failed : (deleteNs row.info.ssuId row.info.nsId world).1 ≠
                  .ok := by
                intro ok
                rw [called] at ok
                exact refused ok
              rw [deleteAll_cons_refused failed, called]
          · rename_i other
            exact induction (start + 1) (by omega) found state world
              (none.succ (by
                intro content same
                rw [active, Option.some.injEq] at same
                exact same ▸ Bool.eq_false_iff.mpr other))

/-- In these calls `delete_ns` answers `SSU_ERR_NOT_FOUND` for the missing
namespaces and `SSU_OK` for the others. -/
def AnswersAs
    (deleteNs : CBuf 64 → CBuf 32 → PluginState → SsuErr × PluginState)
    (missing : ControllerAllocation → Bool) :
    List ControllerAllocation → PluginState → Prop
  | [], _ => True
  | row :: rows, world =>
      (deleteNs row.info.ssuId row.info.nsId world).1 =
          (if missing row then .notFound else .ok) ∧
        AnswersAs deleteNs missing rows
          (deleteNs row.info.ssuId row.info.nsId world).2

instance decidableAnswersAs :
    ∀ rows world, Decidable (AnswersAs deleteNs missing rows world)
  | [], _ => .isTrue trivial
  | row :: rows, world =>
      have := decidableAnswersAs rows
        (deleteNs row.info.ssuId row.info.nsId world).2
      inferInstanceAs (Decidable (_ ∧ _))

theorem deleteAll_ok_iff {rows : List ControllerAllocation}
    {world : PluginState} (answers : AnswersAs deleteNs missing rows world) :
    (deleteAll deleteNs rows world).1 = .ok ↔
      ∀ row ∈ rows, missing row = false := by
  induction rows generalizing world with
  | nil => simp [deleteAll]
  | cons row rows induction =>
      obtain ⟨answer, later⟩ := answers
      rw [List.forall_mem_cons]
      cases gone : missing row with
      | true =>
          rw [gone, if_pos rfl] at answer
          have failed : (deleteNs row.info.ssuId row.info.nsId world).1 ≠
              .ok := by
            rw [answer]
            decide
          rw [deleteAll_cons_refused failed]
          exact iff_of_false failed fun none => by cases none.1
      | false =>
          rw [gone, if_neg Bool.false_ne_true] at answer
          rw [deleteAll_cons_ok answer, induction later]
          exact ⟨fun rest => ⟨rfl, rest⟩, fun both => both.2⟩

theorem answersAs_recorded {rows : List ControllerAllocation}
    {world : Logged PluginState} :
    AnswersAs (recordDelete deleteNs) missing rows world ↔
      AnswersAs deleteNs missing rows world.1 := by
  induction rows generalizing world with
  | nil => exact Iff.rfl
  | cons row rows induction => exact and_congr_right fun _ => induction

end Answers

section Release

/-- The log entries of deletions that were carried out. -/
def carriedOut : NamespaceCall → Bool
  | .deleted _ _ err => err = .ok
  | .created _ _ => false

/-- Sum of the lengths of an allocation's rows on one SSU. -/
def heldBytes (state : ControllerState) (allocateId : CString)
    (ssuId : CBuf 64) : Nat :=
  Charges.total (fun row : ControllerAllocation => row.info.ssuId)
    (fun row => row.info.length.toNat)
    (state.allocations.rows.filter (rowHasId allocateId)) ssuId

/-- The allocation is gone with all of it, and the namespaces that were still
there are deleted once each. -/
structure ReleasedWhole (missing : ControllerAllocation → Bool)
    (allocateId : CString) (state : ControllerState)
    (result : SsuErr × ControllerState × Logged PluginState) : Prop where
  ok : result.1 = .ok
  gone : ∀ row ∈ result.2.1.allocations.rows, rowHasId allocateId row = false
  deleted : result.2.2.2.filter carriedOut =
    ((state.allocations.rows.filter (rowHasId allocateId)).filter
      fun row => !missing row).map fun row =>
        NamespaceCall.deleted row.info.ssuId row.info.nsId .ok
  sameSsus : ssuIds result.2.1.pool.items = ssuIds state.pool.items
  lowered : ∀ before ∈ state.pool.items, ∀ after ∈ result.2.1.pool.items,
    after.ssuId = before.ssuId →
      after.usedBytes.toNat + heldBytes state allocateId before.ssuId =
        before.usedBytes.toNat

variable {deleteNs : CBuf 64 → CBuf 32 → PluginState → SsuErr × PluginState}
  {allocateId : CString} {first last : ControllerState × PluginState}
  {rows : List ControllerAllocation}

theorem ssuIds_subUsedBytes (state : ControllerState) (ssuId : CBuf 64)
    (length : UInt64) :
    ssuIds (subUsedBytes state ssuId length).pool.items =
      ssuIds state.pool.items := by
  unfold subUsedBytes
  split
  · rfl
  · apply Charges.map_key_modify
    intro resource
    split <;> rfl

theorem ReleaseRun.ssuIds
    (run : ReleaseRun deleteNs allocateId first rows last) :
    Controller.ssuIds last.1.pool.items =
      Controller.ssuIds first.1.pool.items := by
  induction run with
  | done => rfl
  | delete _ _ _ _ _ induction =>
      exact induction.trans (ssuIds_subUsedBytes _ _ _)

theorem ReleaseRun.accountedAbove {base : CBuf 64 → Nat}
    (run : ReleaseRun deleteNs allocateId first rows last)
    (accounted : AccountedAbove base first.1) :
    AccountedAbove base last.1 := by
  induction run with
  | done => exact accounted
  | delete active _ _ _ _ induction => exact induction (accounted.dropExtent active)

/-- The counters go down by what the released rows held. -/
theorem ReleaseRun.lowered {base : CBuf 64 → Nat}
    (run : ReleaseRun deleteNs allocateId first rows last)
    (accounted : AccountedAbove base first.1)
    (all : rows = first.1.allocations.rows.filter (rowHasId allocateId))
    {before after : SsuResourceInfo} (known : before ∈ first.1.pool.items)
    (kept : after ∈ last.1.pool.items) (same : after.ssuId = before.ssuId) :
    after.usedBytes.toNat + heldBytes first.1 allocateId before.ssuId =
      before.usedBytes.toNat := by
  have shownBefore := accounted.exact known
  have shownAfter := (run.accountedAbove accounted).exact kept
  have parts : allocatedBytes first.1 before.ssuId =
      heldBytes first.1 allocateId before.ssuId +
        allocatedBytes last.1 before.ssuId := by
    rw [heldBytes, ← all, allocatedBytes, Charges.total_perm run.rows_perm,
      Charges.total_append]
    rfl
  rw [same] at shownAfter
  simp only [allocatedBytes] at parts
  omega

theorem deleted_carriedOut (rows : List ControllerAllocation) :
    (rows.map fun row => NamespaceCall.deleted row.info.ssuId row.info.nsId
        .ok).filter carriedOut =
      rows.map fun row =>
        NamespaceCall.deleted row.info.ssuId row.info.nsId .ok := by
  rw [List.filter_eq_self]
  intro call member
  obtain ⟨row, _, rfl⟩ := List.mem_map.mp member
  rfl

/-- The rows of a run that leaves none of its allocation. -/
theorem ReleaseRun.all_rows
    (run : ReleaseRun deleteNs allocateId first rows last)
    (gone : ∀ row ∈ last.1.allocations.rows,
      rowHasId allocateId row = false) :
    rows = first.1.allocations.rows.filter (rowHasId allocateId) := by
  rw [run.filter_rows_own, filter_own_eq_nil gone, List.append_nil]

/-- The answer of a release is that of its deletions. -/
theorem ssuControllerRelease_status
    (provided : plugin.deleteNs = some deleteNs) {state : ControllerState}
    (named : allocateId ≠ [])
    (held : state.allocations.rows.filter (rowHasId allocateId) ≠ [])
    (unmounted : allocationHasLogdev state allocateId = false)
    (world : PluginState) :
    (ssuControllerRelease plugin allocateId state world).1 =
      (deleteAll deleteNs
        (state.allocations.rows.filter (rowHasId allocateId)) world).1 := by
  have notEmpty : isEmptyString allocateId = false := by
    simp [isEmptyString, named]
  have status := @releaseExtents_err _ deleteNs allocateId 0 maxAllocations
    (by rfl) false state world .zero
  obtain ⟨rows, last, run, ended⟩ := releaseExtents_run deleteNs allocateId 0
    maxAllocations (by rfl) false state world .zero
  rw [← List.range_eq_range'] at status ended
  rw [← status]
  simp only [ssuControllerRelease, provided, notEmpty, unmounted,
    Bool.false_eq_true, if_false]
  split
  · rfl
  · rename_i fine
    have ok := not_not.mp fine
    have all := run.all_rows (ended.complete ok).2
    have found : rows.isEmpty = false := by
      rw [all, List.isEmpty_eq_false_iff]
      exact held
    rw [ended.found, found, ok]
    rfl

/-- A release ends the whole allocation exactly when the plugin still has all
of its namespaces. -/
theorem ssuControllerRelease_whole_iff
    (provided : plugin.deleteNs = some deleteNs) {state : ControllerState}
    {base : CBuf 64 → Nat} (accounted : AccountedAbove base state)
    (named : allocateId ≠ [])
    (held : state.allocations.rows.filter (rowHasId allocateId) ≠ [])
    (unmounted : allocationHasLogdev state allocateId = false)
    {world : PluginState} {missing : ControllerAllocation → Bool}
    (answers : AnswersAs deleteNs missing
      (state.allocations.rows.filter (rowHasId allocateId)) world) :
    ReleasedWhole missing allocateId state
        (ssuControllerRelease (recording plugin) allocateId state (world, [])) ↔
      ∀ row ∈ state.allocations.rows.filter (rowHasId allocateId),
        missing row = false := by
  have deletes : (recording plugin).deleteNs = some (recordDelete deleteNs) := by
    simp [recording, provided]
  have recorded : AnswersAs (recordDelete deleteNs) missing
      (state.allocations.rows.filter (rowHasId allocateId)) (world, []) :=
    answersAs_recorded.mpr answers
  have status := ssuControllerRelease_status deletes named held unmounted
    (world, [])
  have outcome := ssuControllerRelease_outcome (recording plugin) allocateId
    state (world, [])
  have complete := deleteAll_ok_iff recorded
  rw [← status] at complete
  generalize ssuControllerRelease (recording plugin) allocateId state
    (world, []) = result at outcome complete ⊢
  constructor
  · intro whole
    exact complete.mp whole.ok
  · intro present
    have ok := complete.mpr present
    cases outcome with
    | refused failed => exact (failed ok).elim
    | stopped _ _ _ _ _ _ failed => exact (failed ok).elim
    | absent gone => exact (held (filter_own_eq_nil gone)).elim
    | released provided _ run _ gone =>
        rw [deletes] at provided
        cases provided
        have all := run.all_rows gone
        have logged := run.calls
        rw [List.nil_append, all] at logged
        refine ⟨rfl, ?_, ?_, ?_, ?_⟩
        · intro row member
          rw [rememberReleasedId_allocations] at member
          exact gone row member
        · have kept : (state.allocations.rows.filter
              (rowHasId allocateId)).filter (fun row => !missing row) =
                state.allocations.rows.filter (rowHasId allocateId) := by
            rw [List.filter_eq_self]
            intro row member
            rw [present row member]
            rfl
          rw [logged, deleted_carriedOut, kept]
        · rw [rememberReleasedId_pool]
          exact run.ssuIds
        · intro before known after member same
          rw [rememberReleasedId_pool] at member
          exact run.lowered accounted all known member same

/-- In every reachable state a release, first try or retry, ends the whole
allocation exactly when none of its namespaces is missing. -/
theorem release_completes_iff (plugin : SsuPluginOps PluginState)
    (start : PluginState) (ops : List ControllerOp)
    (distinct : Transition.Admissible (step plugin) (DistinctDiscovery plugin)
      (.initial, start) ops)
    {deleteNs} (provided : plugin.deleteNs = some deleteNs)
    (allocateId : CString) :
    let state := (Transition.run (step plugin) (.initial, start) ops).1
    state.allocations.rows.filter (rowHasId allocateId) ≠ [] →
      allocationHasLogdev state allocateId = false →
        ∀ (world : PluginState) (missing : ControllerAllocation → Bool),
          AnswersAs deleteNs missing
            (state.allocations.rows.filter (rowHasId allocateId)) world →
            (ReleasedWhole missing allocateId state
                (ssuControllerRelease (recording plugin) allocateId state
                  (world, [])) ↔
              ∀ row ∈ state.allocations.rows.filter (rowHasId allocateId),
                missing row = false) := by
  intro state held unmounted world missing answers
  obtain ⟨_, base, accounted⟩ := Transition.run_invariant BackedState
    (backedState_step plugin) (backedState_initial start) distinct
  have ids : ∀ row ∈ state.allocations.rows,
      row.info.allocateId.chars ≠ [] :=
    ((@idsNamed_preserved _ plugin).run
      (by simp [ControllerState.initial]) ops).2
  obtain ⟨row, member⟩ := List.exists_mem_of_ne_nil _ held
  obtain ⟨active, own⟩ := List.mem_filter.mp member
  have named : allocateId ≠ [] := by
    rw [← of_decide_eq_true own]
    exact ids row active
  exact ssuControllerRelease_whole_iff provided accounted named held unmounted
    answers

def eraseName (ssuId : CBuf 64) (nsId : CBuf 32)
    (names : List (CBuf 64 × CBuf 32)) :
    SsuErr × List (CBuf 64 × CBuf 32) :=
  if (ssuId, nsId) ∈ names then (.ok, names.erase (ssuId, nsId))
  else (.notFound, names)

/-- A plugin that stores names and deletes each of them once. -/
def storingPlugin (resources : List SsuResourceInfo) :
    SsuPluginOps (List (CBuf 64 × CBuf 32)) :=
  { discover := some fun names => ((.ok, resources), names)
    connect := some fun ssuId names => ((.ok, ssuId), names)
    healthCheck := some fun _ names => ((.ok, onlineState), names)
    createNs := some fun extentReq names =>
      ({ err := .ok, nsId := copyCstr 32 "ns".toList
         physSector := extentReq.physOffsetHint },
        (extentReq.ssuId, copyCstr 32 "ns".toList) :: names)
    deleteNs := some eraseName
    mount := some fun _ _ _ names => (.ok, names)
    unmount := some fun _ names => (.ok, names) }

def twoSsuPlugin : SsuPluginOps (List (CBuf 64 × CBuf 32)) :=
  storingPlugin [oneSsu, otherSsu]

/-- One allocation with an extent on each of two SSUs. -/
def twoSsuState : ControllerState × List (CBuf 64 × CBuf 32) :=
  Transition.run (step twoSsuPlugin) (.initial, [])
    [.refreshPool, .alloc (plainRequest 8192 []) ⟨true, 8⟩]

theorem release_completes_present :
    ReleasedWhole (fun _ => false) "alloc-0".toList twoSsuState.1
      (ssuControllerRelease (recording twoSsuPlugin) "alloc-0".toList
        twoSsuState.1 (twoSsuState.2, [])) :=
  (release_completes_iff twoSsuPlugin []
    [.refreshPool, .alloc (plainRequest 8192 []) ⟨true, 8⟩] (by decide +kernel)
    rfl "alloc-0".toList (by decide +kernel) (by decide +kernel) twoSsuState.2
    (fun _ => false) (by decide +kernel)).mpr fun _ _ => rfl

/-- The namespace on the first SSU is gone; that on the second one stays, on
every retry. -/
theorem release_stuck_missing :
    let world := twoSsuState.2.erase (oneSsu.ssuId, copyCstr 32 "ns".toList)
    let missing := fun row : ControllerAllocation =>
      decide (row.info.ssuId = oneSsu.ssuId)
    AnswersAs eraseName missing
      (twoSsuState.1.allocations.rows.filter (rowHasId "alloc-0".toList))
        world ∧
      ¬ReleasedWhole missing "alloc-0".toList twoSsuState.1
        (ssuControllerRelease (recording twoSsuPlugin) "alloc-0".toList
          twoSsuState.1 (world, [])) ∧
      ssuControllerRelease twoSsuPlugin "alloc-0".toList twoSsuState.1 world =
        (.notFound, twoSsuState.1, world) := by
  refine ⟨by decide +kernel, ?_, by decide +kernel⟩
  intro whole
  have ok := whole.ok
  revert ok
  decide +kernel

end Release

end UbseSsu.Controller

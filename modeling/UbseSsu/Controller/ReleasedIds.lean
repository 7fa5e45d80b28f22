import UbseSsu.Controller.Layout
import UbseSsu.Controller.RowEffects

/-!
# The ids that a release remembers

A release that deletes rows notes their id in a table of 128 ids, so that it
can be repeated.  No id of the table is ever given out again.  The table is
never emptied, and once it is full the ids released after it are forgotten:
releasing one of them again finds nothing.
-/

namespace UbseSsu.Controller

variable {PluginState : Type} {plugin : SsuPluginOps PluginState}

section Apart

/-- No active row has a remembered id. -/
def ReleasedApart (state : ControllerState) : Prop :=
  ∀ row ∈ state.allocations.rows,
    row.info.allocateId ∉ state.releasedIds.items

/-- What a step does to the remembered ids: only a release that has deleted
all rows of its id adds one. -/
inductive ReleasedEffect (current : ControllerState × PluginState) :
    ControllerOp → ControllerState × PluginState → Prop where
  | kept {op : ControllerOp} {after : ControllerState × PluginState}
      (same : after.1.releasedIds = current.1.releasedIds) :
      ReleasedEffect current op after
  | remembered {allocateId : CBuf 64}
      {after : ControllerState × PluginState}
      (active : ∃ row ∈ current.1.allocations.rows,
        row.info.allocateId = allocateId)
      (gone : ∀ row ∈ after.1.allocations.rows,
        row.info.allocateId ≠ allocateId)
      (same : after.1.releasedIds =
        (rememberReleasedId current.1 allocateId.chars).releasedIds) :
      ReleasedEffect current (.release allocateId.chars) after

theorem rememberReleasedId_congr {left right : ControllerState}
    (same : left.releasedIds = right.releasedIds) (allocateId : CString) :
    (rememberReleasedId left allocateId).releasedIds =
      (rememberReleasedId right allocateId).releasedIds := by
  unfold rememberReleasedId releasedIdExists
  simp only [same]
  split
  · exact same
  · split
    · rfl
    · exact same

theorem mem_rememberReleasedId {state : ControllerState}
    {allocateId other : CBuf 64}
    (member : other ∈
      (rememberReleasedId state allocateId.chars).releasedIds.items) :
    other = allocateId ∨ other ∈ state.releasedIds.items := by
  unfold rememberReleasedId at member
  split at member
  · exact .inr member
  · split at member
    · rcases List.mem_append.mp member with old | new
      · exact .inr old
      · rw [List.mem_singleton, copyCstr_chars_self] at new
        exact .inl new
    · exact .inr member

theorem rememberReleasedId_mono {state : ControllerState}
    {allocateId : CString} {other : CBuf 64}
    (member : other ∈ state.releasedIds.items) :
    other ∈ (rememberReleasedId state allocateId).releasedIds.items := by
  unfold rememberReleasedId
  split
  · exact member
  · split
    · exact List.mem_append_left _ member
    · exact member

/-- With room in the table the id is remembered. -/
theorem rememberReleasedId_self {state : ControllerState}
    {allocateId : CBuf 64}
    (room : state.releasedIds.items.length < maxReleased) :
    allocateId ∈
      (rememberReleasedId state allocateId.chars).releasedIds.items := by
  unfold rememberReleasedId
  split
  · rename_i known
    exact (releasedIdExists_iff state allocateId).mp known
  · apply List.mem_append_right
    rw [List.mem_singleton, copyCstr_chars_self]

theorem releasedEffect_release (current : ControllerState × PluginState)
    (allocateId : CString) :
    ReleasedEffect current (.release allocateId)
      (step plugin current (.release allocateId)) := by
  obtain ⟨state, world⟩ := current
  have outcome := ssuControllerRelease_outcome plugin allocateId state world
  simp only [step, exec]
  generalize ssuControllerRelease plugin allocateId state world = result
    at outcome
  cases outcome with
  | refused _ => exact .kept rfl
  | stopped _ _ run _ _ _ _ => exact .kept run.releasedIds
  | absent _ => exact .kept rfl
  | @released _ _ _ rows last run found gone =>
      obtain ⟨row, member⟩ := List.exists_mem_of_ne_nil rows found
      have own := run.owned row member
      have named : row.info.allocateId.chars = allocateId :=
        of_decide_eq_true own
      subst named
      apply ReleasedEffect.remembered
      · exact ⟨row, run.rows_perm.mem_iff.mpr
          (List.mem_append_left _ member), rfl⟩
      · intro other present same
        rw [rememberReleasedId_allocations] at present
        have notOwned := gone other present
        rw [← same] at notOwned
        simp [rowHasId] at notOwned
      · exact rememberReleasedId_congr run.releasedIds _

theorem alloc_releasedIds (current : ControllerState × PluginState)
    (named : LogdevsNamed current.1) (req : SsuAllocReq)
    (buffer : ExtentBuffer) :
    (step plugin current (.alloc req buffer)).1.releasedIds =
      current.1.releasedIds := by
  obtain ⟨state, world⟩ := current
  have outcome := ssuControllerAlloc_outcome plugin req buffer state world
  simp only [step, exec]
  generalize ssuControllerAlloc plugin req buffer state world = result
    at outcome
  cases outcome with
  | refused _ _ => rfl
  | reused _ => rfl
  | @undone _ _ _ _ _ _ _ _ _ last after plan _ run _ _ =>
      obtain ⟨undone, final, rolled, _, restored⟩ := run.rollback plugin
        (plan.unmounted named) [] after
      rw [List.append_nil, rollbackExtents] at rolled
      simp only [rolled]
      exact restored.releasedIds
  | created _ _ run _ _ => exact run.releasedIds

theorem step_releasedEffect (plugin : SsuPluginOps PluginState)
    (current : ControllerState × PluginState)
    (named : LogdevsNamed current.1) (op : ControllerOp) :
    ReleasedEffect current op (step plugin current op) := by
  cases op with
  | refreshPool =>
      apply ReleasedEffect.kept
      obtain ⟨pool, same⟩ := refreshPool_state plugin current.1 current.2
      have kept := congrArg ControllerState.releasedIds same
      exact kept
  | alloc req buffer => exact .kept (alloc_releasedIds current named req buffer)
  | release allocateId => exact releasedEffect_release current allocateId
  | mount req =>
      apply ReleasedEffect.kept
      obtain ⟨_, _, same⟩ := mount_frame plugin req current.1 current.2
      have kept := congrArg ControllerState.releasedIds same
      exact kept
  | unmount logicalDev =>
      apply ReleasedEffect.kept
      obtain ⟨_, _, same⟩ := unmount_frame plugin logicalDev current.1
        current.2
      have kept := congrArg ControllerState.releasedIds same
      exact kept

/-- The ids of the rows after a step: those before it and those of a new
allocation, which were not remembered. -/
theorem RowsEffect.ids {current after : ControllerState × PluginState}
    {op : ControllerOp} (effect : RowsEffect plugin current op after)
    {row : ControllerAllocation} (member : row ∈ after.1.allocations.rows) :
    (∃ old ∈ current.1.allocations.rows,
        old.info.allocateId = row.info.allocateId) ∨
      ¬idIsBlocked current.1 row.info.allocateId := by
  cases effect with
  | kept same =>
      rw [same] at member
      exact .inl ⟨row, member, rfl⟩
  | restated allocateId newState rows =>
      rw [rows] at member
      obtain ⟨old, present, rfl⟩ := List.mem_map.mp member
      exact .inl ⟨old, present, (setRowState_allocateId old).symm⟩
  | placed provided plan run fresh =>
      have rows := run.rows_perm.mem_iff.mp member
      rcases List.mem_append.mp rows with new | old
      · obtain ⟨entry, entered, rfl⟩ := List.mem_map.mp new
        have written := run.written entry entered
        right
        rw [written.allocateId]
        exact plan.unblocked
      · exact .inl ⟨row, old, rfl⟩
  | removed gone owned rows =>
      exact .inl ⟨row, rows.mem_iff.mpr (List.mem_append_right _ member), rfl⟩

theorem ReleasedApart.step {current : ControllerState × PluginState}
    (apart : ReleasedApart current.1) (named : LogdevsNamed current.1)
    (op : ControllerOp) : ReleasedApart (step plugin current op).1 := by
  have rows := step_rowsEffect plugin current named op
  have released := step_releasedEffect plugin current named op
  -- The ids remembered before the step stay apart from the rows after it.
  have old : ∀ row ∈ (Controller.step plugin current op).1.allocations.rows,
      row.info.allocateId ∉ current.1.releasedIds.items := by
    intro row member remembered
    rcases rows.ids member with ⟨before, present, same⟩ | unblocked
    · exact apart before present (same ▸ remembered)
    · exact unblocked (.inr remembered)
  generalize Controller.step plugin current op = after at released old ⊢
  intro row member remembered
  cases released with
  | kept same =>
      rw [same] at remembered
      exact old row member remembered
  | remembered _ gone same =>
      rw [same] at remembered
      rcases mem_rememberReleasedId remembered with own | earlier
      · exact gone row member own
      · exact old row member earlier

end Apart

section Runs

/-- The states after a run from an empty controller. -/
def reached (plugin : SsuPluginOps PluginState) (world : PluginState)
    (ops : List ControllerOp) : ControllerState × PluginState :=
  Transition.run (step plugin) (.initial, world) ops

theorem reached_snoc (plugin : SsuPluginOps PluginState)
    (world : PluginState) (ops : List ControllerOp) (op : ControllerOp) :
    reached plugin world (ops ++ [op]) =
      step plugin (reached plugin world ops) op :=
  Transition.run_append _ _ _ _

/-- The answer to an allocation names the id. -/
def Returns (allocateId : CString) (answer : AllocAnswer) : Prop :=
  answer.err = .ok ∧
    answer.out.map (fun out => out.allocateId.chars) = some allocateId

/-- Some allocation of the run returned the id with `SSU_OK`. -/
def ReturnedIn (plugin : SsuPluginOps PluginState) (world : PluginState)
    (ops : List ControllerOp) (allocateId : CString) : Prop :=
  ∃ done req buffer later, ops = done ++ .alloc req buffer :: later ∧
    Returns allocateId (ssuControllerAlloc plugin req buffer
      (reached plugin world done).1 (reached plugin world done).2).1

/-- Some release of the id in the run returned `SSU_OK`. -/
def ReleasedIn (plugin : SsuPluginOps PluginState) (world : PluginState)
    (ops : List ControllerOp) (allocateId : CString) : Prop :=
  ∃ done later, ops = done ++ .release allocateId :: later ∧
    (ssuControllerRelease plugin allocateId (reached plugin world done).1
      (reached plugin world done).2).1 = .ok

variable {world : PluginState} {ops : List ControllerOp}
  {allocateId : CString}

theorem ReturnedIn.snoc (returned : ReturnedIn plugin world ops allocateId)
    (op : ControllerOp) :
    ReturnedIn plugin world (ops ++ [op]) allocateId := by
  obtain ⟨done, req, buffer, later, rfl, returns⟩ := returned
  exact ⟨done, req, buffer, later ++ [op], by simp, returns⟩

theorem ReleasedIn.of_snoc {op : ControllerOp}
    (released : ReleasedIn plugin world (ops ++ [op]) allocateId) :
    ReleasedIn plugin world ops allocateId ∨
      op = .release allocateId ∧
        (ssuControllerRelease plugin allocateId (reached plugin world ops).1
          (reached plugin world ops).2).1 = .ok := by
  obtain ⟨done, later, parts, answered⟩ := released
  rcases List.eq_nil_or_concat later with rfl | ⟨early, last, rfl⟩
  · obtain ⟨rfl, same⟩ := List.append_inj' parts rfl
    exact .inr ⟨List.singleton_inj.mp same, answered⟩
  · rw [List.concat_eq_append, ← List.cons_append, ← List.append_assoc]
      at parts
    obtain ⟨rfl, _⟩ := List.append_inj' parts rfl
    exact .inl ⟨done, early, rfl, answered⟩

/-- The rows of an allocation call: those before it, and those of the id that
it returns. -/
theorem alloc_ids (current : ControllerState × PluginState)
    (named : LogdevsNamed current.1) (req : SsuAllocReq)
    (buffer : ExtentBuffer) {row : ControllerAllocation}
    (member : row ∈
      (step plugin current (.alloc req buffer)).1.allocations.rows) :
    row ∈ current.1.allocations.rows ∨
      Returns row.info.allocateId.chars
        (ssuControllerAlloc plugin req buffer current.1 current.2).1 := by
  obtain ⟨state, world⟩ := current
  have outcome := ssuControllerAlloc_outcome plugin req buffer state world
  simp only [step, exec] at member ⊢
  generalize ssuControllerAlloc plugin req buffer state world = result
    at outcome member ⊢
  cases outcome with
  | refused _ _ => exact .inl member
  | reused _ => exact .inl member
  | @undone _ _ _ _ _ _ _ _ _ _ after plan _ run _ _ =>
      rw [(AllocOutcome.undone_tables plugin after plan named run).1] at member
      exact .inl member
  | created _ _ run ok out =>
      rcases List.mem_append.mp (run.rows_perm.mem_iff.mp member) with
        new | old
      · obtain ⟨entry, entered, rfl⟩ := List.mem_map.mp new
        have written := run.written entry entered
        refine .inr ⟨ok, ?_⟩
        rw [out, written.allocateId]
        rfl
      · exact .inl old

/-- A step that is no allocation makes no row of a new id. -/
theorem RowsEffect.old_ids {current after : ControllerState × PluginState}
    {op : ControllerOp} (effect : RowsEffect plugin current op after)
    (notAlloc : ∀ req buffer, op ≠ .alloc req buffer)
    {row : ControllerAllocation} (member : row ∈ after.1.allocations.rows) :
    ∃ old ∈ current.1.allocations.rows,
      old.info.allocateId = row.info.allocateId := by
  cases effect with
  | kept same => exact ⟨row, same ▸ member, rfl⟩
  | restated allocateId newState rows =>
      rw [rows] at member
      obtain ⟨old, present, rfl⟩ := List.mem_map.mp member
      exact ⟨old, present, (setRowState_allocateId old).symm⟩
  | placed _ _ _ _ => exact (notAlloc _ _ rfl).elim
  | removed gone owned rows =>
      exact ⟨row, rows.mem_iff.mpr (List.mem_append_right _ member), rfl⟩

/-- What holds of the ids after every run. -/
structure IdsKnown (plugin : SsuPluginOps PluginState) (world : PluginState)
    (ops : List ControllerOp) : Prop where
  mounts : MountState (reached plugin world ops).1
  apart : ReleasedApart (reached plugin world ops).1
  rows : ∀ row ∈ (reached plugin world ops).1.allocations.rows,
    ReturnedIn plugin world ops row.info.allocateId.chars
  remembered : ∀ released ∈ (reached plugin world ops).1.releasedIds.items,
    ReturnedIn plugin world ops released.chars

theorem IdsKnown.snoc (known : IdsKnown plugin world ops)
    (op : ControllerOp) : IdsKnown plugin world (ops ++ [op]) := by
  have named := known.mounts.named
  have effect := step_rowsEffect plugin (reached plugin world ops) named op
  have released :=
    step_releasedEffect plugin (reached plugin world ops) named op
  constructor
  · rw [reached_snoc]
    exact mountState_step plugin _ op known.mounts
  · rw [reached_snoc]
    exact known.apart.step named op
  · rw [reached_snoc]
    intro row member
    cases op with
    | alloc req buffer =>
        rcases alloc_ids _ named req buffer member with old | returns
        · exact (known.rows row old).snoc _
        · exact ⟨ops, req, buffer, [], rfl, returns⟩
    | refreshPool | release _ | mount _ | unmount _ =>
        obtain ⟨old, present, same⟩ := effect.old_ids (by simp) member
        rw [← same]
        exact (known.rows old present).snoc _
  · rw [reached_snoc]
    intro other member
    generalize step plugin (reached plugin world ops) op = after
      at released member
    cases released with
    | kept same =>
        rw [same] at member
        exact (known.remembered other member).snoc _
    | remembered active _ same =>
        rw [same] at member
        rcases mem_rememberReleasedId member with rfl | earlier
        · obtain ⟨row, present, rfl⟩ := active
          exact (known.rows row present).snoc _
        · exact (known.remembered other earlier).snoc _

theorem idsKnown (plugin : SsuPluginOps PluginState) (world : PluginState)
    (ops : List ControllerOp) : IdsKnown plugin world ops := by
  induction ops using List.reverseRecOn with
  | nil =>
      constructor
      · exact mountState_initial
      · simp [ReleasedApart, reached, ControllerState.initial]
      · simp [reached, ControllerState.initial]
      · simp [reached, ControllerState.initial]
  | append_singleton ops op induction => exact induction.snoc op

end Runs

section Idempotence

variable {world : PluginState} {ops : List ControllerOp}
  {allocateId : CString}

theorem releaseExtents_absent
    (deleteNs : CBuf 64 → CBuf 32 → PluginState → SsuErr × PluginState)
    {state : ControllerState}
    (gone : ∀ row ∈ state.allocations.rows, rowHasId allocateId row = false)
    (slots : List Nat) (found : Bool) (world : PluginState) :
    releaseExtents deleteNs allocateId slots found state world =
      { err := .ok, found, state, world } := by
  induction slots with
  | nil => rfl
  | cons slot slots induction =>
      cases active : state.allocations.get slot with
      | none => simp only [releaseExtents, active, induction]
      | some row =>
          have other := gone row (SlotTable.mem_rows_of_get active)
          simp only [releaseExtents, active, other, Bool.false_eq_true,
            if_false, induction]

/-- A release of an id without rows and devices looks it up among the
remembered ids. -/
theorem release_absent (deletes : plugin.deleteNs.isSome = true)
    (named : allocateId ≠ []) {state : ControllerState}
    (gone : ∀ row ∈ state.allocations.rows, rowHasId allocateId row = false)
    (logdevs : LogdevsNamed state) (world : PluginState) :
    ssuControllerRelease plugin allocateId state world =
      (if releasedIdExists state allocateId then .ok else .notFound, state,
        world) := by
  obtain ⟨deleteNs, provided⟩ := Option.isSome_iff_exists.mp deletes
  have unmounted : allocationHasLogdev state allocateId = false := by
    rw [allocationHasLogdev, List.any_eq_false]
    intro logdev member own
    obtain ⟨row, present, same⟩ := logdevs logdev member
    have notOwned := gone row present
    rw [rowHasId, same, ← logdevHasId, own] at notOwned
    cases notOwned
  have notEmpty : isEmptyString allocateId = false := by
    simp [isEmptyString, named]
  simp only [ssuControllerRelease, provided, notEmpty, unmounted,
    releaseExtents_absent deleteNs gone, Bool.false_eq_true, if_false, ne_eq,
    not_true_eq_false]
  split <;> rfl

/-- A release after the run answers like the one before it, and for an id that
was never returned it finds nothing; either way it changes nothing. -/
structure IdempotentAt (plugin : SsuPluginOps PluginState)
    (world : PluginState) (ops : List ControllerOp) (allocateId : CString) :
    Prop where
  again : ReleasedIn plugin world ops allocateId →
    ssuControllerRelease plugin allocateId (reached plugin world ops).1
      (reached plugin world ops).2 = (.ok, reached plugin world ops)
  unknown : ¬ReturnedIn plugin world ops allocateId →
    ssuControllerRelease plugin allocateId (reached plugin world ops).1
      (reached plugin world ops).2 = (.notFound, reached plugin world ops)

/-- Releases of the id are idempotent throughout the run. -/
def ReleaseIdempotent (plugin : SsuPluginOps PluginState)
    (world : PluginState) (ops : List ControllerOp) (allocateId : CString) :
    Prop :=
  ∀ done later, ops = done ++ later →
    IdempotentAt plugin world done allocateId

/-- When the id's rows are released there is room to remember it. -/
def RoomToRemember (allocateId : CString)
    (current : ControllerState × PluginState) (op : ControllerOp) : Prop :=
  op = .release allocateId →
    allocationIdIsActive current.1 allocateId = true →
      current.1.releasedIds.items.length < maxReleased

theorem releasedIdExists_mono {current after : ControllerState × PluginState}
    {op : ControllerOp} (effect : ReleasedEffect current op after)
    (known : releasedIdExists current.1 allocateId = true) :
    releasedIdExists after.1 allocateId = true := by
  obtain ⟨released, member, same⟩ := List.any_eq_true.mp known
  apply List.any_eq_true.mpr
  refine ⟨released, ?_, same⟩
  cases effect with
  | kept unchanged =>
      rw [unchanged]
      exact member
  | remembered _ _ grown =>
      rw [grown]
      exact rememberReleasedId_mono member

/-- A release that answers `SSU_OK` has remembered its id, if there was
room. -/
theorem release_remembers (named : allocateId ≠ [])
    {current : ControllerState × PluginState}
    (room : RoomToRemember allocateId current (.release allocateId))
    (answered : (ssuControllerRelease plugin allocateId current.1
      current.2).1 = .ok) :
    releasedIdExists (step plugin current (.release allocateId)).1
      allocateId = true := by
  obtain ⟨state, world⟩ := current
  have outcome := ssuControllerRelease_outcome plugin allocateId state world
  simp only [step, exec] at answered ⊢
  generalize ssuControllerRelease plugin allocateId state world = result
    at outcome answered ⊢
  cases outcome with
  | refused failed => exact (failed answered).elim
  | stopped _ _ _ _ _ _ failed => exact (failed answered).elim
  | @released _ _ _ rows last run found gone =>
      obtain ⟨row, member⟩ := List.exists_mem_of_ne_nil rows found
      have own : row.info.allocateId.chars = allocateId :=
        of_decide_eq_true (run.owned row member)
      subst own
      have present : row ∈ state.allocations.rows :=
        run.rows_perm.mem_iff.mpr (List.mem_append_left _ member)
      have active := (allocationIdIsActive_iff state named).mpr
        ⟨row, present, rfl⟩
      have free := room rfl active
      rw [releasedIdExists_iff]
      apply rememberReleasedId_self
      rw [run.releasedIds]
      exact free
  | absent gone =>
      by_cases known : releasedIdExists state allocateId = true
      · exact known
      · simp [known] at answered

theorem released_remembered (named : allocateId ≠ [])
    (room : Transition.Admissible (step plugin) (RoomToRemember allocateId)
      (.initial, world) ops)
    (released : ReleasedIn plugin world ops allocateId) :
    releasedIdExists (reached plugin world ops).1 allocateId = true := by
  induction ops using List.reverseRecOn with
  | nil =>
      obtain ⟨done, later, parts, _⟩ := released
      simp at parts
  | append_singleton ops op induction =>
      obtain ⟨before, last⟩ := room.append
      rw [reached_snoc]
      rcases released.of_snoc with earlier | ⟨rfl, answered⟩
      · have logdevs := (idsKnown plugin world ops).mounts.named
        exact releasedIdExists_mono
          (step_releasedEffect plugin (reached plugin world ops) logdevs op)
          (induction before earlier)
      · exact release_remembers named last.1 answered

/-- As long as there is room to remember the id when it is released, its
releases are idempotent. -/
theorem release_idempotent (plugin : SsuPluginOps PluginState)
    (deletes : plugin.deleteNs.isSome = true) (world : PluginState)
    (ops : List ControllerOp) {allocateId : CString}
    (named : allocateId ≠ [])
    (room : Transition.Admissible (step plugin) (RoomToRemember allocateId)
      (.initial, world) ops) :
    ReleaseIdempotent plugin world ops allocateId := by
  rintro done later rfl
  have before := room.append.1
  have known := idsKnown plugin world done
  constructor
  · intro released
    have remembered := released_remembered named before released
    have gone : ∀ row ∈ (reached plugin world done).1.allocations.rows,
        rowHasId allocateId row = false := by
      intro row member
      apply decide_eq_false
      intro same
      subst same
      exact known.apart row member
        ((releasedIdExists_iff _ row.info.allocateId).mp remembered)
    rw [release_absent deletes named gone known.mounts.named, remembered]
    rfl
  · intro unreturned
    have gone : ∀ row ∈ (reached plugin world done).1.allocations.rows,
        rowHasId allocateId row = false := by
      intro row member
      apply decide_eq_false
      intro same
      exact unreturned (same ▸ known.rows row member)
    have forgotten :
        releasedIdExists (reached plugin world done).1 allocateId = false := by
      apply List.any_eq_false.mpr
      intro released member own
      have same : released.chars = allocateId := of_decide_eq_true own
      exact unreturned (same ▸ known.remembered released member)
    rw [release_absent deletes named gone known.mounts.named, forgotten]
    rfl

theorem release_idempotent_oneSsu :
    ReleaseIdempotent (acceptingPlugin [oneSsu]) ()
      [.refreshPool, .alloc (onOneDisk 512) ⟨true, 1⟩,
        .release (autoAllocateId 0).chars]
      (autoAllocateId 0).chars := by
  apply release_idempotent (acceptingPlugin [oneSsu]) rfl ()
  · decide +kernel
  · refine ⟨fun same => ?_, fun same => ?_, fun _ _ => ?_, trivial⟩
    · cases same
    · cases same
    · decide +kernel

end Idempotence

section FullTable

/-- A call that deletes the only row of an id releases the id. -/
theorem release_onlyRow
    {deleteNs : CBuf 64 → CBuf 32 → PluginState → SsuErr × PluginState}
    (provided : plugin.deleteNs = some deleteNs) {state : ControllerState}
    {row : ControllerAllocation} (named : row.info.allocateId.chars ≠ [])
    (active : state.allocations.get 0 = some row)
    (alone : (state.allocations.clear 0).rows = [])
    (logdevs : state.logdevs.rows = []) {world after : PluginState}
    (deleted : deleteNs row.info.ssuId row.info.nsId world = (.ok, after)) :
    ssuControllerRelease plugin row.info.allocateId.chars state world =
      (.ok, rememberReleasedId (dropExtent state 0 row)
        row.info.allocateId.chars, after) := by
  have notEmpty : isEmptyString row.info.allocateId.chars = false := by
    simp [isEmptyString, named]
  have unmounted :
      allocationHasLogdev state row.info.allocateId.chars = false := by
    simp [allocationHasLogdev, logdevs]
  have own : rowHasId row.info.allocateId.chars row = true := by
    simp [rowHasId]
  have gone : ∀ other ∈ (dropExtent state 0 row).allocations.rows,
      rowHasId row.info.allocateId.chars other = false := by
    simp [alone]
  have slots : List.range maxAllocations = 0 :: List.range' 1 127 := rfl
  simp only [ssuControllerRelease, provided, notEmpty, unmounted, slots,
    releaseExtents, active, own, deleted, releaseExtents_absent deleteNs gone,
    Bool.false_eq_true, if_false, if_true, ne_eq, not_true_eq_false]

theorem oneSsu_fits : [oneSsu].length ≤ maxResources := by
  decide

/-- One unused SSU and no rows. -/
def idle (number : UInt64)
    (ids : CountedArray (CBuf 64) maxReleased) : ControllerState :=
  { pool := ⟨[oneSsu], oneSsu_fits⟩
    nextAllocationId := number
    allocations := .empty maxAllocations
    logdevs := .empty maxLogdevs
    releasedIds := ids }

def remembering (ids : CountedArray (CBuf 64) maxReleased)
    (allocateId : CBuf 64) : CountedArray (CBuf 64) maxReleased :=
  (rememberReleasedId (idle 0 ids) allocateId.chars).releasedIds

variable {number : UInt64} {ids : CountedArray (CBuf 64) maxReleased}

theorem rememberReleasedId_idle (allocateId : CBuf 64) :
    rememberReleasedId (idle number ids) allocateId.chars =
      idle number (remembering ids allocateId) := by
  have same : releasedIdExists (idle number ids) allocateId.chars =
      releasedIdExists (idle 0 ids) allocateId.chars := rfl
  unfold remembering rememberReleasedId
  rw [same]
  split
  · rfl
  · split
    · rename_i room
      have roomThere : (idle 0 ids).releasedIds.items.length < maxReleased :=
        room
      rw [dif_pos roomThere]
      rfl
    · rename_i full
      have fullThere : ¬(idle 0 ids).releasedIds.items.length < maxReleased :=
        full
      rw [dif_neg fullThere]
      rfl

/-- An allocation of 512 bytes and the release of its id. -/
def allocAndRelease (number : UInt64) : List ControllerOp :=
  [.alloc (onOneDisk 512) ⟨true, 1⟩, .release (autoAllocateId number).chars]

theorem oneSsu_takes : TakesExtent 512 oneSsu := by
  constructor <;> decide +kernel

theorem idle_alloc (fresh : autoAllocateId number ∉ ids.items) :
    ∃ row, row.info.allocateId = autoAllocateId number ∧
      row.info.ssuId = oneSsu.ssuId ∧ row.info.length = 512 ∧
      step (acceptingPlugin [oneSsu]) (idle number ids, ())
          (.alloc (onOneDisk 512) ⟨true, 1⟩) =
        (advanced (addExtent (idle number ids) 0 0 row), ()) := by
  have free : (idle number ids).allocations.freeSlots ≠ [] := by
    have empty : (idle number ids).allocations = .empty maxAllocations := rfl
    rw [empty]
    decide +kernel
  have unblocked : ¬idIsBlocked (idle number ids) (autoAllocateId number) := by
    rintro (active | remembered)
    · have empty : (idle number ids).allocations.rows = [] := rfl
      rw [empty] at active
      cases active
    · exact fresh remembered
  have search := nextAutoAllocateId_of_free (idle number ids) unblocked
  have admitted : Admitted (onOneDisk 512) ⟨true, 1⟩ (idle number ids) :=
    oneSsu_takes.admitted onOneDisk_asks free List.mem_cons_self
  have accepted : (ssuControllerAlloc (acceptingPlugin [oneSsu])
      (onOneDisk 512) ⟨true, 1⟩ (idle number ids) ()).1.err = .ok :=
    admitted.accepted rfl fun _ _ => rfl
  have outcome := ssuControllerAlloc_outcome (acceptingPlugin [oneSsu])
    (onOneDisk 512) ⟨true, 1⟩ (idle number ids) ()
  simp only [step, exec]
  generalize ssuControllerAlloc (acceptingPlugin [oneSsu]) (onOneDisk 512)
    ⟨true, 1⟩ (idle number ids) () = result at outcome accepted ⊢
  cases outcome with
  | refused _ failed => exact (failed accepted).elim
  | reused active =>
      rw [diskNameIsActive, findAllocationRowsByDiskName] at active
      cases active
  | undone _ _ _ _ _ failed => exact (failed accepted).elim
  | @created createNs _ _ ctx next selected entries last plan run _ _ =>
      have searched := plan.searched
      rw [search] at searched
      obtain ⟨sameId, sameState⟩ := Prod.mk.inj searched
      rw [← sameState] at run
      have one : selected.length = 1 := by
        rw [plan.planned, plannedExtentCount_eq,
          onOneDisk_asks.expectedCount_eq]
      obtain ⟨poolIndex, rfl⟩ := List.length_eq_one_iff.mp one
      have first : (idle number ids).allocations.firstFree = some 0 := by
        have empty : (idle number ids).allocations = .empty maxAllocations := rfl
        rw [empty]
        decide +kernel
      cases run with
      | @place _ _ _ slot _ _ _ resource answer _ _ _ checked _ _ rest =>
          cases rest with
          | done =>
              have slotZero := checked.free
              rw [first] at slotZero
              cases slotZero
              have inside := (List.getElem?_eq_some_iff.mp checked.pooled).1
              have indexZero : poolIndex = 0 := Nat.lt_one_iff.mp inside
              subst indexZero
              have pooled := checked.pooled
              cases pooled
              refine ⟨_, sameId.symm, rfl, ?_, rfl⟩
              apply UInt64.toNat_inj.mp
              have split := plan.extentLength_toNat 0
              exact split

theorem idle_drop {row : ControllerAllocation}
    (ssuId : row.info.ssuId = oneSsu.ssuId) (length : row.info.length = 512) :
    dropExtent (advanced (addExtent (idle number ids) 0 0 row)) 0 row =
      idle (number + 1) ids := by
  have pool : (subUsedBytes (advanced (addExtent (idle number ids) 0 0 row))
      oneSsu.ssuId 512).pool = (idle number ids).pool := by
    have distinct : (ssuIds (idle number ids).pool.items).Nodup :=
      List.nodup_singleton _
    have pooled : (idle number ids).pool.items[0]? = some oneSsu := rfl
    apply subUsedBytes_addUsedBytes distinct pooled
    · decide
    · rw [← length]
      rfl
  have rows : ((idle number ids).allocations.put 0 row).clear 0 =
      (idle number ids).allocations := by
    apply SlotTable.clear_put_of_free (by decide)
    rfl
  simp only [dropExtent, ssuId, length]
  unfold idle
  congr 1

/-- The release after the allocation finds its row. -/
theorem idle_release (fresh : autoAllocateId number ∉ ids.items) :
    let afterAlloc := step (acceptingPlugin [oneSsu]) (idle number ids, ())
      (.alloc (onOneDisk 512) ⟨true, 1⟩)
    ssuControllerRelease (acceptingPlugin [oneSsu])
        (autoAllocateId number).chars afterAlloc.1 afterAlloc.2 =
      (.ok, idle (number + 1) (remembering ids (autoAllocateId number)),
        ()) := by
  obtain ⟨row, sameId, ssuId, length, allocated⟩ := idle_alloc fresh
  have cleared : ((advanced (addExtent (idle number ids) 0 0
      row)).allocations.clear 0).rows = [] := by
    have rows : ((idle number ids).allocations.put 0 row).clear 0 =
        (idle number ids).allocations := by
      apply SlotTable.clear_put_of_free (by decide)
      rfl
    have same : (advanced (addExtent (idle number ids) 0 0 row)).allocations =
        (idle number ids).allocations.put 0 row := rfl
    rw [same, rows]
    rfl
  have active : (advanced (addExtent (idle number ids) 0 0
      row)).allocations.get 0 = some row :=
    SlotTable.get_put_self (by decide)
  have named : row.info.allocateId.chars ≠ [] := by
    rw [sameId]
    exact autoAllocateId_ne_nil number
  have released : ssuControllerRelease (acceptingPlugin [oneSsu])
      row.info.allocateId.chars
      (advanced (addExtent (idle number ids) 0 0 row)) () = _ :=
    release_onlyRow rfl named active cleared rfl rfl
  rw [idle_drop ssuId length, rememberReleasedId_idle, sameId] at released
  simp only [allocated]
  exact released

theorem idle_pair (fresh : autoAllocateId number ∉ ids.items) :
    Transition.run (step (acceptingPlugin [oneSsu])) (idle number ids, ())
        (allocAndRelease number) =
      (idle (number + 1) (remembering ids (autoAllocateId number)), ()) :=
  congrArg Prod.snd (idle_release fresh)

/-- What is remembered of the ids below `count`. -/
def remembered : Nat → CountedArray (CBuf 64) maxReleased
  | 0 => .empty maxReleased
  | count + 1 =>
      remembering (remembered count) (autoAllocateId (UInt64.ofNat count))

theorem autoAllocateId_ofNat_inj {left right : Nat}
    (leftSmall : left < 2 ^ 64) (rightSmall : right < 2 ^ 64)
    (same : autoAllocateId (UInt64.ofNat left) =
      autoAllocateId (UInt64.ofNat right)) : left = right := by
  have numbers := congrArg UInt64.toNat (autoAllocateId_injective same)
  rwa [UInt64.toNat_ofNat_of_lt' leftSmall,
    UInt64.toNat_ofNat_of_lt' rightSmall] at numbers

/-- The ids of the numbers below `count`. -/
def idsBelow (count : Nat) : List (CBuf 64) :=
  (List.range count).map fun number => autoAllocateId (UInt64.ofNat number)

theorem not_mem_idsBelow {number count : Nat} (small : number < 2 ^ 64)
    (order : count ≤ number) :
    autoAllocateId (UInt64.ofNat number) ∉ idsBelow count := by
  intro listed
  obtain ⟨other, inRange, same⟩ := List.mem_map.mp listed
  have below := List.mem_range.mp inRange
  have equal := autoAllocateId_ofNat_inj (by omega) small same
  omega

/-- The table holds the first 128 of them. -/
theorem remembered_items (count : Nat) (small : count < 2 ^ 64) :
    (remembered count).items = idsBelow (min count maxReleased) := by
  induction count with
  | zero => rfl
  | succ count induction =>
      have known := induction (by omega)
      have fresh : releasedIdExists (idle 0 (remembered count))
          (autoAllocateId (UInt64.ofNat count)).chars = false := by
        rw [← Bool.not_eq_true, releasedIdExists_iff]
        intro member
        have listed : autoAllocateId (UInt64.ofNat count) ∈
            (remembered count).items := member
        rw [known] at listed
        exact not_mem_idsBelow (by omega) (Nat.min_le_left _ _) listed
      have count_eq : (remembered count).items.length =
          min count maxReleased := by
        rw [known, idsBelow, List.length_map, List.length_range]
      rw [remembered, remembering, rememberReleasedId, fresh]
      by_cases room : count < maxReleased
      · have roomy : (idle 0 (remembered count)).releasedIds.items.length <
            maxReleased := by
          have length : (idle 0 (remembered count)).releasedIds.items.length =
            (remembered count).items.length := rfl
          omega
        rw [if_neg Bool.false_ne_true, dif_pos roomy]
        have low : min count maxReleased = count := by omega
        have next : min (count + 1) maxReleased = count + 1 := by omega
        rw [low] at known
        rw [next, idsBelow, List.range_succ, List.map_append, ← idsBelow,
          ← known, CountedArray.items_push, copyCstr_chars_self]
        rfl
      · have full : ¬(idle 0 (remembered count)).releasedIds.items.length <
            maxReleased := by
          have length : (idle 0 (remembered count)).releasedIds.items.length =
            (remembered count).items.length := rfl
          omega
        have high : min (count + 1) maxReleased = min count maxReleased := by
          omega
        rw [if_neg Bool.false_ne_true, dif_neg full, high]
        exact known

/-- `count` allocations, each released at once. -/
def manyReleases (count : Nat) : List ControllerOp :=
  .refreshPool :: (List.range count).flatMap fun number =>
    allocAndRelease (UInt64.ofNat number)

theorem remembered_fresh {count : Nat} (small : count < 2 ^ 64) :
    autoAllocateId (UInt64.ofNat count) ∉ (remembered count).items := by
  rw [remembered_items count small]
  exact not_mem_idsBelow small (Nat.min_le_left _ _)

theorem manyReleases_succ (count : Nat) :
    manyReleases (count + 1) =
      manyReleases count ++ allocAndRelease (UInt64.ofNat count) := by
  rw [manyReleases, manyReleases, List.range_succ, List.flatMap_append,
    List.flatMap_singleton, List.cons_append]

theorem reached_manyReleases (count : Nat) (small : count < 2 ^ 64) :
    reached (acceptingPlugin [oneSsu]) () (manyReleases count) =
      (idle (UInt64.ofNat count) (remembered count), ()) := by
  induction count with
  | zero => decide +kernel
  | succ count induction =>
      have before : Transition.run (step (acceptingPlugin [oneSsu]))
          (.initial, ()) (manyReleases count) = _ := induction (by omega)
      have fresh : autoAllocateId (UInt64.ofNat count) ∉
          (remembered count).items := remembered_fresh (by omega)
      have pair := idle_pair fresh
      rw [reached, manyReleases_succ, Transition.run_append, before, pair,
        UInt64.ofNat_add]
      rfl

/-- Every id released after the first 128 is forgotten: its second release
finds nothing. -/
theorem manyReleases_forgets {count : Nat} (small : count + 1 < 2 ^ 64)
    (full : maxReleased ≤ count) :
    ¬ReleaseIdempotent (acceptingPlugin [oneSsu]) () (manyReleases (count + 1))
      (autoAllocateId (UInt64.ofNat count)).chars := by
  intro idempotent
  have atEnd := idempotent (manyReleases (count + 1)) []
    (List.append_nil _).symm
  have before := reached_manyReleases count (by omega)
  have after := reached_manyReleases (count + 1) small
  have released : ReleasedIn (acceptingPlugin [oneSsu]) ()
      (manyReleases (count + 1))
      (autoAllocateId (UInt64.ofNat count)).chars := by
    refine ⟨manyReleases count ++ [.alloc (onOneDisk 512) ⟨true, 1⟩], [], ?_, ?_⟩
    · rw [manyReleases_succ, allocAndRelease, List.append_assoc,
        List.singleton_append]
    · have fresh : autoAllocateId (UInt64.ofNat count) ∉
          (remembered count).items := remembered_fresh (by omega)
      rw [reached_snoc, before]
      exact congrArg Prod.fst (idle_release fresh)
  have again := atEnd.again released
  have forgotten : releasedIdExists
      (idle (UInt64.ofNat (count + 1)) (remembered (count + 1)))
      (autoAllocateId (UInt64.ofNat count)).chars = false := by
    rw [← Bool.not_eq_true, releasedIdExists_iff]
    intro member
    have listed : autoAllocateId (UInt64.ofNat count) ∈
        (remembered (count + 1)).items := member
    rw [remembered_items (count + 1) small] at listed
    exact not_mem_idsBelow (by omega) (by omega) listed
  have noRows : (idle (UInt64.ofNat (count + 1))
      (remembered (count + 1))).allocations.rows = [] := rfl
  have noDevices : (idle (UInt64.ofNat (count + 1))
      (remembered (count + 1))).logdevs.rows = [] := rfl
  have absent : ssuControllerRelease (acceptingPlugin [oneSsu])
      (autoAllocateId (UInt64.ofNat count)).chars
      (idle (UInt64.ofNat (count + 1)) (remembered (count + 1))) () =
        (.notFound,
          idle (UInt64.ofNat (count + 1)) (remembered (count + 1)), ()) := by
    have unnamed : LogdevsNamed (idle (UInt64.ofNat (count + 1))
        (remembered (count + 1))) := by
      intro logdev member
      rw [noDevices] at member
      cases member
    have unowned : ∀ row ∈ (idle (UInt64.ofNat (count + 1))
        (remembered (count + 1))).allocations.rows,
        rowHasId (autoAllocateId (UInt64.ofNat count)).chars row = false := by
      intro row member
      rw [noRows] at member
      cases member
    have answered : ssuControllerRelease (acceptingPlugin [oneSsu])
        (autoAllocateId (UInt64.ofNat count)).chars
        (idle (UInt64.ofNat (count + 1)) (remembered (count + 1))) () = _ :=
      release_absent rfl (autoAllocateId_ne_nil _) unowned unnamed ()
    rw [answered, forgotten]
    rfl
  rw [after, absent] at again
  cases congrArg Prod.fst again

theorem full_table_forgets :
    ¬ReleaseIdempotent (acceptingPlugin [oneSsu]) () (manyReleases 129)
      (autoAllocateId (UInt64.ofNat 128)).chars :=
  manyReleases_forgets (by decide) (by decide)

end FullTable

end UbseSsu.Controller

import UbseSsu.Controller.Events
import UbseSsu.Library.Tiling

/-!
# Relational specification of the controller's loops

`ExtentRun` and `ReleaseRun` describe the successful rounds of the extent loop
of `ssu_controller_alloc` and of the deletion loop of
`ssu_controller_release`.  Each executable loop is such a run, possibly ended
by one refused plugin call; what a run does to the tables is then proved by
induction on its rounds.
-/

namespace UbseSsu.Controller

open Relation (ReflTransGen)

variable {PluginState : Type}

section Selection

/-- What the two nested selection loops return: one ONLINE SSU with enough
room for every extent, no SSU twice. -/
structure Selected (state : ControllerState) (onlineIndexes : List Nat)
    (baseLength remainder : UInt64) (extents selected : List Nat) : Prop where
  distinct : selected.Nodup
  online : ∀ poolIndex ∈ selected, poolIndex ∈ onlineIndexes
  room : List.Forall₂ (fun extent poolIndex =>
    poolIndexHasCapacity state poolIndex
      (extentLength baseLength remainder extent) = true) extents selected

theorem selectPoolIndexes_ok {state : ControllerState}
    {onlineIndexes extents before selected result : List Nat}
    {baseLength remainder : UInt64}
    (sofar : Selected state onlineIndexes baseLength remainder before selected)
    (chosen : selectPoolIndexes state onlineIndexes baseLength remainder
      extents selected = .ok result) :
    Selected state onlineIndexes baseLength remainder (before ++ extents)
      result := by
  induction extents generalizing before selected with
  | nil =>
      simp only [selectPoolIndexes, Except.ok.injEq] at chosen
      subst chosen
      simpa using sofar
  | cons extent extents induction =>
      simp only [selectPoolIndexes] at chosen
      split at chosen
      · contradiction
      · rename_i poolIndex found
        have usable := List.find?_some found
        have listed := List.mem_of_find?_eq_some found
        simp only [Bool.and_eq_true, Bool.not_eq_true', List.contains_eq_mem,
          decide_eq_false_iff_not] at usable
        have extended : Selected state onlineIndexes baseLength remainder
            (before ++ [extent]) (selected ++ [poolIndex]) :=
          { distinct := List.nodup_append.mpr
              ⟨sofar.distinct, List.nodup_singleton _, by
                intro old oldMember new newMember same
                rw [List.mem_singleton] at newMember
                exact usable.1 (newMember ▸ same ▸ oldMember)⟩
            online := by
              intro other member
              rcases List.mem_append.mp member with old | new
              · exact sofar.online other old
              · rw [List.mem_singleton.mp new]
                exact listed
            room := List.rel_append sofar.room
              (.cons usable.2 .nil) }
        have whole := induction extended chosen
        rwa [List.append_assoc, List.singleton_append] at whole

theorem selectPoolIndexes_error {state : ControllerState}
    {onlineIndexes extents selected : List Nat}
    {baseLength remainder : UInt64} {err : SsuErr}
    (refused : selectPoolIndexes state onlineIndexes baseLength remainder
      extents selected = .error err) : err = .noResource := by
  induction extents generalizing selected with
  | nil => simp [selectPoolIndexes] at refused
  | cons extent extents induction =>
      simp only [selectPoolIndexes] at refused
      split at refused
      · exact (Except.error.inj refused).symm
      · exact induction refused

end Selection

section Extents

variable {plugin : SsuPluginOps PluginState}
  {createNs : SsuExtentCreateReq → PluginState → CreateNsAnswer × PluginState}
  {ctx : AllocContext}

/-- Successful rounds of the extent loop over the SSUs `poolIndexes`, with the
filled slots and their rows. -/
inductive ExtentRun
    (createNs : SsuExtentCreateReq → PluginState → CreateNsAnswer × PluginState)
    (ctx : AllocContext) :
    List Nat → Nat → UInt64 → ControllerState × PluginState →
      List (Nat × ControllerAllocation) → ControllerState × PluginState →
        Prop where
  | done (index : Nat) (offset : UInt64) (current : ControllerState × PluginState) :
      ExtentRun createNs ctx [] index offset current [] current
  | place {state : ControllerState} {world after : PluginState}
      {slot poolIndex index : Nat} {offset : UInt64}
      {resource : SsuResourceInfo} {answer : CreateNsAnswer}
      {poolIndexes : List Nat} {entries : List (Nat × ControllerAllocation)}
      {last : ControllerState × PluginState}
      (checked : ExtentChecked ctx state slot poolIndex index resource)
      (answered : createNs (ctx.extentReq resource index offset) world =
        (answer, after))
      (accepted : answer.err = .ok)
      (rest : ExtentRun createNs ctx poolIndexes (index + 1)
        (offset + extentLength ctx.baseLength ctx.remainder index)
        (addExtent state slot poolIndex
          (ctx.row (ctx.extentReq resource index offset) answer), after)
        entries last) :
      ExtentRun createNs ctx (poolIndex :: poolIndexes) index offset
        (state, world)
        ((slot, ctx.row (ctx.extentReq resource index offset) answer) ::
          entries) last

/-- How the extent loop ended after the rounds of `placed`. -/
structure CreateEnded
    (createNs : SsuExtentCreateReq → PluginState → CreateNsAnswer × PluginState)
    (selected : List Nat) (created : List Nat)
    (entries : List (Nat × ControllerAllocation))
    (placed : List Nat) (last : ControllerState × PluginState)
    (result : CreateResult PluginState) : Prop where
  head : ∃ rest, selected = placed ++ rest
  state : result.state = last.1
  created : result.created = (entries.map Prod.fst).reverse ++ created
  complete : result.err = .ok → placed = selected ∧ result.world = last.2
  stopped : result.err ≠ .ok → result.world = last.2 ∨
    ∃ extentReq, (createNs extentReq last.2).1.err ≠ .ok ∧
      result.world = (createNs extentReq last.2).2

theorem createExtents_run
    (createNs : SsuExtentCreateReq → PluginState → CreateNsAnswer × PluginState)
    (ctx : AllocContext) (selected : List Nat) (index : Nat)
    (offset : UInt64) (created : List Nat) (extents : List SsuAllocExtent)
    (state : ControllerState) (world : PluginState) :
    ∃ placed entries last,
      ExtentRun createNs ctx placed index offset (state, world) entries last ∧
        CreateEnded createNs selected created entries placed last
          (createExtents createNs ctx selected index offset created extents
            state world) := by
  induction selected generalizing index offset created extents state world with
  | nil =>
      exact ⟨[], [], _, .done index offset _,
        ⟨[], rfl⟩, rfl, rfl, fun _ => ⟨rfl, rfl⟩, fun _ => .inl rfl⟩
  | cons poolIndex selected induction =>
      -- A round that stops before its plugin call leaves everything as it was.
      have halted : ∀ err, err ≠ SsuErr.ok →
          ∃ placed entries last,
            ExtentRun createNs ctx placed index offset (state, world) entries
              last ∧
            CreateEnded createNs (poolIndex :: selected) created entries placed
              last { err, created, outExtents := [], state, world } :=
        fun err failed => ⟨[], [], _, .done index offset _,
          ⟨_, rfl⟩, rfl, rfl, fun fine => (failed fine).elim, fun _ => .inl rfl⟩
      cases free : state.allocations.firstFree with
      | none =>
          simp only [createExtents, free]
          exact halted _ (by decide)
      | some slot =>
          cases pooled : state.pool.items[poolIndex]? with
          | none =>
              simp only [createExtents, free, pooled]
              exact halted _ (by decide)
          | some resource =>
              simp only [createExtents, free, pooled]
              split
              · exact halted _ (by decide)
              · rename_i room
                split
                · exact halted _ (by decide)
                · rename_i aligned
                  obtain ⟨counted, fits⟩ := not_or.mp room
                  have checked : ExtentChecked ctx state slot poolIndex index
                      resource :=
                    { free, pooled
                      counted := UInt64.not_lt.mp counted
                      fits := UInt64.not_lt.mp fits
                      aligned := not_not.mp aligned }
                  cases answered :
                      createNs (ctx.extentReq resource index offset) world with
                  | mk answer after =>
                      split
                      · rename_i refused
                        refine ⟨[], [], _, .done index offset _, ⟨_, rfl⟩, rfl,
                          rfl, fun fine => (refused fine).elim, fun _ => .inr
                            ⟨ctx.extentReq resource index offset, ?_, ?_⟩⟩
                        · simpa only [answered] using refused
                        · simp only [answered]
                      · rename_i accepted
                        obtain ⟨placed, entries, last, run, ended⟩ :=
                          induction (index + 1)
                            (offset + extentLength ctx.baseLength
                              ctx.remainder index) (slot :: created)
                            (AllocContext.extent resource
                              (ctx.extentReq resource index offset) answer ::
                                extents)
                            (addExtent state slot poolIndex
                              (ctx.row (ctx.extentReq resource index offset)
                                answer)) after
                        obtain ⟨rest, split⟩ := ended.head
                        refine ⟨poolIndex :: placed, _, last,
                          .place checked answered (not_not.mp accepted) run,
                          ⟨rest, by rw [split]; rfl⟩, ended.state, ?_,
                          fun fine => ?_, ended.stopped⟩
                        · rw [ended.created]
                          simp
                        · obtain ⟨all, world⟩ := ended.complete fine
                          exact ⟨by rw [all], world⟩

/-- One round over a plugin that accepted it: the row is filled from the pool
entry and the plugin's answer. -/
def PlacedOn
    (createNs : SsuExtentCreateReq → PluginState → CreateNsAnswer × PluginState)
    (ctx : AllocContext) (state : ControllerState) (poolIndex index : Nat)
    (row : ControllerAllocation) : Prop :=
  ∃ resource, state.pool.items[poolIndex]? = some resource ∧
    ∃ offset world,
      (createNs (ctx.extentReq resource index offset) world).1.err = .ok ∧
        row = ctx.row (ctx.extentReq resource index offset)
          (createNs (ctx.extentReq resource index offset) world).1

def rowSpan (row : ControllerAllocation) : Tiling.Span :=
  (row.info.logicalOffset.toNat, row.info.length.toNat)

/-- The running offset after a round is where the next extent starts. -/
theorem offset_add_length {baseLength remainder offset : UInt64}
    {index : Nat}
    (starts : offset.toNat = extentOffset baseLength remainder index)
    (bounded : extentOffset baseLength remainder (index + 1) < 2 ^ 64) :
    (offset + extentLength baseLength remainder index).toNat =
        extentOffset baseLength remainder (index + 1) ∧
      offset.toNat + (extentLength baseLength remainder index).toNat =
        extentOffset baseLength remainder (index + 1) := by
  have added := extentOffset_add_length bounded
  rw [← starts] at added
  refine ⟨?_, added⟩
  rw [UInt64.toNat_add, added]
  exact Nat.mod_eq_of_lt bounded

namespace ExtentRun

variable {poolIndexes : List Nat} {index : Nat} {offset : UInt64}
  {first last : ControllerState × PluginState}
  {entries : List (Nat × ControllerAllocation)}

/-- The rounds change the pool and the rows and nothing else. -/
theorem frame
    (run : ExtentRun createNs ctx poolIndexes index offset first entries
      last) :
    ∃ pool allocations, last.1 =
      { first.1 with pool := pool, allocations := allocations } := by
  induction run with
  | done => exact ⟨_, _, rfl⟩
  | place _ _ _ _ induction =>
      obtain ⟨pool, allocations, same⟩ := induction
      exact ⟨pool, allocations, same⟩

theorem logdevs
    (run : ExtentRun createNs ctx poolIndexes index offset first entries
      last) : last.1.logdevs = first.1.logdevs := by
  obtain ⟨_, _, same⟩ := run.frame
  rw [same]

theorem releasedIds
    (run : ExtentRun createNs ctx poolIndexes index offset first entries
      last) : last.1.releasedIds = first.1.releasedIds := by
  obtain ⟨_, _, same⟩ := run.frame
  rw [same]

theorem nextAllocationId
    (run : ExtentRun createNs ctx poolIndexes index offset first entries
      last) : last.1.nextAllocationId = first.1.nextAllocationId := by
  obtain ⟨_, _, same⟩ := run.frame
  rw [same]

theorem length_entries
    (run : ExtentRun createNs ctx poolIndexes index offset first entries
      last) : entries.length = poolIndexes.length := by
  induction run with
  | done => rfl
  | place _ _ _ _ induction => simpa using induction

theorem written
    (run : ExtentRun createNs ctx poolIndexes index offset first entries
      last) : ∀ entry ∈ entries, WrittenBy ctx entry.2 := by
  induction run with
  | done => simp
  | place _ _ _ _ induction =>
      intro entry member
      rcases List.mem_cons.mp member with rfl | later
      · exact writtenBy_row ctx _ _
      · exact induction entry later

theorem rows_perm
    (run : ExtentRun createNs ctx poolIndexes index offset first entries
      last) :
    last.1.allocations.rows.Perm
      (entries.map Prod.snd ++ first.1.allocations.rows) := by
  induction run with
  | done => simp
  | place checked _ _ _ induction =>
      obtain ⟨bound, free⟩ := SlotTable.get_firstFree checked.free
      exact induction.trans
        (((SlotTable.rows_put_perm bound free).append_left _).trans
          List.perm_middle)

/-- The rows of the running allocation are met in the order of their
creation: every later one lies in a higher slot. -/
theorem filter_rows_own
    (run : ExtentRun createNs ctx poolIndexes index offset first entries last)
    (inOrder : ∀ free, first.1.allocations.firstFree = some free →
      ∀ slot row, first.1.allocations.get slot = some row →
        rowHasId ctx.allocateId.chars row = true → slot < free) :
    last.1.allocations.rows.filter (rowHasId ctx.allocateId.chars) =
      first.1.allocations.rows.filter (rowHasId ctx.allocateId.chars) ++
        entries.map Prod.snd := by
  induction run with
  | done => simp
  | @place _ _ _ filled _ _ _ _ _ _ _ _ checked _ _ _ induction =>
      obtain ⟨bound, free⟩ := SlotTable.get_firstFree checked.free
      have own : ∀ extentReq answer,
          rowHasId ctx.allocateId.chars (ctx.row extentReq answer) = true :=
        fun _ _ => by simp [rowHasId, AllocContext.row]
      rw [induction ?_]
      · rw [addExtent_allocations,
          SlotTable.filter_put_of_last bound free (own _ _)
            (inOrder _ checked.free)]
        simp
      · intro next foundNext slot row active owned
        have later := SlotTable.lt_firstFree_put checked.free foundNext
        by_cases same : slot = filled
        · exact same ▸ later
        · rw [addExtent_allocations, SlotTable.get_put_other (Ne.symm same)] at active
          exact (inOrder _ checked.free slot row active owned).trans later

theorem filter_rows_other
    (run : ExtentRun createNs ctx poolIndexes index offset first entries last)
    {allocateId : CString} (different : ctx.allocateId.chars ≠ allocateId) :
    last.1.allocations.rows.filter (rowHasId allocateId) =
      first.1.allocations.rows.filter (rowHasId allocateId) := by
  induction run with
  | done => rfl
  | place checked _ _ _ induction =>
      obtain ⟨bound, free⟩ := SlotTable.get_firstFree checked.free
      rw [induction, addExtent_allocations]
      exact SlotTable.filter_put_of_not bound free
        (by simp [rowHasId, AllocContext.row, different])

/-- No SSU is taken twice, so every round sees the counters as the
allocation found them. -/
theorem placedOn
    (run : ExtentRun createNs ctx poolIndexes index offset first entries last)
    (distinct : poolIndexes.Nodup) (original : ControllerState)
    (untouched : ∀ poolIndex ∈ poolIndexes,
      first.1.pool.items[poolIndex]? = original.pool.items[poolIndex]?) :
    List.Forall₂ (fun choice entry =>
      PlacedOn createNs ctx original choice.1 choice.2 entry.2)
      (poolIndexes.zipIdx index) entries := by
  induction run with
  | done => exact .nil
  | @place state world after filled poolIndex index offset resource answer
      poolIndexes entries last checked answered accepted _ induction =>
      obtain ⟨fresh, others⟩ := List.nodup_cons.mp distinct
      refine .cons ?_ (induction others fun other member => ?_)
      · have unchanged := untouched poolIndex List.mem_cons_self
        refine ⟨resource, unchanged.symm.trans checked.pooled, offset, world,
          ?_, ?_⟩
        · rw [answered]
          exact accepted
        · rw [answered]
      · have different : poolIndex ≠ other :=
          (ne_of_mem_of_not_mem member fresh).symm
        simp only [addExtent, addUsedBytes, CountedArray.items_modifyAt,
          List.getElem?_modify_ne _ _ different]
        exact untouched other (List.mem_cons_of_mem _ member)

/-- The rows lie end to end from the first round's offset on. -/
theorem consecutive
    (run : ExtentRun createNs ctx poolIndexes index offset first entries last)
    (starts : offset.toNat =
      extentOffset ctx.baseLength ctx.remainder index)
    (bounded : extentOffset ctx.baseLength ctx.remainder
      (index + poolIndexes.length) < 2 ^ 64) :
    Tiling.Consecutive offset.toNat
      (extentOffset ctx.baseLength ctx.remainder (index + poolIndexes.length))
      (entries.map fun entry => rowSpan entry.2) := by
  induction run with
  | done => exact starts
  | @place _ _ _ _ _ index _ _ _ poolIndexes _ _ _ _ _ _ induction =>
      have reach : index + (poolIndexes.length + 1) =
          index + 1 + poolIndexes.length := by omega
      rw [List.length_cons, reach] at bounded
      obtain ⟨next, added⟩ := offset_add_length starts
        (Nat.lt_of_le_of_lt (extentOffset_mono _ _ (Nat.le_add_right _ _)) bounded)
      have rest := induction next bounded
      rw [next, ← added] at rest
      rw [List.length_cons, reach]
      exact ⟨rfl, rest⟩

end ExtentRun

end Extents

end UbseSsu.Controller

import UbseSsu.Controller.RowEffects
import UbseSsu.Library.Regions
import UbseSsu.Plugin.MockDiscovery

/-!
# Physical isolation over the mock plugin

The mock plugin puts an extent where the controller's hint says, and the hint
is the SSU's `used_bytes`.  That counter is a sum of lengths, not the end of
the highest extent: once an extent below another one is released, the counter
points into ground that is still in use.  The extents of different rows stay
apart in every run whose allocations only find free ground behind the counters
of the SSUs they select, and an allocation that succeeds on other ground does
overlap.
-/

namespace UbseSsu.System

open Controller Plugin Regions

/-- The bytes of an allocation row on its SSU's only device. -/
def physicalRegion (row : ControllerAllocation) : Region (CBuf 64) :=
  { device := row.info.ssuId
    start := row.info.physSector.toNat * 512
    length := row.info.length.toNat }

def PhysicallyIsolated (state : ControllerState) : Prop :=
  Isolated (state.allocations.rows.map physicalRegion)

instance (state : ControllerState) : Decidable (PhysicallyIsolated state) :=
  inferInstanceAs (Decidable (Isolated _))

section Planned

variable (state : ControllerState) (req : SsuAllocReq)

/-- Where the extents of a request go: behind the counters of the selected
SSUs. -/
def plannedRegions : List (Region (CBuf 64)) :=
  let online := onlinePoolIndexes state
  let extentCount := plannedExtentCount req online.length
  let baseLength := req.sizeBytes / UInt64.ofNat extentCount
  let remainder := req.sizeBytes % UInt64.ofNat extentCount
  match selectPoolIndexes state online baseLength remainder
      (List.range extentCount) [] with
  | .error _ => []
  | .ok selected =>
      (selected.zipIdx 0).filterMap fun choice =>
        (state.pool.items[choice.1]?).map fun resource =>
          { device := resource.ssuId
            start := resource.usedBytes.toNat
            length := (extentLength baseLength remainder choice.2).toNat }

/-- The request passes the checks before the extents are placed. -/
structure Placeable (buffer : ExtentBuffer) : Prop where
  stripe : req.reliability = .stripe
  sized : req.sizeBytes ≠ 0
  hosts : (buildHostKey req.hostIds).isSome = true
  name : req.diskName = [] ∨
    allocationNameIsValid req.diskName = true ∧
      diskNameIsActive state req.diskName = false
  present : buffer.present = true
  room : plannedExtentCount req (onlinePoolIndexes state).length ≤
    buffer.count.toNat
  slots : plannedExtentCount req (onlinePoolIndexes state).length ≤
    state.allocations.freeSlots.length

instance (buffer : ExtentBuffer) : Decidable (Placeable state req buffer) :=
  decidable_of_iff
    (req.reliability = .stripe ∧ req.sizeBytes ≠ 0 ∧
      (buildHostKey req.hostIds).isSome = true ∧
      (req.diskName = [] ∨ allocationNameIsValid req.diskName = true ∧
        diskNameIsActive state req.diskName = false) ∧
      buffer.present = true ∧
      plannedExtentCount req (onlinePoolIndexes state).length ≤
        buffer.count.toNat ∧
      plannedExtentCount req (onlinePoolIndexes state).length ≤
        state.allocations.freeSlots.length)
    ⟨fun ⟨stripe, sized, hosts, name, present, room, slots⟩ =>
      ⟨stripe, sized, hosts, name, present, room, slots⟩,
      fun ⟨stripe, sized, hosts, name, present, room, slots⟩ =>
      ⟨stripe, sized, hosts, name, present, room, slots⟩⟩

/-- No active row reaches into the ground of the planned extents. -/
def FreeGround : Prop :=
  ∀ row ∈ state.allocations.rows, ∀ planned ∈ plannedRegions state req,
    Apart planned (physicalRegion row)

instance : Decidable (FreeGround state req) :=
  inferInstanceAs (Decidable (∀ row ∈ _, ∀ planned ∈ _, _))

end Planned

/-- An allocation that gets as far as placing extents finds free ground. -/
def PlacesOnFreeGround (current : ControllerState × MockState) :
    ControllerOp → Prop
  | .alloc req buffer =>
      Placeable current.1 req buffer → FreeGround current.1 req
  | _ => True

instance decidablePlacesOnFreeGround
    (current : ControllerState × MockState) :
    ∀ op, Decidable (PlacesOnFreeGround current op)
  | .alloc req buffer =>
      inferInstanceAs (Decidable (Placeable current.1 req buffer → _))
  | .refreshPool | .release _ | .mount _ | .unmount _ =>
      inferInstanceAs (Decidable True)

section Placement

variable {PluginState : Type} {plugin : SsuPluginOps PluginState}
  {req : SsuAllocReq} {buffer : ExtentBuffer} {state : ControllerState}
  {ctx : AllocContext} {number : UInt64} {selected : List Nat}

/-- The checks of the caller's array and of the free rows. -/
theorem allocNew_ok_room {createNs} {hostKey : CBuf hostKeySize}
    {world : PluginState}
    (answered : (allocNew createNs plugin req hostKey buffer state
      world).1.err = .ok) :
    buffer.present = true ∧
      plannedExtentCount req (onlinePoolIndexes state).length ≤
        buffer.count.toNat ∧
      plannedExtentCount req (onlinePoolIndexes state).length ≤
        state.allocations.freeSlots.length := by
  obtain ⟨number, search, _⟩ := nextAutoAllocateId_spec state
  have search : nextAutoAllocateId state =
      (autoAllocateId number, numbered state number) := search
  simp only [allocNew, search, onlinePoolIndexes_numbered] at answered
  split at answered
  · cases answered
  · split at answered
    · cases answered
    · split at answered
      · cases answered
      · rename_i room
        split at answered
        · cases answered
        · rename_i slots
          simp only [Bool.or_eq_true, Bool.not_eq_true', decide_eq_true_eq,
            not_or, Bool.not_eq_false, not_lt] at room
          exact ⟨room.1, room.2, not_lt.mp slots⟩

theorem placeable_of_plan {world : PluginState}
    (plan : AllocPlan req state ctx number selected)
    (answered : (ssuControllerAlloc plugin req buffer state world).1.err =
      .ok) : Placeable state req buffer := by
  have hosts := plan.hostKey
  have room : buffer.present = true ∧
      plannedExtentCount req (onlinePoolIndexes state).length ≤
        buffer.count.toNat ∧
      plannedExtentCount req (onlinePoolIndexes state).length ≤
        state.allocations.freeSlots.length := by
    unfold ssuControllerAlloc at answered
    split at answered
    · cases answered
    · simp only [plan.stripe, ne_eq, not_true, if_false, plan.sized, hosts]
        at answered
      rcases plan.name with unnamed | ⟨valid, free⟩
      · simp only [unnamed, isEmptyString, List.isEmpty_nil, if_true]
          at answered
        exact allocNew_ok_room answered
      · split at answered
        · exact allocNew_ok_room answered
        · simp only [valid, Bool.not_true, Bool.false_eq_true, if_false, free]
            at answered
          exact allocNew_ok_room answered
  exact ⟨plan.stripe, plan.sized, by rw [hosts]; rfl, plan.name, room.1,
    room.2.1, room.2.2⟩

theorem plannedRegions_of_plan
    (plan : AllocPlan req state ctx number selected) :
    plannedRegions state req =
      (selected.zipIdx 0).filterMap fun choice =>
        (state.pool.items[choice.1]?).map fun resource =>
          { device := resource.ssuId
            start := resource.usedBytes.toNat
            length := (extentLength ctx.baseLength ctx.remainder
              choice.2).toNat } := by
  have chosen := plan.selection
  rw [plan.baseLength, plan.remainder] at chosen ⊢
  rw [plan.planned] at chosen ⊢
  simp only [plannedRegions, chosen]

theorem capacity_of_plan (plan : AllocPlan req state ctx number selected)
    {choice : Nat × Nat} (member : choice ∈ selected.zipIdx 0) :
    poolIndexHasCapacity state choice.1
      (extentLength ctx.baseLength ctx.remainder choice.2) = true := by
  obtain ⟨count, each⟩ := List.forall₂_iff_get.mp plan.chosen.room
  obtain ⟨_, inside, value⟩ := List.mem_zipIdx member
  simp only [Nat.zero_add, Nat.sub_zero] at inside value
  have fits := each choice.2 (by rw [count]; exact inside) inside
  simp only [List.get_eq_getElem, List.getElem_range] at fits
  rw [value]
  exact fits

/-- The planned regions lie on different SSUs. -/
theorem plannedRegions_isolated
    (plan : AllocPlan req state ctx number selected)
    (distinct : (ssuIds state.pool.items).Nodup) :
    Isolated (plannedRegions state req) := by
  rw [plannedRegions_of_plan plan]
  have unequal : (selected.zipIdx 0).Pairwise fun left right =>
      left.1 ≠ right.1 := by
    refine List.pairwise_map.mp ?_
    rw [List.zipIdx_map_fst]
    exact plan.chosen.distinct
  refine unequal.filterMap _ fun left right different one oneFound other
    otherFound same => (different ?_).elim
  obtain ⟨resource, found, rfl⟩ := Option.map_eq_some_iff.mp oneFound
  obtain ⟨resource', found', rfl⟩ := Option.map_eq_some_iff.mp otherFound
  have inside := (List.getElem?_eq_some_iff.mp found).1
  refine (List.getElem?_inj (by rw [ssuIds, List.length_map]; exact inside)
    distinct).mp ?_
  simp only [ssuIds, List.getElem?_map, found, found', Option.map_some]
  exact congrArg some same

theorem mockCreateNs_hint {extentReq : SsuExtentCreateReq}
    {world : MockState} (accepted : (mockCreateNs extentReq world).1.err = .ok) :
    (mockCreateNs extentReq world).1.physSector = extentReq.physOffsetHint := by
  unfold mockCreateNs at accepted ⊢
  simp only at accepted ⊢
  split
  · rename_i refused
    simp [refused] at accepted
  · rename_i stripe
    rw [if_neg stripe] at accepted
    split <;> simp_all

/-- The created rows lie exactly where the counters said. -/
theorem created_regions {entries : List (Nat × ControllerAllocation)}
    {choices : List (Nat × Nat)}
    (placed : List.Forall₂ (fun choice entry =>
      PlacedOn mockCreateNs ctx state choice.1 choice.2 entry.2)
      choices entries)
    (room : ∀ choice ∈ choices, poolIndexHasCapacity state choice.1
      (extentLength ctx.baseLength ctx.remainder choice.2) = true) :
    (entries.map Prod.snd).map physicalRegion =
      choices.filterMap fun choice =>
        (state.pool.items[choice.1]?).map fun resource =>
          { device := resource.ssuId
            start := resource.usedBytes.toNat
            length := (extentLength ctx.baseLength ctx.remainder
              choice.2).toNat } := by
  induction placed with
  | nil => rfl
  | @cons choice entry _ _ first _ induction =>
      obtain ⟨roomy, others⟩ := List.forall_mem_cons.mp room
      obtain ⟨resource, pooled, offset, world, accepted, filled⟩ := first
      have aligned : resource.usedBytes.toNat % 512 = 0 := by
        simp only [poolIndexHasCapacity, pooled] at roomy
        split at roomy
        · contradiction
        · rename_i counted
          have value := congrArg UInt64.toNat (not_not.mp (not_or.mp counted).2)
          rw [UInt64.toNat_mod] at value
          exact value
      have start : (resource.usedBytes / sectorSize).toNat * 512 =
          resource.usedBytes.toNat := by
        rw [UInt64.toNat_div]
        exact Nat.div_mul_cancel (Nat.dvd_of_mod_eq_zero aligned)
      have region : physicalRegion entry.2 =
          { device := resource.ssuId
            start := (resource.usedBytes / sectorSize).toNat * 512
            length := (extentLength ctx.baseLength ctx.remainder
              choice.2).toNat } := by
        rw [filled]
        exact congrArg (fun sector : UInt64 => Region.mk resource.ssuId
          (sector.toNat * 512) _) (mockCreateNs_hint accepted)
      rw [List.map_cons, List.map_cons, induction others,
        List.filterMap_cons_some (by rw [pooled]; rfl), region, start]

variable {world : MockState} {entries : List (Nat × ControllerAllocation)}
  {last : ControllerState × MockState}

/-- The rows after a successful allocation over the mock plugin. -/
theorem regions_after_placement
    (plan : AllocPlan req state ctx number selected)
    (run : ExtentRun mockCreateNs ctx selected 0 0 (numbered state number, world)
      entries last) :
    ((advanced last.1).allocations.rows.map physicalRegion).Perm
      (plannedRegions state req ++
        state.allocations.rows.map physicalRegion) := by
  have placed := run.placedOn plan.chosen.distinct state (fun _ _ => rfl)
  rw [plannedRegions_of_plan plan,
    ← created_regions placed fun choice member => capacity_of_plan plan member,
    ← List.map_append]
  exact run.rows_perm.map _

end Placement

section Runs

variable (host : MockHost)

theorem physicalRegion_setRowState (allocateId : CString) (newState : CBuf 16)
    (row : ControllerAllocation) :
    physicalRegion (setRowState allocateId newState row) =
      physicalRegion row := by
  simp [physicalRegion]

theorem physicallyIsolated_step (current : ControllerState × MockState)
    (op : ControllerOp) (conserved : Conserved current)
    (isolated : PhysicallyIsolated current.1)
    (free : PlacesOnFreeGround current op) :
    PhysicallyIsolated (step (mockPlugin host) current op).1 := by
  have effect := step_rowsEffect (mockPlugin host) current
    conserved.mounts.named op
  unfold PhysicallyIsolated at isolated ⊢
  generalize step (mockPlugin host) current op = after at effect
  cases effect with
  | kept same => rwa [same]
  | restated allocateId newState rows =>
      rw [rows, List.map_map]
      simpa only [Function.comp_def, physicalRegion_setRowState] using isolated
  | placed provided plan run answered =>
      obtain rfl := (Option.some.inj provided).symm
      have placeable := placeable_of_plan plan
        (congrArg Prod.fst answered)
      rw [isolated_perm (regions_after_placement plan run), isolated_append]
      refine ⟨plannedRegions_isolated plan conserved.accounted.distinct,
        isolated, ?_⟩
      intro planned plannedMember region regionMember
      obtain ⟨row, member, rfl⟩ := List.mem_map.mp regionMember
      exact free placeable row member planned plannedMember
  | removed gone _ rows =>
      rw [isolated_perm (rows.map _), List.map_append, isolated_append]
        at isolated
      exact isolated.2.1

/-- On ground that is not free a successful allocation does overlap. -/
theorem overlap_of_taken_ground {current : ControllerState × MockState}
    {req : SsuAllocReq} {buffer : ExtentBuffer}
    (placeable : Placeable current.1 req buffer)
    (taken : ¬FreeGround current.1 req)
    (answered : (exec (mockPlugin host) (.alloc req buffer) current.1
      current.2).1 = .ok) :
    ¬PhysicallyIsolated
      (step (mockPlugin host) current (.alloc req buffer)).1 := by
  have outcome := ssuControllerAlloc_outcome (mockPlugin host) req buffer
    current.1 current.2
  simp only [step, exec] at answered ⊢
  generalize ssuControllerAlloc (mockPlugin host) req buffer current.1
    current.2 = result at outcome answered
  cases outcome with
  | refused _ failed => exact (failed answered).elim
  | reused active =>
      rcases placeable.name with unnamed | ⟨_, free⟩
      · simp [unnamed, diskNameIsActive, findAllocationRowsByDiskName,
          isEmptyString] at active
      · rw [free] at active
        contradiction
  | undone _ _ _ _ _ failed => exact (failed answered).elim
  | created provided plan run _ _ =>
      obtain rfl := (Option.some.inj provided).symm
      intro isolated
      unfold PhysicallyIsolated at isolated
      rw [isolated_perm (regions_after_placement plan run), isolated_append]
        at isolated
      exact taken fun row member planned plannedMember =>
        isolated.2.2 planned plannedMember _ (List.mem_map_of_mem member)

/-- In every run over the mock plugin whose allocations find free ground the
extents of different rows share no byte; and from any reachable state a
successful allocation on other ground ends with an overlap. -/
theorem rows_isolated_on_free_ground (ops : List ControllerOp) :
    let current := Transition.run (step (mockPlugin host))
      (.initial, .initial) ops
    (Transition.Admissible (step (mockPlugin host)) PlacesOnFreeGround
        (.initial, .initial) ops → PhysicallyIsolated current.1) ∧
      ∀ req buffer, Placeable current.1 req buffer →
        ¬FreeGround current.1 req →
          (exec (mockPlugin host) (.alloc req buffer) current.1
            current.2).1 = .ok →
            ¬PhysicallyIsolated
              (step (mockPlugin host) current (.alloc req buffer)).1 := by
  intro current
  refine ⟨fun admissible => ?_, fun req buffer placeable taken answered =>
    overlap_of_taken_ground host placeable taken answered⟩
  have both := Transition.run_invariant
    (fun current : ControllerState × MockState =>
      Conserved current ∧ PhysicallyIsolated current.1)
    (fun current op holds free =>
      ⟨conserved_step _ current op holds.1 (mock_honestDiscovery host _ _),
        physicallyIsolated_step host current op holds.1 holds.2 free⟩)
    ⟨conserved_initial _, List.Pairwise.nil⟩ admissible
  exact both.2

/-- One configured mock SSU without any backing device. -/
def oneMockSsu : MockHost :=
  { ssuCount := "1".toList
    backendDir := []
    sysBlock := fun _ => []
    nullblkExists := fun _ _ => false
    nullblkSectors := fun _ _ => none
    openBackend := fun _ _ => false
    ctl := fun _ => { openErrno := some .enoent, blockLayer := none } }

/-- Two allocations of 8 KiB on the SSU. -/
def twoAllocations : List ControllerOp :=
  [.refreshPool, .alloc (plainRequest 8192 []) ⟨true, 8⟩,
    .alloc (plainRequest 8192 []) ⟨true, 8⟩]

/-- Releasing the later of the two leaves free ground behind the counter;
releasing the earlier one does not. -/
theorem rows_isolated_oneMockSsu :
    PhysicallyIsolated (Transition.run (step (mockPlugin oneMockSsu))
      (.initial, .initial) (twoAllocations ++
        [.release "alloc-1".toList,
          .alloc (plainRequest 8192 []) ⟨true, 8⟩])).1 ∧
      ¬PhysicallyIsolated (step (mockPlugin oneMockSsu)
        (Transition.run (step (mockPlugin oneMockSsu)) (.initial, .initial)
          (twoAllocations ++ [.release "alloc-0".toList]))
        (.alloc (plainRequest 8192 []) ⟨true, 8⟩)).1 :=
  ⟨(rows_isolated_on_free_ground oneMockSsu _).1 (by decide +kernel),
    (rows_isolated_on_free_ground oneMockSsu _).2 _ _ (by decide +kernel)
      (by decide +kernel) (by decide +kernel)⟩

theorem overlap_after_earlier_release :
    ¬PhysicallyIsolated (Transition.run (step (mockPlugin oneMockSsu))
      (.initial, .initial) (twoAllocations ++
        [.release "alloc-0".toList,
          .alloc (plainRequest 8192 []) ⟨true, 8⟩])).1 := by
  decide +kernel

end Runs

end UbseSsu.System

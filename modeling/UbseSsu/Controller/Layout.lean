import UbseSsu.Controller.Failures
import UbseSsu.Controller.NamedAllocation
import UbseSsu.Controller.Selection

/-!
# The layout of a new allocation

What a successful allocation leaves in the tables: its rows in free slots, one
for each chosen SSU, the lengths of an even split with the longer ones first,
and the counters of exactly these SSUs grown by the lengths.
-/

namespace UbseSsu.Controller

variable {PluginState : Type} {plugin : SsuPluginOps PluginState}

section Tables

variable
  {createNs : SsuExtentCreateReq → PluginState → CreateNsAnswer × PluginState}
  {ctx : AllocContext} {poolIndexes : List Nat} {index : Nat}
  {offset : UInt64} {first last : ControllerState × PluginState}
  {entries : List (Nat × ControllerAllocation)}

/-- The rows of a loop fill free slots and leave all other slots alone. -/
structure SlotsFilled (entries : List (Nat × ControllerAllocation))
    (before after : SlotTable ControllerAllocation maxAllocations) : Prop where
  distinct : (entries.map Prod.fst).Nodup
  free : ∀ entry ∈ entries, before.get entry.1 = none
  filled : ∀ entry ∈ entries, after.get entry.1 = some entry.2
  kept : ∀ slot ∉ entries.map Prod.fst, after.get slot = before.get slot

theorem SlotsFilled.cons
    {before after : SlotTable ControllerAllocation maxAllocations}
    {slot : Nat} {row : ControllerAllocation}
    (free : before.firstFree = some slot)
    (rest : SlotsFilled entries (before.put slot row) after) :
    SlotsFilled ((slot, row) :: entries) before after := by
  obtain ⟨bound, empty⟩ := SlotTable.get_firstFree free
  have own : (before.put slot row).get slot = some row :=
    SlotTable.get_put_self bound
  have fresh : slot ∉ entries.map Prod.fst := by
    intro member
    obtain ⟨entry, inRest, same⟩ := List.mem_map.mp member
    have absent := rest.free entry inRest
    rw [same, own] at absent
    cases absent
  constructor
  · rw [List.map_cons, List.nodup_cons]
    exact ⟨fresh, rest.distinct⟩
  · intro entry member
    rcases List.mem_cons.mp member with rfl | inRest
    · exact empty
    · have different : slot ≠ entry.1 := by
        rintro rfl
        exact fresh (List.mem_map_of_mem inRest)
      rw [← SlotTable.get_put_other different]
      exact rest.free entry inRest
  · intro entry member
    rcases List.mem_cons.mp member with rfl | inRest
    · rw [rest.kept slot fresh]
      exact own
    · exact rest.filled entry inRest
  · intro other outside
    rw [List.map_cons, List.mem_cons, not_or] at outside
    rw [rest.kept other outside.2]
    exact SlotTable.get_put_other (Ne.symm outside.1)

theorem ExtentRun.slotsFilled
    (run : ExtentRun createNs ctx poolIndexes index offset first entries last) :
    SlotsFilled entries first.1.allocations last.1.allocations := by
  induction run with
  | done => exact ⟨List.nodup_nil, by simp, by simp, fun _ _ => rfl⟩
  | place checked _ _ _ induction => exact induction.cons checked.free

/-- `used_bytes` after an extent of this length. -/
def charged (length : UInt64) (resource : SsuResourceInfo) :
    SsuResourceInfo :=
  { resource with usedBytes := resource.usedBytes + length }

/-- The counters of the chosen SSUs grow by the lengths of their rows, and
nothing else in the pool changes. -/
structure PoolCharged (poolIndexes : List Nat)
    (entries : List (Nat × ControllerAllocation))
    (before after : List SsuResourceInfo) : Prop where
  chosen : List.Forall₂ (fun poolIndex entry =>
    after[poolIndex]? =
      (before[poolIndex]?).map (charged entry.2.info.length))
    poolIndexes entries
  kept : ∀ poolIndex ∉ poolIndexes, after[poolIndex]? = before[poolIndex]?
  length : after.length = before.length

theorem ExtentRun.poolCharged
    (run : ExtentRun createNs ctx poolIndexes index offset first entries last)
    (distinct : poolIndexes.Nodup) :
    PoolCharged poolIndexes entries first.1.pool.items
      last.1.pool.items := by
  induction run with
  | done => exact ⟨.nil, fun _ _ => rfl, rfl⟩
  | @place state _ _ _ poolIndex index offset resource answer poolIndexes _ _
      _ _ _ _ induction =>
      obtain ⟨fresh, others⟩ := List.nodup_cons.mp distinct
      obtain ⟨chosen, kept, length⟩ := induction others
      have unchanged : ∀ other, poolIndex ≠ other →
          (state.pool.items.modify poolIndex (charged
            (ctx.row (ctx.extentReq resource index offset)
              answer).info.length))[other]? = state.pool.items[other]? :=
        fun other different => List.getElem?_modify_ne _ _ different
      constructor
      · apply List.Forall₂.cons
        · rw [kept poolIndex fresh]
          exact List.getElem?_modify_eq _ _ _
        · have apart : ∀ other ∈ poolIndexes, poolIndex ≠ other :=
            fun other member same => fresh (same ▸ member)
          apply ((List.forall₂_and_left _ _).mpr ⟨apart, chosen⟩).imp
          rintro other entry ⟨different, own⟩
          rw [own]
          exact congrArg _ (unchanged other different)
      · intro other outside
        rw [List.mem_cons, not_or] at outside
        rw [kept other outside.2]
        exact unchanged other (Ne.symm outside.1)
      · rw [length]
        exact List.length_modify _ _ _

end Tables

section Layout

/-- `min(k or the number of ONLINE SSUs, S)`. -/
def expectedCount (req : SsuAllocReq) (state : ControllerState) : Nat :=
  min (if req.physicalDiskCount = 0 then (onlinePoolIndexes state).length
    else req.physicalDiskCount.toNat) req.sizeBytes.toNat

/-- The even split of `size` bytes over `count` extents. -/
def evenLength (size count index : Nat) : Nat :=
  size / count + if index < size % count then 1 else 0

/-- An SSU that was chosen for a row. -/
structure ChosenFor (row : ControllerAllocation) (resource : SsuResourceInfo) :
    Prop where
  ssuId : resource.ssuId = row.info.ssuId
  online : resourceIsOnline resource = true
  aligned : resource.usedBytes % sectorSize = 0
  counted : resource.usedBytes.toNat ≤ resource.totalBytes.toNat
  room : row.info.length.toNat ≤
    resource.totalBytes.toNat - resource.usedBytes.toNat
  exactSum : (charged row.info.length resource).usedBytes.toNat =
    resource.usedBytes.toNat + row.info.length.toNat

/-- The tables after an allocation of the rows in `entries`, each with its
slot, and the extents that it reported. -/
structure AllocLayout (req : SsuAllocReq)
    (entries : List (Nat × ControllerAllocation))
    (extents : List SsuAllocExtent) (before after : ControllerState) :
    Prop where
  count : entries.length = expectedCount req before
  slots : SlotsFilled entries before.allocations after.allocations
  shown : ShownAs (entries.map Prod.snd) extents
  consecutive : Tiling.Consecutive 0 req.sizeBytes.toNat
    (entries.map fun entry => rowSpan entry.2)
  lengths : entries.map (fun entry => entry.2.info.length.toNat) =
    (List.range entries.length).map
      (evenLength req.sizeBytes.toNat entries.length)
  nonempty : ∀ entry ∈ entries, 0 < entry.2.info.length.toNat
  distinctSsus : (entries.map fun entry => entry.2.info.ssuId).Nodup
  chosen : ∀ entry ∈ entries, ∃ (place : Nat) (resource : SsuResourceInfo),
    before.pool.items[place]? = some resource ∧
      ChosenFor entry.2 resource ∧
      after.pool.items[place]? = some (charged entry.2.info.length resource)
  others : ∀ (place : Nat) (resource : SsuResourceInfo),
    before.pool.items[place]? = some resource →
      resource.ssuId ∉ entries.map (fun entry => entry.2.info.ssuId) →
        after.pool.items[place]? = some resource
  poolLength : after.pool.items.length = before.pool.items.length
  logdevs : after.logdevs = before.logdevs

variable {req : SsuAllocReq} {state : ControllerState} {ctx : AllocContext}
  {number : UInt64} {selected : List Nat}
  {createNs : SsuExtentCreateReq → PluginState → CreateNsAnswer × PluginState}
  {world : PluginState} {last : ControllerState × PluginState}
  {entries : List (Nat × ControllerAllocation)}

theorem lengthsFit_of_split (size : UInt64) {count : Nat}
    (positive : 0 < count) (small : count < 2 ^ 64) :
    LengthsFit (size / UInt64.ofNat count) (size % UInt64.ofNat count) := by
  by_cases even : size % UInt64.ofNat count = 0
  · exact .inl even
  · have some : 0 < (size % UInt64.ofNat count).toNat :=
      Nat.pos_of_ne_zero fun zero => even (UInt64.toNat_inj.mp zero)
    have total := extentOffset_total size positive small
    have scaled := Nat.le_mul_of_pos_left
      (size / UInt64.ofNat count).toNat positive
    have bounded := size.toNat_lt
    unfold extentOffset at total
    apply Or.inr
    omega

theorem AllocPlan.extentLength_toNat
    (plan : AllocPlan req state ctx number selected) (index : Nat) :
    (extentLength ctx.baseLength ctx.remainder index).toNat =
      evenLength req.sizeBytes.toNat selected.length index := by
  have small : selected.length < 2 ^ 64 :=
    Nat.lt_of_le_of_lt plan.atMostPool (by decide)
  have count : (UInt64.ofNat selected.length).toNat = selected.length :=
    UInt64.toNat_ofNat_of_lt' small
  have fits : LengthsFit ctx.baseLength ctx.remainder := by
    rw [plan.baseLength, plan.remainder]
    exact lengthsFit_of_split req.sizeBytes plan.positive small
  rw [toNat_extentLength fits, plan.baseLength, plan.remainder,
    UInt64.toNat_div, UInt64.toNat_mod, count, evenLength]

theorem plannedExtentCount_eq (req : SsuAllocReq) (state : ControllerState) :
    plannedExtentCount req (onlinePoolIndexes state).length =
      expectedCount req state := by
  unfold expectedCount
  by_cases all : req.physicalDiskCount = 0
  · have noCount : ¬(0 : UInt32) > 0 := by decide
    simp only [plannedExtentCount, all, noCount, if_true, if_false]
    split <;> omega
  · have asked : 1 ≤ req.physicalDiskCount := by
      rw [UInt32.le_iff_toNat_le]
      exact Nat.pos_of_ne_zero fun zero => all (UInt32.toNat_inj.mp zero)
    rw [if_neg all]
    exact plannedExtentCount_eq_min asked _

theorem poolIndexHasCapacity_iff {poolIndex : Nat} {length : UInt64}
    {resource : SsuResourceInfo}
    (pooled : state.pool.items[poolIndex]? = some resource) :
    poolIndexHasCapacity state poolIndex length = true ↔
      resource.usedBytes ≤ resource.totalBytes ∧
        resource.usedBytes % sectorSize = 0 ∧
        length ≤ resource.totalBytes - resource.usedBytes := by
  simp only [poolIndexHasCapacity, pooled]
  split
  · rename_i unusable
    constructor
    · intro impossible
      cases impossible
    · rintro ⟨counted, aligned, _⟩
      rcases unusable with exceeded | unaligned
      · exact (UInt64.not_lt.mpr counted exceeded).elim
      · exact (unaligned aligned).elim
  · rename_i usable
    obtain ⟨counted, aligned⟩ := not_or.mp usable
    rw [decide_eq_true_iff]
    constructor
    · intro room
      exact ⟨UInt64.not_lt.mp counted, not_not.mp aligned, room⟩
    · rintro ⟨_, _, room⟩
      exact room

theorem mem_onlinePoolIndexes {poolIndex : Nat} :
    poolIndex ∈ onlinePoolIndexes state ↔
      ∃ resource, state.pool.items[poolIndex]? = some resource ∧
        resourceIsOnline resource = true := by
  simp only [onlinePoolIndexes, List.mem_filter, List.mem_range,
    Option.any_eq_true]
  constructor
  · rintro ⟨_, resource, pooled, online⟩
    exact ⟨resource, pooled, online⟩
  · rintro ⟨resource, pooled, online⟩
    exact ⟨(List.getElem?_eq_some_iff.mp pooled).1, resource, pooled, online⟩

/-- What one round of the loop has placed on its SSU. -/
structure RoundPlaced (state : ControllerState) (ctx : AllocContext)
    (poolIndex index : Nat) (row : ControllerAllocation)
    (resource : SsuResourceInfo) : Prop where
  pooled : state.pool.items[poolIndex]? = some resource
  length : row.info.length =
    extentLength ctx.baseLength ctx.remainder index
  chosen : ChosenFor row resource

theorem AllocPlan.placed (plan : AllocPlan req state ctx number selected)
    (run : ExtentRun createNs ctx selected 0 0 (numbered state number, world)
      entries last)
    {index : Nat} (inside : index < selected.length)
    (entered : index < entries.length) :
    ∃ resource, RoundPlaced state ctx selected[index] index
      entries[index].2 resource := by
  have rounds := run.placedOn plan.chosen.distinct state (fun _ _ => rfl)
  rw [List.forall₂_iff_get] at rounds
  have zipped : index < (selected.zipIdx 0).length := by
    rw [List.length_zipIdx]
    exact inside
  obtain ⟨resource, pooled, offset, before, _, row⟩ :=
    rounds.2 index zipped entered
  simp only [List.get_eq_getElem, List.getElem_zipIdx, Nat.zero_add]
    at pooled row
  have online := plan.chosen.online selected[index] (List.getElem_mem inside)
  obtain ⟨same, pooledSame, isOnline⟩ := mem_onlinePoolIndexes.mp online
  rw [pooled] at pooledSame
  cases pooledSame
  have room := plan.chosen.room
  rw [List.forall₂_iff_get] at room
  have own := room.2 index (by simpa using inside) inside
  simp only [List.get_eq_getElem, List.getElem_range] at own
  obtain ⟨counted, aligned, fits⟩ := (poolIndexHasCapacity_iff pooled).mp own
  have length : entries[index].2.info.length =
      extentLength ctx.baseLength ctx.remainder index := by
    rw [row]
    rfl
  rw [← length] at fits
  have countedNat := UInt64.le_iff_toNat_le.mp counted
  have fitsNat := UInt64.le_iff_toNat_le.mp fits
  rw [UInt64.toNat_sub_of_le _ _ counted] at fitsNat
  refine ⟨resource, pooled, length, ?_, isOnline, aligned, countedNat,
    fitsNat, ?_⟩
  · rw [row]
    rfl
  · have total := resource.totalBytes.toNat_lt
    rw [charged, UInt64.toNat_add]
    apply Nat.mod_eq_of_lt
    omega

theorem ssuIds_injective {resources : List SsuResourceInfo}
    (distinct : (ssuIds resources).Nodup) {left right : Nat}
    {first second : SsuResourceInfo}
    (leftPooled : resources[left]? = some first)
    (rightPooled : resources[right]? = some second)
    (same : first.ssuId = second.ssuId) : left = right := by
  have leftFound := findResourceIndex_of_get distinct leftPooled
  have rightFound := findResourceIndex_of_get distinct rightPooled
  rw [same, rightFound] at leftFound
  exact (Option.some.inj leftFound).symm

theorem AllocPlan.distinctSsus
    (plan : AllocPlan req state ctx number selected)
    (run : ExtentRun createNs ctx selected 0 0 (numbered state number, world)
      entries last)
    (distinct : (ssuIds state.pool.items).Nodup) :
    (entries.map fun entry => entry.2.info.ssuId).Nodup := by
  have count : entries.length = selected.length := run.length_entries
  rw [List.nodup_iff_injective_get]
  rintro ⟨left, leftInside⟩ ⟨right, rightInside⟩ same
  rw [List.length_map] at leftInside rightInside
  obtain ⟨first, leftPlaced⟩ :=
    plan.placed run (count ▸ leftInside) leftInside
  obtain ⟨second, rightPlaced⟩ :=
    plan.placed run (count ▸ rightInside) rightInside
  simp only [List.get_eq_getElem, List.getElem_map] at same
  rw [← leftPlaced.chosen.ssuId, ← rightPlaced.chosen.ssuId] at same
  have samePlace := ssuIds_injective distinct leftPlaced.pooled
    rightPlaced.pooled same
  rw [Fin.mk.injEq]
  exact (plan.chosen.distinct.getElem_inj_iff).mp samePlace

theorem AllocPlan.layout (plan : AllocPlan req state ctx number selected)
    (run : ExtentRun createNs ctx selected 0 0 (numbered state number, world)
      entries last)
    (distinct : (ssuIds state.pool.items).Nodup)
    {extents : List SsuAllocExtent}
    (shown : ShownAs (entries.map Prod.snd) extents) :
    AllocLayout req entries extents state (advanced last.1) := by
  have count : entries.length = selected.length := run.length_entries
  obtain ⟨consecutive, nonempty⟩ := plan.laid run
  have charge := run.poolCharged plan.chosen.distinct
  have paid := charge.chosen
  rw [List.forall₂_iff_get] at paid
  constructor
  · rw [count, plan.planned]
    exact plannedExtentCount_eq req state
  · exact run.slotsFilled
  · exact shown
  · exact consecutive
  · apply List.ext_getElem
    · rw [List.length_map, List.length_map, List.length_range]
    · intro index entered _
      rw [List.length_map] at entered
      obtain ⟨resource, placed⟩ :=
        plan.placed run (count ▸ entered) entered
      rw [List.getElem_map, List.getElem_map, List.getElem_range,
        placed.length, plan.extentLength_toNat, count]
  · exact nonempty
  · exact plan.distinctSsus run distinct
  · intro entry member
    obtain ⟨index, entered, rfl⟩ := List.mem_iff_getElem.mp member
    obtain ⟨resource, placed⟩ := plan.placed run (count ▸ entered) entered
    refine ⟨selected[index], resource, placed.pooled, placed.chosen, ?_⟩
    have own := paid.2 index (count ▸ entered) entered
    simp only [List.get_eq_getElem] at own
    have pooled : (numbered state number).pool.items[selected[index]]? =
        some resource := placed.pooled
    rw [pooled] at own
    exact own
  · intro place resource pooled outside
    have unchosen : place ∉ selected := by
      intro member
      obtain ⟨index, inside, rfl⟩ := List.mem_iff_getElem.mp member
      have entered : index < entries.length := count ▸ inside
      obtain ⟨other, placed⟩ := plan.placed run inside entered
      have pooledOther := placed.pooled
      rw [pooled] at pooledOther
      cases pooledOther
      apply outside
      rw [placed.chosen.ssuId]
      exact List.mem_map_of_mem (List.getElem_mem entered)
    have kept := charge.kept place unchosen
    exact kept.trans pooled
  · exact charge.length
  · exact run.logdevs

/-- A request that is not answered from an existing allocation. -/
def FreshRequest (req : SsuAllocReq) (state : ControllerState) : Prop :=
  req.diskName = [] ∨ diskNameIsActive state req.diskName = false

/-- A new allocation is laid out as its request asks. -/
theorem alloc_layout (plugin : SsuPluginOps PluginState) (req : SsuAllocReq)
    (buffer : ExtentBuffer) (state : ControllerState) (world : PluginState)
    (distinct : (ssuIds state.pool.items).Nodup)
    (fresh : FreshRequest req state)
    (accepted : (ssuControllerAlloc plugin req buffer state world).1.err =
      .ok) :
    ∃ entries extents,
      (ssuControllerAlloc plugin req buffer state world).1.outExtents =
          some extents ∧
        AllocLayout req entries extents state
          (ssuControllerAlloc plugin req buffer state world).2.1 := by
  have outcome := ssuControllerAlloc_outcome plugin req buffer state world
  generalize called : ssuControllerAlloc plugin req buffer state world =
    result at outcome accepted ⊢
  cases outcome with
  | refused _ failed => exact (failed accepted).elim
  | reused active =>
      rcases fresh with unnamed | inactive
      · simp [diskNameIsActive, findAllocationRowsByDiskName, unnamed,
          isEmptyString] at active
      · rw [inactive] at active
        cases active
  | undone _ _ _ _ _ failed => exact (failed accepted).elim
  | @created createNs provided answer ctx number selected entries last plan run
      _ _ =>
      have viaAlloc := plan.shown provided buffer run
      rw [called] at viaAlloc
      obtain ⟨extents, listed, shown⟩ := viaAlloc accepted
      exact ⟨entries, extents, listed, plan.layout run distinct shown⟩

theorem alloc_layout_twoSsus :
    ∃ entries extents,
      (ssuControllerAlloc twoSsus (dataOnTwoDisks 1025) ⟨true, 2⟩
          twoSsusPooled.1 ()).1.outExtents = some extents ∧
        AllocLayout (dataOnTwoDisks 1025) entries extents twoSsusPooled.1
          (ssuControllerAlloc twoSsus (dataOnTwoDisks 1025) ⟨true, 2⟩
            twoSsusPooled.1 ()).2.1 :=
  alloc_layout twoSsus (dataOnTwoDisks 1025) ⟨true, 2⟩ twoSsusPooled.1 ()
    (by decide +kernel) (.inr (by decide +kernel)) (by decide +kernel)

end Layout

section Admission

variable
  {createNs : SsuExtentCreateReq → PluginState → CreateNsAnswer × PluginState}
  {ctx : AllocContext} {state : ControllerState}

theorem poolIndexHasCapacity_addExtent {slot poolIndex other : Nat}
    {row : ControllerAllocation} (different : poolIndex ≠ other)
    (length : UInt64) :
    poolIndexHasCapacity (addExtent state slot poolIndex row) other length =
      poolIndexHasCapacity state other length := by
  have pooled : (addExtent state slot poolIndex row).pool.items[other]? =
      state.pool.items[other]? := List.getElem?_modify_ne _ _ different
  simp only [poolIndexHasCapacity, pooled]

/-- With room for every extent and a plugin that accepts them all, the loop
does not stop. -/
theorem createExtents_accepts
    (accepts : ∀ extentReq world, (createNs extentReq world).1.err = .ok)
    {poolIndexes : List Nat} {index : Nat} (offset : UInt64)
    (created : List Nat) (extents : List SsuAllocExtent)
    (world : PluginState)
    (slots : poolIndexes.length ≤ state.allocations.freeSlots.length)
    (distinct : poolIndexes.Nodup)
    (room : List.Forall₂ (fun poolIndex extent =>
      poolIndexHasCapacity state poolIndex
        (extentLength ctx.baseLength ctx.remainder extent) = true)
      poolIndexes (List.range' index poolIndexes.length)) :
    (createExtents createNs ctx poolIndexes index offset created extents state
      world).err = .ok := by
  induction poolIndexes generalizing index offset created extents state world
    with
  | nil => rfl
  | cons poolIndex poolIndexes induction =>
      rw [List.length_cons, List.range'_succ, List.forall₂_cons] at room
      obtain ⟨own, others⟩ := room
      obtain ⟨fresh, rest⟩ := List.nodup_cons.mp distinct
      have counted := state.allocations.length_rows_add_freeSlots
      rw [List.length_cons] at slots
      have roomy : state.allocations.rows.length < maxAllocations := by omega
      obtain ⟨slot, free⟩ := SlotTable.firstFree_isSome_of_room roomy
      cases pooled : state.pool.items[poolIndex]? with
      | none =>
          rw [poolIndexHasCapacity, pooled] at own
          cases own
      | some resource =>
          obtain ⟨within, aligned, fits⟩ := (poolIndexHasCapacity_iff pooled).mp own
          have inside := UInt64.not_lt.mpr within
          have enough := UInt64.not_lt.mpr fits
          simp only [createExtents, free, pooled, gt_iff_lt, inside, enough,
            or_self, if_false, aligned, ne_eq, not_true_eq_false, accepts]
          obtain ⟨bound, empty⟩ := SlotTable.get_firstFree free
          apply induction
          · have taken : (state.allocations.put slot (ctx.row
                (ctx.extentReq resource index offset)
                (createNs (ctx.extentReq resource index offset)
                  world).1)).freeSlots.length + 1 =
                state.allocations.freeSlots.length :=
              SlotTable.length_freeSlots_put bound empty
            rw [addExtent_allocations]
            omega
          · exact rest
          · have apart : ∀ other ∈ poolIndexes, poolIndex ≠ other :=
              fun other member same => fresh (same ▸ member)
            apply ((List.forall₂_and_left _ _).mpr ⟨apart, others⟩).imp
            rintro other extent ⟨different, held⟩
            rw [poolIndexHasCapacity_addExtent different]
            exact held

variable {req : SsuAllocReq} {buffer : ExtentBuffer} {world : PluginState}

/-- What a request needs to be granted by a plugin that accepts every
extent. -/
structure Admitted (req : SsuAllocReq) (buffer : ExtentBuffer)
    (state : ControllerState) : Prop where
  stripe : req.reliability = .stripe
  sized : req.sizeBytes ≠ 0
  hosts : (buildHostKey req.hostIds).isSome = true
  name : req.diskName = [] ∨
    allocationNameIsValid req.diskName = true ∧
      diskNameIsActive state req.diskName = false
  online : onlinePoolIndexes state ≠ []
  disks : req.physicalDiskCount.toNat ≤ (onlinePoolIndexes state).length
  present : buffer.present = true
  fits : expectedCount req state ≤ buffer.count.toNat
  slots : expectedCount req state ≤ state.allocations.freeSlots.length
  assigned : ∃ assigned, Selected state (onlinePoolIndexes state)
    (req.sizeBytes / UInt64.ofNat (expectedCount req state))
    (req.sizeBytes % UInt64.ofNat (expectedCount req state))
    (List.range (expectedCount req state)) assigned

theorem Admitted.accepted (admitted : Admitted req buffer state)
    (provided : plugin.createNs = some createNs)
    (accepts : ∀ extentReq world, (createNs extentReq world).1.err = .ok) :
    (ssuControllerAlloc plugin req buffer state world).1.err = .ok := by
  obtain ⟨hostKey, keyed⟩ := Option.isSome_iff_exists.mp admitted.hosts
  have viaNew : ssuControllerAlloc plugin req buffer state world =
      allocNew createNs plugin req hostKey buffer state world := by
    rcases admitted.name with unnamed | ⟨valid, fresh⟩
    · simp [ssuControllerAlloc, provided, admitted.stripe, admitted.sized,
        keyed, unnamed, isEmptyString]
    · simp [ssuControllerAlloc, provided, admitted.stripe, admitted.sized,
        keyed, valid, fresh]
  have online : (onlinePoolIndexes state).length ≠ 0 := by
    simpa using admitted.online
  have enough := Nat.not_lt.mpr admitted.disks
  have room := Nat.not_lt.mpr admitted.fits
  have slots := Nat.not_lt.mpr admitted.slots
  have positive := plannedExtentCount_pos admitted.sized online
  have small : expectedCount req state < 2 ^ 64 := by
    have atMost := plannedExtentCount_le_size req
      (onlinePoolIndexes state).length
    rw [plannedExtentCount_eq] at atMost
    exact Nat.lt_of_le_of_lt atMost req.sizeBytes.toNat_lt
  rw [plannedExtentCount_eq] at positive
  have complete := selectPoolIndexes_complete state (onlinePoolIndexes state)
    (lengthsFit_of_split req.sizeBytes positive small)
    (expectedCount req state)
  obtain ⟨selected, chosen⟩ := complete.1.mpr admitted.assigned
  have placement := complete.2 selected chosen
  have count : selected.length = expectedCount req state := by
    rw [← placement.room.length_eq, List.length_range]
  obtain ⟨number, search, _⟩ := nextAutoAllocateId_spec state
  have search : nextAutoAllocateId state =
      (autoAllocateId number, numbered state number) := search
  have placing : (createExtents createNs
      { req, allocateId := autoAllocateId number, hostKey
        baseLength :=
          req.sizeBytes / UInt64.ofNat (expectedCount req state)
        remainder :=
          req.sizeBytes % UInt64.ofNat (expectedCount req state) }
      selected 0 0 [] [] (numbered state number) world).err = .ok := by
    apply createExtents_accepts accepts
    · rw [count]
      exact admitted.slots
    · exact placement.distinct
    · rw [count, ← List.range_eq_range']
      exact placement.room.flip
  have freeSlots : (numbered state number).allocations.freeSlots.length =
      state.allocations.freeSlots.length := rfl
  rw [viaNew]
  simp only [allocNew, search, onlinePoolIndexes_numbered,
    selectPoolIndexes_numbered, plannedExtentCount_eq, online, enough,
    if_false, admitted.present, Bool.not_true, Bool.false_or, room,
    decide_false, Bool.false_eq_true, freeSlots, slots, chosen, placing,
    ne_eq, not_true_eq_false]

/-- An unnamed request for one disk that nothing but the pool can refuse. -/
structure OneDiskRequest (req : SsuAllocReq) (buffer : ExtentBuffer) :
    Prop where
  unnamed : req.diskName = []
  oneDisk : req.physicalDiskCount = 1
  stripe : req.reliability = .stripe
  sized : req.sizeBytes ≠ 0
  hosts : (buildHostKey req.hostIds).isSome = true
  present : buffer.present = true
  fits : 1 ≤ buffer.count.toNat

/-- An ONLINE SSU that has `length` bytes left and whose counter is a multiple
of the sector size. -/
structure TakesExtent (length : UInt64) (resource : SsuResourceInfo) :
    Prop where
  online : resourceIsOnline resource = true
  aligned : resource.usedBytes % sectorSize = 0
  counted : resource.usedBytes.toNat ≤ resource.totalBytes.toNat
  room : length.toNat ≤
    resource.totalBytes.toNat - resource.usedBytes.toNat

theorem OneDiskRequest.expectedCount_eq (asks : OneDiskRequest req buffer) :
    expectedCount req state = 1 := by
  have sized : 0 < req.sizeBytes.toNat :=
    Nat.pos_of_ne_zero fun zero => asks.sized (UInt64.toNat_inj.mp zero)
  have some : ¬(1 : UInt32) = 0 := by decide
  have one : (1 : UInt32).toNat = 1 := rfl
  rw [expectedCount, asks.oneDisk, if_neg some, one]
  omega

theorem TakesExtent.admitted (asks : OneDiskRequest req buffer)
    (free : state.allocations.freeSlots ≠ []) {resource : SsuResourceInfo}
    (member : resource ∈ state.pool.items)
    (takes : TakesExtent req.sizeBytes resource) :
    Admitted req buffer state := by
  obtain ⟨poolIndex, pooled⟩ := List.mem_iff_getElem?.mp member
  have online : poolIndex ∈ onlinePoolIndexes state :=
    mem_onlinePoolIndexes.mpr ⟨resource, pooled, takes.online⟩
  have one : (1 : UInt32).toNat = 1 := rfl
  have some := List.length_pos_of_mem online
  have slots := List.length_pos_iff.mpr free
  constructor
  · exact asks.stripe
  · exact asks.sized
  · exact asks.hosts
  · exact .inl asks.unnamed
  · exact List.ne_nil_of_mem online
  · rw [asks.oneDisk, one]
    exact some
  · exact asks.present
  · rw [asks.expectedCount_eq]
    exact asks.fits
  · rw [asks.expectedCount_eq]
    exact slots
  · rw [asks.expectedCount_eq]
    refine ⟨[poolIndex], List.nodup_singleton _, ?_, ?_⟩
    · simpa using online
    · apply List.Forall₂.cons _ .nil
      have counted := UInt64.le_iff_toNat_le.mpr takes.counted
      have whole : extentLength (req.sizeBytes / UInt64.ofNat 1)
          (req.sizeBytes % UInt64.ofNat 1) 0 = req.sizeBytes := by
        apply UInt64.toNat_inj.mp
        rw [toNat_extentLength (lengthsFit_of_split _ (by decide) (by decide))]
        simp
      rw [whole, poolIndexHasCapacity_iff pooled, UInt64.le_iff_toNat_le
        (b := resource.totalBytes - resource.usedBytes),
        UInt64.toNat_sub_of_le _ _ counted]
      exact ⟨counted, takes.aligned, takes.room⟩

/-- A request for one disk is granted exactly when some ONLINE SSU with an
aligned counter has room for it. -/
theorem alloc_one_disk_iff (plugin : SsuPluginOps PluginState)
    (provided : plugin.createNs = some createNs)
    (accepts : ∀ extentReq world, (createNs extentReq world).1.err = .ok)
    (asks : OneDiskRequest req buffer)
    (free : state.allocations.freeSlots ≠ []) (world : PluginState) :
    (ssuControllerAlloc plugin req buffer state world).1.err = .ok ↔
      ∃ resource ∈ state.pool.items,
        TakesExtent req.sizeBytes resource := by
  constructor
  · intro accepted
    have outcome := ssuControllerAlloc_outcome plugin req buffer state world
    generalize ssuControllerAlloc plugin req buffer state world = result
      at outcome accepted
    cases outcome with
    | refused _ failed => exact (failed accepted).elim
    | reused active =>
        simp [diskNameIsActive, findAllocationRowsByDiskName, asks.unnamed,
          isEmptyString] at active
    | undone _ _ _ _ _ failed => exact (failed accepted).elim
    | @created _ _ _ ctx number selected entries last plan run _ _ =>
        have one : selected.length = 1 := by
          rw [plan.planned, plannedExtentCount_eq, asks.expectedCount_eq]
        have entered : entries.length = 1 := run.length_entries.trans one
        have chosenOne : 0 < selected.length := one ▸ Nat.one_pos
        have enteredOne : 0 < entries.length := entered ▸ Nat.one_pos
        obtain ⟨resource, placed⟩ := plan.placed run chosenOne enteredOne
        have length : entries[0].2.info.length = req.sizeBytes := by
          apply UInt64.toNat_inj.mp
          rw [placed.length, plan.extentLength_toNat, one]
          simp [evenLength, Nat.mod_one]
        have room := placed.chosen.room
        rw [length] at room
        exact ⟨resource, List.mem_of_getElem? placed.pooled,
          placed.chosen.online, placed.chosen.aligned,
          placed.chosen.counted, room⟩
  · rintro ⟨resource, member, takes⟩
    exact (takes.admitted asks free member).accepted provided accepts

/-- A request for `size` bytes on one disk for one host. -/
def onOneDisk (size : UInt64) : SsuAllocReq :=
  { plainRequest size [] with physicalDiskCount := 1 }

theorem onOneDisk_asks : OneDiskRequest (onOneDisk 512) ⟨true, 1⟩ := by
  constructor <;> decide +kernel

def oneSsuPooled : ControllerState × Unit :=
  Transition.run (step (acceptingPlugin [oneSsu])) (.initial, ())
    [.refreshPool]

theorem alloc_one_disk_oneSsu :
    (ssuControllerAlloc (acceptingPlugin [oneSsu]) (onOneDisk 512) ⟨true, 1⟩
        oneSsuPooled.1 ()).1.err = .ok ↔
      ∃ resource ∈ oneSsuPooled.1.pool.items, TakesExtent 512 resource :=
  alloc_one_disk_iff (acceptingPlugin [oneSsu]) rfl (fun _ _ => rfl)
    onOneDisk_asks (by decide +kernel) ()

/-- One byte on an SSU of 8192 bytes keeps all other bytes from being
allocated. -/
theorem one_byte_strands_ssu :
    let current := Transition.run (step (acceptingPlugin [oneSsu]))
      (.initial, ()) [.refreshPool, .alloc (onOneDisk 1) ⟨true, 1⟩]
    (∃ resource ∈ current.1.pool.items,
      resourceIsOnline resource = true ∧ resource.totalBytes % 512 = 0 ∧
        (512 : UInt64).toNat ≤
          resource.totalBytes.toNat - resource.usedBytes.toNat) ∧
      current.1.allocations.freeSlots ≠ [] ∧
      (ssuControllerAlloc (acceptingPlugin [oneSsu]) (onOneDisk 512)
        ⟨true, 1⟩ current.1 ()).1.err = .noResource := by
  decide +kernel

end Admission

end UbseSsu.Controller

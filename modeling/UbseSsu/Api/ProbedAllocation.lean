import UbseSsu.Api.Operations
import UbseSsu.Controller.Failures

/-!
# Asking for the number of extents first

`ssu_resource_alloc` without an array calls the controller twice, first to
learn how many extents there will be.  A call of the controller either fails in
the same way whatever the array, or it compares the array with one number of
extents; the second call finds what the first one has found.
-/

namespace UbseSsu.Api

open Controller

variable {PluginState : Type} {plugin : SsuPluginOps PluginState}

/-- `ssu_resource_alloc(req, &out, extents, &count)`. -/
def ssuResourceAllocInto (plugin : SsuPluginOps PluginState)
    (state : ControllerState) (world : PluginState) (req : SsuAllocReq)
    (buffer : ExtentBuffer) : AllocAnswer × ControllerState × PluginState :=
  if req.reliability ≠ .stripe then
    (.failed .unsupported buffer, state, world)
  else
    match ssuControllerRefreshPool plugin state world with
    | (.ok, state, world) => ssuControllerAlloc plugin req buffer state world
    | (err, state, world) => (.failed err buffer, state, world)

section Buffers

/-- The array is there and holds that many extents. -/
structure Holds (buffer : ExtentBuffer) (needed : Nat) : Prop where
  present : buffer.present = true
  room : needed ≤ buffer.count.toNat

theorem holds_iff {buffer : ExtentBuffer} {needed : Nat} :
    (!buffer.present || decide (buffer.count.toNat < needed)) = true ↔
      ¬Holds buffer needed := by
  constructor
  · rintro short ⟨present, room⟩
    simp only [present, Bool.not_true, Bool.false_or, decide_eq_true_eq]
      at short
    omega
  · intro short
    by_contra holds
    simp only [Bool.not_eq_true, Bool.or_eq_false_iff, Bool.not_eq_false',
      decide_eq_false_iff_not, not_lt] at holds
    exact short ⟨holds.1, holds.2⟩

/-- What a call yields besides the extents and their number. -/
def outcome (result : AllocAnswer × ControllerState × PluginState) :
    SsuErr × Option SsuAllocResult × ControllerState × PluginState :=
  (result.1.err, result.1.out, result.2)

/-- `create_ns` itself has answered that a buffer is too small. -/
def AnswersTooSmall (plugin : SsuPluginOps PluginState) : Prop :=
  ∃ createNs, plugin.createNs = some createNs ∧
    ∃ extentReq world, (createNs extentReq world).1.err = .bufferTooSmall

/-- What one call of the controller does with the array, as a function of the
array and of the state that it is called in. -/
inductive BufferUse (plugin : SsuPluginOps PluginState)
    (call : ExtentBuffer → ControllerState →
      AllocAnswer × ControllerState × PluginState)
    (state : ControllerState) (world : PluginState) : Prop
  | refused {err : SsuErr} {number : UInt64}
      (different : err ≠ .bufferTooSmall)
      (same : ∀ buffer,
        call buffer state = (.failed err buffer, numbered state number, world))
  | compared {needed : Nat} {number : UInt64}
      (most : needed ≤ maxAllocations)
      (short : ∀ buffer, ¬Holds buffer needed → call buffer state =
        (.bufferTooSmall (UInt32.ofNat needed), numbered state number, world))
      (again : ∀ buffer, call buffer (numbered state number) =
        call buffer state)
      (same : ∀ left right, Holds left needed → Holds right needed →
        outcome (call left state) = outcome (call right state))
      (whole : ∀ buffer, Holds buffer needed →
        (call buffer state).1.err = .bufferTooSmall → AnswersTooSmall plugin)

/-- A later search starts at the number that was found. -/
theorem nextAutoAllocateId_numbered (state : ControllerState) :
    ∃ number, nextAutoAllocateId state =
        (autoAllocateId number, numbered state number) ∧
      nextAutoAllocateId (numbered state number) =
        (autoAllocateId number, numbered state number) := by
  obtain ⟨number, searched, unblocked⟩ := nextAutoAllocateId_spec state
  exact ⟨number, searched,
    nextAutoAllocateId_of_free (numbered state number) unblocked⟩

theorem createExtents_tooSmall
    {createNs : SsuExtentCreateReq → PluginState → CreateNsAnswer × PluginState}
    (provided : plugin.createNs = some createNs) {ctx : AllocContext}
    {poolIndexes : List Nat} {index : Nat} {offset : UInt64}
    {created : List Nat} {extents : List SsuAllocExtent}
    {state : ControllerState} {world : PluginState}
    (failed : (createExtents createNs ctx poolIndexes index offset created
      extents state world).err = .bufferTooSmall) :
    AnswersTooSmall plugin := by
  induction poolIndexes generalizing index offset created extents state world
  with
  | nil => cases failed
  | cons poolIndex poolIndexes induction =>
      simp only [createExtents] at failed
      split at failed
      · cases failed
      · cases failed
      · rename_i slot resource _ _
        split at failed
        · cases failed
        · split at failed
          · cases failed
          · split at failed
            · exact ⟨createNs, provided, _, world, failed⟩
            · exact induction failed

theorem allocNew_bufferUse
    {createNs : SsuExtentCreateReq → PluginState → CreateNsAnswer × PluginState}
    (provided : plugin.createNs = some createNs) (req : SsuAllocReq)
    (hostKey : CBuf hostKeySize) (state : ControllerState)
    (world : PluginState) :
    BufferUse plugin
      (fun buffer state =>
        allocNew createNs plugin req hostKey buffer state world)
      state world := by
  obtain ⟨number, searched, found⟩ := nextAutoAllocateId_numbered state
  have early : SsuErr.noResource ≠ .bufferTooSmall := by decide
  by_cases offline : (onlinePoolIndexes state).length = 0
  · apply @BufferUse.refused _ plugin _ _ _ _ number early
    intro buffer
    simp only [allocNew, searched, onlinePoolIndexes_numbered, offline, if_true]
  by_cases many :
      req.physicalDiskCount.toNat > (onlinePoolIndexes state).length
  · apply @BufferUse.refused _ plugin _ _ _ _ number early
    intro buffer
    simp only [allocNew, searched, onlinePoolIndexes_numbered, if_neg offline,
      if_pos many]
  obtain ⟨needed, planned⟩ : ∃ needed,
      plannedExtentCount req (onlinePoolIndexes state).length = needed :=
    ⟨_, rfl⟩
  have most : needed ≤ maxAllocations := by
    rw [← planned]
    exact (plannedExtentCount_le_online (not_lt.mp many)).trans
      (length_onlinePoolIndexes_le state)
  apply @BufferUse.compared _ plugin _ _ _ _ number most
  · intro buffer short
    simp only [allocNew, searched, onlinePoolIndexes_numbered, if_neg offline,
      if_neg many, planned, if_pos (holds_iff.mpr short)]
  · intro buffer
    simp only [allocNew, searched, found, onlinePoolIndexes_numbered]
  · intro left right leftHolds rightHolds
    have leftRoom := mt holds_iff.mp (not_not.mpr leftHolds)
    have rightRoom := mt holds_iff.mp (not_not.mpr rightHolds)
    simp only [allocNew, searched, onlinePoolIndexes_numbered, if_neg offline,
      if_neg many, planned, if_neg leftRoom, if_neg rightRoom]
    split
    · rfl
    · split
      · rfl
      · split
        · rfl
        · rfl
  · intro buffer holds tooSmall
    have room := mt holds_iff.mp (not_not.mpr holds)
    simp only [allocNew, searched, onlinePoolIndexes_numbered, if_neg offline,
      if_neg many, planned, if_neg room] at tooSmall
    split at tooSmall
    · cases tooSmall
    · split at tooSmall
      · rename_i selection
        rw [selectPoolIndexes_error selection] at tooSmall
        cases tooSmall
      · split at tooSmall
        · exact createExtents_tooSmall provided tooSmall
        · cases tooSmall

/-- The array of a repeated named request is compared with its rows. -/
theorem copyExisting_bufferUse (req : SsuAllocReq) (state : ControllerState)
    (world : PluginState) :
    BufferUse plugin
      (fun buffer state =>
        (copyExistingAllocation req req.diskName buffer state, state, world))
      state world := by
  have unmoved : numbered state state.nextAllocationId = state := rfl
  cases found : findAllocationRowsByDiskName state req.diskName with
  | nil =>
      apply @BufferUse.refused _ plugin _ _ _ .notFound
        state.nextAllocationId (by decide)
      intro buffer
      simp only [copyExistingAllocation, found, unmoved]
  | cons first others =>
      have most : (first :: others).length ≤ maxAllocations := by
        rw [← found]
        unfold findAllocationRowsByDiskName
        split
        · exact Nat.zero_le _
        · exact (List.length_filter_le _ _).trans
            state.allocations.length_rows_le
      cases keyed : buildHostKey req.hostIds with
      | none =>
          apply @BufferUse.refused _ plugin _ _ _ .invalid
            state.nextAllocationId (by decide)
          intro buffer
          simp only [copyExistingAllocation, found, keyed, unmoved]
      | some hostKey =>
          by_cases differs : totalSize (first :: others) ≠ req.sizeBytes ∨
              (req.physicalDiskCount > 0 ∧
                req.physicalDiskCount.toNat ≠ (first :: others).length) ∨
              first.info.policy ≠ req.reliability ∨
              first.info.shareType ≠ req.shareType ∨
              first.info.tenant.chars ≠ req.tenant ∨ first.hostKey ≠ hostKey
          · apply @BufferUse.refused _ plugin _ _ _ .nsExists
              state.nextAllocationId (by decide)
            intro buffer
            simp only [copyExistingAllocation, found, keyed, if_pos differs,
              unmoved]
          · apply @BufferUse.compared _ plugin _ _ _ _ state.nextAllocationId most
            · intro buffer short
              simp only [copyExistingAllocation, found, keyed, if_neg differs,
                if_pos (holds_iff.mpr short), unmoved]
            · intro buffer
              rw [unmoved]
            · intro left right leftHolds rightHolds
              have leftRoom := mt holds_iff.mp (not_not.mpr leftHolds)
              have rightRoom := mt holds_iff.mp (not_not.mpr rightHolds)
              simp only [copyExistingAllocation, found, keyed, if_neg differs,
                if_neg leftRoom, if_neg rightRoom]
            · intro buffer holds tooSmall
              have room := mt holds_iff.mp (not_not.mpr holds)
              simp only [copyExistingAllocation, found, keyed, if_neg differs,
                if_neg room] at tooSmall
              cases tooSmall

theorem BufferUse.congr
    {call other : ExtentBuffer → ControllerState →
      AllocAnswer × ControllerState × PluginState}
    {state : ControllerState} {world : PluginState}
    (use : BufferUse plugin other state world)
    (same : ∀ buffer number, call buffer (numbered state number) =
      other buffer (numbered state number)) :
    BufferUse plugin call state world := by
  have here : ∀ buffer, call buffer state = other buffer state :=
    fun buffer => same buffer state.nextAllocationId
  cases use with
  | refused different refused =>
      apply BufferUse.refused different
      intro buffer
      rw [here, refused]
  | compared most short again equal whole =>
      apply BufferUse.compared most
      · intro buffer few
        rw [here, short buffer few]
      · intro buffer
        rw [same, here, again]
      · intro left right leftHolds rightHolds
        rw [here, here, equal left right leftHolds rightHolds]
      · intro buffer holds
        rw [here]
        exact whole buffer holds

/-- A refusal before anything is looked up. -/
theorem BufferUse.refuse (plugin : SsuPluginOps PluginState) {err : SsuErr}
    (different : err ≠ .bufferTooSmall) (state : ControllerState)
    (world : PluginState) :
    BufferUse plugin (fun buffer state => (.failed err buffer, state, world))
      state world :=
  @BufferUse.refused _ plugin _ _ _ _ state.nextAllocationId different
    fun _ => rfl

theorem ssuControllerAlloc_bufferUse (plugin : SsuPluginOps PluginState)
    (req : SsuAllocReq) (state : ControllerState) (world : PluginState) :
    BufferUse plugin
      (fun buffer state => ssuControllerAlloc plugin req buffer state world)
      state world := by
  have invalid := @BufferUse.refuse _ plugin .invalid (by decide) state world
  cases provided : plugin.createNs with
  | none =>
      apply invalid.congr
      intro buffer number
      simp only [ssuControllerAlloc, provided]
  | some createNs =>
      by_cases other : req.reliability ≠ .stripe
      · apply (@BufferUse.refuse _ plugin .unsupported (by decide) state
          world).congr
        intro buffer number
        simp only [ssuControllerAlloc, provided, if_pos other]
      by_cases empty : req.sizeBytes = 0
      · apply invalid.congr
        intro buffer number
        simp only [ssuControllerAlloc, provided, if_neg other, if_pos empty]
      cases keyed : buildHostKey req.hostIds with
      | none =>
          apply invalid.congr
          intro buffer number
          simp only [ssuControllerAlloc, provided, if_neg other, if_neg empty,
            keyed]
      | some hostKey =>
          have fresh := allocNew_bufferUse provided req hostKey state world
          by_cases unnamed : isEmptyString req.diskName = true
          · apply fresh.congr
            intro buffer number
            simp only [ssuControllerAlloc, provided, if_neg other,
              if_neg empty, keyed, if_pos unnamed]
          by_cases bad : (!allocationNameIsValid req.diskName) = true
          · apply invalid.congr
            intro buffer number
            simp only [ssuControllerAlloc, provided, if_neg other,
              if_neg empty, keyed, if_neg unnamed, if_pos bad]
          have lookup : ∀ number,
              diskNameIsActive (numbered state number) req.diskName =
                diskNameIsActive state req.diskName :=
            fun _ => rfl
          by_cases active : diskNameIsActive state req.diskName = true
          · apply (copyExisting_bufferUse req state world).congr
            intro buffer number
            simp only [ssuControllerAlloc, provided, if_neg other,
              if_neg empty, keyed, if_neg unnamed, if_neg bad, lookup,
              if_pos active]
          · apply fresh.congr
            intro buffer number
            simp only [ssuControllerAlloc, provided, if_neg other,
              if_neg empty, keyed, if_neg unnamed, if_neg bad, lookup,
              if_neg active]

end Buffers

section Probing

variable {req : SsuAllocReq} {state : ControllerState} {world : PluginState}

/-- A call without an array and, when it asks for one, a second call with an
array of the size it asked for. -/
def probedAlloc (plugin : SsuPluginOps PluginState) (req : SsuAllocReq)
    (state : ControllerState) (world : PluginState) :
    AllocAnswer × ControllerState × PluginState :=
  match ssuControllerAlloc plugin req { present := false, count := 0 } state
      world with
  | (answer, state, world) =>
      if answer.err ≠ .bufferTooSmall then (answer, state, world)
      else
        ssuControllerAlloc plugin req
          { present := true, count := answer.extentCount } state world

theorem toNat_needed {needed : Nat} (most : needed ≤ maxAllocations) :
    (UInt32.ofNat needed).toNat = needed := by
  apply UInt32.toNat_ofNat_of_lt'
  have size : UInt32.size = 2 ^ 32 := rfl
  have limit : maxAllocations = 128 := rfl
  omega

/-- Whatever it ends with, the second call ends as one call with room for 128
extents does. -/
theorem probedAlloc_outcome (plugin : SsuPluginOps PluginState)
    (req : SsuAllocReq) (state : ControllerState) (world : PluginState)
    {buffer : ExtentBuffer} (large : Holds buffer maxAllocations) :
    outcome (probedAlloc plugin req state world) =
      outcome (ssuControllerAlloc plugin req buffer state world) := by
  have none : ∀ needed, ¬Holds { present := false, count := 0 } needed := by
    intro needed holds
    cases holds.present
  cases ssuControllerAlloc_bufferUse plugin req state world with
  | refused different same =>
      simp only [probedAlloc, same]
      rw [if_pos]
      · rfl
      · exact different
  | @compared needed number most short again same whole =>
      have enough : Holds ⟨true, UInt32.ofNat needed⟩ needed :=
        ⟨rfl, (toNat_needed most).ge⟩
      have probed := short _ (none needed)
      have repeated := again ⟨true, UInt32.ofNat needed⟩
      have asked : ¬(AllocAnswer.bufferTooSmall
          (UInt32.ofNat needed)).err ≠ .bufferTooSmall := not_not.mpr rfl
      simp only [probedAlloc, probed, if_neg asked]
      exact (congrArg outcome repeated).trans
        (same _ _ enough ⟨large.present, most.trans large.room⟩)

/-- Two calls or one: the same status, the same `out`, the same tables. -/
def ProbeAgrees (plugin : SsuPluginOps PluginState) (req : SsuAllocReq)
    (state : ControllerState) (world : PluginState) : Prop :=
  ∀ buffer, Holds buffer maxAllocations →
    outcome (ssuResourceAlloc plugin state world req) =
      outcome (ssuResourceAllocInto plugin state world req buffer)

/-- A call that finds no room changes neither tables nor counters and calls no
plugin. -/
def TooSmallUnchanged (plugin : SsuPluginOps PluginState) (req : SsuAllocReq)
    (state : ControllerState) (world : PluginState) : Prop :=
  ∀ buffer,
    let result := ssuControllerAlloc plugin req buffer state world
    result.1.err = .bufferTooSmall →
      (∃ number, result.2.1 = numbered state number) ∧ result.2.2 = world

/-- The number that such a call reports is enough for the next one. -/
def ReportedEnough (plugin : SsuPluginOps PluginState) (req : SsuAllocReq)
    (state : ControllerState) (world : PluginState) : Prop :=
  ∀ buffer,
    let result := ssuControllerAlloc plugin req buffer state world
    result.1.err = .bufferTooSmall →
      ∀ later, Holds later result.1.extentCount.toNat →
        (ssuControllerAlloc plugin req later result.2.1 result.2.2).1.err ≠
          .bufferTooSmall

theorem ssuResourceAlloc_probed (plugin : SsuPluginOps PluginState)
    (req : SsuAllocReq) (state : ControllerState) (world : PluginState) :
    ProbeAgrees plugin req state world := by
  intro buffer large
  simp only [ssuResourceAlloc, ssuResourceAllocInto]
  split
  · rfl
  · rcases ssuControllerRefreshPool plugin state world with ⟨err, after, later⟩
    cases err with
    | ok => exact probedAlloc_outcome plugin req after later large
    | _ => rfl

/-- Probing agrees with one direct call; what a call without room leaves and
reports is as it should be when `create_ns` does not give the same answer. -/
theorem probing_agrees (plugin : SsuPluginOps PluginState) (req : SsuAllocReq)
    (state : ControllerState) (world : PluginState) :
    ProbeAgrees plugin req state world ∧
      (¬AnswersTooSmall plugin →
        TooSmallUnchanged plugin req state world ∧
          ReportedEnough plugin req state world) := by
  refine ⟨ssuResourceAlloc_probed plugin req state world, fun quiet => ?_⟩
  cases ssuControllerAlloc_bufferUse plugin req state world with
  | refused different same =>
      have never : ∀ buffer,
          (ssuControllerAlloc plugin req buffer state world).1.err ≠
            .bufferTooSmall := by
        intro buffer tooSmall
        rw [same] at tooSmall
        exact different tooSmall
      exact ⟨fun buffer tooSmall => (never buffer tooSmall).elim,
        fun buffer tooSmall => (never buffer tooSmall).elim⟩
  | @compared needed number most short again _ whole =>
      have few : ∀ buffer,
          (ssuControllerAlloc plugin req buffer state world).1.err =
            .bufferTooSmall → ¬Holds buffer needed :=
        fun buffer tooSmall holds => quiet (whole buffer holds tooSmall)
      constructor
      · intro buffer result tooSmall
        have stopped : result = _ := short buffer (few buffer tooSmall)
        rw [stopped]
        exact ⟨⟨number, rfl⟩, rfl⟩
      · intro buffer result tooSmall later room
        have stopped : result = _ := short buffer (few buffer tooSmall)
        rw [stopped] at room ⊢
        have count : (AllocAnswer.bufferTooSmall
            (UInt32.ofNat needed)).extentCount.toNat = needed :=
          toNat_needed most
        rw [count] at room
        have repeated := again later
        intro still
        exact few later (repeated ▸ still) room

/-- The pool of one SSU as a refresh has found it. -/
def refreshedPool : ControllerState :=
  (step (acceptingPlugin [oneSsu]) (.initial, ()) .refreshPool).1

/-- A plugin that answers "buffer too small" to no `create_ns`; the call
without an array asks for one. -/
theorem probing_agrees_refreshedPool :
    (ssuControllerAlloc (acceptingPlugin [oneSsu]) (plainRequest 4096 [])
        { present := false, count := 0 } refreshedPool ()).1.err =
      .bufferTooSmall ∧
    ProbeAgrees (acceptingPlugin [oneSsu]) (plainRequest 4096 [])
      refreshedPool () ∧
    TooSmallUnchanged (acceptingPlugin [oneSsu]) (plainRequest 4096 [])
      refreshedPool () ∧
    ReportedEnough (acceptingPlugin [oneSsu]) (plainRequest 4096 [])
      refreshedPool () := by
  have agrees := probing_agrees (acceptingPlugin [oneSsu])
    (plainRequest 4096 []) refreshedPool ()
  have quiet : ¬AnswersTooSmall (acceptingPlugin [oneSsu]) := by
    rintro ⟨createNs, provided, extentReq, world, tooSmall⟩
    cases provided
    cases tooSmall
  exact ⟨by decide +kernel, agrees.1, agrees.2 quiet⟩

/-- Room for one namespace, no way to delete it, and the plugin's own answer
that a buffer is too small. -/
def overfullPlugin : SsuPluginOps Nat :=
  { crampedPlugin with
    createNs := crampedPlugin.createNs.map fun createNs extentReq world =>
      match createNs extentReq world with
      | (answer, world) =>
          if answer.err = .ok then (answer, world)
          else ({ answer with err := .bufferTooSmall }, world) }

/-- The second extent is refused as too small and the first one stays. -/
theorem overfull_changed :
    ¬TooSmallUnchanged overfullPlugin (plainRequest 4096 [])
      (step overfullPlugin (.initial, 0) .refreshPool).1 0 := by
  intro unchanged
  have kept := unchanged ⟨true, 8⟩ (by decide +kernel)
  exact absurd kept.2 (by decide +kernel)

end Probing

end UbseSsu.Api

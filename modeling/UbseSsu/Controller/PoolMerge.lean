import UbseSsu.Controller.PoolRefresh
import UbseSsu.Library.KeyedMerge

/-!
# What a pool refresh yields

The two loops of the refresh build the merge of the discovered resources into
the known ones, with one health check for each entry in the order of the
result.  The merge is committed when it fits the table.
-/

namespace UbseSsu.Controller

variable {PluginState : Type} {plugin : SsuPluginOps PluginState}

section Merge

/-- What a refresh keeps of a known resource: its counter. -/
def keepCounter (known found : SsuResourceInfo) : SsuResourceInfo :=
  { found with usedBytes := known.usedBytes }

theorem keepCounter_lawful :
    KeyedMerge.LawfulCarry SsuResourceInfo.ssuId keepCounter where
  key _ _ := rfl
  self _ := rfl
  again _ _ := rfl

theorem carryUsedBytes_eq (pool : List SsuResourceInfo) :
    carryUsedBytes pool =
      KeyedMerge.carried SsuResourceInfo.ssuId keepCounter pool := by
  funext resource
  simp only [carryUsedBytes, KeyedMerge.carried]
  cases pool.find? fun known => known.ssuId = resource.ssuId <;> rfl

/-- The known resources that discovery did not report. -/
def unreported (discovered known : List SsuResourceInfo) :
    List SsuResourceInfo :=
  KeyedMerge.unlisted SsuResourceInfo.ssuId discovered known

def mergedPool (known discovered : List SsuResourceInfo) :
    List SsuResourceInfo :=
  KeyedMerge.merge SsuResourceInfo.ssuId keepCounter known discovered

theorem mergedPool_eq (known discovered : List SsuResourceInfo) :
    mergedPool known discovered =
      discovered.map (carryUsedBytes known) ++ unreported discovered known := by
  rw [carryUsedBytes_eq]
  rfl

end Merge

section Health

variable
  (healthCheck : CBuf 64 → PluginState → (SsuErr × CBuf 16) × PluginState)

/-- The state of one resource after its health check. -/
def checkedState (answer : SsuErr × CBuf 16) : CBuf 16 :=
  match answer with
  | (.ok, health) => health
  | (_, _) => offlineState

/-- One health check after the other. -/
def checkStates : List (CBuf 64) → PluginState →
    List (CBuf 16) × PluginState
  | [], world => ([], world)
  | ssuId :: ids, world =>
      let (answer, world) := healthCheck ssuId world
      let (states, world) := checkStates ids world
      (checkedState answer :: states, world)

def withStates (resources : List SsuResourceInfo) (states : List (CBuf 16)) :
    List SsuResourceInfo :=
  List.zipWith (fun resource state => { resource with state := state })
    resources states

theorem checkStates_cons (ssuId : CBuf 64) (ids : List (CBuf 64))
    (world : PluginState) :
    checkStates healthCheck (ssuId :: ids) world =
      let first := healthCheck ssuId world
      let rest := checkStates healthCheck ids first.2
      (checkedState first.1 :: rest.1, rest.2) :=
  rfl

@[simp] theorem length_checkStates (ids : List (CBuf 64))
    (world : PluginState) :
    (checkStates healthCheck ids world).1.length = ids.length := by
  induction ids generalizing world with
  | nil => rfl
  | cons ssuId ids induction => simp [checkStates_cons, induction]

theorem checkStates_append (front back : List (CBuf 64))
    (world : PluginState) :
    checkStates healthCheck (front ++ back) world =
      let first := checkStates healthCheck front world
      let rest := checkStates healthCheck back first.2
      (first.1 ++ rest.1, rest.2) := by
  induction front generalizing world with
  | nil => rfl
  | cons ssuId front induction =>
      simp only [List.cons_append, checkStates_cons, induction]

theorem refreshResourceState_eq (provided : plugin.healthCheck = some healthCheck)
    (resource : SsuResourceInfo) (world : PluginState) :
    refreshResourceState plugin resource world =
      let checked := healthCheck resource.ssuId world
      ({ resource with state := checkedState checked.1 }, checked.2) := by
  simp only [refreshResourceState, provided]
  rcases healthCheck resource.ssuId world with ⟨⟨err, health⟩, later⟩
  cases err <;> rfl

end Health

section States

variable {resources : List SsuResourceInfo} {states : List (CBuf 16)}

theorem length_withStates (same : states.length = resources.length) :
    (withStates resources states).length = resources.length := by
  simp [withStates, same]

theorem withStates_append {others : List SsuResourceInfo}
    {otherStates : List (CBuf 16)} (same : states.length = resources.length) :
    withStates (resources ++ others) (states ++ otherStates) =
      withStates resources states ++ withStates others otherStates :=
  List.zipWith_append same.symm

theorem ssuIds_withStates (same : states.length = resources.length) :
    ssuIds (withStates resources states) = ssuIds resources := by
  induction resources generalizing states with
  | nil => rfl
  | cons resource resources induction =>
      cases states with
      | nil => cases same
      | cons state states =>
          have rest := induction (Nat.succ.inj same)
          simp only [withStates, ssuIds, List.zipWith_cons_cons,
            List.map_cons] at rest ⊢
          rw [rest]

theorem states_withStates (same : states.length = resources.length) :
    (withStates resources states).map SsuResourceInfo.state = states := by
  induction resources generalizing states with
  | nil =>
      rw [List.length_nil, List.length_eq_zero_iff] at same
      rw [same]
      rfl
  | cons resource resources induction =>
      cases states with
      | nil => cases same
      | cons state states =>
          have rest := induction (Nat.succ.inj same)
          simp only [withStates, List.zipWith_cons_cons, List.map_cons]
            at rest ⊢
          rw [rest]

/-- The states that are set last count. -/
theorem withStates_withStates (resources : List SsuResourceInfo)
    (states : List (CBuf 16)) :
    withStates (withStates resources states) states =
      withStates resources states := by
  induction resources generalizing states with
  | nil => rfl
  | cons resource resources induction =>
      cases states with
      | nil => rfl
      | cons state states =>
          have rest := induction states
          simp only [withStates, List.zipWith_cons_cons] at rest ⊢
          rw [rest]

theorem withStates_same (same : states.length = resources.length) :
    List.Forall₂ SameResource (withStates resources states) resources := by
  induction resources generalizing states with
  | nil => exact .nil
  | cons resource resources induction =>
      cases states with
      | nil => cases same
      | cons state states =>
          exact .cons ⟨rfl, rfl, rfl, rfl⟩ (induction (Nat.succ.inj same))

end States

section Loops

variable
  {healthCheck : CBuf 64 → PluginState → (SsuErr × CBuf 16) × PluginState}
  (provided : plugin.healthCheck = some healthCheck)

include provided

theorem mergeDiscovered_eq (pool resources : List SsuResourceInfo)
    (world : PluginState) :
    mergeDiscovered plugin pool resources world =
      let checked := checkStates healthCheck (ssuIds resources) world
      (withStates (resources.map (carryUsedBytes pool)) checked.1,
        checked.2) := by
  induction resources generalizing world with
  | nil => rfl
  | cons resource resources induction =>
      have ids : ssuIds (resource :: resources) =
          (carryUsedBytes pool resource).ssuId :: ssuIds resources := by
        rw [carryUsedBytes_ssuId]
        rfl
      rw [mergeDiscovered_cons, ids]
      simp only [refreshResourceState_eq healthCheck provided, induction]
      rfl

/-- The second loop appends the unreported resources while there is room. -/
theorem keepKnown_eq {others : List SsuResourceInfo}
    (distinct : (ssuIds others).Nodup)
    (nextPool : CountedArray SsuResourceInfo maxResources)
    (world : PluginState) :
    let added := unreported nextPool.items others
    let checked := checkStates healthCheck (ssuIds added) world
    (nextPool.items.length + added.length ≤ maxResources →
      ∃ pool, keepKnown plugin others nextPool world = (some pool, checked.2) ∧
        pool.items = nextPool.items ++ withStates added checked.1) ∧
    (maxResources < nextPool.items.length + added.length →
      (keepKnown plugin others nextPool world).1 = none) := by
  induction others generalizing nextPool world with
  | nil =>
      constructor
      · intro _
        exact ⟨nextPool, rfl, (List.append_nil _).symm⟩
      · intro many
        have fits := nextPool.fits
        have none : (unreported nextPool.items []).length = 0 := rfl
        omega
  | cons known others induction =>
      obtain ⟨apart, distinct⟩ := List.nodup_cons.mp distinct
      by_cases listed : known.ssuId ∈ ssuIds nextPool.items
      · have present := findResourceIndex_isSome.mpr listed
        have skipped : unreported nextPool.items (known :: others) =
            unreported nextPool.items others :=
          KeyedMerge.unlisted_cons_of_found listed
        simp only [keepKnown, present, if_true, skipped]
        exact induction distinct nextPool world
      · have missing := mt findResourceIndex_isSome.mp listed
        have taken : unreported nextPool.items (known :: others) =
            known :: unreported nextPool.items others :=
          KeyedMerge.unlisted_cons_of_fresh listed
        simp only [keepKnown, if_neg missing, taken, List.length_cons]
        by_cases room : nextPool.items.length < maxResources
        · have refreshed := refreshResourceState_eq healthCheck provided known
            world
          -- The id that was just added is not met again.
          have rest : ∀ entry : SsuResourceInfo, entry.ssuId = known.ssuId →
              unreported (nextPool.items ++ [entry]) others =
                unreported nextPool.items others := by
            intro entry same
            apply List.filter_congr
            intro other member
            have different : other.ssuId ≠ known.ssuId := by
              intro equal
              exact apart (equal ▸ List.mem_map_of_mem member)
            simp [same, different]
          simp only [dif_pos room, refreshed]
          obtain ⟨entry, named⟩ : ∃ entry : SsuResourceInfo, entry =
              { known with
                state := checkedState (healthCheck known.ssuId world).1 } :=
            ⟨_, rfl⟩
          have step := induction distinct (nextPool.push entry room)
            (healthCheck known.ssuId world).2
          rw [CountedArray.items_push, rest entry (named ▸ rfl),
            List.length_append, List.length_singleton] at step
          rw [← named]
          constructor
          · intro fits
            obtain ⟨pool, ended, items⟩ := step.1 (by omega)
            refine ⟨pool, ended, ?_⟩
            rw [items, List.append_assoc, named]
            rfl
          · intro many
            exact step.2 (by omega)
        · simp only [dif_neg room]
          constructor
          · intro fits
            omega
          · intro _
            trivial

end Loops

section Refresh

variable {discover : PluginState →
    (SsuErr × List SsuResourceInfo) × PluginState}
  {healthCheck : CBuf 64 → PluginState → (SsuErr × CBuf 16) × PluginState}
  {state : ControllerState} {world later : PluginState}
  {discovered : List SsuResourceInfo}

theorem ssuIds_merged (known discovered : List SsuResourceInfo) :
    ssuIds (mergedPool known discovered) =
      ssuIds discovered ++ ssuIds (unreported discovered known) :=
  KeyedMerge.keys_merge keepCounter_lawful known discovered

/-- The refresh commits the merge when it fits the table. -/
theorem refreshPool_eq (discovers : plugin.discover = some discover)
    (checks : plugin.healthCheck = some healthCheck)
    (answered : discover world = ((.ok, discovered), later))
    (distinct : (ssuIds state.pool.items).Nodup) :
    let merged := mergedPool state.pool.items discovered
    let checked := checkStates healthCheck (ssuIds merged) later
    let result := ssuControllerRefreshPool plugin state world
    (merged.length ≤ maxResources →
      ∃ pool, result = (.ok, { state with pool := pool }, checked.2) ∧
        pool.items = withStates merged checked.1) ∧
    (maxResources < merged.length →
      result.1 = .internal ∧ result.2.1 = state) := by
  have lengths : (mergedPool state.pool.items discovered).length =
      discovered.length + (unreported discovered state.pool.items).length := by
    rw [mergedPool_eq, List.length_append, List.length_map]
  simp only [ssuControllerRefreshPool, discovers, answered, lengths]
  by_cases fits : discovered.length ≤ maxResources
  · have merged := mergeDiscovered_eq checks state.pool.items discovered later
    have sized : (checkStates healthCheck (ssuIds discovered)
        later).1.length =
        (discovered.map (carryUsedBytes state.pool.items)).length := by
      simp [ssuIds]
    have same : ∀ resources : List SsuResourceInfo,
        ssuIds resources = ssuIds discovered →
          unreported resources state.pool.items =
            unreported discovered state.pool.items := by
      intro resources ids
      simp only [ssuIds] at ids
      simp only [unreported, KeyedMerge.unlisted, ids]
    have rest := keepKnown_eq checks distinct
      ⟨(mergeDiscovered plugin state.pool.items discovered later).1, by
        rw [length_mergeDiscovered]
        exact fits⟩
      (mergeDiscovered plugin state.pool.items discovered later).2
    simp only [same _ (ssuIds_mergeDiscovered ..), length_mergeDiscovered]
      at rest
    simp only [dif_pos fits]
    constructor
    · intro room
      obtain ⟨pool, ended, items⟩ := rest.1 room
      refine ⟨pool, ?_, ?_⟩
      · rw [ended, ssuIds_merged, checkStates_append, merged]
      · rw [items, ssuIds_merged, checkStates_append, mergedPool_eq,
          withStates_append sized, merged]
    · intro many
      have refused := rest.2 many
      split
      · rename_i ended
        rw [ended] at refused
        cases refused
      · exact ⟨rfl, rfl⟩
  · rw [dif_neg fits]
    constructor
    · intro room
      omega
    · intro _
      exact ⟨rfl, rfl⟩

/-- More resources than the table holds, in discovery alone or together with
the known ones. -/
def TooManyResources (known discovered : List SsuResourceInfo) : Prop :=
  maxResources < discovered.length ∨
    maxResources <
      ((ssuIds discovered).toFinset ∪ (ssuIds known).toFinset).card

theorem tooManyResources_iff {known : List SsuResourceInfo}
    (knownDistinct : (ssuIds known).Nodup)
    (foundDistinct : (ssuIds discovered).Nodup) :
    TooManyResources known discovered ↔
      maxResources < (mergedPool known discovered).length := by
  have lengths : (mergedPool known discovered).length =
      ((ssuIds discovered).toFinset ∪ (ssuIds known).toFinset).card :=
    KeyedMerge.length_merge keepCounter_lawful knownDistinct foundDistinct
  have longer : discovered.length ≤ (mergedPool known discovered).length := by
    rw [mergedPool_eq, List.length_append, List.length_map]
    exact Nat.le_add_right ..
  rw [TooManyResources, ← lengths]
  omega

/-- The pool after a refresh that found `discovered` and whose health checks
ended with `states`. -/
structure PoolMerged (discovered before after : List SsuResourceInfo)
    (states : List (CBuf 16)) : Prop where
  entries : after = withStates (mergedPool before discovered) states
  order : ssuIds after =
    ssuIds discovered ++ ssuIds (unreported discovered before)
  distinct : (ssuIds after).Nodup
  counted : ∀ known ∈ before, ∃ resource ∈ after,
    resource.ssuId = known.ssuId ∧ resource.usedBytes = known.usedBytes
  fresh : ∀ found ∈ discovered, found.ssuId ∉ ssuIds before →
    ∃ resource ∈ after,
      resource.ssuId = found.ssuId ∧ resource.usedBytes = found.usedBytes
  states : after.map SsuResourceInfo.state = states

theorem poolMerged_withStates {known : List SsuResourceInfo}
    (knownDistinct : (ssuIds known).Nodup)
    (foundDistinct : (ssuIds discovered).Nodup) {states : List (CBuf 16)}
    (sized : states.length = (mergedPool known discovered).length) :
    PoolMerged discovered known
      (withStates (mergedPool known discovered) states) states := by
  have ids := ssuIds_withStates sized
  have same := (withStates_same sized).flip
  -- An entry of the merge is met again with its counter.
  have shown : ∀ entry ∈ mergedPool known discovered,
      ∃ resource ∈ withStates (mergedPool known discovered) states,
        resource.ssuId = entry.ssuId ∧
          resource.usedBytes = entry.usedBytes := by
    intro entry member
    obtain ⟨resource, listed, same⟩ :=
      Grouping.exists_of_forall₂ same member
    exact ⟨resource, listed, same.ssuId, same.usedBytes⟩
  have found : ∀ entry ∈ discovered,
      carryUsedBytes known entry ∈ mergedPool known discovered := by
    intro entry member
    rw [mergedPool_eq]
    exact List.mem_append_left _ (List.mem_map_of_mem member)
  refine ⟨rfl, ids.trans (ssuIds_merged ..), ?_, ?_, ?_,
    states_withStates sized⟩
  · rw [ids]
    exact KeyedMerge.nodup_keys_merge keepCounter_lawful knownDistinct
      foundDistinct
  · intro old member
    by_cases reported : old.ssuId ∈ ssuIds discovered
    · obtain ⟨entry, entryMember, id⟩ := List.mem_map.mp reported
      obtain ⟨resource, listed, resourceId, counter⟩ :=
        shown _ (found entry entryMember)
      refine ⟨resource, listed, ?_, ?_⟩
      · rw [resourceId, carryUsedBytes_ssuId, id]
      · rw [counter, carryUsedBytes_eq,
          KeyedMerge.carried_of_mem knownDistinct member id.symm]
        rfl
    · refine shown old ?_
      rw [mergedPool_eq]
      exact List.mem_append_right _
        (KeyedMerge.mem_unlisted.mpr ⟨member, reported⟩)
  · intro entry member unknown
    obtain ⟨resource, listed, id, counter⟩ := shown _ (found entry member)
    rw [carryUsedBytes_eq, KeyedMerge.carried_of_fresh unknown] at id counter
    exact ⟨resource, listed, id, counter⟩

/-- Merging the same discovery into its own result. -/
theorem mergedPool_again {known : List SsuResourceInfo}
    (knownDistinct : (ssuIds known).Nodup)
    (foundDistinct : (ssuIds discovered).Nodup) {states : List (CBuf 16)}
    (sized : states.length = (mergedPool known discovered).length) :
    let after := withStates (mergedPool known discovered) states
    ssuIds (mergedPool after discovered) = ssuIds after ∧
      withStates (mergedPool after discovered) states = after := by
  intro after
  have same : List.Forall₂
      (KeyedMerge.SameCarry SsuResourceInfo.ssuId keepCounter) after
      (mergedPool known discovered) := by
    refine (withStates_same sized).imp fun left right same => ?_
    refine ⟨same.ssuId, fun entry => ?_⟩
    simp only [keepCounter, same.usedBytes]
  have again := KeyedMerge.merge_again keepCounter_lawful knownDistinct
    foundDistinct same
  obtain ⟨front, back, cut, frontSized, backSized⟩ : ∃ front back,
      states = front ++ back ∧
        front.length = (discovered.map (carryUsedBytes known)).length ∧
          back.length = (unreported discovered known).length := by
    refine ⟨states.take discovered.length, states.drop discovered.length,
      (List.take_append_drop ..).symm, ?_⟩
    rw [mergedPool_eq, List.length_append, List.length_map] at sized
    rw [List.length_take, List.length_drop, List.length_map, sized]
    omega
  have split : after = withStates (discovered.map (carryUsedBytes known)) front ++
      withStates (unreported discovered known) back := by
    rw [← withStates_append frontSized, ← cut, ← mergedPool_eq]
  have dropped : after.drop discovered.length =
      withStates (unreported discovered known) back := by
    rw [split]
    apply List.drop_left'
    rw [length_withStates frontSized, List.length_map]
  have merged : mergedPool after discovered =
      discovered.map (carryUsedBytes known) ++
        withStates (unreported discovered known) back := by
    rw [mergedPool, again, dropped, carryUsedBytes_eq]
  constructor
  · rw [merged, split, ssuIds, ssuIds, List.map_append, List.map_append]
    congr 1
    exact (ssuIds_withStates frontSized).symm
  · rw [merged, cut, withStates_append frontSized, withStates_withStates,
      split]

/-- A second refresh with the same answers changes nothing. -/
def RepeatsSame (plugin : SsuPluginOps PluginState)
    (discover : PluginState → (SsuErr × List SsuResourceInfo) × PluginState)
    (healthCheck : CBuf 64 → PluginState → (SsuErr × CBuf 16) × PluginState)
    (discovered : List SsuResourceInfo) (states : List (CBuf 16))
    (state : ControllerState) : Prop :=
  ∀ again settled, discover again = ((.ok, discovered), settled) →
    let checked := checkStates healthCheck (ssuIds state.pool.items) settled
    checked.1 = states →
      ssuControllerRefreshPool plugin state again = (.ok, state, checked.2)

theorem PoolMerged.repeatsSame (discovers : plugin.discover = some discover)
    (checks : plugin.healthCheck = some healthCheck)
    {known : List SsuResourceInfo} {states : List (CBuf 16)}
    (merged : PoolMerged discovered known state.pool.items states)
    (knownDistinct : (ssuIds known).Nodup)
    (foundDistinct : (ssuIds discovered).Nodup)
    (sized : states.length = (mergedPool known discovered).length) :
    RepeatsSame plugin discover healthCheck discovered states state := by
  intro again settled found checked same
  have once := refreshPool_eq discovers checks found merged.distinct
  obtain ⟨ids, entries⟩ := mergedPool_again knownDistinct foundDistinct sized
  rw [← merged.entries] at ids entries
  simp only [ids] at once
  have room : (mergedPool state.pool.items discovered).length ≤
      maxResources := by
    have lengths := congrArg List.length ids
    rw [ssuIds, ssuIds, List.length_map, List.length_map] at lengths
    rw [lengths]
    exact state.pool.fits
  obtain ⟨pool, refreshed, items⟩ := once.1 room
  have unchanged : pool = state.pool := by
    apply CountedArray.ext
    rw [items]
    exact (congrArg _ same).trans entries
  rw [refreshed, unchanged]

/-- After a discovery that succeeds: the refresh merges without loss, or the
resources are too many and it fails and changes nothing. -/
theorem refreshPool_merges (discovers : plugin.discover = some discover)
    (checks : plugin.healthCheck = some healthCheck)
    (answered : discover world = ((.ok, discovered), later))
    (knownDistinct : (ssuIds state.pool.items).Nodup)
    (foundDistinct : (ssuIds discovered).Nodup) :
    let result := ssuControllerRefreshPool plugin state world
    let states := (checkStates healthCheck
      (ssuIds (mergedPool state.pool.items discovered)) later).1
    (result.1 = .ok →
      result.2.1 = { state with pool := result.2.1.pool } ∧
        PoolMerged discovered state.pool.items result.2.1.pool.items states ∧
          RepeatsSame plugin discover healthCheck discovered states
            result.2.1) ∧
    (result.1 ≠ .ok ↔ TooManyResources state.pool.items discovered) ∧
    (result.1 ≠ .ok → result.1 = .internal ∧ result.2.1 = state) := by
  have outcome := refreshPool_eq discovers checks answered knownDistinct
  have many := tooManyResources_iff knownDistinct foundDistinct
  intro result states
  by_cases room : (mergedPool state.pool.items discovered).length ≤
      maxResources
  · obtain ⟨pool, refreshed, items⟩ := outcome.1 room
    have ended : result = _ := refreshed
    have sized : states.length =
        (mergedPool state.pool.items discovered).length := by
      simp [states, ssuIds]
    have merged : PoolMerged discovered state.pool.items pool.items states := by
      rw [items]
      exact poolMerged_withStates knownDistinct foundDistinct sized
    rw [ended]
    refine ⟨fun _ => ⟨rfl, merged, ?_⟩, ?_, fun failed => (failed rfl).elim⟩
    · exact merged.repeatsSame discovers checks knownDistinct foundDistinct
        sized
    · rw [many]
      simp only [ne_eq, not_true_eq_false, false_iff]
      omega
  · have refused := outcome.2 (not_le.mp room)
    have failed : result.1 ≠ .ok := by
      rw [refused.1]
      decide
    exact ⟨fun ok => (failed ok).elim,
      iff_of_true failed (many.mpr (not_le.mp room)), fun _ => refused⟩

def ssuWith (name : String) (usedBytes : UInt64) : SsuResourceInfo :=
  { ssuId := copyCstr 64 name.toList
    totalBytes := 8192
    usedBytes
    state := onlineState
    hostId := copyCstr 64 "host0".toList }

/-- Discovery no longer reports the first SSU, whose health check fails. -/
def lossyPlugin : SsuPluginOps Unit :=
  { discover := some fun world =>
      ((.ok, [ssuWith "ssu2" 512, ssuWith "ssu1" 0]), world)
    connect := none
    healthCheck := some fun ssuId world =>
      (if ssuId = (ssuWith "ssu0" 0).ssuId then (.io, .empty)
        else (.ok, onlineState), world)
    createNs := none
    deleteNs := none
    mount := none
    unmount := none }

def twoKnown : ControllerState :=
  { ControllerState.initial with
    pool := ⟨[ssuWith "ssu0" 1024, ssuWith "ssu1" 2048], by decide⟩ }

theorem refreshPool_merges_lossy :
    PoolMerged [ssuWith "ssu2" 512, ssuWith "ssu1" 0]
      [ssuWith "ssu0" 1024, ssuWith "ssu1" 2048]
      (ssuControllerRefreshPool lossyPlugin twoKnown ()).2.1.pool.items
      [onlineState, onlineState, offlineState] := by
  have merges := @refreshPool_merges Unit lossyPlugin _ _ twoKnown () ()
    [ssuWith "ssu2" 512, ssuWith "ssu1" 0] rfl rfl rfl (by decide +kernel)
    (by decide +kernel)
  have states : (checkStates (fun ssuId (world : Unit) =>
        (if ssuId = (ssuWith "ssu0" 0).ssuId then (.io, .empty)
          else (.ok, onlineState), world))
      (ssuIds (mergedPool twoKnown.pool.items
        [ssuWith "ssu2" 512, ssuWith "ssu1" 0])) ()).1 =
      [onlineState, onlineState, offlineState] := by
    decide +kernel
  exact states ▸ (merges.1 (by decide +kernel)).2.1

end Refresh

end UbseSsu.Controller

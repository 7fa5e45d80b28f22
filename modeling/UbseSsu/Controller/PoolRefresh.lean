import UbseSsu.Controller.MountState
import UbseSsu.Library.Grouping

/-!
# What a pool refresh can do

A refresh either leaves the controller as it was or rebuilds the pool from the
discovered resources and the known ones that discovery left out.
-/

namespace UbseSsu.Controller

variable {PluginState : Type} {plugin : SsuPluginOps PluginState}

def ssuIds (resources : List SsuResourceInfo) : List (CBuf 64) :=
  resources.map SsuResourceInfo.ssuId

theorem findResourceIndex_bind (resources : List SsuResourceInfo)
    (ssuId : CBuf 64) :
    (findResourceIndex resources ssuId).bind (resources[·]?) =
      resources.find? fun resource => resource.ssuId = ssuId := by
  induction resources with
  | nil => rfl
  | cons resource resources induction =>
      unfold findResourceIndex at induction ⊢
      rw [List.findIdx?_cons, List.find?_cons]
      by_cases same : resource.ssuId = ssuId
      · simp [same]
      · simp only [same, decide_false, Bool.false_eq_true, if_false]
        rw [← induction]
        cases resources.findIdx? fun resource => resource.ssuId = ssuId <;> rfl

theorem findResourceIndex_isSome {resources : List SsuResourceInfo}
    {ssuId : CBuf 64} :
    (findResourceIndex resources ssuId).isSome = true ↔
      ssuId ∈ ssuIds resources := by
  simp [findResourceIndex, ssuIds]

/-- A refreshed entry only differs in its health. -/
structure SameResource (left right : SsuResourceInfo) : Prop where
  ssuId : left.ssuId = right.ssuId
  totalBytes : left.totalBytes = right.totalBytes
  usedBytes : left.usedBytes = right.usedBytes
  hostId : left.hostId = right.hostId

theorem refreshResourceState_same (plugin : SsuPluginOps PluginState)
    (resource : SsuResourceInfo)
    (world : PluginState) :
    SameResource (refreshResourceState plugin resource world).1 resource := by
  unfold refreshResourceState
  split
  · exact ⟨rfl, rfl, rfl, rfl⟩
  · split <;> exact ⟨rfl, rfl, rfl, rfl⟩

/-- The discovered resource with the counter of the known one, if any. -/
def carryUsedBytes (pool : List SsuResourceInfo) (resource : SsuResourceInfo) :
    SsuResourceInfo :=
  match pool.find? fun known => known.ssuId = resource.ssuId with
  | none => resource
  | some known => { resource with usedBytes := known.usedBytes }

@[simp] theorem carryUsedBytes_ssuId (pool : List SsuResourceInfo)
    (resource : SsuResourceInfo) :
    (carryUsedBytes pool resource).ssuId = resource.ssuId := by
  unfold carryUsedBytes
  split <;> rfl

@[simp] theorem carryUsedBytes_totalBytes (pool : List SsuResourceInfo)
    (resource : SsuResourceInfo) :
    (carryUsedBytes pool resource).totalBytes = resource.totalBytes := by
  unfold carryUsedBytes
  split <;> rfl

/-- One round of the first loop, with the lookup by id written out. -/
theorem mergeDiscovered_cons (pool : List SsuResourceInfo)
    (resource : SsuResourceInfo) (resources : List SsuResourceInfo)
    (world : PluginState) :
    mergeDiscovered plugin pool (resource :: resources) world =
      let first := refreshResourceState plugin (carryUsedBytes pool resource)
        world
      let rest := mergeDiscovered plugin pool resources first.2
      (first.1 :: rest.1, rest.2) := by
  simp only [mergeDiscovered, findResourceIndex_bind]
  rfl

theorem mergeDiscovered_same (plugin : SsuPluginOps PluginState)
    (pool resources : List SsuResourceInfo)
    (world : PluginState) :
    List.Forall₂ (fun merged resource =>
      SameResource merged (carryUsedBytes pool resource))
      (mergeDiscovered plugin pool resources world).1 resources := by
  induction resources generalizing world with
  | nil => exact .nil
  | cons resource resources induction =>
      rw [mergeDiscovered_cons]
      exact .cons (refreshResourceState_same plugin _ _) (induction _)

theorem ssuIds_mergeDiscovered (plugin : SsuPluginOps PluginState)
    (pool resources : List SsuResourceInfo)
    (world : PluginState) :
    ssuIds (mergeDiscovered plugin pool resources world).1 =
      ssuIds resources := by
  induction resources generalizing world with
  | nil => rfl
  | cons resource resources induction =>
      have same := refreshResourceState_same plugin
        (carryUsedBytes pool resource) world
      rw [mergeDiscovered_cons, ssuIds, ssuIds, List.map_cons, List.map_cons]
      refine congrArg₂ _ ?_ (induction _)
      exact same.ssuId.trans (carryUsedBytes_ssuId _ _)

/-- The known resources `added` behind the rebuilt pool. -/
structure KnownKept (others : List SsuResourceInfo)
    (before after : List SsuResourceInfo) : Prop where
  added : ∀ resource ∈ after, resource ∈ before ∨
    ∃ known ∈ others, SameResource resource known ∧
      known.ssuId ∉ ssuIds before
  stay : ∀ resource ∈ before, resource ∈ after
  kept : ∀ known ∈ others, known.ssuId ∈ ssuIds after
  distinct : (ssuIds before).Nodup → (ssuIds after).Nodup

theorem keepKnown_kept {others : List SsuResourceInfo}
    {nextPool pool : CountedArray SsuResourceInfo maxResources}
    {world after : PluginState}
    (ended : keepKnown plugin others nextPool world = (some pool, after)) :
    KnownKept others nextPool.items pool.items := by
  induction others generalizing nextPool world with
  | nil =>
      simp only [keepKnown, Prod.mk.injEq, Option.some.injEq] at ended
      obtain ⟨rfl, _⟩ := ended
      exact ⟨fun _ => .inl, fun _ => id, nofun, id⟩
  | cons known others induction =>
      simp only [keepKnown] at ended
      split at ended
      · rename_i present
        have rest := induction ended
        have listed := findResourceIndex_isSome.mp present
        refine { rest with added := ?_, kept := ?_ }
        · intro resource member
          refine (rest.added resource member).imp id ?_
          rintro ⟨other, otherMember, same⟩
          exact ⟨other, List.mem_cons_of_mem _ otherMember, same⟩
        · refine List.forall_mem_cons.mpr ⟨?_, rest.kept⟩
          obtain ⟨resource, member, same⟩ := List.mem_map.mp listed
          exact List.mem_map.mpr ⟨resource, rest.stay resource member, same⟩
      · rename_i missing
        have absent := mt findResourceIndex_isSome.mpr missing
        split at ended
        · have rest := induction ended
          have same := refreshResourceState_same plugin known world
          rw [CountedArray.items_push] at rest
          generalize (refreshResourceState plugin known world).1 = refreshed
            at same rest
          refine ⟨?_, fun resource member => ?_, ?_, fun unique => ?_⟩
          · intro resource member
            rcases rest.added resource member with early | ⟨other, otherMember,
              otherSame, fresh⟩
            · refine (List.mem_append.mp early).imp id fun last => ?_
              rw [List.mem_singleton] at last
              exact ⟨known, List.mem_cons_self, last ▸ same, absent⟩
            · refine .inr ⟨other, List.mem_cons_of_mem _ otherMember,
                otherSame, fun old => fresh ?_⟩
              rw [ssuIds, List.map_append]
              exact List.mem_append_left _ old
          · exact rest.stay resource (List.mem_append_left _ member)
          · refine List.forall_mem_cons.mpr ⟨?_, rest.kept⟩
            exact List.mem_map.mpr ⟨refreshed, rest.stay refreshed
              (List.mem_append_right _ List.mem_cons_self), same.ssuId⟩
          · refine rest.distinct ?_
            rw [ssuIds, List.map_append]
            refine List.nodup_append.mpr ⟨unique, List.nodup_singleton _, ?_⟩
            rintro old oldMember new newMember rfl
            rw [List.map_singleton, List.mem_singleton, same.ssuId] at newMember
            exact absent (newMember ▸ oldMember)
        · simp at ended

/-- Where the entries of a rebuilt pool come from. -/
structure PoolRebuilt (discovered before after : List SsuResourceInfo) :
    Prop where
  origin : ∀ resource ∈ after,
    (∃ found ∈ discovered,
      SameResource resource (carryUsedBytes before found)) ∨
    ∃ known ∈ before, SameResource resource known
  kept : ∀ known ∈ before, known.ssuId ∈ ssuIds after
  distinct : (ssuIds discovered).Nodup → (ssuIds after).Nodup

/-- What discovery reported, when it succeeded. -/
def discoveredResources (plugin : SsuPluginOps PluginState)
    (world : PluginState) : Option (List SsuResourceInfo) :=
  plugin.discover.bind fun discover =>
    match (discover world).1 with
    | (.ok, resources) => some resources
    | _ => none

theorem refreshPool_outcome (plugin : SsuPluginOps PluginState)
    (state : ControllerState) (world : PluginState) :
    (ssuControllerRefreshPool plugin state world).2.1 = state ∨
      ∃ discovered, discoveredResources plugin world = some discovered ∧
        ∃ pool : CountedArray SsuResourceInfo maxResources,
          PoolRebuilt discovered state.pool.items pool.items ∧
            (ssuControllerRefreshPool plugin state world).2.1 =
              { state with pool := pool } := by
  unfold ssuControllerRefreshPool
  split
  · exact .inl rfl
  · rename_i discover provided
    split
    · rename_i discovered after answered
      have reported : discoveredResources plugin world = some discovered := by
        simp [discoveredResources, provided, answered]
      split
      · rename_i fits
        simp only
        split
        · rename_i pool final ended
          have merged := mergeDiscovered_same plugin
            state.pool.items discovered after
          have ids := ssuIds_mergeDiscovered plugin
            state.pool.items discovered after
          have rest := keepKnown_kept ended
          refine .inr ⟨discovered, reported, pool, ⟨?_, rest.kept, ?_⟩, rfl⟩
          · intro resource member
            rcases rest.added resource member with early | ⟨known, knownMember,
              same, _⟩
            · obtain ⟨found, foundMember, same⟩ :=
                Grouping.exists_of_forall₂ merged early
              exact .inl ⟨found, foundMember, same⟩
            · exact .inr ⟨known, knownMember, same⟩
          · intro unique
            exact rest.distinct (ids.symm ▸ unique)
        · exact .inl rfl
      · exact .inl rfl
    · exact .inl rfl

end UbseSsu.Controller

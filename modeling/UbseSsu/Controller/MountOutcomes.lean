import UbseSsu.Controller.Outcomes

/-!
# What a mount and an unmount can do, and whole runs

The outcomes of the two logical-device operations, then `ControllerOp` with
its step function: a run of the controller is a list of operations in any
order, and every step of it but a refresh is a chain of
atomic events.
-/

namespace UbseSsu.Controller

open Relation (ReflTransGen)

variable {PluginState : Type} {plugin : SsuPluginOps PluginState}

section Connect

variable
  {connect : CBuf 64 → PluginState → (SsuErr × CBuf 64) × PluginState}

/-- Worlds that differ by `plugin->connect` calls only. -/
abbrev ConnectReach
    (connect : CBuf 64 → PluginState → (SsuErr × CBuf 64) × PluginState) :
    PluginState → PluginState → Prop :=
  ReflTransGen fun before after => ∃ ssuId, after = (connect ssuId before).2

theorem connectExtents_reach
    (connect : CBuf 64 → PluginState → (SsuErr × CBuf 64) × PluginState)
    (rows : List ControllerAllocation)
    (slots : List Nat) (world : PluginState) :
    ConnectReach connect world (connectExtents connect rows slots world).2 := by
  induction rows generalizing slots world with
  | nil => exact .refl
  | cons row rows induction =>
      cases slots with
      | nil => exact .refl
      | cons slot slots =>
          have called : ConnectReach connect world
              (connect row.info.ssuId world).2 := .single ⟨_, rfl⟩
          cases answered : connect row.info.ssuId world with
          | mk answer after =>
              rw [answered] at called
              simp only [connectExtents, answered]
              split
              · rename_i same
                obtain ⟨_, rfl⟩ := Prod.mk.inj same
                have rest := called.trans (induction slots after)
                split <;> (rename_i ended; rw [ended] at rest; exact rest)
              · rename_i same
                obtain ⟨_, rfl⟩ := Prod.mk.inj same
                exact called

/-- One physical device for every row, each answered by `plugin->connect`. -/
structure Connected
    (connect : CBuf 64 → PluginState → (SsuErr × CBuf 64) × PluginState)
    (rows : List ControllerAllocation) (slots : List Nat)
    (world : PluginState)
    (connected : List (ControllerAllocation × Nat × CBuf 64)) : Prop where
  sources : connected.map Prod.fst = rows
  slots : connected.map (fun entry => entry.2.1) = slots.take rows.length
  answers : ∀ entry ∈ connected, ∃ before,
    ConnectReach connect world before ∧
      (connect entry.1.info.ssuId before).1 = (.ok, entry.2.2)

theorem connectExtents_ok {rows : List ControllerAllocation}
    {slots : List Nat} {world after : PluginState}
    {connected : List (ControllerAllocation × Nat × CBuf 64)}
    (ended : connectExtents connect rows slots world = (.ok connected, after)) :
    Connected connect rows slots world connected := by
  induction rows generalizing slots world after connected with
  | nil =>
      simp only [connectExtents, Prod.mk.injEq, Except.ok.injEq] at ended
      obtain ⟨rfl, _⟩ := ended
      exact ⟨rfl, by simp, nofun⟩
  | cons row rows induction =>
      cases slots with
      | nil => simp [connectExtents] at ended
      | cons slot slots =>
          cases answered : connect row.info.ssuId world with
          | mk answer next =>
              simp only [connectExtents, answered] at ended
              split at ended
              · rename_i physDev world' same
                obtain ⟨rfl, rfl⟩ := Prod.mk.inj same
                split at ended
                · rename_i rest _ later
                  simp only [Prod.mk.injEq, Except.ok.injEq] at ended
                  obtain ⟨rfl, _⟩ := ended
                  have tail := induction later
                  refine ⟨by simp [tail.sources], by simp [tail.slots], ?_⟩
                  intro entry member
                  rcases List.mem_cons.mp member with rfl | inTail
                  · exact ⟨world, .refl, by rw [answered]⟩
                  · obtain ⟨before, reached, fine⟩ :=
                      tail.answers entry inTail
                    refine ⟨before, .head ⟨row.info.ssuId, ?_⟩ reached, fine⟩
                    rw [answered]
                · simp at ended
              · simp at ended

theorem connectExtents_error {rows : List ControllerAllocation}
    {slots : List Nat} {world after : PluginState} {err : SsuErr}
    (ended : connectExtents connect rows slots world = (.error err, after)) :
    err ≠ .ok := by
  induction rows generalizing slots world after with
  | nil => simp [connectExtents] at ended
  | cons row rows induction =>
      cases slots with
      | nil =>
          simp only [connectExtents, Prod.mk.injEq, Except.error.injEq] at ended
          exact ended.1 ▸ (by decide)
      | cons slot slots =>
          simp only [connectExtents] at ended
          split at ended
          · split at ended
            · simp at ended
            · rename_i later
              simp only [Prod.mk.injEq, Except.error.injEq] at ended
              obtain ⟨rfl, rfl⟩ := ended
              exact induction later
          · rename_i failed _
            simp only [Prod.mk.injEq, Except.error.injEq] at ended
            obtain ⟨rfl, rfl⟩ := ended
            exact failed

end Connect

section Mount

inductive MountOutcome (plugin : SsuPluginOps PluginState)
    (req : SsuMountReq) (state : ControllerState) (world : PluginState) :
    SsuErr × ControllerState × PluginState → Prop where
  | refused {err : SsuErr} (failed : err ≠ .ok) :
      MountOutcome plugin req state world (err, state, world)
  | unconnected {connect} (provided : plugin.connect = some connect)
      {err : SsuErr} {after : PluginState}
      (reached : ConnectReach connect world after) (failed : err ≠ .ok) :
      MountOutcome plugin req state world (err, state, after)
  | rejected {connect mount} (provided : plugin.connect = some connect)
      (mounts : plugin.mount = some mount)
      {err : SsuErr} {middle after : PluginState}
      (reached : ConnectReach connect world middle)
      (rejected : mount req.allocateId req.hostId req.logicalDev middle =
        (err, after)) (failed : err ≠ .ok) :
      MountOutcome plugin req state world (err, state, after)
  | mounted {connect mount} (provided : plugin.connect = some connect)
      (mounts : plugin.mount = some mount)
      {connected : List (ControllerAllocation × Nat × CBuf 64)}
      {middle after : PluginState}
      (reached : ConnectReach connect world middle)
      (connects : connectExtents connect
        (state.allocations.rows.filter (rowHasId req.allocateId))
        (state.logdevs.freeSlots.take (state.allocations.rows.filter
          (rowHasId req.allocateId)).length) world = (.ok connected, middle))
      (checked : MountChecked req state connected)
      (accepted : mount req.allocateId req.hostId req.logicalDev middle =
        (.ok, after)) :
      MountOutcome plugin req state world
        (.ok, recordMount req connected state, after)

theorem findLogdevByDev_isSome_eq_false {state : ControllerState}
    {logicalDev : CString}
    (unknown : ¬(findLogdevByDev state logicalDev).isSome = true) :
    ∀ logdev ∈ state.logdevs.rows, logdev.logicalDev.chars ≠ logicalDev := by
  simpa [findLogdevByDev, logdevHasDev] using unknown

theorem ssuControllerMount_outcome (plugin : SsuPluginOps PluginState)
    (req : SsuMountReq) (state : ControllerState) (world : PluginState) :
    MountOutcome plugin req state world
      (ssuControllerMount plugin req state world) := by
  unfold ssuControllerMount
  split
  · exact .refused (by decide)
  · exact .refused (by decide)
  · rename_i mount connect mounts provided
    split
    · exact .refused (by decide)
    · rename_i named
      simp only [Bool.or_eq_true, isEmptyString_iff, not_or] at named
      split
      · exact .refused (by decide)
      · rename_i allocation others listed
        simp only
        split
        · exact .refused (by decide)
        · rename_i unused
          split
          · exact .refused (by decide)
          · rename_i sharing
            split
            · exact .refused (by decide)
            · rename_i room
              have reached := connectExtents_reach connect
                (allocation :: others) (state.logdevs.freeSlots.take
                  (allocation :: others).length) world
              split
              · rename_i err after ended
                rw [ended] at reached
                exact .unconnected provided reached (connectExtents_error ended)
              · rename_i connected middle ended
                rw [ended] at reached
                have found := connectExtents_ok ended
                have count : connected.length =
                    (allocation :: others).length := by
                  rw [← found.sources, List.length_map]
                cases accepted : mount req.allocateId req.hostId
                    req.logicalDev middle with
                | mk err after =>
                    split
                    · rename_i same
                      obtain ⟨rfl, rfl⟩ := Prod.mk.inj same
                      refine .mounted provided mounts reached
                        (by rw [listed]; exact ended)
                        ⟨named.1.2, named.2, ?_, ?_, ?_, ?_, ?_⟩ accepted
                      · rw [found.sources, listed]
                      · rintro rfl
                        simp at count
                      · rw [found.slots, count, List.take_take,
                          Nat.min_self]
                      · intro logdev member same
                        exact findLogdevByDev_isSome_eq_false unused logdev
                          member (congrArg _ same)
                      · rw [listed]
                        by_cases isShared : allocation.info.shareType = .shared
                        · exact .inl (by simpa using isShared)
                        · exact .inr (by simpa [isShared] using sharing)
                    · rename_i refused same
                      obtain ⟨rfl, rfl⟩ := Prod.mk.inj same
                      exact .rejected provided mounts reached accepted refused

inductive UnmountOutcome (plugin : SsuPluginOps PluginState)
    (logicalDev : CString) (state : ControllerState) (world : PluginState) :
    SsuErr × ControllerState × PluginState → Prop where
  | refused {err : SsuErr} (failed : err ≠ .ok) :
      UnmountOutcome plugin logicalDev state world (err, state, world)
  | stale {unmount} (provided : plugin.unmount = some unmount)
      (named : logicalDev ≠ [])
      (unknown : ∀ logdev ∈ state.logdevs.rows,
        logdev.logicalDev.chars ≠ logicalDev) :
      UnmountOutcome plugin logicalDev state world
        ((unmount logicalDev world).1, state, (unmount logicalDev world).2)
  | rejected {unmount} (provided : plugin.unmount = some unmount)
      {logdev : SsuLogdevInfo}
      (found : findLogdevByDev state logicalDev = some logdev)
      (failed : (unmount logicalDev world).1 ≠ .ok) :
      UnmountOutcome plugin logicalDev state world
        ((unmount logicalDev world).1, state, (unmount logicalDev world).2)
  | unmounted {unmount} (provided : plugin.unmount = some unmount)
      {logdev : SsuLogdevInfo}
      (found : findLogdevByDev state logicalDev = some logdev)
      {after : PluginState}
      (accepted : unmount logicalDev world = (.ok, after)) :
      UnmountOutcome plugin logicalDev state world
        (.ok, recordUnmount logicalDev logdev.allocateId.chars state, after)

theorem ssuControllerUnmount_outcome (plugin : SsuPluginOps PluginState)
    (logicalDev : CString) (state : ControllerState) (world : PluginState) :
    UnmountOutcome plugin logicalDev state world
      (ssuControllerUnmount plugin logicalDev state world) := by
  unfold ssuControllerUnmount
  split
  · exact .refused (by decide)
  · rename_i unmount provided
    split
    · exact .refused (by decide)
    · rename_i named
      split
      · rename_i unknown
        refine .stale provided (fun unnamed => named (by simp [unnamed])) ?_
        exact findLogdevByDev_isSome_eq_false (by simp [unknown])
      · rename_i logdev found
        split
        · rename_i accepted
          exact .unmounted provided found accepted
        · rename_i err after refused same
          have answer : unmount logicalDev world =
              ((unmount logicalDev world).1, (unmount logicalDev world).2) :=
            rfl
          rw [same] at answer
          have rejected : UnmountOutcome plugin logicalDev state world _ :=
            .rejected provided found (by rw [same]; exact refused)
          rwa [same] at rejected

end Mount

section Runs

/-- One call of a controller entry point. -/
inductive ControllerOp where
  | refreshPool
  | alloc (req : SsuAllocReq) (buffer : ExtentBuffer)
  | release (allocateId : CString)
  | mount (req : SsuMountReq)
  | unmount (logicalDev : CString)
deriving DecidableEq

/-- The status that a call returns, with the states after it. -/
def exec (plugin : SsuPluginOps PluginState) :
    ControllerOp → ControllerState → PluginState →
      SsuErr × ControllerState × PluginState
  | .refreshPool, state, world => ssuControllerRefreshPool plugin state world
  | .alloc req buffer, state, world =>
      let result := ssuControllerAlloc plugin req buffer state world
      (result.1.err, result.2)
  | .release allocateId, state, world =>
      ssuControllerRelease plugin allocateId state world
  | .mount req, state, world => ssuControllerMount plugin req state world
  | .unmount logicalDev, state, world =>
      ssuControllerUnmount plugin logicalDev state world

def step (plugin : SsuPluginOps PluginState)
    (current : ControllerState × PluginState) (op : ControllerOp) :
    ControllerState × PluginState :=
  (exec plugin op current.1 current.2).2

/-- A request for `size` bytes on all ONLINE disks for one host. -/
def plainRequest (size : UInt64) (diskName : CString) : SsuAllocReq :=
  { sizeBytes := size
    diskName := diskName
    physicalDiskCount := 0
    reliability := .stripe
    shareType := .exclusive
    tenant := "tenant".toList
    hostIds := ["host0".toList] }

def plainMount (allocateId logicalDev : CString) : SsuMountReq :=
  { allocateId := allocateId
    hostId := "host0".toList
    logicalDev := copyCstr 64 logicalDev }

/-- Calling `plugin->connect` is a chain of events that keep the tables. -/
theorem ConnectReach.chain {connect} (provided : plugin.connect = some connect)
    (state : ControllerState) {before after : PluginState}
    (reached : ConnectReach connect before after) :
    ControllerChain plugin (state, before) (state, after) := by
  induction reached with
  | refl => exact .refl
  | tail _ last induction =>
      obtain ⟨ssuId, rfl⟩ := last
      exact induction.tail (.connected state _ provided ssuId)

theorem MountOutcome.chain {req : SsuMountReq} {state : ControllerState}
    {world : PluginState} {result : SsuErr × ControllerState × PluginState}
    (outcome : MountOutcome plugin req state world result) :
    ControllerChain plugin (state, world) result.2 := by
  cases outcome with
  | refused _ => exact .refl
  | unconnected provided reached _ => exact reached.chain provided state
  | rejected provided mounts reached rejected failed =>
      have refused : ControllerEvent plugin (state, _) _ :=
        .mountRefused state _ mounts req (by rw [rejected]; exact failed)
      rw [rejected] at refused
      exact (reached.chain provided state).tail refused
  | mounted provided mounts reached _ checked accepted =>
      exact (reached.chain provided state).tail
        (.mounted state _ mounts checked accepted)

theorem UnmountOutcome.chain {logicalDev : CString} {state : ControllerState}
    {world : PluginState} {result : SsuErr × ControllerState × PluginState}
    (outcome : UnmountOutcome plugin logicalDev state world result) :
    ControllerChain plugin (state, world) result.2 := by
  cases outcome with
  | refused _ => exact .refl
  | stale provided named unknown =>
      exact .single (.unmountedStale state world provided logicalDev named
        unknown)
  | rejected provided _ failed =>
      exact .single (.unmountRefused state world provided logicalDev failed)
  | unmounted provided found accepted =>
      exact .single (.unmounted state world provided found accepted)

theorem step_chain (plugin : SsuPluginOps PluginState)
    (current : ControllerState × PluginState) {op : ControllerOp}
    (notRefresh : op ≠ .refreshPool) (named : LogdevsNamed current.1) :
    ControllerChain plugin current (step plugin current op) := by
  obtain ⟨state, world⟩ := current
  cases op with
  | refreshPool => exact (notRefresh rfl).elim
  | alloc req buffer =>
      exact (ssuControllerAlloc_outcome plugin req buffer state world).chain
        named
  | release allocateId =>
      exact (ssuControllerRelease_outcome plugin allocateId state world).chain
  | mount req =>
      exact (ssuControllerMount_outcome plugin req state world).chain
  | unmount logicalDev =>
      exact (ssuControllerUnmount_outcome plugin logicalDev state world).chain

end Runs

end UbseSsu.Controller

import UbseSsu.Api.Outcomes
import UbseSsu.Runtime.Commands

/-!
# What a command does

Whatever its text, a command leaves everything alone, calls the API or calls
the controller behind the API's back.
-/

namespace UbseSsu.Runtime

open Controller Api

variable {PluginState : Type}

/-- The states after a command. -/
def commandStep (plugin : SsuPluginOps PluginState) (pluginName : CString)
    (current : ApiState PluginState) (request : CString) :
    ApiState PluginState :=
  (handleCommand plugin pluginName request current).2

/-- The id that a `RELEASE` command names. -/
def releasedId (request : CString) : Option CString :=
  match strtok ' ' (cutLine request) with
  | none => none
  | some (command, save) =>
      if command = "RELEASE".toList then (nextToken save).1 else none

/-- A controller call that the cache of the API does not see. -/
def controllerStep (plugin : SsuPluginOps PluginState)
    (current : ApiState PluginState) (op : ControllerOp) :
    ApiState PluginState :=
  { current with
    controller := (step plugin current.system op).1
    world := (step plugin current.system op).2 }

inductive CommandEffect (plugin : SsuPluginOps PluginState)
    (current : ApiState PluginState) (request : CString) :
    ApiState PluginState → Prop where
  | unchanged : CommandEffect plugin current request current
  | api (op : ApiOp) :
      CommandEffect plugin current request (apiStep plugin current op)
  | controller (op : ControllerOp)
      (named : ∀ allocateId, op = .release allocateId →
        releasedId request = some allocateId) :
      CommandEffect plugin current request (controllerStep plugin current op)

section Handlers

variable {plugin : SsuPluginOps PluginState} {pluginName request : CString}
  {current : ApiState PluginState}

theorem reportOperation_state (operation done : CString)
    (result : SsuErr × ApiState PluginState) :
    (reportOperation pluginName operation result done).2 = result.2 := by
  unfold reportOperation
  split <;> rfl

theorem handleAlloc_effect (save : CString) :
    CommandEffect plugin current request
      (handleAlloc plugin pluginName save current).2 := by
  unfold handleAlloc
  simp only
  split
  · rw [reportOperation_state]
    apply CommandEffect.controller (.alloc _ ⟨true, 1⟩)
    intro allocateId other
    cases other
  · exact .unchanged

theorem handleAllocate_effect (save : CString) :
    CommandEffect plugin current request
      (handleAllocate plugin pluginName save current).2 := by
  unfold handleAllocate
  split
  · exact .unchanged
  · rw [reportOperation_state]
    exact .api (.allocate _)

theorem handleAllocateResult_effect (save : CString) :
    CommandEffect plugin current request
      (handleAllocateResult pluginName save current).2 := by
  unfold handleAllocateResult
  split
  · exact .unchanged
  · rename_i requestId _
    have called : CommandEffect plugin current request _ :=
      .api (.resultGet requestId)
    simp only
    split <;> exact called

theorem handleMount_effect (save : CString) :
    CommandEffect plugin current request
      (handleMount plugin pluginName save current).2 := by
  unfold handleMount
  simp only
  split
  · rw [reportOperation_state]
    apply CommandEffect.controller (.mount _)
    intro allocateId other
    cases other
  · exact .unchanged

theorem handleMountDev_effect (save : CString) :
    CommandEffect plugin current request
      (handleMountDev plugin pluginName save current).2 := by
  unfold handleMountDev
  simp only
  split
  · rw [reportOperation_state]
    exact .api (.mount _ _)
  · exact .unchanged

theorem handleUnmount_effect (save : CString) :
    CommandEffect plugin current request
      (handleUnmount plugin pluginName save current).2 := by
  unfold handleUnmount
  split
  · exact .unchanged
  · rw [reportOperation_state]
    apply CommandEffect.controller (.unmount _)
    intro allocateId other
    cases other

theorem handleRelease_effect {save : CString}
    (named : releasedId request = (nextToken save).1) :
    CommandEffect plugin current request
      (handleRelease plugin pluginName save current).2 := by
  unfold handleRelease
  split
  · exact .unchanged
  · rename_i allocateId token
    rw [reportOperation_state]
    apply CommandEffect.controller (.release allocateId)
    intro other same
    cases same
    rw [named, token]

theorem handleFree_effect (save : CString) :
    CommandEffect plugin current request
      (handleFree plugin pluginName save current).2 := by
  unfold handleFree
  split
  · exact .unchanged
  · rw [reportOperation_state]
    exact .api (.free _)

theorem handleList_effect :
    CommandEffect plugin current request (handleList plugin current).2 := by
  have refreshed : CommandEffect plugin current request
      (controllerStep plugin current .refreshPool) := by
    apply CommandEffect.controller
    intro allocateId other
    cases other
  unfold handleList
  simp only
  split <;> exact refreshed

theorem handleQuery_effect (save : CString) :
    CommandEffect plugin current request
      (handleQuery plugin save current).2 := by
  unfold handleQuery
  split
  · exact .unchanged
  · split
    · exact handleList_effect
    · split
      · exact .unchanged
      · split <;> exact .unchanged

theorem handleCommand_effect (plugin : SsuPluginOps PluginState)
    (pluginName request : CString) (current : ApiState PluginState) :
    CommandEffect plugin current request
      (commandStep plugin pluginName current request) := by
  unfold commandStep handleCommand
  cases cut : strtok ' ' (cutLine request) with
  | none => exact .unchanged
  | some parts =>
      obtain ⟨command, save⟩ := parts
      simp only
      split
      · exact handleAlloc_effect save
      · split
        · exact handleAllocate_effect save
        · split
          · exact handleAllocateResult_effect save
          · split
            · exact handleMount_effect save
            · split
              · exact handleMountDev_effect save
              · split
                · exact handleUnmount_effect save
                · split
                  · rename_i release
                    apply handleRelease_effect
                    simp only [releasedId, cut, if_pos release]
                  · split
                    · exact handleFree_effect save
                    · split
                      · exact handleList_effect
                      · split
                        · exact handleQuery_effect save
                        · exact .unchanged

end Handlers

/-- Below every run of commands lies a run of controller calls. -/
theorem commandStep_run (plugin : SsuPluginOps PluginState)
    (pluginName request : CString) (current : ApiState PluginState) :
    ControllerRun plugin current.system
      (commandStep plugin pluginName current request).system := by
  have effect := handleCommand_effect plugin pluginName request current
  generalize commandStep plugin pluginName current request = after at effect ⊢
  cases effect with
  | unchanged => exact .refl _
  | api op => exact apiStep_run plugin current op
  | controller op _ => exact .call plugin current.system op

theorem commandRun_run (plugin : SsuPluginOps PluginState)
    (pluginName : CString) (world : PluginState) (requests : List CString) :
    ControllerRun plugin (.initial, world)
      (Transition.run (commandStep plugin pluginName) (.initial world)
        requests).system :=
  Transition.run_invariant_always
    (fun current => ControllerRun plugin (.initial, world) current.system)
    (fun current request reached =>
      reached.trans (commandStep_run plugin pluginName request current))
    (.refl _) requests

end UbseSsu.Runtime

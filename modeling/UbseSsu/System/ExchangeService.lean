import UbseSsu.Runtime.CommandEffects
import UbseSsu.System.ExchangeRuns

/-!
# A client by itself

When nobody else is about, a call brings back the whole response and leaves
the FIFOs as they were, so a client that makes one call after the other sees
the manager as the step function of its commands.
-/

namespace UbseSsu.Exchange

open Api Framing UbseSsu.Runtime

variable {PluginState : Type}

/-- Nothing is queued and the manager is in its loop. -/
structure Quiet (parties : Parties PluginState) : Prop where
  polling : parties.server = .polling
  handled : parties.handled = parties.requests.served.length
  drained : parties.requests.queue = []

section OneCall

/-- The exchange while a call is the only one that moves: the FIFO of the
manager and its state are those of `rest`. -/
def during (parties rest : Parties PluginState) (call : Call)
    (phase : CallPhase) (file : ResponseFifo) (server : ServerPhase) :
    Parties PluginState :=
  { rest with
    counters := Function.update parties.counters call.pid (call.counter + 1)
    calls := Function.update parties.calls call phase
    files := Function.update parties.files call.path file
    server }

variable {parties rest : Parties PluginState} {call : Call}
  {command : ManagerCommand} {phase : CallPhase} {file : ResponseFifo}
  {server : ServerPhase}

@[simp] theorem during_call :
    (during parties rest call phase file server).calls call = phase :=
  Function.update_self ..

variable {plugin : SsuPluginOps PluginState} {pluginName : CString}

/-- What `oneCall` leaves behind. -/
def afterCall (plugin : SsuPluginOps PluginState) (pluginName : CString)
    (parties : Parties PluginState) (call : Call) (command : ManagerCommand) :
    Parties PluginState :=
  let answer := handleCommand plugin pluginName command.text parties.current
  let requests : FifoState :=
    { queue := []
      served := parties.requests.served ++ [(call.request command).text] }
  during parties
    { parties with
      requests
      handled := parties.handled + 1
      current := answer.2
      sent := parties.sent ++ [(call, command)]
      executed := parties.executed ++ [⟨call.path, command.text, answer.1⟩] }
    call (.returned command (.ok (Sdk.delivered answer.1)))
    { ResponseFifo.absent with
      data := answer.1.drop (Sdk.responseSize - 1) }
    .polling

theorem afterCall_calls {other : Call} (different : other ≠ call) :
    (afterCall plugin pluginName parties call command).calls other =
      parties.calls other :=
  Function.update_of_ne different ..

end OneCall

section Session

variable {plugin : SsuPluginOps PluginState} {pluginName : CString}

/-- What `handle_command` answers to one command after the other. -/
def responses (plugin : SsuPluginOps PluginState) (pluginName : CString) :
    ApiState PluginState → List CString → List CString
  | _, [] => []
  | current, request :: requests =>
      (handleCommand plugin pluginName request current).1 ::
        responses plugin pluginName
          (commandStep plugin pluginName current request) requests

/-- What a session has done to the exchange in which it began. -/
structure Served (plugin : SsuPluginOps PluginState) (pluginName : CString)
    (parties : Parties PluginState) (pid : Nat)
    (commands : List ManagerCommand) (final : Parties PluginState) : Prop where
  quiet : Quiet final
  current : final.current = Transition.run (commandStep plugin pluginName)
    parties.current (commands.map ManagerCommand.text)
  results : ∀ index command response, commands[index]? = some command →
    (responses plugin pluginName parties.current
      (commands.map ManagerCommand.text))[index]? = some response →
    final.calls ⟨pid, parties.counters pid + index⟩ =
      .returned command (.ok (Sdk.delivered response))
  frame : ∀ other : Call,
    other.pid ≠ pid ∨ other.counter < parties.counters pid →
    final.calls other = parties.calls other

theorem Served.cons {parties final : Parties PluginState} {pid : Nat}
    {command : ManagerCommand} {commands : List ManagerCommand}
    (later : Served plugin pluginName
      (afterCall plugin pluginName parties ⟨pid, parties.counters pid⟩ command)
      pid commands final) :
    Served plugin pluginName parties pid (command :: commands) final := by
  have counter : (afterCall plugin pluginName parties
      ⟨pid, parties.counters pid⟩ command).counters pid =
        parties.counters pid + 1 :=
    Function.update_self ..
  have results := later.results
  have frame := later.frame
  rw [counter] at results frame
  refine ⟨later.quiet, later.current, ?_, ?_⟩
  · intro index asked response found answered
    cases index with
    | zero =>
        cases found
        cases answered
        exact (frame _ (.inr (Nat.lt_succ_self _))).trans during_call
    | succ index =>
        have position : parties.counters pid + (index + 1) =
            parties.counters pid + 1 + index := by omega
        rw [position]
        exact results index asked response found answered
  · intro other apart
    rw [frame other (apart.imp id (by omega)), afterCall_calls]
    rintro rfl
    rcases apart with different | earlier
    · exact different rfl
    · exact Nat.lt_irrefl _ earlier

end Session

end UbseSsu.Exchange

import UbseSsu.Sdk.Responses
import UbseSsu.System.AllocateRoundTrip

/-!
# Calls over the FIFOs

A call of the client library makes a response FIFO of its own, queues one line
in the request FIFO of the manager and reads until the manager has been silent
for a while.  The manager answers one line after the other: it opens the
response FIFO, which blocks until somebody reads from it, runs the command and
writes the response.

The steps of `manager_request` and `read_response_fifo` of any number of
processes interleave with those of `run_fifo_server` and `handle_fifo_line` in
any order.  Time is not modelled: a client may give up at any moment.
-/

namespace UbseSsu.Exchange

open Api UbseSsu.Runtime
open Controller (ssuControllerRefreshPool)

variable {PluginState : Type}

section Calls

/-- What `manager_request` is called with: the SDK builds no other text. -/
structure ManagerCommand where
  text : CString
  named : ∃ first rest, text = first :: rest ∧ first ≠ ' '
  plain : '\n' ∉ text
  short : text.length < Sdk.commandSize

/-- `getpid()` and what `sdk_response_counter++` counted to.  A pid stands for
one process throughout: that it is given out again, or that two pid namespaces
share `/tmp`, is not modelled. -/
structure Call where
  pid : Nat
  counter : Nat
deriving DecidableEq

def Call.path (call : Call) : CString :=
  Sdk.responsePath call.pid (UInt32.ofNat call.counter)

/-- Where `manager_request` stands. -/
inductive CallPhase where
  | fresh
  | created (command : ManagerCommand)
  | sent (command : ManagerCommand)
  | reading (command : ManagerCommand) (received : CString)
  | closing (command : ManagerCommand) (result : Except SsuErr CString)
  | returned (command : ManagerCommand) (result : Except SsuErr CString)

/-- A response FIFO; its client is the only one that reads from it. -/
structure ResponseFifo where
  linked : Bool
  reading : Bool
  data : CString

def ResponseFifo.absent : ResponseFifo :=
  { linked := false, reading := false, data := [] }

def ResponseFifo.made : ResponseFifo :=
  { linked := true, reading := false, data := [] }

/-- Where the manager stands: in its poll loop, in `open` on a FIFO without a
reader, in front of `handle_command`, in `send_response` or at its end. -/
inductive ServerPhase where
  | polling
  | opening (responsePath command : CString)
  | connected (responsePath command : CString)
  | answering (responsePath rest : CString)
  | stopped
deriving DecidableEq

/-- A command that `handle_command` has run. -/
structure Execution where
  responsePath : CString
  command : CString
  response : CString

/-- The parties, the files and, in `sent` and `executed`, what has happened. -/
structure Parties (PluginState : Type) where
  counters : Nat → Nat
  calls : Call → CallPhase
  files : CString → ResponseFifo
  requests : FifoState
  /-- How many of the lines served went to `handle_fifo_line`. -/
  handled : Nat
  server : ServerPhase
  current : ApiState PluginState
  sent : List (Call × ManagerCommand)
  executed : List Execution

def initial (current : ApiState PluginState) : Parties PluginState :=
  { counters := fun _ => 0
    calls := fun _ => .fresh
    files := fun _ => .absent
    requests := .initial
    handled := 0
    server := .polling
    current
    sent := []
    executed := [] }

/-- Why a request line does not get into the request FIFO. -/
inductive Refusal where
  | noManager
  | failed

def Refusal.err : Refusal → SsuErr
  | .noManager => .notFound
  | .failed => .io

inductive Event where
  | create (pid : Nat) (command : ManagerCommand) (made : Bool)
  | send (call : Call) (refused : Option Refusal)
  | openResponse (call : Call) (opened : Bool)
  | receive (call : Call) (available : Nat)
  | finish (call : Call) (failed : Bool)
  | unlink (call : Call)
  | read (available : Nat)
  | refresh
  | take
  | run
  | write (count : Nat)
  | close
  | stop

end Calls

section Client

variable (parties : Parties PluginState)

/-- `"%s %s\n"`, without the newline. -/
def Call.request (call : Call) (command : ManagerCommand) : FifoRequest where
  responsePath := call.path
  command := command.text
  pathNamed := List.append_ne_nil_of_right_ne_nil _ (by decide)
  pathPlain :=
    ⟨System.not_mem_responsePath call.pid _ (.inl rfl),
      System.not_mem_responsePath call.pid _ (.inr rfl)⟩
  commandNamed := command.named
  commandPlain := command.plain

def setCall (call : Call) (phase : CallPhase) (file : ResponseFifo) :
    Parties PluginState :=
  { parties with
    calls := Function.update parties.calls call phase
    files := Function.update parties.files call.path file }

/-- `sdk_response_counter++`, `unlink` and `mkfifo`. -/
def create (pid : Nat) (command : ManagerCommand) (made : Bool) :
    Parties PluginState :=
  let call : Call := ⟨pid, parties.counters pid⟩
  let counted :=
    { parties with
      counters := Function.update parties.counters pid (call.counter + 1) }
  if made then setCall counted call (.created command) .made
  else setCall counted call (.returned command (.error .io)) .absent

/-- A manager that has stopped has unlinked its request FIFO. -/
def sendRefused (refused : Option Refusal) : ServerPhase → Option Refusal
  | .stopped => some .noManager
  | _ => refused

/-- The request line is shorter than `PIPE_BUF`, so it is written whole or not
at all. -/
def send (call : Call) (refused : Option Refusal) : Parties PluginState :=
  match parties.calls call with
  | .created command =>
      match sendRefused refused parties.server with
      | some refusal =>
          setCall parties call (.returned command (.error refusal.err)) .absent
      | none =>
          { setCall parties call (.sent command)
              (parties.files call.path) with
            requests :=
              fifoStep parties.requests (.write (call.request command))
            sent := parties.sent ++ [(call, command)] }
  | _ => parties

/-- A reader that arrives lets the manager out of its `open`. -/
def wake (responsePath : CString) : ServerPhase → ServerPhase
  | .opening waiting command =>
      if waiting = responsePath then .connected waiting command
      else .opening waiting command
  | phase => phase

def openResponse (call : Call) (opened : Bool) : Parties PluginState :=
  match parties.calls call with
  | .sent command =>
      let file := parties.files call.path
      if opened then
        { setCall parties call (.reading command [])
            { file with reading := true } with
          server := wake call.path parties.server }
      else setCall parties call (.closing command (.error .io)) file
  | _ => parties

/-- A `read` that has `available` bytes to give. -/
def receive (call : Call) (available : Nat) : Parties PluginState :=
  match parties.calls call with
  | .reading command received =>
      let file := parties.files call.path
      let got := min available (Sdk.responseSize - 1 - received.length)
      setCall parties call
        (.reading command (received ++ file.data.take got))
        { file with data := file.data.drop got }
  | _ => parties

/-- What `read_response_fifo` returns behind its loop or out of it. -/
def readResult (received : CString) (failed : Bool) : Except SsuErr CString :=
  if failed ∨ received = [] then .error .io else .ok received

/-- The end of `read_response_fifo`, which closes the FIFO. -/
def finish (call : Call) (failed : Bool) : Parties PluginState :=
  match parties.calls call with
  | .reading command received =>
      setCall parties call (.closing command (readResult received failed))
        { parties.files call.path with reading := false }
  | _ => parties

def unlink (call : Call) : Parties PluginState :=
  match parties.calls call with
  | .closing command result =>
      setCall parties call (.returned command result)
        { parties.files call.path with linked := false }
  | _ => parties

end Client

section Server

variable (plugin : SsuPluginOps PluginState) (pluginName : CString)
  (parties : Parties PluginState)

/-- The manager is in its loop, with no line of its buffer left. -/
def Idle : Prop :=
  parties.server matches .polling ∧
    parties.handled = parties.requests.served.length

instance : Decidable (Idle parties) := inferInstanceAs (Decidable (_ ∧ _))

def read (available : Nat) : Parties PluginState :=
  if Idle parties then
    { parties with
      requests := fifoStep parties.requests (.read available) }
  else parties

/-- `refresh_pool`, when `poll` has waited for nothing. -/
def refresh : Parties PluginState :=
  if Idle parties ∧ parties.requests.queue = [] then
    let (err, after) := withController
      (ssuControllerRefreshPool plugin parties.current.controller
        parties.current.world) parties.current
    { parties with
      current := after
      server := if err = .ok then .polling else .stopped }
  else parties

/-- `handle_fifo_line` up to its `open`. -/
def take : Parties PluginState :=
  match parties.server, parties.requests.served[parties.handled]? with
  | .polling, some line =>
      let handled := parties.handled + 1
      let linked := fun responsePath => (parties.files responsePath).linked
      match handleFifoLine linked line with
      | none => { parties with handled }
      | some (responsePath, command) =>
          let server :=
            if (parties.files responsePath).reading then
              ServerPhase.connected responsePath command
            else .opening responsePath command
          { parties with handled, server }
  | _, _ => parties

def run : Parties PluginState :=
  match parties.server with
  | .connected responsePath command =>
      let (response, after) :=
        handleCommand plugin pluginName command parties.current
      let execution : Execution := ⟨responsePath, command, response⟩
      { parties with
        server := .answering responsePath response
        current := after
        executed := parties.executed ++ [execution] }
  | _ => parties

/-- A `write` of `send_all`; without a reader it fails for good. -/
def write (count : Nat) : Parties PluginState :=
  match parties.server with
  | .answering responsePath rest =>
      let file := parties.files responsePath
      if file.reading then
        { parties with
          files := Function.update parties.files responsePath
            { file with data := file.data ++ rest.take count }
          server := .answering responsePath (rest.drop count) }
      else { parties with server := .answering responsePath [] }
  | _ => parties

def close : Parties PluginState :=
  match parties.server with
  | .answering _ [] => { parties with server := .polling }
  | _ => parties

/-- `stop_requested` is looked at between two polls only. -/
def stop : Parties PluginState :=
  if Idle parties then { parties with server := .stopped } else parties

end Server

section Runs

variable (plugin : SsuPluginOps PluginState) (pluginName : CString)

def step (parties : Parties PluginState) : Event → Parties PluginState
  | .create pid command made => create parties pid command made
  | .send call refused => send parties call refused
  | .openResponse call opened => openResponse parties call opened
  | .receive call available => receive parties call available
  | .finish call failed => finish parties call failed
  | .unlink call => unlink parties call
  | .read available => read parties available
  | .refresh => refresh plugin parties
  | .take => take parties
  | .run => run plugin pluginName parties
  | .write count => write parties count
  | .close => close parties
  | .stop => stop parties

/-- No process makes more calls than `sdk_response_counter` can count, and no
read of the manager ends inside a line. -/
def Allowed (parties : Parties PluginState) : Event → Prop
  | .create pid _ _ => parties.counters pid < 2 ^ 32
  | .read available => ReadsWholeLines parties.requests (.read available)
  | _ => True

instance (parties : Parties PluginState) :
    ∀ event, Decidable (Allowed parties event)
  | .create pid _ _ =>
      inferInstanceAs (Decidable (parties.counters pid < 2 ^ 32))
  | .read available =>
      inferInstanceAs
        (Decidable (ReadsWholeLines parties.requests (.read available)))
  | .send _ _ | .openResponse _ _ | .receive _ _ | .finish _ _ | .unlink _
  | .refresh | .take | .run | .write _ | .close | .stop =>
      inferInstanceAs (Decidable True)

/-- The manager as its clients should see it: commands run one after the other
on one state, and between them the pool may be refreshed. -/
inductive Serial (start : ApiState PluginState) :
    List Execution → ApiState PluginState → Prop where
  | start : Serial start [] start
  | refresh {executed : List Execution} {current : ApiState PluginState}
      (earlier : Serial start executed current) :
      Serial start executed
        (withController (ssuControllerRefreshPool plugin current.controller
          current.world) current).2
  | command {executed : List Execution} {current : ApiState PluginState}
      (earlier : Serial start executed current)
      (responsePath command : CString) :
      Serial start
        (executed ++ [⟨responsePath, command,
          (handleCommand plugin pluginName command current).1⟩])
        (handleCommand plugin pluginName command current).2

end Runs

end UbseSsu.Exchange

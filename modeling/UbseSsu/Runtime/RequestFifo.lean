import UbseSsu.Interface
import UbseSsu.Library.Tokens
import UbseSsu.Library.Transition
import Mathlib.Algebra.Order.BigOperators.Group.List

/-!
# The request FIFO of the manager

`run_fifo_server` reads up to 2047 bytes of the queued request lines at a time
and splits each buffer on its own, so a line that straddles two reads is taken
for two lines.  The commands it runs are the commands written exactly when no
read ends inside a line.
-/

namespace UbseSsu.Runtime

open Framing

/-- The loop over the lines of a buffer, which are at most `fuel`. -/
def requestLines : Nat → CString → List CString
  | 0, _ => []
  | fuel + 1, request =>
      match strtok '\n' request with
      | none => []
      | some (line, save) => line :: requestLines fuel save

/-- The response path and the command on which `handle_fifo_line` runs
`handle_command`; `opens` tells which response paths can be opened. -/
def handleFifoLine (opens : CString → Bool) (line : CString) :
    Option (CString × CString) :=
  match strtok ' ' line with
  | none => none
  | some (responsePath, save) =>
      if isEmptyString save then none
      else
        let command := save.dropWhile (· = ' ')
        if opens responsePath then some (responsePath, command) else none

/-- `sizeof(request) - 1`. -/
abbrev requestCapacity : Nat := 2047

/-- What a client writes in one piece, before the newline. -/
structure FifoRequest where
  responsePath : CString
  command : CString
  pathNamed : responsePath ≠ []
  pathPlain : ' ' ∉ responsePath ∧ '\n' ∉ responsePath
  commandNamed : ∃ first rest, command = first :: rest ∧ first ≠ ' '
  commandPlain : '\n' ∉ command

def FifoRequest.text (req : FifoRequest) : CString :=
  req.responsePath ++ ' ' :: req.command

/-- The queued bytes and the lines given to `handle_fifo_line` so far. -/
structure FifoState where
  queue : CString
  served : List CString

def FifoState.initial : FifoState := { queue := [], served := [] }

inductive FifoEvent where
  | write (req : FifoRequest)
  /-- A `read` for which the kernel has `available` bytes to give. -/
  | read (available : Nat)

def readLength (state : FifoState) (available : Nat) : Nat :=
  min (min available requestCapacity) state.queue.length

def fifoStep (state : FifoState) : FifoEvent → FifoState
  | .write req => { state with queue := state.queue ++ req.text ++ ['\n'] }
  | .read available =>
      let got := readLength state available
      { queue := state.queue.drop got
        served := state.served ++ requestLines got (state.queue.take got) }

/-- The pairs on which `handle_command` has run, in order. -/
def commandsRun (opens : CString → Bool) (state : FifoState) :
    List (CString × CString) :=
  state.served.filterMap (handleFifoLine opens)

def written (events : List FifoEvent) : List FifoRequest :=
  events.filterMap fun
    | .write req => some req
    | .read _ => none

def FifoRequest.pair (req : FifoRequest) : CString × CString :=
  (req.responsePath, req.command)

/-- A read does not end inside the text of a line. -/
def ReadsWholeLines (state : FifoState) : FifoEvent → Prop
  | .write _ => True
  | .read available =>
      let got := readLength state available
      CleanCut '\n' (state.queue.take got) (state.queue.drop got)

instance (state : FifoState) : ∀ event, Decidable (ReadsWholeLines state event)
  | .write _ => inferInstanceAs (Decidable True)
  | .read _ => inferInstanceAs (Decidable (CleanCut _ _ _))

theorem requestLines_eq_strtokAll (fuel : Nat) (request : CString) :
    requestLines fuel request = strtokAll '\n' fuel request := by
  induction fuel generalizing request with
  | zero => rfl
  | succ fuel induction =>
      cases found : strtok '\n' request with
      | none => simp only [requestLines, strtokAll, found]
      | some pair =>
          obtain ⟨line, save⟩ := pair
          simp only [requestLines, strtokAll, found, induction]

theorem requestLines_eq_runs {fuel : Nat} {request : CString}
    (enough : request.length ≤ fuel) :
    requestLines fuel request = runs '\n' request := by
  rw [requestLines_eq_strtokAll, strtokAll_eq_runs enough]

section Lines

/-- The lines that were served and those that the queue would show. -/
def FifoState.pieces (state : FifoState) : List CString :=
  state.served ++ runs '\n' state.queue

def FifoState.LineEnded (state : FifoState) : Prop :=
  ∀ last ∈ state.queue.getLast?, last = '\n'

theorem FifoRequest.text_ne_nil (req : FifoRequest) : req.text ≠ [] := by
  simp [FifoRequest.text]

theorem FifoRequest.text_plain (req : FifoRequest) : '\n' ∉ req.text := by
  simp [FifoRequest.text, req.pathPlain.2, req.commandPlain]

theorem lineEnded_step {state : FifoState} (ended : state.LineEnded)
    (event : FifoEvent) : (fifoStep state event).LineEnded := by
  cases event with
  | write req =>
      intro last found
      simpa [fifoStep, eq_comm] using found
  | read available =>
      intro last found
      simp only [fifoStep, List.getLast?_drop] at found
      split at found
      · cases found
      · exact ended last found

theorem pieces_write {state : FifoState} (ended : state.LineEnded)
    (req : FifoRequest) :
    (fifoStep state (.write req)).pieces = state.pieces ++ [req.text] := by
  have line : runs '\n' (req.text ++ ['\n']) = [req.text] := by
    rw [runs_append_sep req.text_ne_nil req.text_plain, runs_nil]
  simp only [FifoState.pieces, fifoStep, List.append_assoc]
  rw [runs_append_of_clean, line]
  intro last found _ _
  exact .inl (ended last found)

theorem pieces_read (state : FifoState) (available : Nat) :
    let got := readLength state available
    (fifoStep state (.read available)).pieces =
      state.served ++ (runs '\n' (state.queue.take got) ++
        runs '\n' (state.queue.drop got)) := by
  intro got
  have lines := requestLines_eq_runs (List.length_take_le got state.queue)
  simp only [FifoState.pieces, fifoStep]
  rw [lines, List.append_assoc]

theorem pieces_read_of_clean {state : FifoState} {available : Nat}
    (clean : ReadsWholeLines state (.read available)) :
    (fifoStep state (.read available)).pieces = state.pieces := by
  rw [pieces_read, ← runs_append_of_clean clean, List.take_append_drop]
  rfl

/-- A read inside a line makes two lines out of it. -/
theorem length_pieces_read_of_cut {state : FifoState} {available : Nat}
    (cut : ¬ReadsWholeLines state (.read available)) :
    (fifoStep state (.read available)).pieces.length =
      state.pieces.length + 1 := by
  have counted := length_runs_append_of_cut cut
  rw [List.take_append_drop] at counted
  rw [pieces_read, List.length_append, List.length_append, ← counted,
    FifoState.pieces, List.length_append]
  omega

/-- No character of a line is ever lost. -/
theorem flatten_pieces_read (state : FifoState) (available : Nat) :
    (fifoStep state (.read available)).pieces.flatten =
      state.pieces.flatten := by
  rw [pieces_read, List.flatten_append, List.flatten_append, flatten_runs,
    flatten_runs, ← List.filter_append, List.take_append_drop,
    FifoState.pieces, List.flatten_append, flatten_runs]

theorem written_write (req : FifoRequest) (events : List FifoEvent) :
    written (.write req :: events) = req :: written events := rfl

theorem written_read (available : Nat) (events : List FifoEvent) :
    written (.read available :: events) = written events := rfl

variable {state : FifoState} (ended : state.LineEnded)
  (events : List FifoEvent)
include ended

/-- While reads end at line ends, the pieces are the lines written. -/
theorem pieces_run
    (whole : Transition.Admissible fifoStep ReadsWholeLines state events) :
    (Transition.run fifoStep state events).pieces =
      state.pieces ++ (written events).map FifoRequest.text := by
  induction events generalizing state with
  | nil => exact (List.append_nil _).symm
  | cons event events induction =>
      obtain ⟨clean, later⟩ := whole
      rw [Transition.run_cons, induction (lineEnded_step ended event) later]
      cases event with
      | write req =>
          rw [pieces_write ended, List.append_assoc]
          rfl
      | read available => rw [pieces_read_of_clean clean, written_read]

theorem flatten_pieces_run :
    (Transition.run fifoStep state events).pieces.flatten =
      state.pieces.flatten ++
        ((written events).map FifoRequest.text).flatten := by
  induction events generalizing state with
  | nil => exact (List.append_nil _).symm
  | cons event events induction =>
      rw [Transition.run_cons, induction (lineEnded_step ended event)]
      cases event with
      | write req =>
          rw [pieces_write ended, List.flatten_append, List.append_assoc,
            List.flatten_singleton]
          rfl
      | read available => rw [flatten_pieces_read, written_read]

/-- Every read inside a line adds a piece, and nothing takes one away. -/
theorem length_pieces_run :
    state.pieces.length + (written events).length ≤
        (Transition.run fifoStep state events).pieces.length ∧
      (¬Transition.Admissible fifoStep ReadsWholeLines state events →
        state.pieces.length + (written events).length <
          (Transition.run fifoStep state events).pieces.length) := by
  induction events generalizing state with
  | nil => exact ⟨Nat.le_refl _, fun cut => (cut trivial).elim⟩
  | cons event events induction =>
      obtain ⟨atLeast, more⟩ := induction (lineEnded_step ended event)
      rw [Transition.run_cons]
      cases event with
      | write req =>
          rw [pieces_write ended, List.length_append, List.length_singleton]
            at atLeast more
          rw [written_write, List.length_cons]
          refine ⟨by omega, ?_⟩
          intro cut
          have later := more fun whole => cut ⟨trivial, whole⟩
          omega
      | read available =>
          rw [written_read]
          by_cases clean : ReadsWholeLines state (.read available)
          · rw [pieces_read_of_clean clean] at atLeast more
            exact ⟨atLeast, fun cut => more fun whole => cut ⟨clean, whole⟩⟩
          · rw [length_pieces_read_of_cut clean] at atLeast
            exact ⟨by omega, fun _ => by omega⟩

end Lines

section Commands

variable {opens : CString → Bool}

/-- A line that arrives whole is handled as it was written. -/
theorem handleFifoLine_text {req : FifoRequest}
    (answering : opens req.responsePath = true) :
    handleFifoLine opens req.text = some req.pair := by
  obtain ⟨first, rest, command, visible⟩ := req.commandNamed
  have kept : req.command.dropWhile (· = ' ') = req.command := by
    rw [command, List.dropWhile_cons_of_neg (by simpa using visible)]
  unfold handleFifoLine FifoRequest.text
  rw [strtok_plain req.pathNamed req.pathPlain.1]
  have nonempty : isEmptyString req.command = false := by
    rw [command]
    rfl
  simp only [nonempty, kept, answering, Bool.false_eq_true, if_false, if_true]
  rfl

/-- How much of a line its response path, a space and its command take. -/
def pairLength (pair : CString × CString) : Nat :=
  pair.1.length + 1 + pair.2.length

theorem pairLength_le {line : CString} {pair : CString × CString}
    (handled : handleFifoLine opens line = some pair) :
    pairLength pair ≤ line.length := by
  unfold handleFifoLine at handled
  split at handled
  · cases handled
  · rename_i responsePath save found
    split at handled
    · cases handled
    · rename_i nonempty
      have fits := length_strtok found (mt (isEmptyString_iff save).mpr nonempty)
      have shorter := List.length_dropWhile_le (· = ' ') save
      simp only at handled
      split at handled
      · obtain rfl := Option.some.inj handled
        simp only [pairLength]
        omega
      · cases handled

/-- Handling loses at least one character with every line it skips. -/
theorem length_commands (lines : List CString)
    (nonempty : ∀ line ∈ lines, line ≠ []) :
    ((lines.filterMap (handleFifoLine opens)).map pairLength).sum +
        lines.length ≤
      (lines.map List.length).sum +
        (lines.filterMap (handleFifoLine opens)).length := by
  induction lines with
  | nil => exact Nat.le_refl _
  | cons line lines induction =>
      have later := induction fun other member =>
        nonempty other (List.mem_cons_of_mem _ member)
      have positive := List.length_pos_iff.mpr
        (nonempty line List.mem_cons_self)
      cases handled : handleFifoLine opens line with
      | none =>
          rw [List.filterMap_cons_none handled, List.map_cons, List.sum_cons,
            List.length_cons]
          omega
      | some pair =>
          have fits := pairLength_le handled
          rw [List.filterMap_cons_some handled, List.map_cons, List.sum_cons,
            List.map_cons, List.sum_cons, List.length_cons, List.length_cons]
          omega

theorem filterMap_texts {requests : List FifoRequest}
    (answering : ∀ req ∈ requests, opens req.responsePath = true) :
    (requests.map FifoRequest.text).filterMap (handleFifoLine opens) =
      requests.map FifoRequest.pair := by
  induction requests with
  | nil => rfl
  | cons req requests induction =>
      have first := handleFifoLine_text (answering req List.mem_cons_self)
      rw [List.map_cons, List.filterMap_cons_some first, List.map_cons,
        induction fun other member =>
          answering other (List.mem_cons_of_mem _ member)]

theorem sum_pairLength (requests : List FifoRequest) :
    ((requests.map FifoRequest.pair).map pairLength).sum =
      ((requests.map FifoRequest.text).map List.length).sum := by
  simp only [List.map_map]
  congr 2
  funext req
  simp [pairLength, FifoRequest.pair, FifoRequest.text]
  omega

theorem lineEnded_initial : FifoState.initial.LineEnded := nofun

theorem served_ne_nil (events : List FifoEvent) :
    ∀ line ∈ (Transition.run fifoStep .initial events).served, line ≠ [] := by
  apply Transition.run_invariant_always
    (fun state : FifoState => ∀ line ∈ state.served, line ≠ [])
  · intro state event nonempty
    cases event with
    | write req => exact nonempty
    | read available =>
        intro line member
        rcases List.mem_append.mp member with earlier | now
        · exact nonempty line earlier
        · rw [requestLines_eq_runs (List.length_take_le _ _)] at now
          exact runs_ne_nil now
  · exact nofun

/-- As many commands as were written, of the same total length, leave no room
for a line that was cut. -/
theorem admissible_of_commands (events : List FifoEvent)
    (drained : (Transition.run fifoStep .initial events).queue = [])
    (exact : commandsRun opens (Transition.run fifoStep .initial events) =
      (written events).map FifoRequest.pair) :
    Transition.Admissible fifoStep ReadsWholeLines .initial events := by
  by_contra cut
  have pieces : (Transition.run fifoStep .initial events).pieces =
      (Transition.run fifoStep .initial events).served := by
    rw [FifoState.pieces, drained, runs_nil, List.append_nil]
  have more := (length_pieces_run lineEnded_initial events).2 cut
  have characters := congrArg List.length
    (flatten_pieces_run lineEnded_initial events)
  have counted := @length_commands opens _ (served_ne_nil events)
  unfold commandsRun at exact
  rw [exact, sum_pairLength, List.length_map] at counted
  rw [pieces, List.length_append, List.length_flatten, List.length_flatten,
    List.length_flatten] at characters
  rw [pieces] at more
  have none : FifoState.initial.pieces = [] := rfl
  rw [none] at more characters
  simp only [List.map_nil, List.sum_nil, List.length_nil] at more characters
  omega

/-- The commands run over a FIFO that has been read to its end are the commands
written if and only if no read ended inside a line; before that they are an
initial part of them if none has so far. -/
theorem commands_exact_iff (opens : CString → Bool) (events : List FifoEvent)
    (answering : ∀ req ∈ written events, opens req.responsePath = true) :
    let current := Transition.run fifoStep .initial events
    (Transition.Admissible fifoStep ReadsWholeLines .initial events →
        commandsRun opens current <+:
          (written events).map FifoRequest.pair) ∧
      (current.queue = [] →
        (commandsRun opens current = (written events).map FifoRequest.pair ↔
          Transition.Admissible fifoStep ReadsWholeLines .initial events)) := by
  intro current
  have served : Transition.Admissible fifoStep ReadsWholeLines .initial
      events → current.served ++ runs '\n' current.queue =
        (written events).map FifoRequest.text := by
    intro whole
    exact pieces_run lineEnded_initial events whole
  constructor
  · intro whole
    have part : current.served <+: (written events).map FifoRequest.text :=
      ⟨_, served whole⟩
    rw [← filterMap_texts answering]
    exact part.filterMap _
  · intro drained
    constructor
    · exact admissible_of_commands events drained
    · intro whole
      have all := served whole
      rw [drained, runs_nil, List.append_nil] at all
      rw [commandsRun, all, filterMap_texts answering]

/-- A request of the client library to free a device. -/
def freeRequest (client : Nat) (name : CString) (plain : '\n' ∉ name) :
    FifoRequest where
  responsePath :=
    "/tmp/ubse-ssu-sdk-response-".toList ++ decimal client ++ "-0.fifo".toList
  command := "FREE /dev/ssu/".toList ++ name
  pathNamed := by simp
  pathPlain := by
    constructor <;> simp [not_mem_decimal]
  commandNamed := ⟨'F', _, rfl, by decide⟩
  commandPlain := by simpa using plain

/-- Two requests, read one by one. -/
def twoReads : List FifoEvent :=
  [.write (freeRequest 100 "ssu1".toList (by decide)), .read 4096,
    .write (freeRequest 101 "ssu2".toList (by decide)), .read 4096]

theorem commands_exact_twoReads :
    commandsRun (fun _ => true)
        (Transition.run fifoStep .initial twoReads) =
      (written twoReads).map FifoRequest.pair :=
  ((commands_exact_iff (fun _ => true) twoReads (by decide)).2
    (by decide +kernel)).mpr (by decide +kernel)

/-- 35 clients queue 2049 bytes; the first read ends before the last digit of
the last line. -/
def crowdedReads : List FifoEvent :=
  ((List.range 33).map fun client =>
      .write (freeRequest (100 + client) "ssu12".toList (by decide))) ++
    [.write (freeRequest 133 "abcdefghijklmnopqrstuvwx".toList (by decide)),
      .write (freeRequest 134 "ssu12".toList (by decide)),
      .read 4096, .read 4096]

theorem commands_cut_crowdedReads :
    let current := Transition.run fifoStep .initial crowdedReads
    current.queue = [] ∧
      commandsRun (fun _ => true) current ≠
        (written crowdedReads).map FifoRequest.pair ∧
      (commandsRun (fun _ => true) current).getLast?.map Prod.snd =
        some "FREE /dev/ssu/ssu1".toList := by
  decide +kernel

end Commands

end UbseSsu.Runtime

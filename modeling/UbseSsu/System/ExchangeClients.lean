import UbseSsu.System.Exchange

/-!
# What the steps of the clients keep

The invariant of an exchange ties the phase of each call to what its response
FIFO holds, and the place of the manager to the line it took last.  No two
calls share a response FIFO, so a step of one client leaves the others alone.
-/

namespace UbseSsu.Exchange

open Api UbseSsu.Runtime Framing

variable {PluginState : Type}

section Paths

theorem responsePath_cut (pid : Nat) (counter : UInt32) :
    strtok '-' ((Sdk.responsePath pid counter).drop 27) =
      some (decimal pid, decimal counter.toNat ++ ".fifo".toList) := by
  have lead : "/tmp/ubse-ssu-sdk-response-".toList.length = 27 := by decide
  have dash : "-".toList = ['-'] := by decide
  have noDigit : Char.isDigit '-' = false := by decide
  unfold Sdk.responsePath
  simp only [dash, List.append_assoc]
  rw [← lead, List.drop_left]
  exact strtok_plain (decimal_ne_nil pid) (not_mem_decimal noDigit)

theorem responsePath_injective {pid other : Nat} {counter last : UInt32}
    (same : Sdk.responsePath pid counter = Sdk.responsePath other last) :
    pid = other ∧ counter = last := by
  have tokens := responsePath_cut pid counter
  rw [same, responsePath_cut] at tokens
  obtain ⟨pids, counters⟩ := Prod.mk.inj (Option.some.inj tokens)
  have values := decimal_injective (List.append_cancel_right counters)
  exact ⟨(decimal_injective pids).symm, (UInt32.toNat.inj values).symm⟩

/-- Two calls share a path only when the counter of a process wraps around. -/
theorem Call.path_injective {call other : Call} (small : call.counter < 2 ^ 32)
    (alsoSmall : other.counter < 2 ^ 32) (same : call.path = other.path) :
    call = other := by
  obtain ⟨pids, counters⟩ := responsePath_injective same
  have values := congrArg UInt32.toNat counters
  rw [UInt32.toNat_ofNat', UInt32.toNat_ofNat', Nat.mod_eq_of_lt small,
    Nat.mod_eq_of_lt alsoSmall] at values
  cases call
  cases other
  exact Call.mk.injEq .. ▸ ⟨pids, values⟩

end Paths

section Invariant

/-- The text is the beginning of the response to the call's own command. -/
def Answered (executed : List Execution) (call : Call)
    (command : ManagerCommand) (text : CString) : Prop :=
  text = [] ∨ ∃ response, ⟨call.path, command.text, response⟩ ∈ executed ∧
    text <+: response

/-- What the caller may take for its answer. -/
structure ResultFits (executed : List Execution) (call : Call)
    (command : ManagerCommand) (result : Except SsuErr CString) : Prop where
  nonempty : ∀ text, result = .ok text → text ≠ []
  short : ∀ text, result = .ok text → text.length ≤ Sdk.responseSize - 1
  answered : ∀ text, result = .ok text → Answered executed call command text
  failed : ∀ err, result = .error err → err = .io ∨ err = .notFound

/-- What the response FIFO of a call holds in each of its phases. -/
def CallFits (executed : List Execution) (call : Call) :
    CallPhase → ResponseFifo → Prop
  | .fresh, file => file = .absent
  | .created _, file => file = .made
  | .sent _, file => file = .made
  | .reading command received, file =>
      file.linked = true ∧ file.reading = true ∧
        received.length ≤ Sdk.responseSize - 1 ∧
        Answered executed call command (received ++ file.data)
  | .closing command result, file =>
      file.linked = true ∧ file.reading = false ∧
        ResultFits executed call command result
  | .returned command result, file =>
      file.linked = false ∧ file.reading = false ∧
        ResultFits executed call command result

/-- The call has got behind the sending of this command. -/
def Past (command : ManagerCommand) : CallPhase → Prop
  | .fresh | .created _ => False
  | .sent own | .reading own _ | .closing own _ | .returned own _ =>
      own = command

/-- The call has got behind the opening of its FIFO. -/
def Opened : CallPhase → Prop
  | .fresh | .created _ | .sent _ => False
  | .reading _ _ | .closing _ _ | .returned _ _ => True

def sentPair (line : Call × ManagerCommand) : CString × CString :=
  (line.1.request line.2).pair

def Execution.pair (execution : Execution) : CString × CString :=
  (execution.responsePath, execution.command)

/-- The lines handled are the first of those sent, and what ran is among
them. -/
def Between (parties : Parties PluginState) : Prop :=
  ∃ handled waiting, parties.sent = handled ++ waiting ∧
    handled.length = parties.handled ∧
    (parties.executed.map Execution.pair).Sublist (handled.map sentPair)

/-- The line last handled has not run yet. -/
def Holding (parties : Parties PluginState)
    (held : Call × ManagerCommand) : Prop :=
  ∃ handled waiting, parties.sent = handled ++ held :: waiting ∧
    handled.length + 1 = parties.handled ∧
    (parties.executed.map Execution.pair).Sublist (handled.map sentPair)

def ServerFits (parties : Parties PluginState) : ServerPhase → Prop
  | .polling | .stopped => Between parties
  | .opening responsePath command =>
      ∃ held, sentPair held = (responsePath, command) ∧ Holding parties held ∧
        (parties.files responsePath).reading = false
  | .connected responsePath command =>
      ∃ held, sentPair held = (responsePath, command) ∧ Holding parties held ∧
        Opened (parties.calls held.1)
  | .answering responsePath rest =>
      Between parties ∧ ∃ held response, held.1.path = responsePath ∧
        held ∈ parties.sent ∧ Opened (parties.calls held.1) ∧
        ⟨responsePath, held.2.text, response⟩ ∈ parties.executed ∧
        ∀ command received, parties.calls held.1 = .reading command received →
          received ++ (parties.files responsePath).data ++ rest = response

variable (plugin : SsuPluginOps PluginState) (pluginName : CString)
  (start : ApiState PluginState)

structure Sound (parties : Parties PluginState) : Prop where
  few : ∀ pid, parties.counters pid ≤ 2 ^ 32
  counted : ∀ call, parties.counters call.pid ≤ call.counter →
    parties.calls call = .fresh
  fits : ∀ call, call.counter < 2 ^ 32 →
    CallFits parties.executed call (parties.calls call)
      (parties.files call.path)
  once : (parties.sent.map Prod.fst).Nodup
  queued : ∀ line ∈ parties.sent, Past line.2 (parties.calls line.1)
  lineEnded : parties.requests.LineEnded
  lines : parties.requests.pieces =
    parties.sent.map fun line => (line.1.request line.2).text
  server : ServerFits parties parties.server
  serial : Serial plugin pluginName start parties.executed parties.current

theorem sound_initial : Sound plugin pluginName start (initial start) where
  few _ := Nat.zero_le _
  counted _ _ := rfl
  fits _ _ := rfl
  once := List.nodup_nil
  queued := fun _ member => by cases member
  lineEnded := lineEnded_initial
  lines := rfl
  server := ⟨[], [], rfl, rfl, List.Sublist.refl _⟩
  serial := .start

end Invariant

section Executed

variable {executed after : List Execution} {call : Call}
  {command : ManagerCommand}

theorem Answered.prefix {text first : CString}
    (answered : Answered executed call command text) (part : first <+: text) :
    Answered executed call command first := by
  rcases answered with rfl | ⟨response, ran, begins⟩
  · exact .inl (List.prefix_nil.mp part)
  · exact .inr ⟨response, ran, part.trans begins⟩

variable (more : ∀ execution ∈ executed, execution ∈ after)
include more

theorem Answered.mono {text : CString}
    (answered : Answered executed call command text) :
    Answered after call command text := by
  rcases answered with empty | ⟨response, ran, begins⟩
  · exact .inl empty
  · exact .inr ⟨response, more _ ran, begins⟩

theorem ResultFits.mono {result : Except SsuErr CString}
    (fits : ResultFits executed call command result) :
    ResultFits after call command result where
  nonempty := fits.nonempty
  short := fits.short
  answered text found := (fits.answered text found).mono more
  failed := fits.failed

theorem CallFits.mono {phase : CallPhase} {file : ResponseFifo}
    (fits : CallFits executed call phase file) :
    CallFits after call phase file := by
  cases phase with
  | fresh => exact fits
  | created command => exact fits
  | sent command => exact fits
  | reading command received =>
      obtain ⟨linked, reading, short, answered⟩ := fits
      exact ⟨linked, reading, short, answered.mono more⟩
  | closing command result =>
      obtain ⟨linked, reading, result⟩ := fits
      exact ⟨linked, reading, result.mono more⟩
  | returned command result =>
      obtain ⟨linked, reading, result⟩ := fits
      exact ⟨linked, reading, result.mono more⟩

end Executed

section Clients

variable {plugin : SsuPluginOps PluginState} {pluginName : CString}
  {start : ApiState PluginState} {parties : Parties PluginState}

theorem Sound.small (sound : Sound plugin pluginName start parties)
    {call : Call} (begun : parties.calls call ≠ .fresh) :
    call.counter < 2 ^ 32 := by
  by_contra large
  have few := sound.few call.pid
  exact begun (sound.counted call (by omega))

theorem Past.begun {command : ManagerCommand} {phase : CallPhase}
    (past : Past command phase) : phase ≠ .fresh := by
  rintro rfl
  exact past

theorem Sound.small_of_sent (sound : Sound plugin pluginName start parties)
    {line : Call × ManagerCommand} (member : line ∈ parties.sent) :
    line.1.counter < 2 ^ 32 :=
  sound.small (sound.queued line member).begun

theorem Holding.sent {held : Call × ManagerCommand}
    (holding : Holding parties held) : held ∈ parties.sent := by
  obtain ⟨handled, waiting, split, _⟩ := holding
  rw [split]
  simp

/-- A step of a client that the manager's part of the invariant survives. -/
structure Unnoticed (before : CallPhase) (oldFile : ResponseFifo)
    (after : CallPhase) (file : ResponseFifo) : Prop where
  past : ∀ command, Past command before → Past command after
  opened : Opened before → Opened after
  reading : file.reading = true → oldFile.reading = true
  flow : ∀ command received, after = .reading command received →
    ∃ earlier, before = .reading command earlier ∧
      received ++ file.data = earlier ++ oldFile.data

section SetCall

variable {call : Call} {phase : CallPhase} {file : ResponseFifo}

theorem setCall_call :
    (setCall parties call phase file).calls call = phase :=
  Function.update_self ..

theorem setCall_file :
    (setCall parties call phase file).files call.path = file :=
  Function.update_self ..

theorem setCall_otherCall {other : Call} (different : other ≠ call) :
    (setCall parties call phase file).calls other = parties.calls other :=
  Function.update_of_ne different ..

theorem setCall_otherFile {other : Call} (small : call.counter < 2 ^ 32)
    (alsoSmall : other.counter < 2 ^ 32) (different : other ≠ call) :
    (setCall parties call phase file).files other.path =
      parties.files other.path :=
  Function.update_of_ne
    (fun same => different (Call.path_injective alsoSmall small same)) ..

variable (sentSmall : ∀ line ∈ parties.sent, line.1.counter < 2 ^ 32)
  (small : call.counter < 2 ^ 32)
include sentSmall small

theorem ServerFits.setCall {server : ServerPhase}
    (fits : ServerFits parties server)
    (unnoticed : Unnoticed (parties.calls call) (parties.files call.path)
      phase file) :
    ServerFits (setCall parties call phase file) server := by
  have opened : ∀ other, Opened (parties.calls other) →
      Opened ((Exchange.setCall parties call phase file).calls other) := by
    intro other was
    by_cases same : other = call
    · subst same
      rw [setCall_call]
      exact unnoticed.opened was
    · rwa [setCall_otherCall same]
  cases server with
  | polling => exact fits
  | stopped => exact fits
  | opening responsePath command =>
      obtain ⟨held, pair, holding, silent⟩ := fits
      obtain ⟨rfl, rfl⟩ := Prod.mk.inj pair.symm
      refine ⟨held, rfl, holding, ?_⟩
      by_cases same : held.1 = call
      · have silentCall : (parties.files call.path).reading = false := by
          rw [← same]
          exact silent
        have stays : file.reading = false := by
          by_contra reads
          have read := unnoticed.reading (Bool.eq_true_of_not_eq_false reads)
          rw [silentCall] at read
          contradiction
        change ((Exchange.setCall parties call phase file).files
          held.1.path).reading = false
        rw [same, setCall_file, stays]
      · have alsoSmall := sentSmall held holding.sent
        change ((Exchange.setCall parties call phase file).files
          held.1.path).reading = false
        rw [setCall_otherFile small alsoSmall same]
        exact silent
  | connected responsePath command =>
      obtain ⟨held, pair, holding, was⟩ := fits
      exact ⟨held, pair, holding, opened _ was⟩
  | answering responsePath rest =>
      obtain ⟨between, held, response, rfl, member, was, ran, flow⟩ := fits
      refine ⟨between, held, response, rfl, member, opened _ was, ran, ?_⟩
      intro command received now
      by_cases same : held.1 = call
      · rw [same, setCall_call] at now
        obtain ⟨earlier, before, kept⟩ := unnoticed.flow command received now
        rw [same, setCall_file, kept]
        have earlierFlow := flow command earlier (same ▸ before)
        rwa [same] at earlierFlow
      · rw [setCall_otherCall same] at now
        rw [setCall_otherFile small (sentSmall held member) same]
        exact flow command received now

end SetCall

theorem Sound.setCall (sound : Sound plugin pluginName start parties)
    {call : Call} {phase : CallPhase} {file : ResponseFifo}
    (begun : call.counter < parties.counters call.pid)
    (fits : CallFits parties.executed call phase file)
    (past : ∀ command, Past command (parties.calls call) →
      Past command phase) {server : ServerPhase}
    (serves : ServerFits (setCall parties call phase file) server) :
    Sound plugin pluginName start
      { setCall parties call phase file with server } where
  few := sound.few
  counted other unborn := by
    have different : other ≠ call := by
      rintro rfl
      exact absurd begun (Nat.not_lt.mpr unborn)
    change (Exchange.setCall parties call phase file).calls other = .fresh
    rw [setCall_otherCall different]
    exact sound.counted other unborn
  fits other small := by
    change CallFits parties.executed other
      ((Exchange.setCall parties call phase file).calls other)
      ((Exchange.setCall parties call phase file).files other.path)
    by_cases same : other = call
    · subst same
      rw [setCall_call, setCall_file]
      exact fits
    · have few := sound.few call.pid
      rw [setCall_otherCall same,
        setCall_otherFile (by omega) small same]
      exact sound.fits other small
  once := sound.once
  queued line member := by
    change Past line.2 ((Exchange.setCall parties call phase file).calls line.1)
    by_cases same : line.1 = call
    · rw [same, setCall_call]
      exact past _ (same ▸ sound.queued line member)
    · rw [setCall_otherCall same]
      exact sound.queued line member
  lineEnded := sound.lineEnded
  lines := sound.lines
  server := serves
  serial := sound.serial

theorem Sound.setCall_quiet (sound : Sound plugin pluginName start parties)
    {call : Call} {phase : CallPhase} {file : ResponseFifo}
    (begun : call.counter < parties.counters call.pid)
    (fits : CallFits parties.executed call phase file)
    (unnoticed : Unnoticed (parties.calls call) (parties.files call.path)
      phase file) :
    Sound plugin pluginName start (Exchange.setCall parties call phase file) :=
  have few := sound.few call.pid
  sound.setCall begun fits unnoticed.past
    (sound.server.setCall (fun _ => sound.small_of_sent) (by omega) unnoticed)

theorem Sound.begun (sound : Sound plugin pluginName start parties)
    {call : Call} (begun : parties.calls call ≠ .fresh) :
    call.counter < parties.counters call.pid := by
  by_contra unborn
  exact begun (sound.counted call (Nat.not_lt.mp unborn))

theorem errorFits (executed : List Execution) (call : Call)
    (command : ManagerCommand) {err : SsuErr}
    (failed : err = .io ∨ err = .notFound) :
    ResultFits executed call command (.error err) where
  nonempty _ other := by cases other
  short _ other := by cases other
  answered _ other := by cases other
  failed := by
    rintro _ ⟨⟩
    exact failed

theorem Refusal.known (refusal : Refusal) :
    refusal.err = .io ∨ refusal.err = .notFound := by
  cases refusal
  · exact .inr rfl
  · exact .inl rfl

theorem Sound.count (sound : Sound plugin pluginName start parties)
    {pid : Nat} (few : parties.counters pid < 2 ^ 32) :
    Sound plugin pluginName start
      { parties with
        counters := Function.update parties.counters pid
          (parties.counters pid + 1) } where
  few other := by
    by_cases same : other = pid
    · subst same
      simp only [Function.update_self]
      omega
    · simpa [Function.update_of_ne same] using sound.few other
  counted call unborn := by
    by_cases same : call.pid = pid
    · subst same
      simp only [Function.update_self] at unborn
      exact sound.counted call (by omega)
    · simp only [Function.update_of_ne same] at unborn
      exact sound.counted call unborn
  fits := sound.fits
  once := sound.once
  queued := sound.queued
  lineEnded := sound.lineEnded
  lines := sound.lines
  server := sound.server
  serial := sound.serial

/-- Nothing of the manager's depends on a call before its line is sent. -/
theorem Unnoticed.of_unsent {before after : CallPhase}
    {oldFile file : ResponseFifo} (unsent : ∀ command, ¬Past command before)
    (unopened : ¬Opened before) (silent : file.reading = false)
    (unread : ∀ command received, after ≠ .reading command received) :
    Unnoticed before oldFile after file where
  past command past := absurd past (unsent command)
  opened opened := absurd opened unopened
  reading reads := by
    rw [silent] at reads
    contradiction
  flow command received now := absurd now (unread command received)

theorem Sound.create (sound : Sound plugin pluginName start parties)
    {pid : Nat} (few : parties.counters pid < 2 ^ 32)
    (command : ManagerCommand) (made : Bool) :
    Sound plugin pluginName start (create parties pid command made) := by
  have fresh : parties.calls ⟨pid, parties.counters pid⟩ = .fresh :=
    sound.counted _ (Nat.le_refl _)
  have begun : parties.counters pid <
      Function.update parties.counters pid (parties.counters pid + 1) pid := by
    rw [Function.update_self]
    omega
  have unsent : ∀ other,
      ¬Past other (parties.calls ⟨pid, parties.counters pid⟩) := by
    rw [fresh]
    exact fun _ past => past
  have unopened : ¬Opened (parties.calls ⟨pid, parties.counters pid⟩) := by
    rw [fresh]
    exact fun opened => opened
  have counted := sound.count few
  unfold Exchange.create
  simp only
  split
  · exact counted.setCall_quiet begun rfl
      (.of_unsent unsent unopened rfl (fun _ _ other => by cases other))
  · exact counted.setCall_quiet begun
      ⟨rfl, rfl, errorFits _ _ _ (.inl rfl)⟩
      (.of_unsent unsent unopened rfl (fun _ _ other => by cases other))

theorem Between.enqueue (between : Between parties)
    (requests : FifoState) (line : Call × ManagerCommand) :
    Between { parties with requests, sent := parties.sent ++ [line] } := by
  obtain ⟨handled, waiting, split, length, ran⟩ := between
  refine ⟨handled, waiting ++ [line], ?_, length, ran⟩
  simp only [split, List.append_assoc]

theorem Holding.enqueue {held : Call × ManagerCommand}
    (holding : Holding parties held) (requests : FifoState)
    (line : Call × ManagerCommand) :
    Holding { parties with requests, sent := parties.sent ++ [line] }
      held := by
  obtain ⟨handled, waiting, split, length, ran⟩ := holding
  refine ⟨handled, waiting ++ [line], ?_, length, ran⟩
  simp only [split, List.append_assoc, List.cons_append]

theorem ServerFits.enqueue {server : ServerPhase}
    (fits : ServerFits parties server) (requests : FifoState)
    (line : Call × ManagerCommand) :
    ServerFits { parties with requests, sent := parties.sent ++ [line] }
      server := by
  cases server with
  | polling => exact Between.enqueue fits requests line
  | stopped => exact Between.enqueue fits requests line
  | opening responsePath command =>
      obtain ⟨held, pair, holding, silent⟩ := fits
      exact ⟨held, pair, holding.enqueue requests line, silent⟩
  | connected responsePath command =>
      obtain ⟨held, pair, holding, opened⟩ := fits
      exact ⟨held, pair, holding.enqueue requests line, opened⟩
  | answering responsePath rest =>
      obtain ⟨between, held, response, path, member, opened, ran, flow⟩ := fits
      exact ⟨between.enqueue requests line, held, response, path,
        List.mem_append_left _ member, opened, ran, flow⟩

theorem Sound.enqueue (sound : Sound plugin pluginName start parties)
    {call : Call} {command : ManagerCommand}
    (current : parties.calls call = .sent command)
    (unsent : ∀ line ∈ parties.sent, line.1 ≠ call) :
    Sound plugin pluginName start
      { parties with
        requests := fifoStep parties.requests (.write (call.request command))
        sent := parties.sent ++ [(call, command)] } where
  few := sound.few
  counted := sound.counted
  fits := sound.fits
  once := by
    rw [List.map_append, List.map_singleton]
    refine List.Nodup.append sound.once (List.nodup_singleton _) ?_
    intro other before now
    obtain ⟨line, member, rfl⟩ := List.mem_map.mp before
    exact unsent line member (List.mem_singleton.mp now)
  queued line member := by
    rcases List.mem_append.mp member with before | now
    · exact sound.queued line before
    · obtain rfl := List.mem_singleton.mp now
      change Past command (parties.calls call)
      rw [current]
      rfl
  lineEnded := lineEnded_step sound.lineEnded _
  lines := by
    rw [pieces_write sound.lineEnded, sound.lines, List.map_append]
    rfl
  server := sound.server.enqueue _ _
  serial := sound.serial

theorem Sound.send (sound : Sound plugin pluginName start parties)
    (call : Call) (refused : Option Refusal) :
    Sound plugin pluginName start (send parties call refused) := by
  unfold Exchange.send
  split
  · rename_i command current
    have begun : call.counter < parties.counters call.pid := by
      apply sound.begun
      rw [current]
      exact fun other => by cases other
    have unsent : ∀ other, ¬Past other (parties.calls call) := by
      rw [current]
      exact fun _ past => past
    have unopened : ¬Opened (parties.calls call) := by
      rw [current]
      exact fun opened => opened
    have made : parties.files call.path = .made := by
      have few := sound.few call.pid
      have fits := sound.fits call (by omega)
      rwa [current] at fits
    split
    · exact sound.setCall_quiet begun
        ⟨rfl, rfl, errorFits _ _ _ (Refusal.known _)⟩
        (.of_unsent unsent unopened rfl (fun _ _ other => by cases other))
    · have waiting : Sound plugin pluginName start
          (Exchange.setCall parties call (.sent command)
            (parties.files call.path)) :=
        sound.setCall_quiet begun made
          (.of_unsent unsent unopened (by rw [made]; rfl)
            (fun _ _ other => by cases other))
      apply waiting.enqueue setCall_call
      rintro line member rfl
      exact unsent _ (sound.queued line member)
  · exact sound

/-- The call that has opened its FIFO finds the manager waiting for it or not
yet at its line. -/
theorem ServerFits.wake (sound : Sound plugin pluginName start parties)
    {call : Call} {command : ManagerCommand} {file : ResponseFifo}
    (current : parties.calls call = .sent command) :
    ServerFits (Exchange.setCall parties call (.reading command []) file)
      (Exchange.wake call.path parties.server) := by
  have few := sound.few call.pid
  have begun : call.counter < parties.counters call.pid := by
    apply sound.begun
    rw [current]
    exact fun other => by cases other
  have small : call.counter < 2 ^ 32 := by omega
  have different : ∀ other, Opened (parties.calls other) → other ≠ call := by
    rintro other opened rfl
    rw [current] at opened
    exact opened
  have serves := sound.server
  cases phase : parties.server with
  | polling =>
      rw [phase] at serves
      exact serves
  | stopped =>
      rw [phase] at serves
      exact serves
  | opening responsePath text =>
      rw [phase] at serves
      obtain ⟨held, pair, holding, silent⟩ := serves
      obtain ⟨rfl, rfl⟩ := Prod.mk.inj pair.symm
      have alsoSmall := sound.small_of_sent holding.sent
      unfold Exchange.wake
      simp only
      split
      · rename_i same
        have own : held.1 = call := Call.path_injective alsoSmall small same
        refine ⟨held, rfl, holding, ?_⟩
        rw [own, setCall_call]
        trivial
      · rename_i other
        refine ⟨held, rfl, holding, ?_⟩
        have apart : held.1 ≠ call := by
          intro same
          exact other (congrArg Call.path same)
        change ((Exchange.setCall parties call _ file).files
          held.1.path).reading = false
        rw [setCall_otherFile small alsoSmall apart]
        exact silent
  | connected responsePath text =>
      rw [phase] at serves
      obtain ⟨held, pair, holding, opened⟩ := serves
      refine ⟨held, pair, holding, ?_⟩
      rwa [setCall_otherCall (different _ opened)]
  | answering responsePath rest =>
      rw [phase] at serves
      obtain ⟨between, held, response, rfl, member, opened, ran, flow⟩ := serves
      have apart := different _ opened
      refine ⟨between, held, response, rfl, member, ?_, ran, ?_⟩
      · rwa [setCall_otherCall apart]
      · intro command received now
        rw [setCall_otherCall apart] at now
        rw [setCall_otherFile small (sound.small_of_sent member) apart]
        exact flow command received now

theorem Sound.openResponse (sound : Sound plugin pluginName start parties)
    (call : Call) (opened : Bool) :
    Sound plugin pluginName start (openResponse parties call opened) := by
  unfold Exchange.openResponse
  split
  · rename_i command current
    have begun : call.counter < parties.counters call.pid := by
      apply sound.begun
      rw [current]
      exact fun other => by cases other
    have few := sound.few call.pid
    have made : parties.files call.path = .made := by
      have fits := sound.fits call (by omega)
      rwa [current] at fits
    have past : ∀ other, Past other (parties.calls call) →
        command = other := by
      intro other past
      rwa [current] at past
    simp only
    split
    · have fits : CallFits parties.executed call (.reading command [])
          { parties.files call.path with reading := true } := by
        rw [made]
        exact ⟨rfl, rfl, Nat.zero_le _, .inl rfl⟩
      exact sound.setCall begun fits past (ServerFits.wake sound current)
    · apply sound.setCall_quiet begun
      · rw [made]
        exact ⟨rfl, rfl, errorFits _ _ _ (.inl rfl)⟩
      · exact
          { past
            opened := fun _ => trivial
            reading := fun reads => reads
            flow := fun _ _ other => by cases other }
  · exact sound

theorem readResult_fits {executed : List Execution} {call : Call}
    {command : ManagerCommand} {received : CString}
    (short : received.length ≤ Sdk.responseSize - 1)
    (answered : Answered executed call command received) (failed : Bool) :
    ResultFits executed call command (readResult received failed) := by
  unfold readResult
  split
  · exact errorFits _ _ _ (.inl rfl)
  · rename_i kept
    constructor
    · rintro _ ⟨⟩
      exact fun empty => kept (.inr empty)
    · rintro _ ⟨⟩
      exact short
    · rintro _ ⟨⟩
      exact answered
    · intro err other
      cases other

/-- The steps of a client behind its `open`. -/
theorem Sound.onward (sound : Sound plugin pluginName start parties)
    {call : Call} {phase : CallPhase} {file : ResponseFifo}
    (opened : Opened (parties.calls call))
    (fits : CallFits parties.executed call (parties.calls call)
        (parties.files call.path) →
      CallFits parties.executed call phase file)
    (unnoticed : Unnoticed (parties.calls call) (parties.files call.path)
      phase file) :
    Sound plugin pluginName start
      (Exchange.setCall parties call phase file) := by
  have begun : call.counter < parties.counters call.pid := by
    apply sound.begun
    intro fresh
    rw [fresh] at opened
    exact opened
  have few := sound.few call.pid
  exact sound.setCall_quiet begun (fits (sound.fits call (by omega))) unnoticed

theorem Sound.receive (sound : Sound plugin pluginName start parties)
    (call : Call) (available : Nat) :
    Sound plugin pluginName start (receive parties call available) := by
  unfold Exchange.receive
  split
  · rename_i command received current
    simp only
    generalize room : min available
      (Sdk.responseSize - 1 - received.length) = got
    have whole : received ++ (parties.files call.path).data.take got ++
        (parties.files call.path).data.drop got =
          received ++ (parties.files call.path).data := by
      rw [List.append_assoc, List.take_append_drop]
    apply sound.onward
    · rw [current]
      trivial
    · rw [current]
      rintro ⟨linked, reading, short, answered⟩
      refine ⟨linked, reading, ?_, ?_⟩
      · rw [List.length_append, List.length_take]
        omega
      · rwa [← whole] at answered
    · rw [current]
      refine ⟨fun _ past => past, fun _ => trivial, fun reads => reads, ?_⟩
      rintro _ _ ⟨⟩
      exact ⟨received, rfl, whole⟩
  · exact sound

theorem Sound.finish (sound : Sound plugin pluginName start parties)
    (call : Call) (failed : Bool) :
    Sound plugin pluginName start (finish parties call failed) := by
  unfold Exchange.finish
  split
  · rename_i command received current
    apply sound.onward
    · rw [current]
      trivial
    · rw [current]
      rintro ⟨linked, _, short, answered⟩
      refine ⟨linked, rfl, readResult_fits short ?_ failed⟩
      exact answered.prefix (List.prefix_append _ _)
    · rw [current]
      exact
        { past := fun _ past => past
          opened := fun _ => trivial
          reading := fun reads => by cases reads
          flow := fun _ _ other => by cases other }
  · exact sound

theorem Sound.unlink (sound : Sound plugin pluginName start parties)
    (call : Call) : Sound plugin pluginName start (unlink parties call) := by
  unfold Exchange.unlink
  split
  · rename_i command result current
    apply sound.onward
    · rw [current]
      trivial
    · rw [current]
      rintro ⟨_, silent, fits⟩
      exact ⟨rfl, silent, fits⟩
    · rw [current]
      exact
        { past := fun _ past => past
          opened := fun _ => trivial
          reading := fun reads => reads
          flow := fun _ _ other => by cases other }
  · exact sound

end Clients

end UbseSsu.Exchange

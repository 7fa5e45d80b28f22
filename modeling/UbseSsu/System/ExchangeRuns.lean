import UbseSsu.Controller.Capacity
import UbseSsu.System.ExchangeClients

/-!
# Every answer belongs to its call

However the steps of the clients and of the manager interleave, the manager
runs each command at most once and in the order in which the lines were
queued, and what a client takes for the answer is the beginning of the response
to its own command.  A call that has given up before the manager reached its
FIFO never runs; but a manager that has begun to wait for it waits for good.
-/

namespace UbseSsu.Exchange

open Api UbseSsu.Runtime

variable {PluginState : Type}

section Manager

variable {plugin : SsuPluginOps PluginState} {pluginName : CString}
  {start : ApiState PluginState} {parties : Parties PluginState}

theorem handleFifoLine_sent {opens : CString → Bool} {req : FifoRequest}
    {pair : CString × CString}
    (handled : handleFifoLine opens req.text = some pair) :
    pair = req.pair := by
  have taken : handleFifoLine (fun _ => true) req.text = some req.pair :=
    handleFifoLine_text rfl
  unfold handleFifoLine at handled taken
  split at handled
  · cases handled
  · rename_i responsePath save cut
    rw [cut] at taken
    split at handled
    · cases handled
    · rename_i nonempty
      simp only [nonempty, if_true, Bool.false_eq_true, if_false] at taken
      split at handled
      · rw [← Option.some.inj handled, ← Option.some.inj taken]
      · cases handled

/-- A FIFO that is being read belongs to a call that is reading. -/
theorem CallFits.opened {executed : List Execution} {call : Call}
    {phase : CallPhase} {file : ResponseFifo}
    (fits : CallFits executed call phase file) (reads : file.reading = true) :
    Opened phase := by
  cases phase with
  | fresh =>
      rw [show file = .absent from fits] at reads
      cases reads
  | created command =>
      rw [show file = .made from fits] at reads
      cases reads
  | sent command =>
      rw [show file = .made from fits] at reads
      cases reads
  | reading command received => trivial
  | closing command result => trivial
  | returned command result => trivial

theorem Between.of_idle (sound : Sound plugin pluginName start parties)
    (idle : Idle parties) : Between parties := by
  have serves := sound.server
  obtain ⟨polling, _⟩ := idle
  split at polling
  · rename_i phase
    rwa [phase] at serves
  · cases polling

theorem Sound.read (sound : Sound plugin pluginName start parties)
    {available : Nat}
    (whole : ReadsWholeLines parties.requests (.read available)) :
    Sound plugin pluginName start (read parties available) := by
  unfold Exchange.read
  split
  · exact
      { sound with
        lineEnded := lineEnded_step sound.lineEnded _
        lines := (pieces_read_of_clean whole).trans sound.lines
        server := sound.server }
  · exact sound

theorem Sound.refresh (sound : Sound plugin pluginName start parties) :
    Sound plugin pluginName start (refresh plugin parties) := by
  unfold Exchange.refresh
  split
  · rename_i quiet
    have between := Between.of_idle sound quiet.1
    exact
      { sound with
        server := by
          simp only
          split <;> exact between
        serial := .refresh sound.serial }
  · exact sound

theorem Sound.stop (sound : Sound plugin pluginName start parties) :
    Sound plugin pluginName start (stop parties) := by
  unfold Exchange.stop
  split
  · rename_i idle
    have between := Between.of_idle sound idle
    exact { sound with server := between }
  · exact sound

theorem Sound.close (sound : Sound plugin pluginName start parties) :
    Sound plugin pluginName start (close parties) := by
  unfold Exchange.close
  split
  · rename_i responsePath phase
    have serves := sound.server
    rw [phase] at serves
    exact { sound with server := serves.1 }
  · exact sound

/-- The next line served is the next line sent. -/
theorem Sound.nextLine (sound : Sound plugin pluginName start parties)
    (between : Between parties) {line : CString}
    (served : parties.requests.served[parties.handled]? = some line) :
    ∃ held, (held.1.request held.2).text = line ∧
      Holding { parties with handled := parties.handled + 1 } held := by
  obtain ⟨handled, waiting, split, length, ran⟩ := between
  obtain ⟨inside, _⟩ := List.getElem?_eq_some_iff.mp served
  have piece : parties.requests.pieces[parties.handled]? = some line := by
    rw [FifoState.pieces, List.getElem?_append_left inside, served]
  rw [sound.lines, split, List.map_append,
    List.getElem?_append_right (by rw [List.length_map]; omega),
    List.length_map, length, Nat.sub_self] at piece
  cases waiting with
  | nil => cases piece
  | cons held waiting =>
      exact ⟨held, Option.some.inj piece, handled, waiting, split,
        by rw [length], ran⟩

theorem Holding.between {held : Call × ManagerCommand}
    (holding : Holding parties held) : Between parties := by
  obtain ⟨handled, waiting, split, length, ran⟩ := holding
  refine ⟨handled ++ [held], waiting, ?_, ?_, ?_⟩
  · rw [split, List.append_assoc]
    rfl
  · rw [List.length_append, List.length_singleton, length]
  · rw [List.map_append]
    exact ran.trans (List.sublist_append_left _ _)

theorem Sound.take (sound : Sound plugin pluginName start parties) :
    Sound plugin pluginName start (take parties) := by
  unfold Exchange.take
  split
  · rename_i line phase served
    have serves := sound.server
    rw [phase] at serves
    obtain ⟨held, rfl, holding⟩ := sound.nextLine serves served
    have small := sound.small_of_sent holding.sent
    simp only
    split
    · exact
        { sound with
          server := by
            rw [phase]
            exact Holding.between holding }
    · rename_i responsePath command found
      have pair := handleFifoLine_sent found
      obtain ⟨rfl, rfl⟩ := Prod.mk.inj pair
      refine { sound with server := ?_ }
      simp only
      split
      · rename_i reads
        exact ⟨held, rfl, holding, (sound.fits held.1 small).opened reads⟩
      · rename_i silent
        exact ⟨held, rfl, holding, Bool.eq_false_of_not_eq_true silent⟩
  · exact sound

/-- The command of a line that the manager holds has not run. -/
theorem Holding.fresh (sound : Sound plugin pluginName start parties)
    {held : Call × ManagerCommand} (holding : Holding parties held) :
    ∀ execution ∈ parties.executed, execution.responsePath ≠ held.1.path := by
  intro execution member same
  have small := sound.small_of_sent holding.sent
  obtain ⟨handled, waiting, split, _, ran⟩ := holding
  obtain ⟨line, earlier, pair⟩ := List.mem_map.mp
    (ran.subset (List.mem_map_of_mem member))
  have sent : line ∈ parties.sent := by
    rw [split]
    exact List.mem_append_left _ earlier
  have alsoSmall := sound.small_of_sent sent
  have path : line.1.path = held.1.path :=
    (congrArg Prod.fst pair).trans same
  have once := sound.once
  rw [split, List.map_append, List.map_cons] at once
  have apart := (List.nodup_append.mp once).2.2 line.1
    (List.mem_map_of_mem earlier) held.1 List.mem_cons_self
  exact apart (Call.path_injective alsoSmall small path)

theorem Sound.run (sound : Sound plugin pluginName start parties) :
    Sound plugin pluginName start (run plugin pluginName parties) := by
  unfold Exchange.run
  split
  · rename_i responsePath text phase
    have serves := sound.server
    rw [phase] at serves
    obtain ⟨held, pair, holding, opened⟩ := serves
    obtain ⟨rfl, rfl⟩ := Prod.mk.inj pair.symm
    have unrun := holding.fresh sound
    have member := holding.sent
    have small := sound.small_of_sent member
    obtain ⟨handled, waiting, split, length, ran⟩ := holding
    refine
      { sound with
        fits := ?_
        server := ?_
        serial := .command sound.serial _ _ }
    · intro call small
      exact (sound.fits call small).mono
        (fun _ => List.mem_append_left _)
    · refine ⟨⟨handled ++ [held], waiting, ?_, ?_, ?_⟩, held, _, rfl,
        member, opened, List.mem_append_right _ List.mem_cons_self, ?_⟩
      · rw [split, List.append_assoc]
        rfl
      · rw [List.length_append, List.length_singleton, length]
      · rw [List.map_append, List.map_append]
        exact ran.append (List.Sublist.refl _)
      · intro command received now
        have fits := sound.fits held.1 small
        rw [now] at fits
        obtain ⟨_, _, _, empty | ⟨earlier, before, _⟩⟩ := fits
        · exact (congrArg (· ++ _) empty).trans (List.nil_append _)
        · exact absurd rfl (unrun _ before)
  · exact sound

theorem Sound.write (sound : Sound plugin pluginName start parties)
    (count : Nat) : Sound plugin pluginName start (write parties count) := by
  unfold Exchange.write
  split
  · rename_i responsePath rest phase
    have serves := sound.server
    rw [phase] at serves
    obtain ⟨between, held, response, rfl, member, opened, ran, flow⟩ := serves
    have small := sound.small_of_sent member
    have own := sound.fits held.1 small
    simp only
    split
    · rename_i reads
      have next : ∀ command received,
          parties.calls held.1 = .reading command received →
          received ++ ((parties.files held.1.path).data ++ rest.take count) ++
            rest.drop count = response := by
        intro command received now
        have before := flow command received now
        rwa [← List.take_append_drop count rest, ← List.append_assoc,
          List.append_assoc received] at before
      refine
        { sound with
          fits := ?_
          server := ⟨between, held, response, rfl, member, opened, ran, ?_⟩ }
      · intro call callSmall
        by_cases same : call = held.1
        · subst same
          simp only [Function.update_self]
          cases current : parties.calls held.1 with
          | fresh =>
              rw [current] at opened
              exact opened.elim
          | created command =>
              rw [current] at opened
              exact opened.elim
          | sent command =>
              rw [current] at opened
              exact opened.elim
          | reading command received =>
              have past := sound.queued held member
              rw [current] at own past
              obtain ⟨linked, reading, short, _⟩ := own
              have command : command = held.2 := past
              refine ⟨linked, reading, short, .inr ⟨response, ?_, ?_⟩⟩
              · rw [command]
                exact ran
              · exact ⟨_, next _ received current⟩
          | closing command result =>
              rw [current] at own
              rw [own.2.1] at reads
              cases reads
          | returned command result =>
              rw [current] at own
              rw [own.2.1] at reads
              cases reads
        · have apart : call.path ≠ held.1.path := fun path =>
            same (Call.path_injective callSmall small path)
          simp only [Function.update_of_ne apart]
          exact sound.fits call callSmall
      · intro command received now
        simp only [Function.update_self]
        exact next command received now
    · rename_i silent
      refine
        { sound with
          server := ⟨between, held, response, rfl, member, opened, ran, ?_⟩ }
      intro command received now
      rw [now] at own
      exact absurd own.2.1 silent
  · exact sound

end Manager

section Runs

variable {plugin : SsuPluginOps PluginState} {pluginName : CString}
  {start : ApiState PluginState} {parties : Parties PluginState}

theorem Sound.step (sound : Sound plugin pluginName start parties)
    (event : Event) (allowed : Allowed parties event) :
    Sound plugin pluginName start (step plugin pluginName parties event) := by
  cases event with
  | create pid command made => exact sound.create allowed command made
  | send call refused => exact sound.send call refused
  | openResponse call opened => exact sound.openResponse call opened
  | receive call available => exact sound.receive call available
  | finish call failed => exact sound.finish call failed
  | unlink call => exact sound.unlink call
  | read available => exact sound.read allowed
  | refresh => exact sound.refresh
  | take => exact sound.take
  | run => exact sound.run
  | write count => exact sound.write count
  | close => exact sound.close
  | stop => exact sound.stop

theorem sound_run {events : List Event}
    (allowed : Transition.Admissible (Exchange.step plugin pluginName) Allowed
      (initial start) events) :
    Sound plugin pluginName start
      (Transition.run (Exchange.step plugin pluginName) (initial start)
        events) :=
  Transition.run_invariant _ (fun _ event sound => sound.step event)
    (sound_initial plugin pluginName start) allowed

/-- What has run is what the lines handled asked for. -/
theorem Sound.between (sound : Sound plugin pluginName start parties) :
    (parties.executed.map Execution.pair).Sublist
      (parties.sent.map sentPair) := by
  have split : Between parties ∨ ∃ held, Holding parties held := by
    have serves := sound.server
    cases phase : parties.server with
    | polling =>
        rw [phase] at serves
        exact .inl serves
    | stopped =>
        rw [phase] at serves
        exact .inl serves
    | opening responsePath command =>
        rw [phase] at serves
        obtain ⟨held, _, holding, _⟩ := serves
        exact .inr ⟨held, holding⟩
    | connected responsePath command =>
        rw [phase] at serves
        obtain ⟨held, _, holding, _⟩ := serves
        exact .inr ⟨held, holding⟩
    | answering responsePath rest =>
        rw [phase] at serves
        exact .inl serves.1
  rcases split with ⟨handled, waiting, whole, _, ran⟩ |
    ⟨held, handled, waiting, whole, _, ran⟩
  · rw [whole, List.map_append]
    exact ran.trans (List.sublist_append_left _ _)
  · rw [whole, List.map_append]
    exact ran.trans (List.sublist_append_left _ _)

theorem Sound.pathsOnce (sound : Sound plugin pluginName start parties) :
    (parties.executed.map Execution.responsePath).Nodup := by
  have paths : (parties.sent.map fun line => line.1.path).Nodup := by
    have once := List.pairwise_map.mp sound.once
    apply List.pairwise_map.mpr
    exact once.imp_of_mem fun member alsoMember apart same =>
      apart (Call.path_injective (sound.small_of_sent member)
        (sound.small_of_sent alsoMember) same)
  have ran := sound.between.map Prod.fst
  rw [List.map_map, List.map_map] at ran
  exact paths.sublist ran

theorem Sound.result (sound : Sound plugin pluginName start parties)
    {call : Call} {command : ManagerCommand} {text : CString}
    (returned : parties.calls call = .returned command (.ok text)) :
    text ≠ [] ∧ text.length ≤ Sdk.responseSize - 1 ∧
      ∃ response, ⟨call.path, command.text, response⟩ ∈ parties.executed ∧
        text <+: response := by
  have small : call.counter < 2 ^ 32 := by
    apply sound.small
    rw [returned]
    exact fun other => by cases other
  have fits := sound.fits call small
  rw [returned] at fits
  obtain ⟨_, _, result⟩ := fits
  have nonempty := result.nonempty text rfl
  refine ⟨nonempty, result.short text rfl, ?_⟩
  exact (result.answered text rfl).resolve_left nonempty

/-- However the clients and the manager interleave, the manager is a serial
machine that runs each line at most once and in the order of sending, and a
call that returns `SSU_OK` brings the beginning of the response to its own
command. -/
theorem results_answer_their_calls (plugin : SsuPluginOps PluginState)
    (pluginName : CString) (start : ApiState PluginState)
    (events : List Event)
    (allowed : Transition.Admissible (step plugin pluginName) Allowed
      (initial start) events) :
    let final := Transition.run (step plugin pluginName) (initial start) events
    (∀ call command text,
        final.calls call = .returned command (.ok text) →
        text ≠ [] ∧ text.length ≤ Sdk.responseSize - 1 ∧
          ∃ response, ⟨call.path, command.text, response⟩ ∈ final.executed ∧
            text <+: response) ∧
      (final.executed.map Execution.pair).Sublist (final.sent.map sentPair) ∧
      (final.executed.map Execution.responsePath).Nodup ∧
      Serial plugin pluginName start final.executed final.current := by
  intro final
  have sound : Sound plugin pluginName start final := sound_run allowed
  exact ⟨fun _ _ _ returned => sound.result returned, sound.between,
    sound.pathsOnce, sound.serial⟩

def listCommand : ManagerCommand where
  text := "LIST".toList
  named := ⟨'L', _, rfl, by decide⟩
  plain := by decide
  short := by decide

/-- The call reads while the manager is still writing, and stops too early. -/
def hastyCall : List Event :=
  [.create 100 listCommand true, .send ⟨100, 0⟩ none, .read 4096, .take,
    .openResponse ⟨100, 0⟩ true, .run, .write 3, .receive ⟨100, 0⟩ 8192,
    .finish ⟨100, 0⟩ false, .unlink ⟨100, 0⟩, .write 8192, .close]

theorem results_answer_their_calls_hasty :
    let final := Transition.run
      (step (Controller.acceptingPlugin [Controller.oneSsu]) "mock".toList)
      (initial (.initial ())) hastyCall
    "OK\n".toList.length ≤ Sdk.responseSize - 1 ∧ ∃ response,
      ⟨Call.path ⟨100, 0⟩, listCommand.text, response⟩ ∈ final.executed ∧
        "OK\n".toList <+: response :=
  ((results_answer_their_calls
    (Controller.acceptingPlugin [Controller.oneSsu]) "mock".toList
    (.initial ()) hastyCall (by decide)).1 ⟨100, 0⟩ listCommand
      "OK\n".toList rfl).2

end Runs

section GivenUp

variable {plugin : SsuPluginOps PluginState} {pluginName : CString}
  {start : ApiState PluginState} {parties : Parties PluginState}

/-- The client does not read from its FIFO any more. -/
def Over : CallPhase → Prop
  | .closing _ _ | .returned _ _ => True
  | _ => False

instance : DecidablePred Over
  | .fresh | .created _ | .sent _ | .reading _ _ =>
      inferInstanceAs (Decidable False)
  | .closing _ _ | .returned _ _ => inferInstanceAs (Decidable True)

/-- The call is over, and the manager has not got through to it. -/
structure Missed (parties : Parties PluginState) (call : Call) : Prop where
  ended : Over (parties.calls call)
  unrun : ∀ execution ∈ parties.executed, execution.responsePath ≠ call.path
  apart : ∀ command, parties.server ≠ .connected call.path command

/-- The manager waits in `open` for a call that is over. -/
structure Stuck (parties : Parties PluginState) (call : Call)
    (command : CString) : Prop where
  ended : Over (parties.calls call)
  waiting : parties.server = .opening call.path command

theorem Over.begun {phase : CallPhase} (ended : Over phase) :
    phase ≠ .fresh := by
  rintro rfl
  exact ended

theorem CallFits.silent {executed : List Execution} {call : Call}
    {phase : CallPhase} {file : ResponseFifo}
    (fits : CallFits executed call phase file) (ended : Over phase) :
    file.reading = false := by
  cases phase with
  | fresh => exact ended.elim
  | created command => exact ended.elim
  | sent command => exact ended.elim
  | reading command received => exact ended.elim
  | closing command result => exact fits.2.1
  | returned command result => exact fits.2.1

/-- A FIFO that some other call has just opened is not that of a call which is
over. -/
theorem Sound.openingApart (sound : Sound plugin pluginName start parties)
    {call other : Call} {command : ManagerCommand}
    (ended : Over (parties.calls call))
    (current : parties.calls other = .sent command) :
    call.path ≠ other.path := by
  intro same
  have small := sound.small ended.begun
  have alsoSmall : other.counter < 2 ^ 32 := by
    apply sound.small
    rw [current]
    exact fun fresh => by cases fresh
  rw [Call.path_injective small alsoSmall same, current] at ended
  exact ended

theorem Sound.noneOpening (sound : Sound plugin pluginName start parties)
    {call : Call} (ended : Over (parties.calls call)) :
    ¬∃ other own, other.path = call.path ∧
      parties.calls other = .sent own := by
  rintro ⟨other, own, same, current⟩
  exact sound.openingApart ended current same.symm

/-- What a step can do to the calls, to the manager and to what has run. -/
inductive Effect (plugin : SsuPluginOps PluginState) (pluginName : CString)
    (parties : Parties PluginState) : Parties PluginState → Prop where
  | unchanged : Effect plugin pluginName parties parties
  | client {after : Parties PluginState} (call : Call) (phase : CallPhase)
      (calls : after.calls = Function.update parties.calls call phase)
      (onward : Over (parties.calls call) → Over phase)
      (executed : after.executed = parties.executed)
      (server : after.server = parties.server ∨
        ∃ own, parties.calls call = .sent own ∧
          after.server = wake call.path parties.server) :
      Effect plugin pluginName parties after
  | loop {after : Parties PluginState} (polling : parties.server = .polling)
      (calls : after.calls = parties.calls)
      (executed : after.executed = parties.executed)
      (server : ∀ responsePath command,
        after.server = .connected responsePath command →
          (parties.files responsePath).reading = true) :
      Effect plugin pluginName parties after
  | run (responsePath command : CString)
      (connected : parties.server = .connected responsePath command) :
      Effect plugin pluginName parties (Exchange.run plugin pluginName parties)
  | respond {after : Parties PluginState} (responsePath rest : CString)
      (answering : parties.server = .answering responsePath rest)
      (calls : after.calls = parties.calls)
      (executed : after.executed = parties.executed)
      (server : ∀ responsePath command,
        after.server ≠ .connected responsePath command) :
      Effect plugin pluginName parties after

theorem Idle.polling (idle : Idle parties) : parties.server = .polling := by
  obtain ⟨polling, _⟩ := idle
  split at polling
  · assumption
  · cases polling

theorem Sound.effect_create (sound : Sound plugin pluginName start parties)
    (pid : Nat) (command : ManagerCommand) (made : Bool) :
    Effect plugin pluginName parties
      (Exchange.create parties pid command made) := by
  have fresh := sound.counted ⟨pid, parties.counters pid⟩ (Nat.le_refl _)
  have begins : ∀ {phase : CallPhase},
      Over (parties.calls ⟨pid, parties.counters pid⟩) → Over phase := by
    intro _ ended
    exact absurd fresh ended.begun
  unfold Exchange.create
  simp only
  split
  · exact .client _ _ rfl begins rfl (.inl rfl)
  · exact .client _ _ rfl begins rfl (.inl rfl)

theorem effect_send (call : Call) (refused : Option Refusal) :
    Effect plugin pluginName parties (send parties call refused) := by
  unfold Exchange.send
  split
  · rename_i command current
    have begins : ∀ {phase : CallPhase},
        Over (parties.calls call) → Over phase := by
      intro _ ended
      rw [current] at ended
      exact ended.elim
    split
    · exact .client call _ rfl begins rfl (.inl rfl)
    · exact .client call (.sent command) rfl begins rfl (.inl rfl)
  · exact .unchanged

theorem effect_openResponse (call : Call) (opened : Bool) :
    Effect plugin pluginName parties (openResponse parties call opened) := by
  unfold Exchange.openResponse
  split
  · rename_i command current
    have begins : ∀ {phase : CallPhase},
        Over (parties.calls call) → Over phase := by
      intro _ ended
      rw [current] at ended
      exact ended.elim
    simp only
    split
    · exact .client call (.reading command []) rfl begins rfl
        (.inr ⟨command, current, rfl⟩)
    · exact .client call (.closing command (.error .io)) rfl begins rfl
        (.inl rfl)
  · exact .unchanged

theorem effect_take : Effect plugin pluginName parties (take parties) := by
  unfold Exchange.take
  split
  · rename_i line polling served
    simp only
    split
    · refine .loop polling rfl rfl ?_
      intro responsePath command connected
      rw [polling] at connected
      cases connected
    · refine .loop polling rfl rfl ?_
      intro responsePath command connected
      simp only at connected
      split at connected
      · rename_i reads
        cases connected
        exact reads
      · cases connected
  · exact .unchanged

theorem effect_write (count : Nat) :
    Effect plugin pluginName parties (write parties count) := by
  unfold Exchange.write
  split
  · rename_i responsePath rest answering
    simp only
    split
    · exact .respond responsePath rest answering rfl rfl
        (fun _ _ other => by cases other)
    · exact .respond responsePath rest answering rfl rfl
        (fun _ _ other => by cases other)
  · exact .unchanged

theorem Sound.effect (sound : Sound plugin pluginName start parties)
    (event : Event) :
    Effect plugin pluginName parties
      (Exchange.step plugin pluginName parties event) := by
  cases event with
  | create pid command made => exact sound.effect_create pid command made
  | send call refused => exact effect_send call refused
  | openResponse call opened => exact effect_openResponse call opened
  | receive call available =>
      change Effect _ _ _ (Exchange.receive parties call available)
      unfold Exchange.receive
      split
      · rename_i command received current
        refine .client call _ rfl (fun ended => ?_) rfl (.inl rfl)
        rw [current] at ended
        exact ended.elim
      · exact .unchanged
  | finish call failed =>
      change Effect _ _ _ (Exchange.finish parties call failed)
      unfold Exchange.finish
      split
      · exact .client call _ rfl (fun _ => trivial) rfl (.inl rfl)
      · exact .unchanged
  | unlink call =>
      change Effect _ _ _ (Exchange.unlink parties call)
      unfold Exchange.unlink
      split
      · exact .client call _ rfl (fun _ => trivial) rfl (.inl rfl)
      · exact .unchanged
  | read available =>
      change Effect _ _ _ (Exchange.read parties available)
      unfold Exchange.read
      split
      · rename_i idle
        refine .loop idle.polling rfl rfl (fun _ _ connected => ?_)
        rw [idle.polling] at connected
        cases connected
      · exact .unchanged
  | refresh =>
      change Effect _ _ _ (Exchange.refresh plugin parties)
      unfold Exchange.refresh
      split
      · rename_i quiet
        refine .loop quiet.1.polling rfl rfl (fun _ _ connected => ?_)
        simp only at connected
        split at connected <;> cases connected
      · exact .unchanged
  | take => exact effect_take
  | run =>
      cases phase : parties.server with
      | connected responsePath command =>
          exact .run responsePath command phase
      | polling | opening | answering | stopped =>
          change Effect _ _ _ (Exchange.run plugin pluginName parties)
          simp only [Exchange.run, phase]
          exact .unchanged
  | write count => exact effect_write count
  | close =>
      change Effect _ _ _ (Exchange.close parties)
      unfold Exchange.close
      split
      · rename_i responsePath answering
        exact .respond responsePath [] answering rfl rfl
          (fun _ _ other => by cases other)
      · exact .unchanged
  | stop =>
      change Effect _ _ _ (Exchange.stop parties)
      unfold Exchange.stop
      split
      · rename_i idle
        exact .loop idle.polling rfl rfl (fun _ _ other => by cases other)
      · exact .unchanged

theorem run_calls : (Exchange.run plugin pluginName parties).calls =
    parties.calls := by
  unfold Exchange.run
  split <;> rfl

theorem run_of_connected {responsePath command : CString}
    (connected : parties.server = .connected responsePath command) :
    (Exchange.run plugin pluginName parties).executed =
        parties.executed ++ [⟨responsePath, command,
          (handleCommand plugin pluginName command parties.current).1⟩] ∧
      ∃ rest, (Exchange.run plugin pluginName parties).server =
        .answering responsePath rest := by
  simp only [Exchange.run, connected, true_and]
  exact ⟨_, rfl⟩

theorem Effect.ended {after : Parties PluginState}
    (effect : Effect plugin pluginName parties after) {call : Call}
    (ended : Over (parties.calls call)) : Over (after.calls call) := by
  cases effect with
  | unchanged => exact ended
  | client other phase calls onward _ _ =>
      rw [calls]
      by_cases same : call = other
      · subst same
        rw [Function.update_self]
        exact onward ended
      · rwa [Function.update_of_ne same]
  | loop _ calls _ _ => rwa [calls]
  | run _ _ _ => rwa [run_calls]
  | respond _ _ _ calls _ _ => rwa [calls]

theorem Missed.effect (sound : Sound plugin pluginName start parties)
    {after : Parties PluginState} {call : Call} (missed : Missed parties call)
    (effect : Effect plugin pluginName parties after) : Missed after call := by
  refine ⟨effect.ended missed.ended, ?_, ?_⟩
  · cases effect with
    | unchanged => exact missed.unrun
    | client _ _ _ _ executed _ => rw [executed]; exact missed.unrun
    | loop _ _ executed _ => rw [executed]; exact missed.unrun
    | run responsePath command connected =>
        rw [(run_of_connected connected).1]
        intro execution ran
        rcases List.mem_append.mp ran with before | now
        · exact missed.unrun execution before
        · obtain rfl := List.mem_singleton.mp now
          rintro rfl
          exact missed.apart command connected
    | respond _ _ _ _ executed _ => rw [executed]; exact missed.unrun
  · intro command connected
    cases effect with
    | unchanged => exact missed.apart command connected
    | client other phase _ _ _ server =>
        rcases server with same | ⟨own, current, woken⟩
        · exact missed.apart command (same ▸ connected)
        · have apart := sound.openingApart missed.ended current
          rw [woken] at connected
          unfold wake at connected
          split at connected
          · split at connected
            · rename_i waiting
              cases connected
              exact apart waiting
            · cases connected
          · exact missed.apart command connected
    | loop _ _ _ server =>
        have silent := (sound.fits call
          (sound.small missed.ended.begun)).silent missed.ended
        rw [server _ _ connected] at silent
        cases silent
    | run responsePath text before =>
        have ran := @run_of_connected _ plugin pluginName _ _ _ before
        obtain ⟨rest, answers⟩ := ran.2
        rw [answers] at connected
        cases connected
    | respond _ _ _ _ _ server => exact server _ _ connected

theorem Stuck.effect (sound : Sound plugin pluginName start parties)
    {after : Parties PluginState} {call : Call} {command : CString}
    (stuck : Stuck parties call command)
    (effect : Effect plugin pluginName parties after) :
    Stuck after call command ∧ after.executed = parties.executed := by
  have waiting := stuck.waiting
  have ended := effect.ended stuck.ended
  cases effect with
  | unchanged => exact ⟨stuck, rfl⟩
  | client other phase _ _ executed server =>
      refine ⟨⟨ended, ?_⟩, executed⟩
      rcases server with same | ⟨own, current, woken⟩
      · rw [same, waiting]
      · have apart := sound.openingApart stuck.ended current
        rw [woken, waiting, wake, if_neg apart]
  | loop polling _ _ _ =>
      rw [waiting] at polling
      cases polling
  | run _ _ connected =>
      rw [waiting] at connected
      cases connected
  | respond _ _ answering _ _ _ =>
      rw [waiting] at answering
      cases answering

theorem Missed.run {call : Call}
    (sound : Sound plugin pluginName start parties)
    (missed : Missed parties call) {later : List Event}
    (allowed : Transition.Admissible (step plugin pluginName) Allowed parties
      later) :
    Missed (Transition.run (step plugin pluginName) parties later) call := by
  have both := Transition.run_invariant
    (fun parties => Sound plugin pluginName start parties ∧
      Missed parties call)
    (fun _ event kept allows => ⟨kept.1.step event allows,
      kept.2.effect kept.1 (kept.1.effect event)⟩)
    ⟨sound, missed⟩ allowed
  exact both.2

theorem Stuck.run {call : Call} {command : CString}
    (sound : Sound plugin pluginName start parties)
    (stuck : Stuck parties call command) {later : List Event}
    (allowed : Transition.Admissible (step plugin pluginName) Allowed parties
      later) :
    let after := Transition.run (step plugin pluginName) parties later
    Stuck after call command ∧ after.executed = parties.executed := by
  have all := Transition.run_invariant
    (fun after => Sound plugin pluginName start after ∧
      Stuck after call command ∧ after.executed = parties.executed)
    (fun before event kept allows => by
      obtain ⟨sound, stuck, executed⟩ := kept
      obtain ⟨still, same⟩ := stuck.effect sound (sound.effect event)
      exact ⟨sound.step event allows, still, same.trans executed⟩)
    ⟨sound, stuck, rfl⟩ allowed
  exact all.2

/-- A call that is over before the manager got through to its FIFO is never
run, whatever happens later. -/
theorem given_up_calls_never_run (plugin : SsuPluginOps PluginState)
    (pluginName : CString) (start : ApiState PluginState)
    (events later : List Event) (call : Call)
    (allowed : Transition.Admissible (step plugin pluginName) Allowed
      (initial start) (events ++ later)) :
    let before := Transition.run (step plugin pluginName) (initial start)
      events
    let after := Transition.run (step plugin pluginName) before later
    Over (before.calls call) →
      (∀ execution ∈ before.executed, execution.responsePath ≠ call.path) →
      (∀ command, before.server ≠ .connected call.path command) →
      ∀ execution ∈ after.executed, execution.responsePath ≠ call.path := by
  intro before after ended unrun apart
  have sound : Sound plugin pluginName start before :=
    sound_run allowed.append.1
  have missed : Missed before call := ⟨ended, unrun, apart⟩
  exact (missed.run sound allowed.append.2).unrun

/-- A call that is over when the manager comes to its line. -/
def abandonedCall : List Event :=
  [.create 100 listCommand true, .send ⟨100, 0⟩ none,
    .openResponse ⟨100, 0⟩ true, .finish ⟨100, 0⟩ false]

theorem given_up_calls_never_run_abandoned :
    let plugin := Controller.acceptingPlugin [Controller.oneSsu]
    let before := Transition.run (step plugin "mock".toList)
      (initial (.initial ())) abandonedCall
    let after := Transition.run (step plugin "mock".toList) before
      [.unlink ⟨100, 0⟩, .read 4096, .take, .run]
    Over (before.calls ⟨100, 0⟩) ∧
      ∀ execution ∈ after.executed,
        execution.responsePath ≠ Call.path ⟨100, 0⟩ :=
  ⟨trivial, given_up_calls_never_run
    (Controller.acceptingPlugin [Controller.oneSsu]) "mock".toList
    (.initial ()) abandonedCall [.unlink ⟨100, 0⟩, .read 4096, .take, .run]
    ⟨100, 0⟩ (by decide) trivial (fun _ member => by cases member)
    (fun _ connected => by cases connected)⟩

/-- A manager in `open` serves anybody again if and only if the call whose line
it has taken is still about to open its FIFO; otherwise it hangs for good. -/
theorem waiting_manager_recovers_iff (plugin : SsuPluginOps PluginState)
    (pluginName : CString) (start : ApiState PluginState)
    (events : List Event) (responsePath command : CString)
    (allowed : Transition.Admissible (step plugin pluginName) Allowed
      (initial start) events)
    (waiting : (Transition.run (step plugin pluginName) (initial start)
      events).server = .opening responsePath command) :
    let before := Transition.run (step plugin pluginName) (initial start)
      events
    (∃ later,
        Transition.Admissible (step plugin pluginName) Allowed before later ∧
        (Transition.run (step plugin pluginName) before later).executed ≠
          before.executed) ↔
      ∃ call own, call.path = responsePath ∧
        before.calls call = .sent own := by
  intro before
  have sound : Sound plugin pluginName start before := sound_run allowed
  constructor
  · rintro ⟨later, admissible, moved⟩
    have serves := sound.server
    rw [waiting] at serves
    obtain ⟨held, pair, holding, silent⟩ := serves
    obtain ⟨rfl, rfl⟩ := Prod.mk.inj pair.symm
    have past := sound.queued held holding.sent
    have fits := sound.fits held.1 (sound.small_of_sent holding.sent)
    have hangs : Over (before.calls held.1) → False := by
      intro ended
      have stuck : Stuck before held.1 held.2.text := ⟨ended, waiting⟩
      exact moved (stuck.run sound admissible).2
    cases phase : before.calls held.1 with
    | fresh =>
        rw [phase] at past
        exact past.elim
    | created own =>
        rw [phase] at past
        exact past.elim
    | sent own => exact ⟨held.1, own, rfl, phase⟩
    | reading own received =>
        rw [phase] at fits
        have reads : (before.files held.1.path).reading = true := fits.2.1
        have closed : (before.files held.1.path).reading = false := silent
        rw [reads] at closed
        cases closed
    | closing own result =>
        exact (hangs (by rw [phase]; trivial)).elim
    | returned own result =>
        exact (hangs (by rw [phase]; trivial)).elim
  · rintro ⟨call, own, rfl, current⟩
    refine ⟨[.openResponse call true, .run], ⟨trivial, trivial, trivial⟩, ?_⟩
    have connected : (openResponse before call true).server =
        .connected call.path command := by
      unfold openResponse
      simp only [current, if_true]
      rw [show before.server = .opening call.path command from waiting, wake,
        if_pos rfl]
    have same : (openResponse before call true).executed = before.executed := by
      unfold openResponse
      simp only [current, if_true]
      rfl
    change (run plugin pluginName (openResponse before call true)).executed ≠ _
    rw [(run_of_connected connected).1, same]
    simp

def hungEvents : List Event := abandonedCall ++ [.read 4096, .take]

/-- The client has closed its FIFO but not yet unlinked it when the manager
opens it. -/
def hung : Parties Unit :=
  Transition.run
    (step (Controller.acceptingPlugin [Controller.oneSsu]) "mock".toList)
    (initial (.initial ())) hungEvents

theorem waiting_manager_recovers_iff_hung :
    ¬∃ later,
      Transition.Admissible
        (step (Controller.acceptingPlugin [Controller.oneSsu]) "mock".toList)
        Allowed hung later ∧
      (Transition.run
        (step (Controller.acceptingPlugin [Controller.oneSsu]) "mock".toList)
        hung later).executed ≠ hung.executed := by
  have allowed : Transition.Admissible
      (step (Controller.acceptingPlugin [Controller.oneSsu]) "mock".toList)
      Allowed (initial (.initial ())) hungEvents := by
    decide
  have waiting : hung.server =
      .opening (Call.path ⟨100, 0⟩) listCommand.text := by
    decide
  have ended : Over (hung.calls ⟨100, 0⟩) := by decide
  have sound : Sound (Controller.acceptingPlugin [Controller.oneSsu])
      "mock".toList (.initial ()) hung := sound_run allowed
  exact (waiting_manager_recovers_iff
    (Controller.acceptingPlugin [Controller.oneSsu]) "mock".toList
    (.initial ()) hungEvents (Call.path ⟨100, 0⟩) listCommand.text allowed
    waiting).not.mpr (sound.noneOpening ended)

end GivenUp

end UbseSsu.Exchange

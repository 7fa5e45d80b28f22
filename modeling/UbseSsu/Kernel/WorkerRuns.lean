import UbseSsu.Kernel.WorkerTurns

/-!
# Runs of one worker

Undisturbed, the turns of a worker are `ssu_reqshim_rq_workfn`.  Disturbed or
not, every request that `ssu_reqshim_queue_rq` has started is ended exactly
once, after a number of turns that depends on its segments alone.
-/

namespace UbseSsu.Kernel.Workers

variable {Bdev : Type} [DecidableEq Bdev] (bdevOf : MapEntry → Bdev)

section Alone

/-- Some turns of one tag lead from a machine to another one. -/
def Leads (tag : Nat) (machine final : Machine Bdev) : Prop :=
  ∃ answers, Transition.run
    (fun machine answer => turn bdevOf tag answer machine) machine answers =
      final

def atPlace (machine : Machine Bdev) (tag : Nat) (rq : Request)
    (storage : Storage Bdev) (place : Place) : Machine Bdev :=
  { machine with
    disks := storage.disks
    works := Function.update machine.works tag
      (some { rq, pages := storage.pages, place }) }

def atEnd (machine : Machine Bdev) (tag : Nat) (rq : Request)
    (storage : Storage Bdev) (status : BlkStatus) : Machine Bdev :=
  { machine with
    disks := storage.disks
    works := Function.update machine.works tag none
    ended := ⟨tag, rq, status, storage.pages⟩ :: machine.ended }

variable {bdevOf} {machine middle final : Machine Bdev} {tag : Nat}
  {rq : Request} {storage next : Storage Bdev} {place : Place}

theorem Leads.refl (tag : Nat) (machine : Machine Bdev) :
    Leads bdevOf tag machine machine :=
  ⟨[], rfl⟩

theorem Leads.trans (first : Leads bdevOf tag machine middle)
    (second : Leads bdevOf tag middle final) :
    Leads bdevOf tag machine final := by
  obtain ⟨early, rfl⟩ := first
  obtain ⟨late, rfl⟩ := second
  exact ⟨early ++ late, Transition.run_append _ _ _ _⟩

omit [DecidableEq Bdev] in
theorem atPlace_works :
    (atPlace machine tag rq storage place).works tag =
      some { rq, pages := storage.pages, place } :=
  Function.update_self ..

omit [DecidableEq Bdev] in
theorem atEnd_works {status : BlkStatus} :
    (atEnd machine tag rq storage status).works tag = none :=
  Function.update_self ..

/-- A turn that reaches another place. -/
theorem Leads.reached {answer : BioAnswer} {later : Place}
    (turns : RqWork.turn bdevOf machine.kernel answer storage.disks
      { rq, pages := storage.pages, place } = (.reached later, next)) :
    Leads bdevOf tag (atPlace machine tag rq storage place)
      (atPlace machine tag rq next later) := by
  refine ⟨[answer], ?_⟩
  simp only [Transition.run_cons, Transition.run_nil, turn, atPlace_works]
  simp only [atPlace, turns, Function.update_idem]

theorem Leads.ended {answer : BioAnswer} {status : BlkStatus}
    (turns : RqWork.turn bdevOf machine.kernel answer storage.disks
      { rq, pages := storage.pages, place } = (.ended status, next)) :
    Leads bdevOf tag (atPlace machine tag rq storage place)
      (atEnd machine tag rq next status) := by
  refine ⟨[answer], ?_⟩
  simp only [Transition.run_cons, Transition.run_nil, turn, atPlace_works]
  simp only [atPlace, atEnd, turns, Function.update_idem]

variable (answers : Storage Bdev → Chunk → BioAnswer)

/-- The block layer as a function of what it is given. -/
def answered (bdevOf : MapEntry → Bdev)
    (answers : Storage Bdev → Chunk → BioAnswer) (storage : Storage Bdev)
    (chunk : Chunk) : BlkStatus × Storage Bdev :=
  physSubmitBvec bdevOf (answers storage chunk) chunk storage

theorem nextChunk_failed {kernel : KernelState} {minor bytesLeft : Nat}
    {sector : UInt64} {status : BlkStatus}
    (stopped : nextChunk minor sector bytesLeft kernel = .error status) :
    status ≠ .ok := by
  rintro rfl
  unfold nextChunk at stopped
  split at stopped
  · rename_i errno _
    cases errno <;> cases stopped
  · split at stopped
    · cases stopped
    · simp only at stopped
      split at stopped <;> cases stopped

variable (bdevOf)

/-- A chunk that is submitted ends the request or the round. -/
theorem leads_submission (machine : Machine Bdev) (tag : Nat) (rq : Request)
    (segments : List BioVec) (done : Nat) (sector : UInt64) (chunk : Chunk)
    (storage : Storage Bdev) :
    let result := answered bdevOf answers storage chunk
    Leads bdevOf tag
      (atPlace machine tag rq storage (.submitting segments done sector chunk))
      (if result.1 = .ok then
        atPlace machine tag rq result.2 (.cutting segments (done + chunk.len)
          (sector + UInt64.ofNat (chunk.len / sectorSize)))
      else atEnd machine tag rq result.2 result.1) := by
  intro result
  have turned : RqWork.turn bdevOf machine.kernel (answers storage chunk)
      storage.disks
        { rq
          pages := storage.pages
          place := .submitting segments done sector chunk } =
      (submitted segments done sector chunk result.1, result.2) :=
    rfl
  cases replied : result.1 with
  | ok =>
      rw [replied] at turned
      exact Leads.reached turned
  | resource | notsupp | ioerr =>
      rw [replied] at turned
      exact Leads.ended turned

/-- The rest of a segment, chunk by chunk. -/
theorem leads_chunks (machine : Machine Bdev) (tag : Nat) (rq : Request)
    {bvec : BioVec} (aligned : bvec.len.toNat % sectorSize = 0)
    (segments : List BioVec) (done : Nat) (sector : UInt64)
    (storage : Storage Bdev) :
    let result := submitChunks (answered bdevOf answers) machine.kernel
      (slotMinor machine.kernel rq) rq.cmdFlags bvec sector done storage
    Leads bdevOf tag
      (atPlace machine tag rq storage (.cutting (bvec :: segments) done sector))
      (if result.status = .ok then
        atPlace machine tag rq result.device
          (.cutting segments 0 result.logicalSector)
      else atEnd machine tag rq result.device result.status) := by
  obtain ⟨left, counted⟩ : ∃ left, left = bvec.len.toNat - done := ⟨_, rfl⟩
  induction left using Nat.strong_induction_on
    generalizing done sector storage with
  | _ left induction =>
      have checked : ¬(done = 0 ∧ bvec.len.toNat % sectorSize ≠ 0) :=
        fun both => both.2 aligned
      by_cases finished : bvec.len.toNat ≤ done
      · rw [submitChunks, if_pos finished]
        apply Leads.reached
        · simp only [RqWork.turn, cut, if_neg checked, if_pos finished]
        · exact .done
      · cases next : nextChunk (slotMinor machine.kernel rq) sector
          (bvec.len.toNat - done) machine.kernel with
        | error status =>
            rw [submitChunks_stop finished next]
            simp only [if_neg (nextChunk_failed next)]
            apply Leads.ended
            · simp only [RqWork.turn, cut, if_neg checked, if_neg finished,
                next]
            · exact .done
        | ok piece =>
            obtain ⟨entry, physSector, bytes⟩ := piece
            obtain ⟨some, few⟩ := nextChunk_size next
            have submits : Leads bdevOf tag
                (atPlace machine tag rq storage
                  (.cutting (bvec :: segments) done sector))
                (atPlace machine tag rq storage
                  (.submitting (bvec :: segments) done sector
                    (bvec.chunk entry physSector rq.cmdFlags done
                      bytes))) := by
              apply Leads.reached
              · simp only [RqWork.turn, cut, if_neg checked,
                  if_neg finished, next]
              · exact .done
            apply submits.trans
            have round := leads_submission bdevOf answers machine tag rq
              (bvec :: segments) done sector
              (bvec.chunk entry physSector rq.cmdFlags done bytes) storage
            rw [submitChunks_chunk finished next]
            simp only at round ⊢
            generalize answered bdevOf answers storage
              (bvec.chunk entry physSector rq.cmdFlags done bytes) = replied
              at round ⊢
            obtain ⟨status, after⟩ := replied
            cases status with
            | ok =>
                apply round.trans
                exact induction _ (by omega) (done + bytes) _ after rfl
            | resource | notsupp | ioerr => exact round

/-- The segments of a request, one after the other. -/
theorem leads_segments (machine : Machine Bdev) (tag : Nat) (rq : Request)
    (segments : List BioVec) (sector : UInt64) (storage : Storage Bdev) :
    let result := submitSegments (answered bdevOf answers) machine.kernel
      (slotMinor machine.kernel rq) rq.cmdFlags segments sector storage
    Leads bdevOf tag
      (atPlace machine tag rq storage (.cutting segments 0 sector))
      (atEnd machine tag rq result.device result.status) := by
  induction segments generalizing sector storage with
  | nil =>
      apply Leads.ended
      · rfl
      · exact .done
  | cons bvec segments induction =>
      rw [submitSegments, submitBvec]
      by_cases aligned : bvec.len.toNat % sectorSize = 0
      · have first := leads_chunks bdevOf answers machine tag rq aligned segments 0
          sector storage
        simp only [aligned, ne_eq, not_true_eq_false, if_false] at first ⊢
        generalize submitChunks (answered bdevOf answers) machine.kernel
          (slotMinor machine.kernel rq) rq.cmdFlags bvec sector 0 storage =
            result at first ⊢
        by_cases accepted : result.status = .ok
        · rw [if_pos accepted] at first
          rw [if_neg (not_not.mpr accepted)]
          exact first.trans (induction _ _)
        · rw [if_neg accepted] at first
          rw [if_pos accepted]
          exact first
      · have failed : BlkStatus.ioerr ≠ .ok := fun same => by cases same
        simp only [if_pos aligned, if_pos failed]
        apply Leads.ended
        · simp only [RqWork.turn, cut, true_and, ne_eq, aligned,
            not_false_eq_true, if_true]
        · exact .done

/-- Undisturbed, the turns of a worker are `ssu_reqshim_rq_workfn`. -/
theorem leads_rqWorkfn (machine : Machine Bdev) (tag : Nat) (rq : Request)
    (storage : Storage Bdev) :
    let result := rqWorkfn (answered bdevOf answers) machine.kernel rq storage
    Leads bdevOf tag (atPlace machine tag rq storage .queued)
      (atEnd machine tag rq result.device result.status) := by
  intro result
  cases active : rq.slot.bind machine.kernel.logdevs.get with
  | none =>
      simp only [result, rqWorkfn, active]
      apply Leads.ended
      · simp only [RqWork.turn, start, active]
      · exact .done
  | some req =>
      have minor : slotMinor machine.kernel rq = req.minor := by
        rw [slotMinor, active, Option.map_some, Option.getD_some]
      by_cases passthrough : rq.passthrough = true
      · simp only [result, rqWorkfn, active, if_pos passthrough]
        apply Leads.ended
        · simp only [RqWork.turn, start, active, if_pos passthrough]
        · exact .done
      · by_cases unsupported : rq.op ≠ .read ∧ rq.op ≠ .write
        · simp only [result, rqWorkfn, active, if_neg passthrough,
            if_pos unsupported]
          apply Leads.ended
          · simp only [RqWork.turn, start, active, if_neg passthrough,
              if_pos unsupported]
          · exact .done
        · have started : Leads bdevOf tag
              (atPlace machine tag rq storage .queued)
              (atPlace machine tag rq storage
                (.cutting rq.segments 0 rq.pos)) := by
            apply Leads.reached
            · simp only [RqWork.turn, start, active, if_neg passthrough,
                if_neg unsupported]
            · exact .done
          have segments := leads_segments bdevOf answers machine tag rq rq.segments
            rq.pos storage
          rw [minor] at segments
          simp only [result, rqWorkfn, active, if_neg passthrough,
            if_neg unsupported]
          exact started.trans segments

end Alone

section Device

variable {bdevOf} {machine initial : Machine Bdev} {tag : Nat}
  {rq : Request} {pages : Pages}

/-- What holds of a request that runs alone, from its start to its end. -/
structure RunsAlone (bdevOf : MapEntry → Bdev) (initial : Machine Bdev)
    (tag : Nat) (rq : Request) (pages : Pages) (machine : Machine Bdev) :
    Prop where
  kernel : machine.kernel = initial.kernel
  changes : ChangesOnly bdevOf initial.kernel rq initial.disks machine.disks
  inFlight : ∀ work, machine.works tag = some work → work.rq = rq ∧
    WorkSound bdevOf initial.kernel machine.disks .nothing work ∧
    (rq.op = .write → work.pages = pages) ∧ machine.ended = initial.ended
  ended : machine.works tag = none → ∃ status after,
    machine.ended = ⟨tag, rq, status, after⟩ :: initial.ended ∧
    (rq.op = .write → after = pages) ∧
    (status = .ok → ∃ minor, rq.slot = some minor ∧
      Carried bdevOf initial.kernel machine.disks minor rq after
        (sectorsOf rq))

theorem RunsAlone.turn (apart : ExtentsApart bdevOf initial.kernel)
    (keyed : ∀ minor req, initial.kernel.logdevs.get minor = some req →
      req.minor = minor)
    (alone : RunsAlone bdevOf initial tag rq pages machine)
    (answer : BioAnswer) :
    RunsAlone bdevOf initial tag rq pages (turn bdevOf tag answer machine) := by
  cases flies : machine.works tag with
  | none =>
      simp only [Workers.turn, flies]
      exact alone
  | some work =>
      obtain ⟨rfl, sound, memory, ended⟩ := alone.inFlight work flies
      have result := sound.turn apart keyed answer
      simp only [Workers.turn, flies, alone.kernel]
      generalize work.turn bdevOf initial.kernel answer machine.disks = after
        at result ⊢
      have changes : ChangesOnly bdevOf initial.kernel work.rq initial.disks
          after.2.disks := by
        intro minor sector elsewhere
        rw [result.changes minor sector elsewhere,
          alone.changes minor sector elsewhere]
      have kept : work.rq.op = .write → after.2.pages = pages := by
        intro writes
        rw [result.memory writes, memory writes]
      obtain ⟨progress, storage⟩ := after
      cases progress with
      | reached place =>
          constructor
          · rfl
          · exact changes
          · intro next same
            simp only [Function.update_self, Option.some.injEq] at same
            subst same
            exact ⟨rfl, result.reached place rfl, kept, ended⟩
          · intro same
            simp only [Function.update_self] at same
            cases same
      | ended status =>
          constructor
          · rfl
          · exact changes
          · intro next same
            simp only [Function.update_self] at same
            cases same
          · intro _
            refine ⟨status, storage.pages, ?_, kept, ?_⟩
            · simp only [ended]
            · rintro rfl
              exact result.ended rfl

/-- A machine with nothing in flight. -/
def Machine.idle (kernel : KernelState) (disks : Bdev → List UInt8) :
    Machine Bdev :=
  { kernel
    disks
    works := fun _ => none
    ended := [] }

/-- What the users of the ioctls keep to. -/
def AddsAllApart (bdevOf : MapEntry → Bdev) (requests : List Ioctl) : Prop :=
  Transition.Admissible ioctlStep
    (fun kernel request => ∀ entry, request = .mapAdd entry →
      AddsApart bdevOf kernel entry) .loaded requests

omit [DecidableEq Bdev] in
theorem extentsApart_run {requests : List Ioctl}
    (apart : AddsAllApart bdevOf requests) :
    ExtentsApart bdevOf (Transition.run ioctlStep .loaded requests) :=
  Transition.run_invariant (ExtentsApart bdevOf)
    (fun _ _ apart keeps => extentsApart_step apart keeps)
    extentsApart_loaded apart

theorem keyed_run (requests : List Ioctl) :
    ∀ minor req,
      (Transition.run ioctlStep .loaded requests).logdevs.get minor =
        some req → req.minor = minor := by
  apply Transition.run_invariant_always fun kernel : KernelState =>
    ∀ minor req, kernel.logdevs.get minor = some req → req.minor = minor
  · intro kernel request keyed
    exact keyed_step keyed request
  · intro minor req live
    simp [KernelState.loaded] at live

/-- A logical device is a disk.  However the block layer answers, a request
changes no sectors but those it writes, and leaves what it writes alone in
memory; when it ends with `BLK_STS_OK` its sectors and its memory hold the
same. -/
theorem rqWorkfn_is_a_disk {requests : List Ioctl}
    (apart : AddsAllApart bdevOf requests)
    (answers : Storage Bdev → Chunk → BioAnswer) {rq : Request}
    (wellFormed : WellFormed rq) (storage : Storage Bdev) :
    let kernel := Transition.run ioctlStep .loaded requests
    let result := rqWorkfn (answered bdevOf answers) kernel rq storage
    (∀ minor sector, (rq.op = .write → ¬Asks rq minor sector) →
      logicalBlock bdevOf kernel result.device.disks minor sector =
        logicalBlock bdevOf kernel storage.disks minor sector) ∧
    (rq.op = .write → result.device.pages = storage.pages) ∧
    (result.status = .ok → ∀ minor sector, Asks rq minor sector →
      logicalBlock bdevOf kernel result.device.disks minor sector =
        some (sectorOf rq result.device.pages sector)) := by
  intro kernel result
  have safe : ExtentsApart bdevOf kernel := extentsApart_run apart
  have start : RunsAlone bdevOf (.idle kernel storage.disks) 0 rq
      storage.pages
      (atPlace (.idle kernel storage.disks) 0 rq storage .queued) := by
    constructor
    · rfl
    · exact .refl _ _
    · intro work same
      rw [atPlace_works] at same
      cases same
      refine ⟨rfl, ⟨wellFormed, fun _ _ _ _ => rfl, ?_⟩, fun _ => rfl, rfl⟩
      intro started
      exact (started rfl).elim
    · intro none
      rw [atPlace_works] at none
      cases none
  obtain ⟨turns, ended⟩ := leads_rqWorkfn bdevOf answers
    (.idle kernel storage.disks) 0 rq storage
  have final := Transition.run_invariant_always
    (RunsAlone bdevOf (.idle kernel storage.disks) 0 rq storage.pages)
    (fun _ answer alone => alone.turn safe (keyed_run requests) answer) start
    turns
  rw [ended] at final
  obtain ⟨status, after, last, memory, carried⟩ := final.ended atEnd_works
  cases last
  refine ⟨final.changes, memory, ?_⟩
  intro accepted minor sector asks
  obtain ⟨own, slot, held⟩ := carried accepted
  exact held.held slot asks

theorem addsAllApart_eightSectorMap : AddsAllApart pathOf
    [.logdevCreate eightSectors none, .mapAdd eightSectorMap] := by
  refine ⟨(fun entry same => by cases same), fun entry same => ?_, trivial⟩
  cases same
  exact eightSectorMap_apart

def emptyDisks : Storage CString :=
  ⟨fun _ => 7, fun _ => []⟩

theorem rqWorkfn_is_a_disk_firstSector :
    let kernel := Transition.run ioctlStep .loaded
      [.logdevCreate eightSectors none, .mapAdd eightSectorMap]
    let result := rqWorkfn (answered pathOf fun _ _ => .done) kernel
      firstSectorWrite emptyDisks
    (∀ minor sector,
      (firstSectorWrite.op = .write → ¬Asks firstSectorWrite minor sector) →
        logicalBlock pathOf kernel result.device.disks minor sector =
          logicalBlock pathOf kernel emptyDisks.disks minor sector) ∧
    (firstSectorWrite.op = .write →
      result.device.pages = emptyDisks.pages) ∧
    (result.status = .ok → ∀ minor sector,
      Asks firstSectorWrite minor sector →
        logicalBlock pathOf kernel result.device.disks minor sector =
          some (sectorOf firstSectorWrite result.device.pages sector)) :=
  rqWorkfn_is_a_disk addsAllApart_eightSectorMap (fun _ _ => .done)
    firstSectorWrite_wellFormed emptyDisks

end Device

section Once

variable {bdevOf}

/-- The turns that a request needs at most from a place on. -/
def segmentsBudget : List BioVec → Nat → Nat
  | [], _ => 1
  | bvec :: segments, done =>
      2 * (bvec.len.toNat - done) + 1 + segmentsBudget segments 0

def Place.budget (rq : Request) : Place → Nat
  | .queued => segmentsBudget rq.segments 0 + 1
  | .cutting segments done _ => segmentsBudget segments done
  | .submitting segments done _ chunk =>
      segmentsBudget segments (done + chunk.len) + 1

theorem start_budget {kernel : KernelState} {rq : Request} {place : Place}
    (reached : start kernel rq = .reached place) :
    place.budget rq < Place.budget rq .queued := by
  unfold start at reached
  split at reached
  · cases reached
  · split at reached
    · cases reached
    · split at reached
      · cases reached
      · cases reached
        exact Nat.lt_succ_self _

theorem cut_budget {kernel : KernelState} {rq : Request} {done : Nat}
    {sector : UInt64} {segments : List BioVec} {place : Place}
    (reached : cut kernel rq done sector segments = .reached place) :
    place.budget rq < Place.budget rq (.cutting segments done sector) := by
  cases segments with
  | nil => cases reached
  | cons bvec segments =>
      simp only [cut] at reached
      split at reached
      · cases reached
      · split at reached
        · cases reached
          simp only [Place.budget, segmentsBudget]
          omega
        · split at reached
          · cases reached
          · rename_i next
            cases reached
            obtain ⟨some, few⟩ := nextChunk_size next
            simp only [Place.budget, segmentsBudget, BioVec.chunk]
            omega

/-- Every turn that does not end a request uses its budget up. -/
theorem RqWork.turn_budget {kernel : KernelState} {answer : BioAnswer}
    {disks : Bdev → List UInt8} {work : RqWork} {place : Place}
    {storage : Storage Bdev}
    (turned : work.turn bdevOf kernel answer disks =
      (.reached place, storage)) :
    place.budget work.rq < work.place.budget work.rq := by
  unfold RqWork.turn at turned
  split at turned
  · rename_i at_place
    rw [at_place]
    exact start_budget (congrArg Prod.fst turned)
  · rename_i at_place
    rw [at_place]
    exact cut_budget (congrArg Prod.fst turned)
  · rename_i segments done sector chunk at_place
    have progress := congrArg Prod.fst turned
    simp only at progress
    unfold submitted at progress
    split at progress
    · cases progress
      rw [at_place]
      exact Nat.lt_succ_self _
    · cases progress

/-- The tags that the block layer hands out are free. -/
def FreeTag (machine : Machine Bdev) : Event → Prop
  | .queueRq tag _ _ _ => machine.works tag = none
  | _ => True

/-- The request that an event starts under a tag. -/
def startedAt (tag : Nat) : Event → Option Request
  | .queueRq other rq _ allocated =>
      if other = tag ∧ allocated then some rq else none
  | _ => none

def endedAt (tag : Nat) (ended : Ended) : Option Request :=
  if ended.tag = tag then some ended.rq else none

def turnsOf (tag : Nat) (event : Event) : Bool :=
  match event with
  | .turn other _ => other = tag
  | _ => false

/-- The requests of a tag: those that have ended, and the one in flight. -/
def history (tag : Nat) (machine : Machine Bdev) : List Request :=
  machine.ended.reverse.filterMap (endedAt tag) ++
    ((machine.works tag).map RqWork.rq).toList

variable {machine : Machine Bdev} {tag : Nat} {event : Event}

/-- What a turn of another tag shows of this one. -/
theorem turn_other {other : Nat} {answer : BioAnswer}
    (different : tag ≠ other) :
    (turn bdevOf other answer machine).works tag = machine.works tag ∧
      history tag (turn bdevOf other answer machine) =
        history tag machine := by
  cases inFlight : machine.works other with
  | none =>
      simp only [turn, inFlight, and_self]
  | some work =>
      simp only [turn, inFlight]
      split
      · refine ⟨Function.update_of_ne different _ _, ?_⟩
        simp only [history, Function.update_of_ne different]
      · refine ⟨Function.update_of_ne different _ _, ?_⟩
        simp only [history, Function.update_of_ne different,
          List.reverse_cons, List.filterMap_append, List.filterMap_cons,
          List.filterMap_nil, endedAt, if_neg different.symm,
          List.append_nil]

theorem turn_own {work : RqWork} (inFlight : machine.works tag = some work)
    (answer : BioAnswer) :
    history tag (turn bdevOf tag answer machine) = history tag machine := by
  simp only [turn, inFlight]
  split
  · simp only [history, Function.update_self, inFlight, Option.map_some]
  · simp only [history, Function.update_self, inFlight, Option.map_some,
      Option.map_none, Option.toList_none, Option.toList_some,
      List.reverse_cons, List.filterMap_append, List.filterMap_cons,
      List.filterMap_nil, endedAt, if_true, List.append_nil]

theorem history_step (free : FreeTag machine event) (tag : Nat) :
    history tag (step bdevOf machine event) =
      history tag machine ++ (startedAt tag event).toList := by
  cases event with
  | ioctl request =>
      simp only [startedAt, Option.toList_none, List.append_nil]
      rfl
  | turn other answer =>
      simp only [startedAt, Option.toList_none, List.append_nil, step]
      by_cases same : tag = other
      · subst same
        cases inFlight : machine.works tag with
        | none => simp only [turn, inFlight]
        | some work => exact turn_own inFlight answer
      · exact (turn_other same).2
  | queueRq other rq pages allocated =>
      cases allocated with
      | false =>
          simp only [startedAt, Bool.false_eq_true, and_false, if_false,
            Option.toList_none, List.append_nil]
          rfl
      | true =>
          by_cases same : other = tag
          · subst same
            simp only [FreeTag] at free
            simp only [startedAt, step, queueRq, history, Bool.not_true,
              Bool.false_eq_true, if_false, and_true, if_true, free,
              Function.update_self, Option.map_none, Option.map_some,
              Option.toList_none, Option.toList_some, List.append_nil]
          · simp only [startedAt, step, queueRq, history, Bool.not_true,
              Bool.false_eq_true, if_false, if_neg same, and_true,
              Function.update_of_ne (Ne.symm same), Option.toList_none,
              List.append_nil]

theorem history_run {events : List Event}
    (free : Transition.Admissible (step bdevOf) FreeTag machine events)
    (tag : Nat) :
    history tag (Transition.run (step bdevOf) machine events) =
      history tag machine ++ events.filterMap (startedAt tag) := by
  induction events generalizing machine with
  | nil => exact (List.append_nil _).symm
  | cons event events induction =>
      rw [Transition.run_cons, induction free.2, history_step free.1,
        List.append_assoc, List.filterMap_cons]
      cases startedAt tag event <;> rfl

theorem ended_mono {events : List Event} {ended : Ended}
    (before : ended ∈ machine.ended) :
    ended ∈ (Transition.run (step bdevOf) machine events).ended := by
  apply Transition.run_invariant_always fun machine : Machine Bdev =>
    ended ∈ machine.ended
  · intro machine event member
    cases event with
    | ioctl request => exact member
    | queueRq tag rq pages allocated =>
        simp only [step, queueRq]
        split <;> exact member
    | turn tag answer =>
        simp only [step, turn]
        split
        · exact member
        · split
          · exact member
          · exact List.mem_cons_of_mem _ member
  · exact before

/-- As many turns as its budget end a request, whatever else happens. -/
theorem ends_in_time {work : RqWork} {events : List Event}
    (inFlight : machine.works tag = some work)
    (free : Transition.Admissible (step bdevOf) FreeTag machine events)
    (turns : work.place.budget work.rq ≤ events.countP (turnsOf tag)) :
    ∃ status pages, ⟨tag, work.rq, status, pages⟩ ∈
      (Transition.run (step bdevOf) machine events).ended := by
  induction events generalizing machine work with
  | nil =>
      rw [List.countP_nil, Nat.le_zero] at turns
      obtain ⟨rq, pages, place⟩ := work
      cases place with
      | queued | submitting => cases turns
      | cutting segments done sector =>
          cases segments with
          | nil => cases turns
          | cons => simp [Place.budget, segmentsBudget] at turns
  | cons event events induction =>
      obtain ⟨first, later⟩ := free
      rw [List.countP_cons] at turns
      rw [Transition.run_cons]
      cases event with
      | ioctl request => exact induction inFlight later turns
      | queueRq other rq pages allocated =>
          have different : tag ≠ other := by
            rintro rfl
            rw [FreeTag, inFlight] at first
            cases first
          refine induction ?_ later turns
          simp only [step, queueRq]
          split
          · exact inFlight
          · simp only [Function.update_of_ne different]
            exact inFlight
      | turn other answer =>
          by_cases same : tag = other
          · subst same
            simp only [turnsOf, decide_true, if_true] at turns
            cases turned : work.turn bdevOf machine.kernel answer
              machine.disks with
            | mk progress storage =>
                cases progress with
                | reached place =>
                    have shrinks := RqWork.turn_budget turned
                    have next : (step bdevOf machine
                        (.turn tag answer)).works tag =
                          some { work with pages := storage.pages, place } := by
                      simp only [step, turn, inFlight, turned,
                        Function.update_self]
                    have ends := @induction _ _ next later
                    apply ends
                    simp only
                    omega
                | ended status =>
                    refine ⟨status, storage.pages, ended_mono ?_⟩
                    simp only [step, turn, inFlight, turned]
                    exact List.mem_cons_self
          · have different : ¬other = tag := fun other => same other.symm
            simp only [turnsOf, decide_eq_true_eq, if_neg different,
              Nat.add_zero] at turns
            refine induction ?_ later turns
            exact (turn_other same).1.trans inFlight

theorem budget_run (disks : Bdev → List UInt8) (events : List Event) :
    ∀ tag work, (Transition.run (step bdevOf) (Machine.loaded disks)
        events).works tag = some work →
      work.place.budget work.rq ≤ Place.budget work.rq .queued := by
  apply Transition.run_invariant_always fun machine : Machine Bdev =>
    ∀ tag work, machine.works tag = some work →
      work.place.budget work.rq ≤ Place.budget work.rq .queued
  · intro machine event bounded tag work inFlight
    cases event with
    | ioctl request => exact bounded tag work inFlight
    | queueRq other rq pages allocated =>
        simp only [step, queueRq] at inFlight
        split at inFlight
        · exact bounded tag work inFlight
        · by_cases same : tag = other
          · subst same
            simp only [Function.update_self, Option.some.injEq] at inFlight
            subst inFlight
            exact Nat.le_refl _
          · simp only [Function.update_of_ne same] at inFlight
            exact bounded tag work inFlight
    | turn other answer =>
        by_cases same : tag = other
        · subst same
          simp only [step, turn] at inFlight
          split at inFlight
          · exact bounded tag work inFlight
          · rename_i before flew
            split at inFlight
            · rename_i place storage turned
              simp only [Function.update_self, Option.some.injEq] at inFlight
              subst inFlight
              exact (RqWork.turn_budget turned).le.trans
                (bounded tag before flew)
            · simp only [Function.update_self] at inFlight
              cases inFlight
        · apply bounded tag work
          exact (turn_other same).1.symm.trans inFlight
  · intro tag work inFlight
    cases inFlight

theorem admissible_turns {events : List Event}
    (turns : ∀ event ∈ events, ∃ tag answer, event = .turn tag answer) :
    Transition.Admissible (step bdevOf) FreeTag machine events := by
  induction events generalizing machine with
  | nil => trivial
  | cons event events induction =>
      rw [List.forall_mem_cons] at turns
      obtain ⟨⟨tag, answer, rfl⟩, later⟩ := turns
      exact ⟨trivial, induction later⟩

/-- Every request that was started is ended once.  The requests of a tag end
in the order in which they were started, at most one of them is in flight, and
a budget that its segments fix ends it, however the turns and the ioctls are
interleaved and whatever the block layer answers. -/
theorem started_requests_end_once (disks : Bdev → List UInt8)
    {events later : List Event}
    (free : Transition.Admissible (step bdevOf) FreeTag (Machine.loaded disks)
      (events ++ later)) (tag : Nat) :
    let final := Transition.run (step bdevOf) (Machine.loaded disks) events
    events.filterMap (startedAt tag) =
      final.ended.reverse.filterMap (endedAt tag) ++
        ((final.works tag).map RqWork.rq).toList ∧
    ∀ work, final.works tag = some work →
      segmentsBudget work.rq.segments 0 + 1 ≤ later.countP (turnsOf tag) →
        ∃ status pages, ⟨tag, work.rq, status, pages⟩ ∈
          (Transition.run (step bdevOf) final later).ended := by
  intro final
  obtain ⟨early, late⟩ := free.append
  constructor
  · exact (history_run early tag).symm
  · intro work inFlight turns
    apply ends_in_time inFlight late
    exact (budget_run disks events tag work inFlight).trans turns

def twoStarted : List Event :=
  [.ioctl (.logdevCreate eightSectors none), .ioctl (.mapAdd eightSectorMap),
    .queueRq 0 firstSectorWrite (fun _ => 7) true,
    .queueRq 1 secondSectorWrite (fun _ => 9) true]

/-- The budget of one sector, with as many turns of the other request. -/
def sectorTurns : List Event :=
  (List.replicate 1027 [.turn 1 .done, .turn 0 .done]).flatten

theorem started_requests_end_once_twoStarted :
    let final := Transition.run (step pathOf) (Machine.loaded fun _ => [])
      twoStarted
    twoStarted.filterMap (startedAt 0) =
        final.ended.reverse.filterMap (endedAt 0) ++
          ((final.works 0).map RqWork.rq).toList ∧
      ∃ status pages, ⟨0, firstSectorWrite, status, pages⟩ ∈
        (Transition.run (step pathOf) final sectorTurns).ended := by
  intro final
  have free : Transition.Admissible (step pathOf) FreeTag
      (Machine.loaded fun _ => []) (twoStarted ++ sectorTurns) := by
    have started : Transition.Admissible (step pathOf) FreeTag
        (Machine.loaded fun _ => []) twoStarted :=
      ⟨trivial, trivial, rfl, rfl, trivial⟩
    refine started.join (admissible_turns fun event member => ?_)
    obtain ⟨round, repeated, listed⟩ := List.mem_flatten.mp member
    rw [List.eq_of_mem_replicate repeated] at listed
    simp only [List.mem_cons, List.not_mem_nil, or_false] at listed
    obtain rfl | rfl := listed
    · exact ⟨1, .done, rfl⟩
    · exact ⟨0, .done, rfl⟩
  obtain ⟨order, ends⟩ := started_requests_end_once (fun _ => []) free 0
  refine ⟨order, ends ⟨firstSectorWrite, fun _ => 7, .queued⟩ rfl ?_⟩
  decide +kernel

end Once

end UbseSsu.Kernel.Workers

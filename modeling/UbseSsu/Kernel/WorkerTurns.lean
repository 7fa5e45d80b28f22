import UbseSsu.Kernel.InFlight

/-!
# The turns of the workers

A turn of a worker changes the sectors of its own request at most, and a chunk
that is done carries its sectors over.  With what the other events keep this
is an invariant of every run, and reads return what was written last.
-/

namespace UbseSsu.Kernel.Workers

open Blocks Scatter

section Turns

variable {Bdev : Type} {bdevOf : MapEntry → Bdev} {kernel : KernelState}
  {disks : Bdev → List UInt8} {minor count more done : Nat} {rq : Request}
  {pages : Pages} {segments : List BioVec} {sector : UInt64} {chunk : Chunk}

theorem remaining_zero (segments : List BioVec) :
    remaining segments 0 = segments.flatMap BioVec.bytes := by
  cases segments with
  | nil => rfl
  | cons bvec later =>
      have same : bvec.offset + UInt32.ofNat 0 = bvec.offset :=
        UInt32.add_zero _
      rw [remaining, same, Nat.sub_zero, List.flatMap_cons, BioVec.bytes]

theorem remaining_finished {bvec : BioVec} {later : List BioVec}
    (finished : bvec.len.toNat ≤ done) :
    remaining (bvec :: later) done = remaining later 0 := by
  have none : bvec.len.toNat - done = 0 := by omega
  rw [remaining, none, remaining_zero]
  rfl

theorem remaining_drop {bvec : BioVec} {later : List BioVec} {bytes : Nat}
    (inside : done + bytes ≤ bvec.len.toNat) :
    (remaining (bvec :: later) done).drop bytes =
      remaining (bvec :: later) (done + bytes) := by
  have parted : bvec.len.toNat - done =
      bytes + (bvec.len.toNat - (done + bytes)) := by omega
  rw [remaining, remaining, parted, memoryBytes_append, List.append_assoc,
    List.drop_left' (memoryBytes_length _ _ _), UInt32.add_assoc,
    ← UInt32.ofNat_add]

theorem Reached.start (rq : Request) :
    Reached rq rq.segments 0 rq.pos 0 := by
  constructor
  · exact (UInt64.add_zero rq.pos).symm
  · exact rq.pos.toNat_lt
  · rw [Nat.zero_mul]
    exact Nat.zero_le _
  · rw [Nat.zero_mul, List.drop_zero, remaining_zero, memoryOf]
  · intro zero
    exact (zero rfl).elim

/-- A chunk of the first segment is cut where the worker stands. -/
theorem Reached.cut (fits : MinorFits kernel minor) {bvec : BioVec}
    {later : List BioVec} {bytes : Nat} {entry : MapEntry}
    {physSector : UInt64}
    (aligned : sectorSize ∣ bvec.len.toNat ∧ sectorSize ∣ done)
    (unfinished : done < bvec.len.toNat)
    (next : nextChunk minor sector (bvec.len.toNat - done) kernel =
      .ok (entry, physSector, bytes)) :
    ∃ more, Pending kernel minor rq (bvec :: later) done sector more
      (bvec.chunk entry physSector rq.cmdFlags done bytes) := by
  have left : 0 < bvec.len.toNat - done := by omega
  have whole : sectorSize ∣ bvec.len.toNat - done :=
    Nat.dvd_sub aligned.1 aligned.2
  rcases fits.nextChunk sector left whole with ⟨_, stopped⟩ |
    ⟨other, sectors, member, covered, nonempty, few, inside, going⟩
  · rw [next] at stopped
    cases stopped
  · rw [next] at going
    cases going
    have split := fits.chunk member covered bvec rq.cmdFlags done nonempty
      inside
    have parted : bvec.len.toNat - done = sectors * sectorSize +
        (bvec.len.toNat - done - sectors * sectorSize) := by omega
    have front : ∃ rest, remaining (bvec :: later) done =
        memoryBytes bvec.page (bvec.offset + UInt32.ofNat done)
          (sectors * sectorSize) ++ rest := by
      rw [remaining, parted, memoryBytes_append, List.append_assoc]
      exact ⟨_, rfl⟩
    obtain ⟨rest, front⟩ := front
    have aimed := (split.extend rest).aimed fits nonempty
    rw [← front] at aimed
    refine ⟨sectors, aimed, rfl, bvec, later, rfl, aligned.1, aligned.2, ?_⟩
    rw [aimed.len]
    omega

theorem Reached.submitted (reached : Reached rq segments done sector count)
    (pending : Pending kernel minor rq segments done sector more chunk) :
    Reached rq segments (done + chunk.len)
      (sector + UInt64.ofNat (chunk.len / sectorSize)) (count + more) := by
  obtain ⟨aimed, flags, bvec, later, rfl, lenAligned, doneAligned, inside⟩ :=
    pending
  have room := aimed.inside
  have noWrap := aimed.noWrap
  rw [reached.sector, ofNat_toNat_add reached.noWrap] at noWrap
  have whole : chunk.len / sectorSize = more := by
    rw [aimed.len]
    exact Nat.mul_div_cancel more (by decide)
  rw [← reached.rest, List.length_drop] at room
  have before := reached.inside
  constructor
  · rw [reached.sector, whole, UInt64.ofNat_add, UInt64.add_assoc]
  · omega
  · rw [Nat.add_mul]
    exact Nat.add_le_of_le_sub' before room
  · rw [Nat.add_mul, ← List.drop_drop, reached.rest, ← aimed.len,
      remaining_drop inside]
  · intro _
    refine ⟨?_, ?_⟩
    · rw [aimed.len]
      exact (Nat.dvd_add_right doneAligned).mpr (Nat.dvd_mul_left _ _)
    · intro other rest same
      cases same
      exact lenAligned

/-- The memory of the next sectors is the memory of the chunk. -/
theorem Reached.slice (reached : Reached rq segments done sector count)
    (aimed : Aimed kernel minor sector (remaining segments done) more chunk)
    {index : Nat} (small : index < more) :
    Blocks.slice (memoryOf rq) sectorSize (count + index) =
      Blocks.slice chunk.bytes sectorSize index := by
  rw [← slice_drop, reached.rest, aimed.bytes, slice_take _ small]

theorem Reached.sector_eq (reached : Reached rq segments done sector count)
    (index : Nat) :
    rq.pos + UInt64.ofNat (count + index) = sector + UInt64.ofNat index := by
  rw [reached.sector, UInt64.ofNat_add, UInt64.add_assoc]

section Transfers

variable [DecidableEq Bdev]
  (reached : Reached rq segments done sector count)
  (pending : Pending kernel minor rq segments done sector more chunk)

include reached pending

theorem Pending.sector_add {index : Nat} (small : index < more) :
    (sector + UInt64.ofNat index).toNat = rq.pos.toNat + count + index := by
  have noWrap := pending.aimed.noWrap
  rw [ofNat_toNat_add (by omega), reached.sector,
    ofNat_toNat_add reached.noWrap]

/-- The bytes of a chunk that are written, right or wrong. -/
theorem Pending.changesOnly (apart : ExtentsApart bdevOf kernel)
    (slot : rq.slot = some minor) (writes : rq.op = .write)
    {bytes : List UInt8} (bounded : bytes.length ≤ chunk.len) :
    ChangesOnly bdevOf kernel rq disks
      (writeSectors bdevOf chunk bytes disks) := by
  intro otherMinor other unasked
  apply pending.aimed.unwritten apart disks bounded
  rintro rfl index small rfl
  have after := reached.submitted pending
  apply unasked writes
  rw [← reached.sector_eq index]
  exact asks_add slot after.noWrap after.inside (by omega)

theorem Carried.written (apart : ExtentsApart bdevOf kernel)
    (carried : Carried bdevOf kernel disks minor rq pages count) :
    Carried bdevOf kernel
      (writeSectors bdevOf chunk (chunk.bytes.map pages) disks) minor rq pages
      (count + more) := by
  have whole : (chunk.bytes.map pages).length = chunk.len := by
    rw [List.length_map, Chunk.bytes, memoryBytes_length]
  intro index small
  by_cases early : index < count
  · rw [pending.aimed.unwritten apart disks whole.le ?_]
    · exact carried index early
    · intro _ later few same
      have place := pending.sector_add reached few
      have noWrap := reached.noWrap
      rw [← same, ofNat_toNat_add (by omega)] at place
      omega
  · obtain ⟨later, rfl⟩ := Nat.exists_eq_add_of_le (Nat.le_of_not_lt early)
    have few : later < more := by omega
    rw [reached.sector_eq, pending.aimed.written disks whole few,
      slice_map, slice_map, reached.slice pending.aimed few]

omit [DecidableEq Bdev] in
theorem Carried.read (distinct : (memoryOf rq).Nodup)
    (carried : Carried bdevOf kernel disks minor rq pages count) :
    Carried bdevOf kernel disks minor rq
      (scatter pages chunk.bytes
        (ZeroFile.window (chunk.disk bdevOf disks)
          (chunk.physSector.toNat * sectorSize) chunk.len))
      (count + more) := by
  have own : ∀ address ∈ chunk.bytes,
      address ∈ (memoryOf rq).drop (count * sectorSize) := by
    intro address member
    rw [pending.aimed.bytes] at member
    rw [reached.rest]
    exact List.mem_of_mem_take member
  have chunkDistinct : chunk.bytes.Nodup := by
    rw [pending.aimed.bytes, ← reached.rest]
    exact (distinct.sublist (List.drop_sublist _ _)).sublist
      (List.take_sublist _ _)
  have sized : (ZeroFile.window (chunk.disk bdevOf disks)
      (chunk.physSector.toNat * sectorSize) chunk.len).length =
        chunk.bytes.length := by
    rw [ZeroFile.length_window, Chunk.bytes, memoryBytes_length]
  intro index small
  by_cases early : index < count
  · rw [carried index early, slice_map, slice_map, map_scatter_apart]
    intro address member also
    exact slice_apart _ distinct early address member (own address also)
  · obtain ⟨later, rfl⟩ := Nat.exists_eq_add_of_le (Nat.le_of_not_lt early)
    have few : later < more := by omega
    rw [reached.sector_eq, pending.aimed.logicalBlock disks few,
      slice_map, reached.slice pending.aimed few, ← slice_map,
      map_scatter chunkDistinct sized, pending.aimed.len, slice_window _ few]

end Transfers

section TurnSteps

variable [DecidableEq Bdev] {known : Known} {work : RqWork}

/-- What a turn leaves behind: changes of its own sectors, a place that is as
sound as the one before, and at the end of a request all of its sectors. -/
structure TurnSound (bdevOf : MapEntry → Bdev) (kernel : KernelState)
    (disks : Bdev → List UInt8) (known : Known) (work : RqWork)
    (result : Progress × Storage Bdev) : Prop where
  changes : ChangesOnly bdevOf kernel work.rq disks result.2.disks
  reached : ∀ place, result.1 = .reached place →
    WorkSound bdevOf kernel result.2.disks known
      { work with pages := result.2.pages, place }
  ended : result.1 = .ended .ok → ∃ minor, work.rq.slot = some minor ∧
    Carried bdevOf kernel result.2.disks minor work.rq result.2.pages
      (sectorsOf work.rq)
  memory : work.rq.op = .write → result.2.pages = work.pages

omit [DecidableEq Bdev] in
theorem ChangesOnly.refl (rq : Request) (disks : Bdev → List UInt8) :
    ChangesOnly bdevOf kernel rq disks disks :=
  fun _ _ _ => rfl

omit [DecidableEq Bdev] in
/-- A request that fails promises nothing more. -/
theorem TurnSound.failed {status : BlkStatus} (failed : status ≠ .ok)
    {storage : Storage Bdev}
    (changes : ChangesOnly bdevOf kernel work.rq disks storage.disks)
    (memory : work.rq.op = .write → storage.pages = work.pages) :
    TurnSound bdevOf kernel disks known work (.ended status, storage) := by
  constructor
  · exact changes
  · intro place same
    cases same
  · intro same
    cases same
    exact (failed rfl).elim
  · exact memory

theorem RqWork.turn_start (sound : WorkSound bdevOf kernel disks known work)
    (at_place : work.place = .queued) (answer : BioAnswer) :
    TurnSound bdevOf kernel disks known work
      (work.turn bdevOf kernel answer disks) := by
  rw [RqWork.turn, at_place]
  simp only [start]
  split
  · exact .failed (fun same => by cases same) (.refl _ _) fun _ => rfl
  · rename_i req active
    split
    · exact .failed (fun same => by cases same) (.refl _ _) fun _ => rfl
    · split
      · exact .failed (fun same => by cases same) (.refl _ _) fun _ => rfl
      · rename_i supported
        obtain ⟨minor, slot, live⟩ := Option.bind_eq_some_iff.mp active
        constructor
        · exact .refl _ _
        · intro place same
          cases same
          refine ⟨sound.wellFormed, sound.unknown, fun _ => ⟨minor, ?_⟩⟩
          constructor
          · exact slot
          · rw [live]
            rfl
          · by_contra neither
            exact supported (not_or.mp neither)
          · refine ⟨0, .start work.rq, ?_⟩
            intro index none
            cases none
        · intro same
          cases same
        · intro _
          rfl

omit [DecidableEq Bdev] in
theorem Running.slotMinor (running : Running bdevOf kernel disks work minor)
    (keyed : ∀ minor req, kernel.logdevs.get minor = some req →
      req.minor = minor) : slotMinor kernel work.rq = minor := by
  obtain ⟨req, live⟩ := Option.isSome_iff_exists.mp running.live
  rw [Workers.slotMinor, running.slot, Option.bind_some, live, Option.map_some,
    Option.getD_some, keyed minor req live]

theorem RqWork.turn_cut (apart : ExtentsApart bdevOf kernel)
    (keyed : ∀ minor req, kernel.logdevs.get minor = some req →
      req.minor = minor)
    (sound : WorkSound bdevOf kernel disks known work)
    (at_place : work.place = .cutting segments done sector)
    (answer : BioAnswer) :
    TurnSound bdevOf kernel disks known work
      (work.turn bdevOf kernel answer disks) := by
  obtain ⟨minor, running⟩ := sound.running fun queued => by
    rw [at_place] at queued
    cases queued
  have at_sound := running.place
  rw [at_place] at at_sound
  obtain ⟨count, reached, carried⟩ := at_sound
  rw [RqWork.turn, at_place]
  have goesOn : ∀ {place},
      PlaceSound bdevOf kernel disks minor work.rq work.pages place →
        TurnSound bdevOf kernel disks known work
          (.reached place, ⟨work.pages, disks⟩) := by
    intro place sound_place
    constructor
    · exact .refl _ _
    · intro other same
      cases same
      exact ⟨sound.wellFormed, sound.unknown, fun _ => ⟨minor, running.slot,
        running.live, running.transfers, sound_place⟩⟩
    · intro same
      cases same
    · intro _
      rfl
  cases segments with
  | nil =>
      have rest : (memoryOf work.rq).length - count * sectorSize = 0 := by
        rw [← List.length_drop, reached.rest]
        rfl
      have all : sectorsOf work.rq = count := by
        have inside := reached.inside
        have whole : (memoryOf work.rq).length = count * sectorSize := by
          omega
        rw [sectorsOf, whole]
        exact Nat.mul_div_cancel count (by decide)
      constructor
      · exact .refl _ _
      · intro place same
        cases same
      · intro _
        refine ⟨minor, running.slot, ?_⟩
        rw [all]
        exact carried
      · intro _
        rfl
  | cons bvec later =>
      simp only [cut, running.slotMinor keyed]
      split
      · exact .failed (fun same => by cases same) (.refl _ _) fun _ => rfl
      · rename_i checked
        split
        · rename_i finished
          apply goesOn
          refine ⟨count, ⟨reached.sector, reached.noWrap, reached.inside, ?_,
            fun zero => (zero rfl).elim⟩, carried⟩
          rw [reached.rest, remaining_finished finished]
        · rename_i unfinished
          have aligned : sectorSize ∣ bvec.len.toNat ∧ sectorSize ∣ done := by
            by_cases first : done = 0
            · subst first
              refine ⟨Nat.dvd_of_mod_eq_zero ?_, Nat.dvd_zero _⟩
              by_contra unaligned
              exact checked ⟨rfl, unaligned⟩
            · obtain ⟨doneAligned, lengths⟩ := reached.aligned first
              exact ⟨lengths bvec later rfl, doneAligned⟩
          have fits := apart.fit.minorFits minor
          split
          · rename_i status next
            refine .failed ?_ (.refl _ _) fun _ => rfl
            have whole := Nat.dvd_sub aligned.1 aligned.2
            rcases fits.nextChunk sector (by omega) whole with
              ⟨_, stopped⟩ | ⟨_, _, _, _, _, _, _, going⟩
            · rw [next] at stopped
              cases stopped
              exact fun same => by cases same
            · rw [next] at going
              cases going
          · rename_i entry physSector bytes next
            apply goesOn
            obtain ⟨more, pending⟩ := Reached.cut fits aligned
              (Nat.lt_of_not_le unfinished) next
            exact ⟨count, more, reached, carried, pending⟩

theorem RqWork.turn_submit (apart : ExtentsApart bdevOf kernel)
    (sound : WorkSound bdevOf kernel disks known work)
    (at_place : work.place = .submitting segments done sector chunk)
    (answer : BioAnswer) :
    TurnSound bdevOf kernel disks known work
      (work.turn bdevOf kernel answer disks) := by
  obtain ⟨minor, running⟩ := sound.running fun queued => by
    rw [at_place] at queued
    cases queued
  have at_sound := running.place
  rw [at_place] at at_sound
  obtain ⟨count, more, reached, carried, pending⟩ := at_sound
  have chunkOp : reqOp chunk.cmdFlags = work.rq.op := by
    rw [pending.flags, sound.wellFormed.op]
  have nonempty : chunk.len ≠ 0 := by
    have some := pending.aimed.some
    rw [pending.aimed.len]
    exact Nat.mul_ne_zero (by omega) (by decide)
  have goesOn : ∀ {storage : Storage Bdev},
      ChangesOnly bdevOf kernel work.rq disks storage.disks →
      Carried bdevOf kernel storage.disks minor work.rq storage.pages
        (count + more) →
      (work.rq.op = .write → storage.pages = work.pages) →
        TurnSound bdevOf kernel disks known work
          (submitted segments done sector chunk .ok, storage) := by
    intro storage changes next memory
    constructor
    · exact changes
    · intro place same
      cases same
      exact ⟨sound.wellFormed, sound.unknown, fun _ => ⟨minor, running.slot,
        running.live, running.transfers, count + more,
        reached.submitted pending, next⟩⟩
    · intro same
      cases same
    · exact memory
  rw [RqWork.turn, at_place]
  simp only [physSubmitBvec, if_neg nonempty]
  cases answer with
  | openFailed _ | noBio | noPage =>
      exact .failed (fun same => by cases same) (.refl _ _) fun _ => rfl
  | failed errno residue =>
      rcases running.transfers with reads | writes
      · simp only [Storage.deliver, chunkOp, reads]
        refine .failed (fun same => by cases same) (.refl _ _) fun writes => ?_
        rw [reads] at writes
        cases writes
      · simp only [Storage.deliver, chunkOp, writes]
        refine .failed (fun same => by cases same) ?_ fun _ => rfl
        exact pending.changesOnly reached apart running.slot writes
          (List.length_take_le _ _)
  | done =>
      rcases running.transfers with reads | writes
      · simp only [Storage.deliver, Storage.carried, chunkOp, reads]
        apply goesOn
        · exact .refl _ _
        · exact carried.read reached pending
            (sound.wellFormed.distinct reads)
        · intro writes
          rw [reads] at writes
          cases writes
      · simp only [Storage.deliver, Storage.carried, chunkOp, writes]
        apply goesOn
        · apply pending.changesOnly reached apart running.slot writes
          rw [List.length_map, Chunk.bytes, memoryBytes_length]
        · exact carried.written reached pending apart
        · intro _
          rfl

theorem WorkSound.turn (apart : ExtentsApart bdevOf kernel)
    (keyed : ∀ minor req, kernel.logdevs.get minor = some req →
      req.minor = minor)
    (sound : WorkSound bdevOf kernel disks known work) (answer : BioAnswer) :
    TurnSound bdevOf kernel disks known work
      (work.turn bdevOf kernel answer disks) := by
  cases at_place : work.place with
  | queued => exact work.turn_start sound at_place answer
  | cutting segments done sector =>
      exact work.turn_cut apart keyed sound at_place answer
  | submitting segments done sector chunk =>
      exact work.turn_submit apart sound at_place answer

end TurnSteps

end Turns

section Runs

variable {Bdev : Type} [DecidableEq Bdev] {bdevOf : MapEntry → Bdev}
  {machine : Machine Bdev} {known : Known}

omit [DecidableEq Bdev] in
/-- The sectors of a request that has ended well hold what its memory
holds. -/
theorem Carried.held {kernel : KernelState} {disks : Bdev → List UInt8}
    {minor other : Nat} {rq : Request} {pages : Pages} {sector : UInt64}
    (slot : rq.slot = some minor)
    (carried : Carried bdevOf kernel disks minor rq pages (sectorsOf rq))
    (asks : Asks rq other sector) :
    logicalBlock bdevOf kernel disks other sector =
      some (sectorOf rq pages sector) := by
  obtain rfl := Option.some.inj (slot.symm.trans asks.minor)
  obtain ⟨small, place⟩ := asks.eq_add
  have held := carried _ small
  rw [← place] at held
  exact held

/-- A turn of the worker of a tag. -/
theorem Sound.turned (sound : Sound bdevOf machine known) (tag : Nat)
    (answer : BioAnswer) :
    Sound bdevOf (turn bdevOf tag answer machine)
      (watch bdevOf machine known (.turn tag answer)) := by
  cases inFlight : machine.works tag with
  | none =>
      simp only [turn, watch, inFlight]
      exact sound
  | some work =>
      have own := sound.works tag work inFlight
      have result := own.turn sound.apart sound.keyed answer
      simp only [turn, watch, inFlight]
      generalize work.turn bdevOf machine.kernel answer machine.disks = after
        at result ⊢
      have alone : ∀ other otherWork, other ≠ tag →
          machine.works other = some otherWork →
            ¬Conflicts work.rq otherWork.rq := by
        intro other otherWork different otherFlies
        exact sound.conflicts tag other work otherWork inFlight otherFlies
          different.symm
      have unchanged : ∀ {minor sector content},
          known minor sector = some content →
            logicalBlock bdevOf machine.kernel after.2.disks minor sector =
              some content := by
        intro minor sector content remembered
        rw [result.changes minor sector ?_]
        · exact sound.agrees minor sector content remembered
        · intro writes asks
          rw [own.unknown writes minor sector asks] at remembered
          cases remembered
      have others : ∀ {learned : Known}, (∀ minor sector,
          ¬Asks work.rq minor sector →
            learned minor sector = known minor sector) →
          ∀ other otherWork, other ≠ tag →
            machine.works other = some otherWork →
              WorkSound bdevOf machine.kernel after.2.disks learned
                otherWork := by
        intro learned same other otherWork different otherFlies
        exact (sound.works other otherWork otherFlies).beside result.changes
          (alone other otherWork different otherFlies) same
      obtain ⟨progress, storage⟩ := after
      cases progress with
      | reached place =>
          apply sound.updated
          · intro minor sector content remembered
            exact unchanged remembered
          · exact others fun _ _ _ => rfl
          · intro next same
            cases same
            exact result.reached place rfl
          · intro next same
            cases same
            exact alone
      | ended status =>
          apply sound.updated
          · intro minor sector content remembered
            cases status with
            | ok =>
                simp only [Known.learn] at remembered
                split at remembered
                · rename_i asks
                  cases remembered
                  obtain ⟨own, slot, carried⟩ := result.ended rfl
                  exact carried.held slot asks
                · exact unchanged remembered
            | resource | notsupp | ioerr => exact unchanged remembered
          · apply others
            intro minor sector elsewhere
            cases status with
            | ok => exact if_neg elsewhere
            | resource | notsupp | ioerr => rfl
          · intro next same
            cases same
          · intro next same
            cases same

theorem Sound.step (sound : Sound bdevOf machine known) {event : Event}
    (allowed : Allowed bdevOf machine event) :
    Sound bdevOf (step bdevOf machine event)
      (watch bdevOf machine known event) := by
  cases event with
  | ioctl request => exact sound.ioctl allowed
  | queueRq tag rq pages allocated =>
      obtain ⟨_, wellFormed, alone⟩ := allowed
      cases allocated with
      | false => exact sound
      | true =>
          have queued := sound.queued tag wellFormed alone pages
          simpa only [Workers.step, queueRq, watch, Bool.not_true,
            Bool.false_eq_true, if_false, true_and] using queued
  | turn tag answer => exact sound.turned tag answer

omit [DecidableEq Bdev] in
theorem sound_loaded (disks : Bdev → List UInt8) :
    Sound bdevOf (Machine.loaded disks) .nothing := by
  constructor
  · exact extentsApart_loaded
  · intro minor req live
    simp [Machine.loaded, KernelState.loaded] at live
  · intro minor sector content remembered
    cases remembered
  · intro tag work inFlight
    cases inFlight
  · intro tag other work otherWork inFlight
    cases inFlight

theorem sound_run (disks : Bdev → List UInt8) {events : List Event}
    (allowed : Transition.Admissible (watchedStep bdevOf)
      (fun state event => Allowed bdevOf state.1 event)
      (Machine.loaded disks, .nothing) events) :
    let final := Transition.run (watchedStep bdevOf)
      (Machine.loaded disks, .nothing) events
    Sound bdevOf final.1 final.2 :=
  Transition.run_invariant
    (fun state : Machine Bdev × Known => Sound bdevOf state.1 state.2)
    (fun _ _ sound allows => sound.step allows) (sound_loaded disks) allowed

/-- What is in flight was handed over. -/
theorem queued_of_inFlight (disks : Bdev → List UInt8) (events : List Event)
    {tag : Nat} {work : RqWork}
    (inFlight : (Transition.run (step bdevOf) (Machine.loaded disks)
      events).works tag = some work) :
    ∃ pages, Event.queueRq tag work.rq pages true ∈ events := by
  induction events using List.reverseRecOn generalizing work with
  | nil => cases inFlight
  | append_singleton events event induction =>
      have earlier : ∀ {before},
          (Transition.run (step bdevOf) (Machine.loaded disks)
            events).works tag = some before → before.rq = work.rq →
          ∃ pages, Event.queueRq tag work.rq pages true ∈
            events ++ [event] := by
        intro before flew same
        obtain ⟨pages, queued⟩ := induction flew
        rw [same] at queued
        exact ⟨pages, List.mem_append_left _ queued⟩
      rw [Transition.run_append, Transition.run_cons, Transition.run_nil]
        at inFlight
      generalize Transition.run (step bdevOf) (Machine.loaded disks) events =
        machine at inFlight earlier
      cases event with
      | ioctl request => exact earlier inFlight rfl
      | queueRq other rq pages allocated =>
          cases allocated with
          | false => exact earlier inFlight rfl
          | true =>
              by_cases same : tag = other
              · subst same
                simp only [step, queueRq, Bool.not_true, Bool.false_eq_true,
                  if_false, Function.update_self, Option.some.injEq]
                  at inFlight
                subst inFlight
                exact ⟨pages, by simp⟩
              · simp only [step, queueRq, Bool.not_true, Bool.false_eq_true,
                  if_false, Function.update_of_ne same] at inFlight
                exact earlier inFlight rfl
      | turn other answer =>
          simp only [step, turn] at inFlight
          split at inFlight
          · exact earlier inFlight rfl
          · rename_i before flew
            by_cases same : tag = other
            · subst same
              split at inFlight
              · simp only [Function.update_self, Option.some.injEq]
                  at inFlight
                exact earlier flew (by rw [← inFlight])
              · simp only [Function.update_self] at inFlight
                cases inFlight
            · split at inFlight
              · simp only [Function.update_of_ne same] at inFlight
                exact earlier inFlight rfl
              · simp only [Function.update_of_ne same] at inFlight
                exact earlier inFlight rfl

theorem run_watchedStep (machine : Machine Bdev) (known : Known)
    (events : List Event) :
    (Transition.run (watchedStep bdevOf) (machine, known) events).1 =
      Transition.run (step bdevOf) machine events := by
  induction events generalizing machine known with
  | nil => rfl
  | cons event events induction => exact induction _ _

omit [DecidableEq Bdev] in
theorem not_conflicts_of_apart {left right : Request}
    (apart : left.pos.toNat + sectorsOf left ≤ right.pos.toNat ∨
      right.pos.toNat + sectorsOf right ≤ left.pos.toNat) :
    ¬Conflicts left right := by
  rintro ⟨_, minor, sector, leftAsks, rightAsks⟩
  have leftStart := leftAsks.start
  have leftBefore := leftAsks.before
  have rightStart := rightAsks.start
  have rightBefore := rightAsks.before
  omega

/-- A request may join those of the run that are still in flight when it
shares no sector with them. -/
theorem allowed_queueRq (disks : Bdev → List UInt8) (events : List Event)
    {tag : Nat} {rq : Request} {pages : Pages} {allocated : Bool}
    (free : (Transition.run (watchedStep bdevOf)
      (Machine.loaded disks, .nothing) events).1.works tag = none)
    (wellFormed : WellFormed rq)
    (apart : ∀ other earlier memory,
      .queueRq other earlier memory true ∈ events →
      (Transition.run (watchedStep bdevOf) (Machine.loaded disks, .nothing)
        events).1.works other ≠ none → ¬Conflicts rq earlier) :
    Allowed bdevOf (Transition.run (watchedStep bdevOf)
      (Machine.loaded disks, .nothing) events).1
      (.queueRq tag rq pages allocated) := by
  refine ⟨free, wellFormed, fun other work inFlight => ?_⟩
  have flew := inFlight
  rw [run_watchedStep] at flew
  obtain ⟨memory, queued⟩ := queued_of_inFlight disks events flew
  apply apart other work.rq memory queued
  rw [inFlight]
  exact Option.some_ne_none work

/-- A segment does not meet itself. -/
theorem bytes_nodup (bvec : BioVec) : bvec.bytes.Nodup := by
  refine (List.nodup_map_iff_inj_on List.nodup_range).mpr ?_
  intro left leftSmall right rightSmall same
  rw [List.mem_range] at leftSmall rightSmall
  have fits := bvec.len.toNat_lt
  have offsets : UInt32.ofNat left = UInt32.ofNat right :=
    (UInt32.add_right_inj bvec.offset).mp (Prod.mk.inj same).2
  have values := congrArg UInt32.toNat offsets
  rwa [UInt32.toNat_ofNat_of_lt' (leftSmall.trans fits),
    UInt32.toNat_ofNat_of_lt' (rightSmall.trans fits)] at values

/-- Reads return what was written last.  Whatever the interleaving, the known
content of a sector is what the device of its extent holds, and a request that
ends with `BLK_STS_OK` has it in its memory. -/
theorem reads_return_last_write (disks : Bdev → List UInt8)
    {events : List Event}
    (allowed : Transition.Admissible (watchedStep bdevOf)
      (fun state event => Allowed bdevOf state.1 event)
      (Machine.loaded disks, .nothing) events) :
    let final := Transition.run (watchedStep bdevOf)
      (Machine.loaded disks, .nothing) events
    (∀ minor sector content, final.2 minor sector = some content →
      logicalBlock bdevOf final.1.kernel final.1.disks minor sector =
        some content) ∧
    ∀ tag answer work storage, final.1.works tag = some work →
      work.turn bdevOf final.1.kernel answer final.1.disks =
        (.ended .ok, storage) →
      ∀ minor sector content, Asks work.rq minor sector →
        final.2 minor sector = some content →
          sectorOf work.rq storage.pages sector = content := by
  intro final
  have sound : Sound bdevOf final.1 final.2 := sound_run disks allowed
  refine ⟨sound.agrees, ?_⟩
  intro tag answer work storage inFlight ended minor sector content asks
    remembered
  have own := sound.works tag work inFlight
  have result := own.turn sound.apart sound.keyed answer
  rw [ended] at result
  obtain ⟨_, slot, carried⟩ := result.ended rfl
  have held := carried.held slot asks
  rw [result.changes minor sector ?_] at held
  · rw [sound.agrees minor sector content remembered] at held
    exact (Option.some.inj held).symm
  · intro writes _
    rw [own.unknown writes minor sector asks] at remembered
    cases remembered

/-- Every path a device of its own. -/
def pathOf (entry : MapEntry) : CString :=
  entry.physDev.chars

/-- A write to the first of eight sectors. -/
def firstSectorWrite : Request :=
  { slot := some 0
    passthrough := false
    op := .write
    cmdFlags := 1
    pos := 0
    segments := [⟨0, 512, 0⟩] }

theorem firstSectorWrite_wellFormed : WellFormed firstSectorWrite :=
  ⟨rfl, fun reads => by cases reads⟩

theorem eightSectorMap_apart : AddsApart pathOf
    (ioctlStep .loaded (.logdevCreate eightSectors none)) eightSectorMap := by
  have none : (ioctlStep .loaded
      (.logdevCreate eightSectors none)).maps.rows = [] := by
    decide +kernel
  refine ⟨fun _ => ⟨⟨⟨eightSectors, ?_, ?_⟩, ?_⟩, ?_⟩, fun _ => ?_⟩
  · decide
  · decide
  · decide
  · rw [none]
    exact fun _ member => by cases member
  · rw [none]
    exact fun _ member => by cases member

def secondSectorWrite : Request :=
  { firstSectorWrite with pos := 1 }

theorem secondSectorWrite_wellFormed : WellFormed secondSectorWrite :=
  ⟨rfl, fun reads => by cases reads⟩

def firstSectorRead : Request :=
  { firstSectorWrite with op := .read, cmdFlags := 0 }

theorem firstSectorRead_wellFormed : WellFormed firstSectorRead := by
  refine ⟨rfl, fun _ => ?_⟩
  have one : memoryOf firstSectorRead = BioVec.bytes ⟨0, 512, 0⟩ :=
    List.append_nil _
  rw [one]
  exact bytes_nodup _

/-- The first write is translated but not submitted. -/
def firstWrite : List Event :=
  [.ioctl (.logdevCreate eightSectors none), .ioctl (.mapAdd eightSectorMap),
    .queueRq 0 firstSectorWrite (fun _ => 7) true, .turn 0 .done,
    .turn 0 .done]

/-- It ends while a second one is in flight. -/
def secondWrite : List Event :=
  [.queueRq 1 secondSectorWrite (fun _ => 9) true, .turn 1 .done,
    .turn 0 .done, .turn 1 .done, .turn 0 .done, .turn 0 .done]

/-- The next turn of the read is its last. -/
def readBack : List Event :=
  [.queueRq 2 firstSectorRead (fun _ => 0) true, .turn 2 .done,
    .turn 2 .done, .turn 1 .done, .turn 2 .done, .turn 2 .done]

def twoWritesRead : List Event :=
  firstWrite ++ secondWrite ++ readBack

theorem twoWritesRead_allowed : Transition.Admissible (watchedStep pathOf)
    (fun state event => Allowed pathOf state.1 event)
    (Machine.loaded fun _ => [], .nothing) twoWritesRead := by
  have first : Transition.Admissible (watchedStep pathOf)
      (fun state event => Allowed pathOf state.1 event)
      (Machine.loaded fun _ => [], .nothing) firstWrite := by
    refine ⟨trivial, eightSectorMap_apart,
      ⟨rfl, firstSectorWrite_wellFormed, ?_⟩, trivial, trivial, trivial⟩
    intro other work inFlight
    cases inFlight
  have second : Transition.Admissible (watchedStep pathOf)
      (fun state event => Allowed pathOf state.1 event)
      (Transition.run (watchedStep pathOf)
        (Machine.loaded fun _ => [], .nothing) firstWrite) secondWrite := by
    refine ⟨?_, trivial, trivial, trivial, trivial, trivial, trivial⟩
    apply allowed_queueRq
    · exact Option.isNone_iff_eq_none.mp (by decide +kernel)
    · exact secondSectorWrite_wellFormed
    · intro other earlier memory queued _
      simp only [firstWrite, List.mem_cons, Event.queueRq.injEq, reduceCtorEq,
        List.not_mem_nil, false_or, or_false] at queued
      obtain ⟨_, rfl, _⟩ := queued
      exact not_conflicts_of_apart (by decide +kernel)
  have third : Transition.Admissible (watchedStep pathOf)
      (fun state event => Allowed pathOf state.1 event)
      (Transition.run (watchedStep pathOf)
        (Machine.loaded fun _ => [], .nothing) (firstWrite ++ secondWrite))
      readBack := by
    refine ⟨?_, trivial, trivial, trivial, trivial, trivial, trivial⟩
    apply allowed_queueRq
    · exact Option.isNone_iff_eq_none.mp (by decide +kernel)
    · exact firstSectorRead_wellFormed
    · intro other earlier memory queued flying
      simp only [firstWrite, secondWrite, List.cons_append, List.nil_append,
        List.mem_cons, Event.queueRq.injEq, reduceCtorEq, List.not_mem_nil,
        false_or, or_false] at queued
      obtain ⟨rfl, _⟩ | ⟨_, rfl, _⟩ := queued
      · exact absurd (Option.isNone_iff_eq_none.mp (by decide +kernel)) flying
      · exact not_conflicts_of_apart (by decide +kernel)
  exact (first.join second).join third

theorem reads_return_last_write_twoWritesRead : ∃ final,
    Transition.run (watchedStep pathOf) (Machine.loaded fun _ => [], .nothing)
        twoWritesRead = final ∧
      (turn pathOf 2 .done final.1).ended.map
        (fun ended => (ended.tag, ended.status)) = [(2, .ok), (0, .ok)] ∧
      logicalBlock pathOf final.1.kernel final.1.disks 0 0 =
        some (List.replicate 512 7) ∧
      ∀ work storage, final.1.works 2 = some work →
        work.turn pathOf final.1.kernel .done final.1.disks =
          (.ended .ok, storage) →
        sectorOf work.rq storage.pages 0 = List.replicate 512 7 := by
  have sound := reads_return_last_write (fun _ => []) twoWritesRead_allowed
  have statuses : (turn pathOf 2 .done (Transition.run (watchedStep pathOf)
      (Machine.loaded fun _ => [], .nothing) twoWritesRead).1).ended.map
        (fun ended => (ended.tag, ended.status)) = [(2, .ok), (0, .ok)] := by
    decide +kernel
  have known : (Transition.run (watchedStep pathOf)
      (Machine.loaded fun _ => [], .nothing) twoWritesRead).2 0 0 =
        some (List.replicate 512 7) := by
    decide +kernel
  have request : ((Transition.run (watchedStep pathOf)
      (Machine.loaded fun _ => [], .nothing) twoWritesRead).1.works 2).map
        RqWork.rq = some firstSectorRead := by
    decide +kernel
  generalize Transition.run (watchedStep pathOf)
    (Machine.loaded fun _ => [], .nothing) twoWritesRead = final
    at sound statuses known request
  obtain ⟨held, read⟩ := sound
  refine ⟨final, rfl, statuses, held 0 0 _ known, ?_⟩
  intro work storage inFlight ended
  rw [inFlight] at request
  have asks : Asks work.rq 0 0 := by
    rw [Option.some.inj request]
    decide +kernel
  exact read 2 .done work storage inFlight ended 0 0 _ asks known

end Runs

end UbseSsu.Kernel.Workers

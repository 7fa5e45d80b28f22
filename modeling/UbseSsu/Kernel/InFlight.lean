import UbseSsu.Kernel.Workers

/-!
# What requests in flight can rely on

An ioctl keeps the translations of the minors that have requests in flight,
and a new request only makes its own sectors unknown.  What one request does
to its own sectors leaves the others as sound as they were.
-/

namespace UbseSsu.Kernel.Workers

open Blocks Scatter

section Tables

variable {kernel after : KernelState} {request : Ioctl}

/-- What an ioctl leaves behind is what it found, or what one of the four
changes of the tables made of it. -/
theorem ioctlStep_elim (holds : KernelState → Prop) (same : holds kernel)
    (create : ∀ req blockLayer after,
      request = .logdevCreate req blockLayer →
        logdevCreate blockLayer req kernel = .ok after → holds after)
    (destroy : ∀ minor after, request = .logdevDestroy minor →
      logdevDestroy minor kernel = .ok after → holds after)
    (add : ∀ entry after, request = .mapAdd entry →
      mapAdd entry kernel = .ok after → holds after)
    (delete : ∀ entry after, request = .mapDel entry →
      mapDel entry kernel = .ok after → holds after) :
    holds (ioctlStep kernel request) := by
  have answered : ∀ {result : Except Errno KernelState},
      (∀ after, result = .ok after → holds after) →
        holds (ioctl.answered kernel result).2 := by
    intro result changed
    cases result with
    | ok after => exact changed after rfl
    | error errno => exact same
  cases request with
  | logdevCreate req blockLayer =>
      exact answered fun after => create req blockLayer after rfl
  | logdevDestroy minor =>
      exact answered fun after => destroy minor after rfl
  | mapAdd entry => exact answered fun after => add entry after rfl
  | mapDel entry => exact answered fun after => delete entry after rfl
  | mapQuery logicalMinor logicalSector => exact same

theorem mapDel_sublist {entry : MapEntry}
    (deleted : mapDel entry kernel = .ok after) :
    after.maps.rows.Sublist kernel.maps.rows := by
  obtain ⟨slot, found, rfl⟩ := mapDel_ok deleted
  obtain ⟨row, active, _⟩ := SlotTable.get_findSlot found
  exact SlotTable.rows_clear_sublist active

theorem logdevDestroy_sublist {minor : Nat}
    (destroyed : logdevDestroy minor kernel = .ok after) :
    after.maps.rows.Sublist kernel.maps.rows := by
  obtain ⟨_, rfl⟩ := logdevDestroy_ok destroyed
  rw [mapClearMinor_rows]
  exact List.filter_sublist

theorem mapAdd_perm {entry : MapEntry}
    (added : mapAdd entry kernel = .ok after) :
    after.maps.rows.Perm (entry :: kernel.maps.rows) := by
  obtain ⟨_, _, slot, free, rfl⟩ := mapAdd_ok added
  obtain ⟨bound, isFree⟩ := SlotTable.get_firstFree free
  exact SlotTable.rows_put_perm bound isFree

/-- The extents of one side of an ioctl are among those of the other. -/
theorem ioctlStep_rows (kernel : KernelState) (request : Ioctl) :
    kernel.maps.rows ⊆ (ioctlStep kernel request).maps.rows ∨
      (ioctlStep kernel request).maps.rows ⊆ kernel.maps.rows := by
  apply ioctlStep_elim (fun after => kernel.maps.rows ⊆ after.maps.rows ∨
    after.maps.rows ⊆ kernel.maps.rows)
  · exact .inl (List.Subset.refl _)
  · intro req blockLayer after _ created
    obtain ⟨_, _, rfl⟩ := logdevCreate_ok created
    exact .inl (List.Subset.refl _)
  · intro minor after _ destroyed
    exact .inr (logdevDestroy_sublist destroyed).subset
  · intro entry after _ added
    left
    intro old member
    exact (mapAdd_perm added).mem_iff.mpr (List.mem_cons_of_mem _ member)
  · intro entry after _ deleted
    exact .inr (mapDel_sublist deleted).subset

theorem keyed_step
    (keyed : ∀ minor req, kernel.logdevs.get minor = some req →
      req.minor = minor) (request : Ioctl) :
    ∀ minor req, (ioctlStep kernel request).logdevs.get minor = some req →
      req.minor = minor := by
  apply ioctlStep_elim (fun after => ∀ minor req,
    after.logdevs.get minor = some req → req.minor = minor)
  · exact keyed
  · intro req blockLayer after _ created minor other live
    obtain ⟨valid, _, rfl⟩ := logdevCreate_ok created
    by_cases same : req.minor = minor
    · subst same
      rw [SlotTable.get_put_self (validateLogdevReq_minor valid)] at live
      cases live
      rfl
    · rw [SlotTable.get_put_other same] at live
      exact keyed minor other live
  · intro gone after _ destroyed minor req live
    obtain ⟨_, rfl⟩ := logdevDestroy_ok destroyed
    by_cases same : gone = minor
    · subst same
      simp [mapClearMinor] at live
    · rw [mapClearMinor, SlotTable.get_clear_other same] at live
      exact keyed minor req live
  · intro entry after _ added minor req live
    obtain ⟨_, _, slot, _, rfl⟩ := mapAdd_ok added
    exact keyed minor req live
  · intro entry after _ deleted minor req live
    obtain ⟨slot, _, rfl⟩ := mapDel_ok deleted
    exact keyed minor req live

variable {Bdev : Type} {bdevOf : MapEntry → Bdev}

theorem extentsApart_loaded : ExtentsApart bdevOf .loaded := by
  have none : KernelState.loaded.maps.rows = [] := SlotTable.rows_empty
  constructor
  · exact mappingsFit_loaded
  · rw [none]
    exact List.Pairwise.nil

theorem extentsApart_step (apart : ExtentsApart bdevOf kernel)
    (keeps : ∀ entry, request = .mapAdd entry →
      AddsApart bdevOf kernel entry) :
    ExtentsApart bdevOf (ioctlStep kernel request) := by
  constructor
  · apply (mappingsFit_step_iff apart.fit request).mp
    cases request with
    | mapAdd entry => exact (keeps entry rfl).1
    | logdevCreate | logdevDestroy | mapDel | mapQuery => trivial
  · apply ioctlStep_elim fun after => Regions.Isolated
      (after.maps.rows.map (MapEntry.physicalRange bdevOf))
    · exact apart.physical
    · intro req blockLayer after _ created
      obtain ⟨_, _, rfl⟩ := logdevCreate_ok created
      exact apart.physical
    · intro minor after _ destroyed
      exact apart.physical.sublist ((logdevDestroy_sublist destroyed).map _)
    · intro entry after isAdd added
      obtain ⟨checks, _⟩ := mapAdd_eq_ok_iff.mp added
      have others := (keeps entry isAdd).2 checks
      apply (Regions.isolated_perm ((mapAdd_perm added).map _)).mpr
      apply List.pairwise_map.mpr
      exact List.pairwise_cons.mpr
        ⟨others, List.pairwise_map.mp apart.physical⟩
    · intro entry after _ deleted
      exact apart.physical.sublist ((mapDel_sublist deleted).map _)

/-- An extent that both tables have translates its sectors alike. -/
theorem translate_kept {minor : Nat} {sector physSector : UInt64}
    {entry : MapEntry} (before : MinorFits kernel minor)
    (fits : MinorFits after minor) (kept : entry ∈ after.maps.rows)
    (translated : translateSector minor sector kernel =
      .ok (entry, physSector)) :
    translateSector minor sector after = .ok (entry, physSector) := by
  obtain ⟨member, covered⟩ := mapQuery_ok (translateSector_ok translated)
  rw [before.translate member covered] at translated
  rw [fits.translate kept covered]
  exact translated

theorem logicalBlock_kept {disks : Bdev → List UInt8} {minor : Nat}
    {sector : UInt64} {content : List UInt8}
    (before : MinorFits kernel minor) (fits : MinorFits after minor)
    (kept : ∀ entry ∈ kernel.maps.rows, Covers entry minor sector →
      entry ∈ after.maps.rows)
    (held : logicalBlock bdevOf kernel disks minor sector = some content) :
    logicalBlock bdevOf after disks minor sector = some content := by
  unfold logicalBlock at held
  split at held
  · cases held
  · rename_i entry physSector translated
    obtain ⟨member, covered⟩ := mapQuery_ok (translateSector_ok translated)
    rw [logicalBlock, translate_kept before fits (kept entry member covered)
      translated]
    exact held

/-- A minor stays live and loses no extent. -/
structure Keeps (minor : Nat) (kernel after : KernelState) : Prop where
  live : (kernel.logdevs.get minor).isSome = true →
    (after.logdevs.get minor).isSome = true
  rows : ∀ entry ∈ kernel.maps.rows, entry.logicalMinor = minor →
    entry ∈ after.maps.rows

theorem Keeps.of_sameMinor {minor : Nat}
    (same : SameMinor minor kernel after) : Keeps minor kernel after := by
  constructor
  · rw [same.logdev]
    exact id
  · intro entry member isMinor
    have kept : entry ∈ kernel.maps.rows.filter (mapHasMinor minor) :=
      List.mem_filter.mpr ⟨member, decide_eq_true isMinor⟩
    rw [← same.maps] at kept
    exact (List.mem_filter.mp kept).1

/-- What does not take a mapping from the minor keeps it. -/
theorem keeps_of_elsewhere {minor : Nat}
    (noDelete : ∀ entry, request = .mapDel entry →
      entry.logicalMinor ≠ minor)
    (noDestroy : ∀ gone, request = .logdevDestroy gone → gone ≠ minor) :
    Keeps minor kernel (ioctlStep kernel request) := by
  apply ioctlStep_elim (Keeps minor kernel)
  · exact .of_sameMinor (.refl minor kernel)
  · intro req blockLayer after _ created
    obtain ⟨valid, _, rfl⟩ := logdevCreate_ok created
    constructor
    · intro live
      by_cases same : req.minor = minor
      · rw [← same, SlotTable.get_put_self (validateLogdevReq_minor valid)]
        rfl
      · rw [SlotTable.get_put_other same]
        exact live
    · intro entry member _
      exact member
  · intro gone after isDestroy destroyed
    exact .of_sameMinor
      (logdevDestroy_sameMinor destroyed (noDestroy gone isDestroy))
  · intro entry after _ added
    obtain ⟨_, _, slot, _, rfl⟩ := mapAdd_ok added
    constructor
    · exact id
    · intro old member _
      exact (mapAdd_perm added).mem_iff.mpr (List.mem_cons_of_mem _ member)
  · intro entry after isDelete deleted
    exact .of_sameMinor
      (mapDel_sameMinor deleted (noDelete entry isDelete))

end Tables

section Ioctls

variable {Bdev : Type} [DecidableEq Bdev] {bdevOf : MapEntry → Bdev}
  {kernel after : KernelState} {disks : Bdev → List UInt8} {minor : Nat}
  {rq : Request} {pages : Pages} {known : Known} {work : RqWork}
  {machine : Machine Bdev}

omit [DecidableEq Bdev] in
theorem Carried.kept {count : Nat}
    (carried : Carried bdevOf kernel disks minor rq pages count)
    (before : MinorFits kernel minor) (fits : MinorFits after minor)
    (keeps : Keeps minor kernel after) :
    Carried bdevOf after disks minor rq pages count := by
  intro index small
  apply logicalBlock_kept before fits _ (carried index small)
  intro entry member covered
  exact keeps.rows entry member covered.minor

theorem Pending.kept {segments : List BioVec} {done more : Nat}
    {sector : UInt64} {chunk : Chunk}
    (pending : Pending kernel minor rq segments done sector more chunk)
    (before : MinorFits kernel minor) (fits : MinorFits after minor)
    (keeps : Keeps minor kernel after) :
    Pending after minor rq segments done sector more chunk := by
  refine ⟨{ pending.aimed with places := ?_ }, pending.flags, pending.first⟩
  intro index small
  have translated := pending.aimed.places index small
  obtain ⟨member, covered⟩ := mapQuery_ok (translateSector_ok translated)
  exact translate_kept before fits (keeps.rows _ member covered.minor)
    translated

omit [DecidableEq Bdev] in
theorem Running.kept (running : Running bdevOf kernel disks work minor)
    (before : MinorFits kernel minor) (fits : MinorFits after minor)
    (keeps : Keeps minor kernel after) :
    Running bdevOf after disks work minor := by
  refine ⟨running.slot, keeps.live running.live, running.transfers, ?_⟩
  have sound := running.place
  cases place : work.place with
  | queued => trivial
  | cutting segments done sector =>
      rw [place] at sound
      obtain ⟨count, reached, carried⟩ := sound
      exact ⟨count, reached, carried.kept before fits keeps⟩
  | submitting segments done sector chunk =>
      rw [place] at sound
      obtain ⟨count, more, reached, carried, pending⟩ := sound
      exact ⟨count, more, reached, carried.kept before fits keeps,
        pending.kept before fits keeps⟩

omit [DecidableEq Bdev] in
/-- An ioctl that leaves the minors in flight alone. -/
theorem Sound.ioctl (sound : Sound bdevOf machine known) {request : Ioctl}
    (allowed : Allowed bdevOf machine (.ioctl request)) :
    Sound bdevOf { machine with kernel := ioctlStep machine.kernel request }
      (known.keepMapped (ioctlStep machine.kernel request)) := by
  have apart : ExtentsApart bdevOf (ioctlStep machine.kernel request) := by
    apply extentsApart_step sound.apart
    rintro entry rfl
    exact allowed
  have before := sound.apart.fit.minorFits
  have fits := apart.fit.minorFits
  constructor
  · exact apart
  · exact keyed_step sound.keyed request
  · intro minor sector content remembered
    simp only [Known.keepMapped] at remembered
    split at remembered
    · rename_i entry found
      obtain ⟨member, covered⟩ := mapQuery_ok found
      have held := sound.agrees minor sector content remembered
      apply logicalBlock_kept (before minor) (fits minor) _ held
      intro other otherMember otherCovered
      rcases ioctlStep_rows machine.kernel request with grows | shrinks
      · exact grows otherMember
      · have same := (before minor).only otherMember (shrinks member)
          otherCovered covered
        rw [same]
        exact member
    · cases remembered
  · intro tag work inFlight
    obtain ⟨wellFormed, unknown, running⟩ := sound.works tag work inFlight
    refine ⟨wellFormed, ?_, ?_⟩
    · intro writes minor sector asks
      simp only [Known.keepMapped, unknown writes minor sector asks]
      split <;> rfl
    · intro started
      obtain ⟨minor, runs⟩ := running started
      refine ⟨minor, runs.kept (before minor) (fits minor) ?_⟩
      apply keeps_of_elsewhere
      · rintro entry rfl same
        exact allowed tag work inFlight (same ▸ runs.slot)
      · rintro gone rfl same
        exact allowed tag work inFlight (same ▸ runs.slot)
  · exact sound.conflicts

omit [DecidableEq Bdev] in
/-- What has to be shown for a step that only one tag takes. -/
theorem Sound.updated (sound : Sound bdevOf machine known) {tag : Nat}
    {next : Option RqWork} {ended : List Ended}
    {laterDisks : Bdev → List UInt8} {later : Known}
    (agrees : ∀ minor sector content, later minor sector = some content →
      logicalBlock bdevOf machine.kernel laterDisks minor sector =
        some content)
    (others : ∀ other work, other ≠ tag → machine.works other = some work →
      WorkSound bdevOf machine.kernel laterDisks later work)
    (own : ∀ work, next = some work →
      WorkSound bdevOf machine.kernel laterDisks later work)
    (alone : ∀ work, next = some work → ∀ other otherWork, other ≠ tag →
      machine.works other = some otherWork →
        ¬Conflicts work.rq otherWork.rq) :
    Sound bdevOf
      ⟨machine.kernel, laterDisks, Function.update machine.works tag next,
        ended⟩ later := by
  constructor
  · exact sound.apart
  · exact sound.keyed
  · exact agrees
  · intro other work inFlight
    simp only at inFlight
    by_cases same : other = tag
    · subst same
      rw [Function.update_self] at inFlight
      exact own work inFlight
    · rw [Function.update_of_ne same] at inFlight
      exact others other work same inFlight
  · intro left right leftWork rightWork leftFlies rightFlies different
    simp only at leftFlies rightFlies
    by_cases isLeft : left = tag
    · subst isLeft
      rw [Function.update_self] at leftFlies
      rw [Function.update_of_ne different.symm] at rightFlies
      exact alone leftWork leftFlies right rightWork different.symm rightFlies
    · rw [Function.update_of_ne isLeft] at leftFlies
      by_cases isRight : right = tag
      · subst isRight
        rw [Function.update_self] at rightFlies
        intro conflict
        obtain ⟨minor, sector, first, second⟩ := conflict.shared
        exact alone rightWork rightFlies left leftWork isLeft leftFlies
          ⟨conflict.writes.symm, minor, sector, second, first⟩
      · rw [Function.update_of_ne isRight] at rightFlies
        exact sound.conflicts left right leftWork rightWork leftFlies
          rightFlies different

omit [DecidableEq Bdev] in
/-- A request that conflicts with none in flight. -/
theorem Sound.queued (sound : Sound bdevOf machine known) (tag : Nat)
    (wellFormed : WellFormed rq)
    (alone : ∀ other work, machine.works other = some work →
      ¬Conflicts rq work.rq) (pages : Pages) :
    Sound bdevOf
      { machine with
        works := Function.update machine.works tag
          (some { rq, pages, place := .queued }) }
      (if rq.op = .write then known.forget rq else known) := by
  have fewer : ∀ {minor sector content},
      (if rq.op = .write then known.forget rq else known) minor sector =
          some content → known minor sector = some content := by
    intro minor sector content remembered
    split at remembered
    · simp only [Known.forget] at remembered
      split at remembered
      · cases remembered
      · exact remembered
    · exact remembered
  apply sound.updated
  · intro minor sector content remembered
    exact sound.agrees minor sector content (fewer remembered)
  · intro other work _ inFlight
    obtain ⟨otherFormed, unknown, running⟩ := sound.works other work inFlight
    refine ⟨otherFormed, ?_, running⟩
    intro writes minor sector asks
    apply Option.eq_none_iff_forall_ne_some.mpr
    intro content remembered
    have absent := unknown writes minor sector asks
    rw [fewer remembered] at absent
    cases absent
  · intro work same
    cases same
    refine ⟨wellFormed, ?_, fun started => (started rfl).elim⟩
    intro writes minor sector asks
    rw [if_pos writes, Known.forget, if_pos asks]
  · intro work same other otherWork _ inFlight
    cases same
    exact alone other otherWork inFlight

end Ioctls

section Beside

variable {Bdev : Type} {bdevOf : MapEntry → Bdev} {kernel : KernelState}
  {disks later : Bdev → List UInt8} {minor count : Nat} {rq : Request}
  {pages : Pages} {known learned : Known} {work : RqWork} {sector : UInt64}

theorem asks_add (slot : rq.slot = some minor)
    (noWrap : rq.pos.toNat + count < 2 ^ 64)
    (inside : count * sectorSize ≤ (memoryOf rq).length) {index : Nat}
    (small : index < count) : Asks rq minor (rq.pos + UInt64.ofNat index) := by
  have sector : (rq.pos + UInt64.ofNat index).toNat = rq.pos.toNat + index :=
    ofNat_toNat_add (by omega)
  have few : count ≤ sectorsOf rq :=
    (Nat.le_div_iff_mul_le (by decide)).mpr inside
  exact ⟨slot, by omega, by omega⟩

theorem Asks.eq_add (asks : Asks rq minor sector) :
    sector.toNat - rq.pos.toNat < sectorsOf rq ∧
      sector = rq.pos + UInt64.ofNat (sector.toNat - rq.pos.toNat) := by
  have start := asks.start
  have before := asks.before
  have small := sector.toNat_lt
  refine ⟨by omega, UInt64.toNat_inj.mp ?_⟩
  rw [ofNat_toNat_add (by omega)]
  omega

variable (bdevOf kernel) in
/-- A request changes no sectors but the ones it writes. -/
def ChangesOnly (rq : Request) (disks later : Bdev → List UInt8) : Prop :=
  ∀ minor sector, (rq.op = .write → ¬Asks rq minor sector) →
    logicalBlock bdevOf kernel later minor sector =
      logicalBlock bdevOf kernel disks minor sector

theorem Carried.beside {other : Request} {otherPages : Pages}
    (carried : Carried bdevOf kernel disks minor other otherPages count)
    (asked : ∀ index < count, Asks other minor (other.pos + UInt64.ofNat index))
    (changes : ChangesOnly bdevOf kernel rq disks later)
    (alone : ¬Conflicts rq other) :
    Carried bdevOf kernel later minor other otherPages count := by
  intro index small
  rw [changes minor _ ?_]
  · exact carried index small
  · intro writes asks
    exact alone ⟨.inl writes, minor, _, asks, asked index small⟩

/-- What a request does to its own sectors does not concern the others. -/
theorem WorkSound.beside (sound : WorkSound bdevOf kernel disks known work)
    (changes : ChangesOnly bdevOf kernel rq disks later)
    (alone : ¬Conflicts rq work.rq)
    (same : ∀ minor sector, ¬Asks rq minor sector →
      learned minor sector = known minor sector) :
    WorkSound bdevOf kernel later learned work := by
  obtain ⟨wellFormed, unknown, running⟩ := sound
  refine ⟨wellFormed, ?_, ?_⟩
  · intro writes minor sector asks
    rw [same minor sector ?_]
    · exact unknown writes minor sector asks
    · intro also
      exact alone ⟨.inr writes, minor, sector, also, asks⟩
  · intro started
    obtain ⟨minor, slot, live, transfers, place⟩ := running started
    refine ⟨minor, slot, live, transfers, ?_⟩
    have beside : ∀ {segments done sector count},
        Reached work.rq segments done sector count →
        Carried bdevOf kernel disks minor work.rq work.pages count →
          Carried bdevOf kernel later minor work.rq work.pages count := by
      intro segments done sector count reached carried
      apply carried.beside _ changes alone
      intro index small
      exact asks_add slot reached.noWrap reached.inside small
    cases at_place : work.place with
    | queued => trivial
    | cutting segments done sector =>
        rw [at_place] at place
        obtain ⟨count, reached, carried⟩ := place
        exact ⟨count, reached, beside reached carried⟩
    | submitting segments done sector chunk =>
        rw [at_place] at place
        obtain ⟨count, more, reached, carried, pending⟩ := place
        exact ⟨count, more, reached, beside reached carried, pending⟩

end Beside

end UbseSsu.Kernel.Workers

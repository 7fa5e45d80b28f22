import UbseSsu.Kernel.DataPath

/-!
# Requests to a logical device

`ssu_reqshim_rq_workfn` takes a request segment by segment, and
`ssu_reqshim_submit_bvec` cuts a segment into chunks that it hands to the
block device under their extent.  The devices answer through `physSubmit`,
which may remember what it has been handed.

The memory of a request is the list of its bytes in order.  The chunks of a
request are its memory, cut at the ends of the extents: as far as the sectors
are mapped and the devices take the chunks, nothing is left out, repeated or
sent elsewhere.
-/

namespace UbseSsu.Kernel

/-- A `struct bio_vec`. -/
structure BioVec where
  page : Nat
  len : UInt32
  offset : UInt32
deriving DecidableEq

/-- The arguments of `ssu_reqshim_phys_submit_bvec`. -/
structure Chunk where
  entry : MapEntry
  physSector : UInt64
  cmdFlags : Nat
  page : Nat
  len : Nat
  offset : UInt32
deriving DecidableEq

/-- A status, the sector after it, and the chunks handed over on the way. -/
structure Submission (Device : Type) where
  status : BlkStatus
  logicalSector : UInt64
  chunks : List Chunk
  device : Device

section Code

variable {Device : Type}

def Submission.prepend (chunks : List Chunk) (rest : Submission Device) :
    Submission Device :=
  { rest with chunks := chunks ++ rest.chunks }

/-- The chunk of `bytes` bytes behind the first `done` ones of the segment. -/
def BioVec.chunk (bvec : BioVec) (entry : MapEntry) (physSector : UInt64)
    (cmdFlags done bytes : Nat) : Chunk :=
  { entry, physSector, cmdFlags
    page := bvec.page
    len := bytes
    offset := bvec.offset + UInt32.ofNat done }

/-- The loop over one segment, `done` bytes of which are submitted. -/
def submitChunks (physSubmit : Device → Chunk → BlkStatus × Device)
    (kernel : KernelState) (minor cmdFlags : Nat) (bvec : BioVec)
    (logicalSector : UInt64) (done : Nat) (device : Device) :
    Submission Device :=
  if bvec.len.toNat ≤ done then ⟨.ok, logicalSector, [], device⟩
  else
    match _cut : nextChunk minor logicalSector (bvec.len.toNat - done) kernel
    with
    | .error status => ⟨status, logicalSector, [], device⟩
    | .ok (entry, physSector, bytes) =>
        let chunk := bvec.chunk entry physSector cmdFlags done bytes
        match physSubmit device chunk with
        | (.ok, next) =>
            (submitChunks physSubmit kernel minor cmdFlags bvec
              (logicalSector + UInt64.ofNat (bytes / sectorSize))
              (done + bytes) next).prepend [chunk]
        | (status, next) => ⟨status, logicalSector, [chunk], next⟩
termination_by bvec.len.toNat - done
decreasing_by
  have size := nextChunk_size ‹_›
  omega

def submitBvec (physSubmit : Device → Chunk → BlkStatus × Device)
    (kernel : KernelState) (minor cmdFlags : Nat) (bvec : BioVec)
    (logicalSector : UInt64) (device : Device) : Submission Device :=
  if bvec.len.toNat % sectorSize ≠ 0 then ⟨.ioerr, logicalSector, [], device⟩
  else
    submitChunks physSubmit kernel minor cmdFlags bvec logicalSector 0 device

/-- The `rq_for_each_segment` loop, which a status other than `BLK_STS_OK`
leaves. -/
def submitSegments (physSubmit : Device → Chunk → BlkStatus × Device)
    (kernel : KernelState) (minor cmdFlags : Nat) :
    List BioVec → UInt64 → Device → Submission Device
  | [], logicalSector, device => ⟨.ok, logicalSector, [], device⟩
  | bvec :: segments, logicalSector, device =>
      let first := submitBvec physSubmit kernel minor cmdFlags bvec
        logicalSector device
      if first.status ≠ .ok then first
      else
        (submitSegments physSubmit kernel minor cmdFlags segments
          first.logicalSector first.device).prepend first.chunks

inductive ReqOp where
  | read
  | write
  | flush
  | discard
  | other (code : Nat)
deriving DecidableEq

/-- A block request, with the slot that its queue belongs to. -/
structure Request where
  slot : Option Nat
  passthrough : Bool
  op : ReqOp
  cmdFlags : Nat
  pos : UInt64
  segments : List BioVec
deriving DecidableEq

/-- The request ends with the status of the submission. -/
def rqWorkfn (physSubmit : Device → Chunk → BlkStatus × Device)
    (kernel : KernelState) (rq : Request) (device : Device) :
    Submission Device :=
  match rq.slot.bind kernel.logdevs.get with
  | none => ⟨.ioerr, rq.pos, [], device⟩
  | some req =>
      if rq.passthrough then ⟨.ioerr, rq.pos, [], device⟩
      else if rq.op ≠ .read ∧ rq.op ≠ .write then
        ⟨.notsupp, rq.pos, [], device⟩
      else
        submitSegments physSubmit kernel req.minor rq.cmdFlags rq.segments
          rq.pos device

end Code

section Exact

/-- The bytes of a piece of memory: a page and the offsets in it. -/
def memoryBytes (page : Nat) (offset : UInt32) (len : Nat) :
    List (Nat × UInt32) :=
  (List.range len).map fun byte => (page, offset + UInt32.ofNat byte)

def BioVec.bytes (bvec : BioVec) : List (Nat × UInt32) :=
  memoryBytes bvec.page bvec.offset bvec.len.toNat

def Chunk.bytes (chunk : Chunk) : List (Nat × UInt32) :=
  memoryBytes chunk.page chunk.offset chunk.len

/-- The sectors that a chunk is sent to, each with its extent. -/
def Chunk.places (chunk : Chunk) : List (MapEntry × UInt64) :=
  (List.range (chunk.len / sectorSize)).map fun sector =>
    (chunk.entry, chunk.physSector + UInt64.ofNat sector)

/-- The extents of the minor share no sector and wrap nowhere. -/
structure MinorFits (kernel : KernelState) (minor : Nat) : Prop where
  disjoint : kernel.maps.rows.Pairwise fun first second =>
    ∀ sector, ¬(Covers first minor sector ∧ Covers second minor sector)
  logical : ∀ entry ∈ kernel.maps.rows, entry.logicalMinor = minor →
    entry.logicalSector.toNat + entry.lengthSectors.toNat < 2 ^ 64
  physical : ∀ entry ∈ kernel.maps.rows, entry.logicalMinor = minor →
    entry.physSector.toNat + entry.lengthSectors.toNat < 2 ^ 64

def Unmapped (kernel : KernelState) (minor : Nat) (sector : UInt64) : Prop :=
  ∀ entry ∈ kernel.maps.rows, ¬Covers entry minor sector

/-- A chunk of whole sectors inside one extent of the minor. -/
structure ChunkFits (kernel : KernelState) (minor cmdFlags : Nat)
    (chunk : Chunk) : Prop where
  nonempty : 0 < chunk.len
  aligned : sectorSize ∣ chunk.len
  flags : chunk.cmdFlags = cmdFlags
  mapped : chunk.entry ∈ kernel.maps.rows
  minor : chunk.entry.logicalMinor = minor
  start : chunk.entry.physSector.toNat ≤ chunk.physSector.toNat
  before : chunk.physSector.toNat + chunk.len / sectorSize ≤
    chunk.entry.physSector.toNat + chunk.entry.lengthSectors.toNat

/-- The chunks are the first `count` sectors of the memory, and each of these
goes where its logical sector is translated to. -/
structure Split (kernel : KernelState) (minor cmdFlags : Nat)
    (start : UInt64) (memory : List (Nat × UInt32)) (count : Nat)
    (chunks : List Chunk) : Prop where
  fits : ∀ chunk ∈ chunks, ChunkFits kernel minor cmdFlags chunk
  inside : count * sectorSize ≤ memory.length
  bytes : chunks.flatMap Chunk.bytes = memory.take (count * sectorSize)
  noWrap : start.toNat + count < 2 ^ 64
  places : (chunks.flatMap Chunk.places).map Except.ok =
    (List.range count).map fun sector =>
      translateSector minor (start + UInt64.ofNat sector) kernel

variable {Device : Type}

/-- The device after the chunks. -/
def handed (physSubmit : Device → Chunk → BlkStatus × Device)
    (device : Device) (chunks : List Chunk) : Device :=
  Transition.run (fun device chunk => (physSubmit device chunk).2) device
    chunks

/-- The device takes each of the chunks. -/
def Taken (physSubmit : Device → Chunk → BlkStatus × Device)
    (device : Device) (chunks : List Chunk) : Prop :=
  Transition.Admissible (fun device chunk => (physSubmit device chunk).2)
    (fun device chunk => (physSubmit device chunk).1 = .ok) device chunks

/-- The memory is submitted whole, or up to a sector that is unmapped, or up
to a chunk that the device refuses. -/
inductive Submitted (physSubmit : Device → Chunk → BlkStatus × Device)
    (kernel : KernelState) (minor cmdFlags : Nat) (start : UInt64)
    (memory : List (Nat × UInt32)) (device : Device) :
    Submission Device → Prop where
  | whole {count : Nat} {chunks : List Chunk}
      (split : Split kernel minor cmdFlags start memory count chunks)
      (all : count * sectorSize = memory.length)
      (taken : Taken physSubmit device chunks) :
      Submitted physSubmit kernel minor cmdFlags start memory device
        ⟨.ok, start + UInt64.ofNat count, chunks,
          handed physSubmit device chunks⟩
  | unmapped {status : BlkStatus} {count : Nat} {chunks : List Chunk}
      (split : Split kernel minor cmdFlags start memory count chunks)
      (early : count * sectorSize < memory.length)
      (taken : Taken physSubmit device chunks)
      (missing : Unmapped kernel minor (start + UInt64.ofNat count))
      (failed : status ≠ .ok) :
      Submitted physSubmit kernel minor cmdFlags start memory device
        ⟨status, start + UInt64.ofNat count, chunks,
          handed physSubmit device chunks⟩
  | refused {count more : Nat} {chunks : List Chunk} {last : Chunk}
      (split : Split kernel minor cmdFlags start memory count chunks)
      (attempted : Split kernel minor cmdFlags start memory (count + more)
        (chunks ++ [last]))
      (taken : Taken physSubmit device chunks)
      (failed : (physSubmit (handed physSubmit device chunks) last).1 ≠ .ok) :
      Submitted physSubmit kernel minor cmdFlags start memory device
        ⟨(physSubmit (handed physSubmit device chunks) last).1,
          start + UInt64.ofNat count, chunks ++ [last],
          (physSubmit (handed physSubmit device chunks) last).2⟩

end Exact

section Pieces

variable {kernel : KernelState} {minor cmdFlags count more : Nat}
  {start : UInt64} {memory rest : List (Nat × UInt32)}
  {chunks later : List Chunk}

@[simp] theorem memoryBytes_length (page len : Nat) (offset : UInt32) :
    (memoryBytes page offset len).length = len := by
  simp [memoryBytes]

theorem memoryBytes_append (page first second : Nat) (offset : UInt32) :
    memoryBytes page offset (first + second) =
      memoryBytes page offset first ++
        memoryBytes page (offset + UInt32.ofNat first) second := by
  simp [memoryBytes, List.range_add, UInt32.ofNat_add, UInt32.add_assoc,
    Function.comp_def]

theorem Split.nil (kernel : KernelState) (minor cmdFlags : Nat)
    (start : UInt64) (memory : List (Nat × UInt32)) :
    Split kernel minor cmdFlags start memory 0 [] := by
  constructor
  · simp
  · simp
  · simp
  · exact start.toNat_lt
  · rfl

theorem Split.extend (rest : List (Nat × UInt32))
    (split : Split kernel minor cmdFlags start memory count chunks) :
    Split kernel minor cmdFlags start (memory ++ rest) count chunks := by
  constructor
  · exact split.fits
  · have inside := split.inside
    rw [List.length_append]
    omega
  · rw [List.take_append_of_le_length split.inside]
    exact split.bytes
  · exact split.noWrap
  · exact split.places

theorem ofNat_toNat_add (noWrap : start.toNat + count < 2 ^ 64) :
    (start + UInt64.ofNat count).toNat = start.toNat + count := by
  have small : count < 2 ^ 64 := by omega
  rw [UInt64.toNat_add, UInt64.toNat_ofNat_of_lt' small,
    Nat.mod_eq_of_lt noWrap]

theorem Split.append
    (split : Split kernel minor cmdFlags start memory count chunks)
    (all : count * sectorSize = memory.length)
    (next : Split kernel minor cmdFlags (start + UInt64.ofNat count) rest more
      later) :
    Split kernel minor cmdFlags start (memory ++ rest) (count + more)
      (chunks ++ later) := by
  have noWrap := next.noWrap
  rw [ofNat_toNat_add split.noWrap] at noWrap
  constructor
  · intro chunk member
    rcases List.mem_append.mp member with early | late
    · exact split.fits chunk early
    · exact next.fits chunk late
  · have inside := next.inside
    rw [Nat.add_mul, all, List.length_append]
    omega
  · rw [List.flatMap_append, split.bytes, next.bytes, all, List.take_length,
      Nat.add_mul, all, List.take_length_add_append]
  · omega
  · rw [List.flatMap_append, List.map_append, split.places, next.places,
      List.range_add, List.map_append, List.map_map]
    congr 1
    apply List.map_congr_left
    intro sector _
    simp only [Function.comp_apply, UInt64.ofNat_add, UInt64.add_assoc]

end Pieces

section Extents

variable {kernel : KernelState} {minor : Nat} {sector : UInt64}
  {entry : MapEntry}

/-- The extents of a table are found by what they cover. -/
theorem MinorFits.only (fits : MinorFits kernel minor) {first second : MapEntry}
    (firstMember : first ∈ kernel.maps.rows)
    (secondMember : second ∈ kernel.maps.rows)
    (left : Covers first minor sector) (right : Covers second minor sector) :
    first = second := by
  by_contra different
  have symmetric : Std.Symm fun first second : MapEntry =>
      ∀ sector, ¬(Covers first minor sector ∧ Covers second minor sector) :=
    ⟨fun _ _ apart sector both => apart sector both.symm⟩
  exact fits.disjoint.forall firstMember secondMember different sector
    ⟨left, right⟩

theorem MinorFits.translate (fits : MinorFits kernel minor)
    (member : entry ∈ kernel.maps.rows)
    (covered : Covers entry minor sector) :
    translateSector minor sector kernel =
      .ok (entry, entry.physSector + (sector - entry.logicalSector)) := by
  have found : mapQuery minor sector kernel = .ok entry := by
    cases looked : mapQuery minor sector kernel with
    | error errno =>
        exact ((mapQuery_error_iff.mp looked).2 entry member covered).elim
    | ok other =>
        obtain ⟨otherMember, otherCovers⟩ := mapQuery_ok looked
        rw [fits.only otherMember member otherCovers covered]
  have physical := fits.physical entry member covered.minor
  have before := covered.before
  have start := covered.start
  rw [translateSector_eq found, if_pos (by omega)]

theorem MinorFits.entryEnd (fits : MinorFits kernel minor)
    (member : entry ∈ kernel.maps.rows)
    (covered : Covers entry minor sector) :
    entry.entryEnd.toNat =
      entry.logicalSector.toNat + entry.lengthSectors.toNat := by
  have logical := fits.logical entry member covered.minor
  rw [MapEntry.entryEnd, UInt64.toNat_add, Nat.mod_eq_of_lt logical]

/-- What one round of the loop does: it ends at an unmapped sector, or cuts a
chunk of whole sectors of the extent. -/
theorem MinorFits.nextChunk (fits : MinorFits kernel minor)
    (sector : UInt64) {bytesLeft : Nat} (left : 0 < bytesLeft)
    (aligned : sectorSize ∣ bytesLeft) :
    Unmapped kernel minor sector ∧
        Kernel.nextChunk minor sector bytesLeft kernel = .error .ioerr ∨
      ∃ entry sectors, entry ∈ kernel.maps.rows ∧ Covers entry minor sector ∧
        0 < sectors ∧ sectors * sectorSize ≤ bytesLeft ∧
        sector.toNat + sectors ≤
          entry.logicalSector.toNat + entry.lengthSectors.toNat ∧
        Kernel.nextChunk minor sector bytesLeft kernel =
          .ok (entry, entry.physSector + (sector - entry.logicalSector),
            sectors * sectorSize) := by
  cases looked : mapQuery minor sector kernel with
  | error errno =>
      obtain ⟨rfl, unmapped⟩ := mapQuery_error_iff.mp looked
      left
      refine ⟨unmapped, ?_⟩
      simp only [Kernel.nextChunk, translateSector, looked, errnoToBlkStatus]
  | ok entry =>
      obtain ⟨member, covered⟩ := mapQuery_ok looked
      obtain ⟨sectors, nonempty, few, inside, cut⟩ := nextChunk_of_translated
        (fits.entryEnd member covered) (fits.translate member covered) left
        aligned
      exact .inr ⟨entry, sectors, member, covered, nonempty, few, inside, cut⟩

/-- A chunk of the extent that covers its first sector is a split of its own
memory. -/
theorem MinorFits.chunk (fits : MinorFits kernel minor)
    (member : entry ∈ kernel.maps.rows) (covered : Covers entry minor sector)
    (bvec : BioVec) (cmdFlags done : Nat) {sectors : Nat}
    (nonempty : 0 < sectors)
    (inside : sector.toNat + sectors ≤
      entry.logicalSector.toNat + entry.lengthSectors.toNat) :
    Split kernel minor cmdFlags sector
      (memoryBytes bvec.page (bvec.offset + UInt32.ofNat done)
        (sectors * sectorSize)) sectors
      [bvec.chunk entry
        (entry.physSector + (sector - entry.logicalSector)) cmdFlags done
        (sectors * sectorSize)] := by
  have logical := fits.logical entry member covered.minor
  have physical := fits.physical entry member covered.minor
  have start := covered.start
  have before := covered.before
  have whole : sectors * sectorSize / sectorSize = sectors :=
    Nat.mul_div_cancel sectors (by decide)
  have physSector : (entry.physSector +
      (sector - entry.logicalSector)).toNat =
        entry.physSector.toNat +
          (sector.toNat - entry.logicalSector.toNat) := by
    rw [UInt64.toNat_add, sub_toNat start, Nat.mod_eq_of_lt (by omega)]
  have physStart : entry.physSector.toNat ≤
      (entry.physSector + (sector - entry.logicalSector)).toNat := by
    omega
  have physEnd : (entry.physSector + (sector - entry.logicalSector)).toNat +
      sectors * sectorSize / sectorSize ≤
        entry.physSector.toNat + entry.lengthSectors.toNat := by
    omega
  constructor
  · intro chunk single
    obtain rfl := List.mem_singleton.mp single
    constructor
    · exact Nat.mul_pos nonempty (by decide)
    · exact Nat.dvd_mul_left _ _
    · rfl
    · exact member
    · exact covered.minor
    · exact physStart
    · exact physEnd
  · rw [memoryBytes_length]
  · rw [List.flatMap_singleton, List.take_of_length_le]
    · rfl
    · rw [memoryBytes_length]
  · omega
  · rw [List.flatMap_singleton, Chunk.places, BioVec.chunk, whole,
      List.map_map]
    apply List.map_congr_left
    intro index small
    have few := List.mem_range.mp small
    have later : (sector + UInt64.ofNat index).toNat =
        sector.toNat + index := ofNat_toNat_add (by omega)
    have coveredLater : Covers entry minor (sector + UInt64.ofNat index) :=
      ⟨covered.minor, by omega, by omega⟩
    have shifted : entry.physSector + (sector - entry.logicalSector) +
        UInt64.ofNat index = entry.physSector +
          (sector + UInt64.ofNat index - entry.logicalSector) := by
      grind
    rw [fits.translate member coveredLater, Function.comp_apply, shifted]

end Extents

section Runs

variable {Device : Type} {physSubmit : Device → Chunk → BlkStatus × Device}
  {kernel : KernelState} {minor cmdFlags count : Nat} {start : UInt64}
  {memory rest : List (Nat × UInt32)} {chunks : List Chunk} {device : Device}
  {result : Submission Device}

/-- What follows a piece of memory that was submitted whole. -/
theorem Submitted.prepend
    (split : Split kernel minor cmdFlags start memory count chunks)
    (all : count * sectorSize = memory.length)
    (taken : Taken physSubmit device chunks)
    (next : Submitted physSubmit kernel minor cmdFlags
      (start + UInt64.ofNat count) rest (handed physSubmit device chunks)
      result) :
    Submitted physSubmit kernel minor cmdFlags start (memory ++ rest) device
      (result.prepend chunks) := by
  have sectors : ∀ more, start + UInt64.ofNat count + UInt64.ofNat more =
      start + UInt64.ofNat (count + more) := by
    intro more
    rw [UInt64.add_assoc, UInt64.ofNat_add]
  have devices : ∀ later, handed physSubmit (handed physSubmit device chunks)
      later = handed physSubmit device (chunks ++ later) := by
    intro later
    exact (Transition.run_append _ _ _ _).symm
  have takes : ∀ later,
      Taken physSubmit (handed physSubmit device chunks) later →
        Taken physSubmit device (chunks ++ later) := by
    intro later more
    exact Transition.Admissible.join taken more
  cases next with
  | @whole more later nextSplit nextAll nextTaken =>
      rw [sectors, devices]
      apply Submitted.whole
      · exact split.append all nextSplit
      · rw [Nat.add_mul, all, nextAll, List.length_append]
      · exact takes later nextTaken
  | @unmapped status more later nextSplit early nextTaken missing failed =>
      rw [sectors] at missing ⊢
      rw [devices]
      apply Submitted.unmapped
      · exact split.append all nextSplit
      · rw [Nat.add_mul, all, List.length_append]
        omega
      · exact takes later nextTaken
      · exact missing
      · exact failed
  | @refused more extra later last nextSplit attempted nextTaken failed =>
      have whole := split.append all attempted
      rw [devices] at failed ⊢
      rw [sectors]
      have joined : Submission.prepend chunks
          ⟨(physSubmit (handed physSubmit device (chunks ++ later)) last).1,
            start + UInt64.ofNat (count + more), later ++ [last],
            (physSubmit (handed physSubmit device (chunks ++ later)) last).2⟩ =
          ⟨(physSubmit (handed physSubmit device (chunks ++ later)) last).1,
            start + UInt64.ofNat (count + more), chunks ++ later ++ [last],
            (physSubmit (handed physSubmit device (chunks ++ later))
              last).2⟩ := by
        rw [Submission.prepend, List.append_assoc]
      rw [joined]
      apply Submitted.refused
      · exact split.append all nextSplit
      · rw [List.append_assoc, Nat.add_assoc]
        exact whole
      · exact takes later nextTaken
      · exact failed

/-- A submission that has stopped leaves the rest of the memory alone. -/
theorem Submitted.stop (rest : List (Nat × UInt32))
    (submitted : Submitted physSubmit kernel minor cmdFlags start memory device
      result) (failed : result.status ≠ .ok) :
    Submitted physSubmit kernel minor cmdFlags start (memory ++ rest) device
      result := by
  cases submitted with
  | whole _ _ _ => exact (failed rfl).elim
  | unmapped split early taken missing failed =>
      apply Submitted.unmapped
      · exact split.extend rest
      · rw [List.length_append]
        omega
      · exact taken
      · exact missing
      · exact failed
  | refused split attempted taken failed =>
      exact .refused (split.extend rest) (attempted.extend rest) taken failed

theorem Submitted.nil (start : UInt64) (device : Device) :
    Submitted physSubmit kernel minor cmdFlags start [] device
      ⟨.ok, start, [], device⟩ := by
  have none : Submitted physSubmit kernel minor cmdFlags start [] device
      ⟨.ok, start + UInt64.ofNat 0, [], device⟩ :=
    .whole (.nil kernel minor cmdFlags start []) (Nat.zero_mul _) trivial
  have same : start + UInt64.ofNat 0 = start := UInt64.add_zero start
  rwa [same] at none

theorem Submitted.atUnmapped {status : BlkStatus} (some : 0 < memory.length)
    (missing : Unmapped kernel minor start) (failed : status ≠ .ok) :
    Submitted physSubmit kernel minor cmdFlags start memory device
      ⟨status, start, [], device⟩ := by
  have same : start + UInt64.ofNat 0 = start := UInt64.add_zero start
  have stopped : Submitted physSubmit kernel minor cmdFlags start memory device
      ⟨status, start + UInt64.ofNat 0, [], device⟩ := by
    apply Submitted.unmapped
    · exact .nil kernel minor cmdFlags start memory
    · rw [Nat.zero_mul]
      exact some
    · trivial
    · rw [same]
      exact missing
    · exact failed
  rwa [same] at stopped

theorem Submitted.atRefusal {more : Nat} {chunk : Chunk}
    (attempted : Split kernel minor cmdFlags start memory more [chunk])
    (failed : (physSubmit device chunk).1 ≠ .ok) :
    Submitted physSubmit kernel minor cmdFlags start memory device
      ⟨(physSubmit device chunk).1, start, [chunk],
        (physSubmit device chunk).2⟩ := by
  have same : start + UInt64.ofNat 0 = start := UInt64.add_zero start
  have stopped : Submitted physSubmit kernel minor cmdFlags start memory device
      ⟨(physSubmit (handed physSubmit device []) chunk).1,
        start + UInt64.ofNat 0, [] ++ [chunk],
        (physSubmit (handed physSubmit device []) chunk).2⟩ := by
    apply Submitted.refused
    · exact .nil kernel minor cmdFlags start memory
    · rw [Nat.zero_add]
      exact attempted
    · trivial
    · exact failed
  rw [same] at stopped
  exact stopped

section Rounds

variable {bvec : BioVec} {sector physSector : UInt64} {done bytes : Nat}
  {entry : MapEntry}

theorem submitChunks_stop {status : BlkStatus} (more : ¬bvec.len.toNat ≤ done)
    (cut : Kernel.nextChunk minor sector (bvec.len.toNat - done) kernel =
      .error status) :
    submitChunks physSubmit kernel minor cmdFlags bvec sector done device =
      ⟨status, sector, [], device⟩ := by
  rw [submitChunks, if_neg more]
  split
  · rename_i stopped
    rw [cut] at stopped
    cases stopped
    rfl
  · rename_i going
    rw [cut] at going
    cases going

theorem submitChunks_chunk (more : ¬bvec.len.toNat ≤ done)
    (cut : Kernel.nextChunk minor sector (bvec.len.toNat - done) kernel =
      .ok (entry, physSector, bytes)) :
    submitChunks physSubmit kernel minor cmdFlags bvec sector done device =
      let chunk := bvec.chunk entry physSector cmdFlags done bytes
      match physSubmit device chunk with
      | (.ok, next) =>
          (submitChunks physSubmit kernel minor cmdFlags bvec
            (sector + UInt64.ofNat (bytes / sectorSize)) (done + bytes)
            next).prepend [chunk]
      | (status, next) => ⟨status, sector, [chunk], next⟩ := by
  rw [submitChunks, if_neg more]
  split
  · rename_i stopped
    rw [cut] at stopped
    cases stopped
  · rename_i going
    rw [cut] at going
    cases going
    rfl

end Rounds

theorem MinorFits.submitChunks (fits : MinorFits kernel minor)
    (bvec : BioVec) (start : UInt64) {done : Nat}
    (aligned : sectorSize ∣ bvec.len.toNat - done) (device : Device) :
    Submitted physSubmit kernel minor cmdFlags start
      (memoryBytes bvec.page (bvec.offset + UInt32.ofNat done)
        (bvec.len.toNat - done)) device
      (submitChunks physSubmit kernel minor cmdFlags bvec start done
        device) := by
  obtain ⟨left, counted⟩ : ∃ left, left = bvec.len.toNat - done := ⟨_, rfl⟩
  induction left using Nat.strong_induction_on
    generalizing start done device with
  | _ left induction =>
      by_cases finished : bvec.len.toNat ≤ done
      · have empty : bvec.len.toNat - done = 0 := by omega
        rw [Kernel.submitChunks, if_pos finished, empty]
        exact .nil start device
      · have some : 0 < bvec.len.toNat - done := by omega
        rcases fits.nextChunk start some aligned with
          ⟨unmapped, stopped⟩ |
          ⟨entry, sectors, member, covered, nonempty, few, inside, cut⟩
        · rw [submitChunks_stop finished stopped]
          apply Submitted.atUnmapped
          · rw [memoryBytes_length]
            exact some
          · exact unmapped
          · intro accepted
            cases accepted
        · have parted : bvec.len.toNat - done = sectors * sectorSize +
              (bvec.len.toNat - (done + sectors * sectorSize)) := by
            omega
          have split := fits.chunk member covered bvec cmdFlags done nonempty
            inside
          have advance : bvec.offset + UInt32.ofNat done +
              UInt32.ofNat (sectors * sectorSize) =
                bvec.offset + UInt32.ofNat (done + sectors * sectorSize) := by
            rw [UInt32.add_assoc, ← UInt32.ofNat_add]
          have whole : sectors * sectorSize / sectorSize = sectors :=
            Nat.mul_div_cancel sectors (by decide)
          have progress : 0 < sectors * sectorSize :=
            Nat.mul_pos nonempty (by decide)
          have later : sectorSize ∣
              bvec.len.toNat - (done + sectors * sectorSize) := by
            rw [← Nat.sub_sub]
            exact Nat.dvd_sub aligned (Nat.dvd_mul_left _ _)
          rw [submitChunks_chunk finished cut, parted, memoryBytes_append,
            advance]
          simp only
          cases answered : physSubmit device (bvec.chunk entry
            (entry.physSector + (start - entry.logicalSector)) cmdFlags done
            (sectors * sectorSize)) with
          | mk status next =>
              by_cases accepted : status = .ok
              · subst accepted
                have rest := induction _ (by omega)
                  (start + UInt64.ofNat sectors) later next rfl
                rw [whole]
                apply Submitted.prepend split
                · rw [memoryBytes_length]
                · exact ⟨congrArg Prod.fst answered, trivial⟩
                · have after : handed physSubmit device [bvec.chunk entry
                      (entry.physSector + (start - entry.logicalSector))
                      cmdFlags done (sectors * sectorSize)] = next :=
                    congrArg Prod.snd answered
                  rw [after]
                  exact rest
              · have refused : Submitted physSubmit kernel minor cmdFlags start
                    _ device _ := Submitted.atRefusal split (by
                      rw [answered]
                      exact accepted)
                rw [answered] at refused
                have stopped := refused.stop (memoryBytes bvec.page
                  (bvec.offset + UInt32.ofNat (done + sectors * sectorSize))
                  (bvec.len.toNat - (done + sectors * sectorSize))) accepted
                cases status with
                | ok => exact (accepted rfl).elim
                | resource | notsupp | ioerr => exact stopped

theorem MinorFits.submitBvec (fits : MinorFits kernel minor) {bvec : BioVec}
    (aligned : sectorSize ∣ bvec.len.toNat) (start : UInt64)
    (device : Device) :
    Submitted physSubmit kernel minor cmdFlags start bvec.bytes device
      (submitBvec physSubmit kernel minor cmdFlags bvec start device) := by
  rw [Kernel.submitBvec, Nat.mod_eq_zero_of_dvd aligned]
  have submitted : Submitted physSubmit kernel minor cmdFlags start
      (memoryBytes bvec.page (bvec.offset + UInt32.ofNat 0)
        (bvec.len.toNat - 0)) device _ :=
    fits.submitChunks bvec start aligned device
  have same : bvec.offset + UInt32.ofNat 0 = bvec.offset :=
    UInt32.add_zero _
  rw [same] at submitted
  exact submitted

theorem MinorFits.submitSegments (fits : MinorFits kernel minor)
    {segments : List BioVec}
    (aligned : ∀ segment ∈ segments, sectorSize ∣ segment.len.toNat)
    (start : UInt64) (device : Device) :
    Submitted physSubmit kernel minor cmdFlags start
      (segments.flatMap BioVec.bytes) device
      (submitSegments physSubmit kernel minor cmdFlags segments start
        device) := by
  induction segments generalizing start device with
  | nil => exact .nil start device
  | cons bvec segments induction =>
      have first : Submitted physSubmit kernel minor cmdFlags start bvec.bytes
          device _ :=
        fits.submitBvec (aligned bvec List.mem_cons_self) start device
      have rest := induction fun segment member =>
        aligned segment (List.mem_cons_of_mem bvec member)
      rw [Kernel.submitSegments, List.flatMap_cons]
      generalize Kernel.submitBvec physSubmit kernel minor cmdFlags bvec start
        device = result at first ⊢
      split
      · rename_i failed
        exact first.stop _ failed
      · rename_i accepted
        cases first with
        | whole split all taken => exact .prepend split all taken (rest _ _)
        | unmapped _ _ _ _ failed => exact (accepted failed).elim
        | refused _ _ _ failed => exact (accepted failed).elim

theorem Split.mapped
    (split : Split kernel minor cmdFlags start memory count chunks)
    {sector : Nat} (small : sector < count) :
    ¬Unmapped kernel minor (start + UInt64.ofNat sector) := by
  intro unmapped
  have listed : translateSector minor (start + UInt64.ofNat sector) kernel ∈
      (List.range count).map fun sector =>
        translateSector minor (start + UInt64.ofNat sector) kernel :=
    List.mem_map_of_mem (List.mem_range.mpr small)
  rw [← split.places] at listed
  obtain ⟨place, _, translated⟩ := List.mem_map.mp listed
  obtain ⟨member, covered⟩ := mapQuery_ok
    (translateSector_ok translated.symm)
  exact unmapped place.1 member covered

/-- The status says whether every sector was mapped and every chunk taken. -/
theorem Submitted.ok_iff
    (submitted : Submitted physSubmit kernel minor cmdFlags start memory device
      result) :
    result.status = .ok ↔
      (∀ sector, sector * sectorSize < memory.length →
        ¬Unmapped kernel minor (start + UInt64.ofNat sector)) ∧
      Taken physSubmit device result.chunks := by
  cases submitted with
  | whole split all taken =>
      refine iff_of_true rfl ⟨fun sector small => ?_, taken⟩
      rw [← all] at small
      exact split.mapped (Nat.lt_of_mul_lt_mul_right small)
  | unmapped _ early _ missing failed =>
      apply iff_of_false failed
      intro served
      exact served.1 _ early missing
  | refused _ _ _ failed =>
      apply iff_of_false failed
      intro served
      exact failed served.2.append.2.1

/-- A request is split exactly: its chunks are its memory in order, sector by
sector sent where the translation says, up to the first sector that is
unmapped or refused. -/
theorem submitSegments_exact (fits : MinorFits kernel minor)
    (physSubmit : Device → Chunk → BlkStatus × Device) (cmdFlags : Nat)
    {segments : List BioVec}
    (aligned : ∀ segment ∈ segments, sectorSize ∣ segment.len.toNat)
    (start : UInt64) (device : Device) :
    let memory := segments.flatMap BioVec.bytes
    let result :=
      submitSegments physSubmit kernel minor cmdFlags segments start device
    Submitted physSubmit kernel minor cmdFlags start memory device result ∧
      (result.status = .ok ↔
        (∀ sector, sector * sectorSize < memory.length →
          ¬Unmapped kernel minor (start + UInt64.ofNat sector)) ∧
        Taken physSubmit device result.chunks) := by
  have submitted : Submitted physSubmit kernel minor cmdFlags start _ device
      _ := fits.submitSegments aligned start device
  exact ⟨submitted, submitted.ok_iff⟩

theorem disjoint_of_isolated
    (apart : Regions.Isolated (kernel.maps.rows.map MapEntry.logicalRange))
    (minor : Nat) :
    kernel.maps.rows.Pairwise fun first second =>
      ∀ sector, ¬(Covers first minor sector ∧ Covers second minor sector) := by
  apply (List.pairwise_map.mp apart).imp
  intro first second separated sector both
  exact not_apart_of_covers both.1 both.2 separated

/-- Two extents behind each other, and two segments that cross from one to
the other. -/
def twoExtents : KernelState :=
  Transition.run ioctlStep .loaded
    [.logdevCreate eightSectors none, .mapAdd sixteenSectors,
      .mapAdd { sixteenSectors with
        logicalSector := 16, lengthSectors := 8, physSector := 4096 }]

def twoSegments : List BioVec :=
  [⟨1, 4096, 0⟩, ⟨2, 8192, 0⟩]

def countChunks (taken : Nat) (_ : Chunk) : BlkStatus × Nat :=
  (.ok, taken + 1)

theorem twoExtents_fit : MinorFits twoExtents 0 := by
  constructor
  · apply disjoint_of_isolated
    decide +kernel
  · decide +kernel
  · decide +kernel

theorem submitSegments_exact_twoExtents :
    let result := submitSegments countChunks twoExtents 0 1 twoSegments 0 0
    Submitted countChunks twoExtents 0 1 0 (twoSegments.flatMap BioVec.bytes)
        0 result ∧
      (result.status = .ok ↔
        (∀ sector, sector * sectorSize <
            (twoSegments.flatMap BioVec.bytes).length →
          ¬Unmapped twoExtents 0 (0 + UInt64.ofNat sector)) ∧
        Taken countChunks 0 result.chunks) :=
  submitSegments_exact twoExtents_fit countChunks 1 (by decide) 0 0

end Runs

section Tables

variable {kernel : KernelState}

/-- Well-formed tables fit every minor. -/
theorem MappingsFit.minorFits (fit : MappingsFit kernel) (minor : Nat) :
    MinorFits kernel minor := by
  constructor
  · exact disjoint_of_isolated fit.apart minor
  · intro entry member _
    obtain ⟨req, _, inside⟩ := (fit.fits entry member).logical
    have capacity := req.capacitySectors.toNat_lt
    omega
  · intro entry member _
    exact (fit.fits entry member).physical

/-- What happens to a request: it is rejected before anything is submitted, or
its segments are split. -/
theorem rqWorkfn_exact {Device : Type} (fit : MappingsFit kernel)
    (physSubmit : Device → Chunk → BlkStatus × Device) (rq : Request)
    (aligned : ∀ segment ∈ rq.segments, sectorSize ∣ segment.len.toNat)
    (device : Device) :
    (∃ status, status ≠ .ok ∧ rqWorkfn physSubmit kernel rq device =
        ⟨status, rq.pos, [], device⟩) ∨
      ∃ req, rq.slot.bind kernel.logdevs.get = some req ∧
        Submitted physSubmit kernel req.minor rq.cmdFlags rq.pos
          (rq.segments.flatMap BioVec.bytes) device
          (rqWorkfn physSubmit kernel rq device) := by
  cases active : rq.slot.bind kernel.logdevs.get with
  | none =>
      refine .inl ⟨.ioerr, fun same => ?_, ?_⟩
      · cases same
      · simp only [rqWorkfn, active]
  | some req =>
      by_cases passthrough : rq.passthrough = true
      · refine .inl ⟨.ioerr, fun same => ?_, ?_⟩
        · cases same
        · simp only [rqWorkfn, active, passthrough, if_true]
      · by_cases unsupported : rq.op ≠ .read ∧ rq.op ≠ .write
        · refine .inl ⟨.notsupp, fun same => ?_, ?_⟩
          · cases same
          · simp only [rqWorkfn, active, if_neg passthrough,
              if_pos unsupported]
        · refine .inr ⟨req, rfl, ?_⟩
          have submitted : Submitted physSubmit kernel req.minor rq.cmdFlags
              rq.pos _ device _ :=
            (fit.minorFits req.minor).submitSegments aligned rq.pos device
          simp only [rqWorkfn, active, if_neg passthrough,
            if_neg unsupported]
          exact submitted

end Tables

end UbseSsu.Kernel

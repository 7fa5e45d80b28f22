import UbseSsu.Kernel.Storage

/-!
# Requests in flight

`ssu_reqshim_queue_rq` hands every request to a worker of its own, so any
number of requests is in flight while the ioctls change the tables.  A worker
takes turns: it checks the slot, then cuts a chunk under `map_lock` and
submits it without the lock, one after the other, and ends the request.

`Known` is beside the machine: it is what somebody who sees the requests and
their answers may rely on.  A write makes its sectors unknown while it is in
flight, a request that ends with `BLK_STS_OK` makes them known, and a sector
that loses its mapping is forgotten.
-/

namespace UbseSsu.Kernel.Workers

open Blocks Scatter

/-- Where a worker stands: before its checks, or in front of the next chunk of
the first of the segments, or behind the translation of that chunk. -/
inductive Place where
  | queued
  | cutting (segments : List BioVec) (done : Nat) (logicalSector : UInt64)
  | submitting (segments : List BioVec) (done : Nat) (logicalSector : UInt64)
      (chunk : Chunk)

/-- A `struct reqshim_rq_work`, with the memory of its request, which no other
request in flight shares. -/
structure RqWork where
  rq : Request
  pages : Pages
  place : Place

inductive Progress where
  | reached (place : Place)
  | ended (status : BlkStatus)

/-- What `blk_mq_end_request` is told, and the memory at that time. -/
structure Ended where
  tag : Nat
  rq : Request
  status : BlkStatus
  pages : Pages

structure Machine (Bdev : Type) where
  kernel : KernelState
  disks : Bdev → List UInt8
  works : Nat → Option RqWork
  ended : List Ended

inductive Event where
  | ioctl (request : Ioctl)
  | queueRq (tag : Nat) (rq : Request) (pages : Pages) (allocated : Bool)
  | turn (tag : Nat) (answer : BioAnswer)

section Code

/-- `slot->req.minor`; a slot that was cleared reads as 0. -/
def slotMinor (kernel : KernelState) (rq : Request) : Nat :=
  ((rq.slot.bind kernel.logdevs.get).map LogdevReq.minor).getD 0

/-- `ssu_reqshim_rq_workfn` up to its loop. -/
def start (kernel : KernelState) (rq : Request) : Progress :=
  match rq.slot.bind kernel.logdevs.get with
  | none => .ended .ioerr
  | some _ =>
      if rq.passthrough then .ended .ioerr
      else if rq.op ≠ .read ∧ rq.op ≠ .write then .ended .notsupp
      else .reached (.cutting rq.segments 0 rq.pos)

/-- From the head of a loop to the submission of the next chunk. -/
def cut (kernel : KernelState) (rq : Request) (done : Nat)
    (logicalSector : UInt64) : List BioVec → Progress
  | [] => .ended .ok
  | bvec :: segments =>
      if done = 0 ∧ bvec.len.toNat % sectorSize ≠ 0 then .ended .ioerr
      else if bvec.len.toNat ≤ done then
        .reached (.cutting segments 0 logicalSector)
      else
        match nextChunk (slotMinor kernel rq) logicalSector
          (bvec.len.toNat - done) kernel with
        | .error status => .ended status
        | .ok (entry, physSector, bytes) =>
            .reached (.submitting (bvec :: segments) done logicalSector
              (bvec.chunk entry physSector rq.cmdFlags done bytes))

def submitted (segments : List BioVec) (done : Nat) (logicalSector : UInt64)
    (chunk : Chunk) : BlkStatus → Progress
  | .ok =>
      .reached (.cutting segments (done + chunk.len)
        (logicalSector + UInt64.ofNat (chunk.len / sectorSize)))
  | status => .ended status

variable {Bdev : Type} [DecidableEq Bdev] (bdevOf : MapEntry → Bdev)

def Machine.loaded (disks : Bdev → List UInt8) : Machine Bdev :=
  { kernel := .loaded
    disks
    works := fun _ => none
    ended := [] }

def RqWork.turn (kernel : KernelState) (answer : BioAnswer)
    (disks : Bdev → List UInt8) (work : RqWork) : Progress × Storage Bdev :=
  match work.place with
  | .queued => (start kernel work.rq, ⟨work.pages, disks⟩)
  | .cutting segments done logicalSector =>
      (cut kernel work.rq done logicalSector segments, ⟨work.pages, disks⟩)
  | .submitting segments done logicalSector chunk =>
      let result := physSubmitBvec bdevOf answer chunk ⟨work.pages, disks⟩
      (submitted segments done logicalSector chunk result.1, result.2)

/-- `ssu_reqshim_queue_rq`, with the answer of `kzalloc`. -/
def queueRq (tag : Nat) (rq : Request) (pages : Pages) (allocated : Bool)
    (machine : Machine Bdev) : BlkStatus × Machine Bdev :=
  if !allocated then (.resource, machine)
  else
    (.ok, { machine with
      works := Function.update machine.works tag
        (some { rq, pages, place := .queued }) })

def turn (tag : Nat) (answer : BioAnswer) (machine : Machine Bdev) :
    Machine Bdev :=
  match machine.works tag with
  | none => machine
  | some work =>
      match work.turn bdevOf machine.kernel answer machine.disks with
      | (.reached place, storage) =>
          { machine with
            disks := storage.disks
            works := Function.update machine.works tag
              (some { work with pages := storage.pages, place }) }
      | (.ended status, storage) =>
          { machine with
            disks := storage.disks
            works := Function.update machine.works tag none
            ended := ⟨tag, work.rq, status, storage.pages⟩ :: machine.ended }

def step (machine : Machine Bdev) : Event → Machine Bdev
  | .ioctl request =>
      { machine with kernel := ioctlStep machine.kernel request }
  | .queueRq tag rq pages allocated =>
      (queueRq tag rq pages allocated machine).2
  | .turn tag answer => turn bdevOf tag answer machine

end Code

section Known

def memoryOf (rq : Request) : List (Nat × UInt32) :=
  rq.segments.flatMap BioVec.bytes

def sectorsOf (rq : Request) : Nat :=
  (memoryOf rq).length / sectorSize

/-- The sectors that a request asks for. -/
structure Asks (rq : Request) (minor : Nat) (sector : UInt64) : Prop where
  minor : rq.slot = some minor
  start : rq.pos.toNat ≤ sector.toNat
  before : sector.toNat < rq.pos.toNat + sectorsOf rq

theorem asks_iff {rq : Request} {minor : Nat} {sector : UInt64} :
    Asks rq minor sector ↔ rq.slot = some minor ∧
      rq.pos.toNat ≤ sector.toNat ∧
      sector.toNat < rq.pos.toNat + sectorsOf rq :=
  ⟨fun asks => ⟨asks.minor, asks.start, asks.before⟩,
    fun ⟨minor, start, before⟩ => ⟨minor, start, before⟩⟩

instance (rq : Request) (minor : Nat) (sector : UInt64) :
    Decidable (Asks rq minor sector) :=
  decidable_of_iff _ asks_iff.symm

/-- What the memory of a request holds for one of its sectors. -/
def sectorOf (rq : Request) (pages : Pages) (sector : UInt64) : List UInt8 :=
  slice ((memoryOf rq).map pages) sectorSize (sector.toNat - rq.pos.toNat)

abbrev Known := Nat → UInt64 → Option (List UInt8)

def Known.nothing : Known := fun _ _ => none

def Known.forget (rq : Request) (known : Known) : Known :=
  fun minor sector =>
    if Asks rq minor sector then none else known minor sector

def Known.learn (rq : Request) (pages : Pages) (known : Known) : Known :=
  fun minor sector =>
    if Asks rq minor sector then some (sectorOf rq pages sector)
    else known minor sector

def Known.keepMapped (kernel : KernelState) (known : Known) : Known :=
  fun minor sector =>
    match mapQuery minor sector kernel with
    | .ok _ => known minor sector
    | .error _ => none

variable {Bdev : Type} [DecidableEq Bdev] (bdevOf : MapEntry → Bdev)

def watch (machine : Machine Bdev) (known : Known) : Event → Known
  | .ioctl request => known.keepMapped (ioctlStep machine.kernel request)
  | .queueRq _ rq _ allocated =>
      if allocated ∧ rq.op = .write then known.forget rq else known
  | .turn tag answer =>
      match machine.works tag with
      | none => known
      | some work =>
          match work.turn bdevOf machine.kernel answer machine.disks with
          | (.ended .ok, storage) => known.learn work.rq storage.pages
          | _ => known

def watchedStep (state : Machine Bdev × Known) (event : Event) :
    Machine Bdev × Known :=
  (step bdevOf state.1 event, watch bdevOf state.1 state.2 event)

end Known

section Allowed

/-- No request to the minor is in flight. -/
def Quiet {Bdev : Type} (machine : Machine Bdev) (minor : Nat) : Prop :=
  ∀ tag work, machine.works tag = some work → work.rq.slot ≠ some minor

/-- Two requests for one sector, one of them a write. -/
structure Conflicts (left right : Request) : Prop where
  writes : left.op = .write ∨ right.op = .write
  shared : ∃ minor sector, Asks left minor sector ∧ Asks right minor sector

/-- A request whose flags name its operation, and a read whose segments do
not share memory. -/
structure WellFormed (rq : Request) : Prop where
  op : rq.op = reqOp rq.cmdFlags
  distinct : rq.op = .read → (memoryOf rq).Nodup

variable {Bdev : Type} (bdevOf : MapEntry → Bdev)

/-- A new extent lies inside its device and shares no sector, logical or
physical, with another one. -/
def AddsApart (kernel : KernelState) (entry : MapEntry) : Prop :=
  KeepsToTheDevice kernel (.mapAdd entry) ∧
    (MapAddChecks kernel entry → ∀ other ∈ kernel.maps.rows,
      Regions.Apart (entry.physicalRange bdevOf)
        (other.physicalRange bdevOf))

/-- What the users of the module keep to: extents stay apart, a mapping is
taken away when nothing is in flight for its minor, and requests in flight do
not conflict. -/
def Allowed (machine : Machine Bdev) : Event → Prop
  | .ioctl (.mapAdd entry) => AddsApart bdevOf machine.kernel entry
  | .ioctl (.mapDel entry) => Quiet machine entry.logicalMinor
  | .ioctl (.logdevDestroy minor) => Quiet machine minor
  | .ioctl _ => True
  | .queueRq tag rq _ _ => machine.works tag = none ∧ WellFormed rq ∧
      ∀ other work, machine.works other = some work → ¬Conflicts rq work.rq
  | .turn _ _ => True

end Allowed

section Invariant

/-- The memory of the segments behind the first `done` bytes. -/
def remaining : List BioVec → Nat → List (Nat × UInt32)
  | [], _ => []
  | bvec :: segments, done =>
      memoryBytes bvec.page (bvec.offset + UInt32.ofNat done)
          (bvec.len.toNat - done) ++
        segments.flatMap BioVec.bytes

/-- The first `count` sectors of the memory are done. -/
structure Reached (rq : Request) (segments : List BioVec) (done : Nat)
    (sector : UInt64) (count : Nat) : Prop where
  sector : sector = rq.pos + UInt64.ofNat count
  noWrap : rq.pos.toNat + count < 2 ^ 64
  inside : count * sectorSize ≤ (memoryOf rq).length
  rest : (memoryOf rq).drop (count * sectorSize) = remaining segments done
  aligned : done ≠ 0 → sectorSize ∣ done ∧
    ∀ bvec later, segments = bvec :: later → sectorSize ∣ bvec.len.toNat

variable {Bdev : Type} (bdevOf : MapEntry → Bdev)

/-- The first `count` sectors hold what the memory of the request holds. -/
def Carried (kernel : KernelState) (disks : Bdev → List UInt8) (minor : Nat)
    (rq : Request) (pages : Pages) (count : Nat) : Prop :=
  ∀ index < count,
    logicalBlock bdevOf kernel disks minor (rq.pos + UInt64.ofNat index) =
      some (slice ((memoryOf rq).map pages) sectorSize index)

/-- The chunk of the first segment that is translated but not submitted. -/
structure Pending (kernel : KernelState) (minor : Nat) (rq : Request)
    (segments : List BioVec) (done : Nat) (sector : UInt64) (more : Nat)
    (chunk : Chunk) : Prop where
  aimed : Aimed kernel minor sector (remaining segments done) more chunk
  flags : chunk.cmdFlags = rq.cmdFlags
  first : ∃ bvec later, segments = bvec :: later ∧
    sectorSize ∣ bvec.len.toNat ∧ sectorSize ∣ done ∧
    done + chunk.len ≤ bvec.len.toNat

def PlaceSound (kernel : KernelState) (disks : Bdev → List UInt8)
    (minor : Nat) (rq : Request) (pages : Pages) : Place → Prop
  | .queued => True
  | .cutting segments done sector => ∃ count,
      Reached rq segments done sector count ∧
        Carried bdevOf kernel disks minor rq pages count
  | .submitting segments done sector chunk => ∃ count more,
      Reached rq segments done sector count ∧
        Carried bdevOf kernel disks minor rq pages count ∧
        Pending kernel minor rq segments done sector more chunk

/-- A request that has passed the checks of its worker. -/
structure Running (kernel : KernelState) (disks : Bdev → List UInt8)
    (work : RqWork) (minor : Nat) : Prop where
  slot : work.rq.slot = some minor
  live : (kernel.logdevs.get minor).isSome = true
  transfers : work.rq.op = .read ∨ work.rq.op = .write
  place : PlaceSound bdevOf kernel disks minor work.rq work.pages work.place

structure WorkSound (kernel : KernelState) (disks : Bdev → List UInt8)
    (known : Known) (work : RqWork) : Prop where
  wellFormed : WellFormed work.rq
  unknown : work.rq.op = .write → ∀ minor sector,
    Asks work.rq minor sector → known minor sector = none
  running : work.place ≠ .queued →
    ∃ minor, Running bdevOf kernel disks work minor

structure Sound (machine : Machine Bdev) (known : Known) : Prop where
  apart : ExtentsApart bdevOf machine.kernel
  keyed : ∀ minor req, machine.kernel.logdevs.get minor = some req →
    req.minor = minor
  agrees : ∀ minor sector block, known minor sector = some block →
    logicalBlock bdevOf machine.kernel machine.disks minor sector =
      some block
  works : ∀ tag work, machine.works tag = some work →
    WorkSound bdevOf machine.kernel machine.disks known work
  conflicts : ∀ tag other work otherWork, machine.works tag = some work →
    machine.works other = some otherWork → tag ≠ other →
      ¬Conflicts work.rq otherWork.rq

end Invariant

end UbseSsu.Kernel.Workers

import UbseSsu.Kernel.Requests
import UbseSsu.Library.Blocks
import UbseSsu.Library.Scatter

/-!
# What the block devices hold

`ssu_reqshim_phys_submit_bvec` sends a chunk to its block device as one bio
and waits for it.  The storage is the memory of a request and the bytes of the
block devices; which device the path of an extent opens is a parameter, and
what the block layer answers comes with the call.  A bio that fails may have
left anything in the place that it was to fill, and nothing elsewhere.

The content of a logical sector is the content of the sector that it is
translated to.  When the physical ranges of the extents are apart as well, a
chunk that is written changes the logical sectors that it was cut for, and no
other sector of any device.
-/

namespace UbseSsu.Kernel

open Blocks Scatter

/-- The low byte of `cmd_flags`, as `req_op` reads it. -/
def reqOp (cmdFlags : Nat) : ReqOp :=
  match cmdFlags % 256 with
  | 0 => .read
  | 1 => .write
  | 2 => .flush
  | 3 => .discard
  | code => .other code

/-- How far a bio comes, with what a failed one left behind. -/
inductive BioAnswer where
  | openFailed (errno : Errno)
  | noBio
  | noPage
  | failed (errno : Errno) (residue : List UInt8)
  | done

abbrev Pages := Nat × UInt32 → UInt8

structure Storage (Bdev : Type) where
  pages : Pages
  disks : Bdev → List UInt8

section Code

variable {Bdev : Type} [DecidableEq Bdev] (bdevOf : MapEntry → Bdev)

def Chunk.disk (chunk : Chunk) (disks : Bdev → List UInt8) : List UInt8 :=
  disks (bdevOf chunk.entry)

/-- The bytes that a bio carries: of the memory, or of the sectors. -/
def Storage.carried (chunk : Chunk) (storage : Storage Bdev) : List UInt8 :=
  match reqOp chunk.cmdFlags with
  | .write => chunk.bytes.map storage.pages
  | _ =>
      ZeroFile.window (chunk.disk bdevOf storage.disks)
        (chunk.physSector.toNat * sectorSize) chunk.len

def writeSectors (chunk : Chunk) (bytes : List UInt8)
    (disks : Bdev → List UInt8) : Bdev → List UInt8 :=
  Function.update disks (bdevOf chunk.entry)
    (ZeroFile.pwrite (chunk.disk bdevOf disks)
      (chunk.physSector.toNat * sectorSize) bytes)

def Storage.deliver (chunk : Chunk) (bytes : List UInt8)
    (storage : Storage Bdev) : Storage Bdev :=
  match reqOp chunk.cmdFlags with
  | .write =>
      { storage with disks := writeSectors bdevOf chunk bytes storage.disks }
  | .read =>
      { storage with pages := scatter storage.pages chunk.bytes bytes }
  | _ => storage

/-- `ssu_reqshim_phys_submit_bvec`. -/
def physSubmitBvec (answer : BioAnswer) (chunk : Chunk)
    (storage : Storage Bdev) : BlkStatus × Storage Bdev :=
  if chunk.len = 0 then (.ioerr, storage)
  else
    match answer with
    | .openFailed _ => (.ioerr, storage)
    | .noBio => (.resource, storage)
    | .noPage => (.resource, storage)
    | .failed _ residue =>
        (.ioerr, storage.deliver bdevOf chunk (residue.take chunk.len))
    | .done => (.ok, storage.deliver bdevOf chunk (storage.carried bdevOf chunk))

end Code

section Logical

variable {Bdev : Type} (bdevOf : MapEntry → Bdev)

/-- What a logical sector holds: the content of the sector that it is
translated to. -/
def logicalBlock (kernel : KernelState) (disks : Bdev → List UInt8)
    (minor : Nat) (sector : UInt64) : Option (List UInt8) :=
  match translateSector minor sector kernel with
  | .error _ => none
  | .ok (entry, physSector) =>
      some (block (disks (bdevOf entry)) sectorSize physSector.toNat)

def MapEntry.physicalRange (entry : MapEntry) : Regions.Region Bdev :=
  { device := bdevOf entry
    start := entry.physSector.toNat
    length := entry.lengthSectors.toNat }

/-- Well-formed tables whose extents share no sector of a block device. -/
structure ExtentsApart (kernel : KernelState) : Prop where
  fit : MappingsFit kernel
  physical :
    Regions.Isolated (kernel.maps.rows.map (MapEntry.physicalRange bdevOf))

variable {bdevOf} {kernel : KernelState} {minor : Nat}
  {sector physSector : UInt64} {entry : MapEntry}

/-- The translation of a sector, spelled out. -/
theorem ExtentsApart.translated (apart : ExtentsApart bdevOf kernel)
    (translated : translateSector minor sector kernel =
      .ok (entry, physSector)) :
    entry ∈ kernel.maps.rows ∧ Covers entry minor sector ∧
      physSector.toNat = entry.physSector.toNat +
        (sector.toNat - entry.logicalSector.toNat) := by
  obtain ⟨member, covered⟩ := mapQuery_ok (translateSector_ok translated)
  refine ⟨member, covered, ?_⟩
  have physical := (apart.fit.fits entry member).physical
  have start := covered.start
  have before := covered.before
  rw [(apart.fit.minorFits minor).translate member covered] at translated
  cases translated
  rw [UInt64.toNat_add, sub_toNat start, Nat.mod_eq_of_lt (by omega)]

/-- Two logical sectors never share a physical one. -/
theorem ExtentsApart.injective (apart : ExtentsApart bdevOf kernel)
    {otherMinor : Nat} {other : UInt64} {otherEntry : MapEntry}
    {otherPhys : UInt64}
    (left : translateSector minor sector kernel = .ok (entry, physSector))
    (right : translateSector otherMinor other kernel =
      .ok (otherEntry, otherPhys))
    (sameDevice : bdevOf entry = bdevOf otherEntry)
    (sameSector : physSector.toNat = otherPhys.toNat) :
    minor = otherMinor ∧ sector = other := by
  obtain ⟨member, covered, phys⟩ := apart.translated left
  obtain ⟨otherMember, otherCovered, otherPhys⟩ := apart.translated right
  have start := covered.start
  have before := covered.before
  have otherStart := otherCovered.start
  have otherBefore := otherCovered.before
  have same : entry = otherEntry := by
    by_contra different
    have symmetric : Std.Symm fun first second : MapEntry =>
        Regions.Apart (first.physicalRange bdevOf)
          (second.physicalRange bdevOf) :=
      ⟨fun _ _ => Regions.Apart.symm⟩
    have pairwise := List.pairwise_map.mp apart.physical
    have sides := pairwise.forall member otherMember different sameDevice
    simp only [MapEntry.physicalRange] at sides
    omega
  subst same
  refine ⟨covered.minor.symm.trans otherCovered.minor, ?_⟩
  apply UInt64.toNat_inj.mp
  omega

end Logical

section Aimed

variable {Bdev : Type} {bdevOf : MapEntry → Bdev} {kernel : KernelState}
  {minor count cmdFlags : Nat} {start : UInt64}
  {memory : List (Nat × UInt32)} {chunk : Chunk}

/-- A chunk that stands for the first `count` sectors of the memory, which
its own sectors are the translations of. -/
structure Aimed (kernel : KernelState) (minor : Nat) (start : UInt64)
    (memory : List (Nat × UInt32)) (count : Nat) (chunk : Chunk) : Prop where
  some : 0 < count
  len : chunk.len = count * sectorSize
  inside : count * sectorSize ≤ memory.length
  bytes : chunk.bytes = memory.take (count * sectorSize)
  noWrap : start.toNat + count < 2 ^ 64
  physical : chunk.physSector.toNat + count < 2 ^ 64
  places : ∀ index < count,
    translateSector minor (start + UInt64.ofNat index) kernel =
      .ok (chunk.entry, chunk.physSector + UInt64.ofNat index)

theorem Split.aimed (fits : MinorFits kernel minor) (some : 0 < count)
    (split : Split kernel minor cmdFlags start memory count [chunk]) :
    Aimed kernel minor start memory count chunk := by
  have chunkFits := split.fits chunk List.mem_cons_self
  have bytes : chunk.bytes = memory.take (count * sectorSize) := by
    simpa only [List.flatMap_singleton] using split.bytes
  have len : chunk.len = count * sectorSize := by
    have lengths := congrArg List.length bytes
    rw [Chunk.bytes, memoryBytes_length, List.length_take,
      min_eq_left split.inside] at lengths
    exact lengths
  have whole : chunk.len / sectorSize = count := by
    rw [len]
    exact Nat.mul_div_cancel count (by decide)
  have physical := fits.physical chunk.entry chunkFits.mapped chunkFits.minor
  have before := chunkFits.before
  have places := split.places
  rw [List.flatMap_singleton, Chunk.places, whole, List.map_map] at places
  constructor
  · exact some
  · exact len
  · exact split.inside
  · exact bytes
  · exact split.noWrap
  · omega
  · intro index small
    exact (List.map_inj_left.mp places index
      (List.mem_range.mpr small)).symm

variable (aimed : Aimed kernel minor start memory count chunk)

include aimed

theorem Aimed.physical_add {index : Nat} (small : index < count) :
    (chunk.physSector + UInt64.ofNat index).toNat =
      chunk.physSector.toNat + index := by
  have physical := aimed.physical
  exact ofNat_toNat_add (by omega)

theorem Aimed.logicalBlock (disks : Bdev → List UInt8) {index : Nat}
    (small : index < count) :
    logicalBlock bdevOf kernel disks minor (start + UInt64.ofNat index) =
      Option.some (block (chunk.disk bdevOf disks) sectorSize
        (chunk.physSector.toNat + index)) := by
  rw [Kernel.logicalBlock, aimed.places index small]
  simp only [aimed.physical_add small, Chunk.disk]

variable [DecidableEq Bdev]

/-- The sectors of a chunk hold what was written to them. -/
theorem Aimed.written (disks : Bdev → List UInt8) {bytes : List UInt8}
    (whole : bytes.length = chunk.len) {index : Nat} (small : index < count) :
    Kernel.logicalBlock bdevOf kernel (writeSectors bdevOf chunk bytes disks)
        minor (start + UInt64.ofNat index) =
      Option.some (slice bytes sectorSize index) := by
  have sized : bytes.length = count * sectorSize := whole.trans aimed.len
  rw [aimed.logicalBlock _ small, Chunk.disk, writeSectors,
    Function.update_self, block_pwrite_inside _ sized (by omega) (by omega),
    Nat.add_sub_cancel_left]

/-- Nothing but the sectors of a chunk changes. -/
theorem Aimed.unwritten (apart : ExtentsApart bdevOf kernel)
    (disks : Bdev → List UInt8) {bytes : List UInt8}
    (bounded : bytes.length ≤ chunk.len) {otherMinor : Nat} {other : UInt64}
    (elsewhere : otherMinor = minor →
      ∀ index < count, other ≠ start + UInt64.ofNat index) :
    Kernel.logicalBlock bdevOf kernel (writeSectors bdevOf chunk bytes disks)
        otherMinor other =
      Kernel.logicalBlock bdevOf kernel disks otherMinor other := by
  rw [Kernel.logicalBlock, Kernel.logicalBlock]
  cases translated : translateSector otherMinor other kernel with
  | error _ => rfl
  | ok place =>
      obtain ⟨entry, physSector⟩ := place
      simp only [writeSectors]
      by_cases sameDevice : bdevOf entry = bdevOf chunk.entry
      · rw [sameDevice, Function.update_self, Chunk.disk]
        rw [aimed.len] at bounded
        rw [block_pwrite_apart _ bounded]
        by_contra inside
        have index : physSector.toNat - chunk.physSector.toNat < count := by
          omega
        have target := aimed.places _ index
        have sector := aimed.physical_add index
        obtain ⟨sameMinor, same⟩ := apart.injective translated target
          sameDevice (by omega)
        exact elsewhere sameMinor _ index same
      · rw [Function.update_of_ne sameDevice]

end Aimed

end UbseSsu.Kernel

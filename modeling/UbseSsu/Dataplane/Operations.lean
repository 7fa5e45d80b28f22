import UbseSsu.Interface

/-!
# The user-space data plane

`ssu_dataplane.cpp`: the translation of a logical byte range to an `off_t` of
the physical device, and the loops around `pwrite` and `pread`.  Both
`size_t` and `off_t` have 64 bits; a conversion between them keeps the bits.
What the system calls answer is an argument of the loops, in call order.
-/

namespace UbseSsu.Dataplane

abbrev sectorSize : UInt64 := 512
abbrev uint64Max : UInt64 := 0xFFFFFFFFFFFFFFFF

/-- The offset of the first byte on the device. -/
def translateOffset (logdev : SsuLogdevInfo) (logicalOffset len : UInt64) :
    Except SsuErr Int64 :=
  if isEmptyString logdev.physDev.chars then .error .invalid
  else if logicalOffset < logdev.logicalOffset then .error .invalid
  else
    let relativeOffset := logicalOffset - logdev.logicalOffset
    if relativeOffset > logdev.length ∨
        len > logdev.length - relativeOffset then
      .error .invalid
    else if logdev.physSector > uint64Max / sectorSize then .error .invalid
    else
      let physBase := logdev.physSector * sectorSize
      if relativeOffset > uint64Max - physBase then .error .invalid
      else
        let physOffset := physBase + relativeOffset
        let outOffset := physOffset.toInt64
        if outOffset.toUInt64 ≠ physOffset then .error .invalid
        else if len > 0 then
          if len - 1 > uint64Max - physOffset then .error .invalid
          else
            let lastOffset := physOffset + len - 1
            if lastOffset.toInt64.toUInt64 ≠ lastOffset then .error .invalid
            else .ok outOffset
        else .ok outOffset

/-- `offset + done`: the sum is taken as an unsigned one. -/
def offsetPlus (offset : Int64) (done : Nat) : Int64 :=
  (offset.toUInt64 + UInt64.ofNat done).toInt64

inductive IoFailure where
  | interrupted
  | other
deriving DecidableEq

structure WriteCall where
  offset : Int64
  bytes : List UInt8
deriving DecidableEq

structure ReadCall where
  offset : Int64
  length : Nat
deriving DecidableEq

/-- The status, unless the answers end before the loop does, and the calls it
made.  A successful `pwrite` answers how many bytes it has written. -/
def writeAll (buf : List UInt8) (offset : Int64) :
    Nat → List (Except IoFailure Nat) → Option SsuErr × List WriteCall
  | done, answers =>
      if buf.length ≤ done then (some .ok, [])
      else
        let call : WriteCall :=
          { offset := offsetPlus offset done, bytes := buf.drop done }
        match answers with
        | [] => (none, [call])
        | .error .interrupted :: answers =>
            let (status, calls) := writeAll buf offset done answers
            (status, call :: calls)
        | .error .other :: _ => (some .io, [call])
        | .ok 0 :: _ => (some .io, [call])
        | .ok count :: answers =>
            let (status, calls) := writeAll buf offset (done + count) answers
            (status, call :: calls)

/-- The status with the bytes in the buffer, and the calls.  A successful
`pread` answers the bytes it has read; the end of the file reads as zeros. -/
def readAll (len : Nat) (offset : Int64) :
    List UInt8 → List (Except IoFailure (List UInt8)) →
      Option (Except SsuErr (List UInt8)) × List ReadCall
  | done, answers =>
      if len ≤ done.length then (some (.ok done), [])
      else
        let call : ReadCall :=
          { offset := offsetPlus offset done.length
            length := len - done.length }
        match answers with
        | [] => (none, [call])
        | .error .interrupted :: answers =>
            let (status, calls) := readAll len offset done answers
            (status, call :: calls)
        | .error .other :: _ => (some (.error .io), [call])
        | .ok [] :: _ =>
            (some (.ok (done ++ List.replicate (len - done.length) 0)), [call])
        | .ok bytes :: answers =>
            let (status, calls) := readAll len offset (done ++ bytes) answers
            (status, call :: calls)

/-- `buf` is `none` for a NULL pointer, else it holds `len` bytes; `opened`
says whether the device could be opened. -/
def ssuDataplaneWrite (logdev : SsuLogdevInfo) (logicalOffset : UInt64)
    (buf : Option (List UInt8)) (len : UInt64) (opened : Bool)
    (answers : List (Except IoFailure Nat)) :
    Option SsuErr × List WriteCall :=
  if buf.isNone ∧ len > 0 then (some .invalid, [])
  else
    match translateOffset logdev logicalOffset len with
    | .error err => (some err, [])
    | .ok physOffset =>
        if opened then
          writeAll ((buf.getD []).take len.toNat) physOffset 0 answers
        else (some .io, [])

def ssuDataplaneRead (logdev : SsuLogdevInfo) (logicalOffset : UInt64)
    (buf : Option Unit) (len : UInt64) (opened : Bool)
    (answers : List (Except IoFailure (List UInt8))) :
    Option (Except SsuErr (List UInt8)) × List ReadCall :=
  if buf.isNone ∧ len > 0 then (some (.error .invalid), [])
  else
    match translateOffset logdev logicalOffset len with
    | .error err => (some (.error err), [])
    | .ok physOffset =>
        if opened then readAll len.toNat physOffset [] answers
        else (some (.error .io), [])

section Translation

/-- The requested bytes lie in the bytes of the row. -/
def InRow (logdev : SsuLogdevInfo) (logicalOffset len : UInt64) : Prop :=
  logdev.logicalOffset.toNat ≤ logicalOffset.toNat ∧
    logicalOffset.toNat + len.toNat ≤
      logdev.logicalOffset.toNat + logdev.length.toNat

instance decidableInRow (logdev : SsuLogdevInfo)
    (logicalOffset len : UInt64) :
    Decidable (InRow logdev logicalOffset len) :=
  inferInstanceAs (Decidable (_ ∧ _))

/-- The first byte on the device, as a number that does not wrap. -/
def physOffset (logdev : SsuLogdevInfo) (logicalOffset : UInt64) : Nat :=
  logdev.physSector.toNat * 512 +
    (logicalOffset.toNat - logdev.logicalOffset.toNat)

/-- The last byte on the device, or the first one of an empty range. -/
def lastOffset (logdev : SsuLogdevInfo) (logicalOffset len : UInt64) : Nat :=
  physOffset logdev logicalOffset + (len.toNat - 1)

variable {logdev : SsuLogdevInfo} {logicalOffset len : UInt64}

theorem toNat_mul_sectorSize {sector : UInt64}
    (small : ¬sector > uint64Max / sectorSize) :
    (sector * sectorSize).toNat = sector.toNat * 512 := by
  have limit : (uint64Max / sectorSize).toNat = (2 ^ 64 - 1) / 512 := rfl
  have sectors : (512 : UInt64).toNat = 512 := rfl
  rw [gt_iff_lt, UInt64.lt_iff_toNat_lt, limit] at small
  rw [UInt64.toNat_mul, sectors]
  apply Nat.mod_eq_of_lt
  omega

theorem gt_uint64Max_sub {left right : UInt64} :
    left > uint64Max - right ↔ 2 ^ 64 ≤ left.toNat + right.toNat := by
  have whole : uint64Max.toNat = 2 ^ 64 - 1 := rfl
  have bound := right.toNat_lt
  have order : right ≤ uint64Max := by
    rw [UInt64.le_iff_toNat_le, whole]
    omega
  rw [gt_iff_lt, UInt64.lt_iff_toNat_lt, UInt64.toNat_sub_of_le _ _ order,
    whole]
  omega

/-- The checks of the row. -/
theorem inRow_iff (later : ¬logicalOffset < logdev.logicalOffset) :
    ¬(logicalOffset - logdev.logicalOffset > logdev.length ∨
        len > logdev.length - (logicalOffset - logdev.logicalOffset)) ↔
      InRow logdev logicalOffset len := by
  have order := UInt64.not_lt.mp later
  have start := UInt64.le_iff_toNat_le.mp order
  have relative := UInt64.toNat_sub_of_le _ _ order
  rw [not_or, gt_iff_lt, gt_iff_lt, UInt64.not_lt, UInt64.not_lt]
  constructor
  · rintro ⟨inside, fits⟩
    have insideNat := UInt64.le_iff_toNat_le.mp inside
    have fitsNat := UInt64.le_iff_toNat_le.mp fits
    rw [UInt64.toNat_sub_of_le _ _ inside, relative] at fitsNat
    rw [relative] at insideNat
    constructor <;> omega
  · rintro ⟨_, ends⟩
    have inside : logicalOffset - logdev.logicalOffset ≤ logdev.length := by
      rw [UInt64.le_iff_toNat_le, relative]
      omega
    refine ⟨inside, ?_⟩
    rw [UInt64.le_iff_toNat_le, UInt64.toNat_sub_of_le _ _ inside, relative]
    omega

/-- The translation checks the row and 64 bits of the device; the conversions
to `off_t` and back never fail. -/
theorem translateOffset_eq (named : logdev.physDev.chars ≠ [])
    (logicalOffset len : UInt64) :
    translateOffset logdev logicalOffset len =
      if InRow logdev logicalOffset len ∧
          lastOffset logdev logicalOffset len < 2 ^ 64 then
        .ok (UInt64.ofNat (physOffset logdev logicalOffset)).toInt64
      else .error .invalid := by
  have notEmpty : isEmptyString logdev.physDev.chars = false := by
    simp [isEmptyString, named]
  simp only [translateOffset, notEmpty, Bool.false_eq_true, if_false]
  by_cases earlier : logicalOffset < logdev.logicalOffset
  · have before := UInt64.lt_iff_toNat_lt.mp earlier
    rw [if_pos earlier, if_neg]
    rintro ⟨⟨start, _⟩, _⟩
    omega
  · rw [if_neg earlier]
    have row : _ ↔ InRow logdev logicalOffset len := inRow_iff earlier
    by_cases inRow : InRow logdev logicalOffset len
    · have relative := UInt64.toNat_sub_of_le _ _ (UInt64.not_lt.mp earlier)
      simp only [row.mpr inRow, if_false, inRow, true_and]
      by_cases far : logdev.physSector > uint64Max / sectorSize
      · have limit : (uint64Max / sectorSize).toNat = (2 ^ 64 - 1) / 512 := rfl
        have sectors := UInt64.lt_iff_toNat_lt.mp far
        rw [limit] at sectors
        rw [if_pos far, if_neg]
        unfold lastOffset physOffset
        omega
      · have base := toNat_mul_sectorSize far
        rw [if_neg far]
        by_cases wraps : logicalOffset - logdev.logicalOffset >
            uint64Max - logdev.physSector * sectorSize
        · have above := gt_uint64Max_sub.mp wraps
          rw [relative, base] at above
          rw [if_pos wraps, if_neg]
          unfold lastOffset physOffset
          omega
        · have within := mt gt_uint64Max_sub.mpr wraps
          rw [relative, base] at within
          have bounded : physOffset logdev logicalOffset < 2 ^ 64 := by
            unfold physOffset
            omega
          have sumNat : (UInt64.ofNat
              (physOffset logdev logicalOffset)).toNat =
                physOffset logdev logicalOffset :=
            UInt64.toNat_ofNat_of_lt' bounded
          have sum : logdev.physSector * sectorSize +
                (logicalOffset - logdev.logicalOffset) =
              UInt64.ofNat (physOffset logdev logicalOffset) := by
            apply UInt64.toNat_inj.mp
            rw [UInt64.toNat_add, base, relative, sumNat]
            exact Nat.mod_eq_of_lt bounded
          simp only [if_neg wraps, sum, UInt64.toUInt64_toInt64, ne_eq,
            not_true_eq_false, if_false]
          by_cases some : len > 0
          · have atLeast : 1 ≤ len := by
              rw [UInt64.le_iff_toNat_le]
              exact UInt64.lt_iff_toNat_lt.mp some
            have rest := UInt64.toNat_sub_of_le _ _ atLeast
            have one : (1 : UInt64).toNat = 1 := rfl
            rw [if_pos some]
            by_cases past : len - 1 > uint64Max -
                UInt64.ofNat (physOffset logdev logicalOffset)
            · have above := gt_uint64Max_sub.mp past
              rw [rest, one, sumNat] at above
              rw [if_pos past, if_neg]
              unfold lastOffset
              omega
            · have inside := mt gt_uint64Max_sub.mpr past
              rw [rest, one, sumNat] at inside
              rw [if_neg past, if_pos]
              unfold lastOffset
              omega
          · have empty : len.toNat = 0 := by
              have notSome := mt UInt64.lt_iff_toNat_lt.mpr some
              have zero : (0 : UInt64).toNat = 0 := rfl
              omega
            rw [if_neg some, if_pos]
            unfold lastOffset physOffset
            omega
    · have outside : logicalOffset - logdev.logicalOffset > logdev.length ∨
          len > logdev.length - (logicalOffset - logdev.logicalOffset) :=
        not_not.mp (mt row.mp inRow)
      rw [if_pos outside, if_neg]
      exact fun both => inRow both.1

theorem toInt_toInt64 {value : UInt64} (small : value.toNat < 2 ^ 63) :
    value.toInt64.toInt = value.toNat := by
  apply BitVec.toInt_eq_toNat_of_lt
  have bits : value.toBitVec.toNat = value.toNat := rfl
  have bound : value.toInt64.toBitVec.toNat = value.toNat := rfl
  omega

end Translation

section Limits

variable {logdev : SsuLogdevInfo} {logicalOffset len : UInt64}

/-- The range lies in the row and all of it below `2^63` on the device. -/
structure WithinLimits (logdev : SsuLogdevInfo)
    (logicalOffset len : UInt64) : Prop where
  inRow : InRow logdev logicalOffset len
  first : physOffset logdev logicalOffset ≤ 2 ^ 63 - 1
  last : 0 < len.toNat →
    physOffset logdev logicalOffset + len.toNat - 1 ≤ 2 ^ 63 - 1

theorem withinLimits_iff :
    WithinLimits logdev logicalOffset len ↔
      InRow logdev logicalOffset len ∧
        lastOffset logdev logicalOffset len < 2 ^ 63 := by
  unfold lastOffset
  constructor
  · rintro ⟨inRow, first, last⟩
    refine ⟨inRow, ?_⟩
    by_cases some : 0 < len.toNat
    · have ends := last some
      omega
    · omega
  · rintro ⟨inRow, ends⟩
    constructor
    · exact inRow
    · omega
    · intro some
      omega

/-- The translation gives the offset of a range within the limits, and
refuses every other one; no system call gets a negative offset. -/
structure TranslatesExactly (logdev : SsuLogdevInfo)
    (logicalOffset len : UInt64) : Prop where
  accepts : WithinLimits logdev logicalOffset len →
    ∃ offset, translateOffset logdev logicalOffset len = .ok offset ∧
      offset.toInt = physOffset logdev logicalOffset
  rejects : ¬WithinLimits logdev logicalOffset len →
    translateOffset logdev logicalOffset len = .error .invalid
  writes : ∀ bytes opened answers, bytes.length = len.toNat →
    ∀ call ∈ (ssuDataplaneWrite logdev logicalOffset (some bytes) len opened
      answers).2, 0 ≤ call.offset.toInt
  reads : ∀ opened answers,
    ∀ call ∈ (ssuDataplaneRead logdev logicalOffset (some ()) len opened
      answers).2, 0 ≤ call.offset.toInt

/-- Every `pwrite` of the loop starts at a byte that is still to be
written. -/
theorem writeAll_calls {buf : List UInt8} {offset : Int64} {done : Nat}
    {answers : List (Except IoFailure Nat)} :
    ∀ call ∈ (writeAll buf offset done answers).2,
      ∃ written < buf.length, call.offset = offsetPlus offset written := by
  induction answers generalizing done with
  | nil =>
      intro call member
      rw [writeAll] at member
      split at member
      · cases member
      · rename_i left
        rw [List.mem_singleton.mp member]
        exact ⟨done, Nat.not_le.mp left, rfl⟩
  | cons answer answers induction =>
      intro call member
      rw [writeAll] at member
      by_cases ended : buf.length ≤ done
      · rw [if_pos ended] at member
        cases member
      · rw [if_neg ended] at member
        have own : ∃ written < buf.length,
            offsetPlus offset done = offsetPlus offset written :=
          ⟨done, Nat.not_le.mp ended, rfl⟩
        cases answer with
        | error failure =>
            cases failure with
            | interrupted =>
                rcases List.mem_cons.mp member with rfl | later
                · exact own
                · exact induction call later
            | other =>
                rw [List.mem_singleton.mp member]
                exact own
        | ok count =>
            cases count with
            | zero =>
                rw [List.mem_singleton.mp member]
                exact own
            | succ count =>
                rcases List.mem_cons.mp member with rfl | later
                · exact own
                · exact induction call later

theorem readAll_calls {length : Nat} {offset : Int64} {done : List UInt8}
    {answers : List (Except IoFailure (List UInt8))} :
    ∀ call ∈ (readAll length offset done answers).2,
      ∃ filled < length, call.offset = offsetPlus offset filled := by
  induction answers generalizing done with
  | nil =>
      intro call member
      rw [readAll] at member
      split at member
      · cases member
      · rename_i left
        rw [List.mem_singleton.mp member]
        exact ⟨done.length, Nat.not_le.mp left, rfl⟩
  | cons answer answers induction =>
      intro call member
      rw [readAll] at member
      by_cases ended : length ≤ done.length
      · rw [if_pos ended] at member
        cases member
      · rw [if_neg ended] at member
        have own : ∃ filled < length,
            offsetPlus offset done.length = offsetPlus offset filled :=
          ⟨done.length, Nat.not_le.mp ended, rfl⟩
        cases answer with
        | error failure =>
            cases failure with
            | interrupted =>
                rcases List.mem_cons.mp member with rfl | later
                · exact own
                · exact induction call later
            | other =>
                rw [List.mem_singleton.mp member]
                exact own
        | ok bytes =>
            cases bytes with
            | nil =>
                rw [List.mem_singleton.mp member]
                exact own
            | cons byte bytes =>
                rcases List.mem_cons.mp member with rfl | later
                · exact own
                · exact induction call later

/-- A call inside the range has the offset that it should have. -/
theorem toInt_offsetPlus {done : Nat} (inside : done < len.toNat)
    (limits : lastOffset logdev logicalOffset len < 2 ^ 63) :
    (offsetPlus (UInt64.ofNat (physOffset logdev logicalOffset)).toInt64
        done).toInt = physOffset logdev logicalOffset + done := by
  unfold lastOffset at limits
  have sum : (UInt64.ofNat (physOffset logdev logicalOffset) +
      UInt64.ofNat done).toNat =
        physOffset logdev logicalOffset + done := by
    rw [← UInt64.ofNat_add]
    apply UInt64.toNat_ofNat_of_lt'
    have size : UInt64.size = 2 ^ 64 := rfl
    omega
  rw [offsetPlus, UInt64.toUInt64_toInt64, toInt_toInt64 (by omega), sum]
  rfl

/-- The translation is exact unless the range reaches `2^63` and still fits 64
bits. -/
theorem translates_exactly_iff (named : logdev.physDev.chars ≠ []) :
    TranslatesExactly logdev logicalOffset len ↔
      ¬(InRow logdev logicalOffset len ∧
        2 ^ 63 ≤ lastOffset logdev logicalOffset len ∧
        lastOffset logdev logicalOffset len < 2 ^ 64) := by
  have translated := translateOffset_eq named logicalOffset len
  constructor
  · rintro exactly ⟨inRow, far, fits⟩
    have beyond : ¬WithinLimits logdev logicalOffset len := by
      intro limits
      have near := (withinLimits_iff.mp limits).2
      omega
    have refused := exactly.rejects beyond
    rw [translated, if_pos ⟨inRow, fits⟩] at refused
    cases refused
  · intro notFar
    -- Whatever is translated lies below `2^63`.
    have near : ∀ offset,
        translateOffset logdev logicalOffset len = .ok offset →
          offset = (UInt64.ofNat (physOffset logdev logicalOffset)).toInt64 ∧
            lastOffset logdev logicalOffset len < 2 ^ 63 := by
      intro offset answered
      rw [translated] at answered
      split at answered
      · rename_i both
        cases answered
        refine ⟨rfl, ?_⟩
        by_contra far
        exact notFar ⟨both.1, Nat.not_lt.mp far, both.2⟩
      · cases answered
    constructor
    · intro limits
      obtain ⟨inRow, small⟩ := withinLimits_iff.mp limits
      refine ⟨(UInt64.ofNat (physOffset logdev logicalOffset)).toInt64, ?_, ?_⟩
      · rw [translated, if_pos ⟨inRow, Nat.lt_trans small (by decide)⟩]
      · have first := limits.first
        have value : (UInt64.ofNat
            (physOffset logdev logicalOffset)).toNat =
              physOffset logdev logicalOffset := by
          apply UInt64.toNat_ofNat_of_lt'
          have size : UInt64.size = 2 ^ 64 := rfl
          omega
        rw [toInt_toInt64 (by omega), value]
    · intro beyond
      rw [translated, if_neg]
      rintro ⟨inRow, fits⟩
      apply notFar
      refine ⟨inRow, ?_, fits⟩
      by_contra small
      exact beyond (withinLimits_iff.mpr ⟨inRow, Nat.not_le.mp small⟩)
    · intro bytes opened answers length call member
      cases answered : translateOffset logdev logicalOffset len with
      | error err =>
          simp [ssuDataplaneWrite, answered] at member
      | ok offset =>
          obtain ⟨rfl, small⟩ := near offset answered
          cases opened with
          | false => simp [ssuDataplaneWrite, answered] at member
          | true =>
              simp only [ssuDataplaneWrite, answered, Option.isNone_some,
                Bool.false_eq_true, false_and, if_false, if_true,
                Option.getD_some] at member
              obtain ⟨written, inside, same⟩ := writeAll_calls call member
              rw [List.length_take] at inside
              rw [same, toInt_offsetPlus (by omega) small]
              omega
    · intro opened answers call member
      cases answered : translateOffset logdev logicalOffset len with
      | error err =>
          simp [ssuDataplaneRead, answered] at member
      | ok offset =>
          obtain ⟨rfl, small⟩ := near offset answered
          cases opened with
          | false => simp [ssuDataplaneRead, answered] at member
          | true =>
              simp only [ssuDataplaneRead, answered, Option.isNone_some,
                Bool.false_eq_true, false_and, if_false, if_true] at member
              obtain ⟨filled, inside, same⟩ := readAll_calls call member
              rw [same, toInt_offsetPlus inside small]
              omega

/-- One extent of a device whose first sector is the given one. -/
def rowAtSector (physSector : UInt64) : SsuLogdevInfo :=
  { logicalDev := copyCstr 64 "/dev/ssu/ssu0".toList
    hostId := copyCstr 64 "host0".toList
    allocateId := copyCstr 64 "alloc-0".toList
    logicalOffset := 0
    length := 4096
    physDev := copyCstr 64 "/dev/nullb0".toList
    nsId := copyCstr 32 "mock-ns0".toList
    physSector := physSector }

theorem translates_exactly_near :
    TranslatesExactly (rowAtSector 8) 512 1024 ↔
      ¬(InRow (rowAtSector 8) 512 1024 ∧
        2 ^ 63 ≤ lastOffset (rowAtSector 8) 512 1024 ∧
        lastOffset (rowAtSector 8) 512 1024 < 2 ^ 64) :=
  translates_exactly_iff (by decide +kernel)

/-- At sector `2^54` the translation succeeds with a negative offset. -/
theorem translates_to_negative :
    ¬TranslatesExactly (rowAtSector 18014398509481984) 0 512 ∧
      translateOffset (rowAtSector 18014398509481984) 0 512 =
        .ok (-9223372036854775808) := by
  constructor
  · intro exactly
    have refused := exactly.rejects (by
      intro limits
      have first := limits.first
      revert first
      decide +kernel)
    revert refused
    decide +kernel
  · decide +kernel

end Limits

end UbseSsu.Dataplane

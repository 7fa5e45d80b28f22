import UbseSsu.Api.RequestCache
import UbseSsu.Plugin.MountAccepted

/-!
# Names and numbers that several components read

The number in a device path is read by the API and by ReqShim, each with a
parser of its own, and the name of a disk is checked by the controller, by
ReqShim and by the kernel module.
-/

namespace UbseSsu.System

open Controller Api Reqshim Kernel

section Numbers

variable {path digits : CString} {value : Nat}

/-- The last component of the path is `ssu` and the digits of the number. -/
def SsuNumber (path : CString) (value : Nat) : Prop :=
  ∃ digits : CString, afterLastSlash path = "ssu".toList ++ digits ∧
    digits ≠ [] ∧ (∀ char ∈ digits, char.isDigit = true) ∧
    decimalValue digits = value ∧ value < 2 ^ 32

theorem isDigit_iff_between (char : Char) :
    char.isDigit = true ↔ '0' ≤ char ∧ char ≤ '9' := by
  simp only [Char.isDigit, Bool.and_eq_true, decide_eq_true_eq]
  rfl

/-- The loop reads decimal digits and stops at the first overflow of 32
bits. -/
theorem parseU32Digits_eq_some_iff {start : Nat} (small : start < 2 ^ 32) :
    parseU32Digits start digits = some value ↔
      (∀ char ∈ digits, char.isDigit = true) ∧
        Nat.ofDigitChars 10 digits start = value ∧ value < 2 ^ 32 := by
  induction digits generalizing start with
  | nil =>
      simp only [parseU32Digits, Option.some.injEq, List.not_mem_nil,
        false_imp_iff, implies_true, true_and, Nat.ofDigitChars_nil]
      constructor
      · rintro rfl
        exact ⟨rfl, small⟩
      · exact And.left
  | cons char rest induction =>
      have grows : ∀ from' : Nat, from' ≤ Nat.ofDigitChars 10 rest from' := by
        intro from'
        rw [Nat.ofDigitChars_eq_ofDigitChars_zero]
        have scaled := Nat.le_mul_of_pos_left from'
          (Nat.pow_pos (n := rest.length) (by decide : 0 < 10))
        omega
      simp only [parseU32Digits, ← isDigit_iff_between, Nat.ofDigitChars_cons,
        List.forall_mem_cons]
      by_cases digit : char.isDigit = true
      · simp only [digit, if_true, true_and]
        rw [Nat.mul_comm start 10]
        split
        · rename_i overflow
          have above := grows (10 * start + (char.toNat - '0'.toNat))
          constructor
          · intro failed
            cases failed
          · rintro ⟨_, rfl, bounded⟩
            omega
        · rename_i bounded
          exact induction (Nat.lt_of_not_le bounded)
      · simp [digit]

/-- The API takes just the numbers of 32 bits that are spelled in digits. -/
theorem parseLogicalDevIndex_eq_some_iff :
    parseLogicalDevIndex path = some value ↔ SsuNumber path value := by
  have empty : isEmptyString path = true → afterLastSlash path = [] := by
    intro none
    rw [(isEmptyString_iff path).mp none]
    rfl
  constructor
  · intro parsed
    unfold parseLogicalDevIndex parsePrefixedU32 at parsed
    split at parsed
    · cases parsed
    · split at parsed
      · cases parsed
      · cases parsed
      · rename_i first rest skipped
        obtain ⟨allDigits, number, small⟩ :=
          (parseU32Digits_eq_some_iff (by decide)).mp parsed
        have text := skipLead_eq_some_iff.mp skipped
        exact ⟨first :: rest, text, List.cons_ne_nil _ _, allDigits, number,
          small⟩
  · rintro ⟨digits, text, nonempty, allDigits, number, small⟩
    obtain ⟨first, rest, rfl⟩ := List.exists_cons_of_ne_nil nonempty
    have present : ¬isEmptyString path = true := by
      intro none
      rw [empty none] at text
      cases text
    simp only [parseLogicalDevIndex, if_neg present, parsePrefixedU32,
      skipLead_eq_some_iff.mpr text]
    exact (parseU32Digits_eq_some_iff (by decide)).mpr
      ⟨allDigits, number, small⟩

/-- ReqShim takes what `strtoul` takes. -/
theorem parseLogicalMinor_eq_some_iff :
    parseLogicalMinor path = some value ↔
      ∃ blanks sign digits,
        afterLastSlash path = "ssu".toList ++ (blanks ++ sign ++ digits) ∧
          Numeral blanks sign digits ∧ decimalValue digits < 2 ^ 64 ∧
          numeralValue sign digits = value ∧ value < 2 ^ 32 := by
  constructor
  · intro parsed
    unfold parseLogicalMinor at parsed
    split at parsed
    · cases parsed
    · obtain ⟨text, skipped, number⟩ := Option.bind_eq_some_iff.mp parsed
      obtain ⟨blanks, sign, digits, rfl, rest⟩ :=
        strtoulU32_eq_some_iff.mp number
      exact ⟨blanks, sign, digits, skipLead_eq_some_iff.mp skipped, rest⟩
  · rintro ⟨blanks, sign, digits, text, number⟩
    have present : ¬isEmptyString path = true := by
      intro none
      rw [(isEmptyString_iff path).mp none] at text
      cases text
    simp only [parseLogicalMinor, if_neg present,
      skipLead_eq_some_iff.mpr text, Option.bind_some]
    exact strtoulU32_eq_some_iff.mpr ⟨blanks, sign, digits, rfl, number⟩

/-- Both parsers take just the numbers that are spelled in digits. -/
structure MinorParsersAgree (path : CString) : Prop where
  same : ∀ value, parseLogicalDevIndex path = some value ↔
    parseLogicalMinor path = some value
  canonical : ∀ value, parseLogicalDevIndex path = some value ↔
    SsuNumber path value

/-- A number behind blanks or a sign that `strtoul` brings into 32 bits; the
value of a negative one is taken modulo `2^64`. -/
def LooseNumber (path : CString) : Prop :=
  ∃ blanks sign digits : CString,
    afterLastSlash path = "ssu".toList ++ (blanks ++ sign ++ digits) ∧
      Numeral blanks sign digits ∧ blanks ++ sign ≠ [] ∧
      if sign = ['-'] then
        decimalValue digits = 0 ∨ 2 ^ 64 - 2 ^ 32 < decimalValue digits ∧
          decimalValue digits < 2 ^ 64
      else decimalValue digits < 2 ^ 32

theorem numeralValue_lt_iff {sign digits : CString} :
    (decimalValue digits < 2 ^ 64 ∧ numeralValue sign digits < 2 ^ 32) ↔
      if sign = ['-'] then
        decimalValue digits = 0 ∨ 2 ^ 64 - 2 ^ 32 < decimalValue digits ∧
          decimalValue digits < 2 ^ 64
      else decimalValue digits < 2 ^ 32 := by
  unfold numeralValue
  split <;> omega

/-- The parsers agree on a path unless its number stands behind blanks or a
sign. -/
theorem minor_parsers_agree_iff (path : CString) :
    MinorParsersAgree path ↔ ¬LooseNumber path := by
  constructor
  · rintro agree ⟨blanks, sign, digits, text, numeral, loose, value⟩
    obtain ⟨wide, small⟩ := numeralValue_lt_iff.mpr value
    have parsed := parseLogicalMinor_eq_some_iff.mpr
      ⟨blanks, sign, digits, text, numeral, wide, rfl, small⟩
    obtain ⟨plain, spelled, _, allDigits, _⟩ :=
      (agree.canonical _).mp ((agree.same _).mpr parsed)
    have same : plain = blanks ++ sign ++ digits :=
      List.append_cancel_left (spelled.symm.trans text)
    -- The first character of the blanks or the sign is no digit.
    obtain ⟨first, rest, begins, notDigit⟩ := numeral.begins loose
    have digit := allDigits first (by rw [same, begins]; simp)
    rw [digit] at notDigit
    cases notDigit
  · intro plain
    constructor
    · intro value
      rw [parseLogicalDevIndex_eq_some_iff, parseLogicalMinor_eq_some_iff]
      constructor
      · rintro ⟨digits, text, nonempty, allDigits, rfl, small⟩
        refine ⟨[], [], digits, text, ⟨?_, .inl rfl, nonempty, allDigits⟩,
          by omega, rfl, small⟩
        simp
      · rintro ⟨blanks, sign, digits, text, numeral, wide, rfl, small⟩
        have bare : blanks ++ sign = [] := by
          by_contra loose
          exact plain ⟨blanks, sign, digits, text, numeral, loose,
            numeralValue_lt_iff.mp ⟨wide, small⟩⟩
        obtain ⟨rfl, rfl⟩ := List.append_eq_nil_iff.mp bare
        exact ⟨digits, text, numeral.nonempty, numeral.allDigits, rfl, small⟩
    · intro value
      exact parseLogicalDevIndex_eq_some_iff

/-- `ssu-0` is a valid disk name; ReqShim reads minor 0 off it and the API
no number. -/
theorem minor_parsers_differ :
    ¬MinorParsersAgree "/dev/ssu/ssu-0".toList ∧
      parseLogicalDevIndex "/dev/ssu/ssu-0".toList = none ∧
      parseLogicalMinor "/dev/ssu/ssu-0".toList = some 0 ∧
      allocationNameIsValid "ssu-0".toList = true := by
  refine ⟨fun agree => ?_, by decide +kernel, by decide +kernel, by decide⟩
  have parsed := (agree.same 0).mpr (by decide +kernel)
  revert parsed
  decide +kernel

end Numbers

section Names

variable {name : CString}

/-- What the kernel module checks besides the name. -/
structure GeometryFits (req : LogdevReq) : Prop where
  minor : req.minor < Kernel.maxLogdevs
  capacity : req.capacitySectors ≠ 0
  block : Kernel.sectorSize ≤ req.logicalBlockSize
  power : isPowerOf2 req.logicalBlockSize = true

theorem allocationNameIsValid_iff :
    allocationNameIsValid name = true ↔
      name ≠ [] ∧ name.length ≤ 27 ∧ name.all isDiskNameChar = true := by
  simp [allocationNameIsValid, isEmptyString, and_assoc]

/-- The kernel module accepts the names that the controller accepts. -/
theorem validateLogdevReq_iff (req : LogdevReq) :
    validateLogdevReq req = true ↔
      GeometryFits req ∧ allocationNameIsValid req.diskName.chars = true := by
  have lead : "ssu/".length = 4 := by decide
  have size : diskNameLen = 32 := rfl
  have chars : diskNameCharIsValid = isDiskNameChar := rfl
  rw [allocationNameIsValid_iff]
  simp only [validateLogdevReq, lead, chars, Bool.and_eq_true,
    decide_eq_true_eq, ne_eq]
  constructor
  · rintro ⟨⟨⟨⟨⟨⟨⟨minor, capacity⟩, named⟩, _⟩, short⟩, valid⟩, block⟩, power⟩
    exact ⟨⟨minor, by simpa using capacity, block, power⟩, by simpa using named,
      by omega, valid⟩
  · rintro ⟨⟨minor, capacity, block, power⟩, named, short, valid⟩
    refine ⟨⟨⟨⟨⟨⟨⟨minor, ?_⟩, ?_⟩, ?_⟩, ?_⟩, valid⟩, block⟩, power⟩
    · simpa using capacity
    · simpa using named
    · omega
    · omega

theorem copyLogicalDiskName_eq_ok_iff {logicalDev : CString}
    {field : CBuf diskNameLen} :
    copyLogicalDiskName logicalDev = .ok field ↔
      allocationNameIsValid (afterLastSlash logicalDev) = true ∧
        field = copyCstr diskNameLen (afterLastSlash logicalDev) := by
  have size : diskNameLen = 32 := rfl
  have limit : Reqshim.maxDiskNameLen = 27 := rfl
  have chars : logicalDiskNameCharIsValid = isDiskNameChar := rfl
  rw [allocationNameIsValid_iff]
  simp only [copyLogicalDiskName, chars, Bool.or_eq_true, isEmptyString_iff]
  constructor
  · intro copied
    split at copied
    · cases copied
    · rename_i named
      split at copied
      · cases copied
      · split at copied
        · rename_i valid
          cases copied
          exact ⟨⟨(not_or.mp named).2, by omega, valid⟩, rfl⟩
        · cases copied
  · rintro ⟨⟨named, short, valid⟩, rfl⟩
    have present : logicalDev ≠ [] := by
      rintro rfl
      exact named rfl
    rw [if_neg (not_or.mpr ⟨present, named⟩), if_neg (by omega), if_pos valid]

/-- Controller, ReqShim and kernel module accept the same names, and the name
arrives whole in the ioctl's field. -/
theorem disk_names_agree (name : CString) (plain : '/' ∉ name) :
    (allocationNameIsValid name = true ↔
        ∃ field, copyLogicalDiskName ("/dev/ssu/".toList ++ name) =
          .ok field) ∧
      (∀ field, copyLogicalDiskName ("/dev/ssu/".toList ++ name) = .ok field →
        field.chars = name ∧
          ∀ req : LogdevReq, req.diskName = field.widen (Nat.le_succ 31) →
            (validateLogdevReq req = true ↔ GeometryFits req)) ∧
      ∀ req : LogdevReq, validateLogdevReq req = true →
        allocationNameIsValid req.diskName.chars = true := by
  have path : "/dev/ssu/".toList ++ name = "/dev/ssu".toList ++ '/' :: name :=
    rfl
  have base : afterLastSlash ("/dev/ssu/".toList ++ name) = name := by
    rw [path]
    exact afterLastSlash_append_slash _ name plain
  refine ⟨⟨?_, ?_⟩, ?_, ?_⟩
  · intro valid
    exact ⟨_, copyLogicalDiskName_eq_ok_iff.mpr ⟨base.symm ▸ valid, rfl⟩⟩
  · rintro ⟨field, copied⟩
    exact base ▸ (copyLogicalDiskName_eq_ok_iff.mp copied).1
  · intro field copied
    obtain ⟨valid, rfl⟩ := copyLogicalDiskName_eq_ok_iff.mp copied
    rw [base] at valid
    have short := (allocationNameIsValid_iff.mp valid).2.1
    have whole : (copyCstr diskNameLen (afterLastSlash
        ("/dev/ssu/".toList ++ name))).chars = name := by
      rw [base]
      apply copyCstr_chars_of_fits
      have size : diskNameLen = 32 := rfl
      omega
    refine ⟨whole, fun req same => ?_⟩
    rw [validateLogdevReq_iff, same, BoundedString.chars_widen, whole]
    exact and_iff_left valid
  · intro req valid
    exact ((validateLogdevReq_iff req).mp valid).2

theorem disk_names_agree_data :
    (allocationNameIsValid "data".toList = true ↔
        ∃ field, copyLogicalDiskName ("/dev/ssu/".toList ++ "data".toList) =
          .ok field) ∧
      (∀ field, copyLogicalDiskName ("/dev/ssu/".toList ++ "data".toList) =
          .ok field →
        field.chars = "data".toList ∧
          ∀ req : LogdevReq, req.diskName = field.widen (Nat.le_succ 31) →
            (validateLogdevReq req = true ↔ GeometryFits req)) ∧
      ∀ req : LogdevReq, validateLogdevReq req = true →
        allocationNameIsValid req.diskName.chars = true :=
  disk_names_agree "data".toList (by decide)

end Names

end UbseSsu.System

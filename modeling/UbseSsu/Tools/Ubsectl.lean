import UbseSsu.Interface

/-!
# Sizes on the command line

`parse_size` of `ubsectl.cpp` reads the argument of `--size`: a number and at
most one suffix.  `strtoull` has the 64 bits of `strtoul`, which models it.
-/

namespace UbseSsu.Tools

/-- The multiplier for what `end` points at. -/
def sizeMultiplier : CString → Option UInt64
  | [] => some 1
  | ['k'] | ['K'] => some 1024
  | ['m'] | ['M'] => some (1024 * 1024)
  | ['g'] | ['G'] => some (1024 * 1024 * 1024)
  | _ => none

/-- `none` is the result 0, which leaves `*out` alone. -/
def parseSize (s : CString) : Option UInt64 :=
  if isEmptyString s then none
  else
    let result := strtoul s
    if result.outOfRange ∨ ¬result.converted then none
    else
      match sizeMultiplier result.rest with
      | none => none
      | some multiplier =>
          let value := UInt64.ofNat result.value
          if value > 0xFFFFFFFFFFFFFFFF / multiplier then none
          else some (value * multiplier)

section Grammar

variable {text suffix digits blanks sign : CString} {value multiplier : Nat}

/-- At most one suffix, with its multiplier. -/
inductive SizeSuffix : CString → Nat → Prop
  | bytes : SizeSuffix [] 1
  | kilo {char : Char} (letter : char = 'k' ∨ char = 'K') :
      SizeSuffix [char] 1024
  | mega {char : Char} (letter : char = 'm' ∨ char = 'M') :
      SizeSuffix [char] (1024 * 1024)
  | giga {char : Char} (letter : char = 'g' ∨ char = 'G') :
      SizeSuffix [char] (1024 * 1024 * 1024)

/-- Decimal digits and at most one suffix, with a product of 64 bits. -/
def SizeText (text : CString) (size : Nat) : Prop :=
  ∃ digits suffix multiplier, text = digits ++ suffix ∧ digits ≠ [] ∧
    (∀ char ∈ digits, char.isDigit = true) ∧ SizeSuffix suffix multiplier ∧
    decimalValue digits * multiplier = size ∧ size < 2 ^ 64

theorem SizeText.begins {size : Nat} (spelled : SizeText text size) :
    ∃ first rest, text = first :: rest ∧ first.isDigit = true := by
  obtain ⟨digits, suffix, _, rfl, nonempty, allDigits, _⟩ := spelled
  obtain ⟨first, rest, rfl⟩ := List.exists_cons_of_ne_nil nonempty
  exact ⟨first, rest ++ suffix, rfl, allDigits first List.mem_cons_self⟩

theorem SizeSuffix.pos (named : SizeSuffix suffix multiplier) :
    0 < multiplier := by
  cases named <;> decide

theorem SizeSuffix.ends (named : SizeSuffix suffix multiplier) :
    ∀ char ∈ suffix.head?, char.isDigit = false := by
  intro char first
  cases named with
  | bytes => cases first
  | kilo letter | mega letter | giga letter =>
      cases first
      rcases letter with rfl | rfl <;> rfl

theorem sizeSuffix_iff :
    SizeSuffix suffix multiplier ↔
      ∃ factor : UInt64, sizeMultiplier suffix = some factor ∧
        factor.toNat = multiplier := by
  constructor
  · intro named
    cases named with
    | bytes => exact ⟨_, rfl, rfl⟩
    | kilo letter | mega letter | giga letter =>
        rcases letter with rfl | rfl <;> exact ⟨_, rfl, rfl⟩
  · rintro ⟨factor, found, rfl⟩
    unfold sizeMultiplier at found
    split at found <;> cases found
    · exact .bytes
    · exact .kilo (.inl rfl)
    · exact .kilo (.inr rfl)
    · exact .mega (.inl rfl)
    · exact .mega (.inr rfl)
    · exact .giga (.inl rfl)
    · exact .giga (.inr rfl)

/-- The guard keeps the product from wrapping. -/
theorem guarded_product_iff {number : Nat} {factor size : UInt64}
    (small : number < 2 ^ 64) (positive : 0 < factor.toNat) :
    (if UInt64.ofNat number > 0xFFFFFFFFFFFFFFFF / factor then none
      else some (UInt64.ofNat number * factor)) = some size ↔
        number * factor.toNat = size.toNat := by
  have whole : (UInt64.ofNat number).toNat = number :=
    UInt64.toNat_ofNat_of_lt' small
  have guard : UInt64.ofNat number > 0xFFFFFFFFFFFFFFFF / factor ↔
      2 ^ 64 ≤ number * factor.toNat := by
    rw [gt_iff_lt, UInt64.lt_iff_toNat_lt, UInt64.toNat_div, whole,
      Nat.div_lt_iff_lt_mul positive]
    exact Iff.rfl
  split
  · rename_i large
    have bound := size.toNat_lt
    have above := guard.mp large
    simp only [reduceCtorEq, false_iff]
    omega
  · rename_i fits
    have below := Nat.lt_of_not_le (mt guard.mpr fits)
    rw [Option.some.injEq, ← UInt64.toNat_inj, UInt64.toNat_mul, whole,
      Nat.mod_eq_of_lt below]

/-- The result for a text that starts with a numeral. -/
theorem parseSize_numeral_iff {size : UInt64}
    (numeral : Numeral blanks sign digits)
    (ends : ∀ char ∈ suffix.head?, char.isDigit = false) :
    parseSize (blanks ++ sign ++ (digits ++ suffix)) = some size ↔
      ∃ multiplier, SizeSuffix suffix multiplier ∧
        decimalValue digits < 2 ^ 64 ∧
        numeralValue sign digits * multiplier = size.toNat := by
  have present :
      ¬isEmptyString (blanks ++ sign ++ (digits ++ suffix)) = true := by
    simp [numeral.nonempty]
  have read := strtoul_numeral numeral ends
  by_cases small : decimalValue digits < 2 ^ 64
  · rw [if_neg (Nat.not_le.mpr small)] at read
    simp only [parseSize, if_neg present, read, Bool.false_eq_true,
      not_true_eq_false, or_self, if_false]
    cases factors : sizeMultiplier suffix with
    | none =>
        simp [sizeSuffix_iff, factors]
    | some factor =>
        have named : SizeSuffix suffix factor.toNat :=
          sizeSuffix_iff.mpr ⟨factor, factors, rfl⟩
        rw [guarded_product_iff (numeralValue_lt small) named.pos]
        constructor
        · intro exact
          exact ⟨_, named, small, exact⟩
        · rintro ⟨multiplier, other, _, exact⟩
          obtain ⟨_, found, rfl⟩ := sizeSuffix_iff.mp other
          rw [factors, Option.some.injEq] at found
          rw [found]
          exact exact
  · rw [if_pos (Nat.not_lt.mp small)] at read
    simp only [parseSize, if_neg present, read, true_or, if_true, small,
      false_and, and_false, exists_false, reduceCtorEq]

/-- `parse_size` takes what `strtoull` takes, up to the end or one suffix. -/
theorem parseSize_eq_some_iff {size : UInt64} :
    parseSize text = some size ↔
      ∃ blanks sign digits suffix multiplier,
        text = blanks ++ sign ++ (digits ++ suffix) ∧
          Numeral blanks sign digits ∧ SizeSuffix suffix multiplier ∧
          decimalValue digits < 2 ^ 64 ∧
          numeralValue sign digits * multiplier = size.toNat := by
  constructor
  · intro parsed
    have converted : (strtoul text).converted = true := by
      by_contra unread
      unfold parseSize at parsed
      split at parsed
      · cases parsed
      · simp [unread] at parsed
    obtain ⟨blanks, sign, digits, suffix, rfl, numeral, ends⟩ :=
      exists_numeral_of_converted converted
    obtain ⟨multiplier, named, small, product⟩ :=
      (parseSize_numeral_iff numeral ends).mp parsed
    exact ⟨blanks, sign, digits, suffix, multiplier, rfl, numeral, named,
      small, product⟩
  · rintro ⟨blanks, sign, digits, suffix, multiplier, rfl, numeral, named,
      small, product⟩
    exact (parseSize_numeral_iff numeral named.ends).mpr
      ⟨multiplier, named, small, product⟩

end Grammar

section Loose

variable {text : CString}

/-- `parse_size` stores the size that the text spells, and takes no other
text. -/
def SizeParsedExactly (text : CString) : Prop :=
  ∀ size : UInt64, parseSize text = some size ↔ SizeText text size.toNat

/-- A number behind blanks or a sign whose product fits 64 bits; the value of
a negative one is taken modulo `2^64`. -/
def LooseSize (text : CString) : Prop :=
  ∃ blanks sign digits suffix multiplier,
    text = blanks ++ sign ++ (digits ++ suffix) ∧
      Numeral blanks sign digits ∧ blanks ++ sign ≠ [] ∧
      SizeSuffix suffix multiplier ∧
      if sign = ['-'] then
        decimalValue digits = 0 ∨ decimalValue digits < 2 ^ 64 ∧
          (2 ^ 64 - decimalValue digits) * multiplier < 2 ^ 64
      else decimalValue digits * multiplier < 2 ^ 64

theorem numeralValue_mul_lt_iff {sign digits : CString} {multiplier : Nat}
    (positive : 0 < multiplier) :
    (decimalValue digits < 2 ^ 64 ∧
        numeralValue sign digits * multiplier < 2 ^ 64) ↔
      if sign = ['-'] then
        decimalValue digits = 0 ∨ decimalValue digits < 2 ^ 64 ∧
          (2 ^ 64 - decimalValue digits) * multiplier < 2 ^ 64
      else decimalValue digits * multiplier < 2 ^ 64 := by
  unfold numeralValue
  split
  · by_cases zero : decimalValue digits = 0
    · simp [zero]
    · rw [Nat.mod_eq_of_lt (by omega)]
      simp [zero]
  · have grows := Nat.le_mul_of_pos_right (decimalValue digits) positive
    constructor
    · exact And.right
    · intro product
      exact ⟨by omega, product⟩

/-- The sizes are read exactly unless blanks or a sign stand in front of
them. -/
theorem parse_size_exact_iff (text : CString) :
    SizeParsedExactly text ↔ ¬LooseSize text := by
  constructor
  · rintro exact ⟨blanks, sign, digits, suffix, multiplier, rfl, numeral,
      loose, named, value⟩
    obtain ⟨small, fits⟩ := (numeralValue_mul_lt_iff named.pos).mpr value
    have parsed := parseSize_eq_some_iff.mpr
      ⟨blanks, sign, digits, suffix, multiplier, rfl, numeral, named, small,
        (UInt64.toNat_ofNat_of_lt' fits).symm⟩
    -- The first character of the blanks or the sign is no digit.
    obtain ⟨first, rest, begins, digit⟩ := ((exact _).mp parsed).begins
    obtain ⟨front, others, parts, notDigit⟩ := numeral.begins loose
    rw [parts, List.cons_append, List.cons.injEq] at begins
    rw [begins.1, digit] at notDigit
    cases notDigit
  · intro plain size
    rw [parseSize_eq_some_iff]
    constructor
    · rintro ⟨blanks, sign, digits, suffix, multiplier, rfl, numeral, named,
        small, product⟩
      have bare : blanks ++ sign = [] := by
        by_contra loose
        have fits : numeralValue sign digits * multiplier < 2 ^ 64 :=
          product ▸ size.toNat_lt
        exact plain ⟨blanks, sign, digits, suffix, multiplier, rfl, numeral,
          loose, named, (numeralValue_mul_lt_iff named.pos).mp ⟨small, fits⟩⟩
      obtain ⟨rfl, rfl⟩ := List.append_eq_nil_iff.mp bare
      exact ⟨digits, suffix, multiplier, rfl, numeral.nonempty,
        numeral.allDigits, named, product, size.toNat_lt⟩
    · rintro ⟨digits, suffix, multiplier, rfl, nonempty, allDigits, named,
        product, bounded⟩
      have grows := Nat.le_mul_of_pos_right (decimalValue digits) named.pos
      exact ⟨[], [], digits, suffix, multiplier, rfl,
        ⟨by simp, .inl rfl, nonempty, allDigits⟩, named, by omega, product⟩

/-- `--size -1` asks for 2^64 - 1 bytes. -/
theorem parse_size_takes_minus_one :
    ¬SizeParsedExactly "-1".toList ∧
      parseSize "-1".toList = some 0xFFFFFFFFFFFFFFFF ∧
      parseSize " +5k".toList = some 5120 := by
  have parsed : parseSize "-1".toList = some 0xFFFFFFFFFFFFFFFF := by
    decide +kernel
  refine ⟨fun exact => ?_, parsed, by decide +kernel⟩
  obtain ⟨first, rest, begins, digit⟩ := ((exact _).mp parsed).begins
  cases begins
  exact absurd digit (by decide)

end Loose

end UbseSsu.Tools

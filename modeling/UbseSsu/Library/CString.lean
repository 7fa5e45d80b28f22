import Mathlib.Algebra.GroupWithZero.Nat
import Mathlib.Data.List.TakeWhile
import Mathlib.Data.Nat.Log

/-!
# C strings, fixed character arrays and decimal numbers

A C string is the list of its characters before the terminating NUL.  A
`BoundedString` also carries the bound its array imposes, so a stored string
can never be longer than its field.  `strtoul` follows the C library: leading
white space, an optional sign, decimal digits, saturation with `ERANGE`, and
negation modulo `2^64`.
-/

abbrev CString := List Char

/-- The content of a character array: at most `bound` characters. -/
structure BoundedString (bound : Nat) where
  chars : CString
  fits : chars.length ≤ bound
deriving DecidableEq

/-- A NUL-terminated `char[size]`. -/
abbrev CBuf (size : Nat) := BoundedString (size - 1)

namespace BoundedString

variable {bound : Nat}

@[ext] theorem ext {left right : BoundedString bound}
    (chars : left.chars = right.chars) : left = right := by
  cases left
  cases right
  simp_all

theorem chars_inj {left right : BoundedString bound} :
    left.chars = right.chars ↔ left = right :=
  ⟨ext, congrArg _⟩

def empty : BoundedString bound := ⟨[], Nat.zero_le bound⟩

instance : Inhabited (BoundedString bound) := ⟨empty⟩

@[simp] theorem chars_empty : (empty : BoundedString bound).chars = [] := rfl

/-- The same text in a larger field. -/
def widen {larger : Nat} (room : bound ≤ larger)
    (content : BoundedString bound) : BoundedString larger :=
  ⟨content.chars, content.fits.trans room⟩

@[simp] theorem chars_widen {larger : Nat} (room : bound ≤ larger)
    (content : BoundedString bound) : (content.widen room).chars = content.chars :=
  rfl

end BoundedString

/-- `snprintf(dst, size, "%s", source)`: what does not fit is cut off. -/
def copyCstr (size : Nat) (source : CString) : CBuf size :=
  ⟨source.take (size - 1), List.length_take_le _ _⟩

theorem copyCstr_chars_of_fits {size : Nat} {source : CString}
    (fits : source.length ≤ size - 1) :
    (copyCstr size source).chars = source :=
  List.take_of_length_le fits

@[simp] theorem copyCstr_chars_self {size : Nat} (content : CBuf size) :
    copyCstr size content.chars = content :=
  BoundedString.ext (List.take_of_length_le content.fits)

theorem copyCstr_of_nil (size : Nat) : copyCstr size [] = .empty :=
  BoundedString.ext List.take_nil

@[simp] theorem copyCstr_nil (size : Nat) :
    (copyCstr size []).chars = [] := by
  simp [copyCstr]

/-- The part after the last `/`, as `strrchr` finds it. -/
def afterLastSlash (path : CString) : CString :=
  (path.reverse.takeWhile (· ≠ '/')).reverse

theorem afterLastSlash_append_slash (directory name : CString)
    (plain : '/' ∉ name) : afterLastSlash (directory ++ '/' :: name) = name := by
  have kept : ∀ char ∈ name.reverse, (decide (char ≠ '/')) = true := by
    intro char member
    have different : char ≠ '/' := by
      rintro rfl
      exact plain (List.mem_reverse.mp member)
    simpa using different
  have reversed : (directory ++ '/' :: name).reverse =
      name.reverse ++ '/' :: directory.reverse := by simp
  rw [afterLastSlash, reversed, List.takeWhile_append_of_pos kept]
  simp

/-- What follows `lead`, after `strncmp(text, lead, strlen(lead)) == 0`. -/
def skipLead (lead text : CString) : Option CString :=
  if lead.isPrefixOf text then some (text.drop lead.length) else none

@[simp] theorem skipLead_append (lead rest : CString) :
    skipLead lead (lead ++ rest) = some rest := by
  simp [skipLead]

theorem skipLead_eq_some_iff {lead text rest : CString} :
    skipLead lead text = some rest ↔ text = lead ++ rest := by
  constructor
  · intro skipped
    unfold skipLead at skipped
    split at skipped
    · rename_i leads
      obtain ⟨tail, rfl⟩ := List.isPrefixOf_iff_prefix.mp leads
      rw [List.drop_left, Option.some.injEq] at skipped
      rw [skipped]
    · cases skipped
  · rintro rfl
    exact skipLead_append lead rest

def decimal (value : Nat) : CString :=
  Nat.toDigits 10 value

def decimalValue (digits : CString) : Nat :=
  Nat.ofDigitChars 10 digits 0

@[simp] theorem decimalValue_decimal (value : Nat) :
    decimalValue (decimal value) = value :=
  Nat.ofDigitChars_ten_toDigits

theorem decimal_injective : Function.Injective decimal := by
  intro left right equality
  have values := congrArg decimalValue equality
  simpa using values

theorem isDigit_of_mem_decimal {value : Nat} {char : Char}
    (member : char ∈ decimal value) : char.isDigit = true :=
  Nat.isDigit_of_mem_toDigits (by decide) (by decide) member

theorem decimal_ne_nil (value : Nat) : decimal value ≠ [] :=
  Nat.toDigits_ne_nil

theorem length_decimal_le {value : Nat} (count : Nat) (positive : 0 < count)
    (small : value < 10 ^ count) : (decimal value).length ≤ count :=
  (Nat.length_toDigits_le_iff (by decide) positive).mpr small

theorem not_mem_decimal {value : Nat} {char : Char}
    (other : char.isDigit = false) : char ∉ decimal value := by
  intro member
  rw [isDigit_of_mem_decimal member] at other
  contradiction

def isCSpace (char : Char) : Bool :=
  char = ' ' || (9 ≤ char.toNat && char.toNat ≤ 13)

structure StrtoulResult where
  value : Nat
  /-- What `end` points at. -/
  rest : CString
  /-- Some digit was converted, so `end` differs from the argument. -/
  converted : Bool
  /-- `errno` was set to `ERANGE`. -/
  outOfRange : Bool
deriving DecidableEq

/-- `strtoul(text, &end, 10)` with a 64-bit `unsigned long`. -/
def strtoul (text : CString) : StrtoulResult :=
  let trimmed := text.dropWhile isCSpace
  let negative := trimmed.head? = some '-'
  let unsigned :=
    if trimmed.head? = some '-' ∨ trimmed.head? = some '+' then trimmed.tail
    else trimmed
  let digits := unsigned.takeWhile Char.isDigit
  if digits = [] then
    { value := 0, rest := text, converted := false, outOfRange := false }
  else if 2 ^ 64 ≤ decimalValue digits then
    { value := 2 ^ 64 - 1
      rest := unsigned.dropWhile Char.isDigit
      converted := true
      outOfRange := true }
  else
    { value :=
        if negative then (2 ^ 64 - decimalValue digits) % 2 ^ 64
        else decimalValue digits
      rest := unsigned.dropWhile Char.isDigit
      converted := true
      outOfRange := false }

/-- The checked call `errno = 0; v = strtoul(s, &end, 10)` followed by
`errno != 0 || end == s || *end != '\0' || v > UINT32_MAX`. -/
def strtoulU32 (text : CString) : Option Nat :=
  let result := strtoul text
  if result.outOfRange ∨ ¬result.converted ∨ result.rest ≠ [] ∨
      2 ^ 32 ≤ result.value then none
  else some result.value

theorem isCSpace_of_isDigit {char : Char} (digit : char.isDigit = true) :
    isCSpace char = false := by
  simp only [Char.isDigit, Bool.and_eq_true, decide_eq_true_eq] at digit
  have low : 48 ≤ char.toNat := digit.1
  have notBlank : char ≠ ' ' := by
    rintro rfl
    exact absurd low (by decide)
  simp [isCSpace, notBlank]
  omega

/-- The digits up to the first character that is none. -/
theorem takeWhile_isDigit_append {digits tail : CString}
    (allDigits : ∀ char ∈ digits, char.isDigit = true)
    (ends : ∀ char ∈ tail.head?, char.isDigit = false) :
    (digits ++ tail).takeWhile Char.isDigit = digits ∧
      (digits ++ tail).dropWhile Char.isDigit = tail := by
  rw [List.takeWhile_append_of_pos allDigits,
    List.dropWhile_append_of_pos allDigits]
  cases tail with
  | nil => simp
  | cons next rest =>
      have other := ends next rfl
      simp [other]

theorem strtoulU32_lt {text : CString} {value : Nat}
    (parsed : strtoulU32 text = some value) : value < 2 ^ 32 := by
  simp only [strtoulU32] at parsed
  split at parsed
  · contradiction
  · rename_i accepted
    simp only [Option.some.injEq] at parsed
    omega

/-- What `strtoul` takes for a number: blanks, a sign and digits. -/
structure Numeral (blanks sign digits : CString) : Prop where
  blank : ∀ char ∈ blanks, isCSpace char = true
  signed : sign = [] ∨ sign = ['+'] ∨ sign = ['-']
  nonempty : digits ≠ []
  allDigits : ∀ char ∈ digits, char.isDigit = true

/-- What stands before the digits is no digit. -/
theorem Numeral.not_isDigit {blanks sign digits : CString}
    (numeral : Numeral blanks sign digits) {char : Char}
    (member : char ∈ blanks ++ sign) : char.isDigit = false := by
  rcases List.mem_append.mp member with blank | signed
  · by_contra digit
    have space := numeral.blank char blank
    rw [isCSpace_of_isDigit (by simpa using digit)] at space
    cases space
  · rcases numeral.signed with rfl | rfl | rfl
    · cases signed
    · rw [List.mem_singleton.mp signed]
      rfl
    · rw [List.mem_singleton.mp signed]
      rfl

/-- Blanks or a sign begin with no digit. -/
theorem Numeral.begins {blanks sign digits : CString}
    (numeral : Numeral blanks sign digits) (loose : blanks ++ sign ≠ []) :
    ∃ first rest, blanks ++ sign = first :: rest ∧ first.isDigit = false := by
  obtain ⟨first, rest, begins⟩ := List.exists_cons_of_ne_nil loose
  refine ⟨first, rest, begins, numeral.not_isDigit ?_⟩
  rw [begins]
  exact List.mem_cons_self

/-- The 64-bit value of a numeral, when the digits fit 64 bits. -/
def numeralValue (sign digits : CString) : Nat :=
  if sign = ['-'] then (2 ^ 64 - decimalValue digits) % 2 ^ 64
  else decimalValue digits

theorem numeralValue_lt {sign digits : CString}
    (small : decimalValue digits < 2 ^ 64) :
    numeralValue sign digits < 2 ^ 64 := by
  unfold numeralValue
  split
  · exact Nat.mod_lt _ (by decide)
  · exact small

def afterSign (text : CString) : CString :=
  if text.head? = some '-' ∨ text.head? = some '+' then text.tail else text

theorem strtoul_eq (text : CString) :
    strtoul text =
      let trimmed := text.dropWhile isCSpace
      let digits := (afterSign trimmed).takeWhile Char.isDigit
      let rest := (afterSign trimmed).dropWhile Char.isDigit
      if digits = [] then
        { value := 0, rest := text, converted := false, outOfRange := false }
      else if 2 ^ 64 ≤ decimalValue digits then
        { value := 2 ^ 64 - 1, rest, converted := true, outOfRange := true }
      else
        { value :=
            if trimmed.head? = some '-' then
              (2 ^ 64 - decimalValue digits) % 2 ^ 64
            else decimalValue digits
          rest, converted := true, outOfRange := false } :=
  rfl

/-- `strtoul` reads a numeral up to the first character behind it that is no
digit. -/
theorem strtoul_numeral {blanks sign digits tail : CString}
    (numeral : Numeral blanks sign digits)
    (ends : ∀ char ∈ tail.head?, char.isDigit = false) :
    strtoul (blanks ++ sign ++ (digits ++ tail)) =
      if 2 ^ 64 ≤ decimalValue digits then
        { value := 2 ^ 64 - 1, rest := tail, converted := true,
          outOfRange := true }
      else
        { value := numeralValue sign digits, rest := tail, converted := true,
          outOfRange := false } := by
  obtain ⟨blank, signed, nonempty, allDigits⟩ := numeral
  obtain ⟨taken, dropped⟩ := takeWhile_isDigit_append allDigits ends
  obtain ⟨first, others, rfl⟩ := List.exists_cons_of_ne_nil nonempty
  have firstDigit := allDigits first (by simp)
  have notSpace := isCSpace_of_isDigit firstDigit
  have notMinus : first ≠ '-' := by
    rintro rfl
    exact absurd firstDigit (by decide)
  have notPlus : first ≠ '+' := by
    rintro rfl
    exact absurd firstDigit (by decide)
  rw [List.cons_append] at taken dropped ⊢
  generalize others ++ tail = behind at taken dropped ⊢
  have trimmed : (blanks ++ sign ++ first :: behind).dropWhile isCSpace =
      sign ++ first :: behind := by
    rw [List.append_assoc, List.dropWhile_append_of_pos blank]
    rcases signed with rfl | rfl | rfl
    · rw [List.nil_append, List.dropWhile_cons, notSpace]
      rfl
    · rfl
    · rfl
  have unsigned : afterSign (sign ++ first :: behind) = first :: behind := by
    rcases signed with rfl | rfl | rfl
    · simp [afterSign, notMinus, notPlus]
    · rfl
    · rfl
  have negative : (sign ++ first :: behind).head? = some '-' ↔
      sign = ['-'] := by
    rcases signed with rfl | rfl | rfl
    · simp [notMinus]
    · simp
    · simp
  simp only [strtoul_eq, trimmed, unsigned, taken, dropped, negative,
    numeralValue, if_neg nonempty]

theorem strtoul_of_digits {digits tail : CString} (nonempty : digits ≠ [])
    (allDigits : ∀ char ∈ digits, char.isDigit = true)
    (small : decimalValue digits < 2 ^ 64)
    (ends : ∀ char ∈ tail.head?, char.isDigit = false) :
    strtoul (digits ++ tail) =
      { value := decimalValue digits, rest := tail, converted := true,
        outOfRange := false } := by
  have plain : Numeral [] [] digits :=
    ⟨by simp, .inl rfl, nonempty, allDigits⟩
  have read := strtoul_numeral plain ends
  rw [if_neg (Nat.not_le.mpr small)] at read
  exact read

theorem strtoul_decimal {value : Nat} (small : value < 2 ^ 64) :
    strtoul (decimal value) =
      { value := value, rest := [], converted := true,
        outOfRange := false } := by
  have large : decimalValue (decimal value) < 2 ^ 64 := by
    rw [decimalValue_decimal]
    exact small
  conv_lhs => rw [← List.append_nil (decimal value)]
  rw [strtoul_of_digits (decimal_ne_nil value)
    (fun _ => isDigit_of_mem_decimal) large (by simp), decimalValue_decimal]

theorem strtoulU32_decimal {value : Nat} (small : value < 2 ^ 32) :
    strtoulU32 (decimal value) = some value := by
  have wide : value < 2 ^ 64 := by omega
  unfold strtoulU32
  rw [strtoul_decimal wide]
  apply if_neg
  rintro (overflow | unread | rest | large)
  · cases overflow
  · exact unread rfl
  · exact rest rfl
  · exact absurd small (Nat.not_lt.mpr large)

theorem take_append_afterSign (text : CString) :
    text.take (text.length - (afterSign text).length) ++ afterSign text =
      text := by
  unfold afterSign
  split
  · cases text with
    | nil => rfl
    | cons first rest => simp
  · simp

theorem sign_cases (text : CString) :
    let sign := text.take (text.length - (afterSign text).length)
    sign = [] ∨ sign = ['+'] ∨ sign = ['-'] := by
  unfold afterSign
  split
  · rename_i signed
    rcases signed with minus | plus
    · obtain ⟨rest, rfl⟩ := List.head?_eq_some_iff.mp minus
      simp
    · obtain ⟨rest, rfl⟩ := List.head?_eq_some_iff.mp plus
      simp
  · simp

/-- Where a number is converted, a numeral stands at the start of the text. -/
theorem exists_numeral_of_converted {text : CString}
    (converted : (strtoul text).converted = true) :
    ∃ blanks sign digits tail, text = blanks ++ sign ++ (digits ++ tail) ∧
      Numeral blanks sign digits ∧
        ∀ char ∈ tail.head?, char.isDigit = false := by
  -- The four parts that `strtoul` cuts the text into.
  let blanks := text.takeWhile isCSpace
  let trimmed := text.dropWhile isCSpace
  let sign := trimmed.take (trimmed.length - (afterSign trimmed).length)
  let digits := (afterSign trimmed).takeWhile Char.isDigit
  let tail := (afterSign trimmed).dropWhile Char.isDigit
  have nonempty : digits ≠ [] := by
    intro none
    rw [strtoul_eq] at converted
    simp only at converted
    rw [if_pos none] at converted
    exact Bool.false_ne_true converted
  have whole : text = blanks ++ sign ++ (digits ++ tail) := by
    rw [List.takeWhile_append_dropWhile, List.append_assoc,
      take_append_afterSign]
    exact List.takeWhile_append_dropWhile.symm
  refine ⟨blanks, sign, digits, tail, whole, ⟨?_, ?_, nonempty, ?_⟩, ?_⟩
  · exact fun char member => List.mem_takeWhile_imp member
  · exact sign_cases trimmed
  · exact fun char member => List.mem_takeWhile_imp member
  · intro char first
    have stopped := List.head?_dropWhile_not Char.isDigit (afterSign trimmed)
    rw [Option.mem_def.mp first] at stopped
    exact stopped

/-- The checked call takes just the numerals whose value fits 32 bits. -/
theorem strtoulU32_eq_some_iff {text : CString} {value : Nat} :
    strtoulU32 text = some value ↔
      ∃ blanks sign digits, text = blanks ++ sign ++ digits ∧
        Numeral blanks sign digits ∧ decimalValue digits < 2 ^ 64 ∧
        numeralValue sign digits = value ∧ value < 2 ^ 32 := by
  constructor
  · intro parsed
    have small := strtoulU32_lt parsed
    simp only [strtoulU32] at parsed
    split at parsed
    · cases parsed
    · rename_i accepted
      simp only [not_or, not_not] at accepted
      obtain ⟨inRange, converted, ended, _⟩ := accepted
      obtain ⟨blanks, sign, digits, tail, rfl, numeral, ends⟩ :=
        exists_numeral_of_converted converted
      rw [strtoul_numeral numeral ends] at parsed inRange ended
      split at parsed
      · rename_i large
        rw [if_pos large] at inRange
        exact (inRange rfl).elim
      · rename_i bounded
        rw [if_neg bounded] at ended
        obtain rfl : tail = [] := ended
        exact ⟨blanks, sign, digits, by rw [List.append_nil], numeral,
          Nat.lt_of_not_le bounded, Option.some.inj parsed, small⟩
  · rintro ⟨blanks, sign, digits, rfl, numeral, bounded, rfl, small⟩
    have read := @strtoul_numeral _ _ _ [] numeral (by simp)
    rw [List.append_nil, if_neg (Nat.not_le.mpr bounded)] at read
    unfold strtoulU32
    rw [read]
    apply if_neg
    rintro (overflow | unread | rest | large)
    · cases overflow
    · exact unread rfl
    · exact rest rfl
    · exact absurd small (Nat.not_lt.mpr large)

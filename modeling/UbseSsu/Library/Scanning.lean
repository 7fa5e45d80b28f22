import UbseSsu.Library.Tokens

/-!
# Scanning printed text

`sscanf` interprets a format as a list of directives.  A text that was printed
piece by piece is scanned back into its values, and a text that was cut off
yields no value behind the piece in which the cut lies.
-/

inductive Directive where
  /-- White space in the format. -/
  | space
  /-- Text without white space. -/
  | literal (text : CString)
  /-- `%<width>s`. -/
  | word (width : Nat)
  /-- `%u` and `%llu`, before the conversion to the destination's type. -/
  | number
deriving DecidableEq

inductive Scanned where
  | word (chars : CString)
  | number (value : Nat)
deriving DecidableEq

/-- The value that is assigned, if any, and the unread text; `none` on a
matching failure. -/
def Directive.scan : Directive → CString → Option (Option Scanned × CString)
  | .space, text => some (none, text.dropWhile isCSpace)
  | .literal lead, text => (skipLead lead text).map fun rest => (none, rest)
  | .word width, text =>
      let trimmed := text.dropWhile isCSpace
      let found := (trimmed.take width).takeWhile fun char => !isCSpace char
      if found = [] then none
      else some (some (.word found), trimmed.drop found.length)
  | .number, text =>
      let result := strtoul text
      if result.converted then some (some (.number result.value), result.rest)
      else none

/-- The values that `sscanf` assigns. -/
def sscanf : List Directive → CString → List Scanned
  | [], _ => []
  | directive :: format, text =>
      match directive.scan text with
      | none => []
      | some (value, rest) => value.toList ++ sscanf format rest

section Numbers

theorem decimalValue_lt {digits : CString}
    (allDigits : ∀ char ∈ digits, char.isDigit = true) :
    decimalValue digits < 10 ^ digits.length := by
  have bounded : ∀ start, Nat.ofDigitChars 10 digits start <
      (start + 1) * 10 ^ digits.length := by
    induction digits with
    | nil => simp
    | cons first others induction =>
        intro start
        have digit := allDigits first List.mem_cons_self
        simp only [Char.isDigit, Bool.and_eq_true, decide_eq_true_eq] at digit
        have high : first.toNat ≤ 57 := digit.2
        have zero : '0'.toNat = 48 := rfl
        have later := induction (fun char member =>
          allDigits char (List.mem_cons_of_mem _ member))
          (10 * start + (first.toNat - '0'.toNat))
        have step : 10 * start + (first.toNat - '0'.toNat) + 1 ≤
            (start + 1) * 10 := by omega
        rw [Nat.ofDigitChars_cons, List.length_cons, Nat.pow_succ']
        calc
          _ < _ := later
          _ ≤ (start + 1) * 10 * 10 ^ others.length :=
            Nat.mul_le_mul_right _ step
          _ = _ := Nat.mul_assoc _ _ _
  have whole := bounded 0
  rw [Nat.zero_add, Nat.one_mul] at whole
  exact whole

/-- A number that loses its last digits is smaller. -/
theorem decimalValue_take_lt {value count : Nat} (some : 0 < count)
    (cut : count < (decimal value).length) :
    decimalValue ((decimal value).take count) < value := by
  have digits : ∀ char ∈ (decimal value).take count, char.isDigit = true :=
    fun char member => isDigit_of_mem_decimal (List.mem_of_mem_take member)
  have short := decimalValue_lt digits
  rw [List.length_take_of_le cut.le] at short
  have long : ¬value < 10 ^ count := by
    intro small
    have fits := length_decimal_le count some small
    omega
  omega

end Numbers

/-- The directive stops in front of this character. -/
def Directive.endsAt : Directive → Char → Bool
  | .space, char => !isCSpace char
  | .literal _, _ => true
  | .word _, char => isCSpace char
  | .number, char => !char.isDigit

def Directive.Ends (directive : Directive) (rest : CString) : Prop :=
  ∀ char ∈ rest.head?, directive.endsAt char = true

/-- What `printf` writes for a directive's value. -/
inductive Prints : Directive → CString → Option Scanned → Prop
  | space : Prints .space [' '] none
  | literal (text : CString) : Prints (.literal text) text none
  | word {width : Nat} {chars : CString} (named : chars ≠ [])
      (plain : ∀ char ∈ chars, isCSpace char = false)
      (fits : chars.length ≤ width) :
      Prints (.word width) chars (some (.word chars))
  | number {value : Nat} (small : value < 2 ^ 64) :
      Prints .number (decimal value) (some (.number value))

section Pieces

variable {directive : Directive} {token : CString} {value : Option Scanned}

theorem scan_word {width : Nat} {chars rest : CString} (named : chars ≠ [])
    (plain : ∀ char ∈ chars, isCSpace char = false)
    (fits : chars.length ≤ width)
    (ends : ∀ char ∈ rest.head?, isCSpace char = true) :
    (Directive.word width).scan (chars ++ rest) =
      some (some (.word chars), rest) := by
  have visible : ∀ char ∈ chars, (!isCSpace char) = true := by
    intro char member
    rw [plain char member]
    rfl
  have trimmed : (chars ++ rest).dropWhile isCSpace = chars ++ rest := by
    obtain ⟨first, others, rfl⟩ := List.exists_cons_of_ne_nil named
    rw [List.cons_append, List.dropWhile_cons_of_neg (by
      simp [plain first List.mem_cons_self])]
  have found : ((chars ++ rest).take width).takeWhile
      (fun char => !isCSpace char) = chars := by
    rw [List.take_append, List.take_of_length_le fits,
      List.takeWhile_append_of_pos visible]
    cases rest with
    | nil => simp
    | cons next rest =>
        have isSpace := ends next rfl
        cases width - chars.length <;> simp [isSpace]
  simp only [Directive.scan, trimmed, found, named, if_false, List.drop_left]

theorem scan_digits {digits rest : CString} (nonempty : digits ≠ [])
    (allDigits : ∀ char ∈ digits, char.isDigit = true)
    (small : decimalValue digits < 2 ^ 64)
    (ends : ∀ char ∈ rest.head?, char.isDigit = false) :
    Directive.number.scan (digits ++ rest) =
      some (some (.number (decimalValue digits)), rest) := by
  simp only [Directive.scan,
    strtoul_of_digits nonempty allDigits small ends, if_true]

/-- A piece that was printed is scanned back. -/
theorem Prints.scan (printed : Prints directive token value) {rest : CString}
    (ends : directive.Ends rest) :
    directive.scan (token ++ rest) = some (value, rest) := by
  cases printed with
  | space =>
      cases rest with
      | nil => rfl
      | cons next rest =>
          have visible := ends next rfl
          simp only [Directive.endsAt, Bool.not_eq_true'] at visible
          have blank : isCSpace ' ' = true := by decide
          simp [Directive.scan, blank, visible]
  | literal text => simp [Directive.scan]
  | word named plain fits => exact scan_word named plain fits ends
  | number small =>
      rw [scan_digits (decimal_ne_nil _) (fun _ => isDigit_of_mem_decimal)
        (by rw [decimalValue_decimal]; exact small), decimalValue_decimal]
      intro char next
      simpa [Directive.endsAt] using ends char next

/-- A piece that was cut off leaves nothing for the pieces behind it. -/
theorem Prints.scan_take (printed : Prints directive token value)
    {count : Nat} (cut : count ≤ token.length) :
    directive.scan (token.take count) = none ∨
      ∃ found, directive.scan (token.take count) = some (found, []) ∧
        found.isSome = value.isSome := by
  cases printed with
  | space =>
      right
      refine ⟨none, ?_, rfl⟩
      have small : count = 0 ∨ count = 1 := by
        rw [List.length_singleton] at cut
        omega
      rcases small with rfl | rfl <;> decide
  | literal =>
      by_cases whole : count = token.length
      · right
        exact ⟨none, by simp [Directive.scan, skipLead, whole], rfl⟩
      · left
        have shorter : ¬token <+: token.take count := by
          intro starts
          have lengths := starts.length_le
          rw [List.length_take_of_le cut] at lengths
          omega
        simp [Directive.scan, skipLead, shorter]
  | @word width _ named plain fits =>
      by_cases none : count = 0
      · left
        simp [none, Directive.scan]
      · right
        have partly : token.take count ≠ [] := by
          simp [List.take_eq_nil_iff, none, named]
        have scanned : (Directive.word width).scan (token.take count ++ []) =
            some (some (.word (token.take count)), []) :=
          scan_word partly
            (fun char member => plain char (List.mem_of_mem_take member))
            ((List.length_take_le' _ _).trans fits) (by simp)
        rw [List.append_nil] at scanned
        exact ⟨_, scanned, rfl⟩
  | @number printed small =>
      by_cases none : count = 0
      · left
        rw [none]
        rfl
      · right
        have positive : 0 < count := Nat.pos_of_ne_zero none
        have partly : (decimal printed).take count ≠ [] := by
          simp [List.take_eq_nil_iff, none, decimal_ne_nil]
        have bounded :
            decimalValue ((decimal printed).take count) < 2 ^ 64 := by
          rcases Nat.lt_or_eq_of_le cut with shorter | whole
          · exact (decimalValue_take_lt positive shorter).trans small
          · rw [whole, List.take_length, decimalValue_decimal]
            exact small
        have scanned :
            Directive.number.scan ((decimal printed).take count ++ []) =
              some (some (.number
                (decimalValue ((decimal printed).take count))), []) :=
          scan_digits partly
            (fun char member =>
              isDigit_of_mem_decimal (List.mem_of_mem_take member))
            bounded (by simp)
        rw [List.append_nil] at scanned
        exact ⟨_, scanned, rfl⟩

end Pieces

/-- A directive with the text that was printed for it. -/
structure Piece where
  directive : Directive
  token : CString
  value : Option Scanned
  printed : Prints directive token value

namespace Piece

def joined (pieces : List Piece) : CString := pieces.flatMap token

def values (pieces : List Piece) : List Scanned := pieces.filterMap value

@[simp] theorem joined_cons (piece : Piece) (pieces : List Piece) :
    joined (piece :: pieces) = piece.token ++ joined pieces :=
  rfl

@[simp] theorem values_cons (piece : Piece) (pieces : List Piece) :
    values (piece :: pieces) = piece.value.toList ++ values pieces := by
  unfold values
  cases found : piece.value with
  | none => rw [List.filterMap_cons_none found]; rfl
  | some value => rw [List.filterMap_cons_some found]; rfl

/-- Every directive stops where its own text ends. -/
def Linked : List Piece → CString → Prop
  | [], _ => True
  | piece :: pieces, tail =>
      piece.directive.Ends (joined pieces ++ tail) ∧ Linked pieces tail

end Piece

open Piece

theorem sscanf_nil (format : List Directive) : sscanf format [] = [] := by
  induction format with
  | nil => rfl
  | cons directive format induction =>
      cases directive with
      | space => simpa [sscanf, Directive.scan] using induction
      | literal lead =>
          cases lead with
          | nil => simpa [sscanf, Directive.scan, skipLead] using induction
          | cons first others => simp [sscanf, Directive.scan, skipLead]
      | word width => simp [sscanf, Directive.scan]
      | number => rfl

/-- The pieces are scanned back, and the format goes on behind them. -/
theorem sscanf_printed {pieces : List Piece} {tail : CString}
    (linked : Linked pieces tail) (format : List Directive) :
    sscanf (pieces.map directive ++ format) (joined pieces ++ tail) =
      values pieces ++ sscanf format tail := by
  induction pieces with
  | nil => rfl
  | cons piece pieces induction =>
      rw [joined_cons, values_cons, List.map_cons, List.cons_append,
        List.append_assoc, List.append_assoc, sscanf,
        piece.printed.scan linked.1, ← induction linked.2]

theorem Directive.Ends.take {directive : Directive} {text : CString}
    (ends : directive.Ends text) (count : Nat) :
    directive.Ends (text.take count) := by
  intro char next
  cases text with
  | nil => simp at next
  | cons first others =>
      cases count with
      | zero => simp at next
      | succ count => exact ends char next

theorem Piece.Linked.take {pieces : List Piece} {tail : CString}
    (linked : Linked pieces tail) (count : Nat) :
    Linked pieces (tail.take count) := by
  induction pieces with
  | nil => trivial
  | cons piece pieces induction =>
      refine ⟨?_, induction linked.2⟩
      have ends := linked.1.take ((joined pieces).length + count)
      rw [List.take_length_add_append] at ends
      exact ends

/-- Where the text ends inside the pieces, only these yield values. -/
theorem length_sscanf_cut {pieces : List Piece} {tail : CString}
    (linked : Linked pieces tail) {count : Nat}
    (cut : count ≤ (joined pieces).length) (format : List Directive) :
    (sscanf (pieces.map directive ++ format)
      ((joined pieces).take count)).length ≤ (values pieces).length := by
  induction pieces generalizing count with
  | nil =>
      have none : (joined []).take count = [] := List.take_nil
      rw [none, sscanf_nil]
      exact Nat.zero_le _
  | cons piece pieces induction =>
      rw [joined_cons, List.length_append] at cut
      rw [joined_cons, values_cons, List.map_cons, List.cons_append,
        List.length_append, sscanf]
      by_cases within : count ≤ piece.token.length
      · rw [List.take_append_of_le_length within]
        rcases piece.printed.scan_take within with failed |
          ⟨found, scanned, same⟩
        · rw [failed]
          exact Nat.zero_le _
        · rw [scanned]
          simp only [sscanf_nil, List.append_nil]
          have single : found.toList.length = piece.value.toList.length := by
            rw [Option.length_toList, Option.length_toList, same]
          omega
      · have behind : (piece.token ++ joined pieces).take count =
            piece.token ++ (joined pieces).take (count - piece.token.length) := by
          rw [List.take_append, List.take_of_length_le (by omega)]
        have shorter : count - piece.token.length ≤ (joined pieces).length := by
          omega
        have later := induction linked.2 shorter
        have ends : piece.directive.Ends
            ((joined pieces).take (count - piece.token.length)) := by
          have ends := linked.1.take (count - piece.token.length)
          rw [List.take_append_of_le_length shorter] at ends
          exact ends
        rw [behind, piece.printed.scan ends]
        simp only [List.length_append]
        omega

section LastNumber

variable {stem : List Piece} {last : Nat}

/-- A text that ends in a number. -/
theorem sscanf_last (linked : Linked stem (decimal last))
    (small : last < 2 ^ 64) :
    sscanf (stem.map directive ++ [.number]) (joined stem ++ decimal last) =
      values stem ++ [.number last] := by
  have ends : Directive.number.Ends [] := by simp [Directive.Ends]
  have scanned := (Prints.number small).scan ends
  rw [List.append_nil] at scanned
  rw [sscanf_printed linked, sscanf, scanned]
  rfl

/-- Without a digit of the last number it has no value. -/
theorem length_sscanf_stem (linked : Linked stem (decimal last))
    {count : Nat} (cut : count ≤ (joined stem).length) :
    (sscanf (stem.map directive ++ [.number])
      ((joined stem ++ decimal last).take count)).length ≤
        (values stem).length := by
  rw [List.take_append_of_le_length cut]
  exact length_sscanf_cut linked cut _

/-- With some of its digits the last number is smaller. -/
theorem sscanf_shortened (linked : Linked stem (decimal last))
    (small : last < 2 ^ 64) {count : Nat} (some : (joined stem).length < count)
    (cut : count < (joined stem ++ decimal last).length) :
    ∃ shorter < last,
      sscanf (stem.map directive ++ [.number])
        ((joined stem ++ decimal last).take count) =
          values stem ++ [.number shorter] := by
  obtain ⟨digits, rfl⟩ : ∃ digits, count = (joined stem).length + digits :=
    ⟨count - (joined stem).length, by omega⟩
  rw [List.length_append] at cut
  have positive : 0 < digits := by omega
  have smaller : decimalValue ((decimal last).take digits) < last :=
    decimalValue_take_lt positive (by omega)
  have kept : ∀ char ∈ (decimal last).take digits, char.isDigit = true :=
    fun char member => isDigit_of_mem_decimal (List.mem_of_mem_take member)
  have nonempty : (decimal last).take digits ≠ [] := by
    simp [List.take_eq_nil_iff, positive.ne', decimal_ne_nil]
  have scanned : Directive.number.scan ((decimal last).take digits ++ []) = _ :=
    scan_digits nonempty kept (smaller.trans small) (by simp)
  rw [List.append_nil] at scanned
  refine ⟨decimalValue ((decimal last).take digits), smaller, ?_⟩
  rw [List.take_length_add_append, sscanf_printed (linked.take digits), sscanf,
    scanned]
  rfl

/-- A row that ends in the number `last`, read by `scan`: whole, without that
number, or with some of its digits. -/
structure RowScan {Row : Type} (scan : CString → Option Row) (line : CString)
    (last : Nat) (reread : Nat → Row) : Prop where
  ends : (decimal last).length ≤ line.length
  whole : scan line = some (reread last)
  refused : ∀ count, count + (decimal last).length ≤ line.length →
    scan (line.take count) = none
  shortened : ∀ count, line.length < count + (decimal last).length →
    count < line.length →
      ∃ shorter < last, scan (line.take count) = some (reread shorter)

/-- A scanner that reads all values of its format or nothing. -/
theorem rowScan_of_stem (linked : Linked stem (decimal last))
    (small : last < 2 ^ 64) {Row : Type} {scan : CString → Option Row}
    {reread : Nat → Row}
    (reads : ∀ line value,
      sscanf (stem.map directive ++ [.number]) line =
        values stem ++ [.number value] → scan line = some (reread value))
    (refuses : ∀ line,
      (sscanf (stem.map directive ++ [.number]) line).length ≤
        (values stem).length → scan line = none) :
    RowScan scan (joined stem ++ decimal last) last reread := by
  constructor
  · rw [List.length_append]
    exact Nat.le_add_left _ _
  · exact reads _ _ (sscanf_last linked small)
  · intro count cut
    rw [List.length_append] at cut
    exact refuses _ (length_sscanf_stem linked (by omega))
  · intro count some cut
    rw [List.length_append] at some
    obtain ⟨shorter, smaller, scanned⟩ :=
      sscanf_shortened linked small (by omega) cut
    exact ⟨shorter, smaller, reads _ _ scanned⟩

end LastNumber

/-- A text that `%s` reads as a whole. -/
structure Word (chars : CString) : Prop where
  named : chars ≠ []
  plain : ∀ char ∈ chars, isCSpace char = false

theorem word_iff (chars : CString) :
    (chars ≠ [] ∧ (chars.all fun char => !isCSpace char) = true) ↔
      Word chars := by
  constructor
  · rintro ⟨named, plain⟩
    refine ⟨named, fun char member => ?_⟩
    simpa using List.all_eq_true.mp plain char member
  · rintro ⟨named, plain⟩
    refine ⟨named, List.all_eq_true.mpr fun char member => ?_⟩
    simpa using plain char member

instance (chars : CString) : Decidable (Word chars) :=
  decidable_of_iff _ (word_iff chars)

theorem Word.noNewline {chars : CString} (word : Word chars) :
    '\n' ∉ chars := by
  intro member
  exact absurd (word.plain _ member) (by decide)

namespace Piece

def blank : Piece := ⟨.space, [' '], none, .space⟩

def text (chars : CString) : Piece := ⟨.literal chars, chars, none, .literal chars⟩

def word {bound : Nat} (content : BoundedString bound)
    (isWord : Word content.chars) : Piece :=
  ⟨.word bound, content.chars, some (.word content.chars),
    .word isWord.named isWord.plain content.fits⟩

def number (value : Nat) (small : value < 2 ^ 64) : Piece :=
  ⟨.number, decimal value, some (.number value), .number small⟩

section Links

variable {bound : Nat} (content : BoundedString bound) (rest : CString)

theorem ends_of_visible {char : Char} (visible : isCSpace char = false) :
    Directive.space.Ends (char :: rest) := by
  intro next head
  cases head
  simp [Directive.endsAt, visible]

theorem blank_then_word (isWord : Word content.chars) :
    Directive.space.Ends (content.chars ++ rest) := by
  obtain ⟨first, others, chars⟩ := List.exists_cons_of_ne_nil isWord.named
  rw [chars]
  apply ends_of_visible
  apply isWord.plain
  rw [chars]
  exact List.mem_cons_self

theorem blank_then_number (value : Nat) :
    Directive.space.Ends (decimal value ++ rest) := by
  obtain ⟨first, others, digits, digit⟩ := decimal_cons value
  rw [digits]
  apply ends_of_visible
  exact isCSpace_of_isDigit digit

theorem word_then_blank : (Directive.word bound).Ends (' ' :: rest) := by
  intro next head
  cases head
  rfl

theorem number_then {char : Char} (other : char.isDigit = false) :
    Directive.number.Ends (char :: rest) := by
  intro next head
  cases head
  simp [Directive.endsAt, other]

theorem text_then (chars : CString) : (Directive.literal chars).Ends rest :=
  fun _ _ => rfl

end Links

end Piece

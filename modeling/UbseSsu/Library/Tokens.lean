import Mathlib.Algebra.Group.Int.Defs
import UbseSsu.Library.CString
import UbseSsu.Library.Framing

/-!
# Tokens

`strtok_r` on one delimiter takes the runs of a text one after the other, so
tokens that hold no delimiter come back from the text they were joined into.
`strtol` is the signed sibling of `strtoul`.
-/

open Framing

/-- `strtok_r` on one delimiter: the token and what `save` points to. -/
def strtok (delimiter : Char) (text : CString) : Option (CString × CString) :=
  match text.dropWhile (· = delimiter) with
  | [] => none
  | first :: rest =>
      some ((first :: rest).takeWhile (· ≠ delimiter),
        ((first :: rest).dropWhile (· ≠ delimiter)).drop 1)

/-- The tokens that repeated calls of `strtok_r` find, at most `fuel`. -/
def strtokAll (delimiter : Char) : Nat → CString → List CString
  | 0, _ => []
  | fuel + 1, text =>
      match strtok delimiter text with
      | none => []
      | some (token, save) => token :: strtokAll delimiter fuel save

section Tokens

variable {delimiter : Char}

theorem runs_dropWhile (text : CString) :
    runs delimiter (text.dropWhile (· = delimiter)) = runs delimiter text := by
  induction text with
  | nil => rfl
  | cons head tail induction =>
      by_cases isDelimiter : head = delimiter
      · subst isDelimiter
        rw [List.dropWhile_cons_of_pos (by simp), induction, runs_sep]
      · rw [List.dropWhile_cons_of_neg (by simpa using isDelimiter)]

theorem not_mem_takeWhile (text : CString) :
    delimiter ∉ text.takeWhile (· ≠ delimiter) := by
  intro member
  simpa using List.mem_takeWhile_imp member

/-- A token is the first run, and `save` holds the others. -/
theorem strtok_cases (text : CString) :
    (strtok delimiter text = none ∧ runs delimiter text = []) ∨
      ∃ token save, strtok delimiter text = some (token, save) ∧
        runs delimiter text = token :: runs delimiter save ∧
          save.length < text.length := by
  have dropped := List.length_dropWhile_le (· = delimiter) text
  rw [← runs_dropWhile]
  unfold strtok
  cases started : text.dropWhile (· = delimiter) with
  | nil => exact .inl ⟨rfl, rfl⟩
  | cons first rest =>
      have different : first ≠ delimiter := by
        have head := List.head?_dropWhile_not (· = delimiter) text
        rw [started] at head
        simpa using head
      rw [started, List.length_cons] at dropped
      refine .inr ⟨_, _, rfl, ?_, ?_⟩
      · have nonempty : (first :: rest).takeWhile (· ≠ delimiter) ≠ [] := by
          rw [List.takeWhile_cons_of_pos (by simpa using different)]
          exact List.cons_ne_nil _ _
        have token := runs_of_no_sep nonempty
          (not_mem_takeWhile (first :: rest))
        conv_lhs => rw [← List.takeWhile_append_dropWhile
          (p := fun char => decide (char ≠ delimiter)) (l := first :: rest)]
        cases ended : (first :: rest).dropWhile (· ≠ delimiter) with
        | nil => rw [List.append_nil, token, List.drop_nil, runs_nil]
        | cons next save =>
            have isDelimiter : next = delimiter := by
              have head := List.head?_dropWhile_not
                (fun char => decide (char ≠ delimiter)) (first :: rest)
              rw [ended] at head
              simpa using head
            subst isDelimiter
            rw [runs_append_of_clean, token, runs_sep]
            · rfl
            · intro _ _ other same
              exact .inr (Option.some.inj same).symm
      · rw [List.dropWhile_cons_of_pos (by simpa using different),
          List.length_drop]
        have shorter := List.length_dropWhile_le (· ≠ delimiter) rest
        omega

theorem strtok_plain {delimiter : Char} {token save : CString}
    (named : token ≠ []) (plain : delimiter ∉ token) :
    strtok delimiter (token ++ delimiter :: save) = some (token, save) := by
  have run : ∀ char ∈ token, decide (char ≠ delimiter) = true := by
    intro char member
    exact decide_eq_true fun same => plain (same ▸ member)
  obtain ⟨first, rest, rfl⟩ := List.exists_cons_of_ne_nil named
  have different := of_decide_eq_true (run first List.mem_cons_self)
  unfold strtok
  rw [List.cons_append, List.dropWhile_cons_of_neg (by simpa using different)]
  simp only
  rw [← List.cons_append, List.takeWhile_append_of_pos run,
    List.dropWhile_append_of_pos run]
  simp

theorem length_strtok {delimiter : Char} {text token save : CString}
    (found : strtok delimiter text = some (token, save))
    (more : save ≠ []) : token.length + 1 + save.length ≤ text.length := by
  have dropped := List.length_dropWhile_le (· = delimiter) text
  unfold strtok at found
  split at found
  · cases found
  · rename_i first rest started
    rw [started] at dropped
    obtain ⟨rfl, rfl⟩ := Prod.mk.inj (Option.some.inj found)
    have parts := congrArg List.length (List.takeWhile_append_dropWhile
      (p := fun char => decide (char ≠ delimiter)) (l := first :: rest))
    have positive := List.length_pos_iff.mpr more
    rw [List.length_append] at parts
    rw [List.length_drop] at positive ⊢
    omega

theorem strtok_last {token : CString} (named : token ≠ [])
    (plain : delimiter ∉ token) : strtok delimiter token = some (token, []) := by
  have run : ∀ char ∈ token, decide (char ≠ delimiter) = true := by
    intro char member
    exact decide_eq_true fun same => plain (same ▸ member)
  obtain ⟨first, rest, rfl⟩ := List.exists_cons_of_ne_nil named
  have different := of_decide_eq_true (run first List.mem_cons_self)
  unfold strtok
  rw [List.dropWhile_cons_of_neg (by simpa using different)]
  simp only
  rw [List.takeWhile_eq_self_iff.mpr run, List.dropWhile_eq_nil_iff.mpr run,
    List.drop_nil]

theorem strtokAll_eq_runs {fuel : Nat} {text : CString}
    (enough : text.length ≤ fuel) :
    strtokAll delimiter fuel text = runs delimiter text := by
  induction fuel generalizing text with
  | zero =>
      rw [List.length_eq_zero_iff.mp (Nat.le_zero.mp enough)]
      rfl
  | succ fuel induction =>
      rcases strtok_cases text with ⟨ended, none⟩ |
        ⟨token, save, found, all, shorter⟩
      · rw [strtokAll, ended, none]
      · rw [strtokAll, found, all]
        simp only
        rw [induction (by omega)]

end Tokens

section Numbers

/-- `"%d"`. -/
def decimalInt (value : Int) : CString :=
  if value < 0 then '-' :: decimal value.natAbs else decimal value.natAbs

structure StrtolResult where
  value : Int
  rest : CString
  converted : Bool
  outOfRange : Bool
deriving DecidableEq

/-- `strtol(text, &end, 10)` with a 64-bit `long`. -/
def strtol (text : CString) : StrtolResult :=
  let trimmed := text.dropWhile isCSpace
  let negative := trimmed.head? = some '-'
  let unsigned :=
    if trimmed.head? = some '-' ∨ trimmed.head? = some '+' then trimmed.tail
    else trimmed
  let digits := unsigned.takeWhile Char.isDigit
  let magnitude : Int := decimalValue digits
  if digits = [] then
    { value := 0, rest := text, converted := false, outOfRange := false }
  else
    { value :=
        if negative then max (-2 ^ 63) (-magnitude)
        else min (2 ^ 63 - 1) magnitude
      rest := unsigned.dropWhile Char.isDigit
      converted := true
      outOfRange :=
        if negative then decide (-magnitude < -2 ^ 63)
        else decide (2 ^ 63 - 1 < magnitude) }

/-- The first digit of a number, and the others. -/
theorem decimal_cons (value : Nat) : ∃ first rest,
    decimal value = first :: rest ∧ first.isDigit = true := by
  obtain ⟨first, rest, digits⟩ :=
    List.exists_cons_of_ne_nil (decimal_ne_nil value)
  have member : first ∈ decimal value := by
    rw [digits]
    exact List.mem_cons_self
  exact ⟨first, rest, digits, isDigit_of_mem_decimal member⟩

theorem strtol_decimalInt {value : Int} {tail : CString}
    (low : -2 ^ 63 ≤ value) (high : value < 2 ^ 63)
    (ends : ∀ char ∈ tail.head?, char.isDigit = false) :
    (strtol (decimalInt value ++ tail)).value = value := by
  obtain ⟨first, rest, digits, digit⟩ := decimal_cons value.natAbs
  have taken : (decimal value.natAbs ++ tail).takeWhile Char.isDigit =
      decimal value.natAbs :=
    (takeWhile_isDigit_append (fun _ => isDigit_of_mem_decimal) ends).1
  have notMinus : first ≠ '-' := by
    rintro rfl
    cases digit
  have notPlus : first ≠ '+' := by
    rintro rfl
    cases digit
  unfold strtol decimalInt
  split
  · rename_i negative
    have dash : isCSpace '-' = false := by decide
    rw [List.cons_append, List.dropWhile_cons_of_neg (by simp [dash])]
    simp only [List.head?_cons, List.tail_cons, true_or, if_true, taken,
      decimal_ne_nil, if_false, decimalValue_decimal]
    omega
  · rename_i notNegative
    have kept : (decimal value.natAbs ++ tail).dropWhile isCSpace =
        decimal value.natAbs ++ tail := by
      rw [digits, List.cons_append, List.dropWhile_cons_of_neg (by
        simp [isCSpace_of_isDigit digit])]
    have start : (decimal value.natAbs ++ tail).head? = some first := by
      rw [digits]
      rfl
    simp only [kept, start, Option.some.injEq, notMinus, notPlus, or_self,
      if_false, taken, decimal_ne_nil, decimalValue_decimal]
    omega

theorem not_mem_decimalInt {value : Int} {char : Char}
    (other : char.isDigit = false) (notMinus : char ≠ '-') :
    char ∉ decimalInt value := by
  unfold decimalInt
  split
  · rw [List.mem_cons, not_or]
    exact ⟨notMinus, not_mem_decimal other⟩
  · exact not_mem_decimal other

theorem decimalInt_ne_nil (value : Int) : decimalInt value ≠ [] := by
  unfold decimalInt
  split
  · exact List.cons_ne_nil _ _
  · exact decimal_ne_nil _

end Numbers

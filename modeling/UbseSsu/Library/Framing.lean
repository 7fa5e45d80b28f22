import Mathlib.Data.List.Basic

/-!
# Separated runs and cuts between them

The runs of a text are its longest pieces without the separator.  A text that
arrives in two parts shows the runs of both parts; they are the runs of the
whole text exactly when the cut touches a separator, and one too many when it
does not.
-/

namespace Framing

variable {α : Type} [DecidableEq α] (sep : α)

def addRun : List α → List (List α) → List (List α)
  | [], others => others
  | head :: tail, others => (head :: tail) :: others

/-- The run a text starts with, which may be empty, and the runs behind it. -/
def split : List α → List α × List (List α)
  | [] => ([], [])
  | head :: tail =>
      if head = sep then ([], addRun (split tail).1 (split tail).2)
      else (head :: (split tail).1, (split tail).2)

def runs (text : List α) : List (List α) :=
  addRun (split sep text).1 (split sep text).2

/-- The cut between two parts touches a separator or an end of the text. -/
def CleanCut (left right : List α) : Prop :=
  ∀ last ∈ left.getLast?, ∀ next ∈ right.head?, last = sep ∨ next = sep

instance (left right : List α) : Decidable (CleanCut sep left right) :=
  inferInstanceAs (Decidable (∀ last ∈ _, ∀ next ∈ _, _))

variable {sep}

omit [DecidableEq α] in
theorem addRun_append (first : List α) (others more : List (List α)) :
    addRun first (others ++ more) = addRun first others ++ more := by
  cases first <;> rfl

theorem split_sep (tail : List α) :
    split sep (sep :: tail) = ([], runs sep tail) := by
  rw [split, if_pos rfl]
  rfl

theorem split_of_ne {head : α} (different : head ≠ sep) (tail : List α) :
    split sep (head :: tail) =
      (head :: (split sep tail).1, (split sep tail).2) := by
  rw [split, if_neg different]

@[simp] theorem runs_nil : runs sep [] = [] := rfl

@[simp] theorem runs_sep (text : List α) :
    runs sep (sep :: text) = runs sep text := by
  rw [runs, split_sep]
  rfl

theorem split_fst_eq_nil_iff {head : α} {tail : List α} :
    (split sep (head :: tail)).1 = [] ↔ head = sep := by
  unfold split
  split <;> simp_all

/-- Behind a clean cut the runs start anew. -/
theorem split_append_of_clean {left right : List α} (nonempty : left ≠ [])
    (clean : CleanCut sep left right) :
    split sep (left ++ right) =
      ((split sep left).1, (split sep left).2 ++ runs sep right) := by
  induction left with
  | nil => exact (nonempty rfl).elim
  | cons head tail induction =>
      cases tail with
      | nil =>
          by_cases isSep : head = sep
          · simp [split, isSep, runs, addRun]
          · cases right with
            | nil => simp [split, isSep]
            | cons next rest =>
                have touching := (clean head rfl next rfl).resolve_left isSep
                subst touching
                simp [split, isSep, runs, addRun]
      | cons second rest =>
          have later := induction (List.cons_ne_nil _ _) (by
            simpa [CleanCut, List.getLast?_cons_cons] using clean)
          rw [List.cons_append]
          by_cases isSep : head = sep
          · subst isSep
            rw [split_sep, split_sep, runs, later, addRun_append]
            rfl
          · rw [split_of_ne isSep, split_of_ne isSep, later]

theorem runs_append_of_clean {left right : List α}
    (clean : CleanCut sep left right) :
    runs sep (left ++ right) = runs sep left ++ runs sep right := by
  by_cases empty : left = []
  · rw [empty, List.nil_append, runs_nil, List.nil_append]
  · rw [runs, split_append_of_clean empty clean, addRun_append]
    rfl

omit [DecidableEq α] in
theorem length_addRun (first : List α) (others : List (List α)) :
    (addRun first others).length =
      others.length + if first = [] then 0 else 1 := by
  cases first <;> simp [addRun]

/-- A cut inside a run shows one run more. -/
theorem length_split_append_of_cut {left right : List α}
    (nonempty : left ≠ []) (cut : ¬CleanCut sep left right) :
    (split sep (left ++ right)).2.length + 1 =
      (split sep left).2.length + (runs sep right).length := by
  induction left with
  | nil => exact (nonempty rfl).elim
  | cons head tail induction =>
      cases tail with
      | nil =>
          have inside : head ≠ sep ∧ ∃ next rest, right = next :: rest ∧
              next ≠ sep := by
            cases right with
            | nil => simp [CleanCut] at cut
            | cons next rest =>
                simp only [CleanCut, List.getLast?_singleton,
                  Option.mem_some_iff, List.head?_cons, forall_eq',
                  not_or] at cut
                exact ⟨cut.1, next, rest, rfl, cut.2⟩
          obtain ⟨outside, next, rest, rfl, later⟩ := inside
          have running : (split sep (next :: rest)).1 ≠ [] :=
            mt split_fst_eq_nil_iff.mp later
          rw [runs, length_addRun, if_neg running, List.singleton_append,
            split_of_ne outside, split_of_ne outside]
          simp [split]
      | cons second rest =>
          have later := induction (List.cons_ne_nil _ _) (by
            simpa [CleanCut, List.getLast?_cons_cons] using cut)
          rw [List.cons_append]
          by_cases isSep : head = sep
          · have opens : (split sep (second :: rest ++ right)).1 = [] ↔
                (split sep (second :: rest)).1 = [] :=
              split_fst_eq_nil_iff.trans split_fst_eq_nil_iff.symm
            subst isSep
            rw [split_sep, split_sep, runs, length_addRun,
              if_congr opens rfl rfl, runs, length_addRun]
            omega
          · rw [split_of_ne isSep, split_of_ne isSep]
            exact later

theorem length_runs_append_of_cut {left right : List α}
    (cut : ¬CleanCut sep left right) :
    (runs sep (left ++ right)).length + 1 =
      (runs sep left).length + (runs sep right).length := by
  cases left with
  | nil => simp [CleanCut] at cut
  | cons head tail =>
      have counted := length_split_append_of_cut (List.cons_ne_nil _ _) cut
      have opens : (split sep (head :: tail ++ right)).1 = [] ↔
          (split sep (head :: tail)).1 = [] :=
        split_fst_eq_nil_iff.trans split_fst_eq_nil_iff.symm
      rw [runs, length_addRun, if_congr opens rfl rfl, runs, length_addRun]
      omega

/-- The runs hold all characters but the separators. -/
theorem flatten_runs (text : List α) :
    (runs sep text).flatten = text.filter (· ≠ sep) := by
  have joined : ∀ (first : List α) (others : List (List α)),
      (addRun first others).flatten = first ++ others.flatten := by
    intro first others
    cases first <;> simp [addRun]
  induction text with
  | nil => rfl
  | cons head tail induction =>
      by_cases isSep : head = sep
      · subst isSep
        rw [runs_sep, induction, List.filter_cons_of_neg (by simp)]
      · rw [List.filter_cons_of_pos (by simpa using isSep), ← induction,
          runs, runs, joined, joined, split_of_ne isSep]
        rfl

theorem runs_ne_nil {text run : List α} (member : run ∈ runs sep text) :
    run ≠ [] := by
  have listed : ∀ first (others : List (List α)),
      (∀ other ∈ others, other ≠ []) → ∀ other ∈ addRun first others,
        other ≠ [] := by
    intro first others nonempty other otherMember
    cases first with
    | nil => exact nonempty other otherMember
    | cons head tail =>
        rcases List.mem_cons.mp otherMember with rfl | later
        · exact List.cons_ne_nil _ _
        · exact nonempty other later
  have behind : ∀ other ∈ (split sep text).2, other ≠ [] := by
    clear member
    induction text with
    | nil => exact nofun
    | cons head tail induction =>
        intro other otherMember
        rw [split] at otherMember
        split at otherMember
        · exact listed _ _ induction other otherMember
        · exact induction other otherMember
  exact listed _ _ behind run member

/-- A text without a separator is one run. -/
theorem runs_of_no_sep {text : List α} (nonempty : text ≠ [])
    (plain : sep ∉ text) : runs sep text = [text] := by
  have whole : split sep text = (text, []) := by
    clear nonempty
    induction text with
    | nil => rfl
    | cons head tail induction =>
        obtain ⟨different, later⟩ := List.ne_and_not_mem_of_not_mem_cons plain
        rw [split_of_ne (Ne.symm different), induction later]
  rw [runs, whole]
  cases text with
  | nil => exact (nonempty rfl).elim
  | cons head tail => rfl

/-- A run that a separator ends. -/
theorem runs_append_sep {run rest : List α} (nonempty : run ≠ [])
    (plain : sep ∉ run) : runs sep (run ++ sep :: rest) = run :: runs sep rest := by
  rw [runs_append_of_clean, runs_of_no_sep nonempty plain, runs_sep]
  · rfl
  · intro _ _ next same
    exact .inr (Option.some.inj same).symm

omit [DecidableEq α] in
theorem intercalate_cons (first : List α) (others : List (List α)) :
    [sep].intercalate (first :: others) =
      first ++ others.flatMap (sep :: ·) := by
  induction others generalizing first with
  | nil => simp
  | cons second others induction =>
      rw [List.intercalate_cons_cons, induction second]
      simp

/-- What was joined with separators comes apart again. -/
theorem runs_intercalate {parts : List (List α)}
    (plain : ∀ part ∈ parts, part ≠ [] ∧ sep ∉ part) :
    runs sep ([sep].intercalate parts) = parts := by
  induction parts with
  | nil => simp
  | cons part parts induction =>
      obtain ⟨⟨nonempty, noSep⟩, others⟩ := List.forall_mem_cons.mp plain
      cases parts with
      | nil =>
          rw [List.intercalate_singleton]
          exact runs_of_no_sep nonempty noSep
      | cons next parts =>
          rw [List.intercalate_cons_cons, List.append_assoc,
            List.singleton_append, runs_append_sep nonempty noSep,
            induction others]

/-- The lines that are left of a text cut off after `count` characters. -/
def cutLines : Nat → List (List α) → List (List α)
  | _, [] => []
  | count, line :: lines =>
      if count = 0 then []
      else if count ≤ line.length then [line.take count]
      else line :: cutLines (count - (line.length + 1)) lines

theorem runs_take_lines {lines : List (List α)}
    (plain : ∀ line ∈ lines, line ≠ [] ∧ sep ∉ line) (count : Nat) :
    runs sep ((lines.flatMap (· ++ [sep])).take count) =
      cutLines count lines := by
  induction lines generalizing count with
  | nil => simp [cutLines]
  | cons line lines induction =>
      obtain ⟨⟨nonempty, noSep⟩, others⟩ := List.forall_mem_cons.mp plain
      rw [List.flatMap_cons, List.append_assoc, List.singleton_append,
        cutLines]
      split
      · rename_i none
        rw [none, List.take_zero, runs_nil]
      · rename_i some
        split
        · rename_i within
          rw [List.take_append_of_le_length within]
          apply runs_of_no_sep
          · simp [List.take_eq_nil_iff, some, nonempty]
          · exact fun member => noSep (List.mem_of_mem_take member)
        · rename_i behind
          obtain ⟨more, rest⟩ : ∃ more, count = line.length + (more + 1) :=
            ⟨count - (line.length + 1), by omega⟩
          have left : count - (line.length + 1) = more := by omega
          rw [left, rest, List.take_length_add_append, List.take_succ_cons,
            runs_append_sep nonempty noSep, induction others]

end Framing

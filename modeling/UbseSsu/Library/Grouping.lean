import Mathlib.Data.List.Count
import Mathlib.Data.List.Forall2
import Mathlib.Data.List.Perm.Basic

/-!
# Lists compared item by item and group by group

Every item of two related lists has a counterpart.  When every item carries a key, two lists with the same sublist for each key
hold the same items.  The erasing lemmas say what removing one item does to
the sublist of its own key and to the others.
-/

namespace Grouping

variable {α : Type}

theorem exists_of_forall₂ {β : Type} {related : α → β → Prop}
    {lefts : List α} {rights : List β}
    (all : List.Forall₂ related lefts rights) {left : α}
    (member : left ∈ lefts) : ∃ right ∈ rights, related left right := by
  induction all with
  | nil => contradiction
  | cons first _ induction =>
      rcases List.mem_cons.mp member with rfl | later
      · exact ⟨_, List.mem_cons_self, first⟩
      · obtain ⟨right, rightMember, holds⟩ := induction later
        exact ⟨right, List.mem_cons_of_mem _ rightMember, holds⟩

theorem perm_of_groups {κ : Type} [DecidableEq κ] [DecidableEq α] (key : α → κ) {left right : List α}
    (same : ∀ k, left.filter (fun item => key item = k) =
      right.filter (fun item => key item = k)) : left.Perm right := by
  refine List.perm_iff_count.mpr fun item => ?_
  have grouped : ∀ list : List α,
      (list.filter fun other => key other = key item).count item =
        list.count item := fun list => List.count_filter (by simp)
  rw [← grouped left, same (key item), grouped right]

variable {erased condition : α → Bool}

/-- Erasing the first item of a group leaves the rest of it. -/
theorem filter_eraseP_first {list rest : List α} {first : α}
    (inside : ∀ item, erased item = true → condition item = true)
    (matched : erased first = true)
    (listed : list.filter condition = first :: rest) :
    (list.eraseP erased).filter condition = rest := by
  induction list with
  | nil => simp at listed
  | cons head tail induction =>
      by_cases member : condition head = true
      · rw [List.filter_cons_of_pos member, List.cons.injEq] at listed
        rw [List.eraseP_cons_of_pos (listed.1 ▸ matched)]
        exact listed.2
      · rw [List.filter_cons_of_neg member] at listed
        have kept : ¬erased head = true := mt (inside head) member
        rw [List.eraseP_cons_of_neg kept, List.filter_cons_of_neg member]
        exact induction listed

theorem filter_eraseP_other {list : List α}
    (outside : ∀ item, erased item = true → condition item = false) :
    (list.eraseP erased).filter condition = list.filter condition := by
  induction list with
  | nil => rfl
  | cons head tail induction =>
      by_cases matched : erased head = true
      · rw [List.eraseP_cons_of_pos matched, List.filter_cons_of_neg]
        simp [outside head matched]
      · rw [List.eraseP_cons_of_neg matched, List.filter_cons,
          List.filter_cons, induction]

end Grouping

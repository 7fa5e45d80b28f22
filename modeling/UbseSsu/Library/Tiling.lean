import Mathlib.Algebra.GroupWithZero.Nat
import Mathlib.Algebra.Order.BigOperators.Group.List
import Mathlib.Algebra.Order.Group.Nat
import Mathlib.Algebra.Order.Monoid.Canonical.Basic
import Mathlib.Data.List.Basic

/-!
# Consecutive spans and exact tilings

A span is an offset and a length.  `Consecutive` lays spans end to end in list
order; `Tiles` is the order-free notion: every byte below the total lies in
exactly one span and no byte above it lies in any.
-/

namespace Tiling

abbrev Span := Nat × Nat

def Span.covers (byte : Nat) (span : Span) : Bool :=
  decide (span.1 ≤ byte) && decide (byte < span.1 + span.2)

theorem Span.covers_iff {byte : Nat} {span : Span} :
    span.covers byte = true ↔ span.1 ≤ byte ∧ byte < span.1 + span.2 := by
  simp [Span.covers]

def Consecutive : Nat → Nat → List Span → Prop
  | start, stop, [] => start = stop
  | start, stop, span :: spans =>
      span.1 = start ∧ Consecutive (start + span.2) stop spans

/-- No gap, no overlap, nothing outside `[0, total)`, and the lengths add up
to the total. -/
structure Tiles (total : Nat) (spans : List Span) : Prop where
  once : ∀ byte < total, spans.countP (Span.covers byte) = 1
  inside : ∀ byte ≥ total, spans.countP (Span.covers byte) = 0
  sum : (spans.map Prod.snd).sum = total

theorem Tiles.perm {total : Nat} {left right : List Span}
    (permutation : left.Perm right) (tiles : Tiles total left) :
    Tiles total right where
  once byte bound := by
    rw [← permutation.countP_eq]
    exact tiles.once byte bound
  inside byte bound := by
    rw [← permutation.countP_eq]
    exact tiles.inside byte bound
  sum := by
    rw [← (permutation.map Prod.snd).sum_eq]
    exact tiles.sum

/-- What only one item of a list meets is met by equal items only. -/
theorem eq_of_countP_eq_one {α : Type} {condition : α → Bool} {items : List α}
    (once : items.countP condition = 1) {left right : α}
    (leftMember : left ∈ items) (rightMember : right ∈ items)
    (leftMeets : condition left = true)
    (rightMeets : condition right = true) : left = right := by
  rw [List.countP_eq_length_filter] at once
  obtain ⟨only, alone⟩ := List.length_eq_one_iff.mp once
  have leftOnly : left ∈ items.filter condition :=
    List.mem_filter.mpr ⟨leftMember, leftMeets⟩
  have rightOnly : right ∈ items.filter condition :=
    List.mem_filter.mpr ⟨rightMember, rightMeets⟩
  rw [alone, List.mem_singleton] at leftOnly rightOnly
  rw [leftOnly, rightOnly]

theorem Consecutive.le {start stop : Nat} {spans : List Span}
    (laid : Consecutive start stop spans) : start ≤ stop := by
  induction spans generalizing start with
  | nil => exact Nat.le_of_eq laid
  | cons span spans induction =>
      have rest := induction laid.2
      omega

theorem Consecutive.span_le {start stop : Nat} {spans : List Span}
    (laid : Consecutive start stop spans) {span : Span}
    (member : span ∈ spans) : span.1 + span.2 ≤ stop := by
  induction spans generalizing start with
  | nil => contradiction
  | cons head spans induction =>
      rcases List.mem_cons.mp member with rfl | later
      · rw [laid.1]
        exact laid.2.le
      · exact induction laid.2 later

theorem Consecutive.sum {start stop : Nat} {spans : List Span}
    (laid : Consecutive start stop spans) :
    start + (spans.map Prod.snd).sum = stop := by
  induction spans generalizing start with
  | nil => exact laid
  | cons span spans induction =>
      have rest := induction laid.2
      simp only [List.map_cons, List.sum_cons]
      omega

/-- Later spans start later, unless one of them is empty. -/
theorem Consecutive.pairwise_lt {start stop : Nat} {spans : List Span}
    (laid : Consecutive start stop spans)
    (positive : ∀ span ∈ spans, 0 < span.2) :
    (∀ span ∈ spans, start ≤ span.1) ∧
      spans.Pairwise fun left right => left.1 < right.1 := by
  induction spans generalizing start with
  | nil => exact ⟨by simp, .nil⟩
  | cons span spans induction =>
      obtain ⟨begins, rest⟩ := laid
      obtain ⟨long, others⟩ := List.forall_mem_cons.mp positive
      obtain ⟨above, ordered⟩ := induction rest others
      refine ⟨List.forall_mem_cons.mpr ⟨begins.ge, ?_⟩,
        List.pairwise_cons.mpr ⟨?_, ordered⟩⟩
      · intro other member
        have later := above other member
        omega
      · intro other member
        have later := above other member
        omega

theorem Consecutive.countP {start stop : Nat} {spans : List Span}
    (laid : Consecutive start stop spans) (byte : Nat) :
    spans.countP (Span.covers byte) =
      if start ≤ byte ∧ byte < stop then 1 else 0 := by
  induction spans generalizing start with
  | nil =>
      have same : start = stop := laid
      have outside : ¬(start ≤ byte ∧ byte < stop) := by omega
      simp [outside]
  | cons span spans induction =>
      obtain ⟨begins, rest⟩ := laid
      have ends := rest.le
      rw [List.countP_cons, induction rest]
      simp only [Span.covers, begins, Bool.and_eq_true, decide_eq_true_eq]
      split <;> split <;> split <;> omega

theorem Consecutive.tiles {total : Nat} {spans : List Span}
    (laid : Consecutive 0 total spans) : Tiles total spans where
  once byte bound := by
    rw [laid.countP, if_pos ⟨Nat.zero_le _, bound⟩]
  inside byte bound := by
    rw [laid.countP, if_neg (fun within => Nat.not_lt.mpr bound within.2)]
  sum := by
    have added := laid.sum
    omega

/-- Losing a span of positive length breaks a tiling. -/
theorem Consecutive.not_tiles_of_lost {total : Nat} {kept lost : List Span}
    {spans : List Span} (laid : Consecutive 0 total spans)
    (split : spans.Perm (lost ++ kept))
    (positive : ∃ span ∈ lost, 0 < span.2) : ¬Tiles total kept := by
  intro tiles
  have added := laid.sum
  have parted := (split.map Prod.snd).sum_eq
  rw [List.map_append, List.sum_append, tiles.sum] at parted
  obtain ⟨span, member, long⟩ := positive
  have counted : span.2 ≤ (lost.map Prod.snd).sum :=
    List.le_sum_of_mem (List.mem_map_of_mem member)
  omega

end Tiling

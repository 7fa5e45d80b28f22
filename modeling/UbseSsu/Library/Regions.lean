import Mathlib.Data.List.Pairwise
import Mathlib.Data.List.Forall2

/-!
# Regions on several devices

A region is a range of bytes on one device.  A list of regions is isolated
when no two of them share a byte; the lemmas are the moves of an allocator:
reordering, dropping regions, and adding a batch of new ones.
-/

namespace Regions

variable {δ : Type}

structure Region (δ : Type) where
  device : δ
  start : Nat
  length : Nat
deriving DecidableEq

def Region.Covers (region : Region δ) (device : δ) (byte : Nat) : Prop :=
  region.device = device ∧ region.start ≤ byte ∧
    byte < region.start + region.length

/-- On one device, one of them ends before the other begins. -/
def Apart (left right : Region δ) : Prop :=
  left.device = right.device →
    left.start + left.length ≤ right.start ∨
      right.start + right.length ≤ left.start

instance [DecidableEq δ] (left right : Region δ) :
    Decidable (Apart left right) :=
  inferInstanceAs (Decidable (_ → _))

theorem Apart.symm {left right : Region δ} (apart : Apart left right) :
    Apart right left :=
  fun same => (apart same.symm).symm

/-- Regions that are apart share no byte, and nonempty ones only then. -/
theorem apart_iff_no_common {left right : Region δ}
    (leftSized : 0 < left.length) (rightSized : 0 < right.length) :
    Apart left right ↔
      ¬∃ device byte, left.Covers device byte ∧ right.Covers device byte := by
  constructor
  · rintro apart ⟨device, byte, ⟨rfl, low, high⟩, sameDevice, low', high'⟩
    have := apart sameDevice.symm
    omega
  · intro none same
    by_contra overlap
    refine none ⟨left.device, max left.start right.start, ⟨rfl, ?_, ?_⟩,
      same.symm, ?_, ?_⟩ <;> omega

def Isolated (regions : List (Region δ)) : Prop :=
  regions.Pairwise Apart

instance [DecidableEq δ] (regions : List (Region δ)) :
    Decidable (Isolated regions) :=
  inferInstanceAs (Decidable (List.Pairwise _ _))

theorem isolated_perm {left right : List (Region δ)}
    (permutation : left.Perm right) : Isolated left ↔ Isolated right :=
  permutation.pairwise_iff Apart.symm

theorem isolated_append {left right : List (Region δ)} :
    Isolated (left ++ right) ↔ Isolated left ∧ Isolated right ∧
      ∀ one ∈ left, ∀ other ∈ right, Apart one other :=
  List.pairwise_append

end Regions

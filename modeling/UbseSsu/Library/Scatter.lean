import Mathlib.Data.List.Nodup
import Mathlib.Logic.Function.Basic

/-!
# Scattered memory

A transfer between a flat sequence of values and memory that a list of
addresses describes.  Distinct addresses read back what was scattered over
them, and other addresses keep their values.
-/

namespace Scatter

variable {Address Value : Type} [DecidableEq Address]

/-- The values go to the addresses in order, as far as both reach. -/
def scatter (memory : Address → Value) :
    List Address → List Value → Address → Value
  | address :: addresses, value :: values =>
      scatter (Function.update memory address value) addresses values
  | _, _ => memory

variable {memory : Address → Value} {addresses : List Address}
  {values : List Value}

theorem scatter_of_notMem {address : Address}
    (absent : address ∉ addresses) :
    scatter memory addresses values address = memory address := by
  induction addresses generalizing memory values with
  | nil => rfl
  | cons first addresses induction =>
      obtain ⟨different, others⟩ := not_or.mp (mt List.mem_cons.mpr absent)
      cases values with
      | nil => rfl
      | cons value values =>
          rw [scatter, induction others]
          exact Function.update_of_ne different _ _

theorem map_scatter (distinct : addresses.Nodup)
    (sized : values.length = addresses.length) :
    addresses.map (scatter memory addresses values) = values := by
  induction addresses generalizing memory values with
  | nil =>
      rw [List.length_nil] at sized
      exact (List.eq_nil_of_length_eq_zero sized).symm
  | cons first addresses induction =>
      obtain ⟨absent, others⟩ := List.nodup_cons.mp distinct
      cases values with
      | nil => cases sized
      | cons value values =>
          rw [List.map_cons, scatter, scatter_of_notMem absent,
            induction others (Nat.succ.inj sized), Function.update_self]

theorem map_scatter_apart {others : List Address}
    (apart : ∀ address ∈ others, address ∉ addresses) :
    others.map (scatter memory addresses values) = others.map memory := by
  apply List.map_congr_left
  intro address member
  exact scatter_of_notMem (apart address member)

end Scatter

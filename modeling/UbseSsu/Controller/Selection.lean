import UbseSsu.Controller.Loops
import UbseSsu.Library.FirstFit

/-!
# The choice of the SSUs

`select_pool_indexes` is a first fit of the extents over the ONLINE SSUs.  It
tries the longer extents first, and an SSU with room for a longer extent has
room for a shorter one, so it finds a placement whenever there is one.
-/

namespace UbseSsu.Controller

variable {state : ControllerState} {onlineIndexes extents selected : List Nat}
  {baseLength remainder : UInt64}

def extentFits (state : ControllerState) (baseLength remainder : UInt64)
    (extent poolIndex : Nat) : Bool :=
  poolIndexHasCapacity state poolIndex
    (extentLength baseLength remainder extent)

theorem selectPoolIndexes_eq_choose (state : ControllerState)
    (onlineIndexes : List Nat) (baseLength remainder : UInt64)
    (extents selected : List Nat) :
    selectPoolIndexes state onlineIndexes baseLength remainder extents
        selected =
      match FirstFit.choose (extentFits state baseLength remainder)
          onlineIndexes extents selected with
      | none => .error .noResource
      | some chosen => .ok chosen := by
  induction extents generalizing selected with
  | nil => rfl
  | cons extent extents induction =>
      have sameSearch : (fun poolIndex => !selected.contains poolIndex &&
          poolIndexHasCapacity state poolIndex
            (extentLength baseLength remainder extent)) =
          FirstFit.free (extentFits state baseLength remainder) selected
            extent := rfl
      simp only [selectPoolIndexes, FirstFit.choose, sameSearch]
      cases onlineIndexes.find? (FirstFit.free
        (extentFits state baseLength remainder) selected extent) with
      | none => rfl
      | some poolIndex => exact induction (selected ++ [poolIndex])

theorem selectPoolIndexes_ok_iff :
    selectPoolIndexes state onlineIndexes baseLength remainder extents [] =
        .ok selected ↔
      FirstFit.choose (extentFits state baseLength remainder) onlineIndexes
        extents [] = some selected := by
  rw [selectPoolIndexes_eq_choose]
  cases FirstFit.choose (extentFits state baseLength remainder) onlineIndexes
    extents [] with
  | none => simp
  | some chosen => simp

theorem selected_iff_assigns :
    Selected state onlineIndexes baseLength remainder extents selected ↔
      FirstFit.Assigns (extentFits state baseLength remainder) onlineIndexes
        extents selected := by
  constructor
  · rintro ⟨distinct, online, room⟩
    exact ⟨distinct, online, room⟩
  · rintro ⟨distinct, listed, fit⟩
    exact ⟨distinct, listed, fit⟩

/-- Room for an extent is room for every shorter one. -/
theorem poolIndexHasCapacity_mono {poolIndex : Nat} {short long : UInt64}
    (order : short ≤ long)
    (room : poolIndexHasCapacity state poolIndex long = true) :
    poolIndexHasCapacity state poolIndex short = true := by
  unfold poolIndexHasCapacity at room ⊢
  cases pooled : state.pool.items[poolIndex]? with
  | none =>
      rw [pooled] at room
      cases room
  | some resource =>
      simp only [pooled] at room ⊢
      split
      · rename_i unusable
        rw [if_pos unusable] at room
        cases room
      · rename_i usable
        rw [if_neg usable, decide_eq_true_iff] at room
        exact decide_eq_true (UInt64.le_trans order room)

/-- A 64-bit length holds the longer extents. -/
def LengthsFit (baseLength remainder : UInt64) : Prop :=
  remainder = 0 ∨ baseLength.toNat + 1 < 2 ^ 64

theorem toNat_extentLength (fits : LengthsFit baseLength remainder)
    (extent : Nat) :
    (extentLength baseLength remainder extent).toNat =
      baseLength.toNat + if extent < remainder.toNat then 1 else 0 := by
  unfold extentLength
  split
  · rename_i longer
    rcases fits with rfl | small
    · cases longer
    · rw [UInt64.toNat_add]
      exact Nat.mod_eq_of_lt small
  · rw [UInt64.add_zero, Nat.add_zero]

/-- The longer extents come first. -/
theorem extentLength_antitone (fits : LengthsFit baseLength remainder)
    {earlier later : Nat} (order : earlier ≤ later) :
    extentLength baseLength remainder later ≤
      extentLength baseLength remainder earlier := by
  rw [UInt64.le_iff_toNat_le, toNat_extentLength fits, toNat_extentLength fits]
  split
  · rename_i longer
    rw [if_pos (Nat.lt_of_le_of_lt order longer)]
  · apply Nat.add_le_add_left
    exact Nat.zero_le _

theorem extentFits_nested (state : ControllerState)
    (fits : LengthsFit baseLength remainder) (count : Nat) :
    FirstFit.Nested (extentFits state baseLength remainder)
      (List.range count) := by
  apply List.pairwise_lt_range.imp
  intro earlier later order poolIndex room
  exact poolIndexHasCapacity_mono
    (extentLength_antitone fits (Nat.le_of_lt order)) room

/-- The selection succeeds exactly when the extents can be placed on distinct
listed SSUs, and then it is such a placement. -/
theorem selectPoolIndexes_complete (state : ControllerState)
    (onlineIndexes : List Nat) {baseLength remainder : UInt64}
    (fits : LengthsFit baseLength remainder) (count : Nat) :
    ((∃ selected, selectPoolIndexes state onlineIndexes baseLength remainder
        (List.range count) [] = .ok selected) ↔
      ∃ assigned, Selected state onlineIndexes baseLength remainder
        (List.range count) assigned) ∧
      ∀ selected, selectPoolIndexes state onlineIndexes baseLength remainder
        (List.range count) [] = .ok selected →
          Selected state onlineIndexes baseLength remainder
            (List.range count) selected := by
  constructor
  · simp only [selectPoolIndexes_ok_iff, selected_iff_assigns]
    exact FirstFit.choose_eq_some_iff (extentFits_nested state fits count)
  · intro selected chosen
    rw [selected_iff_assigns]
    exact FirstFit.choose_sound .nil (selectPoolIndexes_ok_iff.mp chosen)

/-- A pool of SSUs of the given sizes, all ONLINE and unused. -/
def sizedSsus (sizes : List UInt64) : List SsuResourceInfo :=
  sizes.map fun totalBytes =>
    { (default : SsuResourceInfo) with totalBytes, state := onlineState }

/-- The longer extent is placed first and needs the second SSU. -/
def sevenAndEight : ControllerState :=
  { ControllerState.initial with
    pool := ⟨sizedSsus [7, 8], by decide⟩ }

theorem selectPoolIndexes_complete_sevenAndEight :
    selectPoolIndexes sevenAndEight [0, 1] 7 1 (List.range 2) [] =
        .ok [1, 0] ∧
      Selected sevenAndEight [0, 1] 7 1 (List.range 2) [1, 0] := by
  have chosen : selectPoolIndexes sevenAndEight [0, 1] 7 1 (List.range 2) [] =
      .ok [1, 0] := by decide +kernel
  have fits : LengthsFit 7 1 := .inr (by decide)
  have complete := selectPoolIndexes_complete sevenAndEight [0, 1] fits 2
  exact ⟨chosen, complete.2 [1, 0] chosen⟩

def hugeAndEmpty : ControllerState :=
  { ControllerState.initial with
    pool := ⟨sizedSsus [0xFFFFFFFFFFFFFFFF, 0], by decide⟩ }

/-- When the longer length wraps to zero the order of the lengths is the
wrong one, and the search misses the only placement. -/
theorem selectPoolIndexes_wrapped :
    ¬((∃ selected, selectPoolIndexes hugeAndEmpty [0, 1]
        0xFFFFFFFFFFFFFFFF 1 (List.range 2) [] = .ok selected) ↔
      ∃ assigned, Selected hugeAndEmpty [0, 1] 0xFFFFFFFFFFFFFFFF 1
        (List.range 2) assigned) := by
  intro complete
  have placement : Selected hugeAndEmpty [0, 1] 0xFFFFFFFFFFFFFFFF 1
      (List.range 2) [1, 0] := by
    constructor
    · decide
    · decide
    · apply List.Forall₂.cons
      · decide +kernel
      · apply List.Forall₂.cons
        · decide +kernel
        · exact .nil
  obtain ⟨selected, chosen⟩ := complete.mpr ⟨_, placement⟩
  have refused : selectPoolIndexes hugeAndEmpty [0, 1] 0xFFFFFFFFFFFFFFFF 1
      (List.range 2) [] = .error .noResource := by
    decide +kernel
  rw [refused] at chosen
  cases chosen

end UbseSsu.Controller

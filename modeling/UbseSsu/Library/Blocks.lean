import UbseSsu.Library.ZeroFile

/-!
# Blocks of a fixed size

A flat sequence is read block by block: `slice` is a block of a buffer and
`block` a block of a zero-extended file.  A write of whole blocks changes
these blocks and no other.
-/

namespace Blocks

open ZeroFile

variable {α β : Type} {size index start count : Nat}

def slice (bytes : List α) (size index : Nat) : List α :=
  (bytes.drop (index * size)).take size

def block [Inhabited α] (file : List α) (size index : Nat) : List α :=
  window file (index * size) size

section Slices

variable (bytes : List α)

theorem slice_map (f : α → β) :
    slice (bytes.map f) size index = (slice bytes size index).map f := by
  rw [slice, ← List.map_drop, ← List.map_take]
  rfl

theorem slice_drop :
    slice (bytes.drop (start * size)) size index =
      slice bytes size (start + index) := by
  rw [slice, slice, List.drop_drop, Nat.add_mul]

theorem mul_add_le (inside : index < count) :
    index * size + size ≤ count * size := by
  rw [← Nat.succ_mul]
  exact Nat.mul_le_mul_right size inside

theorem slice_take (inside : index < count) :
    slice (bytes.take (count * size)) size index = slice bytes size index := by
  have room := @mul_add_le size index count inside
  rw [slice, slice, List.drop_take, List.take_take, min_eq_left (by omega)]

/-- A slice of the first blocks shares nothing with what is behind them when
nothing is repeated. -/
theorem slice_apart (distinct : bytes.Nodup) (inside : index < start) :
    ∀ byte ∈ slice bytes size index, byte ∉ bytes.drop (start * size) := by
  intro byte early late
  have first : byte ∈ bytes.take (start * size) := by
    rw [← slice_take bytes inside] at early
    exact List.mem_of_mem_drop (List.mem_of_mem_take early)
  rw [← List.take_append_drop (start * size) bytes] at distinct
  exact (List.disjoint_of_nodup_append distinct) first late

end Slices

section Files

variable [Inhabited α] (file : List α) {bytes : List α}

@[simp] theorem length_block : (block file size index).length = size :=
  length_window

theorem slice_window (inside : index < count) :
    slice (window file (start * size) (count * size)) size index =
      block file size (start + index) := by
  have room := @mul_add_le size index count inside
  have parted : count * size =
      index * size + (size + (count * size - index * size - size)) := by
    omega
  rw [slice, parted, window_append, window_append,
    List.drop_left' length_window, List.take_left' length_window, block,
    Nat.add_mul]

theorem block_pwrite_inside (whole : bytes.length = count * size)
    (from_start : start ≤ index) (to_end : index < start + count) :
    block (pwrite file (start * size) bytes) size index =
      slice bytes size (index - start) := by
  have starts : start * size ≤ index * size :=
    Nat.mul_le_mul_right size from_start
  have room := @mul_add_le size index (start + count) to_end
  rw [Nat.add_mul] at room
  rw [block, window_pwrite_inside file bytes starts (by omega), slice,
    Nat.sub_mul]

theorem block_pwrite_apart (bounded : bytes.length ≤ count * size)
    (apart : index < start ∨ start + count ≤ index) :
    block (pwrite file (start * size) bytes) size index =
      block file size index := by
  apply window_pwrite_apart
  rcases apart with before | behind
  · left
    exact mul_add_le before
  · right
    have ends : (start + count) * size ≤ index * size :=
      Nat.mul_le_mul_right size behind
    rw [Nat.add_mul] at ends
    omega

end Files

end Blocks

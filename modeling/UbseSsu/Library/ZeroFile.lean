import Mathlib.Data.List.Basic
import Mathlib.Data.List.TakeDrop
import Mathlib.Data.Set.Finite.Lattice

/-!
# Zero-extended files

A file is a list of bytes that reads as zeros behind its end.  Writing behind
the end fills the gap with zeros; a transfer that is cut into pieces, each
starting where the one before ended, has the effect of one transfer.  The last
section counts the answers of a schedule that make progress.
-/

namespace ZeroFile

variable {α : Type} [Inhabited α]

section Definitions

def byteAt (file : List α) (index : Nat) : α :=
  (file[index]?).getD default

/-- The bytes at an offset, zeros behind the end. -/
def window (file : List α) (offset count : Nat) : List α :=
  (List.range count).map fun index => byteAt file (offset + index)

def pwrite (file : List α) (offset : Nat) (bytes : List α) : List α :=
  if bytes.isEmpty then file
  else
    file.take offset ++ List.replicate (offset - file.length) default ++
      bytes ++ file.drop (offset + bytes.length)

omit [Inhabited α] in
/-- The bytes at an offset, fewer at the end of the file. -/
def pread (file : List α) (offset count : Nat) : List α :=
  (file.drop offset).take count

end Definitions

variable {file bytes : List α} {offset count index : Nat}

section Read

@[simp] theorem length_window : (window file offset count).length = count := by
  simp [window]

theorem getElem?_window (inside : index < count) :
    (window file offset count)[index]? = some (byteAt file (offset + index)) := by
  simp [window, inside]

theorem window_append (file : List α) (offset first second : Nat) :
    window file offset (first + second) =
      window file offset first ++ window file (offset + first) second := by
  simp only [window, List.range_add, List.map_append, List.map_map]
  congr 1
  apply List.map_congr_left
  intro index _
  simp only [Function.comp_apply, Nat.add_assoc]

/-- Behind the end there are zeros. -/
theorem window_of_length_le (behind : file.length ≤ offset) :
    window file offset count = List.replicate count default := by
  apply List.eq_replicate_iff.mpr
  refine ⟨length_window, fun byte member => ?_⟩
  obtain ⟨index, _, rfl⟩ := List.mem_map.mp member
  have missing : file[offset + index]? = none :=
    List.getElem?_eq_none (by omega)
  simp only [byteAt, missing, Option.getD_none]

omit [Inhabited α] in
theorem length_pread :
    (pread file offset count).length = min count (file.length - offset) := by
  simp [pread]

theorem pread_eq_window :
    pread file offset count =
      window file offset (pread file offset count).length := by
  apply List.ext_getElem?
  intro index
  by_cases inside : index < (pread file offset count).length
  · rw [getElem?_window inside]
    rw [length_pread] at inside
    have present : offset + index < file.length := by omega
    simp only [pread, byteAt]
    rw [List.getElem?_take_of_lt (by omega), List.getElem?_drop,
      List.getElem?_eq_getElem present, Option.getD_some]
  · rw [List.getElem?_eq_none (by omega), List.getElem?_eq_none]
    rw [length_window]
    omega

omit [Inhabited α] in
theorem pread_eq_nil (positive : 0 < count) :
    pread file offset count = [] ↔ file.length ≤ offset := by
  rw [← List.length_eq_zero_iff, length_pread]
  omega

end Read

section Write

@[simp] theorem pwrite_nil (file : List α) (offset : Nat) :
    pwrite file offset [] = file :=
  rfl

theorem length_pwrite (some : bytes ≠ []) :
    (pwrite file offset bytes).length =
      max file.length (offset + bytes.length) := by
  have notEmpty : bytes.isEmpty = false := by simpa using some
  simp only [pwrite, notEmpty, Bool.false_eq_true, if_false,
    List.length_append, List.length_take, List.length_replicate,
    List.length_drop]
  omega

/-- A write changes its own bytes only. -/
theorem byteAt_pwrite (file bytes : List α) (offset index : Nat) :
    byteAt (pwrite file offset bytes) index =
      if offset ≤ index ∧ index < offset + bytes.length then
        byteAt bytes (index - offset)
      else byteAt file index := by
  by_cases empty : bytes = []
  · rw [empty, pwrite_nil, if_neg]
    simp only [List.length_nil]
    omega
  have notEmpty : bytes.isEmpty = false := by simpa using empty
  have front : (file.take offset ++
      List.replicate (offset - file.length) (default : α)).length = offset := by
    simp only [List.length_append, List.length_take, List.length_replicate]
    omega
  simp only [pwrite, notEmpty, Bool.false_eq_true, if_false, byteAt]
  by_cases before : index < offset
  · rw [if_neg (by omega), List.append_assoc,
      List.getElem?_append_left (by omega)]
    by_cases inside : index < file.length
    · rw [List.getElem?_append_left (by rw [List.length_take]; omega),
        List.getElem?_take_of_lt before]
    · rw [List.getElem?_append_right (by rw [List.length_take]; omega),
        List.getElem?_eq_none (l := file) (by omega)]
      simp only [List.getElem?_replicate, List.length_take]
      split <;> rfl
  · by_cases within : index < offset + bytes.length
    · rw [if_pos ⟨by omega, within⟩, List.getElem?_append_left
        (by rw [List.length_append]; omega),
        List.getElem?_append_right (by omega), front]
    · rw [if_neg (by omega), List.getElem?_append_right
        (by rw [List.length_append]; omega), List.getElem?_drop,
        List.length_append, front]
      congr 2
      omega

/-- Two files with the same length and bytes are one. -/
theorem ext_byteAt {left right : List α} (lengths : left.length = right.length)
    (same : ∀ index, byteAt left index = byteAt right index) :
    left = right := by
  apply List.ext_getElem lengths
  intro index inLeft inRight
  have byte := same index
  simpa only [byteAt, List.getElem?_eq_getElem inLeft,
    List.getElem?_eq_getElem inRight, Option.getD_some] using byte

/-- A transfer in two pieces. -/
theorem pwrite_append (file first second : List α) (offset : Nat) :
    pwrite (pwrite file offset first) (offset + first.length) second =
      pwrite file offset (first ++ second) := by
  by_cases noFirst : first = []
  · rw [noFirst, pwrite_nil, List.length_nil, Nat.add_zero, List.nil_append]
  by_cases noSecond : second = []
  · rw [noSecond, pwrite_nil, List.append_nil]
  have some : first ++ second ≠ [] := by simp [noFirst]
  apply ext_byteAt
  · rw [length_pwrite noSecond, length_pwrite noFirst, length_pwrite some,
      List.length_append]
    omega
  · intro index
    rw [byteAt_pwrite, byteAt_pwrite, byteAt_pwrite, List.length_append]
    by_cases inSecond : offset + first.length ≤ index ∧
        index < offset + first.length + second.length
    · rw [if_pos inSecond, if_pos ⟨by omega, by omega⟩]
      simp only [byteAt]
      rw [List.getElem?_append_right (by omega)]
      congr 2
      omega
    · rw [if_neg inSecond]
      by_cases inFirst : offset ≤ index ∧ index < offset + first.length
      · rw [if_pos inFirst, if_pos ⟨by omega, by omega⟩]
        simp only [byteAt]
        rw [List.getElem?_append_left (by omega)]
      · rw [if_neg inFirst, if_neg (by omega)]

/-- What lies inside a write reads as the bytes written. -/
theorem window_pwrite_inside (file bytes : List α) {offset start count : Nat}
    (starts : offset ≤ start) (ends : start + count ≤ offset + bytes.length) :
    window (pwrite file offset bytes) start count =
      (bytes.drop (start - offset)).take count := by
  apply List.ext_getElem?
  intro index
  by_cases inside : index < count
  · have present : start - offset + index < bytes.length := by omega
    rw [getElem?_window inside, byteAt_pwrite,
      if_pos ⟨by omega, by omega⟩, List.getElem?_take_of_lt inside,
      List.getElem?_drop, List.getElem?_eq_getElem present]
    have shifted : start + index - offset = start - offset + index := by omega
    simp only [byteAt, shifted, List.getElem?_eq_getElem present,
      Option.getD_some]
  · rw [List.getElem?_eq_none (by rw [length_window]; omega),
      List.getElem?_eq_none]
    rw [List.length_take]
    omega

theorem window_pwrite_apart (file bytes : List α) {offset start count : Nat}
    (apart : start + count ≤ offset ∨ offset + bytes.length ≤ start) :
    window (pwrite file offset bytes) start count =
      window file start count := by
  apply List.map_congr_left
  intro index member
  have inside := List.mem_range.mp member
  rw [byteAt_pwrite, if_neg (by omega)]

end Write

end ZeroFile

namespace Schedule

variable {Call Answer : Type}

def upTo (schedule : Nat → Answer) (count : Nat) : List Answer :=
  (List.range count).map schedule

/-- Every answer suits the call that it answers. -/
def Suits (suits : Call → Answer → Prop) : List Call → List Answer → Prop
  | call :: calls, answer :: answers =>
      suits call answer ∧ Suits suits calls answers
  | _, _ => True

/-- When the answers of one kind come to an end, any number of others comes. -/
theorem exists_countP (schedule : Nat → Answer) (idle : Answer → Bool)
    (finite : {index | idle (schedule index) = true}.Finite) (count : Nat) :
    ∃ total, count ≤ (upTo schedule total).countP fun answer => !idle answer := by
  obtain ⟨bound, last⟩ := finite.bddAbove
  refine ⟨bound + 1 + count, ?_⟩
  have busy : ∀ answer ∈ (List.range count).map
      (fun index => schedule (bound + 1 + index)), (!idle answer) = true := by
    intro answer member
    obtain ⟨index, _, rfl⟩ := List.mem_map.mp member
    rw [Bool.not_eq_true', ← Bool.not_eq_true]
    intro idles
    have early : bound + 1 + index ≤ bound := last idles
    omega
  have late := List.countP_eq_length.mpr busy
  rw [List.length_map, List.length_range] at late
  rw [upTo, List.range_add, List.map_append, List.countP_append, List.map_map]
  exact le_trans late.ge (Nat.le_add_left _ _)

end Schedule

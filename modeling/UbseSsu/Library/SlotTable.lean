import Mathlib.Algebra.GroupWithZero.Nat
import Mathlib.Data.List.Nodup
import Mathlib.Data.List.Perm.Basic
import Mathlib.Data.List.Perm.Subperm
import Mathlib.Data.List.Range

/-!
# Fixed tables of reusable slots

A `SlotTable` is an array of a fixed number of cells, each either free or
holding one row.  Programs that keep an `active` flag in every array element
use exactly this store: they search for the first free cell, fill it, walk the
active cells in index order and free them again.  The lemmas below describe
each operation by its effect on `rows`, the active rows in index order.
-/

structure SlotTable (α : Type) (size : Nat) where
  cells : List (Option α)
  size_eq : cells.length = size
deriving DecidableEq

namespace SlotTable

variable {α β : Type} {size : Nat}

@[ext] theorem ext {left right : SlotTable α size}
    (cells : left.cells = right.cells) : left = right := by
  cases left
  cases right
  simp_all

def empty (size : Nat) : SlotTable α size :=
  ⟨List.replicate size none, by simp⟩

def get (table : SlotTable α size) (slot : Nat) : Option α :=
  (table.cells[slot]?).join

/-- The active rows, in slot order. -/
def rows (table : SlotTable α size) : List α :=
  table.cells.filterMap id

def put (table : SlotTable α size) (slot : Nat) (row : α) :
    SlotTable α size :=
  ⟨table.cells.set slot (some row), by simp [table.size_eq]⟩

def clear (table : SlotTable α size) (slot : Nat) : SlotTable α size :=
  ⟨table.cells.set slot none, by simp [table.size_eq]⟩

def modifyRows (update : α → α) (table : SlotTable α size) :
    SlotTable α size :=
  ⟨table.cells.map (Option.map update), by simp [table.size_eq]⟩

def eraseWhere (condition : α → Bool) (table : SlotTable α size) :
    SlotTable α size :=
  ⟨table.cells.map (Option.filter fun row => !condition row),
    by simp [table.size_eq]⟩

def firstFree (table : SlotTable α size) : Option Nat :=
  table.cells.findIdx? Option.isNone

def freeSlots (table : SlotTable α size) : List Nat :=
  (List.range size).filter fun slot => (table.get slot).isNone

/-- The first slot, in index order, whose active row meets a condition. -/
def findSlot (condition : α → Bool) (table : SlotTable α size) :
    Option Nat :=
  table.cells.findIdx? (Option.any condition)

/-- The first active slot that meets a condition, with its row. -/
def findRow (condition : α → Bool) (table : SlotTable α size) :
    Option (Nat × α) :=
  (table.findSlot condition).bind fun slot =>
    (table.get slot).map fun row => (slot, row)

/-- Fill several slots one after the other. -/
def putAll (table : SlotTable α size) (entries : List (Nat × α)) :
    SlotTable α size :=
  entries.foldl (fun current entry => current.put entry.1 entry.2) table

section Cells

theorem get_eq_some_iff {table : SlotTable α size} {slot : Nat} {row : α} :
    table.get slot = some row ↔ table.cells[slot]? = some (some row) := by
  simp [get, Option.join_eq_some_iff]

theorem lt_size_of_get_eq_some {table : SlotTable α size} {slot : Nat}
    {row : α} (active : table.get slot = some row) : slot < size := by
  have found := get_eq_some_iff.mp active
  have bound := (List.getElem?_eq_some_iff.mp found).1
  simpa [table.size_eq] using bound

theorem cells_of_get_eq_none {table : SlotTable α size} {slot : Nat}
    (bound : slot < size) (free : table.get slot = none) :
    table.cells[slot]? = some none := by
  have inside : slot < table.cells.length := by simpa [table.size_eq] using bound
  cases cell : table.cells[slot]? with
  | none => simp at cell; omega
  | some content =>
      cases content with
      | none => rfl
      | some row => simp [get, cell] at free

theorem mem_rows_iff {table : SlotTable α size} {row : α} :
    row ∈ table.rows ↔ ∃ slot, table.get slot = some row := by
  constructor
  · intro member
    obtain ⟨cell, cellMember, cellRow⟩ := List.mem_filterMap.mp member
    obtain ⟨slot, found⟩ := List.mem_iff_getElem?.mp cellMember
    refine ⟨slot, get_eq_some_iff.mpr ?_⟩
    simpa using cellRow ▸ found
  · intro ⟨slot, active⟩
    have found := get_eq_some_iff.mp active
    exact List.mem_filterMap.mpr
      ⟨some row, List.mem_of_getElem? found, rfl⟩

theorem mem_rows_of_get {table : SlotTable α size} {slot : Nat} {row : α}
    (active : table.get slot = some row) : row ∈ table.rows :=
  mem_rows_iff.mpr ⟨slot, active⟩

@[simp] theorem rows_empty : (empty size : SlotTable α size).rows = [] := by
  simp [rows, empty]

@[simp] theorem get_empty (slot : Nat) :
    (empty size : SlotTable α size).get slot = none := by
  simp only [get, empty, List.getElem?_replicate]
  split <;> rfl

end Cells

section Update

theorem get_put_self {table : SlotTable α size} {slot : Nat} {row : α}
    (bound : slot < size) : (table.put slot row).get slot = some row := by
  have inside : slot < table.cells.length := by simpa [table.size_eq] using bound
  simp [get, put, inside]

theorem put_inj {table : SlotTable α size} {slot : Nat} {row other : α}
    (bound : slot < size) (same : table.put slot row = table.put slot other) :
    row = other := by
  have rows := congrArg (fun table => table.get slot) same
  simp only [get_put_self bound] at rows
  exact Option.some.inj rows

@[simp] theorem get_put_other {table : SlotTable α size} {slot other : Nat}
    {row : α} (different : slot ≠ other) :
    (table.put slot row).get other = table.get other := by
  simp [get, put, different]

@[simp] theorem get_clear_self {table : SlotTable α size} {slot : Nat} :
    (table.clear slot).get slot = none := by
  simp only [get, clear, List.getElem?_set]
  split <;> [split <;> rfl; contradiction]

@[simp] theorem get_clear_other {table : SlotTable α size} {slot other : Nat}
    (different : slot ≠ other) :
    (table.clear slot).get other = table.get other := by
  simp [get, clear, different]

theorem clear_put_of_free {table : SlotTable α size} {slot : Nat} {row : α}
    (bound : slot < size) (free : table.get slot = none) :
    (table.put slot row).clear slot = table := by
  apply ext
  have cell := cells_of_get_eq_none bound free
  have inside : slot < table.cells.length := by simpa [table.size_eq] using bound
  simp only [put, clear, List.set_set]
  rw [List.getElem?_eq_getElem inside, Option.some_inj] at cell
  conv_rhs => rw [← List.set_getElem_self inside, cell]

/-- Writing back what a slot holds changes nothing. -/
theorem put_of_get {table : SlotTable α size} {slot : Nat} {row : α}
    (active : table.get slot = some row) : table.put slot row = table := by
  apply ext
  have found := get_eq_some_iff.mp active
  obtain ⟨inside, cell⟩ := List.getElem?_eq_some_iff.mp found
  simp only [put]
  conv_rhs => rw [← List.set_getElem_self inside, cell]

/-- An active slot cuts the active rows in two: those of the slots before it
and those of the slots after it. -/
theorem rows_split {table : SlotTable α size} {slot : Nat} {row : α}
    (active : table.get slot = some row) :
    ∃ low high,
      table.rows = low ++ row :: high ∧
        (table.clear slot).rows = low ++ high ∧
        (∀ earlier ∈ low, ∃ other < slot, table.get other = some earlier) ∧
        ∀ later ∈ high, ∃ other > slot, table.get other = some later := by
  have found := get_eq_some_iff.mp active
  obtain ⟨inside, cell⟩ := List.getElem?_eq_some_iff.mp found
  have whole : table.cells =
      table.cells.take slot ++ some row :: table.cells.drop (slot + 1) := by
    rw [← cell, List.getElem_cons_drop, List.take_append_drop]
  refine ⟨(table.cells.take slot).filterMap id,
    (table.cells.drop (slot + 1)).filterMap id, ?_, ?_, ?_, ?_⟩
  · conv_lhs => rw [rows, whole]
    simp
  · simp [rows, clear, List.set_eq_take_append_cons_drop, inside]
  · intro earlier member
    obtain ⟨content, contentMember, same⟩ := List.mem_filterMap.mp member
    obtain ⟨other, bound, place⟩ := List.mem_take_iff_getElem.mp contentMember
    have before : other < slot := by omega
    have present : other < table.cells.length := by omega
    refine ⟨other, before, get_eq_some_iff.mpr ?_⟩
    rw [List.getElem?_eq_getElem present, place]
    exact congrArg some same
  · intro later member
    obtain ⟨content, contentMember, same⟩ := List.mem_filterMap.mp member
    obtain ⟨step, place⟩ := List.mem_iff_getElem?.mp contentMember
    refine ⟨slot + 1 + step, by omega, get_eq_some_iff.mpr ?_⟩
    rw [← List.getElem?_drop, place]
    exact congrArg some same

theorem rows_perm_clear {table : SlotTable α size} {slot : Nat} {row : α}
    (active : table.get slot = some row) :
    table.rows.Perm (row :: (table.clear slot).rows) := by
  obtain ⟨low, high, whole, cleared, _⟩ := rows_split active
  rw [whole, cleared]
  exact List.perm_middle

theorem rows_clear_sublist {table : SlotTable α size} {slot : Nat} {row : α}
    (active : table.get slot = some row) :
    (table.clear slot).rows.Sublist table.rows := by
  obtain ⟨low, high, whole, cleared, _⟩ := rows_split active
  rw [whole, cleared]
  exact (List.sublist_cons_self row high).append_left low

theorem rows_put_perm {table : SlotTable α size} {slot : Nat} {row : α}
    (bound : slot < size) (free : table.get slot = none) :
    (table.put slot row).rows.Perm (row :: table.rows) := by
  have active : (table.put slot row).get slot = some row := get_put_self bound
  have filled := rows_perm_clear active
  rwa [clear_put_of_free bound free] at filled

theorem clear_put {table : SlotTable α size} {slot : Nat} {row : α} :
    (table.put slot row).clear slot = table.clear slot := by
  apply ext
  simp only [put, clear, List.set_set]

/-- Rewriting a row leaves the keys alone when its own stays. -/
theorem map_rows_put_perm {β : Type} {key : α → β} {table : SlotTable α size}
    {slot : Nat} {old row : α} (active : table.get slot = some old)
    (same : key row = key old) :
    ((table.put slot row).rows.map key).Perm (table.rows.map key) := by
  have bound := lt_size_of_get_eq_some active
  have written : (table.put slot row).get slot = some row := get_put_self bound
  have after := (rows_perm_clear written).map key
  have before := (rows_perm_clear active).map key
  rw [clear_put, List.map_cons, same] at after
  rw [List.map_cons] at before
  exact after.trans before.symm

@[simp] theorem rows_modifyRows (update : α → α) (table : SlotTable α size) :
    (table.modifyRows update).rows = table.rows.map update := by
  simp only [rows, modifyRows]
  induction table.cells with
  | nil => rfl
  | cons cell cells induction =>
      cases cell <;> simp_all

@[simp] theorem get_modifyRows (update : α → α) (table : SlotTable α size)
    (slot : Nat) :
    (table.modifyRows update).get slot = (table.get slot).map update := by
  simp only [get, modifyRows, List.getElem?_map]
  cases table.cells[slot]? with
  | none => rfl
  | some cell => cases cell <;> rfl

@[simp] theorem rows_eraseWhere (condition : α → Bool)
    (table : SlotTable α size) :
    (table.eraseWhere condition).rows =
      table.rows.filter fun row => !condition row := by
  simp only [rows, eraseWhere]
  induction table.cells with
  | nil => rfl
  | cons cell cells induction =>
      cases cell with
      | none => simpa using induction
      | some row =>
          by_cases erased : condition row = true <;>
            simp_all [Option.filter]

end Update

section Rewrite

variable {condition : α → Bool} {update : α → α} {table : SlotTable α size}

theorem modifyRows_modifyRows (first : α → α) :
    (table.modifyRows first).modifyRows update =
      table.modifyRows (update ∘ first) := by
  apply ext
  simp [modifyRows]

theorem modifyRows_of_fixed (fixed : ∀ row ∈ table.rows, update row = row) :
    table.modifyRows update = table := by
  apply ext
  simp only [modifyRows]
  refine (List.map_congr_left fun cell member => ?_).trans (List.map_id _)
  cases cell with
  | none => rfl
  | some row =>
      have same := fixed row (List.mem_filterMap.mpr ⟨some row, member, rfl⟩)
      exact congrArg some same

/-- Nothing is erased when no row meets the condition. -/
theorem eraseWhere_of_none
    (kept : ∀ row ∈ table.rows, condition row = false) :
    table.eraseWhere condition = table := by
  apply ext
  simp only [eraseWhere]
  refine (List.map_congr_left fun cell member => ?_).trans (List.map_id _)
  cases cell with
  | none => rfl
  | some row =>
      have stays := kept row (List.mem_filterMap.mpr ⟨some row, member, rfl⟩)
      simp [Option.filter, stays]

/-- Erasing does not see what a write puts over an erased cell. -/
theorem eraseWhere_put {slot : Nat} {row : α} (met : condition row = true)
    (erased : ∀ old, table.get slot = some old → condition old = true) :
    (table.put slot row).eraseWhere condition =
      table.eraseWhere condition := by
  apply ext
  simp only [eraseWhere, put, List.map_set]
  have gone : (some row).filter (fun row => !condition row) = none := by
    simp [Option.filter, met]
  rw [gone]
  let erase := Option.filter fun row => !condition row
  by_cases inside : slot < (table.cells.map erase).length
  · have cell : (table.cells.map erase)[slot] = none := by
      have inTable : slot < table.cells.length := by simpa using inside
      rw [List.getElem_map]
      cases content : table.cells[slot] with
      | none => rfl
      | some old =>
          have active : table.get slot = some old := by
            simp [get, List.getElem?_eq_getElem inTable, content]
          simp [erase, Option.filter, erased old active]
    rw [← cell]
    exact List.set_getElem_self inside
  · exact List.set_eq_of_length_le (Nat.not_lt.mp inside)

end Rewrite

section Search

theorem get_firstFree {table : SlotTable α size} {slot : Nat}
    (found : table.firstFree = some slot) :
    slot < size ∧ table.get slot = none := by
  obtain ⟨inside, free, _⟩ := List.findIdx?_eq_some_iff_getElem.mp found
  refine ⟨by simpa [table.size_eq] using inside, ?_⟩
  have cell : table.cells[slot] = none := by simpa using free
  simp [get, List.getElem?_eq_getElem inside, cell]

/-- Filling the first free slot moves the search behind it. -/
theorem lt_firstFree_put {table : SlotTable α size} {slot next : Nat}
    {row : α} (found : table.firstFree = some slot)
    (foundNext : (table.put slot row).firstFree = some next) :
    slot < next := by
  obtain ⟨_, _, skipped⟩ := List.findIdx?_eq_some_iff_getElem.mp found
  obtain ⟨inside, free, _⟩ := List.findIdx?_eq_some_iff_getElem.mp foundNext
  by_contra early
  rcases Nat.lt_or_eq_of_le (Nat.not_lt.mp early) with before | same
  · have taken := skipped next before
    simp only [put, List.getElem_set_ne (Nat.ne_of_gt before)] at free
    exact taken free
  · subst same
    simp [put] at free

theorem firstFree_isSome_of_free {table : SlotTable α size} {slot : Nat}
    (bound : slot < size) (free : table.get slot = none) :
    ∃ first, table.firstFree = some first := by
  have cell := cells_of_get_eq_none bound free
  have member : none ∈ table.cells := List.mem_of_getElem? cell
  cases found : table.firstFree with
  | some first => exact ⟨first, rfl⟩
  | none =>
      have all := List.findIdx?_eq_none_iff.mp found none member
      simp at all

theorem mem_freeSlots {table : SlotTable α size} {slot : Nat} :
    slot ∈ table.freeSlots ↔ slot < size ∧ table.get slot = none := by
  simp [freeSlots, Option.isNone_iff_eq_none]

theorem freeSlots_nodup (table : SlotTable α size) :
    table.freeSlots.Nodup :=
  List.nodup_range.filter _

private theorem range_filterMap_getElem? (cells : List (Option α)) :
    (List.range cells.length).filterMap (fun slot => (cells[slot]?).join) =
      cells.filterMap id := by
  induction cells with
  | nil => rfl
  | cons cell cells induction =>
      rw [List.length_cons, List.range_succ_eq_map, List.filterMap_cons,
        List.filterMap_map]
      have tail : (fun slot => ((cell :: cells)[slot]?).join) ∘ Nat.succ =
          fun slot => (cells[slot]?).join := by
        funext slot
        simp
      rw [tail, induction]
      cases cell <;> simp

/-- Walking all slots in index order meets exactly the active rows. -/
theorem range_filterMap_get (table : SlotTable α size) :
    (List.range size).filterMap table.get = table.rows := by
  have walked := range_filterMap_getElem? table.cells
  rwa [table.size_eq] at walked

theorem length_rows_add_freeSlots (table : SlotTable α size) :
    table.rows.length + table.freeSlots.length = size := by
  have total : ∀ slots : List Nat,
      (slots.filterMap table.get).length +
        (slots.filter fun slot => (table.get slot).isNone).length =
          slots.length := by
    intro slots
    induction slots with
    | nil => rfl
    | cons slot slots induction =>
        cases active : table.get slot <;>
          simp [active, ← induction] <;> omega
  have counted := total (List.range size)
  rwa [range_filterMap_get, List.length_range] at counted

theorem length_rows_le (table : SlotTable α size) :
    table.rows.length ≤ size := by
  have := length_rows_add_freeSlots table
  omega

theorem length_freeSlots_put {table : SlotTable α size} {slot : Nat} {row : α}
    (bound : slot < size) (free : table.get slot = none) :
    (table.put slot row).freeSlots.length + 1 = table.freeSlots.length := by
  have before := table.length_rows_add_freeSlots
  have after := (table.put slot row).length_rows_add_freeSlots
  have filled : (table.put slot row).rows.Perm (row :: table.rows) :=
    rows_put_perm bound free
  have count := filled.length_eq
  rw [List.length_cons] at count
  omega

theorem firstFree_isSome_of_room {table : SlotTable α size}
    (room : table.rows.length < size) :
    ∃ slot, table.firstFree = some slot := by
  have counted := table.length_rows_add_freeSlots
  have some : 0 < table.freeSlots.length := by omega
  obtain ⟨slot, member⟩ := List.exists_mem_of_length_pos some
  obtain ⟨bound, free⟩ := mem_freeSlots.mp member
  exact firstFree_isSome_of_free bound free

theorem get_findSlot {condition : α → Bool} {table : SlotTable α size}
    {slot : Nat} (found : table.findSlot condition = some slot) :
    ∃ row, table.get slot = some row ∧ condition row = true := by
  obtain ⟨inside, holds, _⟩ := List.findIdx?_eq_some_iff_getElem.mp found
  cases cell : table.cells[slot] with
  | none => simp [cell] at holds
  | some row =>
      refine ⟨row, ?_, by simpa [cell] using holds⟩
      simp [get, List.getElem?_eq_getElem inside, cell]

theorem findSlot_eq_none_iff {condition : α → Bool}
    {table : SlotTable α size} :
    table.findSlot condition = none ↔
      ∀ row ∈ table.rows, condition row = false := by
  simp only [findSlot, List.findIdx?_eq_none_iff, rows, List.mem_filterMap]
  constructor
  · rintro absent row ⟨cell, member, same⟩
    have missed := absent cell member
    simp only [id] at same
    simpa [same] using missed
  · intro absent cell member
    cases cell with
    | none => rfl
    | some row => simpa using absent row ⟨some row, member, rfl⟩

theorem findSlot_map_get (condition : α → Bool) (table : SlotTable α size) :
    (table.findSlot condition).bind table.get = table.rows.find? condition := by
  simp only [findSlot, rows]
  have walk : ∀ cells : List (Option α),
      (cells.findIdx? (Option.any condition)).bind
          (fun slot => (cells[slot]?).join) =
        (cells.filterMap id).find? condition := by
    intro cells
    induction cells with
    | nil => rfl
    | cons cell cells induction =>
        cases cell with
        | none =>
            rw [List.filterMap_cons_none rfl, ← induction, List.findIdx?_cons]
            cases cells.findIdx? (Option.any condition) <;> simp
        | some row =>
            rw [List.filterMap_cons_some (f := id) rfl, List.findIdx?_cons,
              List.find?_cons]
            by_cases holds : condition row = true
            · simp [holds]
            · rw [← induction]
              cases cells.findIdx? (Option.any condition) <;> simp [holds]
  exact walk table.cells

theorem findRow_eq_some {condition : α → Bool} {table : SlotTable α size}
    {slot : Nat} {row : α} (found : table.findRow condition = some (slot, row)) :
    table.get slot = some row ∧ condition row = true := by
  cases searched : table.findSlot condition with
  | none => simp [findRow, searched] at found
  | some first =>
      obtain ⟨content, active, holds⟩ := get_findSlot searched
      simp only [findRow, searched, Option.bind_some, active, Option.map_some,
        Option.some.injEq, Prod.mk.injEq] at found
      obtain ⟨rfl, rfl⟩ := found
      exact ⟨active, holds⟩

theorem findRow_eq_none_iff {condition : α → Bool}
    {table : SlotTable α size} :
    table.findRow condition = none ↔
      ∀ row ∈ table.rows, condition row = false := by
  rw [← findSlot_eq_none_iff]
  constructor
  · intro missing
    cases searched : table.findSlot condition with
    | none => rfl
    | some first =>
        obtain ⟨content, active, _⟩ := get_findSlot searched
        simp [findRow, searched, active] at missing
  · intro missing
    simp [findRow, missing]

/-- The only row that meets the condition is the one just put. -/
theorem findRow_put {condition : α → Bool} {table : SlotTable α size}
    {slot : Nat} {row : α} (bound : slot < size)
    (met : condition row = true)
    (others : ∀ old ∈ table.rows, condition old = false) :
    (table.put slot row).findRow condition = some (slot, row) := by
  have active : (table.put slot row).get slot = some row := get_put_self bound
  cases found : (table.put slot row).findRow condition with
  | none =>
      have missed := findRow_eq_none_iff.mp found row (mem_rows_of_get active)
      rw [met] at missed
      cases missed
  | some entry =>
      obtain ⟨other, old⟩ := entry
      obtain ⟨held, holds⟩ := findRow_eq_some found
      by_cases same : slot = other
      · subst same
        rw [active, Option.some_inj] at held
        rw [held]
      · rw [get_put_other same] at held
        have missed := others old (mem_rows_of_get held)
        rw [holds] at missed
        cases missed

theorem findRow_map_snd (condition : α → Bool) (table : SlotTable α size) :
    (table.findRow condition).map Prod.snd = table.rows.find? condition := by
  rw [← findSlot_map_get, findRow, Option.map_bind]
  congr 1
  funext slot
  simp [Function.comp_def]

end Search

section Order

variable {condition : α → Bool} {table : SlotTable α size} {slot : Nat}
  {row : α}

theorem filter_clear_of_not (active : table.get slot = some row)
    (skipped : condition row = false) :
    (table.clear slot).rows.filter condition =
      table.rows.filter condition := by
  obtain ⟨low, high, whole, cleared, _⟩ := rows_split active
  rw [whole, cleared]
  simp [skipped]

theorem filter_put_of_not (bound : slot < size) (free : table.get slot = none)
    (skipped : condition row = false) :
    (table.put slot row).rows.filter condition =
      table.rows.filter condition := by
  have active : (table.put slot row).get slot = some row := get_put_self bound
  have cleared := filter_clear_of_not active skipped
  rw [clear_put_of_free bound free] at cleared
  exact cleared.symm

/-- The first active slot that meets a condition holds the first such row. -/
theorem filter_rows_of_first (active : table.get slot = some row)
    (holds : condition row = true)
    (isFirst : ∀ other < slot, ∀ content, table.get other = some content →
      condition content = false) :
    table.rows.filter condition =
      row :: (table.clear slot).rows.filter condition := by
  obtain ⟨low, high, whole, cleared, lower, _⟩ := rows_split active
  have none : low.filter condition = [] := by
    refine List.filter_eq_nil_iff.mpr fun earlier member => ?_
    obtain ⟨other, before, place⟩ := lower earlier member
    simp [isFirst other before earlier place]
  rw [whole, cleared]
  simp [holds, none]

/-- A row put behind all rows that meet a condition becomes the last one. -/
theorem filter_put_of_last (bound : slot < size)
    (free : table.get slot = none) (holds : condition row = true)
    (isLast : ∀ other content, table.get other = some content →
      condition content = true → other < slot) :
    (table.put slot row).rows.filter condition =
      table.rows.filter condition ++ [row] := by
  have active : (table.put slot row).get slot = some row := get_put_self bound
  obtain ⟨low, high, whole, cleared, _, upper⟩ := rows_split active
  rw [clear_put_of_free bound free] at cleared
  have none : high.filter condition = [] := by
    refine List.filter_eq_nil_iff.mpr fun later member met => ?_
    obtain ⟨other, after, place⟩ := upper later member
    rw [get_put_other (Nat.ne_of_lt after)] at place
    exact Nat.lt_asymm after (isLast other later place met)
  rw [whole, cleared]
  simp [holds, none]

end Order

section PutAll

@[simp] theorem putAll_nil (table : SlotTable α size) :
    table.putAll [] = table := rfl

@[simp] theorem putAll_cons (table : SlotTable α size) (slot : Nat) (row : α)
    (entries : List (Nat × α)) :
    table.putAll ((slot, row) :: entries) =
      (table.put slot row).putAll entries := rfl

/-- Filling distinct free slots adds exactly the given rows. -/
theorem rows_putAll_perm (table : SlotTable α size)
    (entries : List (Nat × α))
    (distinct : (entries.map Prod.fst).Nodup)
    (free : ∀ slot ∈ entries.map Prod.fst,
      slot < size ∧ table.get slot = none) :
    (table.putAll entries).rows.Perm (entries.map Prod.snd ++ table.rows) := by
  induction entries generalizing table with
  | nil => simp
  | cons entry entries induction =>
      obtain ⟨slot, row⟩ := entry
      simp only [List.map_cons, List.nodup_cons] at distinct
      have headFree := free slot (by simp)
      have tailFree : ∀ other ∈ entries.map Prod.fst,
          other < size ∧ (table.put slot row).get other = none := by
        intro other member
        have different : slot ≠ other := by
          rintro rfl
          exact distinct.1 member
        have otherFree := free other (by simp [member])
        exact ⟨otherFree.1, by rw [get_put_other different]; exact otherFree.2⟩
      have filled := induction _ distinct.2 tailFree
      have first : (table.put slot row).rows.Perm (row :: table.rows) :=
        rows_put_perm headFree.1 headFree.2
      rw [putAll_cons]
      exact filled.trans ((first.append_left _).trans List.perm_middle)

/-- Erasing takes back rows that were put into free slots. -/
theorem eraseWhere_putAll {condition : α → Bool}
    {table : SlotTable α size} {entries : List (Nat × α)}
    (met : ∀ entry ∈ entries, condition entry.2 = true)
    (erased : ∀ entry ∈ entries, ∀ old, table.get entry.1 = some old →
      condition old = true) :
    (table.putAll entries).eraseWhere condition =
      table.eraseWhere condition := by
  induction entries generalizing table with
  | nil => rfl
  | cons entry entries induction =>
      obtain ⟨slot, row⟩ := entry
      obtain ⟨firstMet, othersMet⟩ := List.forall_mem_cons.mp met
      obtain ⟨firstErased, othersErased⟩ := List.forall_mem_cons.mp erased
      rw [putAll_cons, induction othersMet, eraseWhere_put firstMet firstErased]
      intro entry member old active
      by_cases same : slot = entry.1
      · subst same
        have bound := lt_size_of_get_eq_some active
        rw [get_put_self (by simpa using bound), Option.some_inj] at active
        exact active ▸ firstMet
      · rw [get_put_other same] at active
        exact othersErased entry member old active

end PutAll

end SlotTable

/-- An array of fixed capacity together with the count of its used part. -/
structure CountedArray (α : Type) (capacity : Nat) where
  items : List α
  fits : items.length ≤ capacity
deriving DecidableEq

namespace CountedArray

variable {α : Type} {capacity : Nat}

@[ext] theorem ext {left right : CountedArray α capacity}
    (items : left.items = right.items) : left = right := by
  cases left
  cases right
  simp_all

def empty (capacity : Nat) : CountedArray α capacity :=
  ⟨[], Nat.zero_le capacity⟩

def push (array : CountedArray α capacity) (item : α)
    (room : array.items.length < capacity) : CountedArray α capacity :=
  ⟨array.items ++ [item], by simpa using Nat.succ_le_of_lt room⟩

def modifyAt (array : CountedArray α capacity) (index : Nat)
    (update : α → α) : CountedArray α capacity :=
  ⟨array.items.modify index update, by simpa using array.fits⟩

@[simp] theorem items_empty :
    (empty capacity : CountedArray α capacity).items = [] := rfl

@[simp] theorem items_push (array : CountedArray α capacity) (item : α)
    (room : array.items.length < capacity) :
    (array.push item room).items = array.items ++ [item] := rfl

@[simp] theorem items_modifyAt (array : CountedArray α capacity)
    (index : Nat) (update : α → α) :
    (array.modifyAt index update).items = array.items.modify index update :=
  rfl

end CountedArray

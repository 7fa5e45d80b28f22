import UbseSsu.Library.SlotTable
import Mathlib.Data.Finset.Dedup
import Mathlib.Data.Finset.Filter
import Mathlib.Data.Finset.Insert
import Mathlib.Data.Finset.Card

/-!
# Finite sets of rows with distinct keys

What a table is for, once the order of its slots is forgotten: a finite set of
rows in which a key occurs at most once.  A `SlotTable` whose rows have
distinct keys stands for such a set, and filling, clearing and erasing its
slots are insertion and filtering there.
-/

structure KeyedSet {α κ : Type} (key : α → κ) where
  rows : Finset α
  distinct : ∀ left ∈ rows, ∀ right ∈ rows, key left = key right →
    left = right

namespace KeyedSet

variable {α κ : Type} {key : α → κ}

@[ext] theorem ext {left right : KeyedSet key}
    (rows : left.rows = right.rows) : left = right := by
  cases left
  cases right
  simp_all

/-- A row with a key that does not occur yet. -/
def insert [DecidableEq α] (store : KeyedSet key) (row : α)
    (fresh : ∀ old ∈ store.rows, key old ≠ key row) : KeyedSet key where
  rows := Insert.insert row store.rows
  distinct left leftMember right rightMember same := by
    rcases Finset.mem_insert.mp leftMember with rfl | leftOld
    · rcases Finset.mem_insert.mp rightMember with rfl | rightOld
      · rfl
      · exact (fresh right rightOld same.symm).elim
    · rcases Finset.mem_insert.mp rightMember with rfl | rightOld
      · exact (fresh left leftOld same).elim
      · exact store.distinct left leftOld right rightOld same

/-- The rows that meet a condition. -/
def filter (store : KeyedSet key) (condition : α → Prop)
    [DecidablePred condition] : KeyedSet key where
  rows := store.rows.filter condition
  distinct left leftMember right rightMember same :=
    store.distinct left (Finset.mem_filter.mp leftMember).1 right
      (Finset.mem_filter.mp rightMember).1 same

@[simp] theorem rows_insert [DecidableEq α] (store : KeyedSet key) (row : α)
    (fresh : ∀ old ∈ store.rows, key old ≠ key row) :
    (store.insert row fresh).rows = Insert.insert row store.rows := rfl

@[simp] theorem rows_filter (store : KeyedSet key) (condition : α → Prop)
    [DecidablePred condition] :
    (store.filter condition).rows = store.rows.filter condition := rfl

end KeyedSet

namespace SlotTable

variable {α κ : Type} {size : Nat} {key : α → κ} {table : SlotTable α size}
  {slot : Nat} {row : α}

section Keys

/-- No key occurs in two slots. -/
def KeysDistinct (key : α → κ) (table : SlotTable α size) : Prop :=
  (table.rows.map key).Nodup

theorem KeysDistinct.empty (key : α → κ) (size : Nat) :
    KeysDistinct key (SlotTable.empty size) := by
  simp [KeysDistinct]

theorem KeysDistinct.put (distinct : KeysDistinct key table)
    (bound : slot < size) (free : table.get slot = none)
    (fresh : ∀ old ∈ table.rows, key old ≠ key row) :
    KeysDistinct key (table.put slot row) := by
  have rows : (table.put slot row).rows.Perm (row :: table.rows) :=
    rows_put_perm bound free
  rw [KeysDistinct, (rows.map key).nodup_iff, List.map_cons]
  refine List.nodup_cons.mpr ⟨?_, distinct⟩
  intro listed
  obtain ⟨old, member, same⟩ := List.mem_map.mp listed
  exact fresh old member same

theorem KeysDistinct.clear (distinct : KeysDistinct key table)
    (active : table.get slot = some row) :
    KeysDistinct key (table.clear slot) := by
  have rows := (rows_perm_clear active).map key
  rw [KeysDistinct, rows.nodup_iff, List.map_cons] at distinct
  exact (List.nodup_cons.mp distinct).2

theorem KeysDistinct.eraseWhere (distinct : KeysDistinct key table)
    (condition : α → Bool) : KeysDistinct key (table.eraseWhere condition) := by
  rw [KeysDistinct, rows_eraseWhere]
  exact distinct.sublist (List.filter_sublist.map key)

theorem KeysDistinct.slot_eq (distinct : KeysDistinct key table)
    {other : Nat} {content : α} (active : table.get slot = some row)
    (held : table.get other = some content) (same : key row = key content) :
    slot = other := by
  by_contra different
  have rows := (rows_perm_clear active).map key
  rw [KeysDistinct, rows.nodup_iff, List.map_cons] at distinct
  apply (List.nodup_cons.mp distinct).1
  rw [same]
  apply List.mem_map_of_mem
  have kept : (table.clear slot).get other = some content := by
    rw [get_clear_other different, held]
  exact mem_rows_of_get kept

/-- What only the row of its key meets finds that row. -/
theorem KeysDistinct.findRow_eq {condition : α → Bool}
    (distinct : KeysDistinct key table) (active : table.get slot = some row)
    (met : condition row = true)
    (only : ∀ other, condition other = true → key row = key other) :
    table.findRow condition = some (slot, row) := by
  cases found : table.findRow condition with
  | none =>
      have missed := findRow_eq_none_iff.mp found row (mem_rows_of_get active)
      rw [met] at missed
      cases missed
  | some entry =>
      obtain ⟨other, content⟩ := entry
      obtain ⟨held, holds⟩ := findRow_eq_some found
      cases distinct.slot_eq active held (only content holds)
      rw [active] at held
      cases held
      rfl

end Keys

section Content

variable [DecidableEq α]

/-- The rows of a table, without their slots. -/
def keyedSet (table : SlotTable α size) (distinct : KeysDistinct key table) :
    KeyedSet key where
  rows := table.rows.toFinset
  distinct _ leftMember _ rightMember same :=
    List.inj_on_of_nodup_map distinct (List.mem_toFinset.mp leftMember)
      (List.mem_toFinset.mp rightMember) same

@[simp] theorem mem_keyedSet (distinct : KeysDistinct key table) {row : α} :
    row ∈ (table.keyedSet distinct).rows ↔ row ∈ table.rows :=
  List.mem_toFinset

theorem card_keyedSet (distinct : KeysDistinct key table) :
    (table.keyedSet distinct).rows.card = table.rows.length :=
  List.toFinset_card_of_nodup (List.Nodup.of_map key distinct)

theorem keyedSet_put (distinct : KeysDistinct key table)
    (bound : slot < size) (free : table.get slot = none)
    (fresh : ∀ old ∈ table.rows, key old ≠ key row) :
    (table.put slot row).keyedSet (distinct.put bound free fresh) =
      (table.keyedSet distinct).insert row
        (fun old member => fresh old ((mem_keyedSet distinct).mp member)) := by
  apply KeyedSet.ext
  ext other
  rw [mem_keyedSet, KeyedSet.rows_insert, Finset.mem_insert, mem_keyedSet,
    (rows_put_perm bound free).mem_iff, List.mem_cons]

/-- Clearing the slot of a key leaves the rows with other keys. -/
theorem keyedSet_clear [DecidableEq κ] (distinct : KeysDistinct key table)
    (active : table.get slot = some row) :
    (table.clear slot).keyedSet (distinct.clear active) =
      (table.keyedSet distinct).filter fun other => key other ≠ key row := by
  have rows := rows_perm_clear active
  have apart := distinct
  rw [KeysDistinct, (rows.map key).nodup_iff, List.map_cons,
    List.nodup_cons] at apart
  apply KeyedSet.ext
  ext other
  rw [mem_keyedSet, KeyedSet.rows_filter, Finset.mem_filter, mem_keyedSet,
    rows.mem_iff, List.mem_cons]
  constructor
  · intro member
    refine ⟨.inr member, ?_⟩
    intro same
    apply apart.1
    rw [← same]
    exact List.mem_map_of_mem member
  · rintro ⟨rfl | member, different⟩
    · exact (different rfl).elim
    · exact member

theorem keyedSet_eraseWhere (distinct : KeysDistinct key table)
    (condition : α → Bool) :
    (table.eraseWhere condition).keyedSet (distinct.eraseWhere condition) =
      (table.keyedSet distinct).filter fun row => condition row = false := by
  apply KeyedSet.ext
  ext row
  rw [mem_keyedSet, rows_eraseWhere, KeyedSet.rows_filter, Finset.mem_filter,
    mem_keyedSet, List.mem_filter, Bool.not_eq_true']

end Content

end SlotTable

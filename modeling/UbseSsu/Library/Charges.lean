import Mathlib.Algebra.GroupWithZero.Nat
import Mathlib.Algebra.Order.BigOperators.Group.List
import Mathlib.Algebra.Order.Group.Nat
import Mathlib.Data.List.Nodup

/-!
# Counters that account for a bag of charges

Counters with distinct keys stand next to a bag of items, each charging some
amount to one key.  `Balanced` says that every counter shows the sum of the
charges to its key; the lemmas are the moves that keep it: charging one item,
refunding one, and rebuilding the counters from an old set.
-/

namespace Charges

variable {κ Counter Item : Type}

section Total

variable [DecidableEq κ] (owner : Item → κ) (amount : Item → Nat)

def total (items : List Item) (key : κ) : Nat :=
  ((items.filter fun item => owner item = key).map amount).sum

variable {owner amount} {items : List Item} {key : κ}

theorem total_cons (item : Item) :
    total owner amount (item :: items) key =
      (if owner item = key then amount item else 0) +
        total owner amount items key := by
  by_cases same : owner item = key <;> simp [total, same]

theorem total_append (items others : List Item) (key : κ) :
    total owner amount (items ++ others) key =
      total owner amount items key + total owner amount others key := by
  simp [total]

theorem total_perm {others : List Item} (permutation : items.Perm others)
    (key : κ) : total owner amount items key =
      total owner amount others key :=
  ((permutation.filter _).map amount).sum_eq

theorem amount_le_total {item : Item} (member : item ∈ items) :
    amount item ≤ total owner amount items (owner item) :=
  List.le_sum_of_mem (List.mem_map_of_mem
    (List.mem_filter.mpr ⟨member, by simp⟩))

theorem total_eq_zero (absent : ∀ item ∈ items, owner item ≠ key) :
    total owner amount items key = 0 := by
  have none : items.filter (fun item => owner item = key) = [] := by
    simpa [List.filter_eq_nil_iff] using absent
  rw [total, none]
  rfl

end Total

section Modify

variable {key : Counter → κ} {counters : List Counter}

/-- Updating one counter of a list with distinct keys: the others are those
with another key. -/
theorem mem_modify {index : Nat} {counter : Counter}
    {update : Counter → Counter} (distinct : (counters.map key).Nodup)
    (found : counters[index]? = some counter) {other : Counter}
    (member : other ∈ counters.modify index update) :
    other = update counter ∨
      other ∈ counters ∧ key other ≠ key counter := by
  obtain ⟨place, there⟩ := List.mem_iff_getElem?.mp member
  rw [List.getElem?_modify] at there
  by_cases same : index = place
  · subst same
    rw [found] at there
    simp only [if_true, Option.map_eq_map, Option.map_some,
      Option.some.injEq] at there
    exact .inl there.symm
  · simp only [if_neg same, Option.map_eq_map, Option.map_id_fun', id] at there
    refine .inr ⟨List.mem_of_getElem? there, fun sameKey => same ?_⟩
    obtain ⟨inside, _⟩ := List.getElem?_eq_some_iff.mp found
    have bound : index < (counters.map key).length := by simpa using inside
    apply (List.getElem?_inj bound distinct).mp
    simp [found, there, sameKey]

theorem map_key_modify {update : Counter → Counter}
    (keeps : ∀ counter, key (update counter) = key counter) (index : Nat) :
    (counters.modify index update).map key = counters.map key := by
  apply List.ext_getElem?
  intro place
  simp only [List.getElem?_map, List.getElem?_modify]
  cases counters[place]? with
  | none => rfl
  | some counter =>
      by_cases same : index = place <;> simp [same, keeps]

end Modify

/-- Every counter shows exactly what is charged to its key, and nothing is
charged to a key without a counter. -/
structure Balanced [DecidableEq κ] (key : Counter → κ) (value : Counter → Nat)
    (owner : Item → κ) (amount : Item → Nat) (counters : List Counter)
    (items : List Item) : Prop where
  distinct : (counters.map key).Nodup
  covered : ∀ item ∈ items, owner item ∈ counters.map key
  exact : ∀ counter ∈ counters,
    value counter = total owner amount items (key counter)

namespace Balanced

variable [DecidableEq κ] {key : Counter → κ} {value : Counter → Nat} {owner : Item → κ}
  {amount : Item → Nat} {counters : List Counter} {items : List Item}

theorem perm (balanced : Balanced key value owner amount counters items)
    {others : List Item} (permutation : items.Perm others) :
    Balanced key value owner amount counters others where
  distinct := balanced.distinct
  covered item member := balanced.covered item (permutation.mem_iff.mpr member)
  exact counter member := by
    rw [balanced.exact counter member, total_perm permutation]

/-- Replacing items by items that charge the same keeps the balance. -/
theorem map_items (balanced : Balanced key value owner amount counters items)
    (update : Item → Item) (sameOwner : ∀ item, owner (update item) = owner item)
    (sameAmount : ∀ item, amount (update item) = amount item) :
    Balanced key value owner amount counters (items.map update) where
  distinct := balanced.distinct
  covered := by
    intro item member
    obtain ⟨old, oldMember, rfl⟩ := List.mem_map.mp member
    rw [sameOwner]
    exact balanced.covered old oldMember
  exact counter member := by
    rw [balanced.exact counter member]
    simp [total, List.filter_map, Function.comp_def, sameOwner, sameAmount]

variable {index : Nat} {counter : Counter} {item : Item}

theorem charge (balanced : Balanced key value owner amount counters items)
    (item : Item) (update : Counter → Counter)
    (found : counters[index]? = some counter)
    (keeps : ∀ counter, key (update counter) = key counter)
    (added : value (update counter) = value counter + amount item)
    (owned : owner item = key counter) :
    Balanced key value owner amount (counters.modify index update)
      (item :: items) where
  distinct := by
    rw [map_key_modify keeps]
    exact balanced.distinct
  covered := by
    rw [map_key_modify keeps]
    refine List.forall_mem_cons.mpr ⟨?_, balanced.covered⟩
    rw [owned]
    exact List.mem_map_of_mem (List.mem_of_getElem? found)
  exact other member := by
    rw [total_cons]
    rcases mem_modify balanced.distinct found member with rfl | ⟨old, different⟩
    · rw [added, keeps, if_pos owned,
        balanced.exact counter (List.mem_of_getElem? found), Nat.add_comm]
    · rw [if_neg (owned ▸ different.symm), Nat.zero_add,
        balanced.exact other old]

theorem refund
    (balanced : Balanced key value owner amount counters (item :: items))
    (update : Counter → Counter) (found : counters[index]? = some counter)
    (keeps : ∀ counter, key (update counter) = key counter)
    (taken : value (update counter) + amount item = value counter)
    (owned : owner item = key counter) :
    Balanced key value owner amount (counters.modify index update)
      items where
  distinct := by
    rw [map_key_modify keeps]
    exact balanced.distinct
  covered := by
    rw [map_key_modify keeps]
    exact fun other member =>
      balanced.covered other (List.mem_cons_of_mem _ member)
  exact other member := by
    rcases mem_modify balanced.distinct found member with rfl | ⟨old, different⟩
    · have counted := balanced.exact counter (List.mem_of_getElem? found)
      rw [total_cons, if_pos owned] at counted
      rw [keeps]
      omega
    · have counted := balanced.exact other old
      rwa [total_cons, if_neg (owned ▸ different.symm), Nat.zero_add] at counted

/-- New counters that carry the old values over, or start at zero under a
fresh key, are balanced as the old ones were. -/
theorem rebuild (balanced : Balanced key value owner amount counters items)
    {rebuilt : List Counter} (distinct : (rebuilt.map key).Nodup)
    (kept : ∀ counter ∈ counters, key counter ∈ rebuilt.map key)
    (carried : ∀ counter ∈ rebuilt,
      (∃ old ∈ counters, key old = key counter ∧ value old = value counter) ∨
        key counter ∉ counters.map key ∧ value counter = 0) :
    Balanced key value owner amount rebuilt items where
  distinct := distinct
  covered item member := by
    obtain ⟨old, oldMember, same⟩ :=
      List.mem_map.mp (balanced.covered item member)
    exact same ▸ kept old oldMember
  exact counter member := by
    rcases carried counter member with ⟨old, oldMember, sameKey, sameValue⟩ |
      ⟨fresh, zero⟩
    · rw [← sameValue, balanced.exact old oldMember, sameKey]
    · rw [zero, total_eq_zero]
      exact fun item itemMember same =>
        fresh (same ▸ balanced.covered item itemMember)

/-- No single charge exceeds its counter. -/
theorem amount_le (balanced : Balanced key value owner amount counters items)
    (member : item ∈ items) (counterMember : counter ∈ counters)
    (owned : owner item = key counter) : amount item ≤ value counter := by
  rw [balanced.exact counter counterMember, ← owned]
  exact amount_le_total member

end Balanced

/-- Counters that show something beforehand: what they show above it is
charged. -/
structure Backed [DecidableEq κ] (key : Counter → κ) (value : Counter → Nat)
    (owner : Item → κ) (amount : Item → Nat) (base : κ → Nat)
    (counters : List Counter) (items : List Item) : Prop where
  balanced : Balanced key (fun counter => value counter - base (key counter))
    owner amount counters items
  based : ∀ counter ∈ counters, base (key counter) ≤ value counter

namespace Backed

variable [DecidableEq κ] {key : Counter → κ} {value : Counter → Nat}
  {owner : Item → κ} {amount : Item → Nat} {base : κ → Nat}
  {counters : List Counter} {items : List Item}

theorem exact (backed : Backed key value owner amount base counters items)
    {counter : Counter} (member : counter ∈ counters) :
    value counter =
      base (key counter) + total owner amount items (key counter) := by
  have above := backed.balanced.exact counter member
  have based := backed.based counter member
  omega

/-- Balanced counters are those that showed nothing beforehand. -/
theorem balanced_iff : Balanced key value owner amount counters items ↔
    Backed key value owner amount (fun _ => 0) counters items :=
  ⟨fun balanced => ⟨balanced, fun _ _ => Nat.zero_le _⟩,
    fun backed => backed.balanced⟩

theorem perm (backed : Backed key value owner amount base counters items)
    {others : List Item} (permutation : items.Perm others) :
    Backed key value owner amount base counters others :=
  ⟨backed.balanced.perm permutation, backed.based⟩

theorem map_items
    (backed : Backed key value owner amount base counters items)
    (update : Item → Item) (sameOwner : ∀ item, owner (update item) = owner item)
    (sameAmount : ∀ item, amount (update item) = amount item) :
    Backed key value owner amount base counters (items.map update) :=
  ⟨backed.balanced.map_items update sameOwner sameAmount, backed.based⟩

variable {index : Nat} {counter : Counter} {item : Item}

theorem amount_le (backed : Backed key value owner amount base counters items)
    (member : item ∈ items) (counterMember : counter ∈ counters)
    (owned : owner item = key counter) :
    base (key counter) + amount item ≤ value counter := by
  have above := backed.balanced.amount_le member counterMember owned
  have based := backed.based counter counterMember
  omega

theorem charge (backed : Backed key value owner amount base counters items)
    (item : Item) (update : Counter → Counter)
    (found : counters[index]? = some counter)
    (keeps : ∀ counter, key (update counter) = key counter)
    (added : value (update counter) = value counter + amount item)
    (owned : owner item = key counter) :
    Backed key value owner amount base (counters.modify index update)
      (item :: items) := by
  have based := backed.based counter (List.mem_of_getElem? found)
  constructor
  · refine backed.balanced.charge item update found keeps ?_ owned
    rw [keeps, added]
    omega
  · intro other member
    rcases mem_modify backed.balanced.distinct found member with rfl | ⟨old, _⟩
    · rw [keeps, added]
      omega
    · exact backed.based other old

theorem refund
    (backed : Backed key value owner amount base counters (item :: items))
    (update : Counter → Counter) (found : counters[index]? = some counter)
    (keeps : ∀ counter, key (update counter) = key counter)
    (taken : value (update counter) + amount item = value counter)
    (owned : owner item = key counter) :
    Backed key value owner amount base (counters.modify index update)
      items := by
  have charged := backed.amount_le List.mem_cons_self
    (List.mem_of_getElem? found) owned
  constructor
  · refine backed.balanced.refund update found keeps ?_ owned
    rw [keeps]
    omega
  · intro other member
    rcases mem_modify backed.balanced.distinct found member with rfl | ⟨old, _⟩
    · rw [keeps]
      omega
    · exact backed.based other old

theorem find?_of_distinct (distinct : (counters.map key).Nodup)
    (member : counter ∈ counters) :
    (counters.find? fun other => key other = key counter) = some counter := by
  cases found : counters.find? fun other => key other = key counter with
  | none =>
      have missed := List.find?_eq_none.mp found counter member
      simp at missed
  | some other =>
      have same := List.find?_some found
      rw [List.inj_on_of_nodup_map distinct (List.mem_of_find?_eq_some found)
        member (by simpa using same)]

/-- The base of an old key stays; a new key starts at what its counter shows. -/
def extendBase (key : Counter → κ) (value : Counter → Nat) (base : κ → Nat)
    (counters rebuilt : List Counter) (name : κ) : Nat :=
  if name ∈ counters.map key then base name
  else ((rebuilt.find? fun other => key other = name).map value).getD 0

theorem extendBase_old {rebuilt : List Counter} (member : counter ∈ counters) :
    extendBase key value base counters rebuilt (key counter) =
      base (key counter) :=
  if_pos (List.mem_map_of_mem member)

theorem extendBase_new {rebuilt : List Counter}
    (distinct : (rebuilt.map key).Nodup) (member : counter ∈ rebuilt)
    (fresh : key counter ∉ counters.map key) :
    extendBase key value base counters rebuilt (key counter) =
      value counter := by
  simp only [extendBase, if_neg fresh, find?_of_distinct distinct member,
    Option.map_some, Option.getD_some]

/-- New counters may show anything. -/
theorem rebuild (backed : Backed key value owner amount base counters items)
    {rebuilt : List Counter} (distinct : (rebuilt.map key).Nodup)
    (kept : ∀ counter ∈ counters, key counter ∈ rebuilt.map key)
    (carried : ∀ counter ∈ rebuilt,
      (∃ old ∈ counters, key old = key counter ∧ value old = value counter) ∨
        key counter ∉ counters.map key) :
    Backed key value owner amount
      (extendBase key value base counters rebuilt) rebuilt items := by
  constructor
  · have before : Balanced key
        (fun counter => value counter -
          extendBase key value base counters rebuilt (key counter)) owner
            amount counters items := by
      refine ⟨backed.balanced.distinct, backed.balanced.covered, ?_⟩
      intro counter member
      rw [extendBase_old member]
      exact backed.balanced.exact counter member
    refine before.rebuild distinct kept ?_
    intro counter member
    refine (carried counter member).imp ?_ ?_
    · rintro ⟨known, knownMember, sameKey, sameValue⟩
      exact ⟨known, knownMember, sameKey, by rw [sameKey, sameValue]⟩
    · intro fresh
      exact ⟨fresh, by rw [extendBase_new distinct member fresh, Nat.sub_self]⟩
  · intro counter member
    rcases carried counter member with ⟨known, knownMember, sameKey, sameValue⟩ |
      fresh
    · rw [← sameKey, ← sameValue, extendBase_old knownMember]
      exact backed.based known knownMember
    · rw [extendBase_new distinct member fresh]

end Backed

end Charges

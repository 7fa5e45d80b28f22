import Mathlib.Data.Finset.Card
import Mathlib.Data.Finset.Lattice.Lemmas
import Mathlib.Data.List.Forall2
import Mathlib.Data.List.Nodup

/-!
# Merging a new list into a known one

The entries of a list that was found come first, each with what it takes over
from the known entry of its key; the known entries whose keys were not found
come after them.  No key is lost or doubled, and merging the same list again
changes nothing.
-/

namespace KeyedMerge

variable {Entry Key : Type} [DecidableEq Key]

section Definitions

variable (key : Entry → Key) (carry : Entry → Entry → Entry)

/-- The known entries whose keys were not found. -/
def unlisted (found known : List Entry) : List Entry :=
  known.filter fun entry => key entry ∉ found.map key

/-- A found entry with what it takes over from the known one. -/
def carried (known : List Entry) (entry : Entry) : Entry :=
  match known.find? fun old => key old = key entry with
  | none => entry
  | some old => carry old entry

def merge (known found : List Entry) : List Entry :=
  found.map (carried key carry known) ++ unlisted key found known

/-- Two entries from which the same is taken over. -/
structure SameCarry (left right : Entry) : Prop where
  key : key left = key right
  carry : ∀ entry, carry left entry = carry right entry

end Definitions

/-- Taking over changes no key and is done once. -/
structure LawfulCarry (key : Entry → Key) (carry : Entry → Entry → Entry) :
    Prop where
  key : ∀ old new, key (carry old new) = key new
  self : ∀ entry, carry entry entry = entry
  again : ∀ old new, carry (carry old new) new = carry old new

variable {key : Entry → Key} {carry : Entry → Entry → Entry}
  {known found later : List Entry}

section Unlisted

theorem mem_unlisted {entry : Entry} :
    entry ∈ unlisted key found known ↔
      entry ∈ known ∧ key entry ∉ found.map key := by
  simp only [unlisted, List.mem_filter, decide_eq_true_eq]

theorem unlisted_cons_of_found {entry : Entry}
    (listed : key entry ∈ found.map key) :
    unlisted key found (entry :: known) = unlisted key found known :=
  List.filter_cons_of_neg (by simpa using listed)

theorem unlisted_cons_of_fresh {entry : Entry}
    (fresh : key entry ∉ found.map key) :
    unlisted key found (entry :: known) =
      entry :: unlisted key found known :=
  List.filter_cons_of_pos (by simpa using fresh)

theorem unlisted_append (left right : List Entry) :
    unlisted key found (left ++ right) =
      unlisted key found left ++ unlisted key found right :=
  List.filter_append ..

theorem unlisted_of_found
    (listed : ∀ entry ∈ known, key entry ∈ found.map key) :
    unlisted key found known = [] := by
  apply List.filter_eq_nil_iff.mpr
  intro entry member
  simpa using listed entry member

theorem unlisted_of_fresh
    (fresh : ∀ entry ∈ known, key entry ∉ found.map key) :
    unlisted key found known = known := by
  apply List.filter_eq_self.mpr
  intro entry member
  exact decide_eq_true (fresh entry member)

end Unlisted

section Keys

theorem key_carried (lawful : LawfulCarry key carry) (known : List Entry)
    (entry : Entry) : key (carried key carry known entry) = key entry := by
  unfold carried
  split
  · rfl
  · exact lawful.key _ entry

theorem keys_merge (lawful : LawfulCarry key carry)
    (known found : List Entry) :
    (merge key carry known found).map key =
      found.map key ++ (unlisted key found known).map key := by
  rw [merge, List.map_append, List.map_map]
  congr 1
  apply List.map_congr_left
  intro entry _
  exact key_carried lawful known entry

theorem mem_keys_merge (lawful : LawfulCarry key carry) {name : Key} :
    name ∈ (merge key carry known found).map key ↔
      name ∈ found.map key ∨ name ∈ known.map key := by
  rw [keys_merge lawful, List.mem_append]
  constructor
  · refine Or.imp_right fun member => ?_
    obtain ⟨entry, kept, rfl⟩ := List.mem_map.mp member
    exact List.mem_map_of_mem (mem_unlisted.mp kept).1
  · rintro (member | member)
    · exact .inl member
    · by_cases listed : name ∈ found.map key
      · exact .inl listed
      · obtain ⟨entry, old, rfl⟩ := List.mem_map.mp member
        exact .inr (List.mem_map_of_mem (mem_unlisted.mpr ⟨old, listed⟩))

theorem nodup_keys_merge (lawful : LawfulCarry key carry)
    (knownDistinct : (known.map key).Nodup)
    (foundDistinct : (found.map key).Nodup) :
    ((merge key carry known found).map key).Nodup := by
  rw [keys_merge lawful]
  refine List.nodup_append.mpr ⟨foundDistinct, ?_, ?_⟩
  · exact knownDistinct.sublist (List.filter_sublist.map key)
  · rintro name listed other kept rfl
    obtain ⟨entry, member, rfl⟩ := List.mem_map.mp kept
    exact (mem_unlisted.mp member).2 listed

/-- As many entries as there are keys in the two lists together. -/
theorem length_merge (lawful : LawfulCarry key carry)
    (knownDistinct : (known.map key).Nodup)
    (foundDistinct : (found.map key).Nodup) :
    (merge key carry known found).length =
      ((found.map key).toFinset ∪ (known.map key).toFinset).card := by
  have distinct := nodup_keys_merge lawful knownDistinct foundDistinct
  have keys : ((merge key carry known found).map key).toFinset =
      (found.map key).toFinset ∪ (known.map key).toFinset := by
    ext name
    rw [List.mem_toFinset, mem_keys_merge lawful, Finset.mem_union,
      List.mem_toFinset, List.mem_toFinset]
  rw [← keys, List.toFinset_card_of_nodup distinct, List.length_map]

end Keys

section Carried

theorem carried_of_mem {old entry : Entry}
    (distinct : (known.map key).Nodup) (member : old ∈ known)
    (same : key old = key entry) :
    carried key carry known entry = carry old entry := by
  have present : ∃ other, (known.find? fun old => key old = key entry) =
      some other := by
    refine Option.isSome_iff_exists.mp (List.find?_isSome.mpr ?_)
    exact ⟨old, member, decide_eq_true same⟩
  obtain ⟨other, first⟩ := present
  have key : key other = key entry := by simpa using List.find?_some first
  have equal : other = old :=
    List.inj_on_of_nodup_map distinct (List.mem_of_find?_eq_some first) member
      (key.trans same.symm)
  simp only [carried, first, equal]

theorem carried_of_fresh {entry : Entry}
    (fresh : key entry ∉ known.map key) :
    carried key carry known entry = entry := by
  have missing : (known.find? fun old => key old = key entry) = none := by
    refine List.find?_eq_none.mpr fun old member => ?_
    simp only [decide_eq_true_eq]
    intro same
    exact fresh (same ▸ List.mem_map_of_mem member)
  simp only [carried, missing]

theorem carry_carried (lawful : LawfulCarry key carry) (known : List Entry)
    (entry : Entry) :
    carry (carried key carry known entry) entry =
      carried key carry known entry := by
  unfold carried
  split
  · exact lawful.self entry
  · exact lawful.again _ entry

end Carried

section Again

omit [DecidableEq Key] in
theorem keys_of_sameCarry {left right : List Entry}
    (same : List.Forall₂ (SameCarry key carry) left right) :
    left.map key = right.map key := by
  induction same with
  | nil => rfl
  | cons first _ induction => simp only [List.map_cons, first.key, induction]

/-- Merging the same list into what the merge has become: the found entries
are what they were, and the others stay. -/
theorem merge_again (lawful : LawfulCarry key carry)
    (knownDistinct : (known.map key).Nodup)
    (foundDistinct : (found.map key).Nodup)
    (same : List.Forall₂ (SameCarry key carry) later
      (merge key carry known found)) :
    merge key carry later found =
      found.map (carried key carry known) ++ later.drop found.length := by
  have front := List.forall₂_take_append later
    (found.map (carried key carry known)) (unlisted key found known) same
  have back := List.forall₂_drop_append later
    (found.map (carried key carry known)) (unlisted key found known) same
  rw [List.length_map] at front back
  have distinct : (later.map key).Nodup := by
    rw [keys_of_sameCarry same]
    exact nodup_keys_merge lawful knownDistinct foundDistinct
  have frontKeys : (later.take found.length).map key = found.map key := by
    rw [keys_of_sameCarry front, List.map_map]
    exact List.map_congr_left fun entry _ => key_carried lawful known entry
  have backKeys := keys_of_sameCarry back
  unfold merge
  congr 1
  · apply List.map_congr_left
    intro entry member
    have listed : carried key carry known entry ∈
        found.map (carried key carry known) := List.mem_map_of_mem member
    obtain ⟨index, bound, at_index⟩ := List.getElem_of_mem listed
    have lengths := front.length_eq
    have held : (later.take found.length)[index] ∈ later :=
      List.mem_of_mem_take (List.getElem_mem _)
    have related : SameCarry key carry (later.take found.length)[index]
        (carried key carry known entry) := by
      have pointwise := (List.forall₂_iff_get.mp front).2 index
        (lengths ▸ bound) bound
      rwa [List.get_eq_getElem, List.get_eq_getElem, at_index] at pointwise
    rw [carried_of_mem distinct held
      (related.key.trans (key_carried lawful known entry)), related.carry,
      carry_carried lawful]
  · have split : later =
        later.take found.length ++ later.drop found.length :=
      (List.take_append_drop ..).symm
    rw [split, unlisted_append, unlisted_of_found, unlisted_of_fresh,
      List.nil_append, ← split]
    · intro entry member
      have listed : key entry ∈ (unlisted key found known).map key :=
        backKeys ▸ List.mem_map_of_mem member
      obtain ⟨old, kept, same⟩ := List.mem_map.mp listed
      exact same ▸ (mem_unlisted.mp kept).2
    · intro entry member
      exact frontKeys ▸ List.mem_map_of_mem member

end Again

end KeyedMerge

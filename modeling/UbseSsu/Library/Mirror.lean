import Mathlib.Data.List.Nodup
import Mathlib.Data.List.Perm.Subperm

/-!
# Two parties that hold the same entries

One party stores entries, another one keeps records of some of them.  Every
stored entry has a name of its own, and requests between the parties carry
names only.  Then what the second party holds is always part of what the first
one stores, whichever of the two forgets an entry on its own.
-/

namespace Mirror

variable {κ ν : Type} {name : κ → ν} {held stored rest : List κ} {entry : κ}

structure Mirrored (name : κ → ν) (held stored : List κ) : Prop where
  distinct : (stored.map name).Nodup
  part : held.Subperm stored

namespace Mirrored

theorem nil (name : κ → ν) : Mirrored name [] [] :=
  ⟨List.nodup_nil, List.nil_subperm⟩

theorem congr_perm {otherHeld otherStored : List κ}
    (mirrored : Mirrored name held stored) (heldSame : held.Perm otherHeld)
    (storedSame : stored.Perm otherStored) :
    Mirrored name otherHeld otherStored := by
  constructor
  · exact (storedSame.map name).nodup_iff.mp mirrored.distinct
  · exact heldSame.subperm_right.mp (storedSame.subperm_left.mp mirrored.part)

/-- An entry under a new name arrives on both sides. -/
theorem create (mirrored : Mirrored name held stored)
    (unused : name entry ∉ stored.map name) :
    Mirrored name (entry :: held) (entry :: stored) := by
  constructor
  · exact List.nodup_cons.mpr ⟨unused, mirrored.distinct⟩
  · exact (List.subperm_cons entry).mpr mirrored.part

/-- Only the record goes. -/
theorem forget (mirrored : Mirrored name (entry :: held) stored) :
    Mirrored name held stored :=
  ⟨mirrored.distinct, (List.sublist_cons_self entry held).subperm.trans
    mirrored.part⟩

theorem mem_stored (mirrored : Mirrored name (entry :: held) stored) :
    entry ∈ stored :=
  mirrored.part.subset List.mem_cons_self

/-- A name that both sides know belongs to one entry. -/
theorem same_entry (mirrored : Mirrored name (entry :: held) stored)
    {removed : κ} (removal : stored.Perm (removed :: rest))
    (named : name removed = name entry) : removed = entry := by
  apply List.inj_on_of_nodup_map mirrored.distinct
  · exact removal.mem_iff.mpr List.mem_cons_self
  · exact mirrored.mem_stored
  · exact named

/-- The record goes together with the stored entry of its name. -/
theorem delete (mirrored : Mirrored name (entry :: held) stored)
    {removed : κ} (removal : stored.Perm (removed :: rest))
    (named : name removed = name entry) : Mirrored name held rest := by
  have same := mirrored.same_entry removal named
  subst same
  constructor
  · have distinct := mirrored.distinct
    rw [(removal.map name).nodup_iff] at distinct
    exact (List.nodup_cons.mp distinct).2
  · have part := removal.subperm_left.mp mirrored.part
    exact (List.subperm_cons removed).mp part

/-- Records and stored entries of one group agree once they are equally
many. -/
theorem filter_perm (mirrored : Mirrored name held stored) (group : κ → Bool)
    (count : (stored.filter group).length = (held.filter group).length) :
    (held.filter group).Perm (stored.filter group) := by
  apply (mirrored.part.filter group).perm_of_length_le
  exact Nat.le_of_eq count

end Mirrored

/-- Two ways to show the entries of a list, both with the entry's own key, show
the same entries only if they agree on each one. -/
theorem perm_map_iff_of_keys {α β : Type} {entries : List α}
    (left right : α → β) (key : β → κ)
    (sameKeys : ∀ item ∈ entries, key (left item) = key (right item))
    (distinct : (entries.map fun item => key (left item)).Nodup) :
    (entries.map left).Perm (entries.map right) ↔
      ∀ item ∈ entries, left item = right item := by
  constructor
  · intro shown item member
    obtain ⟨other, otherMember, same⟩ := List.mem_map.mp
      (shown.mem_iff.mpr (List.mem_map_of_mem member))
    have keys : key (left other) = key (left item) := by
      rw [same, sameKeys item member]
    have equal := List.inj_on_of_nodup_map distinct otherMember member keys
    rw [← equal, same, equal]
  · intro agree
    rw [List.map_congr_left agree]

end Mirror

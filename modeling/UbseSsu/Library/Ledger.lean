import Mathlib.Data.List.Nodup
import Mathlib.Data.Set.Insert

/-!
# A store and its ledger

One party stores entries under distinct names, another one keeps a record of
each.  An entry arrives together with its record and leaves together with it,
or the record alone goes; an entry without a record is never removed again, so
whether the two sides agree tells whether the last case has occurred.
-/

namespace Stored

variable {κ ν : Type} {name : κ → ν} {live : Set κ} {rows : List κ}
  {entry : κ} {clean : Prop}

structure Ledger (name : κ → ν) (live : Set κ) (rows : List κ)
    (clean : Prop) : Prop where
  named : ∀ left ∈ live, ∀ right ∈ live, name left = name right →
    left = right
  distinct : rows.Nodup
  listed : ∀ item ∈ rows, item ∈ live
  exact : (∀ item ∈ live, item ∈ rows) ↔ clean

namespace Ledger

theorem iff (ledger : Ledger name live rows clean) :
    live = {item | item ∈ rows} ↔ clean := by
  rw [← ledger.exact]
  constructor
  · intro same item member
    rw [same] at member
    exact member
  · intro covered
    ext item
    exact ⟨covered item, ledger.listed item⟩

theorem perm {others : List κ} (ledger : Ledger name live rows clean)
    (same : rows.Perm others) : Ledger name live others clean where
  named := ledger.named
  distinct := same.nodup_iff.mp ledger.distinct
  listed item member := ledger.listed item (same.mem_iff.mpr member)
  exact := by simpa only [same.mem_iff] using ledger.exact

theorem create (ledger : Ledger name live rows clean)
    (fresh : ∀ old ∈ live, name old ≠ name entry) :
    Ledger name (insert entry live) (entry :: rows) clean := by
  have new : entry ∉ live := fun member => fresh entry member rfl
  constructor
  · intro left leftMember right rightMember same
    rcases leftMember with rfl | leftOld
    · rcases rightMember with rfl | rightOld
      · rfl
      · exact (fresh right rightOld same.symm).elim
    · rcases rightMember with rfl | rightOld
      · exact (fresh left leftOld same).elim
      · exact ledger.named left leftOld right rightOld same
  · apply List.nodup_cons.mpr
    exact ⟨fun member => new (ledger.listed entry member), ledger.distinct⟩
  · intro other member
    rcases List.mem_cons.mp member with rfl | old
    · exact .inl rfl
    · exact .inr (ledger.listed other old)
  · rw [← ledger.exact]
    constructor
    · intro covered other member
      rcases List.mem_cons.mp (covered other (.inr member)) with rfl | old
      · exact (new member).elim
      · exact old
    · intro covered other member
      rcases member with rfl | old
      · exact List.mem_cons_self
      · exact List.mem_cons_of_mem _ (covered other old)

/-- The entry goes with its record. -/
theorem delete (ledger : Ledger name live (entry :: rows) clean) :
    Ledger name {other ∈ live | name other ≠ name entry} rows clean := by
  obtain ⟨gone, distinct⟩ := List.nodup_cons.mp ledger.distinct
  have itself := ledger.listed entry List.mem_cons_self
  constructor
  · intro left leftMember right rightMember same
    exact ledger.named left leftMember.1 right rightMember.1 same
  · exact distinct
  · intro other member
    have present := ledger.listed other (List.mem_cons_of_mem _ member)
    refine ⟨present, ?_⟩
    intro same
    rw [ledger.named other present entry itself same] at member
    exact gone member
  · rw [← ledger.exact]
    constructor
    · intro covered other member
      by_cases same : name other = name entry
      · rw [ledger.named other member entry itself same]
        exact List.mem_cons_self
      · exact List.mem_cons_of_mem _ (covered other ⟨member, same⟩)
    · intro covered other member
      rcases List.mem_cons.mp (covered other member.1) with rfl | old
      · exact (member.2 rfl).elim
      · exact old

/-- The record goes and leaves its entry behind for good. -/
theorem orphan (ledger : Ledger name live (entry :: rows) clean) :
    Ledger name live rows False := by
  obtain ⟨gone, distinct⟩ := List.nodup_cons.mp ledger.distinct
  refine ⟨ledger.named, distinct, ?_, ?_⟩
  · intro other member
    exact ledger.listed other (List.mem_cons_of_mem _ member)
  · constructor
    · intro covered
      exact gone (covered entry (ledger.listed entry List.mem_cons_self))
    · exact False.elim

theorem congr {other : Prop} (ledger : Ledger name live rows clean)
    (same : clean ↔ other) : Ledger name live rows other :=
  ⟨ledger.named, ledger.distinct, ledger.listed, ledger.exact.trans same⟩

end Ledger

theorem Ledger.empty (name : κ → ν) : Ledger name ∅ [] True :=
  ⟨nofun, List.nodup_nil, nofun, by simp⟩

end Stored

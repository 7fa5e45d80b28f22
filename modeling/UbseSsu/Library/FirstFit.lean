import Mathlib.Data.List.Forall2
import Mathlib.Data.List.Nodup
import Mathlib.Data.List.Perm.Subperm

/-!
# First fit without backtracking

Tasks are served in order, and each one takes the first listed item that fits
it and that no earlier task has taken.  The search never goes back, so it can
miss an assignment.  It misses none when whatever fits a task also fits every
later task: the task at which it stops would need one more item than all the
tasks up to there have together.
-/

namespace FirstFit

variable {Task Item : Type}

/-- Every task has a listed item that fits it, no item serves two tasks. -/
structure Assigns (fits : Task → Item → Bool) (items : List Item)
    (tasks : List Task) (assigned : List Item) : Prop where
  distinct : assigned.Nodup
  listed : ∀ item ∈ assigned, item ∈ items
  fit : List.Forall₂ (fun task item => fits task item = true) tasks assigned

/-- Whatever fits a task also fits the later ones. -/
def Nested (fits : Task → Item → Bool) (tasks : List Task) : Prop :=
  tasks.Pairwise fun earlier later =>
    ∀ item, fits earlier item = true → fits later item = true

variable [DecidableEq Item]

def free (fits : Task → Item → Bool) (taken : List Item) (task : Task)
    (item : Item) : Bool :=
  !taken.contains item && fits task item

/-- The search, with the items of the earlier tasks in `taken`. -/
def choose (fits : Task → Item → Bool) (items : List Item) :
    List Task → List Item → Option (List Item)
  | [], taken => some taken
  | task :: tasks, taken =>
      match items.find? (free fits taken task) with
      | none => none
      | some item => choose fits items tasks (taken ++ [item])

variable {fits : Task → Item → Bool} {items : List Item}
  {before tasks : List Task} {taken assigned chosen : List Item}

omit [DecidableEq Item] in
theorem Assigns.nil : Assigns fits items [] [] :=
  ⟨List.nodup_nil, by simp, .nil⟩

theorem Assigns.snoc (sofar : Assigns fits items before taken) {task : Task}
    {item : Item} (found : items.find? (free fits taken task) = some item) :
    Assigns fits items (before ++ [task]) (taken ++ [item]) := by
  have usable := List.find?_some found
  simp only [free, Bool.and_eq_true, Bool.not_eq_true', List.contains_eq_mem,
    decide_eq_false_iff_not] at usable
  constructor
  · apply sofar.distinct.append (List.nodup_singleton item)
    rw [List.disjoint_singleton]
    exact usable.1
  · intro other member
    rcases List.mem_append.mp member with old | new
    · exact sofar.listed other old
    · rw [List.mem_singleton.mp new]
      exact List.mem_of_find?_eq_some found
  · exact List.rel_append sofar.fit (.cons usable.2 .nil)

theorem choose_sound (sofar : Assigns fits items before taken)
    (ended : choose fits items tasks taken = some chosen) :
    Assigns fits items (before ++ tasks) chosen := by
  induction tasks generalizing before taken with
  | nil =>
      cases ended
      rw [List.append_nil]
      exact sofar
  | cons task tasks induction =>
      cases found : items.find? (free fits taken task) with
      | none =>
          rw [choose, found] at ended
          cases ended
      | some item =>
          rw [choose, found] at ended
          have whole := induction (sofar.snoc found) ended
          rwa [List.append_assoc, List.singleton_append] at whole

omit [DecidableEq Item] in
/-- The first items of an assignment all fit the task behind them. -/
theorem Assigns.early {task : Task}
    (assigns : Assigns fits items (before ++ task :: tasks) assigned)
    (nested : Nested fits (before ++ task :: tasks)) :
    (assigned.take (before.length + 1)).length = before.length + 1 ∧
      ∀ item ∈ assigned.take (before.length + 1), fits task item = true := by
  have fit := List.forall₂_take (before.length + 1) assigns.fit
  have served : (before ++ task :: tasks).take (before.length + 1) =
      before ++ [task] := by
    rw [List.take_append, List.take_of_length_le (Nat.le_succ _)]
    simp
  rw [served] at fit
  have count := fit.length_eq
  rw [List.length_append, List.length_singleton] at count
  refine ⟨count.symm, ?_⟩
  intro item member
  obtain ⟨place, inside, rfl⟩ := List.mem_iff_getElem.mp member
  have place_le : place < (before ++ [task]).length := by
    rw [fit.length_eq]
    exact inside
  have own := fit.get place_le inside
  by_cases last : place = before.length
  · simpa [last] using own
  · have earlier : place < before.length := by
      rw [List.length_append, List.length_singleton] at place_le
      omega
    have later := (List.pairwise_append.mp nested).2.2
    apply later before[place] (List.getElem_mem earlier) task (by simp)
    simpa [List.getElem_append_left earlier] using own

theorem choose_complete
    (assigns : Assigns fits items (before ++ tasks) assigned)
    (nested : Nested fits (before ++ tasks))
    (count : taken.length = before.length) :
    ∃ chosen, choose fits items tasks taken = some chosen := by
  induction tasks generalizing before taken with
  | nil => exact ⟨taken, rfl⟩
  | cons task tasks induction =>
      cases found : items.find? (free fits taken task) with
      | some item =>
          rw [choose, found]
          have parts : before ++ task :: tasks = before ++ [task] ++ tasks := by
            simp
          rw [parts] at assigns nested
          apply induction assigns nested
          rw [List.length_append, List.length_append, count]
          rfl
      | none =>
          -- Every item that fits is taken, but more of them are needed.
          obtain ⟨length, fitting⟩ := assigns.early nested
          have covered : assigned.take (before.length + 1) ⊆ taken := by
            intro item member
            have listed := assigns.listed item (List.mem_of_mem_take member)
            have busy := List.find?_eq_none.mp found item listed
            simpa [free, fitting item member] using busy
          have distinct := assigns.distinct.sublist
            (List.take_sublist (before.length + 1) assigned)
          have counted := (distinct.subperm covered).length_le
          omega

/-- First fit finds an assignment exactly when there is one. -/
theorem choose_eq_some_iff (nested : Nested fits tasks) :
    (∃ chosen, choose fits items tasks [] = some chosen) ↔
      ∃ assigned, Assigns fits items tasks assigned := by
  constructor
  · rintro ⟨chosen, ended⟩
    exact ⟨chosen, choose_sound .nil ended⟩
  · rintro ⟨assigned, assigns⟩
    have whole : Assigns fits items ([] ++ tasks) assigned := assigns
    exact choose_complete whole nested rfl

end FirstFit

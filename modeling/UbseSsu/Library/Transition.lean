import Mathlib.Logic.Relation

/-!
# Runs of deterministic step functions

A program that answers one input after the other is a step function; a run is
its left fold over a list of inputs.  `Admissible` says that every input of a
run meets a condition in the state in which it arrives.  The rules below carry
a fact from single steps to whole runs and from atomic events to chains of
events.
-/

namespace Transition

variable {State Input Abstract : Type}

def run (step : State → Input → State) (start : State)
    (inputs : List Input) : State :=
  inputs.foldl step start

def Admissible (step : State → Input → State)
    (allowed : State → Input → Prop) : State → List Input → Prop
  | _, [] => True
  | state, input :: inputs =>
      allowed state input ∧ Admissible step allowed (step state input) inputs

instance decidableAdmissible (step : State → Input → State)
    (allowed : State → Input → Prop)
    [decide : ∀ state input, Decidable (allowed state input)] :
    ∀ state inputs, Decidable (Admissible step allowed state inputs)
  | _, [] => .isTrue trivial
  | state, input :: inputs =>
      have := decidableAdmissible step allowed (step state input) inputs
      inferInstanceAs (Decidable (_ ∧ _))

@[simp] theorem run_nil (step : State → Input → State) (start : State) :
    run step start [] = start := rfl

@[simp] theorem run_cons (step : State → Input → State) (start : State)
    (input : Input) (inputs : List Input) :
    run step start (input :: inputs) = run step (step start input) inputs :=
  rfl

theorem run_append (step : State → Input → State) (start : State)
    (first second : List Input) :
    run step start (first ++ second) = run step (run step start first) second :=
  List.foldl_append

theorem Admissible.append {step : State → Input → State}
    {allowed : State → Input → Prop} {start : State}
    {first second : List Input}
    (admissible : Admissible step allowed start (first ++ second)) :
    Admissible step allowed start first ∧
      Admissible step allowed (run step start first) second := by
  induction first generalizing start with
  | nil => exact ⟨trivial, admissible⟩
  | cons input first induction =>
      obtain ⟨head, tail⟩ := admissible
      exact ⟨⟨head, (induction tail).1⟩, (induction tail).2⟩

theorem Admissible.join {step : State → Input → State}
    {allowed : State → Input → Prop} {start : State}
    {first second : List Input} (left : Admissible step allowed start first)
    (right : Admissible step allowed (run step start first) second) :
    Admissible step allowed start (first ++ second) := by
  induction first generalizing start with
  | nil => exact right
  | cons input first induction =>
      exact ⟨left.1, induction left.2 right⟩

theorem Admissible.and {step : State → Input → State}
    {first second : State → Input → Prop} {start : State}
    {inputs : List Input} (left : Admissible step first start inputs)
    (right : Admissible step second start inputs) :
    Admissible step (fun state input => first state input ∧ second state input)
      start inputs := by
  induction inputs generalizing start with
  | nil => trivial
  | cons input inputs induction =>
      exact ⟨⟨left.1, right.1⟩, induction left.2 right.2⟩

/-- What every allowed step preserves holds at the end of every admissible
run. -/
theorem run_invariant (invariant : State → Prop)
    {step : State → Input → State} {allowed : State → Input → Prop}
    (preserved : ∀ state input, invariant state → allowed state input →
      invariant (step state input))
    {start : State} (initially : invariant start) {inputs : List Input}
    (admissible : Admissible step allowed start inputs) :
    invariant (run step start inputs) := by
  induction inputs generalizing start with
  | nil => exact initially
  | cons input inputs induction =>
      obtain ⟨head, tail⟩ := admissible
      exact induction (preserved start input initially head) tail

theorem admissible_of_always (step : State → Input → State)
    (allowed : State → Input → Prop)
    (always : ∀ state input, allowed state input) (start : State)
    (inputs : List Input) : Admissible step allowed start inputs := by
  induction inputs generalizing start with
  | nil => trivial
  | cons input inputs induction => exact ⟨always _ _, induction _⟩

/-- A condition that says exactly which steps preserve the invariant is met
along a run exactly when the invariant holds throughout it. -/
theorem invariant_throughout_iff (invariant : State → Prop)
    {step : State → Input → State} {allowed : State → Input → Prop}
    (exact : ∀ state input, invariant state →
      (allowed state input ↔ invariant (step state input)))
    {start : State} (initially : invariant start) (inputs : List Input) :
    (∀ done later, inputs = done ++ later → invariant (run step start done)) ↔
      Admissible step allowed start inputs := by
  constructor
  · intro throughout
    induction inputs generalizing start with
    | nil => trivial
    | cons input inputs induction =>
        have next : invariant (step start input) :=
          throughout [input] inputs rfl
        refine ⟨(exact start input initially).mpr next, induction next ?_⟩
        intro done later split
        exact throughout (input :: done) later (congrArg (input :: ·) split)
  · rintro admissible done later rfl
    exact run_invariant invariant
      (fun state input holds allows => (exact state input holds).mp allows)
      initially admissible.append.1

/-- The rule for steps without a condition. -/
theorem run_invariant_always (invariant : State → Prop)
    {step : State → Input → State}
    (preserved : ∀ state input, invariant state →
      invariant (step state input))
    {start : State} (initially : invariant start) (inputs : List Input) :
    invariant (run step start inputs) :=
  run_invariant invariant
    (fun state input holds _ => preserved state input holds) initially
    (admissible_of_always step (fun _ _ => True) (fun _ _ => trivial) start
      inputs)

/-- What every event preserves, every chain of events preserves. -/
theorem chain_invariant (invariant : State → Prop)
    {event : State → State → Prop}
    (preserved : ∀ before after, event before after → invariant before →
      invariant after)
    {before after : State} (chain : Relation.ReflTransGen event before after)
    (initially : invariant before) : invariant after := by
  induction chain with
  | refl => exact initially
  | tail _ last induction => exact preserved _ _ last induction

end Transition

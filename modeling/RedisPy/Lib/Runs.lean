import Mathlib.Data.List.Basic

/-!
# Runs

A run is a list of steps from a state. Some properties are about all states of a run and some
about all its steps, each in the state it is made in. An invariant that every allowed step keeps
holds all along a run of allowed steps; where a step that is not allowed is seen at once, the
good runs are exactly the runs of allowed steps.
-/

namespace Runs

variable {σ α : Type} {step : σ → α → σ}

/-- All states of a run are good. -/
def Always (step : σ → α → σ) (Good : σ → Prop) (s : σ) (steps : List α) : Prop :=
  ∀ earlier later, steps = earlier ++ later → Good (earlier.foldl step s)

/-- All steps of a run are allowed. -/
def Each (step : σ → α → σ) (Allowed : σ → α → Prop) (s : σ) (steps : List α) : Prop :=
  ∀ earlier a later, steps = earlier ++ a :: later → Allowed (earlier.foldl step s) a

variable {Good : σ → Prop} {Allowed : σ → α → Prop} {s : σ}

/-- A run without steps has one state. -/
theorem always_nil : Always step Good s [] ↔ Good s := by
  constructor
  · intro always
    exact always [] [] rfl
  · intro good earlier later split
    have none : earlier = [] := (List.append_eq_nil_iff.mp split.symm).1
    rw [none]
    exact good

/-- The states of a run are the first one and those after the first step. -/
theorem always_cons {a : α} {steps : List α} :
    Always step Good s (a :: steps) ↔ Good s ∧ Always step Good (step s a) steps := by
  constructor
  · intro always
    refine ⟨always [] (a :: steps) rfl, fun earlier later split => ?_⟩
    exact always (a :: earlier) later (by rw [split, List.cons_append])
  · rintro ⟨first, rest⟩ earlier later split
    cases earlier with
    | nil => exact first
    | cons head earlier =>
      cases split
      exact rest earlier later rfl

/-- A run without steps has no steps. -/
theorem each_nil : Each step Allowed s [] := by
  intro earlier a later split
  simp at split

/-- The steps of a run are the first one and the others. -/
theorem each_cons {a : α} {steps : List α} :
    Each step Allowed s (a :: steps) ↔ Allowed s a ∧ Each step Allowed (step s a) steps := by
  constructor
  · intro each
    refine ⟨each [] a steps rfl, fun earlier b later split => ?_⟩
    exact each (a :: earlier) b later (by rw [split, List.cons_append])
  · rintro ⟨first, rest⟩ earlier b later split
    cases earlier with
    | nil =>
      cases split
      exact first
    | cons head earlier =>
      cases split
      exact rest earlier b later rfl

/-- The first part of a run of allowed steps is one. -/
theorem Each.left {earlier later : List α} (each : Each step Allowed s (earlier ++ later)) :
    Each step Allowed s earlier := by
  intro before a after split
  refine each before a (after ++ later) ?_
  rw [split, List.append_assoc, List.cons_append]

variable (Inv : σ → Prop)

/-- An invariant that allowed steps keep holds in the end. -/
theorem inv_of_each (keeps : ∀ s a, Inv s → Allowed s a → Inv (step s a)) {steps : List α}
    (start : Inv s) (each : Each step Allowed s steps) : Inv (steps.foldl step s) := by
  induction steps generalizing s with
  | nil => exact start
  | cons a steps ih =>
    obtain ⟨first, rest⟩ := each_cons.mp each
    exact ih (keeps s a start first) rest

/-- If every allowed step is good under an invariant and keeps it, all steps of a run of allowed steps
are good. -/
theorem each_of_each {Fine : σ → α → Prop}
    (keeps : ∀ s a, Inv s → Allowed s a → Fine s a ∧ Inv (step s a)) {steps : List α} (start : Inv s)
    (each : Each step Allowed s steps) : Each step Fine s steps := by
  induction steps generalizing s with
  | nil => exact each_nil
  | cons a steps ih =>
    obtain ⟨first, rest⟩ := each_cons.mp each
    obtain ⟨fine, kept⟩ := keeps s a start first
    exact each_cons.mpr ⟨fine, ih kept rest⟩

/-- An invariant that all steps keep holds in the end. -/
theorem inv_of_keeps (keeps : ∀ s a, Inv s → Inv (step s a)) {steps : List α} (start : Inv s) :
    Inv (steps.foldl step s) := by
  induction steps generalizing s with
  | nil => exact start
  | cons a steps ih => exact ih (keeps s a start)

/-- If a state is good under an invariant, and no longer after a step that is not allowed, the good
runs are the runs of allowed steps. -/
theorem always_iff_each (keeps : ∀ s a, Inv s → Allowed s a → Inv (step s a))
    (good : ∀ s, Inv s → Good s) (breaks : ∀ s a, Inv s → ¬Allowed s a → ¬Good (step s a))
    {steps : List α} (start : Inv s) :
    Always step Good s steps ↔ Each step Allowed s steps := by
  induction steps generalizing s with
  | nil =>
    rw [always_nil]
    exact ⟨fun _ => each_nil, fun _ => good s start⟩
  | cons a steps ih =>
    rw [always_cons, each_cons]
    constructor
    · rintro ⟨-, rest⟩
      have allowed : Allowed s a := by
        by_contra other
        exact breaks s a start other (rest [] steps rfl)
      exact ⟨allowed, (ih (keeps s a start allowed)).mp rest⟩
    · rintro ⟨allowed, rest⟩
      exact ⟨good s start, (ih (keeps s a start allowed)).mpr rest⟩

/-! ## Runs that are watched -/

section Watched

variable {σ τ α ω : Type}

/-- What a run shows, one observation for each step. -/
def shown (step : σ → α → σ × ω) (s : σ) : List α → List ω
  | [] => []
  | a :: steps => (step s a).2 :: shown step (step s a).1 steps

/-- Where a watched run ends. -/
def final (step : σ → α → σ × ω) (s : σ) (steps : List α) : σ :=
  steps.foldl (fun s a => (step s a).1) s

/-- A run in two parts ends where the second part does. -/
theorem final_append (step : σ → α → σ × ω) (s : σ) (first second : List α) :
    final step s (first ++ second) = final step (final step s first) second :=
  List.foldl_append

variable {left : σ → α → σ × ω} {right : τ → α → τ × ω} {Same : σ → τ → Prop}

/-- States that no step tells apart show the same in every run, and no run tells where they end
apart. -/
theorem shown_eq
    (kept : ∀ s t a, Same s t → (left s a).2 = (right t a).2 ∧ Same (left s a).1 (right t a).1)
    {s : σ} {t : τ} (same : Same s t) (steps : List α) :
    shown left s steps = shown right t steps ∧ Same (final left s steps) (final right t steps) := by
  induction steps generalizing s t with
  | nil => exact ⟨rfl, same⟩
  | cons a steps ih =>
    obtain ⟨first, next⟩ := kept s t a same
    have rest := ih next
    constructor
    · rw [shown, shown, first, rest.1]
    · exact rest.2

/-- States that no allowed step tells apart show the same in every run of allowed steps, and no such
run tells where they end apart. -/
theorem shown_eq_of_each {Allowed : σ → α → Prop}
    (kept : ∀ s t a, Same s t → Allowed s a →
      (left s a).2 = (right t a).2 ∧ Same (left s a).1 (right t a).1)
    {s : σ} {t : τ} (same : Same s t) {steps : List α}
    (each : Each (fun s a => (left s a).1) Allowed s steps) :
    shown left s steps = shown right t steps ∧ Same (final left s steps) (final right t steps) := by
  induction steps generalizing s t with
  | nil => exact ⟨rfl, same⟩
  | cons a steps ih =>
    obtain ⟨allowed, later⟩ := each_cons.mp each
    obtain ⟨first, next⟩ := kept s t a same allowed
    have rest := ih next later
    constructor
    · rw [shown, shown, first, rest.1]
    · exact rest.2

end Watched

end Runs

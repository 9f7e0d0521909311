import Mathlib.Data.List.Basic

/-!
# Loops that may fail

A loop over a list whose body may fail: it succeeds if every turn does, fails if some turn is bound to,
and keeps what every turn keeps.
-/

namespace Failing

variable {α β σ ε : Type}

/-- Turns that succeed give their results in order. -/
theorem mapM_eq_ok {body : α → Except ε β} {result : α → β} {items : List α}
    (each : ∀ item ∈ items, body item = .ok (result item)) : items.mapM body = .ok (items.map result) := by
  induction items with
  | nil => rfl
  | cons item items ih =>
    rw [List.mapM_cons, each item List.mem_cons_self,
      ih fun other member => each other (List.mem_cons_of_mem item member)]
    rfl

/-- A loop gives results that stand in a relation to the items exactly if each turn does. -/
theorem mapM_forall₂_iff {body : α → Except ε β} {related : β → α → Prop} {items : List α} :
    (∃ results, items.mapM body = .ok results ∧ List.Forall₂ related results items) ↔
      ∀ item ∈ items, ∃ result, body item = .ok result ∧ related result item := by
  induction items with
  | nil => exact iff_of_true ⟨[], rfl, .nil⟩ fun _ member => absurd member List.not_mem_nil
  | cons item items ih =>
    rw [List.mapM_cons, List.forall_mem_cons, ← ih]
    constructor
    · rintro ⟨results, run, all⟩
      cases all with
      | @cons result _ results _ first rest =>
        cases turn : body item with
        | error e =>
          rw [turn] at run
          cases run
        | ok value =>
          cases others : items.mapM body with
          | error e =>
            rw [turn, others] at run
            cases run
          | ok values =>
            rw [turn, others] at run
            cases run
            exact ⟨⟨_, rfl, first⟩, _, rfl, rest⟩
    · rintro ⟨⟨result, turn, first⟩, results, others, rest⟩
      refine ⟨result :: results, ?_, .cons first rest⟩
      rw [turn, others]
      rfl

/-- A turn that fails in every state ends the loop. -/
theorem foldlM_error {body : σ → α → Except ε σ} {items : List α} {item : α} (member : item ∈ items)
    (fails : ∀ state, ∃ e, body state item = .error e) (state : σ) :
    ∃ e, items.foldlM body state = .error e := by
  induction items generalizing state with
  | nil => cases member
  | cons first items ih =>
    rw [List.foldlM_cons]
    cases turn : body state first with
    | error e => exact ⟨e, rfl⟩
    | ok next =>
      rcases List.mem_cons.mp member with rfl | later
      · obtain ⟨e, failed⟩ := fails state
        rw [turn] at failed
        cases failed
      · exact ih later next

/-- What every turn keeps holds after the loop. -/
theorem foldlM_invariant {body : σ → α → Except ε σ} {items : List α} (keeps : σ → Prop)
    (step : ∀ item ∈ items, ∀ state next, keeps state → body state item = .ok next → keeps next)
    {state last : σ} (start : keeps state) (run : items.foldlM body state = .ok last) : keeps last := by
  induction items generalizing state with
  | nil =>
    cases run
    exact start
  | cons first items ih =>
    rw [List.foldlM_cons] at run
    cases turn : body state first with
    | error e =>
      rw [turn] at run
      cases run
    | ok next =>
      rw [turn] at run
      exact ih (fun item member => step item (List.mem_cons_of_mem first member))
        (step first List.mem_cons_self state next start turn) run

end Failing

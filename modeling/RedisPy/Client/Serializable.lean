import RedisPy.Client.Guarded
import RedisPy.Lib.Runs

/-!
# Transactions are serializable

In every run of any number of transactions and of commands of other clients, with connections that fail,
there is one order of whole transactions and single commands that leaves the same store, and every
transaction that returned gave the result of its place in that order.
-/

namespace RedisPy

namespace Transaction

open Optimistic

variable {K V C R A : Type}

/-! ## The store -/

section Store

variable {server : Server K V C R} {calls : Nat → Call K C R A} {first : K → V} {s t u : World K V C R A} {i : Nat}

/-- A change that has no effect. -/
theorem Own.replayed (own : Own i s t) (replayed : s.store = replay server calls s.history first) :
    t.store = replay server calls t.history first := by
  rw [own.store, own.history]
  exact replayed

/-- Every step of a caller keeps the store that of the history. -/
theorem replayed_advance [DecidableEq K] (sound : s.Sound server calls first) (failure : Option Failure) :
    let t := s.advance server calls i failure
    t.store = replay server calls t.history first := by
  dsimp only
  have fits := sound.fits i
  cases running : (s.callers i).stage.ended with
  | true =>
    rw [advance_ended running]
    exact sound.replayed
  | false =>
    cases (effect_advance running : Effect server i failure s (s.advance server calls i failure)) with
    | quiet quiet => exact quiet.replayed sound.replayed
    | ran c next stage immediate quiet =>
      rw [stage] at fits
      obtain ⟨watched, standing⟩ := fits
      have guarded := standing.guarded
      unfold Callable.Guarded at guarded
      rw [if_pos immediate] at guarded
      refine quiet.replayed (.trans ?_ sound.replayed)
      exact guarded.1.store s.store
    | took value u stage taken own =>
      rw [stage] at fits
      obtain ⟨watched, standing⟩ := fits
      obtain ⟨replies, alone⟩ := taken.alone standing
      refine own.replayed ?_
      rw [taken.history, replay_concat, ← sound.replayed]
      show u.store = ((calls i).alone server s.store).2
      rw [alone]

end Store

/-! ## Runs -/

section Runs

variable (server : Server K V C R) (calls : Nat → Call K C R A) (first : K → V)

/-- A connection is not replaced silently while keys are watched on it. -/
def World.Announced (s : World K V C R A) : Action C → Prop
  | .reconnect i => (s.callers i).pipe.watching = false
  | _ => True

/-- The command of an event of another client. -/
def Event.command? : Event C → Option C
  | .command c => some c
  | .transaction _ => none

/-- The command that another client sends. -/
def Action.command? : Action C → Option C
  | .command c => some c
  | _ => none

/-- Before the first step. -/
theorem sound_start : (World.start first : World K V C R A).Sound server calls first :=
  ⟨rfl, fun _ => rfl⟩

variable {server calls first} {s : World K V C R A} [DecidableEq K]

/-- Every step keeps the invariant. -/
theorem sound_step (guarded : ∀ i, (calls i).Guarded server) (sound : s.Sound server calls first)
    {a : Action C} (announced : s.Announced a) : (s.step server calls a).Sound server calls first := by
  have others {i : Nat} {t : World K V C R A} (undisturbed : Undisturbed i s t) :
      t.Fits server calls first i (t.callers i).stage := by
    rw [undisturbed.caller]
    exact (sound.fits i).undisturbed undisturbed
  cases a with
  | advance j failure =>
    refine ⟨replayed_advance sound failure, fun i => ?_⟩
    by_cases own : i = j
    · rw [own]
      exact fits_advance (guarded j) sound failure
    · exact others (Undisturbed.advance own failure)
  | command c =>
    refine ⟨?_, fun i => others ((Undisturbed.run c).trans (Undisturbed.event fun same => ?_))⟩
    · show (server.run c s.store).2 = replay server calls (s.history ++ [.command c]) first
      rw [replay_concat, ← sound.replayed]
      rfl
    · cases same
  | reconnect j =>
    refine ⟨sound.replayed, fun i => ?_⟩
    by_cases own : i = j
    · rw [own]
      have fits := sound.fits j
      show (s.putSession j .fresh).Fits server calls first j (s.callers j).stage
      by_cases ended : ∃ value, (s.callers j).stage = .returned value
      · obtain ⟨value, stage⟩ := ended
        rw [stage] at fits ⊢
        exact fits
      · exact fits.reopened announced rfl fun value stage => ended ⟨value, stage⟩
    · exact others (Undisturbed.own own (Own.putSession s j .fresh))

end Runs

/-! ## The order of events -/

section Order

variable [DecidableEq K] {server : Server K V C R} {calls : Nat → Call K C R A} {first : K → V}
  {s : World K V C R A}

/-- A step adds the command of another client, or none. -/
theorem commands_step (s : World K V C R A) (a : Action C) :
    (s.step server calls a).history.filterMap Event.command? =
      s.history.filterMap Event.command? ++ a.command?.toList := by
  cases a with
  | command c =>
    show (s.history ++ [Event.command c]).filterMap Event.command? = _
    rw [List.filterMap_append]
    rfl
  | reconnect i => exact (List.append_nil _).symm
  | advance i failure =>
    have transaction : (s.history ++ [Event.transaction i]).filterMap Event.command? =
        s.history.filterMap Event.command? ++ [] := List.filterMap_append
    show (s.advance server calls i failure).history.filterMap Event.command? = _ ++ []
    cases running : (s.callers i).stage.ended with
    | true => rw [advance_ended running, List.append_nil]
    | false =>
      cases (effect_advance running : Effect server i failure s (s.advance server calls i failure)) with
      | quiet quiet => rw [quiet.history, List.append_nil]
      | ran c next stage immediate quiet =>
        rw [quiet.history, List.append_nil]
        rfl
      | took value u stage taken own => rw [own.history, taken.history, transaction]

/-- A run adds the commands of other clients in their order. -/
theorem commands_run (s : World K V C R A) (actions : List (Action C)) :
    (actions.foldl (World.step server calls) s).history.filterMap Event.command? =
      s.history.filterMap Event.command? ++ actions.filterMap Action.command? := by
  induction actions generalizing s with
  | nil => exact (List.append_nil _).symm
  | cons a actions ih =>
    rw [List.foldl_cons, ih, commands_step, List.append_assoc]
    congr 1
    cases called : a.command? with
    | none => rw [List.filterMap_cons_none called]; rfl
    | some c => rw [List.filterMap_cons_some called]; rfl

end Order

section Scenario

/-- A server that keeps numbers under keys: a command reads one, or stores a value. -/
def numbers : Server Nat Nat (Nat × Option Nat) Nat where
  run c s := c.2.elim (.ok (s c.1), s) fun value => (.ok value, Function.update s c.1 value)
  reads c := [c.1]
  touches c _ := c.2.elim [] fun _ => [c.1]
  refused _ := none
  reply_eq c s t same := by
    obtain ⟨key, value⟩ := c
    cases value with
    | none => exact congrArg Except.ok (same key (List.mem_singleton.mpr rfl))
    | some value => rfl
  untouched c s k other := by
    obtain ⟨key, value⟩ := c
    cases value with
    | none => rfl
    | some value => exact Function.update_of_ne (fun same => other (List.mem_singleton.mpr same)) _ _
  refused_run _ _ _ refused := by cases refused
  refused_error _ _ refused := by cases refused

/-- The number in a reply. -/
def numberOf : Option (Except Exc Nat) → Nat
  | some (.ok value) => value
  | _ => 0

/-- One more. -/
def increment (key : Nat) : Call Nat (Nat × Option Nat) Nat Unit where
  func := .command (key, none) fun reply => .multi fun _ =>
    .command (key, some (numberOf reply + 1)) fun _ => .returns ()
  watches := [key]
  valueFromCallable := false

/-- Two callers read the same number, and the second one has to begin again. -/
def contended : List (Action (Nat × Option Nat)) :=
  let turn (i : Nat) : Action (Nat × Option Nat) := .advance i none
  [turn 0, turn 1, turn 0, turn 1, turn 0, turn 1, turn 0, turn 1, turn 0, turn 0, turn 1, turn 1] ++
    List.replicate 6 (turn 1)

end Scenario

/-! ## How often a transaction takes effect -/

section Often

/-- The event is a transaction of this caller. -/
def Event.isTransaction (i : Nat) : Event C → Bool
  | .command _ => false
  | .transaction j => j == i

/-- How often a transaction has taken effect. -/
def executions (i : Nat) (history : List (Event C)) : Nat := history.countP (Event.isTransaction i)

/-- An exchange of this caller fails after the server has run what was sent. -/
def Action.loses (i : Nat) : Action C → Bool
  | .advance j (some failure) => j == i && failure.executed
  | _ => false

/-- What was executed, by the answers that were lost; the last time may have been answered. -/
structure Accounted (s : World K V C R A) (i : Nat) (losses : Nat) : Prop where
  bounded : executions i s.history ≤ losses + (s.callers i).stage.ended.toNat
  returned : ∀ value, (s.callers i).stage = .returned value → 1 ≤ executions i s.history

/-- Once more. -/
theorem executions_concat (i : Nat) (history : List (Event C)) :
    executions i (history ++ [.transaction i]) = executions i history + 1 := by
  unfold executions
  rw [List.countP_append]
  simp [Event.isTransaction]

/-- Events of others do not count. -/
theorem executions_append {i : Nat} {events : List (Event C)} (others : .transaction i ∉ events)
    (history : List (Event C)) : executions i (history ++ events) = executions i history := by
  have none : events.countP (Event.isTransaction i) = 0 := by
    rw [List.countP_eq_zero]
    intro event member own
    cases event with
    | command c => cases own
    | transaction j =>
      rw [beq_iff_eq.mp own] at member
      exact others member
  unfold executions
  rw [List.countP_append, none, Nat.add_zero]

variable {s t : World K V C R A} {i losses : Nat}

/-- Others do not matter. -/
theorem Accounted.undisturbed (accounted : Accounted s i losses) (undisturbed : Undisturbed i s t) :
    Accounted t i losses := by
  obtain ⟨events, grown, others⟩ := undisturbed.events
  have same : executions i t.history = executions i s.history := by
    rw [grown]
    exact executions_append others s.history
  constructor
  · rw [same, undisturbed.caller]
    exact accounted.bounded
  · rw [same, undisturbed.caller]
    exact accounted.returned

/-- More answers are lost. -/
theorem Accounted.mono (accounted : Accounted s i losses) {more : Nat} (grows : losses ≤ more) :
    Accounted s i more :=
  ⟨accounted.bounded.trans (Nat.add_le_add_right grows _), accounted.returned⟩

/-- As long as a transaction goes on, it was executed for lost answers only. -/
theorem Accounted.ongoing (accounted : Accounted s i losses) (running : (s.callers i).stage.ended = false) :
    executions i s.history ≤ losses := by
  have bounded := accounted.bounded
  rw [running] at bounded
  exact bounded

/-- Nothing takes effect. -/
theorem Accounted.quiet (accounted : Accounted s i losses) (running : (s.callers i).stage.ended = false)
    (history : t.history = s.history) (unreturned : ∀ value, (t.callers i).stage ≠ .returned value) :
    Accounted t i losses := by
  refine ⟨?_, fun value returned => absurd returned (unreturned value)⟩
  rw [history]
  exact (accounted.ongoing running).trans (Nat.le_add_right _ _)

/-- The transaction takes effect. -/
theorem Accounted.took (accounted : Accounted s i losses) (running : (s.callers i).stage.ended = false)
    (history : t.history = s.history ++ [.transaction i]) {more : Nat}
    (counted : losses + 1 ≤ more + (t.callers i).stage.ended.toNat) : Accounted t i more := by
  have once : executions i t.history = executions i s.history + 1 := by
    rw [history, executions_concat]
  refine ⟨?_, fun value _ => ?_⟩
  · rw [once]
    exact (Nat.succ_le_succ (accounted.ongoing running)).trans counted
  · rw [once]
    exact Nat.le_add_left 1 _

variable [DecidableEq K] {server : Server K V C R} {calls : Nat → Call K C R A} {first : K → V}

/-- Every step keeps the account. -/
theorem accounted_step (accounted : Accounted s i losses) (a : Action C) :
    Accounted (s.step server calls a) i (losses + if a.loses i then 1 else 0) := by
  have others (undisturbed : Undisturbed i s (s.step server calls a)) :
      Accounted (s.step server calls a) i (losses + if a.loses i then 1 else 0) :=
    (accounted.undisturbed undisturbed).mono (Nat.le_add_right _ _)
  cases a with
  | advance j failure =>
    by_cases own : i = j
    · rw [← own]
      show Accounted (s.advance server calls i failure) i _
      cases running : (s.callers i).stage.ended with
      | true =>
        rw [advance_ended running]
        exact accounted.mono (Nat.le_add_right _ _)
      | false =>
        cases (effect_advance running : Effect server i failure s (s.advance server calls i failure)) with
        | quiet quiet =>
          exact (accounted.quiet running quiet.history quiet.unreturned).mono (Nat.le_add_right _ _)
        | ran c next stage immediate quiet =>
          exact (accounted.quiet running quiet.history quiet.unreturned).mono (Nat.le_add_right _ _)
        | took value u stage taken own ends =>
          apply accounted.took running (own.history.trans taken.history)
          obtain ended | ⟨cause, failed, executed⟩ := ends
          · rw [ended]
            exact Nat.add_le_add_right (Nat.le_add_right _ _) 1
          · have loses : (Action.advance i failure : Action C).loses i = true := by
              rw [failed]
              show (i == i && cause.executed) = true
              rw [executed, beq_self_eq_true]
              rfl
            rw [loses, if_pos rfl]
            exact Nat.le_add_right _ _
    · exact others (Undisturbed.advance own failure)
  | command c =>
    refine others ((Undisturbed.run c).trans (Undisturbed.event fun same => ?_))
    cases same
  | reconnect j => exact ⟨accounted.bounded, accounted.returned⟩

variable (server calls) in
/-- A run keeps the account. -/
theorem accounted_run (accounted : Accounted s i losses) (actions : List (Action C)) :
    Accounted (actions.foldl (World.step server calls) s) i (losses + actions.countP (Action.loses i)) := by
  induction actions generalizing s losses with
  | nil => exact accounted
  | cons a actions ih =>
    rw [List.foldl_cons, List.countP_cons, Nat.add_comm (actions.countP _), ← Nat.add_assoc]
    exact ih (accounted_step accounted a)

end Often

end Transaction

end RedisPy

import RedisPy.Client.Transaction

/-!
# What a step of a transaction can do

A caller changes its own state and session only; the server may run one command for it, or all that it
has queued. Everything that is known about a step from outside follows from this.
-/

namespace RedisPy

namespace Transaction

variable {K V C R A : Type} {s t u : World K V C R A} {i : Nat}

/-- The caller that was changed. -/
theorem World.callers_put (s : World K V C R A) (i : Nat) (pipe : Pipe C) (stage : Stage K C R A) :
    (s.put i pipe stage).callers i = { pipe, stage } :=
  Function.update_self i _ s.callers

/-- The session that was changed. -/
theorem World.sessions_putSession (s : World K V C R A) (i : Nat) (session : Session K) :
    (s.putSession i session).sessions i = session :=
  Function.update_self i _ s.sessions

/-- The transaction is over. -/
def Stage.ended : Stage K C R A → Bool
  | .returned _ => true
  | .raised _ => true
  | _ => false

/-! ## Steps that have no effect -/

/-- Only one caller and its session change. -/
structure Own (i : Nat) (s t : World K V C R A) : Prop where
  store : t.store = s.store
  history : t.history = s.history
  callers : ∀ j, j ≠ i → t.callers j = s.callers j
  sessions : ∀ j, j ≠ i → t.sessions j = s.sessions j

/-- And its transaction has not returned. -/
structure Quiet (i : Nat) (s t : World K V C R A) : Prop extends Own i s t where
  unreturned : ∀ value, (t.callers i).stage ≠ .returned value

/-- The session of the caller changes. -/
theorem Own.putSession (s : World K V C R A) (i : Nat) (session : Session K) :
    Own i s (s.putSession i session) :=
  ⟨rfl, rfl, fun _ _ => rfl, fun _ other => Function.update_of_ne other _ _⟩

/-- The state of the caller changes. -/
theorem Own.put (s : World K V C R A) (i : Nat) (pipe : Pipe C) (stage : Stage K C R A) :
    Own i s (s.put i pipe stage) :=
  ⟨rfl, rfl, fun _ other => Function.update_of_ne other _ _, fun _ _ => rfl⟩

/-- One change after another. -/
theorem Own.trans (before : Own i s t) (after : Own i t u) : Own i s u where
  store := after.store.trans before.store
  history := after.history.trans before.history
  callers j other := (after.callers j other).trans (before.callers j other)
  sessions j other := (after.sessions j other).trans (before.sessions j other)

namespace Quiet

/-- After a change of its own. -/
theorem after (quiet : Quiet i t u) (own : Own i s t) : Quiet i s u :=
  ⟨own.trans quiet.toOwn, quiet.unreturned⟩

/-- The transaction goes on, or was left by an exception. -/
theorem put (s : World K V C R A) (i : Nat) (pipe : Pipe C) {stage : Stage K C R A}
    (unreturned : ∀ value, stage ≠ .returned value) : Quiet i s (s.put i pipe stage) := by
  refine ⟨Own.put s i pipe stage, ?_⟩
  rw [World.callers_put]
  exact unreturned

/-- Leaving the loop, or beginning it again. -/
theorem leave (s : World K V C R A) (i : Nat) (pipe : Pipe C) (e : Exc) : Quiet i s (s.leave i pipe e) := by
  unfold World.leave
  split_ifs
  · exact put s i pipe nofun
  · exact (put (s.putSession i .fresh) i .clean fun value same => by cases same).after (Own.putSession s i .fresh)

/-- An exchange fails. -/
theorem fail (unreturned : ∀ value, (s.callers i).stage ≠ .returned value) (failure : Failure) :
    Quiet i s (s.fail i failure) := by
  have lost := Own.putSession s i .fresh
  unfold World.fail
  dsimp only
  split_ifs
  · exact (leave _ i _ _).after lost
  · exact ⟨lost, unreturned⟩
  · exact (leave _ i _ _).after lost

/-- Watching keys. -/
theorem watch (unreturned : ∀ value, (s.callers i).stage ≠ .returned value) (names : List K)
    (next : Option Exc → Callable K C R A) (failure : Option Failure) :
    Quiet i s (s.watch i names next failure) := by
  unfold World.watch
  dsimp only
  split_ifs
  · exact put s i _ nofun
  · cases failure with
    | some failure => exact fail unreturned failure
    | none => exact (put (s.putSession i _) i _ fun value same => by cases same).after (Own.putSession s i _)

end Quiet

/-! ## The end of a transaction -/

/-- An error reply is no `WatchError`. -/
theorem watchError_of_responseError (e : Exc) (reply : e.isinstance .responseError = true) :
    e.isinstance .watchError = false := by
  unfold Exc.isinstance at reply ⊢
  generalize e.cls = cls at reply
  induction cls with
  | user name base ih =>
    have inner : base.issubclass .responseError = true := by
      simpa [ExcClass.issubclass, ExcClass.ancestors] using reply
    simpa [ExcClass.issubclass, ExcClass.ancestors] using ih inner
  | _ => revert reply; decide

/-- The error that `raise_first_error` raises is an error reply. -/
theorem responseError_firstError {replies : Replies R} {e : Exc} (first : firstError replies = some e) :
    e.isinstance .responseError = true := by
  obtain ⟨reply, -, found⟩ := List.exists_of_findSome?_eq_some first
  cases reply with
  | ok value => cases found
  | error other =>
    dsimp only at found
    split_ifs at found with error
    cases found
    exact error

/-- A transaction that took effect is over. -/
theorem ended_conclude (s : World K V C R A) (i : Nat) (call : Call K C R A) (value : A) (replies : Replies R) :
    let t := s.conclude i (call.outcome value replies)
    Own i s t ∧ (t.callers i).stage.ended = true := by
  dsimp only
  unfold Call.outcome
  cases first : firstError replies with
  | none =>
    refine ⟨(Own.putSession s i .fresh).trans (Own.put _ i _ _), ?_⟩
    show (((s.putSession i .fresh).put i .clean _).callers i).stage.ended = true
    rw [World.callers_put]
    rfl
  | some e =>
    refine ⟨(Quiet.leave s i .clean e).toOwn, ?_⟩
    have other := watchError_of_responseError e (responseError_firstError first)
    show ((s.leave i .clean e).callers i).stage.ended = true
    unfold World.leave
    rw [other, if_neg Bool.false_ne_true, World.callers_put]
    rfl

/-! ## Steps -/

variable [DecidableEq K]

/-- A transaction takes effect: nothing was queued, or the server runs what was. -/
inductive Taken (server : Server K V C R) (i : Nat) (s : World K V C R A) : World K V C R A → Prop where
  | idle (idle : (s.callers i).pipe.idle = true) :
    Taken server i s { s with history := s.history ++ [Event.transaction i] }
  | ran (busy : ¬(s.callers i).pipe.idle = true) (accepted : s.accepted server i) :
    Taken server i s (s.runTransaction server i)

/-- The transaction is added to the history. -/
theorem Taken.history {server : Server K V C R} (taken : Taken server i s t) :
    t.history = s.history ++ [.transaction i] := by
  cases taken <;> rfl

/-- What a step of a caller can do. -/
inductive Effect (server : Server K V C R) (i : Nat) (failure : Option Failure) (s t : World K V C R A) :
    Prop where
  | quiet (quiet : Quiet i s t)
  | ran (c : C) (next : Option (Except Exc R) → Callable K C R A)
      (stage : (s.callers i).stage = .calls (.command c next))
      (immediate : (s.callers i).pipe.immediate = true) (quiet : Quiet i (s.run server c) t)
  | took (value : A) (u : World K V C R A) (stage : (s.callers i).stage = .executes value)
      (taken : Taken server i s u) (own : Own i u t)
      (ends : (t.callers i).stage.ended = true ∨ ∃ cause, failure = some cause ∧ cause.executed = true)

variable {server : Server K V C R} {calls : Nat → Call K C R A} {failure : Option Failure}

/-- `execute`. -/
theorem effect_execute {value : A} (stage : (s.callers i).stage = .executes value) :
    Effect server i failure s (s.execute server calls i value failure) := by
  have unreturned : ∀ other, (s.callers i).stage ≠ .returned other := by
    rw [stage]
    exact nofun
  have lost := Own.putSession s i .fresh
  unfold World.execute
  dsimp only
  by_cases idle : (s.callers i).pipe.idle
  · rw [if_pos idle]
    obtain ⟨own, ended⟩ := ended_conclude { s with history := s.history ++ [Event.transaction i] } i (calls i) value []
    exact .took value _ stage (.idle idle) own (.inl ended)
  · rw [if_neg idle]
    cases failure with
    | some cause =>
      dsimp only
      split_ifs with both
      · have fails := Quiet.fail (s := s.runTransaction server i) (i := i) unreturned cause
        exact .took value _ stage (.ran idle both.2) fails.toOwn (.inr ⟨cause, rfl, both.1⟩)
      · exact .quiet (Quiet.fail unreturned cause)
    | none =>
      dsimp only
      cases queued : (s.callers i).pipe.commandStack.findSome? server.refused with
      | some e => exact .quiet ((Quiet.leave _ i _ _).after lost)
      | none =>
        dsimp only
        split_ifs with dirty
        · exact .quiet ((Quiet.leave _ i _ _).after lost)
        · obtain ⟨own, ended⟩ := ended_conclude (s.runTransaction server i) i (calls i) value
            (server.runAll (s.callers i).pipe.commandStack s.store).1
          exact .took value _ stage (.ran idle ⟨queued, Bool.eq_false_iff.mpr dirty⟩) own (.inl ended)

/-- A step of a caller whose transaction is not over. -/
theorem effect_advance (running : (s.callers i).stage.ended = false) :
    Effect server i failure s (s.advance server calls i failure) := by
  have unreturned : ∀ value, (s.callers i).stage ≠ .returned value := by
    intro value stage
    rw [stage] at running
    cases running
  unfold World.advance
  dsimp only
  cases stage : (s.callers i).stage with
  | begins =>
    dsimp only
    split_ifs
    · exact .quiet (Quiet.put s i _ nofun)
    · exact .quiet (Quiet.watch unreturned _ _ _)
  | calls rest =>
    cases rest with
    | watch names next => exact .quiet (Quiet.watch unreturned names next failure)
    | multi next => exact .quiet (Quiet.put s i _ nofun)
    | command c next =>
      dsimp only
      unfold World.executeCommand
      dsimp only
      by_cases immediate : (s.callers i).pipe.immediate
      · rw [if_pos immediate]
        cases failure with
        | some cause =>
          dsimp only
          split_ifs
          · exact .ran c next stage immediate (Quiet.fail (s := s.run server c) unreturned cause)
          · exact .quiet (Quiet.fail unreturned cause)
        | none => exact .ran c next stage immediate (Quiet.put (s.run server c) i _ nofun)
      · rw [if_neg immediate]
        exact .quiet (Quiet.put s i _ nofun)
    | returns value => exact .quiet (Quiet.put s i _ nofun)
    | raises e => exact .quiet (Quiet.leave s i _ e)
  | executes value => exact effect_execute stage
  | returned value =>
    rw [stage] at running
    cases running
  | raised e =>
    rw [stage] at running
    cases running

/-- A transaction that is over stays as it is. -/
theorem advance_ended (ended : (s.callers i).stage.ended = true) : s.advance server calls i failure = s := by
  unfold World.advance
  dsimp only
  cases stage : (s.callers i).stage with
  | returned value => rfl
  | raised e => rfl
  | begins =>
    rw [stage] at ended
    cases ended
  | calls rest =>
    rw [stage] at ended
    cases ended
  | executes value =>
    rw [stage] at ended
    cases ended

end Transaction

end RedisPy

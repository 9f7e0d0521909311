import RedisPy.Lock.Lock

/-!
# Releasing the lock again

`release` of `Lock`, blocking or asyncio, when the call of its script may fail on the way to the server
or on the way back, as the retries of the client leave it.
-/

namespace RedisPy

variable {τ : Type} [DecidableEq τ]

/-- How the call of a script ends. -/
inductive ScriptCall where
  /-- The script ran and its answer arrived. -/
  | answered
  /-- The call raised; the script may have run all the same. -/
  | failed (ran : Bool) (e : Exc)

namespace Lock

/-- `do_release`. -/
def doRelease (expectedToken : τ) (key : Key τ) : ScriptCall → LockOutcome × Key τ
  | .answered =>
    let answer := key.luaRelease expectedToken
    if answer.1 = 0 then
      (.error .lockNotOwnedError "Cannot release a lock that's no longer owned", answer.2)
    else (.returned none, answer.2)
  | .failed ran e => (.raised e, if ran then (key.luaRelease expectedToken).2 else key)

/-- `release`. -/
def release (lock : Lock τ) (key : Key τ) (script : ScriptCall) : LockOutcome × Lock τ × Key τ :=
  match lock.token with
  | none =>
    (.error .lockError "Cannot release a lock that's not owned or is already unlocked.", lock, key)
  | some expectedToken =>
    let lock := { lock with token := none }
    let ran := doRelease expectedToken key script
    (ran.1, lock, ran.2)

/-- A release can be repeated unless it is over: after another error than `LockNotOwnedError` the token is
still there, and a later release deletes the key if it holds that token then. -/
structure Repeatable (lock : Lock τ) (ran : LockOutcome × Lock τ × Key τ) : Prop where
  /-- Another error leaves the token. -/
  kept : ∀ e, ran.1 = .raised e → e.isinstance .lockNotOwnedError = false → ran.2.1.token = lock.token
  /-- The token still serves. -/
  again : ∀ e, ran.1 = .raised e → e.isinstance .lockNotOwnedError = false →
    ∀ token later, lock.token = some token → Key.Holds later token →
      (ran.2.1.release later .answered).1 = .returned none ∧ (ran.2.1.release later .answered).2.2 = none
  /-- Otherwise there is no token left. -/
  cleared : (∀ e, ran.1 = .raised e → e.isinstance .lockNotOwnedError = true) → ran.2.1.token = none

/-- A lock with no token cannot be released, whatever the key holds. -/
theorem release_unowned {lock : Lock τ} (unowned : lock.token = none) (key : Key τ) (script : ScriptCall) :
    lock.release key script = (.error .lockError
      "Cannot release a lock that's not owned or is already unlocked.", lock, key) := by
  simp only [release, unowned]

/-- A lock with a token has none afterwards, and ends as its script call does. -/
theorem release_owned {lock : Lock τ} {token : τ} (own : lock.token = some token) (key : Key τ)
    (script : ScriptCall) :
    lock.release key script = ((doRelease token key script).1, { lock with token := none },
      (doRelease token key script).2) := by
  simp only [release, own]

/-- An answered script call returns or raises `LockNotOwnedError`. -/
theorem doRelease_answered (token : τ) (key : Key τ) {e : Exc}
    (raised : (doRelease token key .answered).1 = .raised e) : e.isinstance .lockNotOwnedError = true := by
  unfold doRelease at raised
  dsimp only at raised
  split at raised
  · cases raised
    rfl
  · cases raised

/-- A release can be repeated unless it is over, exactly if the lock has no token or its script call is
answered; a script call that itself raises `LockNotOwnedError` would do as well. -/
theorem release_repeatable_iff (lock : Lock τ) (key : Key τ) (script : ScriptCall) :
    lock.Repeatable (lock.release key script) ↔
      lock.token = none ∨ ∀ ran e, script = .failed ran e → e.isinstance .lockNotOwnedError = true := by
  cases own : lock.token with
  | none =>
    rw [release_unowned own]
    refine iff_of_true ⟨fun _ _ _ => rfl, ?_, fun _ => own⟩ (.inl rfl)
    intro _ _ _ token _ mine
    rw [own] at mine
    cases mine
  | some token =>
    rw [release_owned own]
    have ended (ends : ∀ e, (doRelease token key script).1 = .raised e →
        e.isinstance .lockNotOwnedError = true) :
        lock.Repeatable ((doRelease token key script).1, { lock with token := none },
          (doRelease token key script).2) := by
      have never {e : Exc} (raised : (doRelease token key script).1 = .raised e)
          (other : e.isinstance .lockNotOwnedError = false) : False := by
        rw [ends e raised] at other
        cases other
      exact ⟨fun _ raised other => (never raised other).elim,
        fun _ raised other => (never raised other).elim, fun _ => rfl⟩
    cases script with
    | answered =>
      refine iff_of_true (ended fun _ raised => doRelease_answered token key raised) (.inr ?_)
      intro _ _ failed
      cases failed
    | failed ran e =>
      constructor
      · intro repeatable
        refine .inr fun _ _ same => ?_
        cases same
        -- the token is gone while the error says that it should not be
        cases is : e.isinstance .lockNotOwnedError with
        | true => rfl
        | false =>
          have kept : none = lock.token := repeatable.kept e rfl is
          rw [own] at kept
          cases kept
      · rintro (unowned | ends)
        · cases unowned
        · refine ended fun _ raised => ?_
          cases raised
          exact ends ran e rfl

/-- A connection that breaks before the script runs: the key is still held, the token is gone, and the
next `release` raises although the server is back. -/
theorem release_cannot_be_repeated :
    let lock : Lock Nat :=
      { timeout := none, sleep := 100, blocking := true, blockingTimeout := none, token := some 7 }
    let key : Key Nat := some { value := 7, lifetime := none }
    let first := lock.release key (.failed false { cls := .connectionError })
    first.1 = .raised { cls := .connectionError } ∧ first.2.2 = key ∧ first.2.1.token = none ∧
      (first.2.1.release first.2.2 .answered).1 = .error .lockError
        "Cannot release a lock that's not owned or is already unlocked." ∧
      ¬lock.Repeatable first := by
  intro lock key first
  refine ⟨rfl, rfl, rfl, rfl, fun repeatable => ?_⟩
  have kept : none = some 7 := repeatable.kept { cls := .connectionError } rfl rfl
  cases kept

/-- A failed `release` is the last: every later one raises `LockError` and leaves the key alone. -/
theorem release_after_failure {lock : Lock τ} {token : τ} (own : lock.token = some token) (key : Key τ)
    (script next : ScriptCall) (later : Key τ) :
    ((lock.release key script).2.1.release later next).1 = .error .lockError
        "Cannot release a lock that's not owned or is already unlocked." ∧
      ((lock.release key script).2.1.release later next).2.2 = later := by
  rw [release_owned own, release_unowned rfl]
  exact ⟨rfl, rfl⟩

/-- An answered `release` is the call of the interleaved system with no step in between. -/
theorem release_answered (now : Int) (client : LockClient τ) (key : Key τ) {token : τ}
    (own : client.lock.token = some token) :
    (client.call now .release).2 = none ∧
      (client.call now .release).1.resume now key =
        ((client.lock.release key .answered).2.2,
          { lock := (client.lock.release key .answered).2.1, phase := .idle },
          some (client.lock.release key .answered).1) := by
  obtain ⟨lock, phase⟩ := client
  dsimp only at own ⊢
  rw [release_owned own]
  simp only [LockClient.call, LockClient.resume, own, true_and, LockClient.answered, doRelease]
  by_cases refused : (Key.luaRelease token key).1 = 0
  · rw [if_pos refused, if_pos refused]
    rfl
  · rw [if_neg refused, if_neg refused]
    rfl

end Lock

end RedisPy

import RedisPy.Lock.Lock

/-!
# Prolonging the lock

One call of `extend` or `reacquire` of `Lock`, blocking or asyncio, against a server whose `PEXPIRE`
takes only times in its range and whose Lua adds numbers as it can. The times are in milliseconds, as
the client sends them.
-/

namespace RedisPy

variable {τ : Type} [DecidableEq τ]

/-- What the lock's name stores. -/
inductive StoredKey (τ : Type) where
  /-- A string, or nothing. -/
  | string (key : Key τ)
  /-- A value of another type. -/
  | other

/-- `redis.call('get', KEYS[1])`. -/
def StoredKey.get : StoredKey τ → Except Exc (Key τ)
  | .string key => .ok key
  | .other => .error { cls := .responseError }

/-- What a server makes of the times that the scripts give it. -/
structure ExpiryServer where
  /-- `ARGV[2] + expiration`, as `pexpire` is given it; `none` if its text is not an integer. -/
  sum : Int → Int → Option Int
  /-- The time is in the range of `PEXPIRE`. -/
  accepts : Int → Bool

/-- A server that adds exactly and takes every time. -/
def ExpiryServer.unlimited : ExpiryServer where
  sum millis expiration := some (millis + expiration)
  accepts _ := true

/-- A call that prolongs the lock. -/
inductive ProlongCall where
  | extend (additionalTime : Seconds) (replaceTtl : Bool)
  | reacquire

/-- The call as a request. -/
def ProlongCall.request : ProlongCall → Request τ
  | .extend additionalTime replaceTtl => .extend additionalTime replaceTtl
  | .reacquire => .reacquire

namespace ExpiryServer

variable (server : ExpiryServer)

/-- `redis.call('pexpire', KEYS[1], millis)`, which ends the script if the time is refused. -/
def pexpire (millis : Option Int) (key : Key τ) : Except Exc (Int × Key τ) :=
  match millis with
  | none => .error { cls := .responseError }
  | some millis => if server.accepts millis then .ok (1, key.pexpire millis) else .error { cls := .responseError }

/-- `LUA_EXTEND_SCRIPT` after `get`. -/
def luaExtend (token : τ) (millis : Int) (replace : Bool) (key : Key τ) : Except Exc (Int × Key τ) :=
  if key.Holds token then
    let expiration := key.pttl
    if expiration < 0 then .ok (0, key)
    else server.pexpire (if replace then some millis else server.sum millis expiration) key
  else .ok (0, key)

/-- `LUA_REACQUIRE_SCRIPT` after `get`. -/
def luaReacquire (token : τ) (millis : Int) (key : Key τ) : Except Exc (Int × Key τ) :=
  if key.Holds token then server.pexpire (some millis) key else .ok (0, key)

/-- What a script's answer makes of the call, with the key afterwards; a script that ends in an error
leaves the key alone. -/
def answered (stored : StoredKey τ) (message : String) : Except Exc (Int × Key τ) → LockOutcome × StoredKey τ
  | .error e => (.raised e, stored)
  | .ok (answer, after) =>
    if answer = 0 then (.error .lockNotOwnedError message, .string after)
    else (.returned (some true), .string after)

/-- `extend` and `reacquire`. -/
def prolong (lock : Lock τ) (stored : StoredKey τ) : ProlongCall → LockOutcome × StoredKey τ
  | .extend additionalTime replaceTtl =>
    match lock.token, lock.timeout with
    | none, _ => (.error .lockError "Cannot extend an unlocked lock", stored)
    | some _, none => (.error .lockError "Cannot extend a lock with no timeout", stored)
    | some token, some _ =>
      answered stored "Cannot extend a lock that's no longer owned"
        (stored.get.bind (server.luaExtend token additionalTime.millis replaceTtl))
  | .reacquire =>
    match lock.token, lock.timeout with
    | none, _ => (.error .lockError "Cannot reacquire an unlocked lock", stored)
    | some _, none => (.error .lockError "Cannot reacquire a lock with no timeout", stored)
    | some token, some timeout =>
      answered stored "Cannot reacquire a lock that's no longer owned"
        (stored.get.bind (server.luaReacquire token timeout.millis))

end ExpiryServer

/-- The time to live that a call asks for: what it names, or what is left and what it names. -/
def ProlongCall.lifetime (lock : Lock τ) (key : Key τ) : ProlongCall → Option Int
  | .extend additionalTime true => some additionalTime.millis
  | .extend additionalTime false => (key.bind Entry.lifetime).map (· + additionalTime.millis)
  | .reacquire => lock.timeout.map Seconds.millis

/-- The lock is kept where the call returns `True`, with the positive time to live it asked for, and the
key is as it was where `LockError` is raised, which is all that can happen. -/
structure KeepsLock (lock : Lock τ) (stored : StoredKey τ) (call : ProlongCall)
    (ran : LockOutcome × StoredKey τ) : Prop where
  /-- The call returns. -/
  kept : ran.1 = .returned (some true) → ∃ key token millis, stored = .string key ∧ lock.token = some token ∧
    call.lifetime lock key = some millis ∧ 0 < millis ∧
    ran.2 = .string (some { value := token, lifetime := some millis })
  /-- The call raises. -/
  refused : ran.1 ≠ .returned (some true) →
    ran.2 = stored ∧ ∃ e, ran.1 = .raised e ∧ e.isinstance .lockError = true

namespace ExpiryServer

variable (server : ExpiryServer)

/-- The script would come to `PEXPIRE`: the key stores the token, and it has a time to live for
`extend`. -/
def Reaches (lock : Lock τ) (key : Key τ) (token : τ) (call : ProlongCall) : Prop :=
  lock.token = some token ∧ lock.timeout ≠ none ∧ key.Holds token ∧
    match call with
    | .extend _ _ => 0 ≤ key.pttl
    | .reacquire => True

/-- The time that a call asks for is positive, in the range of `PEXPIRE`, and added exactly if it is
added. -/
def Grants (lock : Lock τ) (key : Key τ) (call : ProlongCall) : Prop :=
  ∃ millis, call.lifetime lock key = some millis ∧ 0 < millis ∧ server.accepts millis = true ∧
    match call with
    | .extend additionalTime false => server.sum additionalTime.millis key.pttl = some millis
    | _ => True

omit [DecidableEq τ] in
omit [DecidableEq τ] in
/-- Another error than `LockError` is not what a call may end with. -/
theorem not_keepsLock_raised {lock : Lock τ} {stored : StoredKey τ} {call : ProlongCall} {e : Exc}
    (other : e.isinstance .lockError = false) : ¬KeepsLock lock stored call (.raised e, stored) := by
  intro keeps
  obtain ⟨-, raised, same, is⟩ := keeps.refused LockOutcome.noConfusion
  cases same
  rw [other] at is
  cases is

omit [DecidableEq τ] in
/-- Where the script comes to `PEXPIRE`, the lock is kept exactly if the time is the one that was asked
for, positive and in the range. -/
theorem keepsLock_pexpire {lock : Lock τ} {key : Key τ} {call : ProlongCall}
    {token : τ} (own : lock.token = some token) (holds : key.Holds token) (message : String)
    (given : Option Int) :
    KeepsLock lock (.string key) call (answered (.string key) message (server.pexpire given key)) ↔
      ∃ millis, call.lifetime lock key = some millis ∧ 0 < millis ∧ server.accepts millis = true ∧
        given = some millis := by
  cases given with
  | none =>
    refine iff_of_false (not_keepsLock_raised (by decide)) ?_
    rintro ⟨_, _, _, _, missing⟩
    cases missing
  | some millis =>
    by_cases accepted : server.accepts millis = true
    · have ran : answered (.string key) message (server.pexpire (some millis) key) =
          (.returned (some true), .string (key.pexpire millis)) := by
        unfold pexpire
        dsimp only
        rw [if_pos accepted]
        rfl
      rw [ran]
      constructor
      · intro keeps
        obtain ⟨_, mine, wanted, ⟨⟩, mineIs, asked, positive, after⟩ := keeps.kept rfl
        injection after with after
        -- the key would be gone otherwise
        have lives : ¬millis ≤ 0 := by
          intro spent
          rw [show key.pexpire millis = none from if_pos spent] at after
          cases after
        obtain ⟨entry, stored, value⟩ := Option.map_eq_some_iff.mp holds
        rw [show key.pexpire millis = _ from if_neg lives, stored] at after
        cases after
        exact ⟨millis, asked, positive, accepted, rfl⟩
      · rintro ⟨wanted, asked, positive, -, same⟩
        cases same
        refine ⟨fun _ => ⟨key, token, millis, rfl, own, asked, positive, congrArg StoredKey.string ?_⟩,
          fun other => absurd rfl other⟩
        obtain ⟨entry, stored, value⟩ := Option.map_eq_some_iff.mp holds
        rw [show key.pexpire millis = _ from if_neg (Int.not_le.mpr positive), stored, ← value]
        rfl
    · have ran : answered (.string key) message (server.pexpire (some millis) key) =
          (.raised { cls := .responseError }, .string key) := by
        unfold pexpire
        dsimp only
        rw [if_neg accepted]
        rfl
      rw [ran]
      refine iff_of_false (not_keepsLock_raised (by decide)) ?_
      rintro ⟨wanted, -, -, is, same⟩
      cases same
      exact accepted is

omit [DecidableEq τ] in
/-- A refused call keeps the key. -/
theorem keepsLock_refused {lock : Lock τ} {stored : StoredKey τ} {call : ProlongCall} {cls : ExcClass}
    (message : String) (is : cls.issubclass .lockError = true) :
    KeepsLock lock stored call (.error cls message, stored) :=
  ⟨LockOutcome.noConfusion, fun _ => ⟨rfl, _, rfl, is⟩⟩

/-- The time that the script gives to `PEXPIRE`. -/
def given (lock : Lock τ) (key : Key τ) : ProlongCall → Option Int
  | .extend additionalTime replaceTtl =>
    if replaceTtl then some additionalTime.millis else server.sum additionalTime.millis key.pttl
  | .reacquire => lock.timeout.map Seconds.millis

omit [DecidableEq τ] in
/-- The time is granted exactly if `PEXPIRE` is given the one that was asked for and takes it. -/
theorem grants_iff (lock : Lock τ) (key : Key τ) (call : ProlongCall) :
    (∃ millis, call.lifetime lock key = some millis ∧ 0 < millis ∧ server.accepts millis = true ∧
        server.given lock key call = some millis) ↔ server.Grants lock key call := by
  refine exists_congr fun millis => and_congr_right fun asked => ?_
  refine and_congr_right fun _ => and_congr_right fun _ => ?_
  match call with
  | .extend _ false => exact Iff.rfl
  | .extend _ true => exact iff_of_true asked trivial
  | .reacquire => exact iff_of_true asked trivial

/-- Where the script comes to `PEXPIRE`, the call is its answer. -/
theorem prolong_of_reaches {lock : Lock τ} {key : Key τ} {token : τ} {call : ProlongCall}
    (reaches : Reaches lock key token call) :
    ∃ message, server.prolong lock (.string key) call =
      answered (.string key) message (server.pexpire (server.given lock key call) key) := by
  obtain ⟨own, limited, holds, lives⟩ := reaches
  obtain ⟨timeout, limit⟩ := Option.ne_none_iff_exists'.mp limited
  cases call with
  | extend additionalTime replaceTtl =>
    refine ⟨"Cannot extend a lock that's no longer owned", ?_⟩
    simp only [prolong, own, limit, StoredKey.get, Except.bind, luaExtend, if_pos holds,
      if_neg (Int.not_lt.mpr lives), given]
  | reacquire =>
    refine ⟨"Cannot reacquire a lock that's no longer owned", ?_⟩
    simp only [prolong, own, limit, StoredKey.get, Except.bind, luaReacquire, if_pos holds, given,
      Option.map_some]

/-- Otherwise `LockError` is raised and the key is left alone. -/
theorem prolong_of_not_reaches {lock : Lock τ} {key : Key τ} {call : ProlongCall}
    (never : ∀ token, ¬Reaches lock key token call) :
    ∃ cls message, cls.issubclass .lockError = true ∧
      server.prolong lock (.string key) call = (LockOutcome.error cls message, .string key) := by
  cases own : lock.token with
  | none =>
    cases call with
    | extend additionalTime replaceTtl =>
      exact ⟨.lockError, "Cannot extend an unlocked lock", by decide, by simp only [prolong, own]⟩
    | reacquire =>
      exact ⟨.lockError, "Cannot reacquire an unlocked lock", by decide, by simp only [prolong, own]⟩
  | some token =>
    cases limit : lock.timeout with
    | none =>
      cases call with
      | extend additionalTime replaceTtl =>
        exact ⟨.lockError, "Cannot extend a lock with no timeout", by decide, by
          simp only [prolong, own, limit]⟩
      | reacquire =>
        exact ⟨.lockError, "Cannot reacquire a lock with no timeout", by decide, by
          simp only [prolong, own, limit]⟩
    | some timeout =>
      have limited : lock.timeout ≠ none := by
        rw [limit]
        exact Option.some_ne_none timeout
      cases call with
      | extend additionalTime replaceTtl =>
        refine ⟨.lockNotOwnedError, "Cannot extend a lock that's no longer owned", by decide, ?_⟩
        have refused : server.luaExtend token additionalTime.millis replaceTtl key = .ok (0, key) := by
          unfold luaExtend
          by_cases holds : key.Holds token
          · have spent : key.pttl < 0 :=
              Int.not_le.mp fun lives => never token ⟨own, limited, holds, lives⟩
            rw [if_pos holds]
            exact if_pos spent
          · rw [if_neg holds]
        simp only [prolong, own, limit, StoredKey.get, Except.bind, refused]
        rfl
      | reacquire =>
        refine ⟨.lockNotOwnedError, "Cannot reacquire a lock that's no longer owned", by decide, ?_⟩
        have missing : ¬key.Holds token := fun holds => never token ⟨own, limited, holds, trivial⟩
        simp only [prolong, own, limit, StoredKey.get, Except.bind, luaReacquire, if_neg missing]
        rfl

/-- A call on a key of another type raises, with `LockError` only if the lock has no token or no
timeout. -/
theorem prolong_other_keepsLock_iff (lock : Lock τ) (call : ProlongCall) :
    KeepsLock lock .other call (server.prolong lock .other call) ↔
      lock.token = none ∨ lock.timeout = none := by
  cases own : lock.token with
  | none =>
    refine iff_of_true ?_ (.inl rfl)
    cases call with
    | extend additionalTime replaceTtl =>
      simp only [prolong, own]
      exact keepsLock_refused _ (by decide)
    | reacquire =>
      simp only [prolong, own]
      exact keepsLock_refused _ (by decide)
  | some token =>
    cases limit : lock.timeout with
    | none =>
      refine iff_of_true ?_ (.inr rfl)
      cases call with
      | extend additionalTime replaceTtl =>
        simp only [prolong, own, limit]
        exact keepsLock_refused _ (by decide)
      | reacquire =>
        simp only [prolong, own, limit]
        exact keepsLock_refused _ (by decide)
    | some timeout =>
      refine iff_of_false ?_ (by simp)
      cases call with
      | extend additionalTime replaceTtl =>
        simp only [prolong, own, limit, StoredKey.get, Except.bind, answered]
        exact not_keepsLock_raised (by decide)
      | reacquire =>
        simp only [prolong, own, limit, StoredKey.get, Except.bind, answered]
        exact not_keepsLock_raised (by decide)

/-- `extend` and `reacquire` keep the lock exactly if the key is no value of another type and the time
that is asked for is granted wherever the script comes to `PEXPIRE`. -/
theorem prolong_keepsLock_iff (lock : Lock τ) (stored : StoredKey τ) (call : ProlongCall) :
    KeepsLock lock stored call (server.prolong lock stored call) ↔
      (stored = .other → lock.token = none ∨ lock.timeout = none) ∧
      ∀ key token, stored = .string key → Reaches lock key token call → server.Grants lock key call := by
  cases stored with
  | other =>
    rw [prolong_other_keepsLock_iff]
    exact ⟨fun unset => ⟨fun _ => unset, fun _ _ same => by cases same⟩, fun both => both.1 rfl⟩
  | string key =>
    by_cases reached : ∃ token, Reaches lock key token call
    · obtain ⟨token, reaches⟩ := reached
      obtain ⟨message, ran⟩ := server.prolong_of_reaches reaches
      rw [ran, keepsLock_pexpire server reaches.1 reaches.2.2.1, grants_iff]
      refine ⟨fun grants => ⟨fun same => (by cases same), ?_⟩,
        fun both => both.2 key token rfl reaches⟩
      rintro _ _ ⟨⟩ _
      exact grants
    · have never : ∀ token, ¬Reaches lock key token call := not_exists.mp reached
      obtain ⟨cls, message, is, ran⟩ := server.prolong_of_not_reaches never
      rw [ran]
      refine iff_of_true (keepsLock_refused message is) ⟨fun same => (by cases same), ?_⟩
      rintro _ token ⟨⟩ reaches
      exact absurd reaches (never token)

/-- A lock with a timeout is extended to no time at all: the key is gone, and `extend` returns `True`. -/
theorem extend_loses_lock :
    let lock : Lock Nat :=
      { timeout := some { truthy := true, millis := 10000 }, sleep := 100, blocking := true,
        blockingTimeout := none, token := some 7 }
    let stored : StoredKey Nat := .string (some { value := 7, lifetime := some 5000 })
    let call : ProlongCall := .extend { truthy := false, millis := 0 } true
    unlimited.prolong lock stored call = (.returned (some true), .string none) ∧
      ¬KeepsLock lock stored call (unlimited.prolong lock stored call) := by
  intro lock stored call
  have lost : unlimited.prolong lock stored call = (.returned (some true), .string none) := rfl
  refine ⟨lost, ?_⟩
  rw [lost]
  intro keeps
  obtain ⟨_, _, _, -, -, -, -, there⟩ := keeps.kept rfl
  cases there

/-! ## The interleaved system -/

theorem luaExtend_unlimited (token : τ) (millis : Int) (replace : Bool) (key : Key τ) :
    unlimited.luaExtend token millis replace key = .ok (Key.luaExtend token millis replace key) := by
  unfold luaExtend Key.luaExtend
  by_cases holds : key.Holds token
  · rw [if_pos holds, if_pos holds]
    dsimp only
    by_cases spent : key.pttl < 0
    · rw [if_pos spent, if_pos spent]
    · rw [if_neg spent, if_neg spent]
      cases replace <;> rfl
  · rw [if_neg holds, if_neg holds]

theorem luaReacquire_unlimited (token : τ) (millis : Int) (key : Key τ) :
    unlimited.luaReacquire token millis key = .ok (Key.luaReacquire token millis key) := by
  unfold luaReacquire Key.luaReacquire
  by_cases holds : key.Holds token
  · rw [if_pos holds, if_pos holds]
    rfl
  · rw [if_neg holds, if_neg holds]

/-- A call whose script is answered is the call of the interleaved system with no step in between, on a
server that adds exactly and takes every time. -/
theorem prolong_unlimited (now : Int) (client : LockClient τ) (key : Key τ) (call : ProlongCall)
    (answers : (client.call now call.request).2 = none) :
    ((client.call now call.request).1.resume now key).2.2 =
        some (unlimited.prolong client.lock (.string key) call).1 ∧
      (unlimited.prolong client.lock (.string key) call).2 =
        .string ((client.call now call.request).1.resume now key).1 := by
  obtain ⟨lock, phase⟩ := client
  have ends (message : String) (answer : Int × Key τ) (called : LockClient τ) :
      (called.answered message (some true) answer).2.2 =
          some (answered (.string key) message (.ok answer)).1 ∧
        (answered (.string key) message (.ok answer)).2 =
          .string (called.answered message (some true) answer).1 := by
    unfold LockClient.answered answered
    dsimp only
    by_cases refused : answer.1 = 0
    · rw [if_pos refused, if_pos refused]
      exact ⟨rfl, rfl⟩
    · rw [if_neg refused, if_neg refused]
      exact ⟨rfl, rfl⟩
  cases call with
  | extend additionalTime replaceTtl =>
    cases own : lock.token with
    | none => simp only [ProlongCall.request, LockClient.call, own, reduceCtorEq] at answers
    | some token =>
      cases limit : lock.timeout with
      | none => simp only [ProlongCall.request, LockClient.call, own, limit, reduceCtorEq] at answers
      | some timeout =>
        simp only [ProlongCall.request, LockClient.call, LockClient.resume, prolong, own, limit,
          StoredKey.get, Except.bind, luaExtend_unlimited]
        exact ends _ _ _
  | reacquire =>
    cases own : lock.token with
    | none => simp only [ProlongCall.request, LockClient.call, own, reduceCtorEq] at answers
    | some token =>
      cases limit : lock.timeout with
      | none => simp only [ProlongCall.request, LockClient.call, own, limit, reduceCtorEq] at answers
      | some timeout =>
        simp only [ProlongCall.request, LockClient.call, LockClient.resume, prolong, own, limit,
          StoredKey.get, Except.bind, luaReacquire_unlimited]
        exact ends _ _ _

end ExpiryServer

end RedisPy

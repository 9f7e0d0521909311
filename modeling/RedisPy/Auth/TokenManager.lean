import Mathlib.Data.Rat.Defs
import Mathlib.Algebra.Order.Field.Rat
import Mathlib.Algebra.Order.Ring.Rat
import Mathlib.Tactic.Linarith
import Mathlib.Tactic.FieldSimp
import RedisPy.Exceptions
import RedisPy.Lib.Runs

/-!
# Renewing tokens

`TokenManager`: one renewal asks the identity provider for a token, hands it to the listener and
schedules the next renewal. The sync and the asyncio loop differ in how a timer starts a renewal
and in whether the timer of the next one is kept for `stop`. All times are in milliseconds on one
clock; the pauses between attempts only let it run.
-/

namespace RedisPy

/-- A `TokenInterface`. -/
structure Token where
  /-- `get_expires_at_ms()`. -/
  expiresAtMs : ℚ
  /-- `get_received_at_ms()`. -/
  receivedAtMs : ℚ
  /-- The expiry is `-1`. -/
  neverExpires : Bool

/-- `is_expired()` when the clock shows `now`. -/
def Token.isExpired (token : Token) (now : ℚ) : Bool :=
  !token.neverExpires && token.expiresAtMs ≤ now

/-- `TokenManagerConfig` and its `RetryPolicy`. -/
structure TokenManagerConfig where
  /-- `expiration_refresh_ratio`. -/
  expirationRefreshRatio : ℚ
  /-- `lower_refresh_bound_millis`. -/
  lowerRefreshBoundMillis : ℚ
  /-- `max_attempts`. -/
  maxAttempts : Nat

/-- What `request_token` does. -/
inductive TokenRequest where
  | token (token : Token)
  | requestTokenErr (e : Exc)
  | raises (e : Exc)

/-- An exception that ends a renewal. -/
inductive RenewalErr where
  | raised (e : Exc)
  /-- `TokenRenewalErr("Requested token is expired")`. -/
  | expired
  /-- `TokenRenewalErr(e)` for an exception of the listener. -/
  | listener (e : Exc)

/-- What one renewal meets. -/
structure RenewalSurroundings where
  /-- What the provider does at each number of retries. -/
  attempts : Nat → TokenRequest
  /-- The clock in `_delay_for_lower_refresh`. -/
  lowerReading : ℚ
  /-- The clock in `_delay_for_ratio_refresh`. -/
  ratioReading : ℚ
  /-- The clock in `is_expired`. -/
  expiryReading : ℚ
  /-- `on_next`, if it is registered, with the exception it raises. -/
  onNext : Option (Option Exc)
  /-- The clock in `call_later`. -/
  scheduledAt : ℚ

/-- What one renewal does. -/
structure Renewed where
  /-- `_retries` afterwards. -/
  retries : Nat
  /-- The token that the listener accepted. -/
  delivered : Option Token
  /-- When the next renewal is due. -/
  next : Option ℚ
  /-- The exception for `on_error`. -/
  error : Option RenewalErr

namespace TokenManager

/-- `acquire_token` with so many attempts left. -/
def acquireFrom (attempts : Nat → TokenRequest) : Nat → Nat → Except Exc Token × Nat
  | 0, retries =>
    match attempts retries with
    | .token token => (.ok token, 0)
    | .requestTokenErr e => (.error e, retries)
    | .raises e => (.error e, retries)
  | left + 1, retries =>
    match attempts retries with
    | .token token => (.ok token, 0)
    | .requestTokenErr _ => acquireFrom attempts left (retries + 1)
    | .raises e => (.error e, retries)

/-- `acquire_token`. -/
def acquireToken (config : TokenManagerConfig) (attempts : Nat → TokenRequest) (retries : Nat) :
    Except Exc Token × Nat :=
  acquireFrom attempts (config.maxAttempts - retries) retries

variable (config : TokenManagerConfig)

/-- `_delay_for_lower_refresh`. -/
def delayForLowerRefresh (token : Token) (now : ℚ) : ℚ :=
  token.expiresAtMs - config.lowerRefreshBoundMillis - now

/-- `refresh_before`. -/
def refreshBefore (token : Token) : ℚ :=
  (token.expiresAtMs - token.receivedAtMs) -
    (token.expiresAtMs - token.receivedAtMs) * config.expirationRefreshRatio

/-- `_delay_for_ratio_refresh`. -/
def delayForRatioRefresh (token : Token) (now : ℚ) : ℚ :=
  token.expiresAtMs - refreshBefore config token - now

/-- `_calculate_renewal_delay`, in seconds. -/
def calculateRenewalDelay (token : Token) (env : RenewalSurroundings) : ℚ :=
  let delay := min (delayForRatioRefresh config token env.ratioReading)
    (delayForLowerRefresh config token env.lowerReading)
  if delay < 0 then 0 else delay / 1000

/-- `_renew_token` and `_renew_token_async` once they have a token. -/
def renewWith (skipInitial : Bool) (env : RenewalSurroundings) (token : Token) (retries : Nat) : Renewed :=
  let delay := calculateRenewalDelay config token env
  if token.isExpired env.expiryReading then ⟨retries, none, none, some .expired⟩
  else
    match env.onNext with
    | none => ⟨retries, none, none, none⟩
    | some answer =>
      let next := if delay ≤ 0 then none else some (env.scheduledAt + delay * 1000)
      if skipInitial then ⟨retries, none, next, none⟩
      else
        match answer with
        | some e => ⟨retries, none, none, some (.listener e)⟩
        | none => ⟨retries, some token, next, none⟩

/-- `_renew_token` and `_renew_token_async`. -/
def renewToken (skipInitial : Bool) (env : RenewalSurroundings) (retries : Nat) : Renewed :=
  match acquireToken config env.attempts retries with
  | (.error e, retries) => ⟨retries, none, none, some (.raised e)⟩
  | (.ok token, retries) => renewWith config skipInitial env token retries

/-! ## The loop -/

/-- The two ways to run. -/
inductive Kind where
  /-- `start`. -/
  | sync
  /-- `start_async`. -/
  | async
deriving DecidableEq

/-- Where the manager keeps the handle of a timer. -/
inductive Handle where
  | initTimer
  | nextTimer
  /-- Nowhere. -/
  | dropped
deriving DecidableEq

/-- Where the chain of renewals is. -/
inductive Phase where
  /-- A timer waits in the loop. -/
  | waiting (due : ℚ) (handle : Handle) (skipInitial : Bool)
  /-- The timer has made a task, which has not begun. -/
  | starting (skipInitial : Bool)
  | running (skipInitial : Bool)
  /-- Nothing is scheduled. -/
  | finished

/-- What happened. -/
inductive Event where
  | started (stopped : Bool)
  | ended (result : Renewed)

/-- A manager and its loop. -/
structure Manager where
  phase : Phase
  /-- `_retries`. -/
  retries : Nat
  /-- `stop` was called. -/
  stopped : Bool
  log : List Event

/-- `start` and `start_async`, with the first renewal due at this time. -/
def start (due : ℚ) (skipInitial : Bool) : Manager :=
  { phase := .waiting due .initTimer skipInitial, retries := 0, stopped := false, log := [] }

/-- A step of the loop or a call of `stop`. -/
inductive Step where
  /-- The loop looks for a timer that is due. -/
  | fire (now : ℚ)
  /-- The loop begins a task. -/
  | begin
  /-- The renewal that runs comes to its end. -/
  | finish (env : RenewalSurroundings)
  | stop

namespace Manager

/-- A renewal starts. -/
def run (s : Manager) (skipInitial : Bool) : Manager :=
  { s with phase := .running skipInitial, log := s.log ++ [.started s.stopped] }

/-- A timer that is due. -/
def fire (kind : Kind) (s : Manager) (now : ℚ) : Manager :=
  match s.phase with
  | .waiting due _ skipInitial =>
    if due ≤ now then
      match kind with
      | .sync => s.run skipInitial
      | .async => { s with phase := .starting skipInitial }
    else s
  | _ => s

/-- The task of `_async_to_sync_wrapper`. -/
def begin (s : Manager) : Manager :=
  match s.phase with
  | .starting skipInitial => s.run skipInitial
  | _ => s

/-- The timer of the next renewal; only `_renew_token` keeps its handle. -/
def schedule (kind : Kind) : Option ℚ → Phase
  | none => .finished
  | some due =>
    match kind with
    | .sync => .waiting due .nextTimer false
    | .async => .waiting due .dropped false

/-- The renewal ends. -/
def finish (kind : Kind) (s : Manager) (env : RenewalSurroundings) : Manager :=
  match s.phase with
  | .running skipInitial =>
    let result := renewToken config skipInitial env s.retries
    { s with
      phase := schedule kind result.next, retries := result.retries,
      log := s.log ++ [.ended result] }
  | _ => s

/-- `stop`. -/
def stop (s : Manager) : Manager :=
  match s.phase with
  | .waiting _ .initTimer _ => { s with phase := .finished, stopped := true }
  | .waiting _ .nextTimer _ => { s with phase := .finished, stopped := true }
  | _ => { s with stopped := true }

/-- One step. -/
def step (kind : Kind) (s : Manager) : Step → Manager
  | .fire now => s.fire kind now
  | .begin => s.begin
  | .finish env => s.finish config kind env
  | .stop => s.stop

end Manager

/-! ## When a renewal is followed in time -/

/-- The next renewal is scheduled and due before the token expires. -/
def Followed (token : Token) (next : Option ℚ) : Prop :=
  ∃ due, next = some due ∧ (token.neverExpires = true ∨ due ≤ token.expiresAtMs)

/-- Both delays are positive, and the time from reading the clock to scheduling is no longer than what
one of them leaves before the expiry. -/
structure Timely (token : Token) (env : RenewalSurroundings) : Prop where
  lower : 0 < delayForLowerRefresh config token env.lowerReading
  ratio : 0 < delayForRatioRefresh config token env.ratioReading
  margin : token.neverExpires = true ∨
    env.scheduledAt - env.lowerReading ≤ config.lowerRefreshBoundMillis ∨
      env.scheduledAt - env.ratioReading ≤ refreshBefore config token

variable {config} {token : Token} {env : RenewalSurroundings}

/-- When the next renewal is scheduled, and for when. -/
theorem followed_iff_timely :
    Followed token (if calculateRenewalDelay config token env ≤ 0 then none
      else some (env.scheduledAt + calculateRenewalDelay config token env * 1000)) ↔
      Timely config token env := by
  have delay : calculateRenewalDelay config token env =
      if min (delayForRatioRefresh config token env.ratioReading)
        (delayForLowerRefresh config token env.lowerReading) < 0 then 0
      else min (delayForRatioRefresh config token env.ratioReading)
        (delayForLowerRefresh config token env.lowerReading) / 1000 := rfl
  by_cases positive : 0 < min (delayForRatioRefresh config token env.ratioReading)
      (delayForLowerRefresh config token env.lowerReading)
  · obtain ⟨ratio, lower⟩ := lt_min_iff.mp positive
    have seconds : calculateRenewalDelay config token env =
        min (delayForRatioRefresh config token env.ratioReading)
          (delayForLowerRefresh config token env.lowerReading) / 1000 := by
      rw [delay, if_neg (not_lt.mpr positive.le)]
    have scheduled : ¬calculateRenewalDelay config token env ≤ 0 := by
      rw [seconds]
      linarith [div_pos positive (by norm_num : (0 : ℚ) < 1000)]
    have due : env.scheduledAt + calculateRenewalDelay config token env * 1000 =
        env.scheduledAt + min (delayForRatioRefresh config token env.ratioReading)
          (delayForLowerRefresh config token env.lowerReading) := by
      rw [seconds]
      field_simp
    have before : env.scheduledAt + min (delayForRatioRefresh config token env.ratioReading)
          (delayForLowerRefresh config token env.lowerReading) ≤ token.expiresAtMs ↔
        env.scheduledAt - env.lowerReading ≤ config.lowerRefreshBoundMillis ∨
          env.scheduledAt - env.ratioReading ≤ refreshBefore config token := by
      rw [← le_sub_iff_add_le', min_le_iff, or_comm]
      unfold delayForLowerRefresh delayForRatioRefresh
      constructor
      · rintro (first | second)
        · exact .inl (by linarith)
        · exact .inr (by linarith)
      · rintro (first | second)
        · exact .inl (by linarith)
        · exact .inr (by linarith)
    rw [if_neg scheduled, due]
    constructor
    · rintro ⟨when', same, inTime⟩
      cases same
      exact ⟨lower, ratio, inTime.imp_right before.mp⟩
    · intro timely
      exact ⟨_, rfl, timely.margin.imp_right before.mpr⟩
  · have none : calculateRenewalDelay config token env ≤ 0 := by
      rw [delay]
      by_cases negative : min (delayForRatioRefresh config token env.ratioReading)
          (delayForLowerRefresh config token env.lowerReading) < 0
      · rw [if_pos negative]
      · rw [if_neg negative]
        exact div_nonpos_of_nonpos_of_nonneg (not_lt.mp positive) (by norm_num)
    rw [if_pos none]
    refine iff_of_false ?_ fun timely => positive (lt_min timely.ratio timely.lower)
    rintro ⟨when', same, -⟩
    cases same

/-- Once it has a token, a renewal that delivers it schedules the next one by the two delays. -/
theorem renewWith_delivered {obtained : Token} {skipInitial : Bool} {retries : Nat}
    (delivered : (renewWith config skipInitial env obtained retries).delivered = some token) :
    obtained = token ∧ (renewWith config skipInitial env obtained retries).next =
      if calculateRenewalDelay config token env ≤ 0 then none
      else some (env.scheduledAt + calculateRenewalDelay config token env * 1000) := by
  simp only [renewWith] at delivered ⊢
  by_cases expired : obtained.isExpired env.expiryReading = true
  · rw [if_pos expired] at delivered
    cases delivered
  · rw [if_neg expired] at delivered ⊢
    cases registered : env.onNext with
    | none =>
      rw [registered] at delivered
      cases delivered
    | some outcome =>
      simp only [registered] at delivered ⊢
      cases skipInitial with
      | true => cases delivered
      | false =>
        cases outcome with
        | some e => cases delivered
        | none =>
          cases delivered
          exact ⟨rfl, rfl⟩

/-- A renewal that delivers a token is followed in time exactly if it is timely. -/
theorem renewToken_followed {skipInitial : Bool} {retries : Nat}
    (delivered : (renewToken config skipInitial env retries).delivered = some token) :
    Followed token (renewToken config skipInitial env retries).next ↔ Timely config token env := by
  rw [renewToken] at delivered ⊢
  rcases acquired : acquireToken config env.attempts retries with ⟨answer, after⟩
  rw [acquired] at delivered
  cases answer with
  | error e => cases delivered
  | ok obtained =>
    obtain ⟨same, next⟩ := renewWith_delivered delivered
    show Followed token (renewWith config skipInitial env obtained after).next ↔ _
    rw [next]
    exact followed_iff_timely

/-! ## When stopping stops -/

/-- The timer that waits is one that `stop` cancels, or nothing is scheduled. -/
def Covered : Phase → Prop
  | .waiting _ handle _ => handle ≠ .dropped
  | .finished => True
  | _ => False

/-- The sync manager keeps the timer of the next renewal. -/
theorem covered_schedule (next : Option ℚ) : Covered (Manager.schedule .sync next) := by
  cases next with
  | none => trivial
  | some due => exact Handle.noConfusion

/-- Nothing starts a renewal once nothing is scheduled. -/
theorem finished_of_stop {s : Manager} (covered : Covered s.phase) : s.stop.phase = .finished := by
  unfold Manager.stop
  cases at' : s.phase with
  | waiting due handle skipInitial =>
    rw [at'] at covered
    cases handle with
    | initTimer => rfl
    | nextTimer => rfl
    | dropped => exact absurd rfl covered
  | starting skipInitial =>
    rw [at'] at covered
    exact covered.elim
  | running skipInitial =>
    rw [at'] at covered
    exact covered.elim
  | finished => rfl

/-- `stop` starts and ends no renewal. -/
theorem stop_log (s : Manager) : s.stop.log = s.log := by
  unfold Manager.stop
  cases s.phase with
  | waiting due handle skipInitial => cases handle <;> rfl
  | starting skipInitial => rfl
  | running skipInitial => rfl
  | finished => rfl

/-- When nothing is scheduled, no step changes anything but `stopped`. -/
theorem step_of_finished {kind : Kind} {s : Manager} (finished : s.phase = .finished) (a : Step) :
    (s.step config kind a).phase = .finished ∧ (s.step config kind a).log = s.log := by
  cases a with
  | fire now =>
    have same : s.step config kind (.fire now) = s := by
      simp only [Manager.step, Manager.fire, finished]
    rw [same]
    exact ⟨finished, rfl⟩
  | begin =>
    have same : s.step config kind .begin = s := by
      simp only [Manager.step, Manager.begin, finished]
    rw [same]
    exact ⟨finished, rfl⟩
  | finish env =>
    have same : s.step config kind (.finish env) = s := by
      simp only [Manager.step, Manager.finish, finished]
    rw [same]
    exact ⟨finished, rfl⟩
  | stop =>
    have same : s.step config kind .stop = { s with stopped := true } := by
      simp only [Manager.step, Manager.stop, finished]
    rw [same]
    exact ⟨finished, rfl⟩

/-- A renewal that finds a fresh token schedules another one, whatever the configuration. -/
theorem exists_next (skipInitial : Bool) (retries : Nat) :
    ∃ env due, (renewToken config skipInitial env retries).next = some due := by
  have positive : 0 < max config.lowerRefreshBoundMillis 0 + 1 := by
    linarith [le_max_right config.lowerRefreshBoundMillis 0]
  let token : Token := ⟨max config.lowerRefreshBoundMillis 0 + 1,
    max config.lowerRefreshBoundMillis 0 + 1, true⟩
  let env : RenewalSurroundings := ⟨fun _ => .token token, 0, 0, 0, some none, 0⟩
  have timely : Timely config token env := by
    refine ⟨?_, ?_, .inl rfl⟩
    · show 0 < max config.lowerRefreshBoundMillis 0 + 1 - config.lowerRefreshBoundMillis - 0
      linarith [le_max_left config.lowerRefreshBoundMillis 0]
    · show 0 < max config.lowerRefreshBoundMillis 0 + 1 -
        ((max config.lowerRefreshBoundMillis 0 + 1 - (max config.lowerRefreshBoundMillis 0 + 1)) -
          (max config.lowerRefreshBoundMillis 0 + 1 - (max config.lowerRefreshBoundMillis 0 + 1)) *
            config.expirationRefreshRatio) - 0
      linarith
  obtain ⟨due, scheduled, -⟩ := followed_iff_timely.mpr timely
  have acquired : acquireToken config env.attempts retries = (.ok token, 0) := by
    unfold acquireToken
    cases config.maxAttempts - retries with
    | zero => rfl
    | succ left => rfl
  refine ⟨env, due, ?_⟩
  rw [renewToken, acquired]
  cases skipInitial with
  | true => exact scheduled
  | false => exact scheduled

/-- A call of `stop` is the last word exactly when it cancels what is scheduled: otherwise some run
starts a renewal afterwards. -/
theorem stop_final_iff {kind : Kind} {s : Manager} (clean : .started true ∉ s.log) :
    (∀ steps : List Step, .started true ∉ (steps.foldl (Manager.step config kind) s.stop).log) ↔
      Covered s.phase := by
  constructor
  · intro final
    by_contra uncovered
    have starts {s : Manager} (stopped : s.stopped = true) (skipInitial : Bool) :
        .started true ∈ (s.run skipInitial).log := by
      rw [Manager.run, stopped]
      exact List.mem_append_right _ (List.mem_singleton_self _)
    have fires {s : Manager} {due : ℚ} {handle : Handle} {skipInitial : Bool} (stopped : s.stopped = true)
        (waits : s.phase = .waiting due handle skipInitial) :
        .started true ∈ ([.fire due, .begin].foldl (Manager.step config kind) s).log := by
      show .started true ∈ ((s.fire kind due).begin).log
      simp only [Manager.fire, waits, le_refl, ↓reduceIte]
      cases kind with
      | sync => exact starts stopped skipInitial
      | async => exact starts stopped skipInitial
    cases at' : s.phase with
    | waiting due handle skipInitial =>
      rw [at'] at uncovered
      have dropped : handle = .dropped := not_not.mp uncovered
      subst dropped
      have still : s.stop = { s with stopped := true } := by simp only [Manager.stop, at']
      rw [still] at final
      exact final _ (fires rfl at')
    | starting skipInitial =>
      have still : s.stop = { s with stopped := true } := by simp only [Manager.stop, at']
      rw [still] at final
      refine final [.begin] ?_
      show .started true ∈ (Manager.begin { s with stopped := true }).log
      simp only [Manager.begin, at']
      exact starts rfl skipInitial
    | running skipInitial =>
      have still : s.stop = { s with stopped := true } := by simp only [Manager.stop, at']
      obtain ⟨env, due, next⟩ : ∃ env due,
          (renewToken config skipInitial env s.retries).next = some due :=
        exists_next skipInitial s.retries
      rw [still] at final
      refine final [.finish env, .fire due, .begin] ?_
      have waits : (Manager.finish config kind { s with stopped := true } env).phase =
          Manager.schedule kind (some due) := by
        simp only [Manager.finish, at', next]
      have stopped : (Manager.finish config kind { s with stopped := true } env).stopped = true := by
        simp only [Manager.finish, at']
      cases kind with
      | sync => exact fires stopped waits
      | async => exact fires stopped waits
    | finished =>
      rw [at'] at uncovered
      exact uncovered trivial
  · intro covered steps
    have same : (steps.foldl (Manager.step config kind) s.stop).phase = .finished ∧
        (steps.foldl (Manager.step config kind) s.stop).log = s.stop.log := by
      refine Runs.inv_of_keeps (fun t : Manager => t.phase = .finished ∧ t.log = s.stop.log) ?_
        ⟨finished_of_stop covered, rfl⟩
      rintro t a ⟨finished, log⟩
      obtain ⟨after, unchanged⟩ : (t.step config kind a).phase = .finished ∧
          (t.step config kind a).log = t.log := step_of_finished finished a
      exact ⟨after, unchanged.trans log⟩
    rw [same.2, stop_log]
    exact clean

/-- The event keeps the contract: no start after a stop, and a delivered token is renewed in time. -/
def Event.Fine : Event → Prop
  | .started stopped => stopped = false
  | .ended result => ∀ token, result.delivered = some token → Followed token result.next

/-- All events keep the contract. -/
def Manager.Fine (s : Manager) : Prop := ∀ event ∈ s.log, event.Fine

variable (config) in
/-- A renewal that delivers its token is timely, and `stop` is called when it cancels what is scheduled. -/
def Careful (s : Manager) : Step → Prop
  | .finish env => ∀ skipInitial token, s.phase = .running skipInitial →
      (renewToken config skipInitial env s.retries).delivered = some token → Timely config token env
  | .stop => Covered s.phase
  | _ => True

/-- The contract was kept, and after a stop nothing is scheduled. -/
structure Manager.Kept (s : Manager) : Prop where
  fine : s.Fine
  finished : s.stopped = true → s.phase = .finished

/-- A renewal that starts before a stop keeps the contract. -/
theorem Manager.Kept.run {s : Manager} (kept : s.Kept) (going : s.phase ≠ .finished) (skipInitial : Bool) :
    (s.run skipInitial).Kept := by
  have unstopped : s.stopped = false := by
    by_contra stopped
    exact going (kept.finished (by simpa using stopped))
  constructor
  · intro event member
    rcases List.mem_append.mp member with old | new
    · exact kept.fine event old
    · rw [List.mem_singleton.mp new]
      exact unstopped
  · intro stopped
    have again : s.stopped = true := stopped
    rw [unstopped] at again
    cases again

/-- A careful step keeps the contract. -/
theorem Manager.Kept.step {kind : Kind} {s : Manager} (kept : s.Kept) {a : Step}
    (careful : Careful config s a) : (s.step config kind a).Kept := by
  cases a with
  | fire now =>
    show (s.fire kind now).Kept
    unfold Manager.fire
    cases at' : s.phase with
    | waiting due handle skipInitial =>
      have going : s.phase ≠ .finished := by
        rw [at']
        exact Phase.noConfusion
      by_cases late : due ≤ now
      · simp only [if_pos late]
        cases kind with
        | sync => exact kept.run going skipInitial
        | async =>
          refine ⟨kept.fine, fun stopped => ?_⟩
          exact absurd (kept.finished stopped) going
      · simp only [if_neg late]
        exact kept
    | starting skipInitial => exact kept
    | running skipInitial => exact kept
    | finished => exact kept
  | begin =>
    show s.begin.Kept
    unfold Manager.begin
    cases at' : s.phase with
    | starting skipInitial =>
      refine kept.run ?_ skipInitial
      rw [at']
      exact Phase.noConfusion
    | waiting due handle skipInitial => exact kept
    | running skipInitial => exact kept
    | finished => exact kept
  | finish env =>
    show (s.finish config kind env).Kept
    unfold Manager.finish
    cases at' : s.phase with
    | running skipInitial =>
      constructor
      · intro event member
        rcases List.mem_append.mp member with old | new
        · exact kept.fine event old
        · rw [List.mem_singleton.mp new]
          intro token delivered
          exact (renewToken_followed delivered).mpr (careful skipInitial token at' delivered)
      · intro stopped
        have done := kept.finished stopped
        rw [at'] at done
        cases done
    | waiting due handle skipInitial => exact kept
    | starting skipInitial => exact kept
    | finished => exact kept
  | stop =>
    have finished : s.stop.phase = .finished := finished_of_stop careful
    refine ⟨fun event member => kept.fine event ?_, fun _ => finished⟩
    rw [← stop_log s]
    exact member

/-- In a run of careful steps every delivered token is followed by a renewal in time, and no renewal
starts after `stop`. -/
theorem fine_of_careful {kind : Kind} (due : ℚ) (skipInitial : Bool) {steps : List Step}
    (careful : Runs.Each (Manager.step config kind) (Careful config) (start due skipInitial) steps) :
    Runs.Always (Manager.step config kind) Manager.Fine (start due skipInitial) steps := by
  have first : (start due skipInitial).Kept :=
    ⟨fun event member => (List.not_mem_nil member).elim, fun stopped => by cases stopped⟩
  intro earlier later split
  subst split
  exact (Runs.inv_of_each Manager.Kept (fun s a kept fit => kept.step fit) first careful.left).fine

/-! ## One token -/

/-- A token of one second. -/
def oneSecond : Token := ⟨1000, 0, false⟩

/-- A provider that hands it out at once, and a listener that takes it. -/
def atOnce : RenewalSurroundings := ⟨fun _ => .token oneSecond, 0, 0, 0, some none, 10⟩

/-- Renewal at three quarters of the lifetime, with this lower bound. -/
def threeQuarters (lower : ℚ) : TokenManagerConfig := ⟨3 / 4, lower, 3⟩

/-- The renewal of the token delivers it. -/
theorem delivered_atOnce (lower : ℚ) :
    (renewToken (threeQuarters lower) false atOnce 0).delivered = some oneSecond := by
  have fresh : oneSecond.isExpired 0 = false := by decide
  show (renewWith (threeQuarters lower) false atOnce oneSecond 0).delivered = _
  simp only [renewWith, atOnce, fresh, Bool.false_eq_true, ↓reduceIte]

/-- With a lower bound of a tenth of a second the renewal is timely. -/
theorem timely_atOnce : Timely (threeQuarters 100) oneSecond atOnce := by
  refine ⟨?_, ?_, .inr (.inl ?_)⟩
  · norm_num [delayForLowerRefresh, threeQuarters, oneSecond, atOnce]
  · norm_num [delayForRatioRefresh, refreshBefore, threeQuarters, oneSecond, atOnce]
  · norm_num [threeQuarters, atOnce]

/-- A sync manager that is stopped after its first renewal. -/
theorem fine_once : Runs.Always (Manager.step (threeQuarters 100) .sync) Manager.Fine (start 0 false)
    [.fire 0, .finish atOnce, .stop] := by
  refine fine_of_careful 0 false (Runs.each_cons.mpr ⟨trivial, Runs.each_cons.mpr ⟨?_, Runs.each_cons.mpr
    ⟨?_, Runs.each_nil⟩⟩⟩)
  · intro skipInitial token running delivered
    cases running
    have same : some oneSecond = some token := (delivered_atOnce 100).symm.trans delivered
    cases same
    exact timely_atOnce
  · show Covered (Manager.schedule .sync (renewToken (threeQuarters 100) false atOnce 0).next)
    exact covered_schedule _

/-- A lower bound above the lifetime ends the renewals, and an asyncio manager goes on after `stop`. -/
theorem early_and_late :
    (¬Runs.Always (Manager.step (threeQuarters 2000) .sync) Manager.Fine (start 0 false)
        [.fire 0, .finish atOnce]) ∧
      ¬∀ steps, Runs.Always (Manager.step (threeQuarters 100) .async) Manager.Fine (start 0 false)
        steps := by
  constructor
  · intro always
    have fine := always [.fire 0, .finish atOnce] [] rfl
      (.ended (renewToken (threeQuarters 2000) false atOnce 0)) (by simp [Manager.step, start,
        Manager.fire, Manager.run, Manager.finish])
    have timely := (renewToken_followed (delivered_atOnce 2000)).mp (fine _ (delivered_atOnce 2000))
    have lower := timely.lower
    norm_num [delayForLowerRefresh, threeQuarters, oneSecond, atOnce] at lower
  · intro always
    obtain ⟨due, next, -⟩ := (renewToken_followed (delivered_atOnce 100)).mpr timely_atOnce
    let steps : List Step := [.fire 0, .begin, .finish atOnce, .stop, .fire due, .begin]
    have fine := always steps steps [] (List.append_nil steps).symm (.started true)
    have late : Event.Fine (.started true) := fine (by
      simp [steps, Manager.step, start, Manager.fire, Manager.run, Manager.begin, Manager.finish,
        next, Manager.schedule, Manager.stop])
    have contradiction : true = false := late
    cases contradiction

end TokenManager

end RedisPy

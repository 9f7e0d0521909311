import RedisPy.Auth.TokenManager

/-!
# The retry budget of a token request

`acquire_token` and `acquire_token_async` of one manager, call after call. The number of retries is a
field of the manager: a call goes on counting where the call before it stopped, and only a token
starts the count again.
-/

namespace RedisPy

namespace TokenManager

/-- What one call does. -/
structure AcquireCall where
  /-- The token that is returned or the exception that is raised. -/
  outcome : Except Exc Token
  /-- `_retries` afterwards. -/
  retries : Nat
  /-- How often `request_token` was called. -/
  requests : Nat

/-- The provider's answers to the requests of one call. -/
abbrev ProviderAnswers := Nat → TokenRequest

/-- `acquire_token` and `acquire_token_async` after some requests, while `_retries` is below
`max_attempts` by so much. -/
def acquireAfter (answers : ProviderAnswers) : Nat → Nat → Nat → AcquireCall
  | left, retries, requests =>
    match answers requests with
    | .token token => { outcome := .ok token, retries := 0, requests := requests + 1 }
    | .raises e => { outcome := .error e, retries, requests := requests + 1 }
    | .requestTokenErr e =>
      match left with
      | 0 => { outcome := .error e, retries, requests := requests + 1 }
      | left + 1 => acquireAfter answers left (retries + 1) (requests + 1)

/-- `acquire_token` and `acquire_token_async`. -/
def acquire (config : TokenManagerConfig) (answers : ProviderAnswers) (retries : Nat) : AcquireCall :=
  acquireAfter answers (config.maxAttempts - retries) retries 0

/-- `_retries` after calls of `acquire_token`, the last one first. -/
def retriesAfter (config : TokenManagerConfig) : List ProviderAnswers → Nat
  | [] => 0
  | answers :: earlier => (acquire config answers (retriesAfter config earlier)).retries

/-- The next call has its full retry budget: so many failed requests are made up for, and one more ends
the call. -/
structure FullBudget (config : TokenManagerConfig) (retries : Nat) : Prop where
  /-- A token in the end. -/
  returns : ∀ answers token, (∀ n < config.maxAttempts, ∃ e, answers n = .requestTokenErr e) →
    answers config.maxAttempts = .token token → (acquire config answers retries).outcome = .ok token
  /-- No token. -/
  exhausts : ∀ answers, (∀ n ≤ config.maxAttempts, ∃ e, answers n = .requestTokenErr e) →
    (acquire config answers retries).requests = config.maxAttempts + 1 ∧
      ∃ e, answers config.maxAttempts = .requestTokenErr e ∧ (acquire config answers retries).outcome = .error e

/-- Of the calls so far, the last one first, the last one returned a token; calls whose first request
raised something else than `RequestTokenErr` do not count. -/
def Restarted (config : TokenManagerConfig) : List ProviderAnswers → Prop
  | [] => True
  | answers :: earlier =>
    (∃ token, (acquire config answers (retriesAfter config earlier)).outcome = .ok token) ∨
      (∃ e, answers 0 = .raises e) ∧ Restarted config earlier

/-- A call returns a token, or it adds to the retries, or its first request raised something else. -/
theorem acquireAfter_cases (answers : ProviderAnswers) (left retries requests : Nat) :
    ((acquireAfter answers left retries requests).retries = 0 ∧
        ∃ token, (acquireAfter answers left retries requests).outcome = .ok token) ∨
      (∃ e, (acquireAfter answers left retries requests).outcome = .error e) ∧
        retries ≤ (acquireAfter answers left retries requests).retries ∧
        ((acquireAfter answers left retries requests).retries = retries ↔
          left = 0 ∨ ∃ e, answers requests = .raises e) := by
  induction left generalizing retries requests with
  | zero =>
    unfold acquireAfter
    split
    · next token _ => exact .inl ⟨rfl, token, rfl⟩
    · next e _ => exact .inr ⟨⟨e, rfl⟩, Nat.le_refl _, iff_of_true rfl (.inl rfl)⟩
    · next e _ => exact .inr ⟨⟨e, rfl⟩, Nat.le_refl _, iff_of_true rfl (.inl rfl)⟩
  | succ left ih =>
    unfold acquireAfter
    split
    · next token _ => exact .inl ⟨rfl, token, rfl⟩
    · next e raised => exact .inr ⟨⟨e, rfl⟩, Nat.le_refl _, iff_of_true rfl (.inr ⟨e, raised⟩)⟩
    · next e failed =>
      dsimp only
      refine (ih (retries + 1) (requests + 1)).imp id fun ⟨raised, more, _⟩ => ⟨raised, by omega, ?_⟩
      refine iff_of_false (by omega) ?_
      rintro (none | ⟨other, raises⟩)
      · cases none
      · rw [failed] at raises
        cases raises

/-- So many failed requests in a row are all followed by another one. -/
theorem acquireAfter_failing {answers : ProviderAnswers} {left : Nat} (retries requests : Nat)
    (failing : ∀ n < left, ∃ e, answers (requests + n) = .requestTokenErr e) :
    acquireAfter answers left retries requests =
      acquireAfter answers 0 (retries + left) (requests + left) := by
  induction left generalizing retries requests with
  | zero => rfl
  | succ left ih =>
    obtain ⟨e, failed⟩ := failing 0 (Nat.succ_pos left)
    rw [Nat.add_zero] at failed
    have rest := ih (retries + 1) (requests + 1) fun n below => by
      rw [Nat.add_assoc, Nat.add_comm 1 n]
      exact failing (n + 1) (by omega)
    rw [acquireAfter, failed]
    dsimp only
    rw [rest, Nat.add_right_comm, Nat.add_right_comm requests]
    rfl

/-- After failed requests without end. -/
theorem acquire_exhausted (config : TokenManagerConfig) (retries : Nat) {answers : ProviderAnswers}
    (failing : ∀ n ≤ config.maxAttempts, ∃ e, answers n = .requestTokenErr e) :
    (acquire config answers retries).requests = config.maxAttempts - retries + 1 ∧
      ∃ e, answers (config.maxAttempts - retries) = .requestTokenErr e ∧
        (acquire config answers retries).outcome = .error e := by
  have short : config.maxAttempts - retries ≤ config.maxAttempts := Nat.sub_le _ _
  unfold acquire
  rw [acquireAfter_failing retries 0 fun n below => by rw [Nat.zero_add]; exact failing n (by omega), Nat.zero_add]
  obtain ⟨e, failed⟩ := failing _ short
  unfold acquireAfter
  rw [failed]
  exact ⟨rfl, e, rfl, rfl⟩

/-- The next call has its full budget when nothing was counted, or nothing is allowed. -/
theorem fullBudget_iff (config : TokenManagerConfig) (retries : Nat) :
    FullBudget config retries ↔ config.maxAttempts = 0 ∨ retries = 0 := by
  constructor
  · intro full
    -- a provider that never has a token
    have failing : ∀ n ≤ config.maxAttempts, ∃ e,
        (fun _ => .requestTokenErr { cls := .exception } : ProviderAnswers) n = .requestTokenErr e :=
      fun _ _ => ⟨_, rfl⟩
    obtain ⟨requests, -⟩ := full.exhausts (fun _ => .requestTokenErr { cls := .exception }) fun _ _ => ⟨_, rfl⟩
    obtain ⟨made, -⟩ := acquire_exhausted config retries failing
    omega
  · intro fresh
    have whole : config.maxAttempts - retries = config.maxAttempts := by omega
    refine ⟨fun answers token failing last => ?_, fun answers failing => ?_⟩
    · unfold acquire
      rw [whole, acquireAfter_failing retries 0 fun n below => by rw [Nat.zero_add]; exact failing n below,
        Nat.zero_add]
      unfold acquireAfter
      rw [last]
    · have ends := acquire_exhausted config retries failing
      rwa [whole] at ends

/-- Nothing is counted exactly when the last call that counts returned a token. -/
theorem retriesAfter_eq_zero_iff {config : TokenManagerConfig} (allowed : config.maxAttempts ≠ 0)
    (calls : List ProviderAnswers) : retriesAfter config calls = 0 ↔ Restarted config calls := by
  induction calls with
  | nil => exact iff_of_true rfl trivial
  | cons answers earlier ih =>
    rw [retriesAfter, Restarted, acquire]
    rcases acquireAfter_cases answers (config.maxAttempts - retriesAfter config earlier)
      (retriesAfter config earlier) 0 with ⟨none, returned⟩ | ⟨⟨e, raised⟩, more, same⟩
    · exact iff_of_true none (.inl returned)
    · constructor
      · intro none
        have before : retriesAfter config earlier = 0 := by omega
        rw [none, before] at same
        refine .inr ⟨(same.mp rfl).resolve_left (by omega), ih.mp before⟩
      · rintro (⟨token, returned⟩ | ⟨raises, restarted⟩)
        · rw [raised] at returned
          cases returned
        · rw [same.mpr (.inr raises)]
          exact ih.mpr restarted

/-- A call of `acquire_token` has its full retry budget exactly when there is none, or the last call
before it that counts returned a token. -/
theorem fullBudget_after (config : TokenManagerConfig) (calls : List ProviderAnswers) :
    FullBudget config (retriesAfter config calls) ↔
      config.maxAttempts = 0 ∨ Restarted config calls := by
  rw [fullBudget_iff]
  by_cases allowed : config.maxAttempts = 0
  · exact iff_of_true (.inl allowed) (.inl allowed)
  · rw [retriesAfter_eq_zero_iff allowed]

/-- One retry. -/
def retryOnce : TokenManagerConfig :=
  { expirationRefreshRatio := 1, lowerRefreshBoundMillis := 0, maxAttempts := 1 }

/-- The provider is out of order during one call, and the next call does not retry. -/
theorem outage_spends_budget : ¬FullBudget retryOnce
    (retriesAfter retryOnce [fun _ => .requestTokenErr { cls := .exception }]) := by
  intro full
  have counted : retriesAfter retryOnce [fun _ => .requestTokenErr { cls := .exception }] = 1 := rfl
  rw [counted] at full
  have token : Token := { expiresAtMs := 1, receivedAtMs := 0, neverExpires := true }
  have returned := full.returns (fun n => if n = 0 then .requestTokenErr { cls := .exception } else .token token)
    token (fun n below => ⟨_, if_pos (Nat.lt_one_iff.mp below)⟩) rfl
  cases returned

/-- The call is the one of a renewal, which asks the provider by the number of retries. -/
theorem acquireToken_eq (config : TokenManagerConfig) (attempts : Nat → TokenRequest) (retries : Nat) :
    acquireToken config attempts retries =
      ((acquire config (fun n => attempts (retries + n)) retries).outcome,
        (acquire config (fun n => attempts (retries + n)) retries).retries) := by
  have counted (left made : Nat) : acquireFrom attempts left (retries + made) =
      ((acquireAfter (fun n => attempts (retries + n)) left (retries + made) made).outcome,
        (acquireAfter (fun n => attempts (retries + n)) left (retries + made) made).retries) := by
    induction left generalizing made with
    | zero =>
      unfold acquireFrom acquireAfter
      cases attempts (retries + made) <;> rfl
    | succ left ih =>
      unfold acquireFrom acquireAfter
      cases attempts (retries + made) with
      | token token => rfl
      | requestTokenErr e => exact ih (made + 1)
      | raises e => rfl
  exact counted (config.maxAttempts - retries) 0

end TokenManager

end RedisPy

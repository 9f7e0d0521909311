import RedisPy.Lock.Lock

/-!
# Ownership of the lock

Tokens are new for every `acquire`, so a token is known to one client only and can be stored
only by the call that generated it. From that follow mutual exclusion, that the scripts touch
nobody else's key, and that a token which is not stored stays so.
-/

namespace RedisPy

variable {τ ι : Type}

namespace Phase

/-- The token that a call carries. -/
def token : Phase τ → Option τ
  | trying attempt => some attempt.token
  | acquired token => some token
  | releasing expected => some expected
  | _ => none

/-- The phases of `extend` and `reacquire`. -/
def Prolonging : Phase τ → Prop
  | extending _ _ => True
  | reacquiring => True
  | _ => False

/-- Prolonging calls carry no token of their own. -/
theorem Prolonging.token {phase : Phase τ} (prolonging : phase.Prolonging) : phase.token = none := by
  cases phase with
  | extending millis replaceTtl => rfl
  | reacquiring => rfl
  | idle => rfl
  | trying attempt => cases prolonging
  | acquired token => cases prolonging
  | releasing expected => cases prolonging

/-- The phases of `acquire`. -/
def Acquiring : Phase τ → Prop
  | trying _ => True
  | acquired _ => True
  | _ => False

end Phase

namespace LockSystem

section Law

variable [DecidableEq τ] [DecidableEq ι]

/-! ## The law -/

/-- The client's local token is the stored one. -/
def Owns (s : LockSystem ι τ) (i : ι) : Prop :=
  ∃ token, (s.clients i).lock.token = some token ∧ s.key.Holds token

/-- Steps of time and of the other clients. -/
inductive Meanwhile (i : ι) (s : LockSystem ι τ) : LockSystem ι τ → Prop
  | now : Meanwhile i s s
  | later {t u : LockSystem ι τ} {action : LockAction ι τ} {outcome : Option LockOutcome}
      (before : Meanwhile i s t) (taken : Step t action u outcome)
      (others : ∀ request, action ≠ .call i request) (others' : action ≠ .resume i) :
      Meanwhile i s u

/-- The call raises an exception of this class. -/
def RaisesA (cls : ExcClass) (outcome : Option LockOutcome) : Prop :=
  ∃ e, outcome = some (.raised e) ∧ e.cls = cls

/-- A call that is refused: it raises `LockError` at once for want of a token, or later
`LockNotOwnedError`, and never touches the key. -/
def Refused (s : LockSystem ι τ) (i : ι) (request : Request τ) : Prop :=
  ∀ {t outcome}, Step s (.call i request) t outcome →
    t.key = s.key ∧
      ((s.clients i).lock.token = none → RaisesA .lockError outcome) ∧
      ((s.clients i).lock.token ≠ none → outcome = none ∧
        ∀ {u}, Meanwhile i t u → ∃ v last, Step u (.resume i) v last ∧
          v.key = u.key ∧ RaisesA .lockNotOwnedError last)

/-- Somewhere in a history of states, the last first, a missing key became this token's. -/
def Took (history : List (LockSystem ι τ)) (token : τ) : Prop :=
  ∃ later after before earlier, history = later ++ after :: before :: earlier ∧
    before.key = none ∧ after.key.Holds token

/-- The law of the lock in a state of a run: at most one client owns the lock; `release`,
`extend` and `reacquire` by a client that does not are refused; and where an `acquire` returns
`True`, its token is now the client's, and it was stored into the missing key. -/
structure Lawful (past : List (LockSystem ι τ)) (s : LockSystem ι τ) : Prop where
  /-- Mutual exclusion. -/
  exclusive : ∀ i j, s.Owns i → s.Owns j → i = j
  /-- Calls by others than the owner. -/
  refused : ∀ i request, request.token = none → ¬s.Owns i → s.Refused i request
  /-- Successful acquisition. -/
  acquired : ∀ i token t, (s.clients i).phase.Acquiring → (s.clients i).phase.token = some token →
    Step s (.resume i) t (some (.returned (some true))) →
      (t.clients i).lock.token = some token ∧ Took (s :: past) token

end Law

end LockSystem

/-! ## What a call can do -/

namespace Key

/-- A key stores one value. -/
theorem holds_unique {key : Key τ} {left right : τ} (first : key.Holds left)
    (second : key.Holds right) : left = right :=
  Option.some.inj (first.symm.trans second)

/-- Another time to live does not change the value. -/
theorem holds_of_pexpire {millis : Int} {key : Key τ} {token : τ}
    (holds : (key.pexpire millis).Holds token) : key.Holds token := by
  unfold pexpire at holds
  by_cases spent : millis ≤ 0
  · rw [if_pos spent] at holds
    cases holds
  · rw [if_neg spent] at holds
    simpa [Holds, Function.comp_def] using holds

/-- Time stores nothing. -/
theorem holds_of_elapse {millis : Nat} {key : Key τ} {token : τ}
    (holds : (key.elapse millis).Holds token) : key.Holds token := by
  cases key with
  | none => cases holds
  | some entry =>
    unfold elapse at holds
    cases lifetime : entry.lifetime with
    | none => simpa [lifetime] using holds
    | some left =>
      simp only [lifetime] at holds
      by_cases spent : left ≤ millis
      · rw [if_pos spent] at holds
        cases holds
      · rw [if_neg spent] at holds
        exact holds

end Key

namespace LockClient

/-- What a client has to do with a token: it is the local one, or its call carries it. -/
def Mentions (client : LockClient τ) (token : τ) : Prop :=
  client.lock.token = some token ∨ client.phase.token = some token

/-- A client that took the key for a token and has not given it up. -/
def Has (client : LockClient τ) (token : τ) : Prop :=
  client.lock.token = some token ∨ client.phase = .acquired token ∨ client.phase = .releasing token

/-- A client mentions what it has. -/
theorem Has.mentions {client : LockClient τ} {token : τ} (has : client.Has token) :
    client.Mentions token := by
  rcases has with own | acquired | releasing
  · exact .inl own
  · exact .inr (by rw [acquired]; rfl)
  · exact .inr (by rw [releasing]; rfl)

/-- A client beside the key and the tokens that were generated. -/
structure Fits (key : Key τ) (drawn : List τ) (client : LockClient τ) : Prop where
  /-- Its tokens were generated. -/
  drawn : ∀ token, client.Mentions token → token ∈ drawn
  /-- A token that was not stored yet is nowhere else. -/
  fresh : ∀ attempt, client.phase = .trying attempt →
    ¬key.Holds attempt.token ∧ client.lock.token ≠ some attempt.token
  /-- A lock that is being released has no token. -/
  cleared : ∀ token, client.phase = .releasing token → client.lock.token = none
  /-- Only a lock with a token and a timeout is prolonged. -/
  prolonging : client.phase.Prolonging → client.lock.token ≠ none ∧ client.lock.timeout ≠ none
  /-- Without a timeout the key is kept for good. -/
  kept : ∀ token, client.lock.timeout = none → client.Has token →
    key = some { value := token, lifetime := none }

/-- What a script does to the key that stores the client's token. -/
structure Handled (key after : Key τ) (client : LockClient τ) (token : τ) : Prop where
  /-- The client has the token. -/
  has : client.Has token
  /-- It is stored. -/
  holds : key.Holds token
  /-- Without a timeout this is its release. -/
  release : client.lock.timeout = none → client.phase = .releasing token
  /-- Nothing else is stored. -/
  less : ∀ other, after.Holds other → key.Holds other

variable [DecidableEq τ]

omit [DecidableEq τ] in
/-- A script's answer changes the key alone. -/
@[simp] theorem answered_key (client : LockClient τ) (message : String) (value : Option Bool)
    (answer : Int × Key τ) : (client.answered message value answer).1 = answer.2 := by
  unfold answered
  split <;> rfl

omit [DecidableEq τ] in
/-- A script's answer ends the call. -/
@[simp] theorem answered_client (client : LockClient τ) (message : String) (value : Option Bool)
    (answer : Int × Key τ) : (client.answered message value answer).2.1 = client.finish := by
  unfold answered
  split <;> rfl

/-- Releasing stores nothing. -/
theorem holds_of_luaRelease {token other : τ} {key : Key τ}
    (holds : (key.luaRelease token).2.Holds other) : key.Holds other := by
  unfold Key.luaRelease at holds
  by_cases stored : key.Holds token
  · rw [if_pos stored] at holds
    cases holds
  · rw [if_neg stored] at holds
    exact holds

/-- Extending stores nothing. -/
theorem holds_of_luaExtend {token other : τ} {millis : Int} {replaceTtl : Bool} {key : Key τ}
    (holds : (key.luaExtend token millis replaceTtl).2.Holds other) : key.Holds other := by
  unfold Key.luaExtend at holds
  by_cases stored : key.Holds token
  · rw [if_pos stored] at holds
    by_cases spent : key.pttl < 0
    · simp only [if_pos spent] at holds
      exact holds
    · simp only [if_neg spent] at holds
      exact Key.holds_of_pexpire holds
  · rw [if_neg stored] at holds
    exact holds

/-- Reacquiring stores nothing. -/
theorem holds_of_luaReacquire {token other : τ} {millis : Int} {key : Key τ}
    (holds : (key.luaReacquire token millis).2.Holds other) : key.Holds other := by
  unfold Key.luaReacquire at holds
  by_cases stored : key.Holds token
  · rw [if_pos stored] at holds
    exact Key.holds_of_pexpire holds
  · rw [if_neg stored] at holds
    exact holds

/-- What a resumed call does to the key: nothing; or it takes the missing key for the token it
carries; or it handles the key that stores its token. -/
theorem resume_key (now : Int) {key : Key τ} {client : LockClient τ} {drawn : List τ}
    (fits : client.Fits key drawn) :
    (client.resume now key).1 = key ∨
      (∃ attempt, client.phase = .trying attempt ∧ key = none ∧
        (client.resume now key).1 = some { value := attempt.token, lifetime := client.px } ∧
        (client.resume now key).2.1 = { client with phase := .acquired attempt.token } ∧
        (client.resume now key).2.2 = none) ∨
      ∃ token, Handled key (client.resume now key).1 client token := by
  unfold resume
  cases phase : client.phase with
  | idle => exact .inl rfl
  | trying attempt =>
    simp only
    cases key with
    | some entry =>
      left
      unfold Key.setNx
      by_cases bad : client.px.any (· ≤ 0) = true
      · rw [if_pos bad]
      · rw [if_neg bad]
    | none =>
      unfold Key.setNx
      by_cases bad : client.px.any (· ≤ 0) = true
      · rw [if_pos bad]
        exact .inl rfl
      · rw [if_neg bad]
        exact .inr (.inl ⟨attempt, rfl, rfl, rfl, rfl, rfl⟩)
  | acquired token => exact .inl rfl
  | releasing expected =>
    simp only [answered_key]
    by_cases holds : key.Holds expected
    · exact .inr (.inr ⟨expected, .inr (.inr phase), holds, fun _ => phase,
        fun _ stored => holds_of_luaRelease stored⟩)
    · exact .inl (by rw [Key.luaRelease, if_neg holds])
  | extending millis replaceTtl =>
    have timed := (fits.prolonging (by rw [phase]; trivial)).2
    simp only
    cases own : client.lock.token with
    | none => exact .inl rfl
    | some token =>
      simp only [answered_key]
      by_cases holds : key.Holds token
      · exact .inr (.inr ⟨token, .inl own, holds, fun untimed => absurd untimed timed,
          fun _ stored => holds_of_luaExtend stored⟩)
      · exact .inl (by rw [Key.luaExtend, if_neg holds])
  | reacquiring =>
    have timed := (fits.prolonging (by rw [phase]; trivial)).2
    simp only
    cases own : client.lock.token with
    | none => exact .inl rfl
    | some token =>
      cases timeout : client.lock.timeout with
      | none => exact .inl rfl
      | some timeout =>
        simp only [answered_key]
        by_cases holds : key.Holds token
        · exact .inr (.inr ⟨token, .inl own, holds, fun untimed => absurd untimed timed,
            fun _ stored => holds_of_luaReacquire stored⟩)
        · exact .inl (by rw [Key.luaReacquire, if_neg holds])

omit [DecidableEq τ] in
/-- What a call does up to its first command: it generates a token and starts to acquire; or it
raises for want of a token or of a timeout; or it gives up the token and starts to release; or
it starts to prolong. -/
theorem call_cases (now : Int) (client : LockClient τ) (request : Request τ) :
    (∃ attempt, request.token = some attempt.token ∧
      client.call now request = ({ client with phase := .trying attempt }, none)) ∨
    (request.token = none ∧ (client.lock.token = none ∨ client.lock.timeout = none) ∧
      ∃ message, client.call now request = (client, some (.error .lockError message))) ∨
    (∃ expected, request.token = none ∧ client.lock.token = some expected ∧
      client.call now request =
        ({ lock := { client.lock with token := none }, phase := .releasing expected }, none)) ∨
    (request.token = none ∧ client.lock.token ≠ none ∧ client.lock.timeout ≠ none ∧
      ∃ phase : Phase τ, phase.Prolonging ∧
        client.call now request = ({ client with phase }, none)) := by
  cases request with
  | acquire token sleep blocking blockingTimeout => exact .inl ⟨_, rfl, rfl⟩
  | release =>
    unfold call
    cases own : client.lock.token with
    | none => exact .inr (.inl ⟨rfl, .inl rfl, _, rfl⟩)
    | some expected => exact .inr (.inr (.inl ⟨expected, rfl, rfl, rfl⟩))
  | extend additionalTime replaceTtl =>
    unfold call
    cases own : client.lock.token with
    | none => exact .inr (.inl ⟨rfl, .inl rfl, _, rfl⟩)
    | some token =>
      cases timeout : client.lock.timeout with
      | none => exact .inr (.inl ⟨rfl, .inr rfl, _, rfl⟩)
      | some seconds =>
        exact .inr (.inr (.inr ⟨rfl, Option.some_ne_none _, Option.some_ne_none _,
          .extending additionalTime.millis replaceTtl, trivial, rfl⟩))
  | reacquire =>
    unfold call
    cases own : client.lock.token with
    | none => exact .inr (.inl ⟨rfl, .inl rfl, _, rfl⟩)
    | some token =>
      cases timeout : client.lock.timeout with
      | none => exact .inr (.inl ⟨rfl, .inr rfl, _, rfl⟩)
      | some seconds =>
        exact .inr (.inr (.inr ⟨rfl, Option.some_ne_none _, Option.some_ne_none _,
          .reacquiring, trivial, rfl⟩))

omit [DecidableEq τ] in
/-- A call mentions no other token than its client did and the one it generates. -/
theorem mentions_call {now : Int} {client : LockClient τ} {request : Request τ} {token : τ}
    (mentions : (client.call now request).1.Mentions token) :
    client.Mentions token ∨ request.token = some token := by
  rcases call_cases now client request with
    ⟨attempt, generated, called⟩ | ⟨_, _, _, called⟩ | ⟨expected, _, own, called⟩ |
      ⟨_, _, _, phase, prolonging, called⟩
  · rw [called] at mentions
    rcases mentions with old | carried
    · exact .inl (.inl old)
    · exact .inr (generated.trans carried)
  · rw [called] at mentions
    exact .inl mentions
  · rw [called] at mentions
    rcases mentions with gone | carried
    · cases gone
    · exact .inl (.inl (own.trans carried))
  · rw [called] at mentions
    rcases mentions with old | carried
    · exact .inl (.inl old)
    · rw [prolonging.token] at carried
      cases carried

omit [DecidableEq τ] in
/-- A call leaves its client fitting, with the new token among the generated ones. -/
theorem call_fits {now : Int} {key : Key τ} {drawn : List τ} {client : LockClient τ}
    (fits : client.Fits key drawn) (stored : ∀ token, key.Holds token → token ∈ drawn)
    {request : Request τ} (fresh : ∀ token ∈ request.token, token ∉ drawn) :
    (client.call now request).1.Fits key (request.token.toList ++ drawn) := by
  have old : ∀ token, (client.call now request).1.Mentions token →
      token ∈ request.token.toList ++ drawn := by
    intro token mentions
    rcases mentions_call mentions with before | generated
    · exact List.mem_append_right _ (fits.drawn token before)
    · simp [generated]
  rcases call_cases now client request with
    ⟨attempt, generated, called⟩ | ⟨_, _, _, called⟩ | ⟨expected, _, own, called⟩ |
      ⟨_, token, timeout, phase, prolonging, called⟩
  · have unseen : attempt.token ∉ drawn := fresh attempt.token generated
    rw [called] at old ⊢
    refine ⟨old, ?_, nofun, nofun, ?_⟩
    · intro other same
      cases same
      exact ⟨fun holds => unseen (stored _ holds), fun own => unseen (fits.drawn _ (.inl own))⟩
    · intro token untimed has
      rcases has with own | acquired | releasing
      · exact fits.kept token untimed (.inl own)
      · cases acquired
      · cases releasing
  · rw [called] at old ⊢
    exact ⟨old, fits.fresh, fits.cleared, fits.prolonging, fits.kept⟩
  · rw [called] at old ⊢
    refine ⟨old, nofun, fun _ _ => rfl, nofun, ?_⟩
    intro token untimed has
    rcases has with gone | acquired | releasing
    · cases gone
    · cases acquired
    · cases releasing
      exact fits.kept expected untimed (.inl own)
  · rw [called] at old ⊢
    refine ⟨old, ?_, ?_, fun _ => ⟨token, timeout⟩, fun _ untimed => absurd untimed timeout⟩
    · intro attempt trying
      cases trying
      cases prolonging
    · intro expected releasing
      cases releasing
      cases prolonging

/-- What a resumed call does to its client: it ends, or goes on trying, or has taken the key, or
stores its token. -/
theorem resume_client (now : Int) (key : Key τ) (client : LockClient τ) :
    (client.resume now key).2.1 = client.finish ∨
    ((client.resume now key).2.1 = client ∧ (client.resume now key).1 = key) ∨
    (∃ attempt, client.phase = .trying attempt ∧ key = none ∧
      (client.resume now key).2.1 = { client with phase := .acquired attempt.token } ∧
      (client.resume now key).1 = some { value := attempt.token, lifetime := client.px }) ∨
    ∃ token, client.phase = .acquired token ∧ (client.resume now key).1 = key ∧
      (client.resume now key).2.1 =
        { lock := { client.lock with token := some token }, phase := .idle } := by
  unfold resume
  cases phase : client.phase with
  | idle => exact .inr (.inl ⟨rfl, rfl⟩)
  | trying attempt =>
    simp only
    unfold Key.setNx
    by_cases bad : client.px.any (· ≤ 0) = true
    · rw [if_pos bad]
      exact .inl rfl
    · rw [if_neg bad]
      cases key with
      | none => exact .inr (.inr (.inl ⟨attempt, rfl, rfl, rfl, rfl⟩))
      | some entry =>
        simp only [refused]
        split
        · exact .inl rfl
        · split
          · exact .inl rfl
          · exact .inr (.inl ⟨rfl, trivial⟩)
  | acquired token => exact .inr (.inr (.inr ⟨token, rfl, rfl, rfl⟩))
  | releasing expected => exact .inl (answered_client _ _ _ _)
  | extending millis replaceTtl =>
    simp only
    split
    · exact .inl (answered_client _ _ _ _)
    · exact .inl rfl
  | reacquiring =>
    simp only
    split
    · exact .inl (answered_client _ _ _ _)
    · exact .inl rfl
    · exact .inl rfl

/-- A resumed call mentions no other token than before. -/
theorem mentions_resume {now : Int} {key : Key τ} {client : LockClient τ} {token : τ}
    (mentions : (client.resume now key).2.1.Mentions token) : client.Mentions token := by
  rcases resume_client now key client with
    ended | ⟨same, _⟩ | ⟨attempt, trying, _, taken, _⟩ | ⟨own, acquired, _, stored⟩
  · rw [ended] at mentions
    rcases mentions with local' | carried
    · exact .inl local'
    · cases carried
  · rw [same] at mentions
    exact mentions
  · rw [taken] at mentions
    rcases mentions with local' | carried
    · exact .inl local'
    · exact .inr (by rw [trying]; exact carried)
  · rw [stored] at mentions
    rcases mentions with local' | carried
    · exact .inr (by rw [acquired]; exact local')
    · cases carried

/-- A resumed call leaves its client fitting beside the key it leaves. -/
theorem resume_fits {now : Int} {key : Key τ} {drawn : List τ} {client : LockClient τ}
    (fits : client.Fits key drawn) :
    (client.resume now key).2.1.Fits (client.resume now key).1 drawn := by
  have old : ∀ token, (client.resume now key).2.1.Mentions token → token ∈ drawn :=
    fun token mentions => fits.drawn token (mentions_resume mentions)
  rcases resume_client now key client with
    ended | ⟨same, sameKey⟩ | ⟨attempt, trying, missing, taken, takenKey⟩ |
      ⟨own, acquired, sameKey, stored⟩
  · rw [ended] at old ⊢
    refine ⟨old, nofun, nofun, nofun, ?_⟩
    intro token untimed has
    have held : client.lock.token = some token := by
      rcases has with own | acquired | releasing
      · exact own
      · cases acquired
      · cases releasing
    have kept := fits.kept token untimed (.inl held)
    rcases resume_key now fits with untouched | ⟨_, _, missing, _⟩ | ⟨other, handled⟩
    · rw [untouched, kept]
    · rw [missing] at kept
      cases kept
    · have cleared := fits.cleared other (handled.release untimed)
      rw [held] at cleared
      cases cleared
  · rw [same] at old ⊢
    rw [sameKey]
    exact ⟨old, fits.fresh, fits.cleared, fits.prolonging, fits.kept⟩
  · rw [taken] at old ⊢
    rw [takenKey]
    refine ⟨old, nofun, nofun, nofun, ?_⟩
    intro token untimed has
    rcases has with own | acquired | releasing
    · have kept := fits.kept token untimed (.inl own)
      rw [missing] at kept
      cases kept
    · cases acquired
      have eternal : client.px = none := by
        have timeout : client.lock.timeout = none := untimed
        rw [px, timeout]
        rfl
      rw [eternal]
    · cases releasing
  · rw [stored] at old ⊢
    rw [sameKey]
    refine ⟨old, nofun, nofun, nofun, ?_⟩
    intro token untimed has
    rcases has with same | other | releasing
    · cases same
      exact fits.kept own untimed (.inr (.inl acquired))
    · cases other
    · cases releasing

/-- A client fits beside the key that another client's resumed call leaves. -/
theorem fits_beside {now : Int} {key : Key τ} {drawn : List τ} {client other : LockClient τ}
    (fits : client.Fits key drawn) (others : other.Fits key drawn)
    (apart : ∀ token, client.Mentions token → ¬other.Mentions token) :
    client.Fits (other.resume now key).1 drawn := by
  refine ⟨fits.drawn, ?_, fits.cleared, fits.prolonging, ?_⟩
  · intro attempt trying
    have fresh := fits.fresh attempt trying
    refine ⟨?_, fresh.2⟩
    intro holds
    rcases resume_key now others with untouched | ⟨taking, carried, _, taken, _⟩ | ⟨_, handled⟩
    · exact fresh.1 (untouched ▸ holds)
    · rw [taken] at holds
      have mine : client.Mentions attempt.token := .inr (by rw [trying]; rfl)
      have same : taking.token = attempt.token := Option.some.inj holds
      exact apart _ mine (.inr (by rw [carried, ← same]; rfl))
    · exact fresh.1 (handled.less _ holds)
  · intro token untimed has
    have kept := fits.kept token untimed has
    rcases resume_key now others with untouched | ⟨_, _, missing, _⟩ | ⟨held, handled⟩
    · rw [untouched, kept]
    · rw [missing] at kept
      cases kept
    · have stored : key.Holds token := by
        rw [kept]
        rfl
      have same := Key.holds_unique handled.holds stored
      exact absurd (same ▸ handled.has.mentions) (apart token has.mentions)

end LockClient

namespace LockSystem

/-! ## What every run keeps -/

/-- The invariant: every client fits, and no two of them know one token. -/
structure Kept (s : LockSystem ι τ) : Prop where
  /-- Each client. -/
  fits : ∀ i, (s.clients i).Fits s.key s.drawn
  /-- The stored token was generated. -/
  stored : ∀ token, s.key.Holds token → token ∈ s.drawn
  /-- Tokens are known to one client. -/
  apart : ∀ i j token, (s.clients i).Mentions token → (s.clients j).Mentions token → i = j

/-- The invariant holds at the start. -/
theorem start_kept (locks : ι → Lock τ) (key : Key τ) (now : Int) : (start locks key now).Kept := by
  have silent : ∀ i token, ¬((start locks key now).clients i).Mentions token := by
    intro i token mentions
    rcases mentions with own | carried
    · cases own
    · cases carried
  refine ⟨fun i => ⟨?_, nofun, nofun, nofun, ?_⟩, ?_, ?_⟩
  · intro token mentions
    exact absurd mentions (silent i token)
  · intro token _ has
    exact absurd has.mentions (silent i token)
  · intro token holds
    exact Option.mem_toList.mpr holds
  · intro i j token mentions
    exact absurd mentions (silent i token)

/-- More tokens were generated. -/
theorem fits_append {key : Key τ} {drawn : List τ} {client : LockClient τ}
    (fits : client.Fits key drawn) (more : List τ) : client.Fits key (more ++ drawn) :=
  ⟨fun token mentions => List.mem_append_right more (fits.drawn token mentions), fits.fresh,
    fits.cleared, fits.prolonging, fits.kept⟩

/-- Time passes beside a client. -/
theorem fits_elapse {key : Key τ} {drawn : List τ} {client : LockClient τ}
    (fits : client.Fits key drawn) (millis : Nat) : client.Fits (key.elapse millis) drawn := by
  refine ⟨fits.drawn, ?_, fits.cleared, fits.prolonging, ?_⟩
  · intro attempt trying
    have fresh := fits.fresh attempt trying
    exact ⟨fun holds => fresh.1 (Key.holds_of_elapse holds), fresh.2⟩
  · intro token untimed has
    rw [fits.kept token untimed has]
    rfl

variable [DecidableEq τ] [DecidableEq ι]

omit [DecidableEq τ] in
/-- The changed client is the changed one. -/
theorem setClient_self (s : LockSystem ι τ) (i : ι) (client : LockClient τ) :
    (s.setClient i client).clients i = client := by
  simp [setClient]

omit [DecidableEq τ] in
/-- The others are what they were. -/
theorem setClient_ne (s : LockSystem ι τ) {i j : ι} (ne : j ≠ i) (client : LockClient τ) :
    (s.setClient i client).clients j = s.clients j := by
  simp [setClient, ne]

/-- Every step keeps the invariant. -/
theorem step_kept {s t : LockSystem ι τ} {action : LockAction ι τ} {outcome : Option LockOutcome}
    (kept : s.Kept) (taken : Step s action t outcome) : t.Kept := by
  cases taken with
  | elapse millis =>
    exact ⟨fun i => fits_elapse (kept.fits i) millis,
      fun token holds => kept.stored token (Key.holds_of_elapse holds), kept.apart⟩
  | call i request idle fresh =>
    have known : ∀ j token, ((s.setClient i ((s.clients i).call s.now request).1).clients
        j).Mentions token → (s.clients j).Mentions token ∨ j = i ∧ request.token = some token := by
      intro j token mentions
      by_cases here : j = i
      · subst here
        rw [setClient_self] at mentions
        exact (LockClient.mentions_call mentions).imp id fun generated => ⟨rfl, generated⟩
      · rw [setClient_ne s here] at mentions
        exact .inl mentions
    refine ⟨?_, ?_, ?_⟩
    · intro j
      show ((s.setClient i _).clients j).Fits s.key (request.token.toList ++ s.drawn)
      by_cases here : j = i
      · subst here
        rw [setClient_self]
        exact LockClient.call_fits (kept.fits j) kept.stored fresh
      · rw [setClient_ne s here]
        exact fits_append (kept.fits j) _
    · intro token holds
      exact List.mem_append_right _ (kept.stored token holds)
    · intro j k token first second
      rcases known j token first with old | ⟨here, generated⟩
      · rcases known k token second with old' | ⟨_, generated'⟩
        · exact kept.apart j k token old old'
        · exact absurd ((kept.fits j).drawn token old) (fresh token generated')
      · rcases known k token second with old' | ⟨here', _⟩
        · exact absurd ((kept.fits k).drawn token old') (fresh token generated)
        · rw [here, here']
  | resume i busy =>
    have known : ∀ j token, ((s.setClient i ((s.clients i).resume s.now s.key).2.1).clients
        j).Mentions token → (s.clients j).Mentions token := by
      intro j token mentions
      by_cases here : j = i
      · subst here
        rw [setClient_self] at mentions
        exact LockClient.mentions_resume mentions
      · rw [setClient_ne s here] at mentions
        exact mentions
    refine ⟨?_, ?_, fun j k token first second =>
      kept.apart j k token (known j token first) (known k token second)⟩
    · intro j
      show ((s.setClient i _).clients j).Fits ((s.clients i).resume s.now s.key).1 s.drawn
      by_cases here : j = i
      · subst here
        rw [setClient_self]
        exact LockClient.resume_fits (kept.fits j)
      · rw [setClient_ne s here]
        exact LockClient.fits_beside (kept.fits j) (kept.fits i) fun token mine theirs =>
          here (kept.apart j i token mine theirs)
    · intro token holds
      have changes := LockClient.resume_key s.now (kept.fits i)
      rcases changes with untouched | ⟨attempt, trying, _, taken, _⟩ | ⟨_, handled⟩
      · exact kept.stored token (untouched ▸ holds)
      · have same : attempt.token = token := by
          rw [show ((s.clients i).resume s.now s.key).1 = _ from taken] at holds
          exact Option.some.inj holds
        exact (kept.fits i).drawn token (.inr (by rw [trying, ← same]; rfl))
      · exact kept.stored token (handled.less token holds)

/-- Every run keeps the invariant. -/
theorem run_kept {first s : LockSystem ι τ} {past : List (LockSystem ι τ)} (kept : first.Kept)
    (run : Run first past s) : s.Kept := by
  induction run with
  | start => exact kept
  | step _ taken before => exact step_kept before taken

/-! ## The law holds -/

omit [DecidableEq τ] [DecidableEq ι] in
/-- At most one client owns the lock. -/
theorem Kept.exclusive {s : LockSystem ι τ} (kept : s.Kept) {i j : ι} (first : s.Owns i)
    (second : s.Owns j) : i = j := by
  obtain ⟨token, own, holds⟩ := first
  obtain ⟨other, own', holds'⟩ := second
  have same := Key.holds_unique holds' holds
  rw [same] at own'
  exact kept.apart i j token (.inl own) (.inl own')

/-- While a client's call waits, the client stays what it is, and its token is not stored if it
was not. -/
theorem meanwhile_kept {s t : LockSystem ι τ} {i : ι} (kept : s.Kept) (meanwhile : Meanwhile i s t) :
    t.Kept ∧ t.clients i = s.clients i ∧
      ∀ token, (s.clients i).Mentions token → ¬s.key.Holds token → ¬t.key.Holds token := by
  induction meanwhile with
  | now => exact ⟨kept, rfl, fun _ _ unstored => unstored⟩
  | @later middle _ _ _ before taken others others' ih =>
    obtain ⟨middleKept, same, unstored⟩ := ih
    refine ⟨step_kept middleKept taken, ?_⟩
    cases taken with
    | elapse millis =>
      exact ⟨same, fun token mentions missing holds =>
        unstored token mentions missing (Key.holds_of_elapse holds)⟩
    | call j request idle fresh =>
      have ne : i ≠ j := fun here => others request (by rw [here])
      exact ⟨(setClient_ne middle ne _).trans same, unstored⟩
    | resume j busy =>
      have ne : i ≠ j := fun here => others' (by rw [here])
      refine ⟨(setClient_ne middle ne _).trans same, ?_⟩
      intro token mentions missing holds
      have changes := LockClient.resume_key middle.now (middleKept.fits j)
      rcases changes with untouched | ⟨attempt, trying, _, stored, _⟩ | ⟨_, handled⟩
      · exact unstored token mentions missing (untouched ▸ holds)
      · have carried : attempt.token = token := by
          rw [show ((middle.clients j).resume middle.now middle.key).1 = _ from stored] at holds
          exact Option.some.inj holds
        have mine : (middle.clients i).Mentions token := same ▸ mentions
        exact ne (middleKept.apart i j token mine (.inr (by rw [trying, ← carried]; rfl)))
      · exact unstored token mentions missing (handled.less token holds)

/-- A script that does not find its token raises and leaves the key alone. -/
theorem resume_unowned {now : Int} {key : Key τ} {client : LockClient τ} {token : τ}
    (missing : ¬key.Holds token)
    (waiting : client.phase = .releasing token ∨
      client.phase.Prolonging ∧ client.lock.token = some token ∧ client.lock.timeout ≠ none) :
    (client.resume now key).1 = key ∧ RaisesA .lockNotOwnedError (client.resume now key).2.2 := by
  rcases waiting with releasing | ⟨prolonging, own, timed⟩
  · unfold LockClient.resume
    simp only [releasing, Key.luaRelease, if_neg missing, LockClient.answered, ↓reduceIte]
    exact ⟨trivial, _, rfl, rfl⟩
  · obtain ⟨timeout, seconds⟩ := Option.ne_none_iff_exists'.mp timed
    unfold LockClient.resume
    cases phase : client.phase with
    | extending millis replaceTtl =>
      simp only [own, Key.luaExtend, if_neg missing, LockClient.answered, ↓reduceIte]
      exact ⟨trivial, _, rfl, rfl⟩
    | reacquiring =>
      simp only [own, seconds, Key.luaReacquire, if_neg missing, LockClient.answered, ↓reduceIte]
      exact ⟨trivial, _, rfl, rfl⟩
    | idle =>
      rw [phase] at prolonging
      cases prolonging
    | trying attempt =>
      rw [phase] at prolonging
      cases prolonging
    | acquired token =>
      rw [phase] at prolonging
      cases prolonging
    | releasing expected =>
      rw [phase] at prolonging
      cases prolonging

/-- A waiting call whose token is not stored raises, and leaves the key alone, whatever happened
meanwhile. -/
theorem meanwhile_unowned {s t : LockSystem ι τ} {i : ι} {token : τ} (kept : s.Kept)
    (missing : ¬s.key.Holds token) (mentions : (s.clients i).Mentions token)
    (waiting : (s.clients i).phase = .releasing token ∨ (s.clients i).phase.Prolonging ∧
      (s.clients i).lock.token = some token ∧ (s.clients i).lock.timeout ≠ none)
    (meanwhile : Meanwhile i s t) :
    ∃ v last, Step t (.resume i) v last ∧ v.key = t.key ∧ RaisesA .lockNotOwnedError last := by
  obtain ⟨_, same, unstored⟩ := meanwhile_kept kept meanwhile
  have busy : (t.clients i).phase ≠ .idle := by
    rw [same]
    intro idle
    rcases waiting with releasing | ⟨prolonging, _⟩
    · rw [idle] at releasing
      cases releasing
    · rw [idle] at prolonging
      cases prolonging
  have refused : ((t.clients i).resume t.now t.key).1 = t.key ∧
      RaisesA .lockNotOwnedError ((t.clients i).resume t.now t.key).2.2 :=
    resume_unowned (unstored token mentions missing) (same.symm ▸ waiting)
  exact ⟨_, _, .resume i busy, refused.1, refused.2⟩

/-- Calls by others than the owner are refused. -/
theorem Kept.refused {s : LockSystem ι τ} (kept : s.Kept) {i : ι} {request : Request τ}
    (plain : request.token = none) (unowned : ¬s.Owns i) : s.Refused i request := by
  intro t outcome taken
  have later := step_kept kept taken
  cases taken with
  | call _ _ idle fresh =>
    rcases LockClient.call_cases s.now (s.clients i) request with
      ⟨attempt, generated, _⟩ | ⟨_, lacking, message, called⟩ | ⟨expected, _, own, called⟩ |
        ⟨_, own, timed, phase, prolonging, called⟩
    · rw [plain] at generated
      cases generated
    · refine ⟨rfl, fun _ => ⟨_, by rw [called]; rfl, rfl⟩, fun own => ?_⟩
      -- without a timeout the key is kept for good, so the client would own it
      obtain ⟨token, held⟩ := Option.ne_none_iff_exists'.mp own
      rcases lacking with none | untimed
      · exact absurd none own
      · have eternal := (kept.fits i).kept token untimed (.inl held)
        exact absurd ⟨token, held, by rw [eternal]; rfl⟩ unowned
    · refine ⟨rfl, fun none => absurd (own.symm.trans none) (Option.some_ne_none _), fun _ => ?_⟩
      refine ⟨by rw [called], fun meanwhile => ?_⟩
      have missing : ¬s.key.Holds expected := fun holds => unowned ⟨expected, own, holds⟩
      have client := setClient_self s i ((s.clients i).call s.now request).1
      rw [called] at client
      have releasing : ((s.setClient i ((s.clients i).call s.now request).1).clients i).phase =
          .releasing expected := by
        rw [called, client]
      exact meanwhile_unowned later missing (.inr (by rw [releasing]; rfl)) (.inl releasing) meanwhile
    · obtain ⟨token, held⟩ := Option.ne_none_iff_exists'.mp own
      refine ⟨rfl, fun none => absurd none own, fun _ => ⟨by rw [called], fun meanwhile => ?_⟩⟩
      have missing : ¬s.key.Holds token := fun holds => unowned ⟨token, held, holds⟩
      have client : (s.setClient i ((s.clients i).call s.now request).1).clients i =
          { s.clients i with phase } := by
        rw [setClient_self, called]
      have same : ((s.setClient i ((s.clients i).call s.now request).1).clients i).lock =
          (s.clients i).lock := by
        rw [client]
      have waiting : ((s.setClient i ((s.clients i).call s.now request).1).clients
          i).phase.Prolonging := by
        rw [client]
        exact prolonging
      exact meanwhile_unowned later missing (.inl (by rw [same]; exact held))
        (.inr ⟨waiting, by rw [same]; exact held, by rw [same]; exact timed⟩) meanwhile

omit [DecidableEq τ] [DecidableEq ι] in
/-- A longer history still shows the taking. -/
theorem Took.cons {history : List (LockSystem ι τ)} {token : τ} (took : Took history token)
    (s : LockSystem ι τ) : Took (s :: history) token := by
  obtain ⟨later, after, before, earlier, rfl, missing, holds⟩ := took
  exact ⟨s :: later, after, before, earlier, rfl, missing, holds⟩

/-- A client that has just acquired the lock took the missing key. -/
theorem run_took {first s : LockSystem ι τ} {past : List (LockSystem ι τ)}
    (idle : ∀ i, (first.clients i).phase = .idle) (run : Run first past s) {i : ι} {token : τ}
    (acquired : (s.clients i).phase = .acquired token) : Took (s :: past) token := by
  induction run with
  | start =>
    rw [idle i] at acquired
    cases acquired
  | @step past s t _ _ before taken ih =>
    cases taken with
    | elapse millis => exact (ih acquired).cons _
    | call j request free fresh =>
      by_cases here : i = j
      · subst here
        have client := setClient_self s i ((s.clients i).call s.now request).1
        have phase : ((s.clients i).call s.now request).1.phase = .acquired token := by
          rw [← client]
          exact acquired
        rcases LockClient.call_cases s.now (s.clients i) request with
          ⟨_, _, called⟩ | ⟨_, _, _, called⟩ | ⟨_, _, _, called⟩ | ⟨_, _, _, other, prolonging, called⟩
        · rw [called] at phase
          cases phase
        · rw [called, free] at phase
          cases phase
        · rw [called] at phase
          cases phase
        · rw [called] at phase
          cases phase
          cases prolonging
      · have same := setClient_ne s here ((s.clients j).call s.now request).1
        exact (ih (by rw [← same]; exact acquired)).cons _
    | resume j busy =>
      by_cases here : i = j
      · subst here
        have client := setClient_self s i ((s.clients i).resume s.now s.key).2.1
        have phase : ((s.clients i).resume s.now s.key).2.1.phase = .acquired token := by
          rw [← client]
          exact acquired
        rcases LockClient.resume_client s.now s.key (s.clients i) with
          ended | ⟨same, _⟩ | ⟨attempt, _, missing, taken, stored⟩ | ⟨_, _, _, ended⟩
        · rw [ended] at phase
          cases phase
        · rw [same] at phase
          exact (ih phase).cons _
        · rw [taken] at phase
          cases phase
          refine ⟨[], _, s, past, rfl, missing, ?_⟩
          show Key.Holds ((s.clients i).resume s.now s.key).1 attempt.token
          rw [stored]
          rfl
        · rw [ended] at phase
          cases phase
      · have same := setClient_ne s here ((s.clients j).resume s.now s.key).2.1
        exact (ih (by rw [← same]; exact acquired)).cons _

/-- An `acquire` returns `True` when it has taken the key, and stores its token. -/
theorem resume_acquired {now : Int} {key : Key τ} {client : LockClient τ} {token : τ}
    (acquiring : client.phase.Acquiring) (carried : client.phase.token = some token)
    (returned : (client.resume now key).2.2 = some (.returned (some true))) :
    client.phase = .acquired token ∧ (client.resume now key).2.1.lock.token = some token := by
  unfold LockClient.resume at returned ⊢
  cases phase : client.phase with
  | trying attempt =>
    simp only [phase] at returned
    split at returned
    · cases returned
    · cases returned
    · unfold LockClient.refused at returned
      split at returned
      · cases returned
      · split at returned
        · cases returned
        · cases returned
  | acquired own =>
    rw [phase] at carried
    cases carried
    exact ⟨rfl, rfl⟩
  | idle =>
    rw [phase] at acquiring
    cases acquiring
  | releasing expected =>
    rw [phase] at acquiring
    cases acquiring
  | extending millis replaceTtl =>
    rw [phase] at acquiring
    cases acquiring
  | reacquiring =>
    rw [phase] at acquiring
    cases acquiring

/-- Two locks with a timeout of ten seconds. -/
def twoLocks : Bool → Lock Nat := fun _ =>
  { timeout := some { truthy := true, millis := 10000 }, sleep := 100, blocking := true,
    blockingTimeout := none, token := none }

end LockSystem

end RedisPy

import RedisPy.Asyncio.Accounting

/-!
# Who uses a connection of an asyncio pool

The holder of a connection uses it while it executes a command, a call of `get_connection` while
it connects it, and a call of `release` or `re_auth_callback` while it authenticates it. Idle
connections are authenticated without a lock that would keep others away from them: a
`ConnectionPool` releases without its `_lock`, and `re_auth_callback` does not take the condition
of a `BlockingConnectionPool`. As long as nobody takes an idle connection that is being
authenticated, and no connection is authenticated twice at the same time, every connection has
one user.
-/

namespace RedisPy

open Places Runs

/-- The connection that a call authenticates. -/
def PoolCall.auths : PoolCall → Option Nat
  | .dispatching c _ => some c
  | .authenticating c _ => some c
  | _ => none

/-- A pool with the connections on which a command has begun to be sent and its reply has not been
read. -/
structure UsedPool where
  /-- The pool. -/
  pool : TaskPool
  /-- The connections with a command. -/
  busy : Finset Nat

/-- What happens next. -/
inductive UseAction where
  /-- A task goes on in the pool. -/
  | pool (action : PoolAction)
  /-- The holder of a connection begins to send a command. -/
  | send (c : Nat)
  /-- The reply is read, or the command fails. -/
  | reply (c : Nat)
deriving DecidableEq

namespace UsedPool

/-- A new pool. -/
def new (kind : TaskPoolKind) (maxConnections : Nat) : UsedPool where
  pool := .new kind maxConnections
  busy := ∅

/-- One step; a connection is released after its command. -/
def step (s : UsedPool) : UseAction → UsedPool
  | .pool (.release i c) =>
    if c ∈ s.busy then s else { s with pool := s.pool.step (.release i c) }
  | .pool action => { s with pool := s.pool.step action }
  | .send c => if c ∈ s.pool.held then { s with busy := insert c s.busy } else s
  | .reply c => { s with busy := s.busy.erase c }

/-- The tasks that may use a connection: its holder and the calls of the pool. -/
inductive User where
  /-- The task that was handed the connection. -/
  | holder
  /-- A call. -/
  | call (i : Nat)
deriving DecidableEq

/-- The user is between the start of a send and the end of its read; `ensure_connection` counts,
since it sends the handshake when it connects. -/
def Uses (s : UsedPool) (c : Nat) : User → Prop
  | .holder => c ∈ s.pool.held ∧ c ∈ s.busy
  | .call i => (s.pool.calls i).auths = some c ∨ s.pool.calls i = .ensuring c

/-- A connection has at most one user. -/
def OneUser (s : UsedPool) : Prop :=
  ∀ c first second, s.Uses c first → s.Uses c second → first = second

end UsedPool

namespace TaskPool

variable {pool after : TaskPool} {i c : Nat} {call : PoolCall}

/-! ## Connections that are authenticated -/

/-- A call authenticates the connection. -/
def UnderAuth (pool : TaskPool) (c : Nat) : Prop := ∃ i, (pool.calls i).auths = some c

/-- A call of `get_connection` takes an idle connection that is being authenticated. -/
def TakesUnderAuth (pool : TaskPool) (action : PoolAction) : Prop :=
  ((∃ i, action = .enter i ∧ pool.calls i = .entering ∧ pool.guard = none) ∨
      ∃ i, action = .reenter i ∧ pool.calls i = .woken false ∧ pool.guard = none) ∧
    ∃ c ∈ pool.available.getLast?, pool.UnderAuth c

/-- A call of `re_auth_callback` comes to an idle connection that is being authenticated because
of its release. -/
def AuthsTwice (pool : TaskPool) (action : PoolAction) : Prop :=
  (∃ i, action = .listen i ∧ pool.calls i = .listening ∧ pool.lock = none ∧
      ∃ c ∈ pool.available[0]?, pool.UnderAuth c) ∨
    ∃ i d position, action = .authenticated i true ∧ pool.calls i = .authenticating d position ∧
      ∃ c ∈ pool.available[position + 1]?, ∃ j, j ≠ i ∧ (pool.calls j).auths = some c

/-- Connections that are authenticated are idle, and each by one call. -/
structure Apart (pool : TaskPool) : Prop where
  /-- They are idle. -/
  idle : ∀ i c, (pool.calls i).auths = some c → c ∈ pool.available
  /-- No two calls authenticate the same one. -/
  alone : Alone PoolCall.auths pool.calls

/-- A pool after steps that take no idle connection and authenticate none. -/
structure Spares (pool after : TaskPool) : Prop where
  /-- Idle connections stay idle. -/
  available : ∀ c ∈ pool.available, c ∈ after.available
  /-- Calls that authenticate did so before. -/
  auths : ∀ i c, (after.calls i).auths = some c → (pool.calls i).auths = some c

/-- The invariant is kept where no idle connection is taken or authenticated. -/
theorem Apart.spares (apart : pool.Apart) (spares : Spares pool after) : after.Apart where
  idle i c auths := spares.available c (apart.idle i c (spares.auths i c auths))
  alone i j c one two := apart.alone i j c (spares.auths i c one) (spares.auths j c two)

/-- Two steps. -/
theorem Spares.trans {last : TaskPool} (first : Spares pool after) (second : Spares after last) :
    Spares pool last where
  available c idle := second.available c (first.available c idle)
  auths i c auths := first.auths i c (second.auths i c auths)

/-- The same connections and calls. -/
theorem spares_of_eq (available : after.available = pool.available)
    (calls : after.calls = pool.calls) : Spares pool after where
  available c idle := by
    rw [available]
    exact idle
  auths i c auths := by
    rw [calls] at auths
    exact auths

/-- A call goes to a place where it does not authenticate. -/
theorem spares_become (other : call.auths = none) : Spares pool (pool.become i call) where
  available _ idle := idle
  auths j c auths := by
    by_cases here : j = i
    · rw [here, calls_become, other] at auths
      cases auths
    · simp only [become, Function.update_of_ne here] at auths
      exact auths

/-- A notification. -/
theorem spares_notify : Spares pool pool.notify := by
  unfold notify
  cases queue : pool.waiters with
  | nil => exact spares_of_eq rfl rfl
  | cons j rest =>
    have woke : Spares pool ({ pool with waiters := rest, woken := pool.woken ++ [j] } : TaskPool) :=
      spares_of_eq rfl rfl
    exact woke.trans (spares_become rfl)

/-- A call that dispatched ends. -/
theorem spares_finish {failing success : Bool} :
    Spares pool (pool.finish i c failing success).1 := by
  have handled : Spares pool (pool.handled c success) := by
    cases success with
    | false =>
      rw [handled_raised]
      exact spares_of_eq rfl rfl
    | true =>
      have answered : Spares pool ({ pool with tokens := pool.tokens.erase c } : TaskPool) :=
        spares_of_eq rfl rfl
      cases kind : pool.kind with
      | standard =>
        rw [handled_standard kind]
        exact answered
      | blocking =>
        rw [handled_blocking kind]
        exact answered.trans spares_notify
  exact handled.trans (spares_become rfl)

/-- A connection in use is given back. -/
theorem Apart.dispatch (apart : pool.Apart) (busy : c ∉ pool.available) {failing : Bool} :
    (pool.dispatch i c failing).1.Apart := by
  have begun : ((pool.putBack c).become i (.dispatching c failing)).Apart :=
    { idle := fun j d auths => by
        show d ∈ pool.available ++ [c]
        by_cases here : j = i
        · rw [here, calls_become] at auths
          cases auths
          exact List.mem_append_right _ List.mem_cons_self
        · simp only [become, Function.update_of_ne here] at auths
          exact List.mem_append_left _ (apart.idle j d auths)
      alone := apart.alone.move fun d same j auths => by
        cases same
        exact absurd (apart.idle j c auths) busy }
  unfold TaskPool.dispatch
  by_cases token : c ∈ pool.tokens
  · rw [if_pos token]
    exact begun
  · rw [if_neg token]
    exact begun.spares spares_finish

/-- A call of `get_connection` takes a connection that nobody authenticates. -/
theorem Apart.takeFor (apart : pool.Apart)
    (free : ∀ c ∈ pool.available.getLast?, ¬pool.UnderAuth c) : (pool.takeFor i).1.Apart := by
  unfold TaskPool.takeFor getAvailableConnection
  cases top : pool.available.getLast? with
  | some last =>
    have split : pool.available.dropLast ++ [last] = pool.available :=
      List.dropLast_append_getLast? last top
    have taken : ({ pool with
        available := pool.available.dropLast, inUse := insert last pool.inUse } :
        TaskPool).Apart :=
      { idle := fun j d auths => by
          have idle := apart.idle j d auths
          rw [← split] at idle
          rcases List.mem_append.mp idle with still | one
          · exact still
          · rw [List.mem_singleton.mp one] at auths
            exact absurd ⟨j, auths⟩ (free last top)
        alone := apart.alone }
    exact taken.spares (spares_become rfl)
  | none =>
    by_cases full : pool.inUse.card ≥ pool.maxConnections
    · simp only [if_pos full]
      exact apart.spares (spares_become rfl)
    · simp only [if_neg full]
      have made : ({ pool with inUse := insert pool.made pool.inUse, made := pool.made + 1 } :
          TaskPool).Apart := ⟨apart.idle, apart.alone⟩
      exact made.spares (spares_become rfl)

/-- A call of `get_connection` takes a connection that nobody authenticates, or waits. -/
theorem Apart.waitFor (apart : pool.Apart)
    (free : ∀ c ∈ pool.available.getLast?, ¬pool.UnderAuth c) : (pool.waitFor i).1.Apart := by
  unfold TaskPool.waitFor
  by_cases can : pool.canGetConnection = true
  · rw [if_pos can]
    exact apart.takeFor free
  · rw [if_neg can]
    have joined : ({ pool with waiters := pool.waiters ++ [i] } : TaskPool).Apart :=
      ⟨apart.idle, apart.alone⟩
    exact joined.spares (spares_become rfl)

/-- A call of `re_auth_callback` comes to a connection that nobody else authenticates. -/
theorem Apart.authenticateFrom (apart : pool.Apart) (position : Nat)
    (free : ∀ c ∈ pool.available[position]?, FreeFor PoolCall.auths pool.calls i c) :
    (pool.authenticateFrom i position).Apart := by
  unfold TaskPool.authenticateFrom
  cases next : pool.available[position]? with
  | some c =>
    exact
      { idle := fun j d auths => by
          by_cases here : j = i
          · rw [here, calls_become] at auths
            cases auths
            exact List.mem_of_getElem? next
          · simp only [become, Function.update_of_ne here] at auths
            exact apart.idle j d auths
        alone := apart.alone.move fun d same => by
          cases same
          exact free c next }
  | none =>
    have answered : ({ pool with tokens := pool.tokens ∪ pool.inUse } : TaskPool).Apart :=
      ⟨apart.idle, apart.alone⟩
    exact answered.spares (spares_become rfl)

/-! ## Actions -/

/-- A call of `get_connection` takes a connection that nobody authenticates. -/
theorem Apart.enter (apart : pool.Apart) (kept : ¬TakesUnderAuth pool (.enter i)) :
    (pool.enter i).1.Apart := by
  unfold TaskPool.enter
  by_cases ready : pool.calls i = .entering ∧ pool.guard = none
  · rw [if_pos ready]
    have free : ∀ c ∈ pool.available.getLast?, ¬pool.UnderAuth c := fun c top under =>
      kept ⟨.inl ⟨i, rfl, ready.1, ready.2⟩, c, top, under⟩
    split
    · exact apart.takeFor free
    · exact apart.waitFor free
  · rw [if_neg ready]
    exact apart

/-- A woken call of `get_connection` takes a connection that nobody authenticates. -/
theorem Apart.reenter (apart : pool.Apart) (kept : ¬TakesUnderAuth pool (.reenter i)) :
    (pool.reenter i).1.Apart := by
  unfold TaskPool.reenter
  cases place : pool.calls i with
  | woken interrupted =>
    by_cases ready : pool.kind = .blocking ∧ pool.condition = none
    · simp only [if_pos ready]
      have left : ({ pool with woken := pool.woken.erase i } : TaskPool).Apart :=
        ⟨apart.idle, apart.alone⟩
      cases interrupted with
      | true =>
        have ended : Spares ({ pool with woken := pool.woken.erase i } : TaskPool)
            (({ pool with woken := pool.woken.erase i } : TaskPool).become i .idle) :=
          spares_become rfl
        exact left.spares (ended.trans spares_notify)
      | false =>
        have guard : pool.guard = none := (guard_blocking ready.1).trans ready.2
        exact left.waitFor fun c top under =>
          kept ⟨.inr ⟨i, rfl, place, guard⟩, c, top, under⟩
    · simp only [if_neg ready]
      exact apart
  | _ => exact apart

/-- A failed call gives its connection back, or waits for the lock to do so. -/
theorem Apart.fail (apart : pool.Apart) (busy : c ∉ pool.available) {cancelled : Bool} :
    (pool.fail i c cancelled).1.Apart := by
  unfold TaskPool.fail
  split
  · exact apart.dispatch busy
  · exact apart.spares (spares_become rfl)

/-- An interrupted wait. -/
theorem spares_interrupt : Spares pool (pool.interrupt i) := by
  unfold interrupt
  split
  · have moved : Spares pool
        ({ pool with waiters := pool.waiters.erase i, woken := pool.woken ++ [i] } : TaskPool) :=
      spares_of_eq rfl rfl
    exact moved.trans (spares_become rfl)
  · exact spares_become rfl
  · exact spares_of_eq rfl rfl

/-- A call that begins outside the authentications. -/
theorem spares_start (other : call.auths = none) : Spares pool (pool.start i call) := by
  unfold start
  by_cases ready : pool.calls i = .idle
  · rw [if_pos ready]
    exact spares_become other
  · rw [if_neg ready]
    exact spares_of_eq rfl rfl

/-- A connection that a call owns is not idle. -/
theorem Sound.owned_busy (sound : pool.Sound) (own : (pool.calls i).owns = some c) :
    c ∉ pool.available :=
  fun idle => sound.accounts.disjoint c idle (sound.owners.owned i c own).1

/-- A cancelled call. -/
theorem Apart.cancel (apart : pool.Apart) (sound : pool.Sound) : (pool.cancel i).1.Apart := by
  unfold TaskPool.cancel
  cases place : pool.calls i with
  | idle => exact apart
  | waiting => exact apart.spares spares_interrupt
  | woken interrupted => exact apart.spares spares_interrupt
  | ensuring c => exact apart.fail (sound.owned_busy (by rw [place]; rfl))
  | cleaning c cancelled =>
    cases cancelled with
    | true => exact apart
    | false => exact apart.spares (spares_become rfl)
  | dispatching c failing => exact apart.spares spares_finish
  | _ => exact apart.spares (spares_become rfl)

/-- An action that takes no connection that is being authenticated, and authenticates none that
is, keeps the authentications apart. -/
theorem Apart.step (apart : pool.Apart) (sound : pool.Sound) {action : PoolAction}
    (takes : ¬TakesUnderAuth pool action) (auths : ¬AuthsTwice pool action) :
    (pool.step action).Apart := by
  cases action with
  | getConnection i => exact apart.spares (spares_start rfl)
  | enter i => exact apart.enter takes
  | reenter i => exact apart.reenter takes
  | ensured i success =>
    show (pool.ensured i success).1.Apart
    unfold ensured
    cases place : pool.calls i with
    | ensuring c =>
      cases success with
      | true =>
        have holds : Spares pool ({ pool with held := insert c pool.held } : TaskPool) :=
          spares_of_eq rfl rfl
        exact apart.spares (holds.trans (spares_become rfl))
      | false => exact apart.fail (sound.owned_busy (by rw [place]; rfl))
    | _ => exact apart
  | release i c =>
    show (pool.release i c).1.Apart
    unfold release
    by_cases ready : pool.calls i = .idle ∧ c ∈ pool.held
    · simp only [if_pos ready]
      have given : ({ pool with held := pool.held.erase c } : TaskPool).Apart :=
        ⟨apart.idle, apart.alone⟩
      have busy : c ∉ pool.available := fun idle =>
        sound.accounts.disjoint c idle (sound.accounts.heldInUse ready.2)
      split
      · exact given.dispatch busy
      · exact given.spares (spares_become rfl)
    · rw [if_neg ready]
      exact apart
  | giveBack i =>
    show (pool.giveBack i).1.Apart
    unfold giveBack
    by_cases ready : pool.kind = .blocking ∧ pool.condition = none
    · simp only [if_pos ready]
      cases place : pool.calls i with
      | cleaning c cancelled => exact apart.dispatch (sound.owned_busy (by rw [place]; rfl))
      | releasing c => exact apart.dispatch (sound.owned_busy (by rw [place]; rfl))
      | _ => exact apart
    · rw [if_neg ready]
      exact apart
  | dispatched i success =>
    show (pool.dispatched i success).1.Apart
    unfold dispatched
    cases pool.calls i with
    | dispatching c failing => exact apart.spares spares_finish
    | _ => exact apart
  | disconnect i => exact apart.spares (spares_start rfl)
  | disconnected i =>
    show (if pool.calls i = .disconnecting then pool.become i .idle else pool).Apart
    by_cases ready : pool.calls i = .disconnecting
    · rw [if_pos ready]
      exact apart.spares (spares_become rfl)
    · rw [if_neg ready]
      exact apart
  | reAuth i => exact apart.spares (spares_start rfl)
  | listen i =>
    show (pool.listen i).Apart
    unfold listen
    by_cases ready : pool.calls i = .listening ∧ pool.lock = none
    · rw [if_pos ready]
      exact apart.authenticateFrom 0 fun c next j auth =>
        absurd (.inl ⟨i, rfl, ready.1, ready.2, c, next, j, auth⟩) auths
    · rw [if_neg ready]
      exact apart
  | authenticated i success =>
    show (pool.authenticated i success).Apart
    unfold authenticated
    cases place : pool.calls i with
    | authenticating d position =>
      cases success with
      | true =>
        refine apart.authenticateFrom (position + 1) fun c next j auth => ?_
        by_contra other
        exact auths (.inr ⟨i, d, position, rfl, place, c, next, j, other, auth⟩)
      | false => exact apart.spares (spares_become rfl)
    | _ => exact apart
  | cancel i => exact apart.cancel sound
  | timeout i => exact apart.spares spares_interrupt

end TaskPool

/-! ## Runs -/

namespace UsedPool

variable {s : UsedPool}

/-- A step of the pool lets a connection have a second user. -/
def Clashes (s : UsedPool) (action : UseAction) : Prop :=
  ∃ inner, action = .pool inner ∧
    (s.pool.TakesUnderAuth inner ∨ s.pool.AuthsTwice inner)

/-- The invariant of runs without clashes. -/
structure Orderly (s : UsedPool) : Prop where
  /-- The pool is sound. -/
  sound : s.pool.Sound
  /-- Connections are authenticated apart. -/
  apart : s.pool.Apart

/-- A new pool. -/
theorem orderly_new (kind : TaskPoolKind) (maxConnections : Nat) :
    (new kind maxConnections).Orderly where
  sound := TaskPool.sound_new kind maxConnections
  apart :=
    { idle := fun _ _ auths => by cases auths
      alone := fun _ _ _ auths => by cases auths }

/-- A connection that is authenticated, one that is connected and one that is held are different. -/
theorem Orderly.oneUser (orderly : s.Orderly) : s.OneUser := by
  have owned := orderly.sound.owners.owned
  have disjoint := orderly.sound.accounts.disjoint
  have authed : ∀ i c, (s.pool.calls i).auths = some c → c ∉ s.pool.inUse :=
    fun i c auths => disjoint c (orderly.apart.idle i c auths)
  have held : ∀ c i, c ∈ s.pool.held → ¬s.Uses c (.call i) := by
    rintro c i holds (auths | connects)
    · exact authed i c auths (orderly.sound.accounts.heldInUse holds)
    · exact (owned i c (by rw [connects]; rfl)).2 holds
  intro c first second one two
  cases first with
  | holder =>
    cases second with
    | holder => rfl
    | call j => exact absurd two (held c j one.1)
  | call i =>
    cases second with
    | holder => exact absurd one (held c i two.1)
    | call j =>
      congr 1
      rcases one with auths | connects
      · rcases two with others | connects
        · exact orderly.apart.alone i j c auths others
        · exact absurd (owned j c (by rw [connects]; rfl)).1 (authed i c auths)
      · rcases two with others | also
        · exact absurd (owned i c (by rw [connects]; rfl)).1 (authed j c others)
        · exact orderly.sound.owners.alone i j c (by rw [connects]; rfl) (by rw [also]; rfl)

/-- A step that does not let two users clash keeps the invariant. -/
theorem Orderly.step (orderly : s.Orderly) {action : UseAction} (kept : ¬s.Clashes action) :
    (s.step action).Orderly := by
  have goesOn : ∀ inner, action = .pool inner →
      ({ s with pool := s.pool.step inner } : UsedPool).Orderly := fun inner same =>
    { sound := orderly.sound.step inner
      apart := orderly.apart.step orderly.sound (fun takes => kept ⟨inner, same, .inl takes⟩)
        fun auths => kept ⟨inner, same, .inr auths⟩ }
  cases action with
  | pool inner =>
    cases inner with
    | release i c =>
      show (if c ∈ s.busy then s else { s with pool := s.pool.step (.release i c) }).Orderly
      by_cases busy : c ∈ s.busy
      · rw [if_pos busy]
        exact orderly
      · rw [if_neg busy]
        exact goesOn _ rfl
    | _ => exact goesOn _ rfl
  | send c =>
    show (if c ∈ s.pool.held then { s with busy := insert c s.busy } else s).Orderly
    by_cases holds : c ∈ s.pool.held
    · rw [if_pos holds]
      exact ⟨orderly.sound, orderly.apart⟩
    · rw [if_neg holds]
      exact orderly
  | reply c => exact ⟨orderly.sound, orderly.apart⟩

/-- In every run in which no call of `get_connection` takes an idle connection that is being
authenticated, and no call of `re_auth_callback` authenticates one that is, every connection has
one user at a time. -/
theorem run_oneUser (kind : TaskPoolKind) (maxConnections : Nat) (actions : List UseAction)
    (kept : Each step (fun s action => ¬Clashes s action) (new kind maxConnections) actions) :
    Always step OneUser (new kind maxConnections) actions := by
  intro earlier later split
  have front : Each step (fun s action => ¬Clashes s action) (new kind maxConnections) earlier := by
    intro first action rest inside
    exact kept first action (rest ++ later) (by rw [split, inside, List.append_assoc]; rfl)
  have reached : (earlier.foldl step (new kind maxConnections)).Orderly :=
    inv_of_each Orderly (fun _ _ orderly allowed => orderly.step allowed)
      (orderly_new kind maxConnections) front
  exact reached.oneUser

/-- A connection is handed out and executes a command. -/
theorem run_oneUser_single : Always step OneUser (new .standard 1)
    [.pool (.getConnection 0), .pool (.enter 0), .pool (.ensured 0 true), .send 0] := by
  refine run_oneUser .standard 1 _ ?_
  refine each_cons.mpr ⟨?_, each_cons.mpr ⟨?_, each_cons.mpr ⟨?_, each_cons.mpr ⟨?_, each_nil⟩⟩⟩⟩
  · rintro ⟨inner, same, ⟨⟨i, rfl, -⟩ | ⟨i, rfl, -⟩, -⟩ | ⟨i, rfl, -⟩ | ⟨i, d, p, rfl, -⟩⟩ <;>
      cases same
  · rintro ⟨inner, same, ⟨-, c, top, -⟩ | ⟨i, rfl, -⟩ | ⟨i, d, p, rfl, -⟩⟩
    · cases top
    · cases same
    · cases same
  · rintro ⟨inner, same, ⟨⟨i, rfl, -⟩ | ⟨i, rfl, -⟩, -⟩ | ⟨i, rfl, -⟩ | ⟨i, d, p, rfl, -⟩⟩ <;>
      cases same
  · rintro ⟨inner, same, -⟩
    cases same

/-- A `ConnectionPool` authenticates a released connection with its new token while another task
takes it, connects it and sends a command on it. -/
theorem released_under_auth_shared : ¬Always step OneUser (new .standard 1)
    [.pool (.getConnection 0), .pool (.enter 0), .pool (.ensured 0 true), .pool (.reAuth 1),
      .pool (.listen 1), .pool (.release 0 0), .pool (.getConnection 2), .pool (.enter 2),
      .pool (.ensured 2 true), .send 0] := by
  intro always
  have last := always
    [.pool (.getConnection 0), .pool (.enter 0), .pool (.ensured 0 true), .pool (.reAuth 1),
      .pool (.listen 1), .pool (.release 0 0), .pool (.getConnection 2), .pool (.enter 2),
      .pool (.ensured 2 true), .send 0] [] rfl
  have same := last 0 .holder (.call 0) ⟨by decide +kernel, by decide +kernel⟩ (.inl rfl)
  cases same

end UsedPool

end RedisPy

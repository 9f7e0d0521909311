import RedisPy.Asyncio.Tasks
import RedisPy.Lib.Runs

/-!
# The accounts of an asyncio pool

However the tasks interleave, no connection is idle twice or idle and in use, there are never too
many, and nobody is handed a connection that somebody holds. A `get_connection` that fails gives
its connection back, unless it is cancelled while its clean-up waits for the lock of a blocking
pool's condition: `release` has not done anything by then, and the connection stays in use for
good.
-/

namespace RedisPy

open Places Runs

namespace PoolCall

variable {kind : TaskPoolKind} {c : Nat} {failing : Bool}

/-- A `ConnectionPool` connects inside its lock. -/
theorem inLock_ensuring : (ensuring c).inLock kind = true ↔ kind = .standard := by
  cases kind <;> simp [inLock]

/-- The clean-up of a `ConnectionPool` is inside its lock. -/
theorem inLock_dispatching :
    (dispatching c failing).inLock kind = true ↔ kind = .standard ∧ failing = true := by
  cases kind <;> simp [inLock]

/-- A `BlockingConnectionPool` dispatches under the condition. -/
theorem inCondition_dispatching :
    (dispatching c failing).inCondition kind = true ↔ kind = .blocking := by
  cases kind <;> simp [inCondition]

end PoolCall

namespace TaskPool

variable {pool : TaskPool} {i c : Nat} {call : PoolCall}

/-! ## The invariant -/

/-- The connections are accounted for. -/
structure Accounts (pool : TaskPool) : Prop where
  /-- No connection is idle twice. -/
  nodup : pool.available.Nodup
  /-- No connection is idle and in use. -/
  disjoint : ∀ c ∈ pool.available, c ∉ pool.inUse
  /-- There are not too many connections. -/
  bounded : pool.available.length + pool.inUse.card ≤ pool.maxConnections
  /-- All connections were made. -/
  below : ∀ c, c ∈ pool.available ∨ c ∈ pool.inUse → c < pool.made
  /-- Connections that somebody holds are in use. -/
  heldInUse : pool.held ⊆ pool.inUse

/-- Every call has its own connection. -/
structure Owners (pool : TaskPool) : Prop where
  /-- It is in use, and nobody holds it. -/
  owned : ∀ i c, (pool.calls i).owns = some c → c ∈ pool.inUse ∧ c ∉ pool.held
  /-- No two calls have the same one. -/
  alone : Alone PoolCall.owns pool.calls
  /-- A failed call has given its connection back before it ends. -/
  back : ∀ i c, pool.calls i = .dispatching c true → c ∈ pool.available

/-- The locks are held by those inside. -/
structure Locked (pool : TaskPool) : Prop where
  /-- `_lock`. -/
  lock : Guards (PoolCall.inLock pool.kind) pool.calls pool.lock
  /-- The lock of `_condition`. -/
  condition : Guards (PoolCall.inCondition pool.kind) pool.calls pool.condition

/-- The queues have those who wait and those who were woken. -/
structure Queued (pool : TaskPool) : Prop where
  /-- The queue of the condition. -/
  waiters : Lines PoolCall.isWaiting pool.calls pool.waiters
  /-- Those who were woken. -/
  woken : Lines PoolCall.isWoken pool.calls pool.woken

/-- The invariant of all runs. -/
structure Sound (pool : TaskPool) : Prop where
  /-- The connections. -/
  accounts : pool.Accounts
  /-- The calls. -/
  owners : pool.Owners
  /-- The locks. -/
  locked : pool.Locked
  /-- The queues. -/
  queued : pool.Queued

/-- A new pool is sound. -/
theorem sound_new (kind : TaskPoolKind) (maxConnections : Nat) :
    (new kind maxConnections).Sound where
  accounts :=
    { nodup := List.nodup_nil
      disjoint := fun _ member => absurd member List.not_mem_nil
      bounded := Nat.zero_le _
      below := fun c member => by
        rcases member with idle | used
        · exact absurd idle List.not_mem_nil
        · exact absurd used (Finset.notMem_empty c)
      heldInUse := Finset.Subset.refl _ }
  owners :=
    { owned := fun _ _ own => by cases own
      alone := fun _ _ _ own => by cases own
      back := fun _ _ same => by cases same }
  locked :=
    { lock := fun i => by simp [new, PoolCall.inLock]
      condition := fun i => by simp [new, PoolCall.inCondition] }
  queued :=
    { waiters := ⟨List.nodup_nil, fun i => by simp [new, PoolCall.isWaiting]⟩
      woken := ⟨List.nodup_nil, fun i => by simp [new, PoolCall.isWoken]⟩ }

/-! ## Calls that go on -/

/-- A call is where it went. -/
theorem calls_become : (pool.become i call).calls i = call := Function.update_self ..

/-- A call may go on with a connection of its own, or without one. -/
theorem Owners.become (owners : pool.Owners)
    (own : ∀ c, call.owns = some c →
      (c ∈ pool.inUse ∧ c ∉ pool.held) ∧ FreeFor PoolCall.owns pool.calls i c)
    (back : ∀ c, call = .dispatching c true → c ∈ pool.available) :
    (pool.become i call).Owners where
  owned j c owns := by
    by_cases here : j = i
    · rw [here] at owns
      simp only [TaskPool.become, Function.update_self] at owns
      exact (own c owns).1
    · simp only [TaskPool.become, Function.update_of_ne here] at owns
      exact owners.owned j c owns
  alone := owners.alone.move fun c owns => (own c owns).2
  back j c same := by
    by_cases here : j = i
    · rw [here] at same
      simp only [TaskPool.become, Function.update_self] at same
      exact back c same
    · simp only [TaskPool.become, Function.update_of_ne here] at same
      exact owners.back j c same

/-- A call may acquire a free lock. -/
theorem Locked.become (locked : pool.Locked)
    (lock : call.inLock pool.kind = true → pool.lock = none ∨ pool.lock = some i)
    (condition : call.inCondition pool.kind = true →
      pool.condition = none ∨ pool.condition = some i) : (pool.become i call).Locked where
  lock := locked.lock.move lock
  condition := locked.condition.move condition

/-- A call that neither joins nor leaves a queue. -/
theorem Queued.become (queued : pool.Queued) (waiting : call.isWaiting = (pool.calls i).isWaiting)
    (woken : call.isWoken = (pool.calls i).isWoken) : (pool.become i call).Queued where
  waiters := queued.waiters.move waiting
  woken := queued.woken.move woken

/-- The accounts do not depend on where the calls are. -/
theorem Accounts.become (accounts : pool.Accounts) : (pool.become i call).Accounts :=
  ⟨accounts.nodup, accounts.disjoint, accounts.bounded, accounts.below, accounts.heldInUse⟩

/-- A call outside the locks and queues goes on to such a place, with the connection that it had
or without. -/
theorem Sound.become (sound : pool.Sound)
    (own : ∀ c, call.owns = some c → (pool.calls i).owns = some c)
    (back : ∀ c, call ≠ .dispatching c true)
    (lock : call.inLock pool.kind = true → pool.lock = none ∨ pool.lock = some i)
    (condition : call.inCondition pool.kind = false)
    (waiting : call.isWaiting = (pool.calls i).isWaiting)
    (woken : call.isWoken = (pool.calls i).isWoken) : (pool.become i call).Sound where
  accounts := sound.accounts.become
  owners := sound.owners.become
    (fun c owns => ⟨sound.owners.owned i c (own c owns), sound.owners.alone.freeFor (own c owns)⟩)
    fun c same => absurd same (back c)
  locked := sound.locked.become lock fun inside => by
    rw [condition] at inside
    cases inside
  queued := sound.queued.become waiting woken

/-- A call stands in no queue, wherever it goes. -/
structure Away (i : Nat) (pool : TaskPool) : Prop where
  /-- The queue of the condition. -/
  waiters : Lines PoolCall.isWaiting pool.calls pool.waiters
  /-- The call does not wait. -/
  outside : (pool.calls i).isWaiting = false
  /-- It is not among those who were woken. -/
  woken : ∀ call : PoolCall, call.isWoken = false →
    Lines PoolCall.isWoken (Function.update pool.calls i call) pool.woken

/-- A call that neither waits nor was woken. -/
theorem Queued.away (queued : pool.Queued) (waiting : (pool.calls i).isWaiting = false)
    (woken : (pool.calls i).isWoken = false) : pool.Away i where
  waiters := queued.waiters
  outside := waiting
  woken _ asleep := queued.woken.move (asleep.trans woken.symm)

/-- A call that was woken leaves those who were. -/
theorem Queued.away_of_woken (queued : pool.Queued) {interrupted : Bool}
    (place : pool.calls i = .woken interrupted) :
    ({ pool with woken := pool.woken.erase i } : TaskPool).Away i where
  waiters := queued.waiters
  outside := by
    show (pool.calls i).isWaiting = false
    rw [place]
    rfl
  woken _ asleep := queued.woken.leave asleep

/-- A call in no queue goes on to a place outside the queues. -/
theorem Away.queued (away : pool.Away i) (waiting : call.isWaiting = false)
    (woken : call.isWoken = false) : (pool.become i call).Queued where
  waiters := away.waiters.move (waiting.trans away.outside.symm)
  woken := away.woken call woken

/-- A call in no queue ends. -/
theorem sound_idle (accounts : pool.Accounts) (owners : pool.Owners) (locked : pool.Locked)
    (away : pool.Away i) : (pool.become i .idle).Sound where
  accounts := accounts.become
  owners := owners.become (fun _ own => by cases own) fun _ same => by cases same
  locked := locked.become (fun inside => by cases inside) fun inside => by cases inside
  queued := away.queued rfl rfl

/-- A call that neither waits nor was woken ends. -/
theorem Sound.idle (sound : pool.Sound) (waiting : (pool.calls i).isWaiting = false)
    (woken : (pool.calls i).isWoken = false) : (pool.become i .idle).Sound :=
  sound_idle sound.accounts sound.owners sound.locked (sound.queued.away waiting woken)

/-- The first one in the queue is woken. -/
theorem Sound.notify (sound : pool.Sound) : pool.notify.Sound := by
  unfold TaskPool.notify
  cases queue : pool.waiters with
  | nil => exact sound
  | cons j rest =>
    have waiters := sound.queued.waiters
    rw [queue] at waiters
    have waiting : (pool.calls j).isWaiting = true := (waiters.mem j).mp List.mem_cons_self
    have asleep : (pool.calls j).isWoken = false := by
      cases place : pool.calls j with
      | waiting => rfl
      | _ =>
        rw [place] at waiting
        cases waiting
    have owners : ({ pool with waiters := rest, woken := pool.woken ++ [j] } : TaskPool).Owners :=
      ⟨sound.owners.owned, sound.owners.alone, sound.owners.back⟩
    have locked : ({ pool with waiters := rest, woken := pool.woken ++ [j] } : TaskPool).Locked :=
      ⟨sound.locked.lock, sound.locked.condition⟩
    exact
      { accounts := Accounts.become ⟨sound.accounts.nodup, sound.accounts.disjoint,
          sound.accounts.bounded, sound.accounts.below, sound.accounts.heldInUse⟩
        owners := owners.become (fun _ own => by cases own) fun _ same => by cases same
        locked := locked.become (fun inside => by cases inside) fun inside => by cases inside
        queued := ⟨waiters.next rfl, sound.queued.woken.join asleep rfl⟩ }

/-! ## Connections that are taken -/

/-- A connection that is taken was idle or is new, and nothing but the accounts changes. -/
theorem getAvailableConnection_spec {taken : TaskPool} (accounts : pool.Accounts)
    (got : pool.getAvailableConnection = .ok (c, taken)) :
    c ∉ pool.inUse ∧ taken.Accounts ∧ ∃ available made,
      taken = { pool with available, inUse := insert c pool.inUse, made } := by
  unfold getAvailableConnection at got
  cases top : pool.available.getLast? with
  | some last =>
    simp only [top] at got
    obtain ⟨rfl, rfl⟩ := Prod.mk.inj (Except.ok.inj got)
    have split : pool.available.dropLast ++ [last] = pool.available :=
      List.dropLast_append_getLast? last top
    have member : last ∈ pool.available := by
      rw [← split]
      exact List.mem_append_right _ List.mem_cons_self
    have fresh : last ∉ pool.inUse := accounts.disjoint last member
    have nodup := accounts.nodup
    rw [← split] at nodup
    have gone : last ∉ pool.available.dropLast := fun still =>
      (List.nodup_append.mp nodup).2.2 last still last List.mem_cons_self rfl
    have rest : ∀ {other}, other ∈ pool.available.dropLast → other ∈ pool.available :=
      fun still => List.mem_of_mem_dropLast still
    refine ⟨fresh, ?_, _, _, rfl⟩
    exact
      { nodup := (List.nodup_append.mp nodup).1
        disjoint := fun other still used => by
          rcases Finset.mem_insert.mp used with same | used
          · rw [same] at still
            exact gone still
          · exact accounts.disjoint other (rest still) used
        bounded := by
          have count : pool.available.dropLast.length + 1 = pool.available.length := by
            rw [← split]
            simp
          have bounded := accounts.bounded
          rw [Finset.card_insert_of_notMem fresh]
          show pool.available.dropLast.length + (pool.inUse.card + 1) ≤ pool.maxConnections
          omega
        below := fun other place => by
          rcases place with still | used
          · exact accounts.below other (.inl (rest still))
          · rcases Finset.mem_insert.mp used with same | used
            · rw [same]
              exact accounts.below last (.inl member)
            · exact accounts.below other (.inr used)
        heldInUse := accounts.heldInUse.trans (Finset.subset_insert last pool.inUse) }
  | none =>
    simp only [top] at got
    have empty : pool.available = [] := List.getLast?_eq_none_iff.mp top
    by_cases full : pool.inUse.card ≥ pool.maxConnections
    · rw [if_pos full] at got
      cases got
    · rw [if_neg full] at got
      obtain ⟨rfl, rfl⟩ := Prod.mk.inj (Except.ok.inj got)
      have fresh : pool.made ∉ pool.inUse := fun used =>
        Nat.lt_irrefl _ (accounts.below pool.made (.inr used))
      refine ⟨fresh, ?_, _, _, rfl⟩
      exact
        { nodup := accounts.nodup
          disjoint := fun other idle => by
            rw [empty] at idle
            exact absurd idle List.not_mem_nil
          bounded := by
            rw [Finset.card_insert_of_notMem fresh]
            show pool.available.length + (pool.inUse.card + 1) ≤ pool.maxConnections
            rw [empty, List.length_nil]
            omega
          below := fun other place => by
            show other < pool.made + 1
            rcases place with idle | used
            · have early := accounts.below other (.inl idle)
              omega
            · rcases Finset.mem_insert.mp used with same | used
              · omega
              · have early := accounts.below other (.inr used)
                omega
          heldInUse := accounts.heldInUse.trans (Finset.subset_insert pool.made pool.inUse) }

/-- A `ConnectionPool` has one lock. -/
theorem guard_standard (standard : pool.kind = .standard) : pool.guard = pool.lock := by
  rw [guard, standard]

/-- A `BlockingConnectionPool` has a condition. -/
theorem guard_blocking (blocking : pool.kind = .blocking) : pool.guard = pool.condition := by
  rw [guard, blocking]

/-- While the lock of `get_connection` is free no failed call is about to end. -/
theorem Locked.guard_free (locked : pool.Locked) (free : pool.guard = none) (c : Nat) :
    pool.calls i ≠ .dispatching c true := by
  intro place
  cases kind : pool.kind with
  | standard =>
    have inside := (locked.lock i).mpr (by rw [kind, place]; rfl)
    rw [← guard_standard kind, free] at inside
    cases inside
  | blocking =>
    have inside := (locked.condition i).mpr (by rw [kind, place]; rfl)
    rw [← guard_blocking kind, free] at inside
    cases inside

/-- A call outside the queues takes a connection. -/
theorem sound_takeFor (accounts : pool.Accounts) (owners : pool.Owners) (locked : pool.Locked)
    (away : pool.Away i) (free : pool.guard = none) : (pool.takeFor i).1.Sound := by
  unfold TaskPool.takeFor
  cases got : pool.getAvailableConnection with
  | error e => exact sound_idle accounts owners locked away
  | ok pair =>
    obtain ⟨c, taken⟩ := pair
    obtain ⟨fresh, counted, available, made, rfl⟩ := getAvailableConnection_spec accounts got
    have unowned : ∀ j, (pool.calls j).owns ≠ some c := fun j own =>
      fresh (owners.owned j c own).1
    have owners : ({ pool with available, inUse := insert c pool.inUse, made } : TaskPool).Owners :=
      { owned := fun j other own => by
          obtain ⟨used, unheld⟩ := owners.owned j other own
          exact ⟨Finset.mem_insert_of_mem used, unheld⟩
        alone := owners.alone
        back := fun j other place => absurd place (locked.guard_free free other) }
    have locked : ({ pool with available, inUse := insert c pool.inUse, made } : TaskPool).Locked :=
      ⟨locked.lock, locked.condition⟩
    have away : ({ pool with available, inUse := insert c pool.inUse, made } : TaskPool).Away i :=
      ⟨away.waiters, away.outside, away.woken⟩
    exact
      { accounts := counted.become
        owners := owners.become
          (fun other own => by
            cases own
            refine ⟨⟨Finset.mem_insert_self c pool.inUse, fun held => ?_⟩, fun j own => ?_⟩
            · exact fresh (accounts.heldInUse held)
            · exact absurd own (unowned j))
          fun _ same => by cases same
        locked := locked.become
          (fun inside => by
            have standard : pool.kind = .standard := PoolCall.inLock_ensuring.mp inside
            rw [guard_standard standard] at free
            exact .inl free)
          fun inside => by cases inside
        queued := away.queued rfl rfl }

/-! ## Connections that are given back -/

/-- A connection in use that a call has for itself becomes idle. -/
theorem Sound.putBack (sound : pool.Sound) {failing : Bool}
    (own : c ∈ pool.inUse ∧ c ∉ pool.held) (alone : FreeFor PoolCall.owns pool.calls i c)
    (waiting : (pool.calls i).isWaiting = false) (woken : (pool.calls i).isWoken = false)
    (lock : pool.kind = .standard → failing = true → pool.lock = some i)
    (condition : pool.kind = .blocking → pool.condition = none) :
    ((pool.putBack c).become i (.dispatching c failing)).Sound := by
  have idle : c ∉ pool.available := fun idle => sound.accounts.disjoint c idle own.1
  have accounts : (pool.putBack c).Accounts :=
    { nodup := by
        refine List.nodup_append.mpr ⟨sound.accounts.nodup, List.nodup_singleton c, ?_⟩
        intro other old new one same
        rw [same, List.mem_singleton.mp one] at old
        exact idle old
      disjoint := fun other place used => by
        obtain ⟨differs, used⟩ := Finset.mem_erase.mp used
        rcases List.mem_append.mp place with old | one
        · exact sound.accounts.disjoint other old used
        · exact differs (List.mem_singleton.mp one)
      bounded := by
        have bounded := sound.accounts.bounded
        have some : 0 < pool.inUse.card := Finset.card_pos.mpr ⟨c, own.1⟩
        show (pool.available ++ [c]).length + (pool.inUse.erase c).card ≤ pool.maxConnections
        rw [Finset.card_erase_of_mem own.1, List.length_append, List.length_singleton]
        omega
      below := fun other place => by
        rcases place with idle | used
        · rcases List.mem_append.mp idle with old | one
          · exact sound.accounts.below other (.inl old)
          · rw [List.mem_singleton.mp one]
            exact sound.accounts.below c (.inr own.1)
        · exact sound.accounts.below other (.inr (Finset.mem_of_mem_erase used))
      heldInUse := fun other held => by
        refine Finset.mem_erase.mpr ⟨fun same => ?_, sound.accounts.heldInUse held⟩
        rw [same] at held
        exact own.2 held }
  have owns : ∀ j other,
      (((pool.putBack c).become i (.dispatching c failing)).calls j).owns = some other →
        j ≠ i ∧ (pool.calls j).owns = some other := by
    intro j other owns
    by_cases here : j = i
    · rw [here] at owns
      simp [TaskPool.become, PoolCall.owns] at owns
    · simp only [TaskPool.become, Function.update_of_ne here] at owns
      exact ⟨here, owns⟩
  exact
    { accounts := accounts.become
      owners :=
        { owned := fun j other owned => by
            obtain ⟨elsewhere, owned⟩ := owns j other owned
            obtain ⟨used, unheld⟩ := sound.owners.owned j other owned
            refine ⟨Finset.mem_erase.mpr ⟨fun same => ?_, used⟩, unheld⟩
            rw [same] at owned
            exact elsewhere (alone j owned)
          alone := sound.owners.alone.move fun _ none => by cases none
          back := fun j other place => by
            show other ∈ pool.available ++ [c]
            by_cases here : j = i
            · rw [here] at place
              simp only [TaskPool.become, Function.update_self, PoolCall.dispatching.injEq] at place
              rw [place.1]
              exact List.mem_append_right _ List.mem_cons_self
            · simp only [TaskPool.become, Function.update_of_ne here] at place
              exact List.mem_append_left _ (sound.owners.back j other place) }
      locked := Locked.become ⟨sound.locked.lock, sound.locked.condition⟩
        (fun inside => by
          obtain ⟨standard, fails⟩ := PoolCall.inLock_dispatching.mp inside
          exact .inr (lock standard fails))
        fun inside => .inl (condition (PoolCall.inCondition_dispatching.mp inside))
      queued := Queued.become ⟨sound.queued.waiters, sound.queued.woken⟩ waiting.symm woken.symm }

/-- The tokens do not matter. -/
theorem Sound.tokens (sound : pool.Sound) (tokens : Finset Nat) :
    ({ pool with tokens } : TaskPool).Sound :=
  ⟨⟨sound.accounts.nodup, sound.accounts.disjoint, sound.accounts.bounded, sound.accounts.below,
    sound.accounts.heldInUse⟩, ⟨sound.owners.owned, sound.owners.alone, sound.owners.back⟩,
    ⟨sound.locked.lock, sound.locked.condition⟩, ⟨sound.queued.waiters, sound.queued.woken⟩⟩

/-- A notification leaves the idle connections alone. -/
theorem notify_available : pool.notify.available = pool.available := by
  unfold TaskPool.notify
  cases pool.waiters <;> rfl

/-- A notification leaves those alone who do not wait. -/
theorem Queued.notify_calls (queued : pool.Queued) (waiting : (pool.calls i).isWaiting = false) :
    pool.notify.calls i = pool.calls i := by
  unfold TaskPool.notify
  cases queue : pool.waiters with
  | nil => rfl
  | cons j rest =>
    have other : i ≠ j := by
      intro same
      have first := (queued.waiters.mem j).mp (by rw [queue]; exact List.mem_cons_self)
      rw [← same, waiting] at first
      cases first
    exact Function.update_of_ne other _ _

/-- After an exception nothing is done. -/
theorem handled_raised : pool.handled c false = pool := by
  unfold handled
  cases pool.kind <;> rfl

/-- A `ConnectionPool` notifies nobody. -/
theorem handled_standard (standard : pool.kind = .standard) :
    pool.handled c true = { pool with tokens := pool.tokens.erase c } := by
  cases pool
  cases standard
  rfl

/-- A `BlockingConnectionPool` notifies. -/
theorem handled_blocking (blocking : pool.kind = .blocking) :
    pool.handled c true = ({ pool with tokens := pool.tokens.erase c } : TaskPool).notify := by
  cases pool
  cases blocking
  rfl

/-- A handled event leaves the idle connections alone. -/
theorem handled_available (success : Bool) : (pool.handled c success).available = pool.available := by
  cases success with
  | false => rw [handled_raised]
  | true =>
    cases kind : pool.kind with
    | standard => rw [handled_standard kind]
    | blocking => rw [handled_blocking kind, notify_available]

/-- A handled event moves nobody who does not wait. -/
theorem Sound.handled (sound : pool.Sound) (success : Bool)
    (waiting : (pool.calls i).isWaiting = false) :
    (pool.handled c success).Sound ∧ (pool.handled c success).calls i = pool.calls i := by
  have answered := sound.tokens (pool.tokens.erase c)
  cases success with
  | false =>
    rw [handled_raised]
    exact ⟨sound, rfl⟩
  | true =>
    cases kind : pool.kind with
    | standard =>
      rw [handled_standard kind]
      exact ⟨answered, rfl⟩
    | blocking =>
      rw [handled_blocking kind]
      exact ⟨answered.notify, answered.queued.notify_calls waiting⟩

/-- The event is handled, and the call ends. -/
theorem Sound.finish (sound : pool.Sound) {failing : Bool} (success : Bool)
    (place : pool.calls i = .dispatching c failing) : (pool.finish i c failing success).1.Sound := by
  have waiting : (pool.calls i).isWaiting = false := by rw [place]; rfl
  obtain ⟨handled, same⟩ := sound.handled (c := c) success waiting
  exact handled.idle (by rw [same, place]; rfl) (by rw [same, place]; rfl)

/-- How a call ends that dispatched. -/
def Returns (c : Nat) (result : TaskPool × Option PoolOutcome) : Prop :=
  result.2 = none ∨ result.2 = some (.failed (some c)) ∧ c ∈ result.1.available

/-- A failed call that ends has given its connection back. -/
theorem finish_returns {failing success : Bool} (back : failing = true → c ∈ pool.available) :
    Returns c (pool.finish i c failing success) := by
  cases failing with
  | false => exact .inl rfl
  | true =>
    refine .inr ⟨rfl, ?_⟩
    show c ∈ (pool.handled c success).available
    rw [handled_available]
    exact back rfl

/-- A connection in use that a call has for itself is given back. -/
theorem Sound.dispatch (sound : pool.Sound) (failing : Bool)
    (own : c ∈ pool.inUse ∧ c ∉ pool.held) (alone : FreeFor PoolCall.owns pool.calls i c)
    (waiting : (pool.calls i).isWaiting = false) (woken : (pool.calls i).isWoken = false)
    (lock : pool.kind = .standard → failing = true → pool.lock = some i)
    (condition : pool.kind = .blocking → pool.condition = none) :
    (pool.dispatch i c failing).1.Sound ∧ Returns c (pool.dispatch i c failing) := by
  have begun := sound.putBack own alone waiting woken lock condition
  have place : ((pool.putBack c).become i (.dispatching c failing)).calls i =
      .dispatching c failing := Function.update_self ..
  have back : c ∈ ((pool.putBack c).become i (.dispatching c failing)).available :=
    List.mem_append_right _ List.mem_cons_self
  unfold TaskPool.dispatch
  by_cases token : c ∈ pool.tokens
  · rw [if_pos token]
    exact ⟨begun, .inl rfl⟩
  · rw [if_neg token]
    exact ⟨begun.finish true place, finish_returns fun _ => back⟩

/-! ## Actions -/

/-- The accounts after a result, and how it ends. -/
structure Fine (pool : TaskPool) (result : TaskPool × Option PoolOutcome) : Prop where
  /-- The invariant is kept. -/
  sound : result.1.Sound
  /-- Nobody holds a connection that is returned. -/
  unheld : ∀ c, result.2 = some (.returned c) → c ∉ pool.held
  /-- A connection that a failed call had taken is idle. -/
  back : ∀ c, result.2 = some (.failed (some c)) → c ∈ result.1.available

/-- A result without an outcome. -/
theorem Fine.quiet {after : TaskPool} (sound : after.Sound) : Fine pool (after, none) where
  sound := sound
  unheld _ ended := by cases ended
  back _ ended := by cases ended

/-- A call that fails before it takes a connection. -/
theorem Fine.early {after : TaskPool} (sound : after.Sound) :
    Fine pool (after, some (.failed none)) where
  sound := sound
  unheld _ ended := by cases ended
  back _ ended := by cases ended

/-- A connection that is given back. -/
theorem Fine.returns {result : TaskPool × Option PoolOutcome} (sound : result.1.Sound)
    (returns : Returns c result) : Fine pool result where
  sound := sound
  unheld other same := by
    rcases returns with none | ⟨ended, -⟩
    · rw [none] at same
      cases same
    · rw [ended] at same
      cases same
  back other same := by
    rcases returns with none | ⟨ended, idle⟩
    · rw [none] at same
      cases same
    · rw [ended] at same
      cases same
      exact idle

/-- A call in no queue takes a connection. -/
theorem fine_takeFor (accounts : pool.Accounts) (owners : pool.Owners) (locked : pool.Locked)
    (away : pool.Away i) (free : pool.guard = none) : Fine pool (pool.takeFor i) := by
  have after := sound_takeFor accounts owners locked away free
  revert after
  unfold TaskPool.takeFor
  cases pool.getAvailableConnection with
  | error e => exact fun after => .early after
  | ok pair => exact fun after => .quiet after

/-- A call in no queue takes a connection or joins the queue. -/
theorem fine_waitFor (accounts : pool.Accounts) (owners : pool.Owners) (locked : pool.Locked)
    (away : pool.Away i) (free : pool.guard = none) : Fine pool (pool.waitFor i) := by
  unfold TaskPool.waitFor
  by_cases can : pool.canGetConnection = true
  · rw [if_pos can]
    exact fine_takeFor accounts owners locked away free
  · rw [if_neg can]
    have owners : ({ pool with waiters := pool.waiters ++ [i] } : TaskPool).Owners :=
      ⟨owners.owned, owners.alone, owners.back⟩
    have locked : ({ pool with waiters := pool.waiters ++ [i] } : TaskPool).Locked :=
      ⟨locked.lock, locked.condition⟩
    exact .quiet
      { accounts := ⟨accounts.nodup, accounts.disjoint, accounts.bounded, accounts.below,
          accounts.heldInUse⟩
        owners := owners.become (fun _ own => by cases own) fun _ same => by cases same
        locked := locked.become (fun inside => by cases inside) fun inside => by cases inside
        queued := ⟨away.waiters.join away.outside rfl, away.woken .waiting rfl⟩ }

/-- `get_connection` gets its lock. -/
theorem Sound.fine_enter (sound : pool.Sound) : Fine pool (pool.enter i) := by
  unfold TaskPool.enter
  by_cases ready : pool.calls i = .entering ∧ pool.guard = none
  · rw [if_pos ready]
    have away : pool.Away i :=
      sound.queued.away (by rw [ready.1]; rfl) (by rw [ready.1]; rfl)
    split
    · exact fine_takeFor sound.accounts sound.owners sound.locked away ready.2
    · exact fine_waitFor sound.accounts sound.owners sound.locked away ready.2
  · rw [if_neg ready]
    exact .quiet sound

/-- A woken call gets its lock again. -/
theorem Sound.fine_reenter (sound : pool.Sound) : Fine pool (pool.reenter i) := by
  unfold TaskPool.reenter
  cases place : pool.calls i with
  | woken interrupted =>
    by_cases ready : pool.kind = .blocking ∧ pool.condition = none
    · simp only [if_pos ready]
      have accounts : ({ pool with woken := pool.woken.erase i } : TaskPool).Accounts :=
        ⟨sound.accounts.nodup, sound.accounts.disjoint, sound.accounts.bounded,
          sound.accounts.below, sound.accounts.heldInUse⟩
      have owners : ({ pool with woken := pool.woken.erase i } : TaskPool).Owners :=
        ⟨sound.owners.owned, sound.owners.alone, sound.owners.back⟩
      have locked : ({ pool with woken := pool.woken.erase i } : TaskPool).Locked :=
        ⟨sound.locked.lock, sound.locked.condition⟩
      have away := sound.queued.away_of_woken place
      cases interrupted with
      | true => exact .early (sound_idle accounts owners locked away).notify
      | false =>
        have free : ({ pool with woken := pool.woken.erase i } : TaskPool).guard = none :=
          (guard_blocking ready.1).trans ready.2
        have fine := fine_waitFor accounts owners locked away free
        exact ⟨fine.sound, fine.unheld, fine.back⟩
    · simp only [if_neg ready]
      exact .quiet sound
  | _ => exact .quiet sound

/-- A failed call gives its connection back, or waits for the lock to do so. -/
theorem Sound.fine_fail (sound : pool.Sound) (cancelled : Bool)
    (place : pool.calls i = .ensuring c) : Fine pool (pool.fail i c cancelled) := by
  have own : (pool.calls i).owns = some c := by rw [place]; rfl
  have waiting : (pool.calls i).isWaiting = false := by rw [place]; rfl
  have woken : (pool.calls i).isWoken = false := by rw [place]; rfl
  unfold TaskPool.fail
  cases kind : pool.kind with
  | standard =>
    have lock : pool.lock = some i := (sound.locked.lock i).mpr (by rw [kind, place]; rfl)
    have given := sound.dispatch true (sound.owners.owned i c own)
      (sound.owners.alone.freeFor own) waiting woken (fun _ _ => lock)
      (fun blocking => by rw [kind] at blocking; cases blocking)
    exact .returns given.1 given.2
  | blocking =>
    refine .quiet (sound.become ?_ (fun _ same => by cases same) (fun inside => by cases inside) rfl
      waiting.symm woken.symm)
    intro other same
    cases same
    exact own

/-- `ensure_connection` ends. -/
theorem Sound.fine_ensured (sound : pool.Sound) (success : Bool) :
    Fine pool (pool.ensured i success) := by
  unfold TaskPool.ensured
  cases place : pool.calls i with
  | ensuring c =>
    cases success with
    | false => exact sound.fine_fail false place
    | true =>
      have own : (pool.calls i).owns = some c := by rw [place]; rfl
      obtain ⟨used, unheld⟩ := sound.owners.owned i c own
      have others : ∀ j other, ((pool.become i .idle).calls j).owns = some other →
          j ≠ i ∧ (pool.calls j).owns = some other := by
        intro j other owns
        by_cases here : j = i
        · rw [here] at owns
          simp [TaskPool.become, PoolCall.owns] at owns
        · simp only [TaskPool.become, Function.update_of_ne here] at owns
          exact ⟨here, owns⟩
      have ended := sound.idle (i := i) (by rw [place]; rfl) (by rw [place]; rfl)
      refine ⟨?_, fun other same => ?_, fun _ same => by cases same⟩
      · exact
          { accounts := ⟨ended.accounts.nodup, ended.accounts.disjoint, ended.accounts.bounded,
              ended.accounts.below, Finset.insert_subset used ended.accounts.heldInUse⟩
            owners :=
              { owned := fun j other owns => by
                  obtain ⟨elsewhere, owns⟩ := others j other owns
                  obtain ⟨used, unheld⟩ := sound.owners.owned j other owns
                  refine ⟨used, fun held => ?_⟩
                  rcases Finset.mem_insert.mp held with same | held
                  · rw [same] at owns
                    exact elsewhere (sound.owners.alone j i c owns own)
                  · exact unheld held
                alone := ended.owners.alone
                back := ended.owners.back }
            locked := ⟨ended.locked.lock, ended.locked.condition⟩
            queued := ⟨ended.queued.waiters, ended.queued.woken⟩ }
      · cases same
        exact unheld
  | _ => exact .quiet sound

/-- Somebody gives up a connection. -/
theorem Sound.unhold (sound : pool.Sound) (c : Nat) :
    ({ pool with held := pool.held.erase c } : TaskPool).Sound :=
  ⟨⟨sound.accounts.nodup, sound.accounts.disjoint, sound.accounts.bounded, sound.accounts.below,
    (Finset.erase_subset c pool.held).trans sound.accounts.heldInUse⟩,
    ⟨fun i other own => ⟨(sound.owners.owned i other own).1, fun held =>
      (sound.owners.owned i other own).2 (Finset.mem_of_mem_erase held)⟩, sound.owners.alone,
      sound.owners.back⟩,
    ⟨sound.locked.lock, sound.locked.condition⟩, ⟨sound.queued.waiters, sound.queued.woken⟩⟩

/-- `release` is called by a holder. -/
theorem Sound.fine_release (sound : pool.Sound) : Fine pool (pool.release i c) := by
  unfold TaskPool.release
  by_cases ready : pool.calls i = .idle ∧ c ∈ pool.held
  · simp only [if_pos ready]
    have given := sound.unhold c
    have own : c ∈ pool.inUse ∧ c ∉ pool.held.erase c :=
      ⟨sound.accounts.heldInUse ready.2, Finset.notMem_erase c pool.held⟩
    have alone : FreeFor PoolCall.owns pool.calls i c := fun j owns =>
      absurd ready.2 (sound.owners.owned j c owns).2
    have waiting : (pool.calls i).isWaiting = false := by rw [ready.1]; rfl
    have woken : (pool.calls i).isWoken = false := by rw [ready.1]; rfl
    split
    · rename_i standard
      have given := given.dispatch false own alone waiting woken
        (fun _ fails => by cases fails) (fun blocking => by cases standard.symm.trans blocking)
      exact Fine.returns given.1 given.2
    · exact .quiet
        { accounts := given.accounts.become
          owners := given.owners.become
            (fun other same => by
              cases same
              exact ⟨own, alone⟩)
            fun _ same => by cases same
          locked := given.locked.become (fun inside => by cases inside) fun inside => by cases inside
          queued := (given.queued.away waiting woken).queued rfl rfl }
  · rw [if_neg ready]
    exact .quiet sound

/-- The `release` of a blocking pool gets its lock. -/
theorem Sound.fine_giveBack (sound : pool.Sound) : Fine pool (pool.giveBack i) := by
  unfold TaskPool.giveBack
  by_cases ready : pool.kind = .blocking ∧ pool.condition = none
  · simp only [if_pos ready]
    have gives : ∀ c failing, (pool.calls i).owns = some c → (pool.calls i).isWaiting = false →
        (pool.calls i).isWoken = false → Fine pool (pool.dispatch i c failing) := by
      intro c failing own waiting woken
      have given := sound.dispatch failing (sound.owners.owned i c own)
        (sound.owners.alone.freeFor own) waiting woken
        (fun standard => by cases standard.symm.trans ready.1) fun _ => ready.2
      exact .returns given.1 given.2
    cases place : pool.calls i with
    | cleaning c cancelled =>
      exact gives c true (by rw [place]; rfl) (by rw [place]; rfl) (by rw [place]; rfl)
    | releasing c =>
      exact gives c false (by rw [place]; rfl) (by rw [place]; rfl) (by rw [place]; rfl)
    | _ => exact .quiet sound
  · rw [if_neg ready]
    exact .quiet sound

/-- The event is handled. -/
theorem Sound.fine_finish (sound : pool.Sound) {failing : Bool} (success : Bool)
    (place : pool.calls i = .dispatching c failing) :
    Fine pool (pool.finish i c failing success) := by
  refine .returns (sound.finish success place) (finish_returns fun fails => ?_)
  rw [fails] at place
  exact sound.owners.back i c place

/-- The awaited event is handled. -/
theorem Sound.fine_dispatched (sound : pool.Sound) (success : Bool) :
    Fine pool (pool.dispatched i success) := by
  unfold TaskPool.dispatched
  cases place : pool.calls i with
  | dispatching c failing => exact sound.fine_finish success place
  | _ => exact .quiet sound

/-- `re_auth_callback` goes on. -/
theorem Sound.authenticateFrom (sound : pool.Sound) (position : Nat)
    (lock : pool.lock = none ∨ pool.lock = some i) (waiting : (pool.calls i).isWaiting = false)
    (woken : (pool.calls i).isWoken = false) : (pool.authenticateFrom i position).Sound := by
  unfold TaskPool.authenticateFrom
  cases pool.available[position]? with
  | some c =>
    exact sound.become (fun _ own => by cases own) (fun _ same => by cases same) (fun _ => lock) rfl
      waiting.symm woken.symm
  | none => exact (sound.tokens (pool.tokens ∪ pool.inUse)).idle waiting woken

/-- `re_auth_callback` gets its lock. -/
theorem Sound.listen (sound : pool.Sound) : (pool.listen i).Sound := by
  unfold TaskPool.listen
  by_cases ready : pool.calls i = .listening ∧ pool.lock = none
  · rw [if_pos ready]
    exact sound.authenticateFrom 0 (.inl ready.2) (by rw [ready.1]; rfl) (by rw [ready.1]; rfl)
  · rw [if_neg ready]
    exact sound

/-- An `AUTH` of `re_auth_callback` ends. -/
theorem Sound.authenticated (sound : pool.Sound) (success : Bool) :
    (pool.authenticated i success).Sound := by
  unfold TaskPool.authenticated
  cases place : pool.calls i with
  | authenticating c position =>
    have waiting : (pool.calls i).isWaiting = false := by rw [place]; rfl
    have woken : (pool.calls i).isWoken = false := by rw [place]; rfl
    have lock : pool.lock = some i := (sound.locked.lock i).mpr (by rw [place]; rfl)
    cases success with
    | true => exact sound.authenticateFrom (position + 1) (.inr lock) waiting woken
    | false => exact sound.idle waiting woken
  | _ => exact sound

/-- A wait is interrupted. -/
theorem Sound.interrupt (sound : pool.Sound) : (pool.interrupt i).Sound := by
  unfold TaskPool.interrupt
  cases place : pool.calls i with
  | waiting =>
    have asleep : (pool.calls i).isWoken = false := by rw [place]; rfl
    have owners : ({ pool with waiters := pool.waiters.erase i, woken := pool.woken ++ [i] } :
        TaskPool).Owners := ⟨sound.owners.owned, sound.owners.alone, sound.owners.back⟩
    have locked : ({ pool with waiters := pool.waiters.erase i, woken := pool.woken ++ [i] } :
        TaskPool).Locked := ⟨sound.locked.lock, sound.locked.condition⟩
    exact
      { accounts := ⟨sound.accounts.nodup, sound.accounts.disjoint, sound.accounts.bounded,
          sound.accounts.below, sound.accounts.heldInUse⟩
        owners := owners.become (fun _ own => by cases own) fun _ same => by cases same
        locked := locked.become (fun inside => by cases inside) fun inside => by cases inside
        queued := ⟨sound.queued.waiters.leave rfl, sound.queued.woken.join asleep rfl⟩ }
  | woken interrupted =>
    exact sound.become (fun _ own => by cases own) (fun _ same => by cases same)
      (fun inside => by cases inside) rfl (by rw [place]; rfl) (by rw [place]; rfl)
  | _ => exact sound

/-- A call begins. -/
theorem Sound.start (sound : pool.Sound) (outside : ∀ c, call.owns ≠ some c)
    (lock : call.inLock pool.kind = false) (condition : call.inCondition pool.kind = false)
    (waiting : call.isWaiting = false) (woken : call.isWoken = false)
    (back : ∀ c, call ≠ .dispatching c true) : (pool.start i call).Sound := by
  unfold TaskPool.start
  by_cases ready : pool.calls i = .idle
  · rw [if_pos ready]
    exact sound.become (fun c own => absurd own (outside c)) back
      (fun inside => by rw [lock] at inside; cases inside) condition
      (by rw [waiting, ready]; rfl) (by rw [woken, ready]; rfl)
  · rw [if_neg ready]
    exact sound

/-- The connection of a failed call is lost: its clean-up waits for the lock of the condition when
it is cancelled. -/
def LosesConnection (pool : TaskPool) (action : PoolAction) : Prop :=
  ∃ i c, action = .cancel i ∧ pool.calls i = .cleaning c false

/-- A cancelled call is sound, and fine but for the clean-up. -/
theorem Sound.cancel (sound : pool.Sound) :
    (pool.cancel i).1.Sound ∧ (¬LosesConnection pool (.cancel i) → Fine pool (pool.cancel i)) := by
  unfold TaskPool.cancel
  cases place : pool.calls i with
  | idle => exact ⟨sound, fun _ => .quiet sound⟩
  | entering =>
    have ended := sound.idle (i := i) (by rw [place]; rfl) (by rw [place]; rfl)
    exact ⟨ended, fun _ => .early ended⟩
  | waiting => exact ⟨sound.interrupt, fun _ => .quiet sound.interrupt⟩
  | woken interrupted => exact ⟨sound.interrupt, fun _ => .quiet sound.interrupt⟩
  | ensuring c =>
    have fine := sound.fine_fail true place
    exact ⟨fine.sound, fun _ => fine⟩
  | cleaning c cancelled =>
    cases cancelled with
    | true => exact ⟨sound, fun _ => .quiet sound⟩
    | false =>
      have ended := sound.idle (i := i) (by rw [place]; rfl) (by rw [place]; rfl)
      exact ⟨ended, fun kept => absurd ⟨i, c, rfl, place⟩ kept⟩
  | releasing c =>
    have ended := sound.idle (i := i) (by rw [place]; rfl) (by rw [place]; rfl)
    exact ⟨ended, fun _ => .quiet ended⟩
  | dispatching c failing =>
    have fine := sound.fine_finish false place
    exact ⟨fine.sound, fun _ => fine⟩
  | disconnecting =>
    have ended := sound.idle (i := i) (by rw [place]; rfl) (by rw [place]; rfl)
    exact ⟨ended, fun _ => .quiet ended⟩
  | listening =>
    have ended := sound.idle (i := i) (by rw [place]; rfl) (by rw [place]; rfl)
    exact ⟨ended, fun _ => .quiet ended⟩
  | authenticating c position =>
    have ended := sound.idle (i := i) (by rw [place]; rfl) (by rw [place]; rfl)
    exact ⟨ended, fun _ => .quiet ended⟩

/-- An action that is not a cancellation is fine. -/
theorem Sound.fine_advance (sound : pool.Sound) {action : PoolAction}
    (other : ∀ i, action ≠ .cancel i) : Fine pool (pool.advance action) := by
  cases action with
  | getConnection i =>
    exact .quiet (sound.start (fun _ own => by cases own) rfl rfl rfl rfl fun _ same => by
      cases same)
  | enter i => exact sound.fine_enter
  | reenter i => exact sound.fine_reenter
  | ensured i success => exact sound.fine_ensured success
  | release i c => exact sound.fine_release
  | giveBack i => exact sound.fine_giveBack
  | dispatched i success => exact sound.fine_dispatched success
  | disconnect i =>
    exact .quiet (sound.start (fun _ own => by cases own) rfl rfl rfl rfl fun _ same => by
      cases same)
  | disconnected i =>
    refine .quiet ?_
    by_cases ready : pool.calls i = .disconnecting
    · rw [if_pos ready]
      exact sound.idle (by rw [ready]; rfl) (by rw [ready]; rfl)
    · rw [if_neg ready]
      exact sound
  | reAuth i =>
    exact .quiet (sound.start (fun _ own => by cases own) rfl rfl rfl rfl fun _ same => by
      cases same)
  | listen i => exact .quiet sound.listen
  | authenticated i success => exact .quiet (sound.authenticated success)
  | cancel i => exact absurd rfl (other i)
  | timeout i => exact .quiet sound.interrupt

/-- Every action keeps the invariant. -/
theorem Sound.step (sound : pool.Sound) (action : PoolAction) : (pool.step action).Sound := by
  by_cases cancels : ∃ i, action = .cancel i
  · obtain ⟨i, rfl⟩ := cancels
    exact sound.cancel.1
  · exact (sound.fine_advance fun i same => cancels ⟨i, same⟩).sound

/-! ## Runs -/

/-- No connection is idle twice or idle and in use, and there are not too many. -/
structure Accounted (pool : TaskPool) : Prop where
  /-- No connection is idle twice. -/
  nodup : pool.available.Nodup
  /-- No connection is idle and in use. -/
  disjoint : ∀ c ∈ pool.available, c ∉ pool.inUse
  /-- There are not too many connections. -/
  bounded : pool.available.length + pool.inUse.card ≤ pool.maxConnections

/-- A call of `get_connection` that ends in an action returns a connection that nobody holds, or
fails with the connection that it had taken among the idle ones. -/
structure EndsWell (pool : TaskPool) (action : PoolAction) : Prop where
  /-- Nobody holds a connection that is returned. -/
  unheld : ∀ c, pool.outcome action = some (.returned c) → c ∉ pool.held
  /-- A connection that a failed call had taken is idle. -/
  back : ∀ c, pool.outcome action = some (.failed (some c)) → c ∈ (pool.step action).available

/-- A call ends well exactly if it does not lose its connection. -/
theorem Sound.endsWell_iff (sound : pool.Sound) (action : PoolAction) :
    EndsWell pool action ↔ ¬LosesConnection pool action := by
  constructor
  · rintro ended ⟨i, c, rfl, place⟩
    have result : pool.cancel i = (pool.become i .idle, some (.failed (some c))) := by
      rw [TaskPool.cancel, place]
    have idle : c ∈ (pool.cancel i).1.available := ended.back c (by
      show (pool.cancel i).2 = _
      rw [result])
    rw [result] at idle
    exact sound.accounts.disjoint c idle (sound.owners.owned i c (by rw [place]; rfl)).1
  · intro kept
    have fine : Fine pool (pool.advance action) := by
      by_cases cancels : ∃ i, action = .cancel i
      · obtain ⟨i, rfl⟩ := cancels
        exact sound.cancel.2 kept
      · exact sound.fine_advance fun i same => cancels ⟨i, same⟩
    exact ⟨fine.unheld, fine.back⟩

/-- In every run the accounts are in order in all states, whatever is cancelled, and every call of
`get_connection` ends well exactly if no clean-up is cancelled while it waits for the condition's
lock. -/
theorem run_accounted_iff (kind : TaskPoolKind) (maxConnections : Nat)
    (actions : List PoolAction) :
    Always step Accounted (new kind maxConnections) actions ∧
        Each step EndsWell (new kind maxConnections) actions ↔
      Each step (fun pool action => ¬LosesConnection pool action) (new kind maxConnections)
        actions := by
  have reached : ∀ earlier : List PoolAction,
      (earlier.foldl step (new kind maxConnections)).Sound := fun earlier =>
    inv_of_keeps Sound (fun _ action sound => sound.step action) (sound_new kind maxConnections)
  constructor
  · rintro ⟨-, ends⟩ earlier action later split
    exact ((reached earlier).endsWell_iff action).mp (ends earlier action later split)
  · intro kept
    refine ⟨fun earlier later _ => ?_, fun earlier action later split => ?_⟩
    · have accounts := (reached earlier).accounts
      exact ⟨accounts.nodup, accounts.disjoint, accounts.bounded⟩
    · exact ((reached earlier).endsWell_iff action).mpr (kept earlier action later split)

/-- While one call releases a connection that is authenticated again, another one fails to connect,
and is cancelled before it gets the lock to give its connection back: the connection stays in use
for good. -/
theorem cancelled_cleanUp_loses :
    ¬(Always step Accounted (new .blocking 2)
        [.getConnection 0, .enter 0, .ensured 0 true, .reAuth 1, .listen 1, .getConnection 2,
          .enter 2, .release 0 0, .giveBack 0, .ensured 2 false, .cancel 2] ∧
      Each step EndsWell (new .blocking 2)
        [.getConnection 0, .enter 0, .ensured 0 true, .reAuth 1, .listen 1, .getConnection 2,
          .enter 2, .release 0 0, .giveBack 0, .ensured 2 false, .cancel 2]) := by
  rintro ⟨-, ends⟩
  have last := ends
    [.getConnection 0, .enter 0, .ensured 0 true, .reAuth 1, .listen 1, .getConnection 2,
      .enter 2, .release 0 0, .giveBack 0, .ensured 2 false] (.cancel 2) [] rfl
  have idle := last.back 1 (by decide +kernel)
  revert idle
  decide +kernel

end TaskPool

end RedisPy

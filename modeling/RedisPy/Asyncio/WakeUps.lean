import RedisPy.Asyncio.Accounting

/-!
# The wake-ups of a blocking asyncio pool

A task that waits for a connection is woken by a notification, and `release` notifies after the
event that it dispatched was handled. As long as somebody waits, the connections in use, the
tasks that were woken and the task that is about to notify are together at least as many as the
pool may have; so when nobody can go on, all connections are in use. A release whose event raises
leaves out its notification, and the connection sits idle beside the task that waits for it.
-/

namespace RedisPy

open Places Runs

/-- The action resumes a call at a suspension point where nothing interrupts it. -/
def PoolAction.resumes : PoolAction → Bool
  | .enter _ => true
  | .reenter _ => true
  | .ensured _ _ => true
  | .giveBack _ => true
  | .dispatched _ _ => true
  | .disconnected _ => true
  | .listen _ => true
  | .authenticated _ _ => true
  | _ => false

namespace TaskPool

variable {pool after : TaskPool} {i c : Nat} {call : PoolCall}

/-- No task can make a step. -/
def Stuck (pool : TaskPool) : Prop :=
  ∀ action : PoolAction, action.resumes = true → pool.step action = pool

/-- When no task can make a step and somebody waits, all connections are in use. -/
def NobodySleeps (pool : TaskPool) : Prop :=
  pool.Stuck → ∀ i, pool.calls i = .waiting →
    pool.available = [] ∧ pool.inUse.card = pool.maxConnections

/-- The event that a release dispatched raises, or is cancelled. -/
def raises (pool : TaskPool) : PoolAction → Bool
  | .dispatched i false => (pool.calls i).inCondition .blocking
  | .cancel i => (pool.calls i).inCondition .blocking
  | _ => false

/-- A release skips its notification although somebody waits for one. -/
def SkipsWakeUp (pool : TaskPool) (action : PoolAction) : Prop :=
  pool.raises action = true ∧ pool.waiters ≠ []

instance (pool : TaskPool) (action : PoolAction) : Decidable (pool.SkipsWakeUp action) :=
  inferInstanceAs (Decidable (_ ∧ _))

/-! ## When nobody can go on -/

/-- Every call is over or waits. -/
def Quiet (pool : TaskPool) : Prop := ∀ i, pool.calls i = .idle ∨ pool.calls i = .waiting

/-- A call that goes on changes its place. -/
theorem not_stuck_of_moved {action : PoolAction} (resumes : action.resumes = true)
    (moved : (pool.step action).calls i ≠ pool.calls i) : ¬pool.Stuck := by
  intro stuck
  rw [stuck action resumes] at moved
  exact moved rfl

/-- When nobody can go on, nobody is about to connect, to dispatch, to disconnect or to
authenticate. -/
theorem not_stuck_of_active
    (active : (∃ c, pool.calls i = .ensuring c) ∨ (∃ c failing, pool.calls i = .dispatching c failing) ∨
      pool.calls i = .disconnecting ∨ ∃ c position, pool.calls i = .authenticating c position) :
    ¬pool.Stuck := by
  rcases active with ⟨c, place⟩ | ⟨c, failing, place⟩ | place | ⟨c, position, place⟩
  · have result : pool.step (.ensured i true) =
        ({ pool with held := insert c pool.held } : TaskPool).become i .idle := by
      simp only [step, advance, ensured, place, if_true]
    have moved : (pool.step (.ensured i true)).calls i ≠ pool.calls i := by
      rw [result, calls_become, place]
      exact fun same => by cases same
    exact not_stuck_of_moved rfl moved
  · have result : pool.step (.dispatched i true) = (pool.handled c true).become i .idle := by
      simp only [step, advance, dispatched, place, finish]
    have moved : (pool.step (.dispatched i true)).calls i ≠ pool.calls i := by
      rw [result, calls_become, place]
      exact fun same => by cases same
    exact not_stuck_of_moved rfl moved
  · have result : pool.step (.disconnected i) = pool.become i .idle := by
      simp only [step, advance, place, if_true]
    have moved : (pool.step (.disconnected i)).calls i ≠ pool.calls i := by
      rw [result, calls_become, place]
      exact fun same => by cases same
    exact not_stuck_of_moved rfl moved
  · have result : pool.step (.authenticated i false) = pool.become i .idle := by
      simp only [step, advance, authenticated, place]
      rfl
    have moved : (pool.step (.authenticated i false)).calls i ≠ pool.calls i := by
      rw [result, calls_become, place]
      exact fun same => by cases same
    exact not_stuck_of_moved rfl moved

/-- When nobody can go on, `_lock` is free. -/
theorem Sound.lock_free (sound : pool.Sound) (stuck : pool.Stuck) : pool.lock = none := by
  cases held : pool.lock with
  | none => rfl
  | some j =>
    have inside := (sound.locked.lock j).mp held
    exfalso
    cases place : pool.calls j with
    | ensuring c => exact not_stuck_of_active (.inl ⟨c, place⟩) stuck
    | dispatching c failing => exact not_stuck_of_active (.inr (.inl ⟨c, failing, place⟩)) stuck
    | authenticating c position =>
      exact not_stuck_of_active (.inr (.inr (.inr ⟨c, position, place⟩))) stuck
    | _ =>
      rw [place] at inside
      cases inside

/-- When nobody can go on, the lock of the condition is free. -/
theorem Sound.condition_free (sound : pool.Sound) (stuck : pool.Stuck) :
    pool.condition = none := by
  cases held : pool.condition with
  | none => rfl
  | some j =>
    have inside := (sound.locked.condition j).mp held
    exfalso
    cases place : pool.calls j with
    | dispatching c failing => exact not_stuck_of_active (.inr (.inl ⟨c, failing, place⟩)) stuck
    | _ =>
      rw [place] at inside
      cases inside

/-- A call that takes a connection ends or connects it. -/
theorem calls_takeFor : (pool.takeFor i).1.calls i = .idle ∨
    ∃ c, (pool.takeFor i).1.calls i = .ensuring c := by
  unfold takeFor
  cases pool.getAvailableConnection with
  | error e => exact .inl calls_become
  | ok pair => exact .inr ⟨pair.1, calls_become⟩

/-- A call that takes a connection or waits does not acquire a lock any more. -/
theorem calls_waitFor : (pool.waitFor i).1.calls i = .idle ∨
    (∃ c, (pool.waitFor i).1.calls i = .ensuring c) ∨ (pool.waitFor i).1.calls i = .waiting := by
  unfold waitFor
  by_cases can : pool.canGetConnection = true
  · rw [if_pos can]
    rcases calls_takeFor with ended | taken
    · exact .inl ended
    · exact .inr (.inl taken)
  · rw [if_neg can]
    exact .inr (.inr calls_become)

/-- A call that acquires a lock does not do so any more once it takes a connection or waits. -/
theorem waitFor_moves {place : PoolCall} (acquires : place = .entering ∨ place = .woken false) :
    (pool.waitFor i).1.calls i ≠ place := by
  have goes : (pool.waitFor i).1.calls i = .idle ∨
      (∃ c, (pool.waitFor i).1.calls i = .ensuring c) ∨ (pool.waitFor i).1.calls i = .waiting :=
    calls_waitFor
  rcases goes with ended | ⟨c, taken⟩ | waits
  · rw [ended]
    rcases acquires with rfl | rfl <;> exact fun same => by cases same
  · rw [taken]
    rcases acquires with rfl | rfl <;> exact fun same => by cases same
  · rw [waits]
    rcases acquires with rfl | rfl <;> exact fun same => by cases same

/-- A notification leaves a call alone, or wakes it. -/
theorem calls_notify : pool.notify.calls i = pool.calls i ∨
    pool.notify.calls i = .woken false := by
  unfold TaskPool.notify
  cases pool.waiters with
  | nil => exact .inl rfl
  | cons j rest =>
    by_cases here : i = j
    · rw [here]
      exact .inr calls_become
    · exact .inl (Function.update_of_ne here _ _)

/-- A call that gives its connection back does not have it any more. -/
theorem dispatch_moves {failing : Bool} (own : (pool.calls i).owns = some c) :
    (pool.dispatch i c failing).1.calls i ≠ pool.calls i := by
  intro same
  rw [← same] at own
  unfold dispatch at own
  by_cases token : c ∈ pool.tokens
  · simp only [if_pos token, calls_become] at own
    cases own
  · simp only [if_neg token, finish, calls_become] at own
    cases own

/-- A woken call of a blocking pool gets the free lock. -/
theorem reenter_eq {interrupted : Bool} (ready : pool.kind = .blocking ∧ pool.condition = none)
    (place : pool.calls i = .woken interrupted) :
    pool.reenter i =
      if interrupted then
        ((({ pool with woken := pool.woken.erase i } : TaskPool).become i .idle).notify,
          some (.failed none))
      else ({ pool with woken := pool.woken.erase i } : TaskPool).waitFor i := by
  unfold reenter
  rw [place]
  exact if_pos ready

/-- A call of `release` in a blocking pool gets the free lock. -/
theorem giveBack_eq (ready : pool.kind = .blocking ∧ pool.condition = none)
    (place : (∃ cancelled, pool.calls i = .cleaning c cancelled) ∨ pool.calls i = .releasing c) :
    ∃ failing, pool.giveBack i = pool.dispatch i c failing := by
  unfold giveBack
  rw [if_pos ready]
  rcases place with ⟨cancelled, place⟩ | place
  · rw [place]
    exact ⟨true, rfl⟩
  · rw [place]
    exact ⟨false, rfl⟩

/-- A call of a blocking pool gets the free lock. -/
theorem enter_eq (ready : pool.calls i = .entering ∧ pool.guard = none)
    (blocking : pool.kind = .blocking) : pool.enter i = pool.waitFor i := by
  unfold enter
  rw [if_pos ready, blocking]

/-- When nobody can go on, every call of a blocking pool is over or waits. -/
theorem quiet_of_stuck (sound : pool.Sound) (blocking : pool.kind = .blocking)
    (stuck : pool.Stuck) : pool.Quiet := by
  intro i
  have lock := sound.lock_free stuck
  have condition := sound.condition_free stuck
  have guard : pool.guard = none := (guard_blocking blocking).trans condition
  have givesBack : ∀ c, (pool.calls i).owns = some c →
      ((∃ cancelled, pool.calls i = .cleaning c cancelled) ∨ pool.calls i = .releasing c) →
        False := by
    intro c own place
    obtain ⟨failing, result⟩ := giveBack_eq ⟨blocking, condition⟩ place
    have moved : (pool.step (.giveBack i)).calls i ≠ pool.calls i := by
      show (pool.giveBack i).1.calls i ≠ pool.calls i
      rw [result]
      exact dispatch_moves own
    exact not_stuck_of_moved rfl moved stuck
  cases place : pool.calls i with
  | idle => exact .inl rfl
  | waiting => exact .inr rfl
  | entering =>
    have moved : (pool.step (.enter i)).calls i ≠ pool.calls i := by
      show (pool.enter i).1.calls i ≠ pool.calls i
      rw [enter_eq ⟨place, guard⟩ blocking, place]
      exact waitFor_moves (.inl rfl)
    exact absurd stuck (not_stuck_of_moved rfl moved)
  | woken interrupted =>
    have moved : (pool.step (.reenter i)).calls i ≠ pool.calls i := by
      show (pool.reenter i).1.calls i ≠ pool.calls i
      rw [reenter_eq ⟨blocking, condition⟩ place, place]
      cases interrupted with
      | false => exact waitFor_moves (.inr rfl)
      | true =>
        rw [if_pos rfl]
        rcases calls_notify with kept | woke
        · rw [kept, calls_become]
          exact fun same => by cases same
        · rw [woke]
          exact fun same => by cases same
    exact absurd stuck (not_stuck_of_moved rfl moved)
  | ensuring c => exact absurd stuck (not_stuck_of_active (.inl ⟨c, place⟩))
  | dispatching c failing =>
    exact absurd stuck (not_stuck_of_active (.inr (.inl ⟨c, failing, place⟩)))
  | disconnecting => exact absurd stuck (not_stuck_of_active (.inr (.inr (.inl place))))
  | authenticating c position =>
    exact absurd stuck (not_stuck_of_active (.inr (.inr (.inr ⟨c, position, place⟩))))
  | cleaning c cancelled =>
    exact (givesBack c (by rw [place]; rfl) (.inl ⟨cancelled, place⟩)).elim
  | releasing c => exact (givesBack c (by rw [place]; rfl) (.inr place)).elim
  | listening =>
    have moved : (pool.step (.listen i)).calls i ≠ pool.calls i := by
      show (pool.listen i).calls i ≠ pool.calls i
      unfold listen
      rw [if_pos ⟨place, lock⟩, place]
      unfold authenticateFrom
      cases pool.available[0]? with
      | some c =>
        simp only [calls_become]
        exact fun same => by cases same
      | none =>
        simp only [calls_become]
        exact fun same => by cases same
    exact absurd stuck (not_stuck_of_moved rfl moved)

/-- When every call is over or waits, nobody can go on. -/
theorem stuck_of_quiet (quiet : pool.Quiet) : pool.Stuck := by
  intro action resumes
  cases action with
  | enter i =>
    rcases quiet i with place | place <;> simp [step, advance, enter, place]
  | reenter i =>
    rcases quiet i with place | place <;> simp [step, advance, reenter, place]
  | ensured i success =>
    rcases quiet i with place | place <;> simp [step, advance, ensured, place]
  | giveBack i =>
    rcases quiet i with place | place <;> simp [step, advance, giveBack, place]
  | dispatched i success =>
    rcases quiet i with place | place <;> simp [step, advance, dispatched, place]
  | disconnected i =>
    rcases quiet i with place | place <;> simp [step, advance, place]
  | listen i =>
    rcases quiet i with place | place <;> simp [step, advance, listen, place]
  | authenticated i success =>
    rcases quiet i with place | place <;> simp [step, advance, authenticated, place]
  | _ => cases resumes

/-! ## What covers those who wait -/

/-- The connections in use, the calls that were woken, and one more if somebody is about to
notify. -/
def cover (pool : TaskPool) : Nat :=
  pool.inUse.card + pool.woken.length + if pool.condition = none then 0 else 1

/-- While somebody waits, as many as the pool may have are in use, woken or about to notify. -/
structure Covered (pool : TaskPool) : Prop where
  /-- The pool is a `BlockingConnectionPool`. -/
  blocking : pool.kind = .blocking
  /-- Those who wait are covered. -/
  enough : pool.waiters ≠ [] → pool.maxConnections ≤ pool.cover

/-- The same pool with other calls, and a cover that is not smaller. -/
theorem Covered.mono (covered : pool.Covered) (kind : after.kind = pool.kind)
    (same : after.maxConnections = pool.maxConnections)
    (waiters : after.waiters ≠ [] → pool.waiters ≠ []) (cover : pool.cover ≤ after.cover) :
    after.Covered where
  blocking := kind.trans covered.blocking
  enough some := by
    have enough := covered.enough (waiters some)
    omega

/-- A call outside the condition's lock goes on outside. -/
theorem condition_become (locked : pool.Locked)
    (was : (pool.calls i).inCondition pool.kind = false)
    (now : call.inCondition pool.kind = false) : (pool.become i call).condition = pool.condition :=
  relock_outside locked.condition was now

/-- A call outside the condition's lock goes on outside, and the cover is the same. -/
theorem cover_become (locked : pool.Locked)
    (was : (pool.calls i).inCondition pool.kind = false)
    (now : call.inCondition pool.kind = false) : (pool.become i call).cover = pool.cover := by
  unfold cover
  rw [condition_become locked was now]
  rfl

/-- A call outside the condition's lock goes on outside, and those who wait are covered. -/
theorem Covered.become (covered : pool.Covered) (locked : pool.Locked)
    (was : (pool.calls i).inCondition pool.kind = false)
    (now : call.inCondition pool.kind = false) : (pool.become i call).Covered :=
  covered.mono rfl rfl id (cover_become locked was now).ge

/-- A call leaves the condition's lock, and the cover is one less. -/
theorem cover_leave (locked : pool.Locked) (was : (pool.calls i).inCondition pool.kind = true)
    (now : call.inCondition pool.kind = false) : (pool.become i call).cover + 1 = pool.cover := by
  have held : pool.condition = some i := (locked.condition i).mpr was
  have free : (pool.become i call).condition = none := relock_leaves locked.condition was now
  unfold cover
  rw [held, free]
  simp [TaskPool.become]

/-- Where nobody waits nobody has to be covered. -/
theorem covered_of_nobody (blocking : pool.kind = .blocking) (nobody : pool.waiters = []) :
    pool.Covered where
  blocking := blocking
  enough some := absurd nobody some

/-- A connection that can be taken is one more in use. -/
theorem takeFor_cover (accounts : pool.Accounts) (locked : pool.Locked)
    (outside : (pool.calls i).inCondition pool.kind = false) (blocking : pool.kind = .blocking)
    (can : pool.canGetConnection = true)
    (nearly : pool.waiters ≠ [] → pool.maxConnections ≤ pool.cover + 1) :
    (pool.takeFor i).1.Covered := by
  unfold takeFor
  cases got : pool.getAvailableConnection with
  | error e =>
    -- `can_get_connection` was true
    exfalso
    unfold getAvailableConnection at got
    cases top : pool.available.getLast? with
    | some last =>
      simp only [top] at got
      cases got
    | none =>
      simp only [top] at got
      have empty : pool.available = [] := List.getLast?_eq_none_iff.mp top
      have room : pool.inUse.card < pool.maxConnections := by
        simpa [canGetConnection, empty] using can
      rw [if_neg (by omega)] at got
      cases got
  | ok pair =>
    obtain ⟨c, taken⟩ := pair
    obtain ⟨fresh, -, available, made, rfl⟩ := getAvailableConnection_spec accounts got
    have locked : ({ pool with available, inUse := insert c pool.inUse, made } : TaskPool).Locked :=
      ⟨locked.lock, locked.condition⟩
    have one : ({ pool with available, inUse := insert c pool.inUse, made } : TaskPool).cover =
        pool.cover + 1 := by
      show (insert c pool.inUse).card + pool.woken.length +
        (if pool.condition = none then 0 else 1) = pool.cover + 1
      rw [Finset.card_insert_of_notMem fresh, cover]
      omega
    refine ⟨blocking, fun some => ?_⟩
    rw [cover_become locked outside rfl, one]
    exact nearly some

/-- A call that takes a connection or waits leaves those who wait covered, even if one was
missing. -/
theorem waitFor_covered (accounts : pool.Accounts) (locked : pool.Locked)
    (outside : (pool.calls i).inCondition pool.kind = false) (blocking : pool.kind = .blocking)
    (nearly : pool.waiters ≠ [] → pool.maxConnections ≤ pool.cover + 1) :
    (pool.waitFor i).1.Covered := by
  unfold waitFor
  by_cases can : pool.canGetConnection = true
  · rw [if_pos can]
    exact takeFor_cover accounts locked outside blocking can nearly
  · rw [if_neg can]
    have full : pool.maxConnections ≤ pool.inUse.card := by
      have neither : ¬(pool.available ≠ [] ∨ pool.inUse.card < pool.maxConnections) := by
        simpa [canGetConnection] using can
      omega
    refine ⟨blocking, fun _ => ?_⟩
    unfold cover
    show pool.maxConnections ≤ pool.inUse.card + pool.woken.length + _
    omega

/-- A notification wakes one of those who wait. -/
theorem cover_notify (sound : pool.Sound) (some : pool.waiters ≠ []) :
    pool.notify.cover = pool.cover + 1 := by
  unfold TaskPool.notify
  cases queue : pool.waiters with
  | nil => exact absurd queue some
  | cons j rest =>
    have waits : (pool.calls j).isWaiting = true :=
      (sound.queued.waiters.mem j).mp (by rw [queue]; exact List.mem_cons_self)
    have outside : (pool.calls j).inCondition pool.kind = false := by
      cases place : pool.calls j with
      | waiting => rfl
      | _ =>
        rw [place] at waits
        cases waits
    have locked : ({ pool with waiters := rest, woken := pool.woken ++ [j] } : TaskPool).Locked :=
      ⟨sound.locked.lock, sound.locked.condition⟩
    rw [cover_become locked outside rfl]
    show pool.inUse.card + (pool.woken ++ [j]).length +
      (if pool.condition = none then 0 else 1) = pool.cover + 1
    rw [List.length_append, List.length_singleton, cover]
    omega

/-- A notification does not change the class of the pool. -/
theorem notify_kind : pool.notify.kind = pool.kind := by
  unfold TaskPool.notify
  cases pool.waiters <;> rfl

/-- A notification does not change the size of the pool. -/
theorem notify_maxConnections : pool.notify.maxConnections = pool.maxConnections := by
  unfold TaskPool.notify
  cases pool.waiters <;> rfl

/-- Whoever still waits after a notification has waited before. -/
theorem waiters_of_notify (some : pool.notify.waiters ≠ []) : pool.waiters ≠ [] := by
  intro nobody
  unfold TaskPool.notify at some
  rw [nobody] at some
  exact some nobody

/-- A notification makes up for one that is missing. -/
theorem notify_covered (sound : pool.Sound) (blocking : pool.kind = .blocking)
    (nearly : pool.waiters ≠ [] → pool.maxConnections ≤ pool.cover + 1) :
    pool.notify.Covered where
  blocking := notify_kind.trans blocking
  enough some := by
    have before := waiters_of_notify some
    rw [notify_maxConnections, cover_notify sound before]
    exact nearly before

/-! ## Actions -/

/-- A call may leave the condition's lock when one more is covered. -/
theorem leave_covered (locked : pool.Locked) (blocking : pool.kind = .blocking)
    (place : pool.calls i = .dispatching c failing)
    (more : pool.waiters ≠ [] → pool.maxConnections + 1 ≤ pool.cover) :
    (pool.become i .idle).Covered where
  blocking := blocking
  enough some := by
    have inside : (pool.calls i).inCondition pool.kind = true := by
      rw [place]
      exact PoolCall.inCondition_dispatching.mpr blocking
    have left : (pool.become i .idle).cover + 1 = pool.cover := cover_leave locked inside rfl
    have enough := more some
    show pool.maxConnections ≤ (pool.become i .idle).cover
    omega

/-- A release that does not skip its notification leaves those who wait covered. -/
theorem Covered.finish (covered : pool.Covered) (sound : pool.Sound) {failing success : Bool}
    (place : pool.calls i = .dispatching c failing)
    (notifies : success = true ∨ pool.waiters = []) :
    (pool.finish i c failing success).1.Covered := by
  cases success with
  | false =>
    have nobody : pool.waiters = [] := by simpa using notifies
    unfold TaskPool.finish
    rw [handled_raised]
    exact covered_of_nobody covered.blocking nobody
  | true =>
    have answered := sound.tokens (pool.tokens.erase c)
    have woke := answered.notify
    have same : ({ pool with tokens := pool.tokens.erase c } : TaskPool).notify.calls i =
        .dispatching c failing :=
      (answered.queued.notify_calls (by show (pool.calls i).isWaiting = false; rw [place]; rfl)).trans
        place
    unfold TaskPool.finish
    rw [handled_blocking covered.blocking]
    refine leave_covered woke.locked (notify_kind.trans covered.blocking) same fun some => ?_
    have before : ({ pool with tokens := pool.tokens.erase c } : TaskPool).waiters ≠ [] :=
      waiters_of_notify some
    rw [notify_maxConnections, cover_notify answered before]
    exact Nat.succ_le_succ (covered.enough before)

/-- A connection that is given back leaves those who wait covered. -/
theorem Covered.dispatch (covered : pool.Covered) (sound : pool.Sound) {failing : Bool}
    (own : (pool.calls i).owns = some c) (waiting : (pool.calls i).isWaiting = false)
    (woken : (pool.calls i).isWoken = false) (free : pool.condition = none) :
    (pool.dispatch i c failing).1.Covered := by
  have owned := sound.owners.owned i c own
  have begun : ((pool.putBack c).become i (.dispatching c failing)).Sound :=
    sound.putBack owned (sound.owners.alone.freeFor own) waiting woken
      (fun standard => by cases standard.symm.trans covered.blocking) fun _ => free
  have inside : (PoolCall.dispatching c failing).inCondition pool.kind = true :=
    PoolCall.inCondition_dispatching.mpr covered.blocking
  have held : ((pool.putBack c).become i (.dispatching c failing)).condition = some i := if_pos inside
  have same : ((pool.putBack c).become i (.dispatching c failing)).cover = pool.cover := by
    have some : 0 < pool.inUse.card := Finset.card_pos.mpr ⟨c, owned.1⟩
    unfold cover
    rw [held, free]
    show (pool.inUse.erase c).card + pool.woken.length + 1 = pool.inUse.card + pool.woken.length + 0
    rw [Finset.card_erase_of_mem owned.1]
    omega
  have covers : ((pool.putBack c).become i (.dispatching c failing)).Covered :=
    covered.mono rfl rfl id same.ge
  unfold TaskPool.dispatch
  by_cases token : c ∈ pool.tokens
  · rw [if_pos token]
    exact covers
  · rw [if_neg token]
    exact covers.finish begun calls_become (.inl rfl)

/-- A woken call leaves those who wait covered. -/
theorem Covered.reenter (covered : pool.Covered) (sound : pool.Sound) :
    (pool.reenter i).1.Covered := by
  cases place : pool.calls i with
  | woken interrupted =>
    by_cases ready : pool.kind = .blocking ∧ pool.condition = none
    · rw [reenter_eq ready place]
      have accounts : ({ pool with woken := pool.woken.erase i } : TaskPool).Accounts :=
        ⟨sound.accounts.nodup, sound.accounts.disjoint, sound.accounts.bounded,
          sound.accounts.below, sound.accounts.heldInUse⟩
      have owners : ({ pool with woken := pool.woken.erase i } : TaskPool).Owners :=
        ⟨sound.owners.owned, sound.owners.alone, sound.owners.back⟩
      have locked : ({ pool with woken := pool.woken.erase i } : TaskPool).Locked :=
        ⟨sound.locked.lock, sound.locked.condition⟩
      have away := sound.queued.away_of_woken place
      have outside : (pool.calls i).inCondition pool.kind = false := by rw [place]; rfl
      have member : i ∈ pool.woken := (sound.queued.woken.mem i).mpr (by rw [place]; rfl)
      have one : ({ pool with woken := pool.woken.erase i } : TaskPool).cover + 1 = pool.cover := by
        have some : 0 < pool.woken.length := List.length_pos_of_mem member
        show pool.inUse.card + (pool.woken.erase i).length +
          (if pool.condition = none then 0 else 1) + 1 = pool.cover
        rw [List.length_erase_of_mem member, cover]
        omega
      cases interrupted with
      | false =>
        refine waitFor_covered accounts locked outside covered.blocking fun some => ?_
        rw [one]
        exact covered.enough some
      | true =>
        refine notify_covered (sound_idle accounts owners locked away) covered.blocking
          fun some => ?_
        rw [cover_become locked outside rfl, one]
        exact covered.enough some
    · have same : pool.reenter i = (pool, none) := by
        unfold TaskPool.reenter
        rw [place]
        exact if_neg ready
      rw [same]
      exact covered
  | _ =>
    unfold TaskPool.reenter
    rw [place]
    exact covered

/-- An interrupted wait leaves those who wait covered. -/
theorem Covered.interrupt (covered : pool.Covered) (sound : pool.Sound) :
    (pool.interrupt i).Covered := by
  unfold TaskPool.interrupt
  cases place : pool.calls i with
  | waiting =>
    have outside : (pool.calls i).inCondition pool.kind = false := by rw [place]; rfl
    have locked : ({ pool with waiters := pool.waiters.erase i, woken := pool.woken ++ [i] } :
        TaskPool).Locked := ⟨sound.locked.lock, sound.locked.condition⟩
    refine covered.mono rfl rfl (fun some nobody => ?_) ?_
    · refine some ?_
      show pool.waiters.erase i = []
      rw [nobody]
      rfl
    · rw [cover_become locked outside rfl]
      show pool.cover ≤ pool.inUse.card + (pool.woken ++ [i]).length +
        (if pool.condition = none then 0 else 1)
      rw [List.length_append, List.length_singleton, cover]
      omega
  | woken interrupted => exact covered.become sound.locked (by rw [place]; rfl) rfl
  | _ => exact covered

/-- A call that begins leaves those who wait covered. -/
theorem Covered.start (covered : pool.Covered) (sound : pool.Sound)
    (outside : call.inCondition pool.kind = false) : (pool.start i call).Covered := by
  unfold TaskPool.start
  by_cases ready : pool.calls i = .idle
  · rw [if_pos ready]
    exact covered.become sound.locked (by rw [ready]; rfl) outside
  · rw [if_neg ready]
    exact covered

/-- A call of `re_auth_callback` that goes on leaves those who wait covered. -/
theorem Covered.authenticateFrom (covered : pool.Covered) (sound : pool.Sound) (position : Nat)
    (outside : (pool.calls i).inCondition pool.kind = false) :
    (pool.authenticateFrom i position).Covered := by
  unfold TaskPool.authenticateFrom
  cases pool.available[position]? with
  | some c => exact covered.become sound.locked outside rfl
  | none =>
    have answered : ({ pool with tokens := pool.tokens ∪ pool.inUse } : TaskPool).Covered :=
      ⟨covered.blocking, covered.enough⟩
    exact answered.become (sound.tokens (pool.tokens ∪ pool.inUse)).locked outside rfl

/-- A failed call of a blocking pool leaves those who wait covered. -/
theorem Covered.fail (covered : pool.Covered) (sound : pool.Sound) {cancelled : Bool}
    (place : pool.calls i = .ensuring c) : (pool.fail i c cancelled).1.Covered := by
  have blocks : pool.fail i c cancelled = (pool.become i (.cleaning c cancelled), none) := by
    unfold TaskPool.fail
    rw [covered.blocking]
  rw [blocks]
  exact covered.become sound.locked (by rw [place]; rfl) rfl

/-- A cancelled call leaves those who wait covered, if it does not skip a notification. -/
theorem Covered.cancel (covered : pool.Covered) (sound : pool.Sound)
    (kept : ¬SkipsWakeUp pool (.cancel i)) : (pool.cancel i).1.Covered := by
  unfold TaskPool.cancel
  cases place : pool.calls i with
  | idle => exact covered
  | waiting => exact covered.interrupt sound
  | woken interrupted => exact covered.interrupt sound
  | ensuring c => exact covered.fail sound place
  | cleaning c cancelled =>
    cases cancelled with
    | true => exact covered
    | false => exact covered.become sound.locked (by rw [place]; rfl) rfl
  | dispatching c failing =>
    refine covered.finish sound place (.inr ?_)
    by_contra some
    refine kept ⟨?_, some⟩
    show (pool.calls i).inCondition .blocking = true
    rw [place]
    rfl
  | _ => exact covered.become sound.locked (by rw [place]; rfl) rfl

/-- An action that does not skip a notification leaves those who wait covered. -/
theorem Covered.step (covered : pool.Covered) (sound : pool.Sound) {action : PoolAction}
    (kept : ¬SkipsWakeUp pool action) : (pool.step action).Covered := by
  cases action with
  | getConnection i => exact covered.start sound rfl
  | enter i =>
    show (pool.enter i).1.Covered
    by_cases ready : pool.calls i = .entering ∧ pool.guard = none
    · rw [enter_eq ready covered.blocking]
      refine waitFor_covered sound.accounts sound.locked (by rw [ready.1]; rfl) covered.blocking
        fun some => ?_
      have enough := covered.enough some
      omega
    · unfold enter
      rw [if_neg ready]
      exact covered
  | reenter i => exact covered.reenter sound
  | ensured i success =>
    show (pool.ensured i success).1.Covered
    unfold ensured
    cases place : pool.calls i with
    | ensuring c =>
      cases success with
      | false => exact covered.fail sound place
      | true =>
        have holds : ({ pool with held := insert c pool.held } : TaskPool).Covered :=
          ⟨covered.blocking, covered.enough⟩
        exact holds.become ⟨sound.locked.lock, sound.locked.condition⟩
          (by show (pool.calls i).inCondition pool.kind = false; rw [place]; rfl) rfl
    | _ => exact covered
  | release i c =>
    show (pool.release i c).1.Covered
    unfold release
    by_cases ready : pool.calls i = .idle ∧ c ∈ pool.held
    · simp only [if_pos ready]
      have given : ({ pool with held := pool.held.erase c } : TaskPool).Covered :=
        ⟨covered.blocking, covered.enough⟩
      split
      · rename_i standard
        cases standard.symm.trans covered.blocking
      · exact given.become ⟨sound.locked.lock, sound.locked.condition⟩
          (by show (pool.calls i).inCondition pool.kind = false; rw [ready.1]; rfl) rfl
    · rw [if_neg ready]
      exact covered
  | giveBack i =>
    show (pool.giveBack i).1.Covered
    unfold giveBack
    by_cases ready : pool.kind = .blocking ∧ pool.condition = none
    · simp only [if_pos ready]
      cases place : pool.calls i with
      | cleaning c cancelled =>
        exact covered.dispatch sound (by rw [place]; rfl) (by rw [place]; rfl) (by rw [place]; rfl)
          ready.2
      | releasing c =>
        exact covered.dispatch sound (by rw [place]; rfl) (by rw [place]; rfl) (by rw [place]; rfl)
          ready.2
      | _ => exact covered
    · rw [if_neg ready]
      exact covered
  | dispatched i success =>
    show (pool.dispatched i success).1.Covered
    unfold dispatched
    cases place : pool.calls i with
    | dispatching c failing =>
      refine covered.finish sound place ?_
      cases success with
      | true => exact .inl rfl
      | false =>
        right
        by_contra some
        refine kept ⟨?_, some⟩
        show (pool.calls i).inCondition .blocking = true
        rw [place]
        rfl
    | _ => exact covered
  | disconnect i => exact covered.start sound rfl
  | disconnected i =>
    show (if pool.calls i = .disconnecting then pool.become i .idle else pool).Covered
    by_cases ready : pool.calls i = .disconnecting
    · rw [if_pos ready]
      exact covered.become sound.locked (by rw [ready]; rfl) rfl
    · rw [if_neg ready]
      exact covered
  | reAuth i => exact covered.start sound rfl
  | listen i =>
    show (pool.listen i).Covered
    unfold listen
    by_cases ready : pool.calls i = .listening ∧ pool.lock = none
    · rw [if_pos ready]
      exact covered.authenticateFrom sound 0 (by rw [ready.1]; rfl)
    · rw [if_neg ready]
      exact covered
  | authenticated i success =>
    show (pool.authenticated i success).Covered
    unfold authenticated
    cases place : pool.calls i with
    | authenticating c position =>
      cases success with
      | true => exact covered.authenticateFrom sound (position + 1) (by rw [place]; rfl)
      | false => exact covered.become sound.locked (by rw [place]; rfl) rfl
    | _ => exact covered
  | cancel i => exact covered.cancel sound kept
  | timeout i => exact covered.interrupt sound

/-! ## Runs -/

/-- Where those who wait are covered and nobody can go on, all connections are in use. -/
theorem Covered.nobodySleeps (covered : pool.Covered) (sound : pool.Sound) :
    pool.NobodySleeps := by
  intro stuck i waits
  have quiet := quiet_of_stuck sound covered.blocking stuck
  have asleep : pool.woken = [] := sound.queued.woken.eq_nil fun j => by
    rcases quiet j with place | place <;> rw [place] <;> rfl
  have some : pool.waiters ≠ [] := by
    intro nobody
    have member := (sound.queued.waiters.mem i).mpr (by rw [waits]; rfl)
    rw [nobody] at member
    exact List.not_mem_nil member
  have enough := covered.enough some
  rw [cover, asleep, sound.condition_free stuck] at enough
  have used : pool.maxConnections ≤ pool.inUse.card := by simpa using enough
  have bounded := sound.accounts.bounded
  have empty : pool.available.length = 0 := by omega
  exact ⟨List.length_eq_zero_iff.mp empty, by omega⟩

end TaskPool

end RedisPy

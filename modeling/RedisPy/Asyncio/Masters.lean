import RedisPy.Asyncio.Sentinel

/-!
# Which master an asyncio sentinel pool serves

While a pool keeps to a master, an idle connection is connected to it, or not at all, or is about
to be disconnected by the call of `get_master_address` that learned the address. Two things break
this: `release` takes every connection back, whatever it is connected to; and somebody who holds a
connection may learn an address, outside the lock of the pool, while `get_connection` is on its
way with an idle connection.
-/

namespace RedisPy

open Runs

/-! ## What a step of the pool leaves alone -/

namespace TaskPool

variable {pool after : TaskPool} {i j c d : Nat} {call : PoolCall}

/-- A pool after steps that connect nothing: some connections have been given back, and the calls
that connect are still the same. -/
structure Follows (pool after : TaskPool) (back : List Nat) : Prop where
  /-- The class of the pool is the same. -/
  kind : after.kind = pool.kind
  /-- Idle connections were idle, or were given back. -/
  available : ∀ c ∈ after.available, c ∈ pool.available ∨ c ∈ back
  /-- Connections in use stay in use, or were given back. -/
  inUse : ∀ c ∈ pool.inUse, c ∈ after.inUse ∨ c ∈ back
  /-- Calls that connect did so before. -/
  ensuring : ∀ j d, after.calls j = .ensuring d → pool.calls j = .ensuring d

/-- A call that connects was on its way, or begins to. -/
theorem ensuring_of_become (connects : (pool.become i call).calls j = .ensuring d) :
    j = i ∧ call = .ensuring d ∨ j ≠ i ∧ pool.calls j = .ensuring d := by
  by_cases here : j = i
  · left
    rw [here, calls_become] at connects
    exact ⟨here, connects⟩
  · right
    simp only [become, Function.update_of_ne here] at connects
    exact ⟨here, connects⟩

/-- A call goes to a place where it does not connect. -/
theorem follows_become (other : ∀ d, call ≠ .ensuring d) :
    Follows pool (pool.become i call) [] where
  kind := rfl
  available _ idle := .inl idle
  inUse _ used := .inl used
  ensuring j d connects := by
    rcases ensuring_of_become connects with ⟨-, same⟩ | ⟨-, before⟩
    · exact absurd same (other d)
    · exact before

/-- The same pool. -/
theorem Follows.refl (pool : TaskPool) : Follows pool pool [] :=
  ⟨rfl, fun _ idle => .inl idle, fun _ used => .inl used, fun _ _ connects => connects⟩

/-- A connection is given back to a `ConnectionPool`. -/
theorem follows_dispatch (standard : pool.kind = .standard) (failing : Bool) :
    Follows pool (pool.dispatch i c failing).1 [c] := by
  have begun : Follows pool ((pool.putBack c).become i (.dispatching c failing)) [c] :=
    { kind := rfl
      available := fun _ idle => List.mem_append.mp idle
      inUse := fun d used => by
        by_cases same : d = c
        · exact .inr (List.mem_singleton.mpr same)
        · exact .inl (Finset.mem_erase.mpr ⟨same, used⟩)
      ensuring := fun j d connects => by
        rcases ensuring_of_become connects with ⟨-, same⟩ | ⟨-, before⟩
        · cases same
        · exact before }
  unfold dispatch
  by_cases token : c ∈ pool.tokens
  · rw [if_pos token]
    exact begun
  · rw [if_neg token]
    have kind : ((pool.putBack c).become i (.dispatching c failing)).kind = .standard := standard
    unfold finish
    rw [handled_standard kind]
    exact
      { kind := rfl
        available := begun.available
        inUse := begun.inUse
        ensuring := fun j d connects => by
          rcases ensuring_of_become connects with ⟨-, same⟩ | ⟨-, before⟩
          · cases same
          · exact begun.ensuring j d before }

/-- A call of `get_connection` begins. -/
theorem follows_getConnection : Follows pool (pool.step (.getConnection i)) [] := by
  show Follows pool (pool.start i .entering) []
  unfold start
  by_cases ready : pool.calls i = .idle
  · rw [if_pos ready]
    exact follows_become fun _ same => by cases same
  · rw [if_neg ready]
    exact .refl pool

/-- `get_connection` returns. -/
theorem follows_returned (place : pool.calls i = .ensuring c) :
    Follows pool (pool.step (.ensured i true)) [] := by
  have result : pool.step (.ensured i true) =
      ({ pool with held := insert c pool.held } : TaskPool).become i .idle := by
    simp only [step, advance, ensured, place, if_true]
  rw [result]
  have frame : Follows ({ pool with held := insert c pool.held } : TaskPool)
      (({ pool with held := insert c pool.held } : TaskPool).become i .idle) [] :=
    follows_become fun _ same => by cases same
  exact ⟨frame.kind, frame.available, frame.inUse, frame.ensuring⟩

/-- `get_connection` fails. -/
theorem follows_failed (standard : pool.kind = .standard) (place : pool.calls i = .ensuring c) :
    Follows pool (pool.step (.ensured i false)) [c] := by
  have result : pool.step (.ensured i false) = (pool.dispatch i c true).1 := by
    show (pool.ensured i false).1 = _
    unfold ensured
    rw [place]
    show (pool.fail i c false).1 = _
    unfold fail
    rw [standard]
  rw [result]
  exact follows_dispatch standard true

/-- A connection is released. -/
theorem follows_release (standard : pool.kind = .standard) :
    Follows pool (pool.step (.release i c)) [c] := by
  show Follows pool (pool.release i c).1 [c]
  unfold release
  by_cases ready : pool.calls i = .idle ∧ c ∈ pool.held
  · simp only [if_pos ready]
    have given : ({ pool with held := pool.held.erase c } : TaskPool).kind = .standard := standard
    have frame : Follows ({ pool with held := pool.held.erase c } : TaskPool)
        (({ pool with held := pool.held.erase c } : TaskPool).dispatch i c false).1 [c] :=
      follows_dispatch given false
    split
    · exact ⟨frame.kind, frame.available, frame.inUse, frame.ensuring⟩
    · rename_i blocking
      cases standard.symm.trans blocking
  · rw [if_neg ready]
    exact ⟨rfl, fun _ idle => .inl idle, fun _ used => .inl used, fun _ _ connects => connects⟩

/-- A call of `get_connection` gets the lock of a `ConnectionPool`: it takes the last idle
connection or a new one, or none. -/
theorem enter_cases (sound : pool.Sound) (standard : pool.kind = .standard)
    (place : pool.calls i = .entering) :
    Follows pool (pool.step (.enter i)) [] ∧ (∀ d, (pool.step (.enter i)).calls i ≠ .ensuring d) ∨
      ∃ c available made, c ∉ pool.inUse ∧ pool.lock = none ∧
        pool.step (.enter i) =
          ({ pool with available, inUse := insert c pool.inUse, made } : TaskPool).become i
            (.ensuring c) ∧
        (∀ d ∈ available, d ∈ pool.available) ∧
        (c ∈ pool.available → pool.available.getLast? = some c) := by
  by_cases free : pool.guard = none
  · have result : pool.step (.enter i) = (pool.takeFor i).1 := by
      show (pool.enter i).1 = _
      unfold enter
      rw [if_pos ⟨place, free⟩, standard]
    rw [result]
    unfold takeFor
    cases got : pool.getAvailableConnection with
    | error e =>
      left
      refine ⟨follows_become (fun _ same => by cases same), fun d same => ?_⟩
      rw [calls_become] at same
      cases same
    | ok pair =>
      right
      obtain ⟨c, taken⟩ := pair
      obtain ⟨fresh, -, -⟩ := getAvailableConnection_spec sound.accounts got
      have lock : pool.lock = none := (guard_standard standard).symm.trans free
      unfold getAvailableConnection at got
      cases top : pool.available.getLast? with
      | some last =>
        simp only [top] at got
        obtain ⟨rfl, rfl⟩ := Prod.mk.inj (Except.ok.inj got)
        exact ⟨last, pool.available.dropLast, pool.made, fresh, lock, rfl,
          fun d idle => List.mem_of_mem_dropLast idle, fun _ => rfl⟩
      | none =>
        simp only [top] at got
        by_cases full : pool.inUse.card ≥ pool.maxConnections
        · rw [if_pos full] at got
          cases got
        · rw [if_neg full] at got
          obtain ⟨rfl, rfl⟩ := Prod.mk.inj (Except.ok.inj got)
          refine ⟨pool.made, pool.available, pool.made + 1, fresh, lock, rfl, fun d idle => idle,
            fun idle => ?_⟩
          rw [List.getLast?_eq_none_iff.mp top] at idle
          exact absurd idle List.not_mem_nil
  · left
    have result : pool.step (.enter i) = pool := by
      show (pool.enter i).1 = pool
      unfold enter
      rw [if_neg fun ready => free ready.2]
    rw [result]
    refine ⟨.refl pool, fun d same => ?_⟩
    rw [place] at same
    cases same

end TaskPool

/-! ## The invariant -/

/-- A connection at this stage has no socket yet. -/
def Stage.connects : Stage → Bool
  | .asking => true
  | .clearing _ _ => true
  | .dialing _ => true
  | _ => false

namespace SentinelTasks

variable {s after : SentinelTasks} {i c d : Nat} {address : Address}

/-- The address that a connection is connected to, or is about to be. -/
def heading (s : SentinelTasks) (c : Nat) : Option Address :=
  match s.stages c with
  | .clearing address _ => some address
  | .dialing address => some address
  | _ => s.connected c

/-- A call of `get_master_address` is about to disconnect the connection. -/
def Pending (s : SentinelTasks) (c : Nat) : Prop :=
  ∃ d address left, s.stages d = .clearing address left ∧ c ∈ left

/-- A connection that is connected is connected to the master. -/
def Current (s : SentinelTasks) (c : Nat) : Prop :=
  ∀ address, s.connected c = some address → s.masterAddress = some address

instance (s : SentinelTasks) (c : Nat) : Decidable (s.Current c) :=
  inferInstanceAs (Decidable (∀ address ∈ s.connected c, s.masterAddress = some address))

/-- The invariant of careful runs. -/
structure Faithful (s : SentinelTasks) : Prop where
  /-- The pool is sound. -/
  sound : s.pool.Sound
  /-- It is a `ConnectionPool`. -/
  standard : s.pool.kind = .standard
  /-- Something is under way on connections in use only. -/
  started : ∀ c, s.stages c ≠ .rest → c ∈ s.pool.inUse
  /-- Idle connections are connected to the master, or about to be disconnected. -/
  idle : ∀ c ∈ s.pool.available, s.Current c ∨ s.Pending c
  /-- An idle connection that was taken heads for the master. -/
  taken : ∀ i c, s.pool.calls i = .ensuring c → s.fromIdle c = true →
    ∀ address, s.heading c = some address → s.masterAddress = some address
  /-- A connection that is being connected has no socket. -/
  unconnected : ∀ c, (s.stages c).connects = true → s.connected c = none

/-- A new pool. -/
theorem faithful_new (maxConnections : Nat) (address : Address) :
    (new maxConnections address).Faithful where
  sound := TaskPool.sound_new .standard maxConnections
  standard := rfl
  started _ moving := absurd rfl moving
  idle _ idle := absurd idle List.not_mem_nil
  taken _ _ connects := by cases connects
  unconnected _ _ := rfl

/-- Something happens to one connection that is not idle. -/
theorem Faithful.goes (faithful : s.Faithful) (c : Nat) (pool : after.pool = s.pool)
    (master : after.masterAddress = s.masterAddress) (fromIdle : after.fromIdle = s.fromIdle)
    (used : c ∈ s.pool.inUse) (stages : ∀ d, d ≠ c → after.stages d = s.stages d)
    (connected : ∀ d, d ≠ c → after.connected d = s.connected d)
    (clears : ∀ address left, s.stages c = .clearing address left → left = [])
    (heads : ∀ i, s.pool.calls i = .ensuring c → ∀ address, after.heading c = some address →
      s.heading c = some address ∨ s.masterAddress = some address)
    (unconnected : (after.stages c).connects = true → after.connected c = none) :
    after.Faithful where
  sound := by
    rw [pool]
    exact faithful.sound
  standard := by
    rw [pool]
    exact faithful.standard
  started d moving := by
    rw [pool]
    by_cases here : d = c
    · rw [here]
      exact used
    · rw [stages d here] at moving
      exact faithful.started d moving
  idle d idle := by
    rw [pool] at idle
    have other : d ≠ c := by
      intro same
      rw [same] at idle
      exact faithful.sound.accounts.disjoint c idle used
    rcases faithful.idle d idle with current | ⟨e, address, left, stage, member⟩
    · left
      intro address known
      rw [connected d other] at known
      rw [master]
      exact current address known
    · right
      have elsewhere : e ≠ c := by
        intro same
        rw [same] at stage
        rw [clears address left stage] at member
        exact absurd member List.not_mem_nil
      exact ⟨e, address, left, (stages e elsewhere).trans stage, member⟩
  taken i d connects idle address known := by
    rw [pool] at connects
    rw [fromIdle] at idle
    rw [master]
    by_cases here : d = c
    · rw [here] at connects idle known
      rcases heads i connects address known with before | now
      · exact faithful.taken i c connects idle address before
      · exact now
    · have same : after.heading d = s.heading d := by
        unfold heading
        rw [stages d here, connected d here]
      rw [same] at known
      exact faithful.taken i d connects idle address known
  unconnected d connects := by
    by_cases here : d = c
    · rw [here] at connects ⊢
      exact unconnected connects
    · rw [stages d here] at connects
      rw [connected d here]
      exact faithful.unconnected d connects

/-- The pool makes a step, in which connections to the master may be given back. -/
theorem Faithful.follows (faithful : s.Faithful) {pool : TaskPool} {back : List Nat}
    (frame : s.pool.Follows pool back) (sound : pool.Sound)
    (returned : ∀ c ∈ back, s.stages c = .rest ∧ s.Current c) :
    ({ s with pool } : SentinelTasks).Faithful where
  sound := sound
  standard := frame.kind.trans faithful.standard
  started c moving := by
    rcases frame.inUse c (faithful.started c moving) with still | back
    · exact still
    · exact absurd (returned c back).1 moving
  idle c idle := by
    rcases frame.available c idle with before | now
    · exact faithful.idle c before
    · exact .inl (returned c now).2
  taken i c connects := faithful.taken i c (frame.ensuring i c connects)
  unconnected := faithful.unconnected

/-! ## What goes wrong -/

/-- The connection that an action gives back as it is. -/
def givenBack (s : SentinelTasks) : SentinelAction → Option Nat
  | .release i c =>
    if c ∈ s.pool.held ∧ s.stages c = .rest ∧ s.pool.calls i = .idle then some c else none
  | .giveUp i => (s.ensuredBy i).filter fun c => s.stages c = .failed
  | .looked i .broken => (s.ensuredBy i).filter fun c => s.stages c = .rest
  | .looked i .data => (s.ensuredBy i).filter fun c => s.stages c = .rest ∧ s.again c
  | .looked i .unclosed => (s.ensuredBy i).filter fun c => s.stages c = .rest ∧ s.again c
  | _ => none

/-- A connection that is given back is connected to another address than the master's. -/
def ReturnsOld (s : SentinelTasks) (action : SentinelAction) : Prop :=
  ∃ c, s.givenBack action = some c ∧ ¬s.Current c

instance (s : SentinelTasks) (action : SentinelAction) : Decidable (s.ReturnsOld action) :=
  inferInstanceAs (Decidable (∃ c ∈ s.givenBack action, ¬s.Current c))

/-- The idle connection that the call of `get_connection` in the lock has taken. -/
def inProgress (s : SentinelTasks) : Option Nat :=
  (s.pool.lock.bind fun i => s.ensuredBy i).filter fun c => s.fromIdle c

/-- A call of `get_connection` overlaps with one of `get_master_address` that somebody else makes:
that one learns another address than the one that the taken connection heads for, or the
connection that is taken is about to be disconnected. -/
def Overlaps (s : SentinelTasks) : SentinelAction → Prop
  | .report c (some address) =>
    s.stages c = .asking ∧ ∃ d ∈ s.inProgress, ∃ other ∈ s.heading d, other ≠ address
  | .enter i =>
    s.pool.calls i = .entering ∧ s.pool.lock = none ∧ ∃ c ∈ s.pool.available.getLast?, s.Pending c
  | _ => False

/-! ## Steps -/

/-- `ensuredBy` is the connection that the call connects. -/
theorem ensuredBy_eq_some : s.ensuredBy i = some c ↔ s.pool.calls i = .ensuring c := by
  unfold ensuredBy
  cases place : s.pool.calls i with
  | ensuring d => simp
  | _ => simp

/-- A connection that a call connects is in use. -/
theorem Faithful.ensured_used (faithful : s.Faithful) (place : s.pool.calls i = .ensuring c) :
    c ∈ s.pool.inUse := (faithful.sound.owners.owned i c (by rw [place]; rfl)).1

/-- No call connects a connection that somebody holds. -/
theorem Faithful.held_alone (faithful : s.Faithful) (held : c ∈ s.pool.held) (i : Nat) :
    s.pool.calls i ≠ .ensuring c :=
  fun place => (faithful.sound.owners.owned i c (by rw [place]; rfl)).2 held

/-- The call that connects is in the lock. -/
theorem Faithful.inProgress_eq (faithful : s.Faithful) (place : s.pool.calls i = .ensuring c)
    (taken : s.fromIdle c = true) : s.inProgress = some c := by
  have lock : s.pool.lock = some i :=
    (faithful.sound.locked.lock i).mpr (by rw [faithful.standard, place]; rfl)
  unfold inProgress
  rw [lock]
  show (s.ensuredBy i).filter _ = _
  rw [ensuredBy_eq_some.mpr place, Option.filter_some, if_pos taken]

/-- A stage without an address. -/
theorem heading_of_stage (stage : s.stages c = .rest ∨ s.stages c = .asking ∨ s.stages c = .failed) :
    s.heading c = s.connected c := by
  unfold heading
  rcases stage with stage | stage | stage <;> rw [stage]

/-- A stage with an address. -/
theorem heading_of_address
    (stage : (∃ left, s.stages c = .clearing address left) ∨ s.stages c = .dialing address) :
    s.heading c = some address := by
  unfold heading
  rcases stage with ⟨left, stage⟩ | stage <;> rw [stage]

/-- A connection to which nothing happens heads for the same address. -/
theorem heading_congr (stages : after.stages c = s.stages c)
    (connected : after.connected c = s.connected c) : after.heading c = s.heading c := by
  unfold heading
  rw [stages, connected]

/-- A connection is at the stage that it went to. -/
theorem stages_goTo {stage : Stage} : (s.goTo c stage).stages c = stage := Function.update_self ..

/-- The other connections stay where they are. -/
theorem stages_goTo_of_ne {stage : Stage} (other : d ≠ c) :
    (s.goTo c stage).stages d = s.stages d := Function.update_of_ne other _ _

/-- A connection asks for the master, or is connected already. -/
theorem Faithful.connectRetry (faithful : s.Faithful) (used : c ∈ s.pool.inUse)
    (stage : s.stages c = .rest ∨ s.stages c = .failed) : (s.connectRetry c).Faithful := by
  have before : s.heading c = s.connected c := heading_of_stage (by
    rcases stage with stage | stage
    · exact .inl stage
    · exact .inr (.inr stage))
  have now : (s.connectRetry c).stages c = if s.connected c = none then .asking else .rest :=
    Function.update_self ..
  refine faithful.goes c rfl rfl rfl used (fun d other => Function.update_of_ne other _ _)
    (fun _ _ => rfl) (fun address left clears => ?_) (fun _ _ address known => .inl ?_)
    fun connects => ?_
  · rcases stage with stage | stage <;> cases stage.symm.trans clears
  · have after : (s.connectRetry c).heading c = s.connected c := by
      refine heading_of_stage ?_
      rw [now]
      by_cases without : s.connected c = none
      · exact .inr (.inl (if_pos without))
      · exact .inl (if_neg without)
    rw [before, ← after]
    exact known
  · rw [now] at connects
    by_cases without : s.connected c = none
    · exact without
    · rw [if_neg without] at connects
      cases connects

/-- A connection comes to rest, or an attempt fails. -/
theorem Faithful.goTo (faithful : s.Faithful) {stage : Stage} (used : c ∈ s.pool.inUse)
    (clears : ∀ address left, s.stages c = .clearing address left → left = [])
    (settled : stage = .rest ∨ stage = .failed)
    (heads : ∀ address, s.connected c = some address → s.heading c = some address) :
    (s.goTo c stage).Faithful := by
  have now : (s.goTo c stage).stages c = stage := Function.update_self ..
  refine faithful.goes c rfl rfl rfl used (fun d other => Function.update_of_ne other _ _)
    (fun _ _ => rfl) clears (fun _ _ address known => .inl (heads address ?_)) fun connects => ?_
  · have after : (s.goTo c stage).heading c = s.connected c := by
      refine heading_of_stage ?_
      rw [now]
      rcases settled with rest | failed
      · exact .inl rest
      · exact .inr (.inr failed)
    rw [after] at known
    exact known
  · rw [now] at connects
    rcases settled with rfl | rfl <;> cases connects

/-- The sentinels answer. -/
theorem Faithful.report (faithful : s.Faithful) (address : Option Address)
    (apart : ¬s.Overlaps (.report c address)) : (s.report c address).Faithful := by
  unfold SentinelTasks.report
  by_cases asks : s.stages c = .asking
  · rw [if_pos asks]
    have used : c ∈ s.pool.inUse := faithful.started c fun rest => by cases asks.symm.trans rest
    have without : s.connected c = none := faithful.unconnected c (by rw [asks]; rfl)
    have clears : ∀ address left, s.stages c = .clearing address left → left = [] :=
      fun _ _ stage => by cases asks.symm.trans stage
    cases address with
    | none =>
      exact faithful.goTo used clears (.inr rfl) fun _ known => by cases without.symm.trans known
    | some address =>
      by_cases same : s.masterAddress = some address
      · simp only [if_pos same]
        refine faithful.goes c rfl rfl rfl used (fun d other => Function.update_of_ne other _ _)
          (fun _ _ => rfl) clears (fun _ _ other known => .inr ?_) fun _ => without
        have heads : (({ s with returned := true } : SentinelTasks).goTo c
            (.dialing address)).heading c = some address :=
          heading_of_address (.inr stages_goTo)
        rw [heads] at known
        rw [same, known]
      · simp only [if_neg same]
        exact
          { sound := faithful.sound
            standard := faithful.standard
            started := fun d moving => by
              by_cases here : d = c
              · rw [here]
                exact used
              · rw [stages_goTo_of_ne here] at moving
                exact faithful.started d moving
            idle := fun d idle =>
              .inr ⟨c, address, s.pool.available, Function.update_self .., idle⟩
            taken := fun i d connects idle other known => by
              by_cases here : d = c
              · rw [here] at known
                have heads : (({ s with masterAddress := some address, returned := false } :
                    SentinelTasks).goTo c (.clearing address s.pool.available)).heading c =
                      some address := heading_of_address (.inl ⟨_, stages_goTo⟩)
                rw [heads] at known
                exact known
              · have before : s.heading d = some other := by
                  rw [← known]
                  exact (heading_congr (stages_goTo_of_ne here) rfl).symm
                have taken : d ∈ s.inProgress := faithful.inProgress_eq connects idle
                by_contra differs
                refine apart ⟨asks, d, taken, other, before, fun equal => differs ?_⟩
                rw [equal]
                rfl
            unconnected := fun d connects => by
              by_cases here : d = c
              · rw [here]
                exact without
              · refine faithful.unconnected d ?_
                have same : (({ s with masterAddress := some address, returned := false } :
                    SentinelTasks).goTo c (.clearing address s.pool.available)).stages d =
                      s.stages d := Function.update_of_ne here _ _
                rw [same] at connects
                exact connects }
  · rw [if_neg asks]
    exact faithful

/-- An idle connection is disconnected. -/
theorem Faithful.close (faithful : s.Faithful) : (s.close d c).Faithful := by
  unfold SentinelTasks.close
  cases stage : s.stages c with
  | clearing address left =>
    by_cases member : d ∈ left
    · simp only [if_pos member]
      have connected : ∀ e, e ≠ d →
          ((s.socket d none).goTo c (.clearing address (left.erase d))).connected e =
            s.connected e := fun e other => Function.update_of_ne other _ _
      have gone : ((s.socket d none).goTo c (.clearing address (left.erase d))).connected d =
          none := Function.update_self ..
      have stages : ∀ e, e ≠ c →
          ((s.socket d none).goTo c (.clearing address (left.erase d))).stages e = s.stages e :=
        fun e other => Function.update_of_ne other _ _
      have now : ((s.socket d none).goTo c (.clearing address (left.erase d))).stages c =
          .clearing address (left.erase d) := Function.update_self ..
      exact
        { sound := faithful.sound
          standard := faithful.standard
          started := fun e moving => by
            by_cases own : e = c
            · rw [own]
              exact faithful.started c fun rest => by cases stage.symm.trans rest
            · rw [stages e own] at moving
              exact faithful.started e moving
          idle := fun e idle => by
            by_cases here : e = d
            · left
              intro other known
              rw [here, gone] at known
              cases known
            · rcases faithful.idle e idle with current | ⟨f, other, rest, clears, waits⟩
              · left
                intro other known
                rw [connected e here] at known
                exact current other known
              · right
                by_cases own : f = c
                · rw [own, stage] at clears
                  cases clears
                  exact ⟨c, address, left.erase d, now, (List.mem_erase_of_ne here).mpr waits⟩
                · exact ⟨f, other, rest, (stages f own).trans clears, waits⟩
          taken := fun i e connects idle other known => by
            refine faithful.taken i e connects idle other ?_
            by_cases own : e = c
            · rw [own] at known ⊢
              rw [heading_of_address (.inl ⟨_, now⟩)] at known
              rw [heading_of_address (.inl ⟨_, stage⟩)]
              exact known
            · by_cases here : e = d
              · -- a connection that was disconnected heads nowhere, unless it has an address
                rw [here] at own known ⊢
                unfold heading at known ⊢
                rw [stages d own, gone] at known
                cases place : s.stages d with
                | clearing a l =>
                  rw [place] at known
                  exact known
                | dialing a =>
                  rw [place] at known
                  exact known
                | _ =>
                  rw [place] at known
                  cases known
              · rw [← known]
                exact (heading_congr (stages e own) (connected e here)).symm
          unconnected := fun e connects => by
            by_cases here : e = d
            · rw [here]
              exact gone
            · rw [connected e here]
              by_cases own : e = c
              · rw [own]
                exact faithful.unconnected c (by rw [stage]; rfl)
              · rw [stages e own] at connects
                exact faithful.unconnected e connects }
    · simp only [if_neg member]
      exact faithful
  | _ => exact faithful

/-- `get_master_address` returns or raises. -/
theorem Faithful.cleared (faithful : s.Faithful) (success : Bool) :
    (s.cleared c success).Faithful := by
  unfold SentinelTasks.cleared
  cases stage : s.stages c with
  | clearing address left =>
    cases left with
    | cons d rest => exact faithful
    | nil =>
      have used : c ∈ s.pool.inUse := faithful.started c fun rest => by
        cases stage.symm.trans rest
      have without : s.connected c = none := faithful.unconnected c (by rw [stage]; rfl)
      have clears : ∀ other left, s.stages c = .clearing other left → left = [] :=
        fun _ _ same => by
          cases stage.symm.trans same
          rfl
      cases success with
      | false =>
        exact faithful.goTo used clears (.inr rfl) fun _ known => by cases without.symm.trans known
      | true =>
        refine faithful.goes c rfl rfl rfl used (fun d other => Function.update_of_ne other _ _)
          (fun _ _ => rfl) clears (fun _ _ other known => .inl ?_) fun _ => without
        have heads : (({ s with returned := s.returned || s.masterAddress = some address } :
            SentinelTasks).goTo c (.dialing address)).heading c = some address :=
          heading_of_address (.inr stages_goTo)
        cases heads.symm.trans known
        exact heading_of_address (.inl ⟨[], stage⟩)
  | _ => exact faithful

/-- `connect_to` ends. -/
theorem Faithful.dialed (faithful : s.Faithful) (result : Dialed) :
    (s.dialed c result).Faithful := by
  unfold SentinelTasks.dialed
  cases stage : s.stages c with
  | dialing address =>
    have used : c ∈ s.pool.inUse := faithful.started c fun rest => by cases stage.symm.trans rest
    have before : s.heading c = some address := by
      unfold heading
      rw [stage]
    have settles : ∀ (socket : Option Address) (next : Stage), next = .rest ∨ next = .failed →
        (∀ other, socket = some other → other = address) →
        ((({ s with addresses := Function.update s.addresses c address } :
          SentinelTasks).socket c socket).goTo c next).Faithful := by
      intro socket next settled own
      refine faithful.goes c rfl rfl rfl used (fun d other => Function.update_of_ne other _ _)
        (fun d other => Function.update_of_ne other _ _)
        (fun _ _ same => by cases stage.symm.trans same) (fun _ _ other known => .inl ?_)
        fun connects => ?_
      · rw [before]
        have after : ((({ s with addresses := Function.update s.addresses c address } :
            SentinelTasks).socket c socket).goTo c next).heading c = socket := by
          have stands : ((({ s with addresses := Function.update s.addresses c address } :
              SentinelTasks).socket c socket).goTo c next).stages c = next :=
            Function.update_self ..
          have gets : ((({ s with addresses := Function.update s.addresses c address } :
              SentinelTasks).socket c socket).goTo c next).connected c = socket :=
            Function.update_self ..
          rw [heading_of_stage, gets]
          rw [stands]
          rcases settled with rest | failed
          · exact .inl rest
          · exact .inr (.inr failed)
        rw [after] at known
        rw [own other known]
      · rcases settled with rfl | rfl <;>
          simp only [SentinelTasks.goTo, Function.update_self] at connects <;> cases connects
    cases result with
    | established =>
      exact settles (some address) .rest (.inl rfl) fun _ same => (Option.some.inj same).symm
    | broken => exact settles none .failed (.inr rfl) fun _ same => by cases same
    | unanswered =>
      exact settles (some address) .failed (.inr rfl) fun _ same => (Option.some.inj same).symm
  | _ => exact faithful

/-- A connection that was taken or is held, and on which nothing is under way, is disconnected. -/
theorem Faithful.disconnected (faithful : s.Faithful) (used : c ∈ s.pool.inUse)
    (rest : s.stages c = .rest) : (s.socket c none).Faithful := by
  have gone : (s.socket c none).connected c = none := Function.update_self ..
  refine faithful.goes c rfl rfl rfl used (fun _ _ => rfl)
    (fun d other => Function.update_of_ne other _ _)
    (fun _ _ same => by cases rest.symm.trans same) (fun _ _ other known => ?_) fun _ => gone
  have nowhere : (s.socket c none).heading c = none :=
    (heading_of_stage (s := s.socket c none) (.inl rest)).trans gone
  cases nowhere.symm.trans known

/-- `get_connection` fails with a connection to the master. -/
theorem Faithful.fail (faithful : s.Faithful) (place : s.pool.calls i = .ensuring c)
    (stage : s.stages c = .rest ∨ s.stages c = .failed) (current : s.Current c) :
    (s.fail i c).Faithful := by
  have rested : (s.goTo c .rest).Faithful := by
    refine faithful.goTo (faithful.ensured_used place) (fun _ _ same => ?_) (.inl rfl)
      fun address known => ?_
    · rcases stage with stage | stage <;> cases stage.symm.trans same
    · rw [heading_of_stage]
      · exact known
      · rcases stage with stage | stage
        · exact .inl stage
        · exact .inr (.inr stage)
  refine rested.follows (TaskPool.follows_failed faithful.standard place)
    (faithful.sound.step (.ensured i false)) fun d one => ?_
  rw [List.mem_singleton.mp one]
  exact ⟨stages_goTo, current⟩

/-- `call_with_retry` gives up. -/
theorem Faithful.giveUp (faithful : s.Faithful) (kept : ¬s.ReturnsOld (.giveUp i)) :
    (s.giveUp i).Faithful := by
  unfold SentinelTasks.giveUp
  cases ensured : s.ensuredBy i with
  | none => exact faithful
  | some c =>
    by_cases failed : s.stages c = .failed
    · simp only [if_pos failed]
      refine faithful.fail (ensuredBy_eq_some.mp ensured) (.inr failed) ?_
      by_contra old
      refine kept ⟨c, ?_, old⟩
      simp [givenBack, ensured, failed]
    · simp only [if_neg failed]
      exact faithful

/-- `ensure_connection` looks for data. -/
theorem Faithful.looked (faithful : s.Faithful) (result : Looked)
    (kept : ¬s.ReturnsOld (.looked i result)) : (s.looked i result).Faithful := by
  unfold SentinelTasks.looked
  cases ensured : s.ensuredBy i with
  | none => exact faithful
  | some c =>
    have place : s.pool.calls i = .ensuring c := ensuredBy_eq_some.mp ensured
    have used := faithful.ensured_used place
    by_cases rest : s.stages c = .rest
    · simp only [if_pos rest]
      cases result with
      | nothing =>
        exact faithful.follows (TaskPool.follows_returned place)
          (faithful.sound.step (.ensured i true)) fun _ none => absurd none List.not_mem_nil
      | broken =>
        refine faithful.fail place (.inl rest) ?_
        by_contra old
        refine kept ⟨c, ?_, old⟩
        simp [givenBack, ensured, rest]
      | unclosed =>
        cases again : s.again c with
        | true =>
          refine faithful.fail place (.inl rest) ?_
          by_contra old
          refine kept ⟨c, ?_, old⟩
          simp [givenBack, ensured, rest, again]
        | false =>
          refine (faithful.disconnected used rest).fail place (.inl rest) fun address known => ?_
          have gone : (s.socket c none).connected c = none := Function.update_self ..
          cases gone.symm.trans known
      | data =>
        cases again : s.again c with
        | true =>
          refine faithful.fail place (.inl rest) ?_
          by_contra old
          refine kept ⟨c, ?_, old⟩
          simp [givenBack, ensured, rest, again]
        | false =>
          have closed := faithful.disconnected used rest
          have noted : ({ s.socket c none with again := Function.update s.again c true } :
              SentinelTasks).Faithful :=
            ⟨closed.sound, closed.standard, closed.started, closed.idle, closed.taken,
              closed.unconnected⟩
          exact noted.connectRetry used (.inl rest)
    · simp only [if_neg rest]
      exact faithful

/-- A call of `get_connection` takes a connection. -/
theorem Faithful.enter (faithful : s.Faithful) (apart : ¬s.Overlaps (.enter i)) :
    (s.enter i).Faithful := by
  unfold SentinelTasks.enter
  by_cases place : s.pool.calls i = .entering
  · simp only [if_pos place]
    have sound := faithful.sound.step (.enter i)
    rcases TaskPool.enter_cases faithful.sound faithful.standard place with ⟨frame, none⟩ |
      ⟨c, available, made, fresh, lock, result, shrinks, top⟩
    · have kept : ({ s with pool := s.pool.step (.enter i) } : SentinelTasks).Faithful :=
        faithful.follows frame sound fun _ none => absurd none List.not_mem_nil
      cases now : (s.pool.step (.enter i)).calls i with
      | ensuring d => exact absurd now (none d)
      | _ => exact kept
    · have takes : (s.pool.step (.enter i)).calls i = .ensuring c := by
        rw [result, TaskPool.calls_become]
      have rest : s.stages c = .rest := by
        by_contra moving
        exact fresh (faithful.started c moving)
      have taken : ({ s with
          pool := s.pool.step (.enter i)
          fromIdle := Function.update s.fromIdle c (c ∈ s.pool.available)
          again := Function.update s.again c false } : SentinelTasks).Faithful :=
        { sound := sound
          standard := by
            show (s.pool.step (.enter i)).kind = .standard
            rw [result]
            exact faithful.standard
          started := fun d moving => by
            show d ∈ (s.pool.step (.enter i)).inUse
            rw [result]
            exact Finset.mem_insert_of_mem (faithful.started d moving)
          idle := fun d idle => by
            have member : d ∈ (s.pool.step (.enter i)).available := idle
            rw [result] at member
            exact faithful.idle d (shrinks d member)
          taken := fun j d connects idle address known => by
            have on : (s.pool.step (.enter i)).calls j = .ensuring d := connects
            rw [result] at on
            rcases TaskPool.ensuring_of_become on with ⟨-, same⟩ | ⟨-, before⟩
            · -- the connection that was taken: if it was idle, nobody is about to disconnect it
              cases same
              have member : c ∈ s.pool.available := by
                have flag : Function.update s.fromIdle c (decide (c ∈ s.pool.available)) c = true :=
                  idle
                rw [Function.update_self] at flag
                exact of_decide_eq_true flag
              have current : s.Current c := by
                rcases faithful.idle c member with current | pending
                · exact current
                · exact absurd ⟨place, lock, c, top member, pending⟩ apart
              exact current address ((heading_of_stage (s := s) (.inl rest)).symm.trans known)
            · have other : d ≠ c := by
                intro same
                rw [same] at before
                exact fresh (faithful.ensured_used before)
              have flag : Function.update s.fromIdle c (decide (c ∈ s.pool.available)) d = true :=
                idle
              rw [Function.update_of_ne other] at flag
              exact faithful.taken j d before flag address known
          unconnected := faithful.unconnected }
      rw [takes]
      exact taken.connectRetry (taken.ensured_used takes) (.inl rest)
  · simp only [if_neg place]
    exact faithful

/-- The holder of a connection does something with it. -/
theorem Faithful.whenHeld (faithful : s.Faithful)
    (does : c ∈ s.pool.held → s.stages c = .rest → after.Faithful) :
    (s.whenHeld c after).Faithful := by
  unfold SentinelTasks.whenHeld
  by_cases may : c ∈ s.pool.held ∧ s.stages c = .rest
  · rw [if_pos may]
    exact does may.1 may.2
  · rw [if_neg may]
    exact faithful

/-- An action that neither gives an old connection back nor lets two calls overlap keeps the
invariant. -/
theorem Faithful.step (faithful : s.Faithful) {action : SentinelAction}
    (kept : ¬s.ReturnsOld action) (apart : ¬s.Overlaps action) : (s.step action).Faithful := by
  cases action with
  | getConnection i =>
    exact faithful.follows TaskPool.follows_getConnection (faithful.sound.step (.getConnection i))
      fun _ none => absurd none List.not_mem_nil
  | enter i => exact faithful.enter apart
  | release i c =>
    refine faithful.whenHeld fun held rest => ?_
    by_cases idle : s.pool.calls i = .idle
    · refine faithful.follows (TaskPool.follows_release faithful.standard)
        (faithful.sound.step (.release i c)) fun d one => ?_
      rw [List.mem_singleton.mp one]
      refine ⟨rest, ?_⟩
      by_contra old
      exact kept ⟨c, if_pos ⟨held, rest, idle⟩, old⟩
    · have same : s.pool.step (.release i c) = s.pool := by
        show (s.pool.release i c).1 = s.pool
        unfold TaskPool.release
        rw [if_neg fun ready => idle ready.1]
      rw [same]
      exact faithful
  | report c address => exact faithful.report address apart
  | close d c => exact faithful.close
  | cleared c success => exact faithful.cleared success
  | dialed c result => exact faithful.dialed result
  | retry c =>
    show (if s.stages c = .failed then s.connectRetry c else s).Faithful
    by_cases failed : s.stages c = .failed
    · rw [if_pos failed]
      exact faithful.connectRetry
        (faithful.started c fun rest => by cases failed.symm.trans rest) (.inr failed)
    · rw [if_neg failed]
      exact faithful
  | giveUp i => exact faithful.giveUp kept
  | giveUpHeld c =>
    show (if c ∈ s.pool.held ∧ s.stages c = .failed then s.goTo c .rest else s).Faithful
    by_cases may : c ∈ s.pool.held ∧ s.stages c = .failed
    · rw [if_pos may]
      refine faithful.goTo (faithful.sound.accounts.heldInUse may.1)
        (fun _ _ same => by cases may.2.symm.trans same) (.inl rfl) fun address known => ?_
      exact (heading_of_stage (.inr (.inr may.2))).trans known
    · rw [if_neg may]
      exact faithful
  | looked i result => exact faithful.looked result kept
  | connect c =>
    exact faithful.whenHeld fun held rest =>
      faithful.connectRetry (faithful.sound.accounts.heldInUse held) (.inl rest)
  | send c =>
    refine faithful.whenHeld fun held rest => ?_
    by_cases without : s.connected c = none
    · rw [if_pos without]
      exact faithful.goes c rfl rfl rfl (faithful.sound.accounts.heldInUse held) (fun _ _ => rfl)
        (fun d other => Function.update_of_ne other _ _)
        (fun _ _ same => by cases rest.symm.trans same)
        (fun i place => absurd place (faithful.held_alone held i))
        fun connects => by
          have moving : (s.stages c).connects = true := connects
          rw [rest] at moving
          cases moving
    · rw [if_neg without]
      exact faithful
  | disconnect c =>
    exact faithful.whenHeld fun held rest =>
      faithful.disconnected (faithful.sound.accounts.heldInUse held) rest

/-! ## Runs -/

/-- Once `get_master_address` has returned the master address, a connection that is handed out
from the idle ones is connected to it, if it is connected. -/
def ServesMaster (s : SentinelTasks) (action : SentinelAction) : Prop :=
  s.returned = true → ∀ c, s.handedOut action = some c → s.fromIdle c = true → s.Current c

/-- An idle connection that is handed out is connected to the master. -/
theorem Faithful.servesMaster (faithful : s.Faithful) (action : SentinelAction) :
    s.ServesMaster action := by
  intro _ c handed idle address known
  unfold handedOut at handed
  split at handed
  · rename_i i
    split at handed
    · rename_i d ensured
      by_cases rest : s.stages d = .rest
      · rw [if_pos rest] at handed
        cases handed
        exact faithful.taken i c (ensuredBy_eq_some.mp ensured) idle address
          ((heading_of_stage (.inl rest)).trans known)
      · rw [if_neg rest] at handed
        cases handed
    · cases handed
  · cases handed

/-- In every run in which no connection to another address than the master's is given back, and
no call of `get_connection` overlaps with a call of `get_master_address` by somebody else, the old
master is never served. -/
theorem run_servesMaster (maxConnections : Nat) (address : Address)
    (actions : List SentinelAction)
    (careful : Each step (fun s action => ¬s.ReturnsOld action ∧ ¬s.Overlaps action)
      (new maxConnections address) actions) :
    Each step ServesMaster (new maxConnections address) actions := by
  intro earlier action later split
  have front : Each step (fun s action => ¬s.ReturnsOld action ∧ ¬s.Overlaps action)
      (new maxConnections address) earlier := by
    intro first next rest inside
    exact careful first next (rest ++ action :: later) (by
      rw [split, inside, List.append_assoc, List.cons_append])
  have reached : (earlier.foldl step (new maxConnections address)).Faithful :=
    inv_of_each Faithful (fun _ _ faithful allowed => faithful.step allowed.1 allowed.2)
      (faithful_new maxConnections address) front
  exact reached.servesMaster action

/-- The local server. -/
def localhost : Address := { host := "localhost".toList, port := 6379 }

/-- The first master. -/
def firstMaster : Address := { host := "10.0.0.1".toList, port := 6379 }

/-- The master after a failover. -/
def secondMaster : Address := { host := "10.0.0.2".toList, port := 6379 }

/-- A connection is opened, released and handed out again. -/
theorem run_servesMaster_reused : Each step ServesMaster (new 1 localhost)
    [.getConnection 0, .enter 0, .report 0 (some firstMaster), .cleared 0 true,
      .dialed 0 .established, .looked 0 .nothing, .release 0 0, .getConnection 1, .enter 1,
      .looked 1 .nothing] := by
  refine run_servesMaster 1 localhost _ ?_
  refine each_cons.mpr ⟨⟨by decide +kernel, id⟩, each_cons.mpr ⟨⟨by decide +kernel, ?_⟩,
    each_cons.mpr ⟨⟨by decide +kernel, ?_⟩, each_cons.mpr ⟨⟨by decide +kernel, id⟩,
    each_cons.mpr ⟨⟨by decide +kernel, id⟩, each_cons.mpr ⟨⟨by decide +kernel, id⟩,
    each_cons.mpr ⟨⟨by decide +kernel, id⟩, each_cons.mpr ⟨⟨by decide +kernel, id⟩,
    each_cons.mpr ⟨⟨by decide +kernel, ?_⟩, each_cons.mpr ⟨⟨by decide +kernel, id⟩,
    each_nil⟩⟩⟩⟩⟩⟩⟩⟩⟩⟩
  · rintro ⟨-, -, c, top, -⟩
    cases top
  · rintro ⟨-, d, taken, -⟩
    cases taken
  · rintro ⟨-, -, c, -, d, address, left, stage, -⟩
    match d with
    | 0 => cases stage
    | _ + 1 => cases stage

/-- Two connections are opened, to the first master and, after the failover, to the second one;
then the first connection is released, and it is handed out again although the pool knows the
second master. -/
theorem released_old_master_served : ¬Each step ServesMaster (new 2 localhost)
    [.getConnection 0, .enter 0, .report 0 (some firstMaster), .cleared 0 true,
      .dialed 0 .established, .looked 0 .nothing, .getConnection 1, .enter 1,
      .report 1 (some secondMaster), .cleared 1 true, .dialed 1 .established, .looked 1 .nothing,
      .release 0 0, .getConnection 2, .enter 2, .looked 2 .nothing] := by
  intro serves
  have last := serves
    [.getConnection 0, .enter 0, .report 0 (some firstMaster), .cleared 0 true,
      .dialed 0 .established, .looked 0 .nothing, .getConnection 1, .enter 1,
      .report 1 (some secondMaster), .cleared 1 true, .dialed 1 .established, .looked 1 .nothing,
      .release 0 0, .getConnection 2, .enter 2] (.looked 2 .nothing) [] rfl
  have current := last (by decide +kernel) 0 (by decide +kernel) (by decide +kernel)
  revert current
  decide +kernel

end SentinelTasks

end RedisPy

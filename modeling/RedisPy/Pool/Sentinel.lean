import RedisPy.Pool.Accounting

/-!
# The Sentinel pool

A `SentinelConnectionPool` that keeps to a master changes its mind about which connections it
owns whenever the sentinels name another one. Its accounts are in order exactly in the runs in
which every connection in use that is released is owned at that moment. Its idle connections are
connected to the master, because learning an address disconnects the idle ones and giving back
compares addresses; only the host and port that a `CacheProxyConnection` copied can be wrong.
-/

namespace RedisPy

open Contract SyncPool Runs

/-! ## Accounts -/

/-- The count is right, there are not too many connections, and with none in use one can be handed
out or created. -/
def Balanced (config : SyncPoolConfig) (pool : SyncPool) : Prop :=
  pool.createdConnections = pool.available.length + pool.inUse.card ∧
    pool.createdConnections ≤ config.bound ∧
    (pool.inUse = ∅ → pool.available ≠ [] ∨ pool.createdConnections < config.bound)

instance (config : SyncPoolConfig) (pool : SyncPool) : Decidable (Balanced config pool) :=
  inferInstanceAs (Decidable (_ ∧ _ ∧ _))

namespace SyncPoolRun

/-- Accounts in order are balanced. -/
theorem balanced_of_accounted {config : SyncPoolConfig} {pool : SyncPool}
    (accounted : Accounted config pool) : Balanced config pool := by
  refine ⟨accounted.counted, accounted.bounded, fun none => ?_⟩
  by_cases empty : pool.available = []
  · right
    have counted := accounted.counted
    have room : 0 < config.bound := boundOf_pos config.maxConnections
    rw [empty, none] at counted
    simp only [List.length_nil, Finset.card_empty] at counted
    omega
  · exact .inl empty

section Accounts

variable {config : SyncPoolConfig} {env : PoolEnv} {run : SyncPoolRun}

/-- A step that loses a connection unbalances the accounts. -/
theorem Kept.unbalanced (kept : Kept config run) {step : SyncPoolStep}
    (lost : ¬Owned config env run.pool step) : ¬Balanced config (run.step config env step).pool := by
  cases step with
  | getConnection =>
    have uncounted := kept.sound.got_uncounted lost
    intro balanced
    apply uncounted
    have same : (run.step config env .getConnection).pool =
        stateAfter (getConnection config env run.pool) := by
      unfold SyncPoolRun.step
      cases getConnection config env run.pool <;> rfl
    rw [← same]
    exact balanced.1
  | release id =>
    have inUse : id ∈ run.pool.current.inUse := by
      by_contra other
      exact lost fun inUse => absurd inUse other
    have foreign : ¬run.pool.current.ownsConnection config id = true := fun owned =>
      lost fun _ => owned
    intro balanced
    exact kept.sound.released_uncounted inUse foreign balanced.1
  | disconnect inuseConnections => exact absurd trivial lost
  | fork => exact absurd trivial lost
  | connect id => exact absurd trivial lost
  | talk id connected => exact absurd trivial lost

/-- In a run of a new pool the accounts are balanced all along exactly when no constructor raises and
every connection in use that is released is owned by the pool at that moment. -/
theorem after_balanced_iff (config : SyncPoolConfig) (env : PoolEnv) (process : Nat)
    (steps : List SyncPoolStep) :
    Always (step config env) (fun run => Balanced config run.pool) (start config process) steps ↔
      Each (step config env) (fun run => Owned config env run.pool) (start config process) steps :=
  always_iff_each (Kept config) (fun _ _ kept owned => kept.step owned)
    (fun _ kept => balanced_of_accounted kept.sound.toAccounted)
    (fun _ _ kept lost => kept.unbalanced lost) (kept_start config process)

end Accounts

/-- A pool that keeps to a master. -/
def followed (cached : Bool) : SyncPoolConfig where
  kind := .sentinel true false
  maxConnections := some 2
  cached := cached
  address := { host := "localhost".toList, port := 6379 }
  retry := { retries := some 0, supportedErrors := [] }

/-- Everything is answered, and after the first question the sentinels name another master. -/
def failingOver (old new : Address) : PoolEnv :=
  { PoolEnv.answering with discoverMaster := fun n => .ok (if n ≤ 1 then old else new) }

/-- Two connections are taken; the second one learns of a failover; then the first is released. -/
theorem failover_unbalanced :
    ¬Always (step (followed false) (failingOver { host := "10.0.0.1".toList, port := 6379 }
        { host := "10.0.0.2".toList, port := 6379 }))
      (fun run => Balanced (followed false) run.pool) (start (followed false) 0)
      [.getConnection, .getConnection, .release 0] := by
  intro balanced
  have last := balanced [.getConnection, .getConnection, .release 0] [] rfl
  revert last
  decide +kernel

end SyncPoolRun

/-! ## Idle connections -/

/-- A connection has no socket, or one to the master. -/
def OnMaster (pool : SyncPool) (id : Nat) : Prop :=
  (pool.connections id).sock = none ∨ (pool.connections id).sock = pool.masterAddress

instance (pool : SyncPool) (id : Nat) : Decidable (OnMaster pool id) :=
  inferInstanceAs (Decidable (_ ∨ _))

/-- Every idle connection that is connected is connected to the master. -/
def IdleOnMaster (pool : SyncPool) : Prop := ∀ id ∈ pool.available, OnMaster pool id

instance (pool : SyncPool) : Decidable (IdleOnMaster pool) :=
  inferInstanceAs (Decidable (∀ id ∈ pool.available, OnMaster pool id))

namespace SyncPool

/-- What a pool that keeps to a master knows of its connections. -/
structure Steady (pool : SyncPool) : Prop where
  /-- A connection is connected to its host and port. -/
  dialled : ∀ id, (pool.connections id).sock = none ∨
    (pool.connections id).sock = some (pool.connections id).address
  /-- The idle ones are on the master. -/
  idle : IdleOnMaster pool

section Steady

variable {s : SyncPool}

/-- Talking leaves a connection without a socket, with the one it has, or with a new one to its host
and port. -/
theorem settle_sock (connected : Bool) (c : PooledConnection) :
    (c.settle connected).sock = none ∨ (c.settle connected).sock = c.sock ∨
      c.sock = none ∧ (c.settle connected).sock = some c.address := by
  cases connected with
  | false => exact .inl rfl
  | true =>
    cases sock : c.sock with
    | none =>
      have opened : (c.settle true).sock = some (c.sock.getD c.address) := rfl
      rw [opened, sock]
      exact .inr (.inr ⟨rfl, rfl⟩)
    | some server =>
      have kept : (c.settle true).sock = some (c.sock.getD c.address) := rfl
      rw [kept, sock]
      exact .inr (.inl rfl)

/-- Talking moves no connection. -/
theorem settle_address (connected : Bool) (c : PooledConnection) :
    (c.settle connected).address = c.address := by
  cases connected <;> rfl

/-- Disconnecting some connections keeps the rest on the master. -/
theorem OnMaster.change_closed {id : Nat} (kept : OnMaster s id) (which : Nat → Bool) :
    OnMaster (s.change which .closed) id := by
  unfold OnMaster change
  by_cases one : which id = true
  · simp [one, PooledConnection.closed]
  · simp only [one, Bool.false_eq_true, if_false]
    exact kept

/-- Disconnecting some connections. -/
theorem Steady.change_closed (steady : Steady s) (which : Nat → Bool) :
    Steady (s.change which .closed) where
  dialled id := by
    unfold change
    by_cases one : which id = true
    · simp [one, PooledConnection.closed]
    · simp only [one, Bool.false_eq_true, if_false]
      exact steady.dialled id
  idle id member := OnMaster.change_closed (steady.idle id member) which

/-- A connection that has no socket, or whose host and port are the master's, is on the master after
talking, if it was before. -/
theorem OnMaster.settle {id : Nat} (kept : OnMaster s id)
    (address : s.masterAddress = some (s.connections id).address) (connected : Bool) :
    OnMaster (s.update id (.settle connected)) id := by
  have after := settle_sock connected (s.connections id)
  unfold OnMaster
  rw [update_self]
  show _ ∨ _ = s.masterAddress
  rcases after with none | same | ⟨-, opened⟩
  · exact .inl none
  · rw [same]
    exact kept
  · rw [opened, address]
    exact .inr rfl

/-- A connection talks: if it is idle, its host and port are the master's, or it loses its socket. -/
theorem Steady.settle (steady : Steady s) {id : Nat} {connected : Bool}
    (address : id ∈ s.available →
      s.masterAddress = some (s.connections id).address ∨ connected = false) :
    Steady (s.update id (.settle connected)) where
  dialled other := by
    by_cases same : other = id
    · rw [same, update_self, settle_address]
      rcases settle_sock connected (s.connections id) with none | kept | ⟨-, opened⟩
      · exact .inl none
      · rw [kept]
        exact steady.dialled id
      · exact .inr opened
    · rw [update_other s _ same]
      exact steady.dialled other
  idle other member := by
    by_cases same : other = id
    · rw [same] at member ⊢
      rcases address member with address | closed
      · exact OnMaster.settle (steady.idle id member) address connected
      · left
        rw [update_self, closed]
        rfl
    · unfold OnMaster
      rw [update_other s _ same]
      exact steady.idle other member

/-- A connection without a socket may be given any host and port. -/
theorem Steady.moved (steady : Steady s) {id : Nat} (closed : (s.connections id).sock = none)
    (address : Address) : Steady (s.moved id address) where
  dialled other := by
    by_cases same : other = id
    · left
      rw [same, SyncPool.moved, update_self]
      exact closed
    · rw [SyncPool.moved, update_other s _ same]
      exact steady.dialled other
  idle other member := by
    by_cases same : other = id
    · left
      rw [same, SyncPool.moved, update_self]
      exact closed
    · unfold OnMaster
      rw [SyncPool.moved, update_other s _ same]
      exact steady.idle other member

/-- A new process has no idle connections. -/
theorem Steady.current (steady : Steady s) : Steady s.current := by
  unfold SyncPool.current
  by_cases here : s.pid = s.process
  · rw [if_pos here]
    exact steady
  · rw [if_neg here]
    exact ⟨steady.dialled, fun id member => by cases member⟩

/-- Learning an address only disconnects. -/
theorem learned_connections (s : SyncPool) (address : Address) (id : Nat) :
    (s.learned address).connections id = s.connections id ∨
      (s.learned address).connections id = (s.connections id).closed := by
  have named : (SyncPool.current { s with masterAddress := some address }).connections =
      s.connections := by
    unfold SyncPool.current
    by_cases here : s.pid = s.process
    · simp only [if_pos here]
    · simp only [if_neg here]
      rfl
  unfold SyncPool.learned change
  simp only [named]
  split
  · exact .inr rfl
  · exact .inl rfl

/-- Where connections are idle, the address that is learned is known. -/
theorem learned_master {address : Address} {id : Nat} (idle : id ∈ (s.learned address).available) :
    (s.learned address).masterAddress = some address := by
  unfold SyncPool.learned SyncPool.current change at idle ⊢
  by_cases here : s.pid = s.process
  · simp only [if_pos here]
  · simp only [if_neg here] at idle
    cases idle

/-- Learning an address opens no socket. -/
theorem learned_closed {id : Nat} (address : Address) (closed : (s.connections id).sock = none) :
    ((s.learned address).connections id).sock = none := by
  rcases learned_connections s address id with same | gone
  · rw [same, closed]
  · rw [gone]
    rfl

/-- After a new master is learned no idle connection has a socket. -/
theorem Steady.learned (steady : Steady s) (address : Address) : Steady (s.learned address) := by
  constructor
  · intro id
    rcases learned_connections s address id with same | closed
    · rw [same]
      exact steady.dialled id
    · rw [closed]
      exact .inl rfl
  · intro id member
    left
    have idle : id ∈ (SyncPool.current { s with masterAddress := some address }).available := member
    unfold SyncPool.learned change
    simp [idle, PooledConnection.closed]

/-- What is known of an idle connection that is being connected. -/
theorem connects_steady (config : SyncPoolConfig) (id : Nat) (master : config.kind.isMaster = true) :
    Connects config id Steady fun s => Steady s ∧
      (id ∈ s.available → s.masterAddress = some (s.connections id).address) where
  between _ kept := kept.1
  ticks _ steady := ⟨steady.dialled, steady.idle⟩
  ticksTalking _ kept := ⟨⟨kept.1.dialled, kept.1.idle⟩, kept.2⟩
  talks s connected kept := by
    refine ⟨kept.1.settle fun member => .inl (kept.2 member), fun member => ?_⟩
    rw [update_self, settle_address]
    exact kept.2 member
  hangsUp s steady := steady.change_closed _
  follows _ s address steady closed known := by
    refine ⟨steady.moved closed address, fun _ => ?_⟩
    rw [SyncPool.moved, update_self]
    exact known
  learns _ s address steady closed := by
    have after := learned_closed address closed
    refine ⟨(steady.learned address).moved after address, fun member => ?_⟩
    rw [SyncPool.moved, update_self]
    exact learned_master member
  moves slaves := by
    rw [master] at slaves
    cases slaves
  plain kind := by
    rw [kind] at master
    cases master

/-- What is known of the connection that `get_connection` has taken. -/
theorem connects_taken (config : SyncPoolConfig) (id : Nat) (master : config.kind.isMaster = true) :
    Connects config id (fun s => Steady s ∧ OnMaster s id ∧ s.pid = s.process) fun s =>
      (Steady s ∧ OnMaster s id ∧ s.pid = s.process) ∧
        s.masterAddress = some (s.connections id).address where
  between _ kept := kept.1
  ticks _ kept := ⟨⟨kept.1.dialled, kept.1.idle⟩, kept.2⟩
  ticksTalking _ kept := ⟨⟨⟨kept.1.1.dialled, kept.1.1.idle⟩, kept.1.2⟩, kept.2⟩
  talks s connected kept := by
    obtain ⟨⟨steady, onMaster, here⟩, address⟩ := kept
    refine ⟨⟨steady.settle fun _ => .inl address, OnMaster.settle onMaster address connected, here⟩, ?_⟩
    rw [update_self, settle_address]
    exact address
  hangsUp s kept := ⟨kept.1.change_closed _, OnMaster.change_closed kept.2.1 _, kept.2.2⟩
  follows _ s address kept closed known := by
    obtain ⟨steady, -, here⟩ := kept
    refine ⟨⟨steady.moved closed address, .inl ?_, here⟩, ?_⟩
    · rw [SyncPool.moved, update_self]
      exact closed
    · rw [SyncPool.moved, update_self]
      exact known
  learns _ s address kept closed := by
    obtain ⟨steady, -, here⟩ := kept
    have after : ((s.learned address).connections id).sock = none := learned_closed address closed
    have stays : SyncPool.current { s with masterAddress := some address } =
      { s with masterAddress := some address } := by
      rw [SyncPool.current, if_pos here]
    have known : (s.learned address).masterAddress = some address := by
      unfold SyncPool.learned
      rw [stays]
      rfl
    have still : (s.learned address).pid = (s.learned address).process := by
      unfold SyncPool.learned
      rw [stays]
      exact here
    refine ⟨⟨(steady.learned address).moved after address, .inl ?_, still⟩, ?_⟩
    · rw [SyncPool.moved, update_self]
      exact after
    · rw [SyncPool.moved, update_self]
      exact known
  moves slaves := by
    rw [master] at slaves
    cases slaves
  plain kind := by
    rw [kind] at master
    cases master

/-! ## One step -/

/-- Fewer idle connections. -/
theorem Steady.fewer (steady : Steady s) {t : SyncPool} (connections : t.connections = s.connections)
    (address : t.masterAddress = s.masterAddress) (fewer : ∀ id ∈ t.available, id ∈ s.available) :
    Steady t where
  dialled id := by
    rw [connections]
    exact steady.dialled id
  idle id member := by
    unfold OnMaster
    rw [connections, address]
    exact steady.idle id (fewer id member)

variable {config : SyncPoolConfig} {env : PoolEnv}

/-- A connection that was just taken is on the master, or has no socket yet. -/
theorem Steady.taken (steady : Steady s) {id : Nat} {t : SyncPool}
    (ran : take config env s = .ok id t) : Steady t ∧ OnMaster t id := by
  rcases take_ok_cases ran with ⟨top, rfl⟩ | ⟨empty, -, -, rfl, rfl⟩
  · exact ⟨steady.fewer rfl rfl fun other kept => List.mem_of_mem_dropLast kept,
      steady.idle id (List.mem_of_getLast? top)⟩
  · let fresh : PooledConnection := { pid := s.process, address := config.address, sock := none }
    have new : (s.grown config).connections s.made = fresh :=
      update_self s.tick s.made fun _ => fresh
    have onMaster : OnMaster (s.grown config) s.made := by
      left
      rw [new]
    refine ⟨⟨fun other => ?_, fun other member => ?_⟩, onMaster⟩
    · by_cases same : other = s.made
      · left
        rw [same, new]
      · have old : (s.grown config).connections other = s.connections other :=
          update_other s.tick (fun _ => fresh) same
        rw [old]
        exact steady.dialled other
    · have idle : other ∈ s.available := member
      rw [empty] at idle
      cases idle

/-- A connection could not be taken. -/
theorem Steady.refused (steady : Steady s) {e : Exc} {t : SyncPool}
    (ran : take config env s = .error e t) : Steady t := by
  obtain ⟨-, ⟨-, rfl⟩ | ⟨-, -, rfl⟩⟩ := take_error_cases ran
  · exact steady
  · exact ⟨steady.dialled, steady.idle⟩

/-- A release: a connection that the pool owns is on the master. -/
theorem Steady.released (steady : Steady s) {id : Nat}
    (owned : id ∈ s.current.inUse → s.current.ownsConnection config id = true →
      OnMaster s.current id) : Steady (stateAfter (release config env id s)) := by
  have checked : checkpid s = .ok () s.current := rfl
  have looked : (get : EStateM Exc SyncPool SyncPool) s.current = .ok s.current s.current := rfl
  unfold release
  rw [Interruptible.bind_of_ok checked, Interruptible.bind_of_ok looked]
  by_cases inUse : id ∈ s.current.inUse
  · unfold whenever
    rw [if_pos inUse]
    have erased : (modify fun pool => { pool with inUse := pool.inUse.erase id } :
      EStateM Exc SyncPool Unit) s.current = .ok () (s.current.dropped id) := rfl
    rw [Interruptible.bind_of_ok erased]
    by_cases own : s.current.ownsConnection config id = true
    · rw [if_pos own]
      have appended : (modify fun pool => { pool with available := pool.available ++ [id] } :
        EStateM Exc SyncPool Unit) (s.current.dropped id) = .ok () (s.current.returned id) := rfl
      rw [Interruptible.bind_of_ok appended]
      have listens : Keeps Steady (consult env.listen) :=
        keeps_consult (fun _ kept => ⟨kept.dialled, kept.idle⟩) env.listen
      apply listens.stateAfter
      refine ⟨steady.current.dialled, fun other member => ?_⟩
      rcases List.mem_append.mp member with idle | last
      · exact steady.current.idle other idle
      · rw [List.mem_singleton.mp last]
        exact owned inUse own
    · rw [if_neg own]
      have kept : Steady (s.current.dropped id) := steady.current.fewer rfl rfl fun _ kept => kept
      exact kept.change_closed _
  · unfold whenever
    rw [if_neg inUse]
    exact steady.current

/-- A call of `get_connection`. -/
theorem Steady.got (steady : Steady s) (master : config.kind.isMaster = true) :
    Steady (stateAfter (getConnection config env s)) := by
  rcases getConnection_cases config env s with ⟨e, t, ran, ends⟩ | ⟨id, t, u, ran, readied, ends⟩ |
    ⟨id, t, e, u, f, v, ran, readied, released, ends⟩
  · rw [ends]
    exact steady.current.refused ran
  · rw [ends]
    have taken := steady.current.taken ran
    have kept := (connects_steady config id master).ready env t taken.1
    rw [readied] at kept
    exact kept
  · rw [ends]
    show Steady v
    rw [← released]
    have taken := steady.current.taken ran
    have here : t.pid = t.process := take_here ran (current_pid s)
    have kept := (connects_taken config id master).ready env t ⟨taken.1, taken.2, here⟩
    rw [readied] at kept
    obtain ⟨left, onMaster, still⟩ := kept
    apply left.released
    intro _ _
    have same : u.current = u := by rw [SyncPool.current, if_pos still]
    rw [same]
    exact onMaster

end Steady

end SyncPool

namespace SyncPoolRun

section Idle

variable {config : SyncPoolConfig} {env : PoolEnv} {run : SyncPoolRun}

/-- A connection talks to a server only while it is not idle, and a pool with a cache, which compares
the host and port that a connection was made with, does not take back one that is connected
elsewhere. -/
def Recognised (config : SyncPoolConfig) (pool : SyncPool) : SyncPoolStep → Prop
  | .release id => config.cached = true → id ∈ pool.current.inUse →
    pool.current.ownsConnection config id = true → OnMaster pool.current id
  | .talk id connected => id ∈ pool.available → connected = false
  | _ => True

/-- Without a cache a pool owns only connections on the master. -/
theorem owned_onMaster {s : SyncPool} {id : Nat} (steady : Steady s)
    (master : config.kind.isMaster = true) (plain : ¬config.cached = true)
    (owned : s.ownsConnection config id = true) : OnMaster s id := by
  unfold ownsConnection addressOf at owned
  rw [master, if_neg plain] at owned
  simp only [Bool.not_true, Bool.false_or, Bool.and_eq_true, beq_iff_eq] at owned
  rcases steady.dialled id with none | dialled
  · exact .inl none
  · right
    rw [dialled, owned.1]

/-- One step. -/
theorem steady_step (steady : Steady run.pool) (master : config.kind.isMaster = true)
    {step : SyncPoolStep} (recognised : Recognised config run.pool step) :
    Steady (run.step config env step).pool := by
  cases step with
  | getConnection =>
    have got : Steady (stateAfter (getConnection config env run.pool)) := steady.got master
    unfold SyncPoolRun.step
    cases ran : getConnection config env run.pool with
    | ok id u =>
      rw [ran] at got
      exact got
    | error e u =>
      rw [ran] at got
      exact got
  | release id =>
    apply steady.released
    intro inUse owned
    by_cases cached : config.cached = true
    · exact recognised cached inUse owned
    · exact owned_onMaster steady.current master cached owned
  | disconnect inuseConnections => exact steady.current.change_closed _
  | fork => exact ⟨steady.dialled, steady.idle⟩
  | connect id => exact ((connects_steady config id master).connect env).stateAfter steady
  | talk id connected => exact steady.settle fun member => .inr (recognised member)

/-- In every run of a pool that keeps to a master, and whose connections are recognised, the idle
connections are on the master. -/
theorem after_idleOnMaster (config : SyncPoolConfig) (env : PoolEnv) (process : Nat)
    (master : config.kind.isMaster = true) (steps : List SyncPoolStep)
    (recognised : Each (step config env) (fun run => Recognised config run.pool)
      (start config process) steps) :
    IdleOnMaster ((start config process).after config env steps).pool := by
  have fresh : Steady (start config process).pool :=
    ⟨fun _ => .inl rfl, fun id member => by cases member⟩
  have keeps (run : SyncPoolRun) (next : SyncPoolStep) (steady : Steady run.pool)
      (known : Recognised config run.pool next) : Steady (run.step config env next).pool :=
    steady_step steady master known
  have steady : Steady ((start config process).after config env steps).pool :=
    inv_of_each (fun run => Steady run.pool) keeps fresh recognised
  exact steady.idle

end Idle

/-- Without a cache every run in which idle connections are left alone is one. -/
theorem failover_idleOnMaster :
    IdleOnMaster ((start (followed false) 0).after (followed false)
      (failingOver { host := "10.0.0.1".toList, port := 6379 }
        { host := "10.0.0.2".toList, port := 6379 })
      [.getConnection, .getConnection, .release 0, .release 1]).pool := by
  apply after_idleOnMaster (followed false) _ 0 rfl
  intro earlier step later split
  cases step with
  | release id =>
    intro cached
    cases cached
  | talk id connected =>
    have member : SyncPoolStep.talk id connected ∈
        [SyncPoolStep.getConnection, .getConnection, .release 0, .release 1] := by
      rw [split]
      simp
    simp at member
  | getConnection => trivial
  | disconnect inuseConnections => trivial
  | fork => trivial
  | connect id => trivial

/-- A pool with a cache takes back a connection to the old master when the new one has the host and
port that connections are made with. -/
theorem cached_failover_not_idleOnMaster :
    ¬IdleOnMaster ((start (followed true) 0).after (followed true)
      (failingOver { host := "10.0.0.1".toList, port := 6379 }
        { host := "localhost".toList, port := 6379 })
      [.getConnection, .getConnection, .release 0]).pool := by
  decide +kernel

end SyncPoolRun

end RedisPy

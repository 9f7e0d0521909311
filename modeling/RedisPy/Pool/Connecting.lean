import RedisPy.Pool.ConnectionPool
import RedisPy.Client.Conduct

/-!
# What connecting does to a pool

Connecting a connection touches its pool through a few primitives: the environment is asked,
the connection talks to the server that its host and port name, it is given another host and
port, and a new master address may be learned. `Connects` collects what these owe to two
predicates, one between them and one while the connection may talk; everything that a pool
does to get a connection ready owes the same then.
-/

namespace RedisPy

open Contract

namespace SyncPool

/-! ## Changes of connections -/

/-- A change of one connection, seen from that connection. -/
@[simp]
theorem update_self (pool : SyncPool) (id : Nat) (f : PooledConnection → PooledConnection) :
    (pool.update id f).connections id = f (pool.connections id) := by
  simp [update, change]

/-- A change of one connection, seen from another. -/
theorem update_other (pool : SyncPool) {id other : Nat} (f : PooledConnection → PooledConnection)
    (distinct : other ≠ id) : (pool.update id f).connections other = pool.connections other := by
  simp [update, change, distinct]

/-! ## Talking -/

/-- Talking keeps what a change of the socket does not change. -/
theorem keeps_talk {I : SyncPool → Prop} {id : Nat}
    (talks : ∀ s connected, I s → I (s.update id (.settle connected))) (ending : Talk) :
    Keeps I (talk id ending) := by
  apply (keeps_modify fun s => talks s ending.connected).bind
  intro _
  exact keeps_whenSome fun e => keeps_throw e

/-- A question about the server, and the talk that answers it. -/
theorem keeps_ask_talk {I : SyncPool → Prop} {id : Nat} (ticks : ∀ s, I s → I s.tick)
    (talks : ∀ s connected, I s → I (s.update id (.settle connected))) (question : Nat → Talk) :
    Keeps I (do
      let ending ← ask question
      talk id ending) :=
  Meets.bind (meets_ask (Q := fun _ => I) ticks) fun ending => keeps_talk talks ending

/-! ## Connecting -/

/-- The pool after learning an address. -/
def learned (address : Address) (pool : SyncPool) : SyncPool :=
  let pool := current { pool with masterAddress := some address }
  pool.change (fun id => id ∈ pool.available ∨ (false : Bool) ∧ id ∈ pool.inUse) .closed

/-- Learning an address. -/
theorem learn_eq (address : Address) (s : SyncPool) :
    learn address s = .ok () (s.learned address) := rfl

/-- A connection gets a host and a port. -/
def moved (id : Nat) (address : Address) (pool : SyncPool) : SyncPool :=
  pool.update id fun c => { c with address }

/-- What the primitives owe while a connection is connected: `I` between them, `J` when the
connection may talk to the server that its host and port name. -/
structure Connects (config : SyncPoolConfig) (id : Nat) (I J : SyncPool → Prop) : Prop where
  /-- What holds when the connection may talk holds in between. -/
  between : ∀ s, J s → I s
  /-- Asking the environment. -/
  ticks : ∀ s, I s → I s.tick
  /-- Asking the environment before talking. -/
  ticksTalking : ∀ s, J s → J s.tick
  /-- Talking. -/
  talks : ∀ s connected, J s → J (s.update id (.settle connected))
  /-- Disconnecting. -/
  hangsUp : ∀ s, I s → I (s.update id .closed)
  /-- The master of the pool is the server to connect to. -/
  follows : config.kind.isMaster = true → ∀ s address, I s → (s.connections id).sock = none →
    s.masterAddress = some address → J (s.moved id address)
  /-- Another master is. -/
  learns : config.kind.isMaster = true → ∀ s address, I s → (s.connections id).sock = none →
    J ((s.learned address).moved id address)
  /-- Any server will do. -/
  moves : config.kind.isMaster = false → ∀ s address, I s → J (s.moved id address)
  /-- A pool without sentinels does not choose. -/
  plain : config.kind = .standard → ∀ s, I s → J s

section Rules

variable {config : SyncPoolConfig} {id : Nat} {I J : SyncPool → Prop}
variable (connects : Connects config id I J) (env : PoolEnv)

include connects

/-- Asking for the master. -/
theorem Connects.getMasterAddress (master : config.kind.isMaster = true) :
    Meets (fun s => I s ∧ (s.connections id).sock = none) (getMasterAddress config env)
      (fun address s => J (s.moved id address)) fun _ => I := by
  apply (meets_consult (Q := fun _ s => I s ∧ (s.connections id).sock = none)
    (fun _ s holds _ => ⟨connects.ticks s holds.1, holds.2⟩)
    fun _ s holds _ => connects.ticks s holds.1).bind
  intro address
  apply meets_get
  intro s holds
  have learned : Meets (· = s) (whenever (config.kind.isMaster ∧ s.masterAddress ≠ some address)
      (learn address)) (fun _ s => J (s.moved id address)) fun _ => I := by
    apply meets_whenever
    · intro _ t same
      rw [same, learn_eq]
      exact connects.learns master s address holds.1 holds.2
    · intro known t same
      rw [same]
      apply connects.follows master s address holds.1 holds.2
      by_contra other
      exact known ⟨master, other⟩
  apply learned.bind
  intro _
  exact meets_pure fun _ ends => ends

/-- Connecting to the host and port. -/
theorem Connects.dial : Keeps J (dial env id) := by
  apply keeps_get
  intro s
  exact keeps_whenever (keeps_ask_talk connects.ticksTalking connects.talks env.dial)

/-- Connecting to a given host and port. -/
theorem Connects.connectTo (address : Address) :
    Meets (fun s => J (s.moved id address)) (connectTo config env id address) (fun _ => I)
      fun _ => I := by
  have moves : Meets (fun s => J (s.moved id address))
      (modify (update id fun c => { c with address })) (fun _ => J) fun (_ : Exc) => I :=
    meets_modify fun s holds => holds
  apply moves.bind
  intro _
  have pings : Keeps J (whenever config.kind.checkConnection do
      let ending ← ask env.ping
      talk id ending) :=
    keeps_whenever (keeps_ask_talk connects.ticksTalking connects.talks env.ping)
  have talked : Keeps J (do
      SyncPool.dial env id
      whenever config.kind.checkConnection do
        let ending ← ask env.ping
        talk id ending) := (connects.dial env).bind fun _ => pings
  exact talked.weaken (fun _ kept => kept) (fun _ => connects.between) fun _ => connects.between

/-- Trying some slaves. -/
theorem Connects.connectEach (slaves : config.kind.isMaster = false)
    {afterwards : EStateM Exc SyncPool Unit} (ends : Keeps I afterwards)
    (addresses : List Address) : Keeps I (connectEach config env id afterwards addresses) := by
  induction addresses with
  | nil => exact ends
  | cons address addresses ih =>
    have tried : Keeps I (SyncPool.connectTo config env id address) :=
      (connects.connectTo env address).assuming fun s holds => connects.moves slaves s address holds
    apply tried.recover
    intro e
    exact keeps_ite ih (keeps_throw e)

/-- The master is tried after all slaves. -/
theorem Connects.connectFallback (slaves : config.kind.isMaster = false) :
    Keeps I (connectFallback config env id) := by
  have asks : Keeps I (SyncPool.getMasterAddress config env) := by
    apply (keeps_consult connects.ticks env.discoverMaster).bind
    intro address
    apply keeps_get
    intro s
    have skips : Keeps I (whenever (config.kind.isMaster ∧ s.masterAddress ≠ some address)
        (learn address)) := by
      apply meets_whenever
      · intro other
        rw [slaves] at other
        cases other.1
      · exact fun _ _ kept => kept
    apply skips.bind
    intro _
    exact keeps_pure address
  have found : Keeps I (do
      let address ← SyncPool.getMasterAddress config env
      pure [address]) := asks.bind fun _ => keeps_pure _
  have answered := found.recover fun e =>
    (keeps_ite (keeps_pure []) (keeps_throw e) : Keeps I
      (if e.isinstance masterNotFoundError then pure [] else throw e))
  apply answered.bind
  intro _
  exact connects.connectEach env slaves (keeps_throw _) _

/-- One attempt. -/
theorem Connects.connectRetry : Keeps I (connectRetry config env id) := by
  apply meets_get
  intro s holds
  apply meets_whenever
  · intro closed
    apply meets_ite
    · intro master
      have asks := (connects.getMasterAddress env master).from_state ⟨holds, closed⟩
      apply asks.bind
      intro address
      exact connects.connectTo env address
    · intro slaves
      have asks := (keeps_consult connects.ticks env.discoverSlaves).from_state holds
      apply asks.bind
      intro addresses
      have slaves : config.kind.isMaster = false := by simpa using slaves
      exact connects.connectEach env slaves (connects.connectFallback env slaves) addresses
  · intro _ t same
    rw [same]
    exact holds

/-- Connecting a connection that is not wrapped. -/
theorem Connects.connectPlain : Keeps I (connectPlain config env id) := by
  unfold SyncPool.connectPlain
  cases kind : config.kind with
  | standard =>
    exact (connects.dial env).weaken (connects.plain kind) (fun _ => connects.between)
      fun _ => connects.between
  | sentinel isMaster checkConnection =>
    exact config.retry.keeps_callWithRetry (connects.connectRetry env) (fun _ => keeps_pure ()) _ _

/-- Connecting. -/
theorem Connects.connect : Keeps I (connect config env id) := by
  apply (connects.connectPlain env).bind
  intro _
  exact keeps_whenever (keeps_consult connects.ticks env.accept)

/-- Looking for data. -/
theorem Connects.canRead : Keeps I (canRead config env id) := by
  apply keeps_get
  intro s
  have opened : Keeps I (whenever ((s.connections id).sock = none)
      (SyncPool.connectPlain config env id)) := keeps_whenever (connects.connectPlain env)
  apply opened.bind
  intro _
  apply (keeps_consult connects.ticks env.canRead).recover
  intro e
  have closes : Keeps I (hangUp id) := keeps_modify connects.hangsUp
  exact keeps_ite (closes.bind fun _ => keeps_throw _) (keeps_throw e)

/-- Getting a connection ready. -/
theorem Connects.ready : Keeps I (ready config env id) := by
  apply (connects.connect env).bind
  intro _
  have looks : Keeps I (do
      let data ← SyncPool.canRead config env id
      whenever (data ∧ ¬config.cached) (throw { cls := .connectionError })) :=
    (connects.canRead env).bind fun _ => keeps_guard
  apply looks.recover
  intro e
  have closes : Keeps I (hangUp id) := keeps_modify connects.hangsUp
  exact keeps_ite (closes.bind fun _ => (connects.connect env).bind fun _ =>
    (connects.canRead env).bind fun _ => keeps_guard) (keeps_throw e)

end Rules

end SyncPool

end RedisPy

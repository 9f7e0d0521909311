import RedisPy.Client.Connection
import RedisPy.Lib.Asking
import Mathlib.Data.Finset.Basic

/-!
# The blocking connection pools

`ConnectionPool` and `SentinelConnectionPool`, with what a connection of theirs does as far
as a pool sees it: where it is connected to, and which server its host and port name. The
two pools share everything but `connect`, `reset` and `owns_connection`. A process is known
by its number; a forked child has a new one and goes on with a copy of everything. The lock
of `_checkpid` is free, because the methods of a pool are called one after another.
-/

namespace RedisPy

open Contract

/-- A host and a port. -/
structure Address where
  /-- The host. -/
  host : Text
  /-- The port. -/
  port : Nat
deriving DecidableEq

/-- `sentinel.MasterNotFoundError`. -/
def masterNotFoundError : ExcClass := .user 0 .connectionError

/-- `sentinel.SlaveNotFoundError`. -/
def slaveNotFoundError : ExcClass := .user 1 .connectionError

/-- The class of a pool. -/
inductive PoolKind where
  /-- `ConnectionPool`. -/
  | standard
  /-- `SentinelConnectionPool`. -/
  | sentinel (isMaster checkConnection : Bool)
deriving DecidableEq

/-- The pool keeps to the master that the sentinels name. -/
def PoolKind.isMaster : PoolKind → Bool
  | .standard => false
  | .sentinel isMaster _ => isMaster

/-- A new connection is sent a `PING`. -/
def PoolKind.checkConnection : PoolKind → Bool
  | .standard => false
  | .sentinel _ checkConnection => checkConnection

/-- What a pool is made with. -/
structure SyncPoolConfig where
  /-- The class. -/
  kind : PoolKind
  /-- `max_connections`. -/
  maxConnections : Option Nat
  /-- There is a cache, so connections are `CacheProxyConnection` objects. -/
  cached : Bool
  /-- The host and port of a new connection. -/
  address : Address
  /-- `retry` of the connections. -/
  retry : Retry

/-- `max_connections or 2**31`. -/
def boundOf (maxConnections : Option Nat) : Nat :=
  match maxConnections with
  | none => 2147483648
  | some limit => if limit = 0 then 2147483648 else limit

/-- A pool has room for a connection. -/
theorem boundOf_pos (maxConnections : Option Nat) : 0 < boundOf maxConnections := by
  unfold boundOf
  cases maxConnections with
  | none => decide
  | some limit =>
    by_cases zero : limit = 0
    · simp only [if_pos zero]
      decide
    · simp only [if_neg zero]
      omega

/-- The number of connections that a pool may make. -/
def SyncPoolConfig.bound (config : SyncPoolConfig) : Nat := boundOf config.maxConnections

/-- How talking to a server ends. -/
structure Talk where
  /-- The exception. -/
  error : Option Exc
  /-- There is a socket afterwards. -/
  connected : Bool

/-- What happens around the pool; questions are numbered by its clock. -/
structure PoolEnv where
  /-- For how many failures a caller waits. -/
  patience : Nat
  /-- `connection_class(...)`. -/
  construct : Nat → Except Exc Unit
  /-- `discover_master`. -/
  discoverMaster : Nat → Except Exc Address
  /-- The answer of `discover_slaves`, from the slave whose turn it is. -/
  discoverSlaves : Nat → Except Exc (List Address)
  /-- `Connection.connect` where there is no socket. -/
  dial : Nat → Talk
  /-- The `PING` after connecting. -/
  ping : Nat → Talk
  /-- The test of the server's version that a cache needs. -/
  accept : Nat → Except Exc Unit
  /-- What the parser answers to `can_read`. -/
  canRead : Nat → Except Exc Bool
  /-- The listeners that hear of a release. -/
  listen : Nat → Except Exc Unit

/-- A server that answers everything. -/
def PoolEnv.answering : PoolEnv where
  patience := 0
  construct _ := .ok ()
  discoverMaster _ := .error { cls := masterNotFoundError }
  discoverSlaves _ := .ok []
  dial _ := { error := none, connected := true }
  ping _ := { error := none, connected := true }
  accept _ := .ok ()
  canRead _ := .ok false
  listen _ := .ok ()

/-- A connection as its pool sees it. -/
structure PooledConnection where
  /-- `pid`. -/
  pid : Nat
  /-- `host` and `port`. -/
  address : Address
  /-- The server that `_sock` is connected to. -/
  sock : Option Address
deriving DecidableEq

/-- Disconnected. -/
def PooledConnection.closed (c : PooledConnection) : PooledConnection := { c with sock := none }

/-- After talking to a server: a missing socket is opened to the host and port. -/
def PooledConnection.settle (connected : Bool) (c : PooledConnection) : PooledConnection :=
  if connected then { c with sock := some (c.sock.getD c.address) } else c.closed

/-- A pool in its process; connections are numbered in the order they are made. -/
structure SyncPool where
  /-- `_created_connections`. -/
  createdConnections : Nat
  /-- `_available_connections`; the last one is popped. -/
  available : List Nat
  /-- `_in_use_connections`. -/
  inUse : Finset Nat
  /-- `pid`. -/
  pid : Nat
  /-- `master_address`. -/
  masterAddress : Option Address
  /-- The number of connections made. -/
  made : Nat
  /-- The connections. -/
  connections : Nat → PooledConnection
  /-- `os.getpid()`. -/
  process : Nat
  /-- How often the environment was asked. -/
  clock : Nat

namespace SyncPool

/-- A new pool. -/
def new (config : SyncPoolConfig) (process : Nat) : SyncPool where
  createdConnections := 0
  available := []
  inUse := ∅
  pid := process
  masterAddress := none
  made := 0
  connections _ := { pid := process, address := config.address, sock := none }
  process := process
  clock := 0

/-- Change some connections. -/
def change (which : Nat → Bool) (f : PooledConnection → PooledConnection) (pool : SyncPool) :
    SyncPool :=
  { pool with connections := fun id =>
      if which id then f (pool.connections id) else pool.connections id }

/-- Change one connection. -/
def update (id : Nat) (f : PooledConnection → PooledConnection) (pool : SyncPool) : SyncPool :=
  pool.change (· = id) f

/-- One more question to the environment. -/
def tick (pool : SyncPool) : SyncPool := { pool with clock := pool.clock + 1 }

instance : Clocked SyncPool := ⟨clock, tick⟩

/-- A connection talks to its server. -/
def talk (id : Nat) (ending : Talk) : EStateM Exc SyncPool Unit := do
  modify (update id (.settle ending.connected))
  whenSome ending.error throw

/-- `connection.disconnect()`. -/
def hangUp (id : Nat) : EStateM Exc SyncPool Unit := modify (update id .closed)

/-- `reset`. -/
def reset (pool : SyncPool) : SyncPool :=
  { pool with
    createdConnections := 0
    available := []
    inUse := ∅
    pid := pool.process
    masterAddress := none }

/-- The pool in the process that it was last used in. -/
def current (pool : SyncPool) : SyncPool := if pool.pid = pool.process then pool else pool.reset

/-- `_checkpid`. -/
def checkpid : EStateM Exc SyncPool Unit := modify current

/-- `disconnect`. -/
def disconnect (inuseConnections : Bool) : EStateM Exc SyncPool Unit := do
  checkpid
  modify fun pool => pool.change
    (fun id => id ∈ pool.available ∨ inuseConnections ∧ id ∈ pool.inUse) .closed

/-- The host and port that the pool finds in a connection; a `CacheProxyConnection` copied them
when it was made. -/
def addressOf (config : SyncPoolConfig) (pool : SyncPool) (id : Nat) : Address :=
  if config.cached then config.address else (pool.connections id).address

/-- `owns_connection`. -/
def ownsConnection (config : SyncPoolConfig) (pool : SyncPool) (id : Nat) : Bool :=
  (!config.kind.isMaster || pool.masterAddress == some (pool.addressOf config id)) &&
    (pool.connections id).pid == pool.pid

section Operations

variable (config : SyncPoolConfig) (env : PoolEnv)

/-! ## Connecting -/

/-- A master address that is new: the idle connections are disconnected. -/
def learn (address : Address) : EStateM Exc SyncPool Unit := do
  modify fun pool => { pool with masterAddress := some address }
  disconnect false

/-- `get_master_address`. -/
def getMasterAddress : EStateM Exc SyncPool Address := do
  let address ← consult env.discoverMaster
  let pool ← get
  whenever (config.kind.isMaster ∧ pool.masterAddress ≠ some address) (learn address)
  pure address

/-- `Connection.connect`. -/
def dial (id : Nat) : EStateM Exc SyncPool Unit := do
  let pool ← get
  whenever ((pool.connections id).sock = none) do
    let ending ← ask env.dial
    talk id ending

/-- `connect_to`. -/
def connectTo (id : Nat) (address : Address) : EStateM Exc SyncPool Unit := do
  modify (update id fun c => { c with address })
  dial env id
  whenever config.kind.checkConnection do
    let ending ← ask env.ping
    talk id ending

/-- The loop of `_connect_retry` over the first addresses that `rotate_slaves` yields. -/
def connectEach (id : Nat) (afterwards : EStateM Exc SyncPool Unit) :
    List Address → EStateM Exc SyncPool Unit
  | [] => afterwards
  | address :: addresses =>
    recover (connectTo config env id address) fun e =>
      if e.isinstance .connectionError then connectEach id afterwards addresses else throw e

/-- The end of `rotate_slaves`: the master is tried last. -/
def connectFallback (id : Nat) : EStateM Exc SyncPool Unit := do
  let found ← recover (do
    let address ← getMasterAddress config env
    pure [address]) fun e => if e.isinstance masterNotFoundError then pure [] else throw e
  connectEach config env id (throw { cls := slaveNotFoundError }) found

/-- `_connect_retry`. -/
def connectRetry (id : Nat) : EStateM Exc SyncPool Unit := do
  let pool ← get
  whenever ((pool.connections id).sock = none) (
    if config.kind.isMaster then do
      let address ← getMasterAddress config env
      connectTo config env id address
    else do
      let slaves ← consult env.discoverSlaves
      connectEach config env id (connectFallback config env id) slaves)

/-- `connect` of a connection that is not wrapped. -/
def connectPlain (id : Nat) : EStateM Exc SyncPool Unit :=
  match config.kind with
  | .standard => dial env id
  | .sentinel _ _ =>
    config.retry.callWithRetry (connectRetry config env id) (fun _ => pure ()) env.patience 0

/-- `connect`. -/
def connect (id : Nat) : EStateM Exc SyncPool Unit := do
  connectPlain config env id
  whenever config.cached (consult env.accept)

/-- `can_read`. -/
def canRead (id : Nat) : EStateM Exc SyncPool Bool := do
  let pool ← get
  whenever ((pool.connections id).sock = none) (connectPlain config env id)
  recover (consult env.canRead) fun e =>
    if e.isinstance .osError then do
      hangUp id
      throw { cls := .connectionError }
    else throw e

/-! ## The pool -/

/-- `make_connection`. -/
def makeConnection : EStateM Exc SyncPool Nat := do
  let pool ← get
  whenever (config.bound ≤ pool.createdConnections) (throw { cls := .connectionError })
  modify fun pool => { pool with createdConnections := pool.createdConnections + 1 }
  consult env.construct
  modify fun pool => { pool.update pool.made fun _ =>
    { pid := pool.process, address := config.address, sock := none } with made := pool.made + 1 }
  pure pool.made

/-- A connection is popped, or made. -/
def popOrMake : EStateM Exc SyncPool Nat := do
  let pool ← get
  match pool.available.getLast? with
  | some id => do
    modify fun pool => { pool with available := pool.available.dropLast }
    pure id
  | none => makeConnection config env

/-- The part of `get_connection` under the lock. -/
def take : EStateM Exc SyncPool Nat := do
  let id ← popOrMake config env
  modify fun pool => { pool with inUse := insert id pool.inUse }
  pure id

/-- The connection that is taken is connected and has no data; otherwise it is connected once
more. -/
def ready (id : Nat) : EStateM Exc SyncPool Unit := do
  connect config env id
  recover (do
    let data ← canRead config env id
    whenever (data ∧ ¬config.cached) (throw { cls := .connectionError })) fun e =>
      if e.isinstanceAny [.connectionError, .timeoutError, .osError] then do
        hangUp id
        connect config env id
        let data ← canRead config env id
        whenever data (throw { cls := .connectionError })
      else throw e

/-- `release`. -/
def release (id : Nat) : EStateM Exc SyncPool Unit := do
  checkpid
  let pool ← get
  whenever (id ∈ pool.inUse) do
    modify fun pool => { pool with inUse := pool.inUse.erase id }
    if pool.ownsConnection config id then do
      modify fun pool => { pool with available := pool.available ++ [id] }
      consult env.listen
    else hangUp id

/-- `get_connection`. -/
def getConnection : EStateM Exc SyncPool Nat := do
  checkpid
  acquire (take config env) (ready config env) (release config env)

end Operations

end SyncPool

/-! ## Runs -/

/-- A step of a run. -/
inductive SyncPoolStep where
  /-- Somebody asks for a connection. -/
  | getConnection
  /-- Somebody releases a connection, which need not be one of the pool. -/
  | release (id : Nat)
  /-- Somebody disconnects the pool. -/
  | disconnect (inuseConnections : Bool)
  /-- The process forks, and the run goes on in the child. -/
  | fork
  /-- Somebody connects a connection. -/
  | connect (id : Nat)
  /-- A holder talks to the server, or disconnects. -/
  | talk (id : Nat) (connected : Bool)

/-- A pool and who holds its connections. -/
structure SyncPoolRun where
  /-- The pool. -/
  pool : SyncPool
  /-- The connections that were handed out in this process and not released since. -/
  held : Finset Nat

namespace SyncPoolRun

/-- A new pool, of which nobody holds a connection. -/
def start (config : SyncPoolConfig) (process : Nat) : SyncPoolRun where
  pool := .new config process
  held := ∅

/-- One step. -/
def step (config : SyncPoolConfig) (env : PoolEnv) (run : SyncPoolRun) : SyncPoolStep → SyncPoolRun
  | .getConnection =>
    match run.pool.getConnection config env with
    | .ok id pool => { pool, held := insert id run.held }
    | .error _ pool => { run with pool }
  | .release id =>
    { pool := stateAfter (run.pool.release config env id), held := run.held.erase id }
  | .disconnect inuseConnections =>
    { run with pool := stateAfter (run.pool.disconnect inuseConnections) }
  | .fork => { pool := { run.pool with process := run.pool.process + 1 }, held := ∅ }
  | .connect id => { run with pool := stateAfter (run.pool.connect config env id) }
  | .talk id connected => { run with pool := run.pool.update id (.settle connected) }

/-- A run. -/
def after (config : SyncPoolConfig) (env : PoolEnv) (run : SyncPoolRun)
    (steps : List SyncPoolStep) : SyncPoolRun :=
  steps.foldl (step config env) run

end SyncPoolRun

end RedisPy

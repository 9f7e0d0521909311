import RedisPy.Client.Handshake
import RedisPy.Pool.ConnectionPool

/-!
# Connections to a master that the sentinels name

`SentinelManagedConnection` of a pool in master mode, blocking or asyncio, with the code of the
base class that opens and drops sockets. `connect` asks the sentinels; a send that finds no socket
calls `connect_check_health` of the base class. A history keeps what the sentinels answered, and
which sockets were opened and dropped. What runs on a new socket may be any code that calls the
connection.
-/

namespace RedisPy

open Contract

variable {F : Type}

/-! ## Histories -/

/-- What happens to the socket of a connection. -/
inductive SocketEvent where
  /-- `discover_master` returned an address. -/
  | discovered (address : Address)
  /-- A socket was opened. -/
  | opened (address : Address)
  /-- The socket was dropped. -/
  | dropped
deriving DecidableEq

/-- The addresses that were discovered after the latest socket was dropped; the latest event comes
first. -/
def learned : List SocketEvent → List Address
  | [] => []
  | .dropped :: _ => []
  | .discovered address :: earlier => address :: learned earlier
  | .opened _ :: earlier => learned earlier

/-- The address of every socket was discovered after the previous socket was dropped. -/
def Rediscovers : List SocketEvent → Prop
  | [] => True
  | .opened address :: earlier => address ∈ learned earlier ∧ Rediscovers earlier
  | _ :: earlier => Rediscovers earlier

/-! ## The connection -/

/-- What opens a socket. -/
inductive Opener where
  /-- `connect`, to the address that was discovered. -/
  | connect
  /-- A send that finds no socket, to the host and port that are set. -/
  | send

/-- What a connection is configured with. -/
structure ManagedConfig (F : Type) where
  /-- It is a connection of `redis.asyncio`. -/
  asyncio : Bool
  /-- `retry`. -/
  retry : Retry
  /-- `retry_on_error`. -/
  retryOnError : Option (List ExcClass)
  /-- `health_check_interval` is not zero. -/
  healthChecks : Bool
  /-- `check_connection` of the pool. -/
  checkConnection : Bool
  /-- `on_connect_check_health`, by its parameter and the time of its call. -/
  onConnectCheckHealth : Bool → Nat → UserCode F
  /-- `redis_connect_func`, by the time of its call. -/
  redisConnectFunc : Option (Nat → UserCode F)
  /-- `_connect_callbacks`, by the time of the call. -/
  connectCallbacks : List (Nat → UserCode F)

/-- `retry_on_error` is set and the error is one of its types. -/
def ManagedConfig.retriesOn (config : ManagedConfig F) (error : Exc) : Bool :=
  config.retryOnError.any error.isinstanceAny

/-- What happens around a call; questions are numbered by the clock. -/
structure ManagedEnv (F : Type) where
  /-- For how many failures a caller waits. -/
  patience : Nat
  /-- How deep calls may be nested. -/
  depth : Nat
  /-- `get_master_address`. -/
  discoverMaster : Nat → Except Exc Address
  /-- `_connect`. -/
  dial : Opener → Nat → Dialled
  /-- The exception of closing a socket, which only asyncio passes on. -/
  close : Nat → Option Exc
  /-- A health check is due. -/
  due : Nat → Bool
  /-- The exception of writing. -/
  write : Words → Nat → Option Exc
  /-- What the parser returns or raises. -/
  reply : Nat → Except Exc (PyVal F)
  /-- What the parser answers to `can_read`. -/
  canRead : Nat → Except Exc Bool

/-- A connection with its history. -/
structure Managed where
  /-- `host` and `port`. -/
  address : Address
  /-- There is a socket. -/
  sock : Bool
  /-- How often the environment was asked during the call. -/
  clock : Nat
  history : List SocketEvent
deriving DecidableEq

namespace Managed

/-- One more question to the environment. -/
def tick (s : Managed) : Managed := { s with clock := s.clock + 1 }

instance : Clocked Managed := ⟨clock, tick⟩

/-- The socket, if there is one, is dropped. -/
def drop (s : Managed) : Managed :=
  if s.sock then { s with sock := false, history := .dropped :: s.history } else s

/-- A socket is opened to the host and port. -/
def opened (s : Managed) : Managed :=
  { s with sock := true, history := .opened s.address :: s.history }

section Calls

variable (config : ManagedConfig F) (env : ManagedEnv F)

/-- `disconnect`, with its parameter `nowait`. -/
def disconnect (nowait : Bool) : EStateM Exc Managed Unit := do
  let s ← get
  whenever s.sock do
    modify drop
    whenever (config.asyncio && !nowait) do
      let failure ← ask env.close
      whenSome failure throw

/-- The end of `send_packed_command`: write, or disconnect. -/
def transmit (command : Words) : EStateM Exc Managed Unit := do
  let s ← get
  if s.sock then do
    let failure ← ask (env.write command)
    whenSome failure fun e => do
      disconnect config env true
      throw (socketError e)
  else throw { cls := .attributeError }

/-- `read_response` of the base class: an error reply is raised. -/
def readPlain (disconnectOnError : Bool) : EStateM Exc Managed (PyVal F) := do
  let s ← get
  if s.sock then do
    let reply ← ask env.reply
    match reply with
    | .error e => do
      whenever disconnectOnError (disconnect config env true)
      throw (socketError e)
    | .ok (.exc e) => if e.isinstance .responseError then throw e else pure (.exc e)
    | .ok response => pure response
  else throw { cls := if config.asyncio then .connectionError else .attributeError }

/-- `read_response`: a master that has become a replica is left. -/
def readResponse (disconnectOnError : Bool) : EStateM Exc Managed (PyVal F) :=
  recover (readPlain config env disconnectOnError) fun e =>
    if e.isinstance .readOnlyError then do
      disconnect config env false
      throw { cls := .connectionError }
    else throw e

/-- `read_response()`; an error does not disconnect a blocking connection. -/
def readDefault : EStateM Exc Managed (PyVal F) := readResponse config env config.asyncio

/-- `_connect`; a socket that fails afterwards is closed, but asyncio has stored it by then. -/
def dial (opener : Opener) : EStateM Exc Managed Unit := do
  let dialled ← ask (env.dial opener)
  match dialled with
  | .opened => modify opened
  | .refused e => throw e
  | .spoiled e => do
    modify opened
    whenever (!config.asyncio) (modify drop)
    throw e

/-- What an exception of `_connect` becomes. -/
def dialError (e : Exc) : Exc :=
  if config.asyncio && !e.isinstance .osError && e.isinstance .exception then
    { cls := .connectionError }
  else socketError e

/-- `connect_check_health` without its test. -/
def connectIfClosed (program : EStateM Exc Managed Unit) : EStateM Exc Managed Unit := do
  let s ← get
  whenever (s.sock = false) program

/-- `get_master_address`. -/
def getMasterAddress : EStateM Exc Managed Address := do
  let address ← consult env.discoverMaster
  modify fun s => { s with history := .discovered address :: s.history }
  pure address

end Calls

/-- The methods of the base class that calls nest through. -/
structure Methods where
  /-- `connect_check_health`, by what calls it and its parameter. -/
  connectCheckHealth : Opener → Bool → EStateM Exc Managed Unit
  /-- `on_connect`. -/
  onConnect : EStateM Exc Managed Unit

section Methods

variable (config : ManagedConfig F) (env : ManagedEnv F) (methods : Methods)

/-- `_send_ping`. -/
def sendPing : EStateM Exc Managed Unit := do
  connectIfClosed (methods.connectCheckHealth .send false)
  transmit config env ["PING".toList]
  let response ← readDefault config env
  whenever (response.isText "PONG" = false) (throw { cls := .connectionError })

/-- `check_health`. -/
def checkHealth : EStateM Exc Managed Unit := do
  let due ← ask env.due
  whenever (config.healthChecks && due)
    (config.retry.callWithRetry (sendPing config env methods) (fun _ => disconnect config env false)
      env.patience 0)

/-- `send_packed_command`. -/
def sendPackedCommand (command : Words) (check : Bool) : EStateM Exc Managed Unit := do
  connectIfClosed (methods.connectCheckHealth .send false)
  whenever check (checkHealth config env methods)
  transmit config env command

/-- The `PING` of a pool that checks its connections. -/
def ping : EStateM Exc Managed Unit := do
  sendPackedCommand config env methods ["PING".toList] true
  let response ← readDefault config env
  whenever (response.isText "PONG" = false) (throw { cls := .connectionError })

/-- `connect_to`. -/
def connectTo (address : Address) : EStateM Exc Managed Unit := do
  modify fun s => { s with address }
  methods.connectCheckHealth .connect true
  whenever config.checkConnection (ping config env methods)

/-- `_connect_retry`. -/
def connectRetry : EStateM Exc Managed Unit := do
  let s ← get
  whenever (s.sock = false) do
    let address ← getMasterAddress env
    connectTo config env methods address

/-- `connect`. -/
def connect : EStateM Exc Managed Unit :=
  config.retry.callWithRetry (connectRetry config env methods) (fun _ => pure ()) env.patience 0

/-- A call of code that runs on a new socket. -/
def serve : ConnectionCall → EStateM Exc Managed (PyVal F)
  | .sendPackedCommand command check => do
    sendPackedCommand config env methods command check
    pure .none
  | .readResponse => readDefault config env
  | .disconnect => do
    disconnect config env false
    pure .none
  | .connect => do
    connect config env methods
    pure .none
  | .onConnect => do
    methods.onConnect
    pure .none

/-- Code runs on a new socket. -/
def run : UserCode F → EStateM Exc Managed Unit
  | .done => pure ()
  | .fail e => throw e
  | .call called next => fun s =>
    match serve config env methods called s with
    | .ok value t => run (next (.ok value)) t
    | .error e t => run (next (.error e)) t

/-- Code runs at the time of its call. -/
def runNow (code : Nat → UserCode F) : EStateM Exc Managed Unit := do
  let program ← ask code
  run config env methods program

/-- `on_connect_check_health` or `redis_connect_func`. -/
def prepare (check : Bool) : EStateM Exc Managed Unit :=
  match config.redisConnectFunc with
  | none => runNow config env methods (config.onConnectCheckHealth check)
  | some code => runNow config env methods code

/-- The connect callbacks. -/
def notify : List (Nat → UserCode F) → EStateM Exc Managed Unit
  | [] => pure ()
  | callback :: callbacks => do
    runNow config env methods callback
    notify callbacks

/-- `connect_check_health` where there is no socket. -/
def openSession (opener : Opener) (check : Bool) : EStateM Exc Managed Unit := do
  recover (config.retry.callWithRetry (dial config env opener)
    (fun _ => disconnect config env false) env.patience 0) fun e => throw (dialError config e)
  recover (prepare config env methods check) fun e => do
    -- clean up after any error in on_connect
    whenever (e.isinstance .redisError) (disconnect config env false)
    throw e
  notify config env methods config.connectCallbacks

/-- `can_read`, which connects, and `can_read_destructive`, which does not. -/
def canRead : EStateM Exc Managed Unit := do
  whenever (!config.asyncio) (connectIfClosed (connect config env methods))
  recover (do let _ ← consult env.canRead) fun e =>
    if e.isinstance .osError then do
      disconnect config env true
      throw { cls := .connectionError }
    else throw e

/-- `_disconnect_raise` of a client. -/
def disconnectRaise (error : Exc) : EStateM Exc Managed Unit := do
  disconnect config env false
  whenever (!config.retriesOn error) (throw error)

/-- `execute_command` of a client, on this connection. -/
def executeCommand (command : Words) : EStateM Exc Managed Unit :=
  config.retry.callWithRetry
    (do
      sendPackedCommand config env methods command true
      let _ ← readDefault config env)
    (disconnectRaise config env) env.patience 0

end Methods

/-- The methods, nested to a limited depth. -/
def methods (config : ManagedConfig F) (env : ManagedEnv F) : Nat → Methods
  | 0 =>
    { connectCheckHealth := fun _ _ => connectIfClosed (throw { cls := .runtimeError })
      onConnect := throw { cls := .runtimeError } }
  | depth + 1 =>
    let inner := methods config env depth
    { connectCheckHealth := fun opener check =>
        connectIfClosed (openSession config env inner opener check)
      onConnect := runNow config env inner (config.onConnectCheckHealth true) }

end Managed

/-! ## Runs -/

/-- A call on a connection, of a pool or of a client. -/
inductive ManagedCall where
  | connect
  | sendPackedCommand (command : Words) (check : Bool)
  | readResponse (disconnectOnError : Bool)
  | canRead
  | checkHealth
  | disconnect
  /-- `execute_command` of a client. -/
  | executeCommand (command : Words)

namespace ManagedCall

section Runs

variable (config : ManagedConfig F)

/-- The program of a call in its environment. -/
def run (env : ManagedEnv F) : ManagedCall → EStateM Exc Managed Unit
  | .connect => Managed.connect config env (Managed.methods config env env.depth)
  | .sendPackedCommand command check =>
    Managed.sendPackedCommand config env (Managed.methods config env env.depth) command check
  | .readResponse disconnectOnError => do
    let _ ← Managed.readResponse config env disconnectOnError
  | .canRead => Managed.canRead config env (Managed.methods config env env.depth)
  | .checkHealth => Managed.checkHealth config env (Managed.methods config env env.depth)
  | .disconnect => Managed.disconnect config env false
  | .executeCommand command =>
    Managed.executeCommand config env (Managed.methods config env env.depth) command

/-- A call begins: it has an environment of its own. -/
def begin (s : Managed) : Managed := { s with clock := 0 }

/-- The state after a call, returning or raising. -/
def next (s : Managed) (call : ManagedCall × ManagedEnv F) : Managed :=
  stateAfter (call.1.run config call.2 (begin s))

end Runs

/-- A connection that was just made. -/
def start (address : Address) : Managed :=
  { address, sock := false, clock := 0, history := [] }

/-- The first thing that the call does with a connection without a socket is a send. -/
def sendsFirst : ManagedCall → Bool
  | .sendPackedCommand _ _ => true
  | .checkHealth => true
  | .executeCommand _ => true
  | _ => false

/-- The call dials no server: it finds a socket if it needs one, no health check is due, and nothing is
tried again. -/
def Settled (config : ManagedConfig F) (env : ManagedEnv F) (s : Managed) : ManagedCall → Prop
  | .connect => s.sock = true
  | .sendPackedCommand _ check =>
    s.sock = true ∧ (check && config.healthChecks && env.due 0) = false
  | .readResponse _ => True
  | .canRead => s.sock = true ∨ config.asyncio = true
  | .checkHealth => (config.healthChecks && env.due 0) = false
  | .disconnect => True
  | .executeCommand _ =>
    s.sock = true ∧ (config.healthChecks && env.due 0) = false ∧ config.retry.retries = some 0

end ManagedCall

/-- From some time on in a call no socket is opened this way. -/
def Sealed (env : ManagedEnv F) (opener : Opener) (time : Nat) : Prop :=
  ∀ n, time ≤ n → ∃ e, env.dial opener n = .refused e

/-- No socket is opened for a send; only a call that begins with one may open one, if the host and port
were discovered after the latest socket was dropped. -/
def SendsFresh (env : ManagedEnv F) (s : Managed) (call : ManagedCall) : Prop :=
  Sealed env .send 0 ∨
    call.sendsFirst = true ∧ s.sock = false ∧ s.address ∈ learned s.history ∧
      ∀ n, (∃ e, env.dial .send n = .refused e) ∨ Sealed env .send (n + 1)

/-- `connect` opens no second socket to an address when the first one failed before `_connect`
returned. -/
def DialsOnce (config : ManagedConfig F) (env : ManagedEnv F) : Prop :=
  ∀ n e, env.dial .connect n = .spoiled e →
    e.isinstanceAny config.retry.supportedErrors = true → Sealed env .connect (n + 1)

/-- A call opens no socket to an address that may be old. -/
def AsksFirst (config : ManagedConfig F) (s : Managed) (call : ManagedCall × ManagedEnv F) : Prop :=
  call.1.Settled config call.2 s ∨ SendsFresh call.2 s call.1 ∧ DialsOnce config call.2

end RedisPy

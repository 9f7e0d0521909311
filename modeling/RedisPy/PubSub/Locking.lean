import RedisPy.PubSub.Bookkeeping
import RedisPy.Client.Connection
import RedisPy.Lib.Asking

/-!
# The lock of a subscriber

A sync `PubSub` sends its commands while it holds a lock that cannot be taken twice. Sending may
connect again, and connecting calls `on_connect`, which subscribes again. What the server, the
network, the pool and the clock do during a call is an environment. A handshake, which may be a
function of the application, is what it does to the connection.
-/

namespace RedisPy.Channels

open Contract Runs

variable {H α : Type}

/-! ## A connection with its lock -/

/-- What a sync `PubSub` has beside its bookkeeping. -/
structure Line where
  /-- `connection` is set, and `on_connect` is registered with it. -/
  attached : Bool
  /-- The connection has a socket. -/
  sock : Bool
  /-- `_lock` is held. -/
  lock : Bool
  /-- How often the environment was asked during the call. -/
  clock : Nat

/-- The commands of a `PubSub`. -/
inductive Command where
  | ping
  | subscription (verb : Verb) (names : List Name)

/-- What a handshake does to the connection. -/
structure Greeting where
  /-- The times that a failed health check connects again, and whether what that raises is caught. -/
  again : List Bool
  /-- What it raises. -/
  failure : Option Exc
  /-- It leaves the connection with a socket. -/
  sock : Bool

/-- A reply or a message. -/
inductive Response where
  /-- `is_health_check_response`. -/
  | healthCheck
  | push (response : Push Name)

/-- What a parser reads. -/
inductive Reading where
  | response (response : Response)
  /-- An error reply. -/
  | refused (e : Exc)
  /-- The parser raises. -/
  | failed (e : Exc)

/-- What happens around a call; questions are numbered by the clock. -/
structure LineEnv where
  /-- For how many failures a caller waits. -/
  patience : Nat
  /-- How deeply calls may be nested. -/
  depth : Nat
  /-- What `get_connection` raises, or whether the connection that it returns has a socket. -/
  getConnection : Nat → Except Exc Bool
  /-- What `_connect` raises. -/
  dial : Nat → Option Exc
  greeting : Nat → Greeting
  /-- `time.monotonic() > next_health_check`. -/
  due : Nat → Bool
  /-- What packing a command raises. -/
  pack : Command → Nat → Option Exc
  /-- What writing raises. -/
  send : Nat → Option Exc
  /-- What the parser answers to `can_read`. -/
  canRead : Nat → Except Exc Bool
  read : Nat → Reading

/-- A program of a `PubSub` and its connection. It is blocked when it takes the lock twice. -/
abbrev Action (H α : Type) := EStateM Stop (Session H Line) α

namespace Line

/-- One more question to the environment. -/
def tick (s : Session H Line) : Session H Line := { s with wire.clock := s.wire.clock + 1 }

/-- The connection with a socket, or without one. -/
def withSock (sock : Bool) (s : Session H Line) : Session H Line := { s with wire.sock := sock }

instance : Clocked (Session H Line) := ⟨fun s => s.wire.clock, tick⟩

/-- Raise what there is to raise. -/
def raise (failure : Option Exc) : Action H Unit := whenSome failure fun e => throw (.raised e)

/-- `try: program except: handler`. Nothing is raised by a call that is blocked. -/
def rescue (program : Action H α) (handler : Exc → Action H α) : Action H α :=
  recover program fun
    | .raised e => handler e
    | .blocked => throw .blocked

/-- The handler of `call_with_retry`; `again` is the next turn of the loop. -/
def handle (retry : Retry) (fail : Exc → Action H Unit) (again : Action H α) (failures : Nat)
    (error : Exc) : Action H α :=
  if error.isinstanceAny retry.supportedErrors then do
    fail error
    if retry.exhausted failures then throw (.raised error) else again
  else throw (.raised error)

/-- The loop of `call_with_retry` after some failures. -/
def callWithRetry (retry : Retry) (run : Action H α) (fail : Exc → Action H Unit) :
    Nat → Nat → Action H α
  | 0, failures =>
    rescue run (handle retry fail (throw (.ofClass .keyboardInterrupt)) (failures + 1))
  | patience + 1, failures =>
    rescue run
      (handle retry fail (callWithRetry retry run fail patience (failures + 1)) (failures + 1))

/-! ## The connection -/

/-- `disconnect`. -/
def disconnect : Action H Unit := modify (withSock false)

/-- The end of `send_packed_command`: write, or disconnect. -/
def transmit (env : LineEnv) : Action H Unit := do
  let s ← get
  if s.wire.sock then do
    let failure ← ask env.send
    whenSome failure fun e => do
      disconnect
      throw (.raised (socketError e))
  else do
    disconnect
    throw (.ofClass .attributeError)

/-- `read_response`; an error reply is raised. -/
def readResponse (env : LineEnv) (disconnectOnError : Bool) : Action H Response := do
  let s ← get
  if s.wire.sock then do
    let reading ← ask env.read
    match reading with
    | .response response => pure response
    | .refused e => throw (.raised e)
    | .failed e => do
      whenever disconnectOnError disconnect
      throw (.raised (socketError e))
  else do
    whenever disconnectOnError disconnect
    throw (.ofClass .attributeError)

section Connection

variable (config : ConnectionConfig) (env : LineEnv) (reconnect : Action H Unit)

/-- `connect_check_health` where there is no socket. -/
def connectIfClosed : Action H Unit := do
  let s ← get
  whenever (s.wire.sock = false) reconnect

/-- `_send_ping`. -/
def sendPing : Action H Unit := do
  connectIfClosed reconnect
  transmit env
  let response ← readResponse env true
  match response with
  | .push (.pong _) => pure ()
  | _ => throw (.ofClass .connectionError)

/-- `check_health` of the connection. -/
def checkConnection : Action H Unit := do
  let due ← ask env.due
  whenever (config.healthChecks && due)
    (callWithRetry config.retry (sendPing env reconnect) (fun _ => disconnect) env.patience 0)

/-- `send_packed_command`. -/
def sendPackedCommand (check : Bool) : Action H Unit := do
  connectIfClosed reconnect
  whenever check (checkConnection config env reconnect)
  transmit env

/-- `send_command`. -/
def sendCommand (command : Command) (check : Bool) : Action H Unit := do
  let failure ← ask (env.pack command)
  raise failure
  sendPackedCommand config env reconnect check

/-- `can_read`. -/
def canRead : Action H Bool := do
  connectIfClosed reconnect
  let answer ← ask env.canRead
  match answer with
  | .ok available => pure available
  | .error e =>
    if e.isinstance .osError then do
      disconnect
      throw (.ofClass .connectionError)
    else throw (.raised e)

/-- `_connect`, and the new socket. -/
def dial : Action H Unit := do
  let failure ← ask env.dial
  raise failure
  modify (withSock true)

/-- The health checks of a handshake that fail and connect again. -/
def connectAgain : List Bool → Action H Unit
  | [] => pure ()
  | caught :: rest => do
    disconnect
    rescue reconnect fun e => if caught then pure () else throw (.raised e)
    connectAgain rest

/-- `on_connect_check_health` of the connection, or `redis_connect_func`. -/
def shakeHands : Action H Unit := do
  let greeting ← ask env.greeting
  connectAgain reconnect greeting.again
  modify (withSock greeting.sock)
  raise greeting.failure

/-- `connect_check_health` where there is no socket: open one, shake hands, call back. -/
def openSession (callback : Action H Unit) : Action H Unit := do
  rescue (callWithRetry config.retry (dial env) (fun _ => disconnect) env.patience 0) fun e =>
    throw (.raised (socketError e))
  rescue (shakeHands env reconnect) fun e => do
    whenever (e.isinstance .redisError) disconnect
    throw (.raised e)
  let s ← get
  whenever s.wire.attached callback

end Connection

/-! ## The object -/

/-- The lock held, or free. -/
def locked (lock : Bool) (s : Session H Line) : Session H Line := { s with wire.lock := lock }

/-- `with self._lock`. Nothing is released by a call that is blocked. -/
def withLock (body : Action H Unit) : Action H Unit := fun s =>
  if s.wire.lock then .error .blocked s
  else
    match body (locked true s) with
    | .ok _ t => .ok () (locked false t)
    | .error (.raised e) t => .error (.raised e) (locked false t)
    | .error .blocked t => .error .blocked t

section Object

variable (config : ConnectionConfig) (env : LineEnv) (connect : Action H Unit)

/-- `_disconnect_raise_connect`. -/
def disconnectRaiseConnect (error : Exc) : Action H Unit := do
  disconnect
  if config.retriesOn error then connectIfClosed connect else throw (.raised error)

/-- `_execute`. -/
def execute (command : Action H α) : Action H α :=
  callWithRetry config.retry command (disconnectRaiseConnect config connect) env.patience 0

/-- A health check was answered. -/
def countResponse : Action H Unit :=
  Session.note fun p => { p with healthCheckResponseCounter := p.healthCheckResponseCounter - 1 }

/-- The loop of `clean_health_check_responses`. -/
def cleanHealthCheckResponses : Nat → Action H Unit
  | 0 => pure ()
  | ttl + 1 => do
    let s ← get
    whenever (0 < s.pubsub.healthCheckResponseCounter) do
      let available ← execute config env connect (canRead env connect)
      whenever available do
        let response ← execute config env connect (readResponse env true)
        match response with
        | .healthCheck => countResponse
        | .push _ => throw (.ofClass .pubSubError)
      cleanHealthCheckResponses ttl

/-- A connection is taken from the pool, and `on_connect` registered with it. -/
def getConnection : Action H Unit := do
  let taken ← ask env.getConnection
  match taken with
  | .ok sock => modify fun s => { s with wire.attached := true, wire.sock := sock }
  | .error e => throw (.raised e)

/-- `execute_command`. -/
def executeCommand (command : Command) : Action H Unit := do
  let s ← get
  whenever (s.wire.attached = false) (getConnection env)
  let check := !s.pubsub.subscribedEvent
  whenever check (cleanHealthCheckResponses config env connect 10)
  withLock (execute config env connect (sendCommand config env connect command check))

/-- `check_health` of the object. -/
def checkHealth : Action H Unit := do
  let due ← ask env.due
  whenever (config.healthChecks && due) do
    sendPackedCommand config env connect false
    Session.note fun p => { p with healthCheckResponseCounter := p.healthCheckResponseCounter + 1 }

/-- `try_read`. -/
def tryRead (block : Bool) : Action H (Option Response) :=
  if block then do
    connectIfClosed connect
    let response ← readResponse env false
    pure (some response)
  else do
    let available ← canRead env connect
    if available then do
      let response ← readResponse env false
      pure (some response)
    else pure none

/-- `parse_response`. -/
def parseResponse (block : Bool) : Action H (Option (Push Name)) := do
  let s ← get
  if s.wire.attached then do
    checkHealth config env connect
    let response ← execute config env connect (tryRead env connect block)
    match response with
    | none => pure none
    | some .healthCheck => do
      countResponse
      pure none
    | some (.push response) => pure (some response)
  else throw (.ofClass .runtimeError)

/-- `get_message` and `get_sharded_message`, and one turn of `listen`. -/
def getMessage (block ignoreSubscribeMessages : Bool) : Action H Unit := do
  let s ← get
  whenever s.pubsub.subscribedEvent do
    let response ← parseResponse config env connect block
    whenSome response fun response =>
      Session.note fun p => (p.handleMessage response ignoreSubscribeMessages).1

/-- `reset`. -/
def reset : Action H Unit := modify fun s => {
  pubsub := { PubSub.new with ignoreSubscribeMessages := s.pubsub.ignoreSubscribeMessages }
  wire := { s.wire with
    attached := false
    sock := false } }

end Object

section Calls

variable (config : ConnectionConfig) (env : LineEnv) (codec : Codec)

/-- `connect_check_health`, with the callback; calls may be nested to a limited depth. -/
def connectCheckHealth : Nat → Action H Unit
  | 0 => throw (.ofClass .runtimeError)
  | depth + 1 =>
    let reconnect := connectCheckHealth depth
    openSession config env reconnect
      (onConnect .sync codec fun verb names =>
        executeCommand config env reconnect (.subscription verb names))

/-- `connect`. -/
def connect : Action H Unit := connectCheckHealth config env codec env.depth

end Calls

end Line

/-! ## Calls -/

/-- A public call, or a loss of the connection between two calls. -/
inductive LineCall (H : Type) where
  /-- `subscribe`, `psubscribe` or `ssubscribe`. -/
  | subscribe (kind : Kind) (args : NameArgs) (kwargs : Dict Text (Option H))
  /-- `unsubscribe`, `punsubscribe` or `sunsubscribe`. -/
  | unsubscribe (kind : Kind) (args : NameArgs)
  | ping
  /-- Without a time limit a message is waited for. -/
  | getMessage (block ignoreSubscribeMessages : Bool)
  | checkHealth
  | cleanHealthCheckResponses
  | reset
  /-- The pool disconnects its connections. -/
  | disconnect

namespace LineCall

section Runs

variable (config : ConnectionConfig) (codec : Codec)

/-- The program of a call in its environment. -/
def run (env : LineEnv) : LineCall H → Action H Unit
  | .subscribe kind args kwargs =>
    subscribeTo .sync codec (fun verb names =>
      Line.executeCommand config env (Line.connect config env codec) (.subscription verb names))
      kind args kwargs
  | .unsubscribe kind args =>
    unsubscribeFrom .sync codec (fun verb names =>
      Line.executeCommand config env (Line.connect config env codec) (.subscription verb names))
      kind args
  | .ping => Line.executeCommand config env (Line.connect config env codec) .ping
  | .getMessage block ignoreSubscribeMessages =>
    Line.getMessage config env (Line.connect config env codec) block ignoreSubscribeMessages
  | .checkHealth => do
    let s ← get
    if s.wire.attached then Line.checkHealth config env (Line.connect config env codec)
    else throw (.ofClass .runtimeError)
  | .cleanHealthCheckResponses =>
    Line.cleanHealthCheckResponses config env (Line.connect config env codec) 10
  | .reset => Line.reset
  | .disconnect => Line.disconnect

/-- A call begins: it has an environment of its own. -/
def begin (s : Session H Line) : Session H Line := { s with wire.clock := 0 }

/-- The state after a call, returning or raising. -/
def next (s : Session H Line) (call : LineCall H × LineEnv) : Session H Line :=
  stateAfter (call.1.run config codec call.2 (begin s))

/-- The call is not blocked by the lock. -/
def Passes (s : Session H Line) (call : LineCall H × LineEnv) : Prop :=
  ∀ t, call.1.run config codec call.2 (begin s) ≠ .error .blocked t

end Runs

/-- A new object. -/
def start : Session H Line where
  pubsub := .new
  wire := { attached := false, sock := false, lock := false, clock := 0 }

/-- The command that a call sends while it holds the lock. -/
def command (codec : Codec) : LineCall H → Option Command
  | .subscribe kind args kwargs =>
    match kwargs.contains selfWord, positional .sync { subscribes := true, kind } args with
    | false, .ok names =>
      some (.subscription { subscribes := true, kind } (newNames names (nameKeywords kind kwargs)).keys)
    | _, _ => none
  | .unsubscribe kind none => some (.subscription { subscribes := false, kind } [])
  | .unsubscribe kind (some args) =>
    match positional .sync { subscribes := false, kind } (some args) with
    | .ok names =>
      match normalizeKeys codec (Dict.fromKeys names ()) with
      | .ok _ => some (.subscription { subscribes := false, kind } names)
      | .error _ => none
    | .error _ => none
  | .ping => some .ping
  | _ => none

end LineCall

/-- From some time on in a call no connection is opened: dialling fails, or the handshake. -/
def Unreachable (env : LineEnv) (time : Nat) : Prop :=
  ∀ n, time ≤ n → env.dial n = none → (env.greeting (n + 1)).failure ≠ none

/-- No connection is opened in the same call once packing or writing has failed in a way that
connects again, or a handshake has returned without a socket. -/
structure Steady (config : ConnectionConfig) (env : LineEnv) : Prop where
  packs : ∀ command n e, env.pack command n = some e → config.retriesOn e = true →
    Unreachable env (n + 1)
  sends : ∀ n e, env.send n = some e → config.retriesOn (socketError e) = true →
    Unreachable env (n + 1)
  greets : ∀ n, (env.greeting n).failure = none → (env.greeting n).sock = false →
    Unreachable env (n + 1)

namespace LineCall

/-- A call that cannot connect while it holds the lock and something is subscribed to: nothing is;
or what it sends finds a socket, or cannot be packed, or no connection is opened. -/
def Allowed (config : ConnectionConfig) (codec : Codec) (s : Session H Line)
    (call : LineCall H × LineEnv) : Prop :=
  s.pubsub.any = false ∨
    Steady config call.2 ∧
      ∀ command, call.1.command codec = some command →
        s.wire.sock = true ∨ call.2.pack command 0 ≠ none ∨ Unreachable call.2 0

end LineCall

end RedisPy.Channels

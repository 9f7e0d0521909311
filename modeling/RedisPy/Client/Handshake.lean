import RedisPy.Client.Connection

/-!
# Connecting with user code

What `connect_check_health` runs on a new socket: the handshake, or `redis_connect_func` in its
place, and then the connect callbacks. All of it sends and reads on the connection itself, which
may reconnect underneath. The blocking and the asyncio connection have the same frame around
different handshakes. The configured parts that came to their end on a session are recorded, and
so are the sessions that commands of a user were written on.
-/

namespace RedisPy

open Contract

variable {F : Type}

/-- What user code may call on the connection that it is given. -/
inductive ConnectionCall where
  /-- `send_packed_command(command, check_health)`. -/
  | sendPackedCommand (command : Words) (checkHealth : Bool)
  /-- `read_response()`. -/
  | readResponse
  /-- `disconnect()`. -/
  | disconnect
  /-- `connect()`. -/
  | connect
  /-- `on_connect()`. -/
  | onConnect

/-- Code of a user; it sees what each call returns or raises, and may handle it. -/
inductive UserCode (F : Type) where
  /-- It returns. -/
  | done
  /-- It raises. -/
  | fail (e : Exc)
  /-- It calls the connection. -/
  | call (called : ConnectionCall) (next : Except Exc (PyVal F) → UserCode F)

/-- `CLIENT TRACKING ON`. -/
def trackingOn : Words := ["CLIENT".toList, "TRACKING".toList, "ON".toList]

/-- `CacheProxyConnection._enable_tracking_callback`, as far as it calls the connection. -/
def enableTrackingCallback : UserCode F :=
  .call (.sendPackedCommand trackingOn true) fun
    | .error e => .fail e
    | .ok _ => .call .readResponse fun
      | .error e => .fail e
      | .ok _ => .done

/-- A configured part of what happens on a new socket. -/
inductive HandshakeStep where
  /-- `HELLO` or `AUTH`. -/
  | greeting
  /-- `CLIENT SETNAME`. -/
  | clientName
  /-- `SELECT`. -/
  | database
  /-- `redis_connect_func`. -/
  | connectFunc
  /-- A connect callback. -/
  | callback (index : Nat)
deriving DecidableEq

/-- What a connection with user code is configured with. -/
structure HandshakeConfig (F : Type) where
  /-- It is a connection of `redis.asyncio`. -/
  asyncio : Bool
  /-- `retry`. -/
  retry : Retry
  /-- `health_check_interval` is not zero. -/
  healthChecks : Bool
  /-- `protocol` is 3. -/
  resp3 : Bool
  /-- There is a credential provider, or a user name or password. -/
  authenticates : Bool
  /-- `client_name`. -/
  clientName : Option Text
  /-- `lib_name`. -/
  libName : Option Text
  /-- `lib_version`. -/
  libVersion : Option Text
  /-- `db`. -/
  db : Int
  /-- `redis_connect_func`, by the time of its call. -/
  redisConnectFunc : Option (Nat → UserCode F)
  /-- `_connect_callbacks`, by the time of the call. -/
  connectCallbacks : List (Nat → UserCode F)

/-- How `_connect` ends. -/
inductive Dialled where
  /-- With a connected socket. -/
  | opened
  /-- With an exception before there is a socket. -/
  | refused (e : Exc)
  /-- With an exception after the socket was connected; only asyncio has stored it by then. -/
  | spoiled (e : Exc)

/-- What happens around the calls on a connection; questions are numbered by the clock. -/
structure HandshakeEnv (F : Type) where
  /-- For how many failures a caller waits. -/
  patience : Nat
  /-- How deep calls may be nested. -/
  depth : Nat
  /-- Another holder of the pool disconnects. -/
  stolen : Nat → Bool
  /-- `_connect`. -/
  dial : Nat → Dialled
  /-- A health check is due. -/
  due : Nat → Bool
  /-- `get_credentials`. -/
  credentials : Nat → Except Exc (List Text)
  /-- The exception of packing a command. -/
  pack : Words → Option Exc
  /-- The exception of writing. -/
  write : Words → Nat → Option Exc
  /-- What the parser returns or raises after a command was written. -/
  reply : Words → Nat → Except Exc (PyVal F)
  /-- The exception of closing a socket, which only asyncio passes on. -/
  close : Nat → Option Exc
  /-- What the parser answers to `can_read`. -/
  canRead : Nat → Except Exc Bool

/-- A connection as far as its handshakes are concerned. -/
structure Channel where
  /-- `_sock`, as the session that it belongs to. -/
  sock : Option Nat
  /-- The latest command that was written. -/
  latest : Words
  /-- How often the environment was asked. -/
  clock : Nat
  /-- How many sessions there were. -/
  sessions : Nat
  /-- The configured parts that came to their end on a session. -/
  completed : List (Nat × HandshakeStep)
  /-- The sessions that commands of a user were written on. -/
  commands : List Nat
deriving DecidableEq

namespace Channel

/-- One more question to the environment. -/
def tick (s : Channel) : Channel := { s with clock := s.clock + 1 }

/-- Without a socket. -/
def closed (s : Channel) : Channel := { s with sock := none }

/-- A part of the handshake came to its end on the session on which it began. -/
def record (step : HandshakeStep) (began s : Channel) : Channel :=
  match s.sock with
  | some session =>
    if began.sock = some session then { s with completed := (session, step) :: s.completed } else s
  | none => s

/-- A configured part of the handshake. -/
def attempt (step : HandshakeStep) (program : EStateM Exc Channel Unit) :
    EStateM Exc Channel Unit := do
  let began ← get
  program
  modify (record step began)

/-- Another holder of the pool may disconnect at this point. -/
def interfere (env : HandshakeEnv F) : EStateM Exc Channel Unit :=
  modify fun s => if env.stolen s.clock then s.tick.closed else s.tick

section Calls

variable (config : HandshakeConfig F) (env : HandshakeEnv F)

/-- `disconnect`. -/
def disconnect : EStateM Exc Channel Unit := fun s =>
  match if config.asyncio && s.sock.isSome then env.close s.clock else none with
  | some e => .error e s.tick.closed
  | none => .ok () s.tick.closed

/-- Writing, or disconnecting. -/
def transmit (command : Words) (user : Bool) : EStateM Exc Channel Unit := fun s =>
  match s.sock with
  | none => .error { cls := .attributeError } s.closed
  | some session =>
    let commands := if user then session :: s.commands else s.commands
    let written := { s.tick with latest := command, commands }
    match env.write command s.clock with
    | none => .ok () written
    | some e => .error (socketError e) written.closed

/-- `read_response`: errors disconnect, and an error reply is raised. -/
def readResponse : EStateM Exc Channel (PyVal F) := fun s =>
  match s.sock with
  | none =>
    .error { cls := if config.asyncio then .connectionError else .attributeError } s.closed
  | some _ =>
    match env.reply s.latest s.clock with
    | .error e => .error (socketError e) s.tick.closed
    | .ok (.exc e) => if e.isinstance .responseError then .error e s.tick else .ok (.exc e) s.tick
    | .ok response => .ok response s.tick

/-- Packing a command. -/
def pack (command : Words) : EStateM Exc Channel Unit := whenSome (env.pack command) throw

/-- The arguments for `AUTH`. -/
def authArgs : EStateM Exc Channel (List Text) := fun s =>
  if config.authenticates then
    match env.credentials s.clock with
    | .ok args => .ok args s.tick
    | .error e => .error e s.tick
  else .ok [] s

/-- `_connect`; a socket is a new session. -/
def dial : EStateM Exc Channel Unit := fun s =>
  let opened := { s.tick with sock := some s.sessions, sessions := s.sessions + 1 }
  match env.dial s.clock with
  | .opened => .ok () opened
  | .refused e => .error e s.tick
  | .spoiled e => .error e (if config.asyncio then opened else s.tick)

/-- What an exception of `_connect` becomes. -/
def dialError (e : Exc) : Exc :=
  if config.asyncio && !e.isinstance .osError && e.isinstance .exception then
    { cls := .connectionError }
  else socketError e

/-- `connect_check_health` without its test. -/
def connectIfClosed (program : EStateM Exc Channel Unit) : EStateM Exc Channel Unit := do
  let s ← get
  whenever (s.sock = none) program

section Reconnecting

variable (reconnect : Bool → EStateM Exc Channel Unit)

/-- `_send_ping`. -/
def sendPing : EStateM Exc Channel Unit := do
  pack env ["PING".toList]
  interfere env
  connectIfClosed (reconnect false)
  transmit env ["PING".toList] false
  let response ← readResponse config env
  whenever (response.isText "PONG" = false) (throw { cls := .connectionError })

/-- `check_health`. -/
def checkHealth : EStateM Exc Channel Unit := do
  let s ← get
  whenever (config.healthChecks && env.due s.clock)
    (config.retry.callWithRetry (sendPing config env reconnect) (fun _ => disconnect config env)
      env.patience 0)

/-- `send_packed_command`. -/
def sendPackedCommand (command : Words) (check user : Bool) : EStateM Exc Channel Unit := do
  interfere env
  connectIfClosed (reconnect false)
  whenever check (checkHealth config env reconnect)
  transmit env command user

/-- `send_command`, in the handshake. -/
def sendCommand (command : Words) (check : Bool) : EStateM Exc Channel Unit := do
  pack env command
  sendPackedCommand config env reconnect command check false

/-- `send_command` and `read_response`. -/
def exchange (command : Words) (check : Bool) : EStateM Exc Channel (PyVal F) := do
  sendCommand config env reconnect command check
  readResponse config env

/-- A command whose reply must be `OK`. -/
def exchangeOk (command : Words) (check : Bool) : EStateM Exc Channel Unit := do
  let response ← exchange config env reconnect command check
  whenever (response.isText "OK" = false) (throw { cls := .connectionError })

/-- `except ResponseError: pass`. -/
def forgive (program : EStateM Exc Channel Unit) : EStateM Exc Channel Unit :=
  recover program fun e => if e.isinstance .responseError then pure () else throw e

/-- `HELLO`; whether the protocol of the reply is looked at differs between the connections. -/
def hello (command : Words) (check looks : Bool) : EStateM Exc Channel Unit := do
  let response ← exchange config env reconnect command check
  whenever looks
    (match response.isProtocol3 with
    | .ok true => pure ()
    | .ok false => throw { cls := .connectionError }
    | .error e => throw e)

/-- `AUTH`; servers before version 6 expect the password only. -/
def auth (args : List Text) : EStateM Exc Channel Unit := do
  sendCommand config env reconnect ("AUTH".toList :: args) false
  let response ← recover (readResponse config env) fun e =>
    if e.isinstance .authenticationWrongNumberOfArgsError then
      exchange config env reconnect ["AUTH".toList, args.getLastD []] false
    else throw e
  whenever (response.isText "OK" = false) (throw { cls := .authenticationError })

/-- The part of the handshake that authenticates or chooses the protocol. -/
def greet (args : List Text) (check : Bool) : EStateM Exc Channel Unit :=
  if args ≠ [] ∧ config.resp3 then
    let user := if args.length = 1 then ["default".toList] else []
    let command := ["HELLO".toList, "3".toList, "AUTH".toList] ++ user ++ args
    hello config env reconnect command false config.asyncio
  else if args ≠ [] then auth config env reconnect args
  else if config.resp3 then
    hello config env reconnect ["HELLO".toList, "3".toList] check !config.asyncio
  else pure ()

/-- `CLIENT SETNAME`. -/
def setName (check : Bool) : EStateM Exc Channel Unit :=
  whenSome config.clientName fun name =>
    attempt .clientName
      (exchangeOk config env reconnect ["CLIENT".toList, "SETNAME".toList, name] check)

/-- `CLIENT SETINFO`. -/
def setInfo (field : String) (value : Text) : Words :=
  ["CLIENT".toList, "SETINFO".toList, field.toList, value]

/-- `SELECT`. -/
def select : Words := ["SELECT".toList, decimalText config.db]

/-- The end of the blocking handshake: each command is answered before the next. -/
def introduce (check : Bool) : EStateM Exc Channel Unit := do
  whenSome config.libName fun name =>
    forgive (do let _ ← exchange config env reconnect (setInfo "LIB-NAME" name) check)
  whenSome config.libVersion fun version =>
    forgive (do let _ ← exchange config env reconnect (setInfo "LIB-VER" version) check)
  whenever (config.db ≠ 0)
    (attempt .database (exchangeOk config env reconnect (select config) check))

/-- Reading the reply to `CLIENT SETINFO`. -/
def readInfo : EStateM Exc Channel Unit := forgive (do let _ ← readResponse config env)

/-- Reading the reply to `SELECT`. -/
def readSelected : EStateM Exc Channel Unit := do
  let response ← readResponse config env
  whenever (response.isText "OK" = false) (throw { cls := .connectionError })

/-- The commands at the end of the asyncio handshake and after them their replies. -/
def pipelined (check : Bool) : EStateM Exc Channel Unit := do
  whenSome config.libName fun name =>
    sendCommand config env reconnect (setInfo "LIB-NAME" name) check
  whenSome config.libVersion fun version =>
    sendCommand config env reconnect (setInfo "LIB-VER" version) check
  whenever (config.db ≠ 0) (sendCommand config env reconnect (select config) check)
  whenSome config.libName fun _ => readInfo config env
  whenSome config.libVersion fun _ => readInfo config env
  whenever (config.db ≠ 0) (readSelected config env)

/-- The end of the asyncio handshake. -/
def introduceAsync (check : Bool) : EStateM Exc Channel Unit :=
  if config.db ≠ 0 then attempt .database (pipelined config env reconnect check)
  else pipelined config env reconnect check

/-- `on_connect_check_health`. -/
def onConnectCheckHealth (check : Bool) : EStateM Exc Channel Unit := do
  attempt .greeting (do
    let args ← authArgs config env
    greet config env reconnect args check)
  setName config env reconnect check
  if config.asyncio then introduceAsync config env reconnect check
  else introduce config env reconnect check

/-- A call of user code. -/
def serve : ConnectionCall → EStateM Exc Channel (PyVal F)
  | .sendPackedCommand command check => do
    sendPackedCommand config env reconnect command check false
    pure .none
  | .readResponse => readResponse config env
  | .disconnect => do
    disconnect config env
    pure .none
  | .connect => do
    connectIfClosed (reconnect true)
    pure .none
  | .onConnect => do
    onConnectCheckHealth config env reconnect true
    pure .none

/-- Code of a user runs. -/
def run : UserCode F → EStateM Exc Channel Unit
  | .done => pure ()
  | .fail e => throw e
  | .call called next => fun s =>
    match serve config env reconnect called s with
    | .ok value t => run (next (.ok value)) t
    | .error e t => run (next (.error e)) t

/-- Code of a user runs at the time of its call. -/
def runNow (code : Nat → UserCode F) : EStateM Exc Channel Unit := fun s =>
  run config env reconnect (code s.clock) s.tick

/-- `on_connect_check_health` or `redis_connect_func`. -/
def prepare (check : Bool) : EStateM Exc Channel Unit :=
  match config.redisConnectFunc with
  | none => onConnectCheckHealth config env reconnect check
  | some code => attempt .connectFunc (runNow config env reconnect code)

/-- The connect callbacks, which are numbered. -/
def notify : Nat → List (Nat → UserCode F) → EStateM Exc Channel Unit
  | _, [] => pure ()
  | index, callback :: callbacks => do
    attempt (.callback index) (runNow config env reconnect callback)
    notify (index + 1) callbacks

/-- `connect_check_health` where there is no socket. -/
def openSession (check : Bool) : EStateM Exc Channel Unit := do
  recover (config.retry.callWithRetry (dial config env) (fun _ => disconnect config env)
    env.patience 0) fun e => throw (dialError config e)
  recover (prepare config env reconnect check) fun e => do
    -- clean up after any error in on_connect
    whenever (e.isinstance .redisError) (disconnect config env)
    throw e
  notify config env reconnect 0 config.connectCallbacks

end Reconnecting

/-- `connect_check_health`; calls may be nested to a limited depth. -/
def connectCheckHealth : Nat → Bool → EStateM Exc Channel Unit
  | 0, _ => connectIfClosed (throw { cls := .runtimeError })
  | depth + 1, check =>
    connectIfClosed (openSession config env (connectCheckHealth depth) check)

/-- `connect`. -/
def connect : EStateM Exc Channel Unit := connectCheckHealth config env env.depth true

/-- What the parser answers to `can_read`. -/
def poll : EStateM Exc Channel Bool := fun s =>
  match env.canRead s.clock with
  | .ok available => .ok available s.tick
  | .error e =>
    if e.isinstance .osError then .error { cls := .connectionError } s.tick.closed
    else .error e s.tick

/-- `can_read`, which connects, and `can_read_destructive`, which does not. -/
def canRead : EStateM Exc Channel Bool := do
  whenever (config.asyncio = false) (connectIfClosed (connect config env))
  poll env

/-- A connection of a pool must have nothing to read. -/
def expectNothing (cached : Bool) : EStateM Exc Channel Unit := do
  let available ← canRead config env
  whenever (available && !cached) (throw { cls := .connectionError })

/-- What a pool does with a connection before it gives it out; with a cache there may be
invalidations to read. -/
def ensureConnection (cached : Bool) : EStateM Exc Channel Unit := do
  connect config env
  recover (expectNothing config env cached) fun e => do
    whenever (e.isinstanceAny [.connectionError, .timeoutError, .osError] = false) (throw e)
    disconnect config env
    connect config env
    expectNothing config env false

end Calls

/-- What happens to a connection. -/
inductive Call where
  /-- `connect`. -/
  | connect
  /-- `get_connection` of a pool that gives out this connection. -/
  | getConnection (cached : Bool)
  /-- `send_packed_command` with a command of a user. -/
  | send (command : Words)
  /-- `read_response`. -/
  | readResponse
  /-- `can_read`. -/
  | canRead
  /-- `check_health`. -/
  | checkHealth
  /-- `disconnect`. -/
  | disconnect

/-- One call; what it returns or raises is up to its caller. -/
def Call.run (config : HandshakeConfig F) (env : HandshakeEnv F) :
    Call → EStateM Exc Channel Unit
  | .connect => Channel.connect config env
  | .getConnection cached => ensureConnection config env cached
  | .send command =>
    sendPackedCommand config env (connectCheckHealth config env env.depth) command true true
  | .readResponse => do let _ ← Channel.readResponse config env
  | .canRead => do let _ ← Channel.canRead config env
  | .checkHealth => Channel.checkHealth config env (connectCheckHealth config env env.depth)
  | .disconnect => Channel.disconnect config env

/-- A connection that was just made. -/
def new : Channel :=
  { sock := none, latest := [], clock := 0, sessions := 0, completed := [], commands := [] }

/-- Calls on a connection, each in its surroundings. -/
def after (config : HandshakeConfig F) (calls : List (Call × HandshakeEnv F)) : Channel :=
  calls.foldl (fun s call => stateAfter (call.1.run config call.2 s)) new

end Channel

/-- The parts of the handshake that are configured. -/
def HandshakeConfig.steps (config : HandshakeConfig F) : List HandshakeStep :=
  (match config.redisConnectFunc with
    | some _ => [.connectFunc]
    | none =>
      .greeting :: ((if config.clientName.isSome then [.clientName] else []) ++
        if config.db ≠ 0 then [.database] else [])) ++
    (List.range config.connectCallbacks.length).map .callback

/-- All configured parts of the handshake came to their end on a session. -/
def Channel.Complete (config : HandshakeConfig F) (s : Channel) (session : Nat) : Prop :=
  ∀ step ∈ config.steps, (session, step) ∈ s.completed

end RedisPy

import RedisPy.Lib.Contract
import RedisPy.Parsers.Value

/-!
# The blocking connection

`Connection` of `redis/connection.py` with its retries: connecting with the handshake,
health checks, sending and reading replies. The server answers the commands of a session
in order, so a connection carries the commands that were written and not yet answered to a
reader; what the server, the network, the clock and other threads do is an environment.
-/

namespace RedisPy

open Contract

variable {F : Type}

/-- The words of one command. -/
abbrev Words := List Text

/-- What one call writes. -/
inductive Batch where
  /-- `send_command`. -/
  | command (words : Words)
  /-- The commands of a pipeline. -/
  | pipeline (commands : List Words)
  /-- The commands of a pipeline between `MULTI` and `EXEC`. -/
  | transaction (commands : List Words)
deriving DecidableEq

/-- The commands of a batch as they are written. -/
def Batch.commands : Batch → List Words
  | .command words => [words]
  | .pipeline commands => commands
  | .transaction commands => ["MULTI".toList] :: (commands ++ [["EXEC".toList]])

/-- A batch that was given to a socket. -/
structure Transmission where
  /-- The session. -/
  session : Nat
  batch : Batch
  /-- Everything was written. -/
  complete : Bool
deriving DecidableEq

/-- `AbstractConnection`, as far as it changes. -/
structure Connection where
  /-- `_sock`, as the session that it belongs to. -/
  sock : Option Nat
  /-- The commands written on the session whose replies were not read yet. -/
  outstanding : List Words
deriving DecidableEq

/-- A connection without a socket. -/
def Connection.closed : Connection := { sock := none, outstanding := [] }

/-- What connections share. -/
structure Network where
  /-- How often the environment was asked. -/
  clock : Nat
  /-- How many sessions there were. -/
  sessions : Nat
  /-- Everything that was given to a socket. -/
  log : List Transmission
deriving DecidableEq

/-- A connection in its network. -/
structure Link where
  conn : Connection
  net : Network
deriving DecidableEq

/-- `Retry`, without the waiting times. -/
structure Retry where
  /-- `_retries`; a negative number, which stands for no limit, is `none`. -/
  retries : Option Nat
  /-- `_supported_errors`. -/
  supportedErrors : List ExcClass

/-- `self._retries >= 0 and failures > self._retries`. -/
def Retry.exhausted (retry : Retry) (failures : Nat) : Bool := retry.retries.any (· < failures)

/-- The handler of `call_with_retry`; `again` is the next turn of the loop. -/
def Retry.handle {σ α : Type} (retry : Retry) (fail : Exc → EStateM Exc σ Unit)
    (again : EStateM Exc σ α) (failures : Nat) (error : Exc) : EStateM Exc σ α :=
  if error.isinstanceAny retry.supportedErrors then do
    fail error
    if retry.exhausted failures then throw error else again
  else throw error

/-- The loop of `call_with_retry` after some failures; the caller is interrupted while it waits
for the last time that its patience allows. -/
def Retry.callWithRetry {σ α : Type} (retry : Retry) (run : EStateM Exc σ α)
    (fail : Exc → EStateM Exc σ Unit) : Nat → Nat → EStateM Exc σ α
  | 0, failures =>
    recover run (retry.handle fail (throw { cls := .keyboardInterrupt }) (failures + 1))
  | patience + 1, failures =>
    recover run
      (retry.handle fail (retry.callWithRetry run fail patience (failures + 1)) (failures + 1))

/-- What a connection is configured with. -/
structure ConnectionConfig where
  /-- `retry`. -/
  retry : Retry
  /-- `retry_on_error`. -/
  retryOnError : Option (List ExcClass)
  /-- `health_check_interval` is not zero. -/
  healthChecks : Bool
  /-- `protocol` is 3. -/
  resp3 : Bool
  /-- What the credential provider gives. -/
  credentials : Option (Except Exc (List Text))
  /-- `client_name`. -/
  clientName : Option Text
  /-- `lib_name`. -/
  libName : Option Text
  /-- `lib_version`. -/
  libVersion : Option Text
  /-- `db`. -/
  db : Int

/-- What happens around a call; questions are numbered by the clock. -/
structure Env (F : Type) where
  /-- For how many failures a caller waits. -/
  patience : Nat
  /-- How deep calls may be nested. -/
  depth : Nat
  /-- Another holder of the pool disconnects. -/
  stolen : Nat → Bool
  /-- The exception of `_connect`. -/
  dial : Nat → Option Exc
  /-- A health check is due. -/
  due : Nat → Bool
  /-- The exception of `sendall`. -/
  send : Batch → Nat → Option Exc
  /-- What the parser returns or raises for the reply to a command. -/
  reply : Words → Nat → Except Exc (PyVal F)
  /-- What the parser raises when the server owes nothing. -/
  idle : Nat → Exc
  /-- What the parser answers to `can_read`. -/
  canRead : Nat → Except Exc Bool

/-- `retry_on_error` is set and the error is one of its types. -/
def ConnectionConfig.retriesOn (config : ConnectionConfig) (error : Exc) : Bool :=
  config.retryOnError.any error.isinstanceAny

/-- What socket errors become: `timeout` and everything else the operating system raises. -/
def socketError (e : Exc) : Exc :=
  if e.isinstance .builtinTimeoutError then { cls := .timeoutError }
  else if e.isinstance .osError then { cls := .connectionError }
  else e

/-- `str_if_bytes(value) == text`. -/
def PyVal.isText (text : String) : PyVal F → Bool
  | .bytes value => value == ascii text
  | .str value => value == text.toList
  | _ => false

/-- `metadata.get(b"proto") == 3 or metadata.get("proto") == 3`. -/
def PyVal.isProtocol3 : PyVal F → Except Exc Bool
  | .dict items => .ok (items.any fun item => item.1.isText "proto" && item.2.asInt == some 3)
  | _ => .error { cls := .attributeError }

namespace Link

/-- One more question to the environment. -/
def tick (s : Link) : Link := { s with net.clock := s.net.clock + 1 }

/-- The link without its socket. -/
def closed (s : Link) : Link := { s with conn := .closed }

/-- `disconnect`. -/
def disconnect : EStateM Exc Link Unit := modify closed

/-- Another holder of the pool may disconnect at this point. -/
def interfere (env : Env F) : EStateM Exc Link Unit :=
  modify fun s => if env.stolen s.net.clock then s.tick.closed else s.tick

/-- The end of `send_packed_command`: write everything, or disconnect. -/
def transmit (env : Env F) (batch : Batch) : EStateM Exc Link Unit := fun s =>
  if batch.commands = [] then .ok () s
  else
    match s.conn.sock with
    | none => .error { cls := .attributeError } s.closed
    | some session =>
      let failure := env.send batch s.net.clock
      let entry := { session, batch, complete := failure.isNone }
      let logged := { s.tick with net.log := s.net.log ++ [entry] }
      match failure with
      | none =>
        .ok () { logged with conn.outstanding := s.conn.outstanding ++ batch.commands }
      | some e => .error (socketError e) logged.closed

/-- `read_response`: errors disconnect, and an error reply is raised. -/
def readResponse (env : Env F) : EStateM Exc Link (PyVal F) := fun s =>
  match s.conn.sock, s.conn.outstanding with
  | none, _ => .error { cls := .attributeError } s.closed
  | some _, [] => .error (socketError (env.idle s.net.clock)) s.tick.closed
  | some _, words :: rest =>
    match env.reply words s.net.clock with
    | .error e => .error (socketError e) s.tick.closed
    | .ok response =>
      let after := { s.tick with conn.outstanding := rest }
      match response with
      | .exc e => if e.isinstance .responseError then .error e after else .ok response after
      | _ => .ok response after

/-- `auth_args`; without credentials there are none. -/
def authenticate (config : ConnectionConfig) : EStateM Exc Link (List Text) :=
  match config.credentials with
  | none => pure []
  | some (.ok authArgs) => pure authArgs
  | some (.error e) => throw e

section Reconnecting

variable (config : ConnectionConfig) (env : Env F) (reconnect : EStateM Exc Link Unit)

/-- `connect_check_health(check_health=False)` where there is no socket. -/
def connectIfClosed : EStateM Exc Link Unit := do
  let s ← get
  whenever (s.conn.sock = none) reconnect

/-- `_send_ping`; the `PING` itself is sent without a health check. -/
def sendPing : EStateM Exc Link Unit := do
  interfere env
  connectIfClosed reconnect
  transmit env (.command ["PING".toList])
  let response ← readResponse env
  whenever (response.isText "PONG" = false) (throw { cls := .connectionError })

/-- `check_health`. -/
def checkHealth : EStateM Exc Link Unit := do
  let s ← get
  whenever (config.healthChecks && env.due s.net.clock)
    (config.retry.callWithRetry (sendPing env reconnect) (fun _ => disconnect) env.patience 0)

/-- `send_packed_command`. -/
def sendPackedCommand (batch : Batch) (check : Bool) : EStateM Exc Link Unit := do
  interfere env
  connectIfClosed reconnect
  whenever check (checkHealth config env reconnect)
  transmit env batch

/-- `send_command` and `read_response`. -/
def exchange (words : Words) (check : Bool) : EStateM Exc Link (PyVal F) := do
  sendPackedCommand config env reconnect (.command words) check
  readResponse env

/-- A step of the handshake whose reply must be `OK`. -/
def exchangeOk (words : Words) (check : Bool) (refused : ExcClass) : EStateM Exc Link Unit := do
  let response ← exchange config env reconnect words check
  whenever (response.isText "OK" = false) (throw { cls := refused })

/-- A step of the handshake that the server may refuse. -/
def exchangeOptional (words : Words) (check : Bool) : EStateM Exc Link Unit :=
  recover (do let _ ← exchange config env reconnect words check) fun e =>
    if e.isinstance .responseError then pure () else throw e

/-- The part of the handshake that authenticates or chooses the protocol. -/
def greet (authArgs : List Text) (check : Bool) : EStateM Exc Link Unit :=
  if authArgs ≠ [] ∧ config.resp3 then do
    let user := if authArgs.length = 1 then ["default".toList] else []
    let hello := ["HELLO".toList, "3".toList, "AUTH".toList] ++ user ++ authArgs
    let _ ← exchange config env reconnect hello false
  else if authArgs ≠ [] then do
    sendPackedCommand config env reconnect (.command ("AUTH".toList :: authArgs)) false
    let response ← recover (readResponse env) fun e =>
      -- servers before version 6 expect the password only
      if e.isinstance .authenticationWrongNumberOfArgsError then
        exchange config env reconnect ["AUTH".toList, authArgs.getLastD []] false
      else throw e
    whenever (response.isText "OK" = false) (throw { cls := .authenticationError })
  else if config.resp3 then do
    let response ← exchange config env reconnect ["HELLO".toList, "3".toList] check
    match response.isProtocol3 with
    | .ok true => pure ()
    | .ok false => throw { cls := .connectionError }
    | .error e => throw e
  else pure ()

/-- `on_connect_check_health`. -/
def onConnectCheckHealth (check : Bool) : EStateM Exc Link Unit := do
  let authArgs ← authenticate config
  greet config env reconnect authArgs check
  whenSome config.clientName fun name =>
    let setName := ["CLIENT".toList, "SETNAME".toList, name]
    exchangeOk config env reconnect setName check .connectionError
  whenSome config.libName fun name =>
    let setInfo := ["CLIENT".toList, "SETINFO".toList, "LIB-NAME".toList, name]
    exchangeOptional config env reconnect setInfo check
  whenSome config.libVersion fun version =>
    let setInfo := ["CLIENT".toList, "SETINFO".toList, "LIB-VER".toList, version]
    exchangeOptional config env reconnect setInfo check
  let select := ["SELECT".toList, decimalText config.db]
  whenever (config.db ≠ 0) (exchangeOk config env reconnect select check .connectionError)

end Reconnecting

/-- `_connect`, and the session of the new socket. -/
def dial (env : Env F) : EStateM Exc Link Unit := fun s =>
  match env.dial s.net.clock with
  | some e => .error e s.tick
  | none =>
    let session := s.net.sessions
    .ok () { s.tick with
      conn := { sock := some session, outstanding := [] }
      net.sessions := session + 1 }

/-- `connect_check_health` where there is no socket: open one and shake hands, or clean up. -/
def openSession (config : ConnectionConfig) (env : Env F) (reconnect : EStateM Exc Link Unit)
    (check : Bool) : EStateM Exc Link Unit := do
  recover (config.retry.callWithRetry (dial env) (fun _ => disconnect) env.patience 0) fun e =>
    throw (socketError e)
  recover (onConnectCheckHealth config env reconnect check) fun e => do
    whenever (e.isinstance .redisError) disconnect
    throw e

/-- `connect_check_health`; calls may be nested to a limited depth. -/
def connectCheckHealth (config : ConnectionConfig) (env : Env F) :
    Nat → Bool → EStateM Exc Link Unit
  | 0, _ => connectIfClosed (throw { cls := .runtimeError })
  | depth + 1, check =>
    connectIfClosed (openSession config env (connectCheckHealth config env depth false) check)

/-- `connect`. -/
def connect (config : ConnectionConfig) (env : Env F) : EStateM Exc Link Unit :=
  connectCheckHealth config env env.depth true

/-- `send_packed_command` of a connection that reconnects by itself. -/
def send (config : ConnectionConfig) (env : Env F) (batch : Batch) : EStateM Exc Link Unit :=
  sendPackedCommand config env (connectCheckHealth config env env.depth false) batch true

/-- What the parser answers to `can_read`. -/
def poll (env : Env F) : EStateM Exc Link Bool := fun s =>
  match env.canRead s.net.clock with
  | .ok available => .ok available s.tick
  | .error e =>
    if e.isinstance .osError then .error { cls := .connectionError } s.tick.closed
    else .error e s.tick

/-- `can_read`. -/
def canRead (config : ConnectionConfig) (env : Env F) : EStateM Exc Link Bool := do
  connectIfClosed (connect config env)
  poll env

end Link

end RedisPy

import RedisPy.Client.Connection
import RedisPy.Lib.Cooperation

/-!
# A client with a single connection

`Redis(single_connection_client=True)` of `redis/asyncio/client.py`. Any number of tasks execute
commands on its only connection at the same time, and a streaming credential provider has it
authenticated again. `_single_conn_lock` is meant to keep them apart, from the moment the connection
is created. A task may be cancelled, and a socket may fail, wherever a task awaits something.
-/

namespace RedisPy

open Cooperation Coroutine

variable {F : Type}

/-- A command as it was written. -/
structure Written where
  /-- The task that wrote it. -/
  task : Nat
  words : Words
  /-- `execute_command` sent it, and not a handshake, a health check or an authentication. -/
  ofCall : Bool
deriving DecidableEq

/-- A connection as far as its tasks are concerned. -/
structure Wire where
  /-- `is_connected`. -/
  connected : Bool
  /-- The commands of the session whose replies were not read yet. -/
  outstanding : List Written

/-- A reply that was read. -/
structure HeardReply (F : Type) where
  reader : Nat
  written : Written
  reply : PyVal F

/-- The client, and the connections of its pool. -/
structure SingleClient (F : Type) where
  /-- `connection`. -/
  connection : Option Nat
  /-- The connections that the pool gave out and did not get back. -/
  taken : List Nat
  /-- How many connections the pool gave out. -/
  made : Nat
  wires : Nat → Wire
  heard : List (HeardReply F)
  /-- How often the environment was asked. -/
  clock : Nat

/-- A call of `execute_command`. -/
structure SingleCall (F : Type) where
  words : Words
  /-- `options[EMPTY_RESPONSE]`. -/
  emptyResponse : Option (PyVal F)
  /-- The response callback, or the identity. -/
  callback : PyVal F → Except Exc (PyVal F)

/-- What happens around the tasks; questions are numbered by the clock. -/
structure SingleEnv (F : Type) where
  /-- For how many failures a caller waits. -/
  patience : Nat
  /-- How deep calls may be nested. -/
  depth : Nat
  /-- The exception of `_connect` once it has stored its streams. -/
  spoils : Nat → Option Exc
  /-- A health check is due. -/
  due : Nat → Bool
  /-- `compute(failures)` is positive. -/
  backsOff : Nat → Bool
  /-- The exception of packing a command. -/
  pack : Words → Option Exc
  /-- What the parser returns or raises for the reply to a command. -/
  reply : Words → Nat → Except Exc (PyVal F)

section Retrying

variable {σ α : Type} (retry : Retry) (backsOff : Nat → Bool) (fail : Exc → Coroutine Exc σ Unit)

/-- The handler of the asyncio `call_with_retry`; `again` is the next turn of the loop. -/
def Retry.handleAsync (again : Coroutine Exc σ α) (failures : Nat) (error : Exc) : Coroutine Exc σ α :=
  if error.isinstanceAny retry.supportedErrors then do
    fail error
    if retry.exhausted failures then raise error
    else do
      whenever (backsOff failures = true) (wait fun _ => true)
      again
  else raise error

/-- The loop of the asyncio `call_with_retry` after some failures; the task is cancelled when its
patience is at an end. -/
def Retry.callWithRetryAsync (run : Coroutine Exc σ α) : Nat → Nat → Coroutine Exc σ α
  | 0, failures =>
    recover run (retry.handleAsync backsOff fail (raise { cls := .cancelledError }) (failures + 1))
  | patience + 1, failures =>
    recover run
      (retry.handleAsync backsOff fail (callWithRetryAsync run patience (failures + 1)) (failures + 1))

end Retrying

namespace SingleClient

/-- What a task does with the connection. -/
abbrev Program (F : Type) : Type → Type := Coroutine Exc (SingleClient F)

/-- A client before its first command. -/
def new : SingleClient F where
  connection := none
  taken := []
  made := 0
  wires _ := { connected := false, outstanding := [] }
  heard := []
  clock := 0

/-- One more question to the environment. -/
def tick (s : SingleClient F) : SingleClient F := { s with clock := s.clock + 1 }

/-- A connection has changed. -/
def put (c : Nat) (wire : Wire) (s : SingleClient F) : SingleClient F :=
  { s with wires := Function.update s.wires c wire }

/-- A connection without its streams. -/
def closed (c : Nat) : SingleClient F → SingleClient F := put c { connected := false, outstanding := [] }

/-- A connection with new streams. -/
def opened (c : Nat) : SingleClient F → SingleClient F := put c { connected := true, outstanding := [] }

/-- A command is given to the writer. -/
def wrote (c : Nat) (written : Written) (s : SingleClient F) : SingleClient F :=
  s.put c { s.wires c with outstanding := (s.wires c).outstanding ++ [written] }

/-- The first reply is read. -/
def hear (c : Nat) (rest : List Written) (heard : HeardReply F) (s : SingleClient F) : SingleClient F :=
  { s.tick.put c { s.wires c with outstanding := rest } with heard := heard :: s.heard }

/-! ## The connection -/

section Calls

variable (config : ConnectionConfig) (env : SingleEnv F) (i c : Nat)

/-- `disconnect(nowait=True)`. -/
def drop : Program F Unit := modify (closed c)

/-- What an exception of `wait_closed` becomes; a timeout is one of `async_timeout`. -/
def closing (e : Exc) : Program F Unit :=
  if e.isinstance .builtinTimeoutError then raise { cls := .timeoutError }
  else if e.isinstance .osError then pure ()
  else raise e

/-- `disconnect`. -/
def disconnect : Program F Unit := do
  let s ← look
  whenever ((s.wires c).connected = true) (ensure (recover (wait fun _ => true) closing) (drop c))

/-- An exception while data is sent or received. -/
def failing {α : Type} (e : Exc) : Program F α := do
  drop c
  raise e

/-- `writelines` and `drain`. -/
def transmit (words : Words) (ofCall : Bool) : Program F Unit := do
  let s ← look
  if (s.wires c).connected then do
    modify (wrote c { task := i, words, ofCall })
    recover (wait fun _ => true) fun e => failing c (socketError e)
  else failing c { cls := .attributeError }

/-- An error reply is raised. -/
def answer : PyVal F → Program F (PyVal F)
  | .exc e => if e.isinstance .responseError then raise e else pure (.exc e)
  | reply => pure reply

/-- The parser has what the server answered to the first command. -/
def parse : List Written → Nat → Program F (PyVal F)
  | [], _ => failing c { cls := .connectionError }
  | written :: rest, time =>
    match env.reply written.words time with
    | .error e => failing c (socketError e)
    | .ok reply => do
      modify (hear c rest { reader := i, written, reply })
      answer reply

/-- `read_response`. -/
def readResponse : Program F (PyVal F) := do
  let s ← look
  if (s.wires c).connected then do
    recover (wait fun s => !(s.wires c).outstanding.isEmpty) fun e => failing c (socketError e)
    let s ← look
    parse env i c (s.wires c).outstanding s.clock
  else failing c { cls := .connectionError }

/-- Packing a command. -/
def packing (words : Words) : Program F Unit := whenSome (env.pack words) raise

/-- `_connect`. -/
def dial : Program F Unit := do
  wait fun _ => true
  modify fun s => (opened c s).tick
  let s ← look
  whenSome (env.spoils s.clock) raise

/-- What an exception of `_connect` becomes. -/
def dialError (e : Exc) : Exc :=
  if !e.isinstance .osError && e.isinstance .exception then { cls := .connectionError } else socketError e

/-- `connect_check_health` without its test. -/
def connectIfClosed (program : Program F Unit) :
    Program F Unit := do
  let s ← look
  whenever ((s.wires c).connected = false) program

section Reconnecting

variable (reconnect : Program F Unit)

/-- `send_command`, without a health check. -/
def sendCommand (words : Words) : Program F Unit := do
  packing env words
  connectIfClosed c reconnect
  transmit i c words false

/-- `send_command` and `read_response`. -/
def exchange (words : Words) : Program F (PyVal F) := do
  sendCommand env i c reconnect words
  readResponse env i c

/-- A reply that must have a text. -/
def expect (text : String) (refused : ExcClass) (response : PyVal F) :
    Program F Unit :=
  whenever (response.isText text = false) (raise { cls := refused })

/-- `_send_ping`. -/
def sendPing : Program F Unit := do
  let response ← exchange env i c reconnect ["PING".toList]
  expect "PONG" .connectionError response

/-- `check_health`. -/
def checkHealth : Program F Unit := do
  modify tick
  let s ← look
  whenever ((config.healthChecks && env.due s.clock) = true)
    (config.retry.callWithRetryAsync env.backsOff (fun _ => disconnect c) (sendPing env i c reconnect)
      env.patience 0)

/-- `send_command`, with a health check. -/
def sendChecked (words : Words) (ofCall : Bool) : Program F Unit := do
  packing env words
  connectIfClosed c reconnect
  checkHealth config env i c reconnect
  transmit i c words ofCall

/-- `auth_args`. -/
def authArgs : Program F (List Text) :=
  match config.credentials with
  | none => pure []
  | some (.ok args) => do
    wait fun _ => true
    pure args
  | some (.error e) => raise e

/-- `HELLO` with credentials; the protocol of the reply is looked at. -/
def hello (words : Words) : Program F Unit := do
  let response ← exchange env i c reconnect words
  match response.isProtocol3 with
  | .ok true => pure ()
  | .ok false => raise { cls := .connectionError }
  | .error e => raise e

/-- Servers before version 6 expect the password only. -/
def authAgain (args : List Text) (e : Exc) : Program F (PyVal F) :=
  if e.isinstance .authenticationWrongNumberOfArgsError then
    exchange env i c reconnect ["AUTH".toList, args.getLastD []]
  else raise e

/-- `AUTH`. -/
def auth (args : List Text) : Program F Unit := do
  sendCommand env i c reconnect ("AUTH".toList :: args)
  let response ← recover (readResponse env i c) (authAgain env i c reconnect args)
  expect "OK" .authenticationError response

/-- The part of the handshake that authenticates or chooses the protocol. -/
def greet (args : List Text) : Program F Unit :=
  if args ≠ [] ∧ config.resp3 then
    let user := if args.length = 1 then ["default".toList] else []
    hello env i c reconnect (["HELLO".toList, "3".toList, "AUTH".toList] ++ user ++ args)
  else if args ≠ [] then auth env i c reconnect args
  else if config.resp3 then do
    let _ ← exchange env i c reconnect ["HELLO".toList, "3".toList]
  else pure ()

/-- `CLIENT SETNAME`. -/
def setName (name : Text) : Program F Unit := do
  let response ← exchange env i c reconnect ["CLIENT".toList, "SETNAME".toList, name]
  expect "OK" .connectionError response

/-- `CLIENT SETINFO`. -/
def setInfo (field : String) (value : Text) : Words :=
  ["CLIENT".toList, "SETINFO".toList, field.toList, value]

/-- `SELECT`. -/
def select : Words := ["SELECT".toList, decimalText config.db]

/-- `except ResponseError: pass`. -/
def forgiving (e : Exc) : Program F Unit :=
  if e.isinstance .responseError then pure () else raise e

/-- Reading the reply to `CLIENT SETINFO`. -/
def readInfo : Program F Unit :=
  recover (do let _ ← readResponse env i c) forgiving

/-- Reading the reply to `SELECT`. -/
def readSelected : Program F Unit := do
  let response ← readResponse env i c
  expect "OK" .connectionError response

/-- `on_connect_check_health`; the commands at its end are sent before their replies are read. -/
def onConnect : Program F Unit := do
  let args ← authArgs config
  greet config env i c reconnect args
  whenSome config.clientName (setName env i c reconnect)
  whenSome config.libName fun name => sendCommand env i c reconnect (setInfo "LIB-NAME" name)
  whenSome config.libVersion fun version => sendCommand env i c reconnect (setInfo "LIB-VER" version)
  whenever (config.db ≠ 0) (sendCommand env i c reconnect (select config))
  whenSome config.libName fun _ => readInfo env i c
  whenSome config.libVersion fun _ => readInfo env i c
  whenever (config.db ≠ 0) (readSelected env i c)

/-- Cleaning up after any error in `on_connect`. -/
def cleanUp (e : Exc) : Program F Unit := do
  whenever (e.isinstance .redisError = true) (disconnect c)
  raise e

/-- `connect_check_health` where there are no streams. -/
def openSession : Program F Unit := do
  recover (config.retry.callWithRetryAsync env.backsOff (fun _ => disconnect c) (dial env c) env.patience 0)
    fun e => raise (dialError e)
  recover (onConnect config env i c reconnect) (cleanUp c)

end Reconnecting

/-- `connect_check_health(check_health=False)`; calls may be nested to a limited depth. -/
def connectCheckHealth : Nat → Program F Unit
  | 0 => connectIfClosed c (raise { cls := .runtimeError })
  | depth + 1 => connectIfClosed c (openSession config env i c (connectCheckHealth depth))

/-! ## The client -/

/-- `parse_response`, once the connection has a response or has raised. -/
def respond (call : SingleCall F) : Except Exc (PyVal F) → Program F (PyVal F)
  | .ok response => .done (call.callback response)
  | .error e => .done (if e.isinstance .responseError then call.emptyResponse.elim (.error e) .ok else .error e)

/-- `_send_command_parse_response`. -/
def sendCommandParseResponse (call : SingleCall F) : Program F (PyVal F) := do
  sendChecked config env i c (connectCheckHealth config env i c env.depth) call.words true
  handle (respond call) (readResponse env i c)

/-- `_disconnect_raise`. -/
def disconnectRaise (error : Exc) : Program F Unit := do
  disconnect c
  whenever (config.retriesOn error = false) (raise error)

/-- A command on a connection, with retries. -/
def execute (call : SingleCall F) : Program F (PyVal F) :=
  config.retry.callWithRetryAsync env.backsOff (disconnectRaise config c)
    (sendCommandParseResponse config env i c call) env.patience 0

/-- `await pool.get_connection()`; the connection it gives out is connected and nothing is unread. -/
def getConnection : Program F Nat := do
  wait fun _ => true
  let s ← look
  modify fun s => { opened s.made s with taken := s.made :: s.taken, made := s.made + 1 }
  pure s.made

/-- `await pool.release(conn)`. -/
def giveBack (c : Nat) : Program F Unit :=
  modify fun s => { s with taken := s.taken.erase c }

/-- The connection is created by the first task that holds the lock. -/
def createConnection : Program F Unit := do
  let s ← look
  whenever (s.connection = none) do
    let c ← getConnection
    modify fun s => { s with connection := some c }

/-- `initialize`. -/
def initializeClient : Coroutine Exc (Guarded (SingleClient F)) Unit := locked i createConnection

/-- `self.connection or await pool.get_connection()`. -/
def chosen : Option Nat → Coroutine Exc (Guarded (SingleClient F)) Nat
  | some c => pure c
  | none => inside getConnection

/-- The `finally` of `execute_command`. -/
def finish (c : Nat) : Coroutine Exc (Guarded (SingleClient F)) Unit := do
  release
  let s ← look
  whenever (s.resource.connection = none) (inside (giveBack c))

/-- `execute_command`. -/
def executeCommand (call : SingleCall F) : Coroutine Exc (Guarded (SingleClient F)) (PyVal F) := do
  initializeClient i
  let s ← look
  let c ← chosen s.resource.connection
  acquire i
  ensure (inside (execute config env i c call)) (finish c)

/-- `AUTH` on the only connection. -/
def reAuth (words : Words) : Program F Unit := do
  let s ← look
  whenSome s.connection fun c => do
    sendChecked config env i c (connectCheckHealth config env i c env.depth) words false
    let _ ← readResponse env i c

/-- `RegisterReAuthForSingleConnection._re_auth_async`; the event carries the connection. -/
def reAuthAsync (words : Words) : Coroutine Exc (Guarded (SingleClient F)) (PyVal F) := do
  locked i (reAuth config env i words)
  pure .none

end Calls

end SingleClient

/-- What a task does. -/
inductive SingleJob (F : Type) where
  | execute (call : SingleCall F)
  | reAuth (words : Words)

/-- Any number of tasks that share a client. -/
def SingleClient.start (config : ConnectionConfig) (env : SingleEnv F) (jobs : Nat → SingleJob F) :
    World Exc (Guarded (SingleClient F)) (PyVal F) where
  tasks i :=
    match jobs i with
    | .execute call => executeCommand config env i call
    | .reAuth words => reAuthAsync config env i words
  shared := { holder := none, resource := new }

end RedisPy

import RedisPy.Client.Connection

/-!
# The blocking client and its pipelines

`Redis.execute_command`, `Pipeline` and the pool they share. A connection is in one place
at a time: in the pool, with a pipeline, or with the call that uses it. The text that
`annotate_exception` adds to an error is left out, and so are the clients that keep one
connection to themselves, which release nothing.
-/

namespace RedisPy

open Contract

variable {F : Type}

/-- The arguments of one command and the options that the client looks at. -/
structure Command (F : Type) where
  /-- `args[0]`. -/
  name : Text
  /-- `args[1:]`. -/
  args : List Text
  /-- The encoder takes every argument. -/
  encodable : Bool
  /-- `options[EMPTY_RESPONSE]`. -/
  emptyResponse : Option (PyVal F)

namespace Command

/-- The words that are written. -/
def words (command : Command F) : Words := command.name :: command.args

/-- A command without options. -/
def plain (name : String) (args : List Text) : Command F :=
  { name := name.toList, args, encodable := true, emptyResponse := none }

/-- The name `_` under which replies inside a transaction are parsed. -/
def placeholder : Command F := plain "_" []

end Command

/-- What a client is configured with. -/
structure ClientConfig (F : Type) extends ConnectionConfig where
  /-- `response_callbacks`. -/
  responseCallbacks : Text → Option (Command F → PyVal F → Except Exc (PyVal F))

namespace PyVal

/-- `list(iter(value))`; `none` is `TypeError`. -/
def elements : PyVal F → Option (List (PyVal F))
  | .list items => some items
  | .dict items => some (items.map (·.1))
  | .bytes data => some (data.map fun byte => .int byte.toNat)
  | .str text => some (text.map fun char => .str [char])
  | _ => Option.none

/-- `bool(value)`. -/
def truthy [PyFloat F] : PyVal F → Bool
  | .none => false
  | .bool value => value
  | .int value => value != 0
  | .float value => !PyFloat.eqInt value 0
  | .bytes data => !data.isEmpty
  | .str text => !text.isEmpty
  | .list items => !items.isEmpty
  | .dict items => !items.isEmpty
  | .exc _ => true

/-- `list.insert`. -/
def insert (items : List (PyVal F)) (index : Nat) (value : PyVal F) : List (PyVal F) :=
  items.take index ++ value :: items.drop index

/-- The exception object of an error reply. -/
def errorReply : PyVal F → Option Exc
  | .exc e => if e.isinstance .responseError then some e else Option.none
  | _ => Option.none

end PyVal

/-! ## The pool -/

/-- `ConnectionPool`. -/
structure ConnectionPool where
  /-- `_available_connections`; the last one is popped. -/
  available : List Connection
  /-- `_created_connections`. -/
  createdConnections : Nat
  /-- `max_connections`. -/
  maxConnections : Nat
  /-- Every connection that was released, as it was then. -/
  released : List Connection
deriving DecidableEq

/-- A pool and the network. -/
structure Shared where
  pool : ConnectionPool
  net : Network
deriving DecidableEq

namespace ConnectionPool

/-- `_available_connections.pop()` or `make_connection()`. -/
def take (pool : ConnectionPool) : Except Exc (Connection × ConnectionPool) :=
  match pool.available.getLast? with
  | some conn => .ok (conn, { pool with available := pool.available.dropLast })
  | none =>
    if pool.createdConnections ≥ pool.maxConnections then .error { cls := .connectionError }
    else .ok (.closed, { pool with createdConnections := pool.createdConnections + 1 })

/-- `release`. -/
def release (pool : ConnectionPool) (conn : Connection) : ConnectionPool :=
  { pool with available := pool.available ++ [conn], released := pool.released ++ [conn] }

/-- `disconnect`, for the connections in the pool. -/
def disconnect (pool : ConnectionPool) : ConnectionPool :=
  { pool with available := pool.available.map fun _ => .closed }

end ConnectionPool

section Calls

variable (config : ClientConfig F) (env : Env F)

/-- Nothing may be there to be read. -/
def Link.verify : EStateM Exc Link Unit := do
  let available ← canRead config.toConnectionConfig env
  whenever available (throw { cls := .connectionError })

/-- What `get_connection` does with the connection that it took. -/
def Link.prepare : EStateM Exc Link Unit := do
  connect config.toConnectionConfig env
  recover (verify config env) fun e =>
    if e.isinstanceAny [.connectionError, .timeoutError, .osError] then do
      disconnect
      connect config.toConnectionConfig env
      verify config env
    else throw e

/-- `get_connection`. -/
def Shared.getConnection : EStateM Exc Shared Connection := fun s =>
  match s.pool.take with
  | .error e => .error e s
  | .ok (conn, pool) =>
    match Link.prepare config env { conn, net := s.net } with
    | .ok _ link => .ok link.conn { pool, net := link.net }
    | .error e link => .error e { pool := pool.release link.conn, net := link.net }

/-- `send_command`. -/
def Link.sendCommand (command : Command F) : EStateM Exc Link Unit :=
  if command.encodable then send config.toConnectionConfig env (.command command.words)
  else throw { cls := .dataError }

/-- `parse_response`: an error reply may stand for a value, and other replies go through the
response callback. -/
def Link.parseResponse (command : Command F) : EStateM Exc Link (PyVal F) := fun s =>
  match readResponse env s with
  | .error e t =>
    match command.emptyResponse with
    | some value => if e.isinstance .responseError then .ok value t else .error e t
    | none => .error e t
  | .ok response t =>
    match config.responseCallbacks command.name with
    | none => .ok response t
    | some callback =>
      match callback command response with
      | .ok value => .ok value t
      | .error e => .error e t

/-- `_disconnect_raise`. -/
def Link.disconnectRaise (error : Exc) : EStateM Exc Link Unit := do
  disconnect
  whenever (!config.retriesOn error) (throw error)

/-- `Redis.execute_command` on its connection. -/
def Link.executeCommand (command : Command F) : EStateM Exc Link (PyVal F) :=
  config.retry.callWithRetry
    (do
      sendCommand config env command
      parseResponse config env command)
    (disconnectRaise config) env.patience 0

/-- `Redis.execute_command`. -/
def Shared.executeCommand (command : Command F) : EStateM Exc Shared (PyVal F) := do
  let conn ← getConnection config env
  fun s =>
    match Link.executeCommand config env command { conn, net := s.net } with
    | .ok value link => .ok value { pool := s.pool.release link.conn, net := link.net }
    | .error e link => .error e { pool := s.pool.release link.conn, net := link.net }

end Calls

/-! ## Pipelines -/

/-- `Script`. -/
structure Script where
  sha : Text
  script : Text
deriving DecidableEq

/-- `Pipeline`. -/
structure Pipeline (F : Type) where
  /-- `connection`. -/
  connection : Option Connection
  /-- `command_stack`. -/
  commandStack : List (Command F)
  /-- `scripts`. -/
  scripts : List Script
  /-- `transaction`. -/
  transaction : Bool
  /-- `watching`. -/
  watching : Bool
  /-- `explicit_transaction`. -/
  explicitTransaction : Bool
  /-- The sessions on which a `WATCH` was acknowledged since the last reset. -/
  watchedOn : List Nat

/-- A new pipeline. -/
def Pipeline.new (transaction : Bool) : Pipeline F where
  connection := none
  commandStack := []
  scripts := []
  transaction
  watching := false
  explicitTransaction := false
  watchedOn := []

/-- A pipeline with the pool that it uses. -/
structure Holder (F : Type) where
  pipe : Pipeline F
  shared : Shared

namespace Holder

/-- Run a program on the connection of the pipeline. -/
def onConnection {α : Type} (program : EStateM Exc Link α) : EStateM Exc (Holder F) α := fun s =>
  match s.pipe.connection with
  | none => .error { cls := .attributeError } s
  | some conn =>
    match program { conn, net := s.shared.net } with
    | .ok value link =>
      .ok value { s with pipe.connection := some link.conn, shared.net := link.net }
    | .error e link =>
      .error e { s with pipe.connection := some link.conn, shared.net := link.net }

/-- Forget the commands. -/
def clearStack (s : Holder F) : Holder F :=
  { s with pipe.commandStack := [], pipe.scripts := [] }

/-- The end of `reset`: not watching, and the connection goes back to the pool. -/
def letGo (s : Holder F) : Holder F :=
  let shared :=
    match s.pipe.connection with
    | some conn => { s.shared with pool := s.shared.pool.release conn }
    | none => s.shared
  { shared
    pipe := { s.pipe with
      watching := false, explicitTransaction := false, watchedOn := [], connection := none } }

/-- `UNWATCH_COMMANDS`. -/
def unwatchCommands : List Text := ["DISCARD".toList, "EXEC".toList, "UNWATCH".toList]

/-- The effect of a parsed reply on `watching`. -/
def noteReply (command : Command F) (s : Holder F) : Holder F :=
  if command.name ∈ unwatchCommands then { s with pipe.watching := false }
  else if command.name = "WATCH".toList then
    let session := s.pipe.connection.bind (·.sock)
    { s with pipe.watching := true, pipe.watchedOn := s.pipe.watchedOn ++ session.toList }
  else s

section Calls

variable (config : ClientConfig F) (env : Env F)

/-- `self.connection`, after getting one where there is none. -/
def holdConnection : EStateM Exc (Holder F) Unit := fun s =>
  match s.pipe.connection with
  | some _ => .ok () s
  | none =>
    match s.shared.getConnection config env with
    | .ok conn shared => .ok () { pipe := { s.pipe with connection := some conn }, shared }
    | .error e shared => .error e { s with shared }

/-- `parse_response`. -/
def parseResponse (command : Command F) : EStateM Exc (Holder F) (PyVal F) := do
  let response ← onConnection (Link.parseResponse config env command)
  modify (noteReply command)
  pure response

/-- The `UNWATCH` of `reset`; a lost connection watches nothing. -/
def sendUnwatch : EStateM Exc Link Unit :=
  recover (do
    Link.send config.toConnectionConfig env (.command ["UNWATCH".toList])
    let _ ← Link.readResponse env) fun e =>
      if e.isinstance .connectionError then Link.disconnect else throw e

/-- `reset`. -/
def reset : EStateM Exc (Holder F) Unit := do
  modify clearStack
  let s ← get
  whenever (s.pipe.watching && s.pipe.connection.isSome) (onConnection (sendUnwatch config env))
  modify letGo

/-- `_disconnect_reset_raise`. -/
def disconnectResetRaise (error : Exc) : EStateM Exc (Holder F) Unit := do
  onConnection Link.disconnect
  let s ← get
  if s.pipe.watching then do
    reset config env
    throw { cls := .watchError }
  else
    whenever (!config.retriesOn error) do
      reset config env
      throw error

/-- `immediate_execute_command`. -/
def immediateExecuteCommand (command : Command F) : EStateM Exc (Holder F) (PyVal F) := do
  holdConnection config env
  config.retry.callWithRetry
    (do
      onConnection (Link.sendCommand config env command)
      parseResponse config env command)
    (disconnectResetRaise config env) env.patience 0

/-- `execute_command`: a command is executed at once while watching and before `MULTI`. -/
def executeCommand (command : Command F) : EStateM Exc (Holder F) Unit := do
  let s ← get
  if (s.pipe.watching || command.name = "WATCH".toList) && !s.pipe.explicitTransaction then do
    let _ ← immediateExecuteCommand config env command
  else modify fun s => { s with pipe.commandStack := s.pipe.commandStack ++ [command] }

/-- `multi`. -/
def multi : EStateM Exc (Holder F) Unit := do
  let s ← get
  if s.pipe.explicitTransaction || !s.pipe.commandStack.isEmpty then throw { cls := .redisError }
  else modify fun s => { s with pipe.explicitTransaction := true }

/-- `watch`. -/
def watch (names : List Text) : EStateM Exc (Holder F) Unit := do
  let s ← get
  if s.pipe.explicitTransaction then throw { cls := .redisError }
  else executeCommand config env (.plain "WATCH" names)

/-- `unwatch`. -/
def unwatch : EStateM Exc (Holder F) Unit := do
  let s ← get
  whenever s.pipe.watching (executeCommand config env (.plain "UNWATCH" []))

/-- The error that `raise_first_error` raises. -/
def firstError (response : List (PyVal F)) : Option Exc := response.findSome? PyVal.errorReply

/-- Parse one reply inside a transaction; an error reply is kept for the result. -/
def readQueuedReply (i : Nat) : EStateM Exc (Holder F) (List (Nat × PyVal F)) :=
  recover (do
    let _ ← parseResponse config env .placeholder
    pure []) fun e => if e.isinstance .responseError then pure [(i, .exc e)] else throw e

/-- The replies to the commands of a transaction up to `EXEC`: where something else than
`QUEUED` belongs in the result. -/
def readQueued : Nat → List (Command F) → EStateM Exc (Holder F) (List (Nat × PyVal F))
  | _, [] => pure []
  | i, command :: commands =>
    match command.emptyResponse with
    | some value => do
      let others ← readQueued (i + 1) commands
      pure ((i, value) :: others)
    | none => do
      let own ← readQueuedReply config env i
      let others ← readQueued (i + 1) commands
      pure (own ++ others)

/-- The response callback of one command, run by hand; exceptions stay what they are. -/
def applyCallback (command : Command F) (reply : PyVal F) : Except Exc (PyVal F) :=
  match reply, config.responseCallbacks command.name with
  | .exc e, _ => .ok (.exc e)
  | reply, none => .ok reply
  | reply, some callback => callback command reply

/-- The response callbacks of a transaction. -/
def applyCallbacks : List (Command F) → List (PyVal F) → Except Exc (List (PyVal F))
  | command :: commands, reply :: replies => do
    let value ← applyCallback config command reply
    let values ← applyCallbacks commands replies
    pure (value :: values)
  | _, _ => pure []

/-- `raise errors[0][1]`, or the error of `EXEC` itself. -/
def abortError (errors : List (Nat × PyVal F)) (e : Exc) : Exc :=
  match errors with
  | [] => e
  | (_, .exc first) :: _ => first
  | _ => { cls := .typeError }

/-- The reply to `EXEC` as a list, with the replies that are not part of it put in. -/
def resultItems (errors : List (Nat × PyVal F)) (response : PyVal F) :
    Except Exc (List (PyVal F)) :=
  match response, errors with
  | .none, _ => .error { cls := .watchError }
  | .list items, errors =>
    .ok (errors.foldl (fun items error => PyVal.insert items error.1 error.2) items)
  | _, _ :: _ => .error { cls := .attributeError }
  | response, [] =>
    match response.elements with
    | some items => .ok items
    | none => .error { cls := .typeError }

/-- The values of a transaction: the first error is raised, or every reply goes through its
response callback. -/
def resultValues (commands : List (Command F)) (raiseOnError : Bool) (items : List (PyVal F)) :
    Except Exc (List (PyVal F)) :=
  match if raiseOnError then firstError items else none with
  | some e => .error e
  | none => applyCallbacks config commands items

/-- What `_execute_transaction` makes of the reply to `EXEC`. -/
def finishTransaction (commands : List (Command F)) (raiseOnError : Bool)
    (errors : List (Nat × PyVal F)) (response : PyVal F) :
    EStateM Exc (Holder F) (List (PyVal F)) :=
  match resultItems errors response with
  | .error e => throw e
  | .ok items =>
    if items.length ≠ commands.length then do
      onConnection Link.disconnect
      throw { cls := .responseError }
    else
      match resultValues config commands raiseOnError items with
      | .ok values => pure values
      | .error e => throw e

/-- Pack and send some commands as one batch. -/
def sendCommands (batch : List Words → Batch) (commands : List (Command F)) :
    EStateM Exc (Holder F) Unit :=
  if commands.all (·.encodable) then
    onConnection (Link.send config.toConnectionConfig env (batch (commands.map (·.words))))
  else throw { cls := .dataError }

/-- Parse the reply to `EXEC`; where it was aborted, the first error is the reason. -/
def readExec (errors : List (Nat × PyVal F)) : EStateM Exc (Holder F) (PyVal F) :=
  recover (parseResponse config env .placeholder) fun e =>
    if e.isinstance .execAbortError then throw (abortError errors e) else throw e

/-- `_execute_transaction`. -/
def executeTransaction (commands : List (Command F)) (raiseOnError : Bool) :
    EStateM Exc (Holder F) (List (PyVal F)) := do
  sendCommands config env .transaction (commands.filter (·.emptyResponse.isNone))
  let first ← readQueuedReply config env 0
  let others ← readQueued config env 0 commands
  let response ← readExec config env (first ++ others)
  modify fun s => { s with pipe.watching := false }
  finishTransaction config commands raiseOnError (first ++ others) response

/-- Parse one reply of a pipeline; an error reply is part of the result. -/
def readPipelineReply (command : Command F) : EStateM Exc (Holder F) (PyVal F) :=
  recover (parseResponse config env command) fun e =>
    if e.isinstance .responseError then pure (.exc e) else throw e

/-- The replies to the commands of a pipeline. -/
def readPipeline : List (Command F) → EStateM Exc (Holder F) (List (PyVal F))
  | [] => pure []
  | command :: commands => do
    let reply ← readPipelineReply config env command
    let replies ← readPipeline commands
    pure (reply :: replies)

/-- `_execute_pipeline`. -/
def executePipeline (commands : List (Command F)) (raiseOnError : Bool) :
    EStateM Exc (Holder F) (List (PyVal F)) := do
  sendCommands config env .pipeline commands
  let response ← readPipeline config env commands
  match if raiseOnError then firstError response else none with
  | some e => throw e
  | none => pure response

/-- The scripts that the server does not know are loaded. -/
def loadMissing [PyFloat F] : List (Script × PyVal F) → EStateM Exc (Holder F) Unit
  | [] => pure ()
  | (script, known) :: others => do
    whenever (!known.truthy) do
      let _ ← immediateExecuteCommand config env (.plain "SCRIPT LOAD" [script.script])
    loadMissing others

/-- `load_scripts`. -/
def loadScripts [PyFloat F] : EStateM Exc (Holder F) Unit := do
  let s ← get
  let known ← immediateExecuteCommand config env
    (.plain "SCRIPT EXISTS" (s.pipe.scripts.map (·.sha)))
  match known.elements with
  | none => throw { cls := .typeError }
  | some flags => whenever (!flags.all PyVal.truthy) (loadMissing config env (s.pipe.scripts.zip flags))

/-- `_disconnect_raise_reset`. -/
def disconnectRaiseReset (error : Exc) : EStateM Exc (Holder F) Unit := do
  onConnection Link.disconnect
  let s ← get
  if s.pipe.watching then throw { cls := .watchError }
  else
    whenever (!config.retriesOn error) do
      reset config env
      throw error

/-- `_execute_transaction` or `_execute_pipeline`. -/
def attempt (transactional : Bool) (commands : List (Command F)) (raiseOnError : Bool) :
    EStateM Exc (Holder F) (List (PyVal F)) :=
  if transactional then executeTransaction config env commands raiseOnError
  else executePipeline config env commands raiseOnError

/-- `execute` once there is something to do and the scripts are loaded. -/
def executeStack (commands : List (Command F)) (raiseOnError : Bool) :
    EStateM Exc (Holder F) (List (PyVal F)) := do
  holdConnection config env
  let s ← get
  let transactional := s.pipe.transaction || s.pipe.explicitTransaction
  ensure
    (config.retry.callWithRetry (attempt config env transactional commands raiseOnError)
      (disconnectRaiseReset config env) env.patience 0)
    (reset config env)

/-- `execute`. -/
def execute [PyFloat F] (raiseOnError : Bool) : EStateM Exc (Holder F) (List (PyVal F)) := do
  let s ← get
  if s.pipe.commandStack.isEmpty && !s.pipe.watching then pure []
  else do
    whenever (!s.pipe.scripts.isEmpty) (loadScripts config env)
    executeStack config env s.pipe.commandStack raiseOnError

end Calls

end Holder

/-! ## Runs -/

/-- A call on a pipeline. -/
inductive PipeCall (F : Type) where
  | executeCommand (command : Command F)
  | watch (names : List Text)
  | unwatch
  | multi
  /-- A script object registers itself. -/
  | addScript (script : Script)
  | execute (raiseOnError : Bool)
  | reset

/-- A step of a run. -/
inductive Call (F : Type) where
  /-- `Redis.execute_command`. -/
  | executeCommand (command : Command F)
  /-- `ConnectionPool.disconnect`. -/
  | disconnectPool
  /-- A new pipeline takes the place of an old one that holds no connection. -/
  | newPipeline (index : Nat) (transaction : Bool)
  /-- A call on a pipeline. -/
  | pipeline (index : Nat) (call : PipeCall F)

/-- All pipelines of a client and what they share. -/
structure Clients (F : Type) where
  pipes : Nat → Pipeline F
  shared : Shared

section Runs

variable [PyFloat F] (config : ClientConfig F)

/-- The program of a call on a pipeline. -/
def PipeCall.run (env : Env F) : PipeCall F → EStateM Exc (Holder F) Unit
  | .executeCommand command => Holder.executeCommand config env command
  | .watch names => Holder.watch config env names
  | .unwatch => Holder.unwatch config env
  | .multi => Holder.multi
  | .addScript script => modify fun s => { s with pipe.scripts := s.pipe.scripts ++ [script] }
  | .execute raiseOnError => do let _ ← Holder.execute config env raiseOnError
  | .reset => Holder.reset config env

namespace Clients

/-- A pipeline and what it shares. -/
def holder (s : Clients F) (index : Nat) : Holder F := { pipe := s.pipes index, shared := s.shared }

/-- A pipeline changed, and what it shares. -/
def store (s : Clients F) (index : Nat) (holder : Holder F) : Clients F :=
  { pipes := fun other => if other = index then holder.pipe else s.pipes other
    shared := holder.shared }

/-- The clients after one step. -/
def step (s : Clients F) : Call F × Env F → Clients F
  | (.executeCommand command, env) =>
    { s with shared := stateAfter (Shared.executeCommand config env command s.shared) }
  | (.disconnectPool, _) =>
    { pipes := fun index => { s.pipes index with
        connection := (s.pipes index).connection.map fun _ => .closed }
      shared := { s.shared with pool := s.shared.pool.disconnect } }
  | (.newPipeline index transaction, _) =>
    if (s.pipes index).connection.isNone then
      s.store index { s.holder index with pipe := .new transaction }
    else s
  | (.pipeline index call, env) => s.store index (stateAfter (call.run config env (s.holder index)))

/-- A new pool, and pipelines that nobody used. -/
def start (maxConnections : Nat) : Clients F where
  pipes _ := .new true
  shared :=
    { pool := { available := [], createdConnections := 0, maxConnections, released := [] }
      net := { clock := 0, sessions := 0, log := [] } }

/-- A run of a client. -/
def run (maxConnections : Nat) (calls : List (Call F × Env F)) : Clients F :=
  calls.foldl (step config) (start maxConnections)

end Clients

end Runs

end RedisPy

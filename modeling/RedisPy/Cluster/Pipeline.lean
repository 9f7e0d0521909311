import RedisPy.Client.InStep

/-!
# The blocking cluster pipeline

`ClusterPipeline` sends the commands of its stack to their nodes in one batch for each node, reads
the replies, gives the connections back and runs the commands that failed one by one; the whole
is tried again after some errors. Where a command is routed, whether a pool gives out a
connection, what a connection does and what the cluster client makes of a single command are
surroundings of one such attempt. The text that `annotate_exception` adds is left out.
-/

namespace RedisPy

open Contract

variable {F : Type}

/-- An exception of `send_packed_command`. -/
structure SendFailure where
  /-- The exception. -/
  error : Exc
  /-- It was raised while writing, which closes the connection; before that nothing is written. -/
  wrote : Bool
deriving DecidableEq

/-- `super().execute_command` for one command. -/
structure Retrial (F : Type) where
  /-- How often the command is sent. -/
  sends : Nat
  /-- What is returned or raised. -/
  outcome : Except Exc (PyVal F)

/-- What happens around one attempt; commands are known by their position. -/
structure Surroundings (F : Type) where
  /-- `_parse_target_nodes` or `_determine_nodes`. -/
  route : Nat → Except Exc (List Text)
  /-- The exception of `get_connection`. -/
  acquire : Text → Option Exc
  /-- The exception of `nodes_manager.initialize` after that, or of choosing a default node. -/
  refresh : Option Exc
  /-- The exception of `send_packed_command`. -/
  send : Text → Option SendFailure
  /-- What the parser returns or raises for the reply to a command. -/
  reply : Nat → Except Exc (PyVal F)
  /-- The exception of a listener that hears of a release. -/
  listener : Text → Option Exc
  /-- The exception of `nodes_manager.initialize` before commands are run one by one. -/
  reinitialize : Option Exc
  /-- `super().execute_command`. -/
  retry : Nat → Retrial F

/-- What a cluster pipeline is configured with. -/
structure PipelineConfig (F : Type) extends ClientConfig F where
  /-- `cluster_response_callbacks`. -/
  clusterResponseCallbacks : Text → Option (Command F → PyVal F → Except Exc (PyVal F))
  /-- `cluster_error_retry_attempts`. -/
  clusterErrorRetryAttempts : Nat

/-- `PipelineCommand`. -/
structure PipelineCommand (F : Type) where
  /-- `args` and the options that the client looks at. -/
  command : Command F
  /-- `position`. -/
  position : Nat
  /-- `result`. -/
  result : PyVal F

/-- `NodeCommands`. -/
structure NodeCommands (F : Type) where
  /-- The name of the node, whose pool is `connection_pool`. -/
  name : Text
  /-- `connection`. -/
  connection : Connection
  /-- `commands`. -/
  commands : List (PipelineCommand F)

/-- What can be observed of an attempt. -/
inductive PipelineEvent (F : Type) where
  /-- `get_connection` gave out a connection of a node's pool. -/
  | acquired (node : Text)
  /-- A command was written. -/
  | sent (position : Nat)
  /-- The success reply of a command was read. -/
  | replied (position : Nat) (value : PyVal F)
  /-- `release` gave a connection back to a node's pool. -/
  | released (node : Text) (conn : Connection)

/-- The errors that `write` and `read` keep as results. -/
def connectionErrors : List ExcClass := [.connectionError, .timeoutError]

/-- `ClusterPipeline.ERRORS_ALLOW_RETRY`. -/
def pipelineErrorsAllowRetry : List ExcClass :=
  [.connectionError, .timeoutError, .movedError, .askError, .tryAgainError]

/-- `RedisCluster.ERRORS_ALLOW_RETRY`. -/
def clusterErrorsAllowRetry : List ExcClass := [.connectionError, .timeoutError, .clusterDownError]

/-! ## The commands of a node -/

namespace NodeCommands

/-- Some nodes are handled in order, up to the first exception. -/
def each (step : NodeCommands F → Option Exc × NodeCommands F × List (PipelineEvent F)) :
    List (NodeCommands F) → Option Exc × List (NodeCommands F) × List (PipelineEvent F)
  | [] => (none, [], [])
  | n :: nodes =>
    match step n with
    | (some e, m, events) => (some e, m :: nodes, events)
    | (none, m, events) =>
      let (stop, others, later) := each step nodes
      (stop, m :: others, events ++ later)

/-- `c.result = value` for all commands of the node. -/
def setResults (value : PyVal F) (n : NodeCommands F) : NodeCommands F :=
  { n with commands := n.commands.map fun c => { c with result := value } }

/-- The words of all commands of the node. -/
def words (n : NodeCommands F) : List Words := n.commands.map (·.command.words)

/-- The commands of the node are written. -/
def sents (n : NodeCommands F) : List (PipelineEvent F) := n.commands.map fun c => .sent c.position

/-- `write`. -/
def write (env : Surroundings F) (n : NodeCommands F) :
    Option Exc × NodeCommands F × List (PipelineEvent F) :=
  let cleared := n.setResults .none
  if n.commands.all (·.command.encodable) then
    match env.send n.name with
    | none =>
      let outstanding := n.connection.outstanding ++ n.words
      (none, { cleared with connection := { n.connection with outstanding } }, n.sents)
    | some failure =>
      let connection := if failure.wrote then .closed else n.connection
      let events := if failure.wrote then n.sents else []
      if failure.error.isinstanceAny connectionErrors then
        (none, { n.setResults (.exc failure.error) with connection }, events)
      else (some failure.error, { cleared with connection }, events)
  else (some { cls := .dataError }, cleared, [])

/-- An environment in which one reply is read. -/
def answering (reply : Except Exc (PyVal F)) : Env F where
  patience := 0
  depth := 0
  stolen _ := false
  dial _ := none
  due _ := false
  send _ _ := none
  reply _ _ := reply
  idle _ := { cls := .timeoutError }
  canRead _ := .ok false

/-- `parse_response` of the node's client, and the connection after it. -/
def parse (config : ClientConfig F) (reply : Except Exc (PyVal F)) (command : Command F)
    (conn : Connection) : Except Exc (PyVal F) × Connection :=
  let net := { clock := 0, sessions := 0, log := [] }
  match Link.parseResponse config (answering reply) command { conn, net } with
  | .ok value link => (.ok value, link.conn)
  | .error e link => (.error e, link.conn)

/-- How the reading of replies ended. -/
inductive ReadEnd where
  /-- All replies were read. -/
  | finished
  /-- The connection failed. -/
  | broken (e : Exc)
  /-- Another exception was raised. -/
  | escaped (e : Exc)

/-- Some commands after their replies were read. -/
structure Reading (F : Type) where
  /-- How it ended. -/
  ended : ReadEnd
  /-- The connection. -/
  connection : Connection
  /-- The commands. -/
  commands : List (PipelineCommand F)
  /-- What happened. -/
  events : List (PipelineEvent F)

/-- A command before some others. -/
def Reading.after (reading : Reading F) (c : PipelineCommand F) (events : List (PipelineEvent F)) :
    Reading F :=
  { reading with commands := c :: reading.commands, events := events ++ reading.events }

/-- The loop of `read`. -/
def readEach (config : ClientConfig F) (env : Surroundings F) :
    Connection → List (PipelineCommand F) → Reading F
  | conn, [] => { ended := .finished, connection := conn, commands := [], events := [] }
  | conn, c :: commands =>
    if c.result.isNone then
      match parse config (env.reply c.position) c.command conn with
      | (.ok value, after) =>
        (readEach config env after commands).after { c with result := value }
          [.replied c.position value]
      | (.error e, after) =>
        let stopped (ended : ReadEnd) : Reading F :=
          { ended, connection := after, commands := c :: commands, events := [] }
        if e.isinstanceAny connectionErrors then stopped (.broken e)
        else if e.isinstance .redisError then
          (readEach config env after commands).after { c with result := .exc e } []
        else stopped (.escaped e)
    else (readEach config env conn commands).after c []

/-- `read`; a connection that fails is the result of every command of the node. -/
def read (config : ClientConfig F) (env : Surroundings F) (n : NodeCommands F) :
    Option Exc × NodeCommands F × List (PipelineEvent F) :=
  let reading := readEach config env n.connection n.commands
  match reading.ended with
  | .finished =>
    (none, { n with connection := reading.connection, commands := reading.commands }, reading.events)
  | .broken e => (none, { n.setResults (.exc e) with connection := reading.connection }, reading.events)
  | .escaped e =>
    (some e, { n with connection := reading.connection, commands := reading.commands }, reading.events)

/-- `n.connection_pool.release(n.connection)`. -/
def release (env : Surroundings F) (n : NodeCommands F) :
    Option Exc × NodeCommands F × List (PipelineEvent F) :=
  (env.listener n.name, n, [.released n.name n.connection])

end NodeCommands

/-! ## One attempt -/

/-- The state of one attempt. -/
structure Sending (F : Type) where
  /-- `nodes`, in the order in which they were first needed. -/
  nodes : List (NodeCommands F)
  /-- What happened so far. -/
  events : List (PipelineEvent F)

namespace Sending

/-- `for n in nodes.values()`. -/
def forEach (step : NodeCommands F → Option Exc × NodeCommands F × List (PipelineEvent F)) :
    EStateM Exc (Sending F) Unit := fun s =>
  match NodeCommands.each step s.nodes with
  | (none, nodes, events) => .ok () { nodes, events := s.events ++ events }
  | (some e, nodes, events) => .error e { nodes, events := s.events ++ events }

/-- `nodes[node_name].append(c)`. -/
def place (name : Text) (c : PipelineCommand F) (nodes : List (NodeCommands F)) :
    List (NodeCommands F) :=
  nodes.map fun n => if n.name = name then { n with commands := n.commands ++ [c] } else n

/-- `node_name in nodes`. -/
def holds (name : Text) (nodes : List (NodeCommands F)) : Bool := nodes.any (·.name = name)

/-- A connection as `get_connection` gives it out: connected, and nothing was sent. -/
def ready : Connection := { sock := some 0, outstanding := [] }

/-- `nodes[node_name] = NodeCommands(..., connection)`. -/
def hold (name : Text) (s : Sending F) : Sending F where
  nodes := s.nodes ++ [{ name, connection := ready, commands := [] }]
  events := s.events ++ [.acquired name]

/-- The only node that a command is for. -/
def targetNode (env : Surroundings F) (c : PipelineCommand F) : Except Exc Text :=
  match env.route c.position with
  | .ok [name] => .ok name
  | .ok _ => .error { cls := .redisClusterException }
  | .error e => .error e

/-- What happens when a pool gives out no connection. -/
def refuse (env : Surroundings F) (e : Exc) : EStateM Exc (Sending F) Unit :=
  if e.isinstanceAny connectionErrors then do
    forEach (NodeCommands.release env)
    whenSome env.refresh throw
    throw e
  else throw e

/-- One command is put under its node. -/
def assign (env : Surroundings F) (c : PipelineCommand F) : EStateM Exc (Sending F) Unit := do
  match targetNode env c with
  | .error e => throw e
  | .ok name =>
    let s ← get
    if holds name s.nodes then modify fun s => { s with nodes := place name c s.nodes }
    else
      match env.acquire name with
      | some e => refuse env e
      | none => modify fun s => { s.hold name with nodes := place name c (s.hold name).nodes }

/-- All commands are put under their nodes. -/
def assignEach (env : Surroundings F) : List (PipelineCommand F) → EStateM Exc (Sending F) Unit
  | [] => pure ()
  | c :: commands => do
    assign env c
    assignEach env commands

/-- The batches are written and the replies read, and then the connections are released. -/
def exchange (config : ClientConfig F) (env : Surroundings F) (stack : List (PipelineCommand F)) :
    EStateM Exc (Sending F) Unit := do
  assignEach env stack
  ensure (do
    forEach (NodeCommands.write env)
    forEach (NodeCommands.read config env)) (forEach (NodeCommands.release env))

/-- The result of the command at a position. -/
def result (s : Sending F) (position : Nat) : PyVal F :=
  match (s.nodes.flatMap (·.commands)).find? (·.position = position) with
  | some c => c.result
  | none => .none

/-- `c.result = value`. -/
def setResult (position : Nat) (value : PyVal F) (s : Sending F) : Sending F :=
  { s with nodes := s.nodes.map fun n => { n with commands := n.commands.map fun c =>
      if c.position = position then { c with result := value } else c } }

/-- The result is an error after which a command may be run again. -/
def mayRetry : PyVal F → Bool
  | .exc e => e.isinstanceAny pipelineErrorsAllowRetry
  | _ => false

/-- A command is run again by itself. -/
def retryOne (env : Surroundings F) (c : PipelineCommand F) : EStateM Exc (Sending F) Unit := do
  let retrial := env.retry c.position
  modify fun s => { s with
    events := s.events ++ List.replicate retrial.sends (.sent c.position) }
  match retrial.outcome with
  | .ok value =>
    modify fun s => { s.setResult c.position value with
      events := s.events ++ [.replied c.position value] }
  | .error e =>
    if e.isinstance .redisError then modify (setResult c.position (.exc e)) else throw e

/-- The commands that failed are run again one by one. -/
def retryEach (env : Surroundings F) : List (PipelineCommand F) → EStateM Exc (Sending F) Unit
  | [] => pure ()
  | c :: commands => do
    retryOne env c
    retryEach env commands

/-- The result of a command goes through its cluster callback. -/
def respond (config : PipelineConfig F) (c : PipelineCommand F) :
    EStateM Exc (Sending F) (PyVal F) := do
  let s ← get
  match config.clusterResponseCallbacks c.command.name with
  | none => pure (s.result c.position)
  | some callback =>
    match callback c.command (s.result c.position) with
    | .error e => throw e
    | .ok value =>
      modify (setResult c.position value)
      pure value

/-- The list of all results. -/
def respondEach (config : PipelineConfig F) :
    List (PipelineCommand F) → EStateM Exc (Sending F) (List (PyVal F))
  | [] => pure []
  | c :: commands => do
    let value ← respond config c
    let values ← respondEach config commands
    pure (value :: values)

/-- The error that `raise_first_error` raises. -/
def firstRaised (values : List (PyVal F)) : Option Exc :=
  values.findSome? fun
    | .exc e => some e
    | _ => none

/-- `_send_cluster_commands` after the connections were released. -/
def finish (config : PipelineConfig F) (env : Surroundings F) (stack : List (PipelineCommand F))
    (raiseOnError allowRedirections : Bool) : EStateM Exc (Sending F) (List (PyVal F)) := do
  let s ← get
  let attempt := stack.filter fun c => mayRetry (s.result c.position)
  whenever (!attempt.isEmpty && allowRedirections) do
    whenSome env.reinitialize throw
    retryEach env attempt
  let response ← respondEach config stack
  match if raiseOnError then firstRaised response else none with
  | some e => throw e
  | none => pure response

/-- `_send_cluster_commands`. -/
def sendOnce (config : PipelineConfig F) (env : Surroundings F) (stack : List (PipelineCommand F))
    (raiseOnError allowRedirections : Bool) : EStateM Exc (Sending F) (List (PyVal F)) := do
  modify fun s => { s with nodes := [] }
  exchange config.toClientConfig env stack
  finish config env stack raiseOnError allowRedirections

/-- The loop of `send_cluster_commands`; attempts are numbered. -/
def sendRepeatedly (config : PipelineConfig F) (envs : Nat → Surroundings F)
    (stack : List (PipelineCommand F)) (raiseOnError allowRedirections : Bool) :
    Nat → Nat → EStateM Exc (Sending F) (List (PyVal F))
  | 0, number => sendOnce config (envs number) stack raiseOnError allowRedirections
  | retryAttempts + 1, number =>
    recover (sendOnce config (envs number) stack raiseOnError allowRedirections) fun e =>
      if e.isinstanceAny clusterErrorsAllowRetry then
        sendRepeatedly config envs stack raiseOnError allowRedirections retryAttempts (number + 1)
      else throw e

/-- `send_cluster_commands`. -/
def sendClusterCommands (config : PipelineConfig F) (envs : Nat → Surroundings F)
    (stack : List (PipelineCommand F)) (raiseOnError allowRedirections : Bool) :
    EStateM Exc (Sending F) (List (PyVal F)) :=
  if stack.isEmpty then pure []
  else
    sendRepeatedly config envs stack raiseOnError allowRedirections
      config.clusterErrorRetryAttempts 0

/-- The stack that `pipeline_execute_command` builds. -/
def stackOf (commands : List (Command F)) : List (PipelineCommand F) :=
  commands.zipIdx.map fun entry => { command := entry.1, position := entry.2, result := .none }

/-- `execute`. -/
def execute (config : PipelineConfig F) (envs : Nat → Surroundings F) (commands : List (Command F))
    (raiseOnError : Bool) : EStateM Exc (Sending F) (List (PyVal F)) :=
  sendClusterCommands config envs (stackOf commands) raiseOnError true

/-- Nothing was done yet. -/
def start : Sending F := { nodes := [], events := [] }

end Sending

end RedisPy

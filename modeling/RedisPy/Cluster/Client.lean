import RedisPy.Cluster.Refresh

/-!
# Cluster clients

How the blocking and the asyncio `RedisCluster` execute a command: they choose nodes, follow
redirections, and on failures drop nodes from the startup list and discover the topology
anew. The nodes and what they answer, at any time, are a world that the client only asks.
-/

namespace RedisPy

open Contract NodesManager

namespace NodesManager

/-- `startup_nodes.pop(name, None)`. -/
def popStartup (name : Text) (m : NodesManager) : NodesManager :=
  match m.startupNodes with
  | some table => { m with startupNodes := some (table.erase name) }
  | none => { m with nodesCache := m.nodesCache.erase name }

/-- `target_node.redis_connection = None`. -/
def dropConnection (ref : Nat) (m : NodesManager) : NodesManager :=
  m.modifyNode ref fun node => { node with connected := false }

/-- `random.choice`, with the number that it draws. -/
def choice (refs : List Nat) (random : Nat) : Option Nat := refs[random % refs.length]?

/-- `replace_default_node`. -/
def replaceDefaultNode (random : Nat) (m : NodesManager) : NodesManager :=
  let current := m.defaultNode.map fun ref => (m.nodes ref).name
  let others := fun serverType =>
    (m.getNodesByServerType serverType).filter fun ref => some (m.nodes ref).name ≠ current
  match choice (others .primary) random with
  | some ref => { m with defaultNode := some ref }
  | none =>
    match choice (others .replica) random with
    | some ref => { m with defaultNode := some ref }
    | none => m

end NodesManager

/-! ## Commands and the world -/

/-- What a client asks of a node. -/
inductive Exchange where
  /-- `ASKING`. -/
  | asking
  /-- The command. -/
  | command
deriving DecidableEq

/-- What happens outside of the client, by the number of questions asked before. -/
structure ClusterWorld where
  /-- The outcome of an exchange with the node at an address, retries included. -/
  exchange : Nat → Text × Int → Exchange → Except Exc Unit
  /-- `CLUSTER SLOTS`. -/
  answers : Nat → AddressAnswers
  /-- `CommandsParser.initialize`, in the asyncio class. -/
  commandTable : Nat → Except Exc Unit
  /-- The random number generator. -/
  random : Nat → Nat

/-- What does not change after construction. -/
structure ClusterOptions where
  config : ClusterConfig
  /-- `reinitialize_steps`. -/
  reinitializeSteps : Nat
  /-- `cluster_error_retry_attempts`. -/
  clusterErrorRetryAttempts : Nat
  /-- `RedisClusterRequestTTL`. -/
  requestTtl : Nat

/-- The nodes that a command goes to. -/
inductive TargetNodes where
  /-- `target_nodes` given as node objects. -/
  | given (refs : List Nat)
  | random
  | primaries
  | replicas
  | allNodes
  | defaultNode
  /-- The node of the command's slot. -/
  | slot
deriving DecidableEq

/-- A command, as far as its way to a node matters. -/
structure ClusterCommand where
  target : TargetNodes
  /-- `determine_slot(*args)`. -/
  slot : Except Exc Int
  /-- `read_from_replicas and command in READ_COMMANDS`. -/
  readFromReplicas : Bool
  /-- `load_balancing_strategy`, for a command in `READ_COMMANDS`. -/
  strategy : Option LoadBalancingStrategy

/-- What happened to the startup nodes. -/
inductive ClusterEvent where
  /-- A node was removed from the startup list, which was this one before. -/
  | removal (before : NodesManager) (name : Text)
  /-- A refresh was started with these nodes removed before it. -/
  | refresh (before : NodesManager) (answers : AddressAnswers) (removed : List Text)

/-- A client; the last three fields only keep a record. -/
structure RedisCluster where
  /-- `nodes_manager`. -/
  manager : NodesManager
  /-- `reinitialize_counter`. -/
  reinitializeCounter : Nat
  /-- `not _initialize`, in the asyncio class. -/
  initialized : Bool
  /-- The number of questions asked so far. -/
  clock : Nat
  /-- The names removed from the startup list since the last refresh. -/
  removed : List Text
  /-- The names that a refresh left neither in the topology it adopted nor, when it failed, in the
  startup list. -/
  forgotten : List Text
  /-- What happened to the startup nodes, the last first. -/
  events : List ClusterEvent

/-- Code of a client. -/
abbrev ClusterM := EStateM Exc RedisCluster

/-- `try: program except Exception as e`, with the exception as a value. -/
def caught {α : Type} (program : ClusterM α) : ClusterM (Except Exc α) := fun c =>
  match program c with
  | .ok value after => .ok (.ok value) after
  | .error e after => .ok (.error e) after

namespace RedisCluster

/-- Change the manager. -/
def modifyManager (change : NodesManager → NodesManager) : ClusterM Unit :=
  modify fun c => { c with manager := change c.manager }

/-- Code of the manager. -/
def onManager {α : Type} (program : EStateM Exc NodesManager α) : ClusterM α := fun c =>
  match program c.manager with
  | .ok value manager => .ok value { c with manager }
  | .error e manager => .error e { c with manager }

/-- Ask the world. -/
def ask {α : Type} (question : Nat → α) : ClusterM α := fun c =>
  .ok (question c.clock) { c with clock := c.clock + 1 }

/-- The result of a question that may have failed. -/
def settled {α : Type} : Except Exc α → ClusterM α
  | .ok value => pure value
  | .error e => throw e

/-- The record after a refresh. -/
def settleRemoved (known : Text → Bool) (c : RedisCluster) : RedisCluster :=
  { c with removed := [], forgotten := c.removed.filter (fun name => !known name) ++ c.forgotten }

/-- `nodes_manager.initialize()`. -/
def refresh (world : ClusterWorld) (options : ClusterOptions) : ClusterM Unit := fun c =>
  let answers := world.answers c.clock
  let asked := { c with
    clock := c.clock + 1
    events := .refresh c.manager answers c.removed :: c.events }
  match c.manager.initializeNodes options.config answers.byNode with
  | .ok _ manager =>
    .ok () ({ asked with manager }.settleRemoved fun name => manager.nodesCache.contains name)
  | .error e manager =>
    .error e ({ asked with manager }.settleRemoved fun name => manager.startupTable.contains name)

/-- `self.nodes_manager.startup_nodes.pop(target_node.name, None)`. -/
def removeStartup (ref : Nat) : ClusterM Unit := modify fun c =>
  let name := (c.manager.nodes ref).name
  if c.manager.startupTable.contains name then
    { c with
      manager := c.manager.popStartup name
      removed := name :: c.removed
      events := .removal c.manager name :: c.events }
  else { c with manager := c.manager.popStartup name }

/-- What a command asks for in its slot. -/
def lookupOf (command : ClusterCommand) (slot : Int) (random : Nat) : Lookup where
  slot := slot
  readFromReplicas := command.readFromReplicas
  strategy := command.strategy
  serverType := none
  random := random

/-- `get_node_from_slot` for a command. -/
def nodeFromSlot (world : ClusterWorld) (options : ClusterOptions) (command : ClusterCommand)
    (slot : Int) : ClusterM Nat := do
  let random ← ask world.random
  onManager fun m => m.getNodeFromSlot options.config (lookupOf command slot random)

/-- The list of the one node that was found. -/
def oneNode : Option Nat → ClusterM (List (Option Nat))
  | some ref => pure [some ref]
  | none => throw { cls := .indexError }

/-- `_determine_nodes`; a default node may be missing. -/
def determineNodes (world : ClusterWorld) (options : ClusterOptions) (command : ClusterCommand) :
    ClusterM (List (Option Nat)) := do
  let c ← get
  match command.target with
  | .given refs => pure (refs.map some)
  | .random => do
    let random ← ask world.random
    oneNode (NodesManager.choice (c.manager.nodesCache.map (·.2)) random)
  | .primaries => pure ((c.manager.getNodesByServerType .primary).map some)
  | .replicas => pure ((c.manager.getNodesByServerType .replica).map some)
  | .allNodes => pure (c.manager.nodesCache.map fun item => some item.2)
  | .defaultNode => pure [c.manager.defaultNode]
  | .slot => do
    let slot ← settled command.slot
    let ref ← nodeFromSlot world options command slot
    pure [some ref]

/-! ## One node -/

/-- The locals of `_execute_command`. -/
structure Routing where
  /-- `target_node`. -/
  target : Option Nat
  /-- `redirect_addr`, while `asking`. -/
  asking : Option Text
  /-- `moved`. -/
  moved : Bool

/-- The target of the next attempt. -/
def locate (world : ClusterWorld) (options : ClusterOptions) (command : ClusterCommand)
    (routing : Routing) : ClusterM Routing := do
  let c ← get
  match routing.asking, routing.moved with
  | some address, _ => pure { routing with target := c.manager.nodesCache.get address }
  | none, true => do
    let slot ← settled command.slot
    let ref ← nodeFromSlot world options command slot
    pure { routing with target := some ref, moved := false }
  | none, false => pure routing

/-- An exchange with a node. -/
def exchangeWith (world : ClusterWorld) (ref : Nat) (exchange : Exchange) : ClusterM Unit := do
  let c ← get
  let node := c.manager.nodes ref
  let outcome ← ask fun n => world.exchange n (node.host, node.port) exchange
  settled outcome

/-- `ASKING` where it is due, and the command; `get_redis_connection` first connects the node in
the blocking class. -/
def contact (world : ClusterWorld) (options : ClusterOptions) (ref : Nat) (routing : Routing) :
    ClusterM (Routing × Except Exc Unit) := do
  whenever (options.config.flavor = .sync)
    (modifyManager fun m => m.createRedisConnections [ref])
  match routing.asking with
  | none => do
    let outcome ← caught (exchangeWith world ref .command)
    pure (routing, outcome)
  | some _ => do
    let asked ← caught (exchangeWith world ref .asking)
    match asked with
    | .error e => pure (routing, .error e)
    | .ok _ => do
      let outcome ← caught (exchangeWith world ref .command)
      pure ({ routing with asking := none }, outcome)

/-- The body of the `try` statement; a missing node has no attributes. -/
def attempt (world : ClusterWorld) (options : ClusterOptions) (command : ClusterCommand)
    (routing : Routing) : ClusterM (Routing × Except Exc Unit) := do
  let located ← caught (locate world options command routing)
  match located with
  | .error e => pure (routing, .error e)
  | .ok routing =>
    match routing.target with
    | some ref => contact world options ref routing
    | none => pure (routing, .error { cls := .attributeError })

/-- A `MovedError`: the redirection is noted, and every so often the topology is discovered anew. -/
def noteMoved (options : ClusterOptions) (discover : ClusterM Unit) (e : Exc) : ClusterM Unit := do
  modify fun c => { c with reinitializeCounter := c.reinitializeCounter + 1 }
  let c ← get
  if options.reinitializeSteps ≠ 0 ∧ c.reinitializeCounter % options.reinitializeSteps = 0 then do
    discover
    modify fun c => { c with reinitializeCounter := 0 }
  else whenSome e.redirect fun redirect => modifyManager (·.updateMovedException redirect)

/-- The address that an `AskError` names. -/
def askedAddress (e : Exc) : Option Text :=
  e.redirect.map fun redirect => getNodeName redirect.host redirect.port

/-- The failed node is removed from the startup list. -/
def removeTarget (routing : Routing) : ClusterM Unit := whenSome routing.target removeStartup

/-- The handlers of the blocking class. -/
def recoverSync (world : ClusterWorld) (options : ClusterOptions) (routing : Routing) (e : Exc) :
    ClusterM Routing :=
  if e.isinstance .authenticationError then throw e
  else if e.isinstanceAny [.connectionError, .timeoutError] then do
    removeTarget routing
    whenSome routing.target fun ref => modifyManager (·.dropConnection ref)
    refresh world options
    throw e
  else if e.isinstance .movedError then do
    noteMoved options (refresh world options) e
    pure { routing with moved := true }
  else if e.isinstance .tryAgainError then pure routing
  else if e.isinstance .askError then pure { routing with asking := askedAddress e }
  else if e.isinstance .clusterDownError then do
    refresh world options
    throw e
  else throw e

/-- `aclose`: the next command initializes the client again. -/
def aclose : ClusterM Unit := modify fun c =>
  if c.initialized then
    { c with initialized := false, manager := { c.manager with defaultNode := none } }
  else c

/-- The handlers of the asyncio class. -/
def recoverAsync (options : ClusterOptions) (routing : Routing) (e : Exc) : ClusterM Routing :=
  if e.isinstanceAny [.busyLoadingError, .maxConnectionsError] then throw e
  else if e.isinstanceAny [.connectionError, .timeoutError] then do
    removeTarget routing
    aclose
    throw e
  else if e.isinstance .clusterDownError then do
    aclose
    throw e
  else if e.isinstance .movedError then do
    noteMoved options aclose e
    pure { routing with moved := true }
  else if e.isinstance .askError then pure { routing with asking := askedAddress e }
  else if e.isinstance .tryAgainError then pure routing
  else throw e

/-- The handlers of either class. -/
def recoverFrom (world : ClusterWorld) (options : ClusterOptions) (routing : Routing) (e : Exc) :
    ClusterM Routing :=
  match options.config.flavor with
  | .sync => recoverSync world options routing e
  | .async => recoverAsync options routing e

/-- The loop of `_execute_command`. -/
def attempts (world : ClusterWorld) (options : ClusterOptions) (command : ClusterCommand) :
    Nat → Routing → ClusterM Unit
  | 0, _ => throw { cls := .clusterError, args := ["TTL exhausted.".toList] }
  | ttl + 1, routing => do
    let (routing, outcome) ← attempt world options command routing
    match outcome with
    | .ok _ => pure ()
    | .error e => do
      let routing ← recoverFrom world options routing e
      attempts world options command ttl routing

/-- `_execute_command`. -/
def executeOn (world : ClusterWorld) (options : ClusterOptions) (command : ClusterCommand)
    (target : Option Nat) : ClusterM Unit :=
  attempts world options command options.requestTtl { target, asking := none, moved := false }

/-! ## All nodes of a command -/

/-- `ERRORS_ALLOW_RETRY`. -/
def errorsAllowRetry : List ExcClass := [.connectionError, .timeoutError, .clusterDownError]

/-- The blocking class asks one node after the other, up to the first exception. -/
def executeEach (world : ClusterWorld) (options : ClusterOptions) (command : ClusterCommand) :
    List (Option Nat) → ClusterM Unit
  | [] => pure ()
  | target :: targets => do
    executeOn world options command target
    executeEach world options command targets

/-- The asyncio class asks all nodes, and raises the first exception there was. -/
def executeAll (world : ClusterWorld) (options : ClusterOptions) (command : ClusterCommand) :
    List (Option Nat) → Except Exc Unit → ClusterM Unit
  | [], outcome => settled outcome
  | target :: targets, outcome => do
    let one ← caught (executeOn world options command target)
    executeAll world options command targets (outcome.bind fun _ => one)

/-- The names of nodes that may be missing are equal. -/
def sameNode (c : RedisCluster) (left right : Option Nat) : Bool :=
  left.map (fun ref => (c.manager.nodes ref).name) = right.map fun ref => (c.manager.nodes ref).name

/-- The command goes to the default node alone. -/
def onlyDefault (c : RedisCluster) : List (Option Nat) → Bool
  | [target] => c.sameNode target c.manager.defaultNode
  | _ => false

/-- `replace_default_node()`. -/
def replaceDefault (world : ClusterWorld) : ClusterM Unit := do
  let random ← ask world.random
  modifyManager (·.replaceDefaultNode random)

/-- The nodes of a command, which must have some unless they were given. -/
def findTargets (world : ClusterWorld) (options : ClusterOptions) (command : ClusterCommand) :
    ClusterM (List (Option Nat)) := do
  let targets ← determineNodes world options command
  match command.target, targets with
  | .given _, _ => pure targets
  | _, [] => throw { cls := .redisClusterException }
  | _, _ :: _ => pure targets

/-- Node objects were passed. -/
def TargetNodes.specified : TargetNodes → Bool
  | .given _ => true
  | _ => false

/-- The body of the blocking class's `try` statement; `isDefault` is `is_default_node`. -/
def trySync (world : ClusterWorld) (options : ClusterOptions) (command : ClusterCommand)
    (isDefault : Bool) : ClusterM (Bool × Except Exc Unit) := do
  let found ← caught (findTargets world options command)
  match found with
  | .error e => pure (isDefault, .error e)
  | .ok targets => do
    let c ← get
    let isDefault := isDefault || (!TargetNodes.specified command.target && c.onlyDefault targets)
    let outcome ← caught (executeEach world options command targets)
    pure (isDefault, outcome)

/-- The loop of the blocking class, by the retries that are left. -/
def executeSync (world : ClusterWorld) (options : ClusterOptions) (command : ClusterCommand) :
    Nat → Bool → ClusterM Unit
  | 0, isDefault => do
    let (_, outcome) ← trySync world options command isDefault
    settled outcome
  | retries + 1, isDefault => do
    let (isDefault, outcome) ← trySync world options command isDefault
    match outcome with
    | .ok _ => pure ()
    | .error e =>
      if e.cls ∈ errorsAllowRetry then do
        whenever isDefault (replaceDefault world)
        executeSync world options command retries isDefault
      else throw e

/-- `initialize` of the asyncio class. -/
def initializeClient (world : ClusterWorld) (options : ClusterOptions) : ClusterM Unit := do
  let discovered ← caught do
    refresh world options
    let outcome ← ask world.commandTable
    settled outcome
  match discovered with
  | .ok _ => modify fun c => { c with initialized := true }
  | .error e => do
    modifyManager fun m => { m with defaultNode := none }
    throw e

/-- What the asyncio class does before its `try` statement. -/
def prepareAsync (world : ClusterWorld) (options : ClusterOptions) (targets : List (Option Nat)) :
    ClusterM Unit := do
  let c ← get
  whenever (c.initialized = false) do
    initializeClient world options
    let c ← get
    whenever (c.onlyDefault targets) (replaceDefault world)

/-- The body of the asyncio class's `try` statement; the nodes stay for the next attempt. -/
def tryAsync (world : ClusterWorld) (options : ClusterOptions) (command : ClusterCommand)
    (targets : List (Option Nat)) : ClusterM (List (Option Nat) × Except Exc Unit) := do
  let found ← caught (findTargets world options command)
  match found with
  | .error e => pure (targets, .error e)
  | .ok targets => do
    let outcome ← caught (executeAll world options command targets (.ok ()))
    pure (targets, outcome)

/-- The loop of the asyncio class, by the retries that are left. -/
def executeAsync (world : ClusterWorld) (options : ClusterOptions) (command : ClusterCommand) :
    Nat → List (Option Nat) → ClusterM Unit
  | 0, targets => do
    prepareAsync world options targets
    let (_, outcome) ← tryAsync world options command targets
    settled outcome
  | retries + 1, targets => do
    prepareAsync world options targets
    let (targets, outcome) ← tryAsync world options command targets
    match outcome with
    | .ok _ => pure ()
    | .error e =>
      if e.cls ∈ errorsAllowRetry then executeAsync world options command retries targets
      else throw e

/-- `retry_attempts` of a command. -/
def retriesOf (options : ClusterOptions) (command : ClusterCommand) : Nat :=
  if TargetNodes.specified command.target then 0 else options.clusterErrorRetryAttempts

/-- `execute_command`. -/
def executeCommand (world : ClusterWorld) (options : ClusterOptions) (command : ClusterCommand) :
    ClusterM Unit :=
  match options.config.flavor with
  | .sync => executeSync world options command (retriesOf options command) false
  | .async =>
    let targets :=
      match command.target with
      | .given refs => refs.map some
      | _ => []
    executeAsync world options command (retriesOf options command) targets

/-- A client before it discovers the topology. -/
def create (options : ClusterOptions) (addresses : List (Text × Int)) : RedisCluster where
  manager := empty.populateStartupNodes options.config addresses
  reinitializeCounter := 0
  initialized := false
  clock := 0
  removed := []
  forgotten := []
  events := []

/-- A client after its construction, which in the blocking class discovers the topology, and a run
of commands, each of which may raise; without a topology the blocking class has no client. -/
def run (world : ClusterWorld) (options : ClusterOptions) (addresses : List (Text × Int))
    (commands : List ClusterCommand) : RedisCluster :=
  let step c command := stateAfter (executeCommand world options command c)
  let created := create options addresses
  match options.config.flavor with
  | .async => commands.foldl step created
  | .sync =>
    match refresh world options created with
    | .ok _ constructed => commands.foldl step constructed
    | .error _ failed => failed

end RedisCluster

end RedisPy

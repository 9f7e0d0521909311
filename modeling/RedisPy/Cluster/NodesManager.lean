import RedisPy.Exceptions
import RedisPy.Python.Dict
import RedisPy.Lib.Contract

/-!
# The nodes manager of a cluster client

`NodesManager` of the blocking and of the asyncio client: nodes, the slot table, its
initialization from `CLUSTER SLOTS`, redirections and the choice of a node for a slot.

Nodes and the node lists of the slot table are Python objects that are changed in place
and shared: all slots of one range hold the same list, and a node stands in many lists
with one `server_type`. So nodes and lists live in heaps and are named by references.
Where the two classes differ, `flavor` says which one is meant.
-/

namespace RedisPy

open Contract

/-- `PRIMARY` and `REPLICA`. -/
inductive ServerType where
  | primary
  | replica
deriving DecidableEq

/-- The blocking or the asyncio class. -/
inductive Flavor where
  | sync
  | async
deriving DecidableEq

/-- `get_node_name`. -/
def getNodeName (host : Text) (port : Int) : Text := host ++ ':' :: decimalText port

/-- `ClusterNode`. -/
structure ClusterNode where
  host : Text
  port : Int
  /-- `server_type`; startup nodes have none. -/
  serverType : Option ServerType
  /-- `redis_connection is not None`, in the blocking class. -/
  connected : Bool
deriving DecidableEq

/-- `node.name`. -/
def ClusterNode.name (node : ClusterNode) : Text := getNodeName node.host node.port

/-- The host and the port can be read off a name. -/
theorem getNodeName_injective {host other : Text} {port otherPort : Int}
    (same : getNodeName host port = getNodeName other otherPort) :
    host = other ∧ port = otherPort := by
  have plain := decimalText_no_colon port
  have otherPlain := decimalText_no_colon otherPort
  unfold getNodeName at same
  rcases List.append_eq_append_iff.mp same with
    ⟨middle, hosts, ports⟩ | ⟨middle, hosts, ports⟩
  · cases middle with
    | nil =>
      rw [List.append_nil] at hosts
      exact ⟨hosts.symm, decimalText_injective (List.cons.inj ports).2⟩
    | cons head middle =>
      have colon : ':' ∈ decimalText port := by
        rw [(List.cons.inj ports).2]
        exact List.mem_append_right _ List.mem_cons_self
      exact absurd colon plain
  · cases middle with
    | nil =>
      rw [List.append_nil] at hosts
      exact ⟨hosts, (decimalText_injective (List.cons.inj ports).2).symm⟩
    | cons head middle =>
      have colon : ':' ∈ decimalText otherPort := by
        rw [(List.cons.inj ports).2]
        exact List.mem_append_right _ List.mem_cons_self
      exact absurd colon otherPlain

/-- `LoadBalancingStrategy`. -/
inductive LoadBalancingStrategy where
  | roundRobin
  | roundRobinReplicas
  | randomReplica
deriving DecidableEq

/-- `LoadBalancer`. -/
structure LoadBalancer where
  /-- `primary_to_idx`. -/
  primaryToIdx : Dict Text Nat
  /-- `start_index`. -/
  startIndex : Nat
deriving DecidableEq

namespace LoadBalancer

/-- `_get_round_robin_index`. -/
def getRoundRobinIndex (lb : LoadBalancer) (primary : Text) (listSize : Nat)
    (replicasOnly : Bool) : Nat × LoadBalancer :=
  let stored := (lb.primaryToIdx.get primary).getD lb.startIndex
  let serverIndex := if replicasOnly && stored == 0 then 1 else stored
  (serverIndex,
    { lb with primaryToIdx := lb.primaryToIdx.set primary ((serverIndex + 1) % listSize) })

/-- `get_server_index`; `random` is what `random.randint(1, list_size - 1)` returns. -/
def getServerIndex (lb : LoadBalancer) (random : Nat) (primary : Text) (listSize : Nat)
    (strategy : LoadBalancingStrategy) : Nat × LoadBalancer :=
  match strategy with
  | .randomReplica => (random, lb)
  | .roundRobin => lb.getRoundRobinIndex primary listSize false
  | .roundRobinReplicas => lb.getRoundRobinIndex primary listSize true

/-- `reset`. -/
def reset (lb : LoadBalancer) : LoadBalancer := { lb with primaryToIdx := [] }

end LoadBalancer

/-- `NodesManager` with the heaps of nodes and of lists. -/
structure NodesManager where
  /-- Node objects by reference. -/
  nodes : Nat → ClusterNode
  /-- The next free node reference. -/
  nodeCount : Nat
  /-- List objects by reference. -/
  lists : Nat → List Nat
  /-- The next free list reference. -/
  listCount : Nat
  /-- `slots_cache`. -/
  slotsCache : Dict Int Nat
  /-- `nodes_cache`. -/
  nodesCache : Dict Text Nat
  /-- `startup_nodes`; `none` says that it is the dictionary `nodes_cache` itself. -/
  startupNodes : Option (Dict Text Nat)
  /-- `default_node`. -/
  defaultNode : Option Nat
  /-- `_moved_exception`. -/
  movedException : Option Redirect
  /-- `read_load_balancer`. -/
  readLoadBalancer : LoadBalancer

/-- What does not change after construction. -/
structure ClusterConfig where
  flavor : Flavor
  /-- `socket.gethostbyname("localhost")`. -/
  localhost : Text
  /-- `require_full_coverage`. -/
  requireFullCoverage : Bool
  /-- `_dynamic_startup_nodes`, in the blocking class. -/
  dynamicStartupNodes : Bool
  /-- `remap_host_port`. -/
  remap : Text × Int → Text × Int

/-- The host that a node or a lookup with this host uses. -/
def ClusterConfig.resolve (config : ClusterConfig) (host : Text) : Text :=
  if host = "localhost".toList then config.localhost else host

namespace NodesManager

/-- `list(map(name, nodes))`. -/
def names (m : NodesManager) (refs : List Nat) : List Text := refs.map fun ref => (m.nodes ref).name

/-- The node list of a slot, where the slot has one. -/
def slotNodes (m : NodesManager) (slot : Int) : Option (List Nat) :=
  (m.slotsCache.get slot).map m.lists

/-- Change one node object. -/
def modifyNode (m : NodesManager) (ref : Nat) (change : ClusterNode → ClusterNode) : NodesManager :=
  { m with nodes := fun other => if other = ref then change (m.nodes ref) else m.nodes other }

/-- `node.server_type = serverType`. -/
def setServerType (m : NodesManager) (ref : Nat) (serverType : ServerType) : NodesManager :=
  m.modifyNode ref fun node => { node with serverType := some serverType }

/-- `ClusterNode(host, port, serverType)`. -/
def newNode (config : ClusterConfig) (host : Text) (port : Int) (serverType : Option ServerType)
    (m : NodesManager) : Nat × NodesManager :=
  let node := { host := config.resolve host, port, serverType, connected := false }
  (m.nodeCount, { m with
    nodes := fun other => if other = m.nodeCount then node else m.nodes other
    nodeCount := m.nodeCount + 1 })

/-- A new list object. -/
def newList (members : List Nat) (m : NodesManager) : Nat × NodesManager :=
  (m.listCount, { m with
    lists := fun other => if other = m.listCount then members else m.lists other
    listCount := m.listCount + 1 })

/-- `self.nodes_cache[node.name] = node`. -/
def register (m : NodesManager) (ref : Nat) : NodesManager :=
  { m with nodesCache := m.nodesCache.set (m.nodes ref).name ref }

/-- Replace the contents of a list object. -/
def setList (m : NodesManager) (ref : Nat) (members : List Nat) : NodesManager :=
  { m with lists := fun other => if other = ref then members else m.lists other }

/-- `get_node(host=host, port=port)`. -/
def getNode (config : ClusterConfig) (host : Text) (port : Int) (m : NodesManager) :
    Except Exc (Option Nat) :=
  if host ≠ [] ∧ port ≠ 0 then .ok (m.nodesCache.get (getNodeName (config.resolve host) port))
  else
    match config.flavor with
    | .sync => .ok none
    | .async => .error { cls := .dataError }

/-- `update_moved_exception`. -/
def updateMovedException (e : Redirect) (m : NodesManager) : NodesManager :=
  { m with movedException := some e }

/-- `get_node` or a new node in `nodes_cache`, as a primary. -/
def redirectedNode (config : ClusterConfig) (e : Redirect) (m : NodesManager) :
    Except Exc (Nat × NodesManager) :=
  match m.getNode config e.host e.port with
  | .error raised => .error raised
  | .ok (some ref) => .ok (ref, m.setServerType ref .primary)
  | .ok none =>
    let (ref, grown) := m.newNode config e.host e.port (some .primary)
    .ok (ref, grown.register ref)

/-- `_update_moved_slots`, with an exception to apply. -/
def updateMovedSlots (config : ClusterConfig) (e : Redirect) (m : NodesManager) :
    EStateM.Result Exc NodesManager Unit :=
  match m.redirectedNode config e with
  | .error raised => .error raised m
  | .ok (redirected, m) =>
    match m.slotsCache.get e.slotId with
    | none => .error { cls := .keyError } m
    | some list =>
      let isRedirected ref := (m.nodes ref).name == (m.nodes redirected).name
      let members := m.lists list
      if members.any isRedirected then
        match members with
        | [] => .error { cls := .indexError } m
        | oldPrimary :: _ =>
          -- append the old primary, remove the redirected node, override the front
          let removed := (members ++ [oldPrimary]).eraseP isRedirected
          let moved := (m.setServerType oldPrimary .replica).setList list (removed.set 0 redirected)
          let isDefault := moved.defaultNode.any fun ref =>
            (moved.nodes ref).name == (moved.nodes oldPrimary).name
          .ok () { moved with
            defaultNode := if isDefault then some redirected else moved.defaultNode
            movedException := none }
      else
        let (fresh, grown) := m.newList [redirected]
        .ok () { grown with
          slotsCache := grown.slotsCache.set e.slotId fresh
          movedException := none }

/-- The arguments of `get_node_from_slot`, and the random number it may draw. -/
structure Lookup where
  slot : Int
  readFromReplicas : Bool
  strategy : Option LoadBalancingStrategy
  /-- `server_type`, in the blocking class. -/
  serverType : Option ServerType
  /-- What `random.randint` returns. -/
  random : Nat

/-- `get_node_from_slot` once no redirection is pending. -/
def chooseNode (config : ClusterConfig) (lookup : Lookup) (m : NodesManager) :
    EStateM.Result Exc NodesManager Nat :=
  let strategy :=
    if lookup.readFromReplicas && lookup.strategy.isNone then some .roundRobin else lookup.strategy
  let uncovered : Exc := { cls := .slotNotCoveredError }
  match config.flavor, m.slotNodes lookup.slot with
  | .sync, none => .error uncovered m
  | .async, none => .error { cls := .keyError } m
  | _, some [] => .error uncovered m
  | .sync, some (primary :: replicas) =>
    let members := primary :: replicas
    let (index, lb) :=
      match strategy with
      | some strategy =>
        if members.length > 1 then
          m.readLoadBalancer.getServerIndex lookup.random (m.nodes primary).name members.length
            strategy
        else (0, m.readLoadBalancer)
      | none =>
        if lookup.serverType = some ServerType.replica ∧ members.length ≠ 1 then
          (lookup.random, m.readLoadBalancer)
        else (0, m.readLoadBalancer)
    match members[index]? with
    | some ref => .ok ref { m with readLoadBalancer := lb }
    | none => .error { cls := .indexError } { m with readLoadBalancer := lb }
  | .async, some (primary :: replicas) =>
    let members := primary :: replicas
    let (index, lb) :=
      match strategy with
      | some strategy =>
        if members.length > 1 then
          m.readLoadBalancer.getServerIndex lookup.random (m.nodes primary).name members.length
            strategy
        else (0, m.readLoadBalancer)
      | none => (0, m.readLoadBalancer)
    match members[index]? with
    | some ref => .ok ref { m with readLoadBalancer := lb }
    | none => .error uncovered { m with readLoadBalancer := lb }

/-- `get_node_from_slot`: a pending redirection is applied first. -/
def getNodeFromSlot (config : ClusterConfig) (lookup : Lookup) (m : NodesManager) :
    EStateM.Result Exc NodesManager Nat :=
  match m.movedException with
  | some e =>
    match m.updateMovedSlots config e with
    | .ok _ updated => updated.chooseNode config lookup
    | .error raised updated => .error raised updated
  | none => m.chooseNode config lookup

/-- `get_nodes_by_server_type`. -/
def getNodesByServerType (m : NodesManager) (serverType : ServerType) : List Nat :=
  (m.nodesCache.map (·.2)).filter fun ref => (m.nodes ref).serverType == some serverType

end NodesManager

/-! ## Initialization -/

/-- One section of `CLUSTER SLOTS`. -/
structure SlotSection where
  first : Int
  last : Int
  /-- Host and port of the primary. -/
  primary : Text × Int
  /-- Hosts and ports of the replicas. -/
  replicas : List (Text × Int)

/-- The slots of a section. -/
def SlotSection.slots (sect : SlotSection) : List Int :=
  (List.range (sect.last + 1 - sect.first).toNat).map fun i => sect.first + i

/-- The local variables of `initialize` while it reads answers. -/
structure Discovery where
  /-- The manager whose heaps grow. -/
  manager : NodesManager
  /-- `tmp_nodes_cache`. -/
  tmpNodes : Dict Text Nat
  /-- `tmp_slots`. -/
  tmpSlots : Dict Int Nat
  /-- `len(disagreements)`. -/
  disagreements : Nat

namespace Discovery

/-- Nothing read yet. -/
def begin (manager : NodesManager) : Discovery :=
  { manager, tmpNodes := [], tmpSlots := [], disagreements := 0 }

/-- `_get_or_create_cluster_node`, and what the asyncio class does in its place: only the
blocking class takes over connected nodes it knows from before. -/
def getOrCreateClusterNode (config : ClusterConfig) (address : Text × Int) (role : ServerType)
    (d : Discovery) : Nat × Discovery :=
  match d.tmpNodes.get (getNodeName address.1 address.2), config.flavor with
  | some ref, .sync => (ref, d)
  | some ref, .async => (ref, { d with tmpNodes := d.tmpNodes.set (d.manager.nodes ref).name ref })
  | none, flavor =>
    let known :=
      if flavor = .sync then d.manager.nodesCache.get (getNodeName address.1 address.2) else none
    match known.filter fun ref => (d.manager.nodes ref).connected with
    | some ref =>
      let manager := d.manager.setServerType ref role
      (ref, { d with manager, tmpNodes := d.tmpNodes.set (manager.nodes ref).name ref })
    | none =>
      let (ref, manager) := d.manager.newNode config address.1 address.2 (some role)
      (ref, { d with manager, tmpNodes := d.tmpNodes.set (manager.nodes ref).name ref })

/-- The loop over the replicas of a section. -/
def replicaNodes (config : ClusterConfig) : List (Text × Int) → Discovery → List Nat × Discovery
  | [], d => ([], d)
  | address :: addresses, d =>
    let (ref, d) := d.getOrCreateClusterNode config (config.remap address) .replica
    let (refs, d) := replicaNodes config addresses d
    (ref :: refs, d)

/-- The loop over the slots of a section: the first section to name a slot wins, and a sixth
disagreement about primaries is an error. -/
def assignSlots (target list : Nat) : List Int → Discovery → EStateM.Result Exc Discovery Unit
  | [], d => .ok () d
  | slot :: slots, d =>
    match d.tmpSlots.get slot with
    | none => assignSlots target list slots { d with tmpSlots := d.tmpSlots.set slot list }
    | some stored =>
      let primary := (d.manager.lists stored).head?
      if primary.any fun ref => (d.manager.nodes ref).name ≠ (d.manager.nodes target).name then
        let d := { d with disagreements := d.disagreements + 1 }
        if d.disagreements > 5 then .error { cls := .redisClusterException } d
        else assignSlots target list slots d
      else assignSlots target list slots d

/-- One section. -/
def readSection (config : ClusterConfig) (startupHost : Text) (sect : SlotSection) (d : Discovery) :
    EStateM.Result Exc Discovery Unit :=
  let (host, port) := sect.primary
  let address := config.remap (if host = [] then startupHost else host, port)
  let (target, d) := d.getOrCreateClusterNode config address .primary
  let (replicas, d) := replicaNodes config sect.replicas d
  let (list, manager) := d.manager.newList (target :: replicas)
  assignSlots target list sect.slots { d with manager }

/-- All sections of an answer. -/
def readSections (config : ClusterConfig) (startupHost : Text) :
    List SlotSection → Discovery → EStateM.Result Exc Discovery Unit
  | [], d => .ok () d
  | sect :: sections, d =>
    match d.readSection config startupHost sect with
    | .ok _ d => readSections config startupHost sections d
    | .error e d => .error e d

/-- `check_slots_coverage`. -/
def covered (d : Discovery) : Bool :=
  (List.range 16384).all fun slot => d.tmpSlots.contains (slot : Int)

end Discovery

/-- What the startup nodes answer to `CLUSTER SLOTS`. -/
abbrev Answers := ClusterNode → Except Exc (List SlotSection)

/-- The loop over the startup nodes, up to the first full coverage; the result says whether
one was reachable. -/
def Discovery.askStartupNodes (config : ClusterConfig) (answers : Answers) :
    List Nat → Bool → Discovery → EStateM.Result Exc Discovery Bool
  | [], reachable, d => .ok reachable d
  | startup :: others, reachable, d =>
    let manager := d.manager.modifyNode startup fun node => { node with connected := true }
    let d := { d with manager }
    match answers (manager.nodes startup) with
    | .error _ => askStartupNodes config answers others reachable d
    | .ok sections =>
      match d.readSections config (manager.nodes startup).host sections with
      | .error e d => .error e d
      | .ok _ d => if d.covered then .ok true d else askStartupNodes config answers others true d

namespace NodesManager

/-- `self.startup_nodes.values()`. -/
def startups (m : NodesManager) : List Nat := (m.startupNodes.getD m.nodesCache).map (·.2)

/-- `set_nodes(old, new, remove_old=True)`. -/
def setNodes (old new : Dict Text Nat) : Dict Text Nat :=
  new.foldl (fun d item => d.set item.1 item.2) (old.filter fun item => new.contains item.1)

/-- `create_redis_connections`. -/
def createRedisConnections (refs : List Nat) (m : NodesManager) : NodesManager :=
  refs.foldl (fun m ref => m.modifyNode ref fun node => { node with connected := true }) m

/-- The end of `initialize`: the temporary caches become the caches. -/
def adopt (config : ClusterConfig) (d : Discovery) (m : NodesManager) : NodesManager :=
  match config.flavor with
  | .sync =>
    { m with
      nodesCache := d.tmpNodes
      slotsCache := d.tmpSlots
      startupNodes := some (m.startupNodes.getD m.nodesCache) }
  | .async =>
    let nodesCache := setNodes m.nodesCache d.tmpNodes
    { m with
      nodesCache
      slotsCache := d.tmpSlots
      startupNodes := some (setNodes (m.startupNodes.getD m.nodesCache) nodesCache) }

/-- The connections that `initialize` opens. -/
def connected (config : ClusterConfig) (d : Discovery) : NodesManager :=
  if config.flavor = .sync then d.manager.createRedisConnections (d.tmpNodes.map (·.2))
  else d.manager

/-- `initialize` after the startup nodes were asked. -/
def conclude (config : ClusterConfig) (reachable : Bool) (d : Discovery) :
    EStateM.Result Exc NodesManager Unit :=
  if !reachable then .error { cls := .redisClusterException } d.manager
  else if !d.covered && config.requireFullCoverage then
    .error { cls := .redisClusterException } (connected config d)
  else
    let m := (connected config d).adopt config d
    match m.getNodesByServerType .primary with
    | [] => .error { cls := .indexError } m
    | primary :: _ =>
      let shared := config.flavor = .sync ∧ config.dynamicStartupNodes = true
      .ok () { m with
        startupNodes := if shared then none else m.startupNodes
        defaultNode := some primary
        movedException := none }

/-- Forget the positions of the load balancer. -/
def resetBalancer (m : NodesManager) : NodesManager :=
  { m with readLoadBalancer := m.readLoadBalancer.reset }

/-- `initialize`. -/
def initializeNodes (config : ClusterConfig) (answers : Answers) (m : NodesManager) :
    EStateM.Result Exc NodesManager Unit :=
  let start := Discovery.begin m.resetBalancer
  match start.askStartupNodes config answers m.resetBalancer.startups false with
  | .error e d => .error e d.manager
  | .ok reachable d => conclude config reachable d

end NodesManager

end RedisPy

import RedisPy.Cluster.Asked
import RedisPy.Lib.Runs

/-!
# Token rotation in a cluster client

Who hears of a new token when the nodes of a blocking cluster client share a streaming
credential provider. The provider has one callback. A new Redis client of a node passes it the
callback of a listener of its own, and when the nodes manager has opened its connections it
passes it that of its own listener, together with the pools it has just made. So a refresh
that keeps a node leaves that node's pool out.
-/

namespace RedisPy

open Contract NodesManager

/-! ## Clients, listeners and the provider -/

/-- The Redis clients of the nodes, the listeners of their dispatchers and the provider. -/
structure NodeClients where
  /-- The connection pool of a node's `redis_connection`. -/
  pools : Nat → Option Nat
  /-- The next free pool. -/
  poolCount : Nat
  /-- `_event.connection_pools` of a listener; listener 0 is the manager's. -/
  events : Nat → List Nat
  /-- The next free listener. -/
  listenerCount : Nat
  /-- The listener whose `_re_auth` the provider's `on_next` was given last. -/
  onNext : Option Nat

namespace NodeClients

/-- No clients yet. -/
def empty : NodeClients where
  pools _ := none
  poolCount := 0
  events _ := []
  listenerCount := 1
  onNext := none

/-- `RegisterReAuthForPooledConnections.listen`, for a streaming provider. -/
def listen (listener : Nat) (pools : List Nat) (c : NodeClients) : NodeClients :=
  { c with
    events := fun other => if other = listener then pools else c.events other
    onNext := some listener }

/-- `_re_auth`: the pools whose `re_auth_callback` is called. One that raises ends the loop. -/
def reAuth (raises : Nat → Bool) : List Nat → List Nat
  | [] => []
  | pool :: pools => pool :: if raises pool then [] else reAuth raises pools

/-- The pools that the provider's callback walks over. -/
def registered (c : NodeClients) : List Nat :=
  match c.onNext with
  | some listener => c.events listener
  | none => []

/-- `create_redis_node`: the pool of a new Redis client. With `from_url` the client is given a
pool and dispatches no provider; else it dispatches its pool with the provider. -/
def createRedisNode (fromUrl : Bool) (c : NodeClients) : Nat × NodeClients :=
  let made := { c with poolCount := c.poolCount + 1 }
  if fromUrl then (c.poolCount, made)
  else
    let dispatching := { made with listenerCount := made.listenerCount + 1 }
    (c.poolCount, dispatching.listen made.listenerCount [c.poolCount])

/-- A node without a client gets one; the pools made. -/
def connect (fromUrl : Bool) (ref : Nat) (c : NodeClients) : List Nat × NodeClients :=
  match c.pools ref with
  | some _ => ([], c)
  | none =>
    let (pool, made) := c.createRedisNode fromUrl
    ([pool], { made with
      pools := fun other => if other = ref then some pool else made.pools other })

/-- The loop of `create_redis_connections`, with `connection_pools`. -/
def connectAll (fromUrl : Bool) : List Nat → NodeClients → List Nat × NodeClients
  | [], c => ([], c)
  | ref :: refs, c =>
    let (first, c) := c.connect fromUrl ref
    let (others, c) := connectAll fromUrl refs c
    (first ++ others, c)

/-- `create_redis_connections`. -/
def createRedisConnections (fromUrl : Bool) (refs : List Nat) (c : NodeClients) : NodeClients :=
  let (pools, c) := c.connectAll fromUrl refs
  c.listen 0 pools

/-- `node.redis_connection = None`. -/
def dropConnection (ref : Nat) (c : NodeClients) : NodeClients :=
  { c with pools := fun other => if other = ref then none else c.pools other }

/-- The startup nodes get their clients as they are asked. -/
def askStartupNodes (config : ClusterConfig) (fromUrl : Bool) (answers : Answers) :
    List Nat → Discovery → NodeClients → NodeClients
  | [], _, c => c
  | startup :: others, d, c =>
    let (_, c) := c.connect fromUrl startup
    let manager := d.manager.modifyNode startup fun node => { node with connected := true }
    let d := { d with manager }
    match answers (manager.nodes startup) with
    | .error _ => askStartupNodes config fromUrl answers others d c
    | .ok sections =>
      match d.readSections config (manager.nodes startup).host sections with
      | .error _ _ => c
      | .ok _ d => if d.covered then c else askStartupNodes config fromUrl answers others d c

end NodeClients

/-- What a refresh has learned when it has asked the startup nodes. -/
def NodesManager.discover (config : ClusterConfig) (answers : Answers) (m : NodesManager) :
    EStateM.Result Exc Discovery Bool :=
  (Discovery.begin m.resetBalancer).askStartupNodes config answers m.resetBalancer.startups false

/-- The clients after `initialize`. -/
def NodeClients.initializeNodes (config : ClusterConfig) (fromUrl : Bool) (answers : Answers)
    (m : NodesManager) (c : NodeClients) : NodeClients :=
  let asked := c.askStartupNodes config fromUrl answers m.resetBalancer.startups
    (Discovery.begin m.resetBalancer)
  match m.discover config answers with
  | .error _ _ => asked
  | .ok false _ => asked
  | .ok true d => asked.createRedisConnections fromUrl (d.tmpNodes.map (·.2))

/-- The topology of a blocking cluster client together with the clients of its nodes. -/
structure TokenCluster where
  /-- The nodes manager. -/
  manager : NodesManager
  /-- The clients, the listeners and the provider. -/
  clients : NodeClients

/-- What changes a topology. -/
inductive TopologyChange where
  /-- A command has lost its connection to this node: the node leaves `startup_nodes` and loses
  its client. -/
  | lose (ref : Nat)
  /-- `initialize`, with what the startup nodes answer; it may raise. -/
  | refresh (answers : Answers)

namespace TokenCluster

/-- Before the first discovery. -/
def start (config : ClusterConfig) (addresses : List (Text × Int)) : TokenCluster where
  manager := NodesManager.empty.populateStartupNodes config addresses
  clients := .empty

/-- One change. -/
def change (config : ClusterConfig) (fromUrl : Bool) (s : TokenCluster) :
    TopologyChange → TokenCluster
  | .lose ref =>
    { manager := (s.manager.popStartup (s.manager.nodes ref).name).dropConnection ref
      clients := s.clients.dropConnection ref }
  | .refresh answers =>
    { manager := stateAfter (s.manager.initializeNodes config answers)
      clients := s.clients.initializeNodes config fromUrl answers s.manager }

/-! ## The law -/

/-- The pool of a node in `nodes_cache`. -/
def Live (s : TokenCluster) (pool : Nat) : Prop :=
  ∃ item ∈ s.manager.nodesCache, s.clients.pools item.2 = some pool

/-- A new token reaches all live pools, when the callbacks of these pools raise. -/
def ReachesAll (raises : Nat → Bool) (s : TokenCluster) : Prop :=
  ∀ pool, s.Live pool → pool ∈ NodeClients.reAuth raises s.clients.registered

/-- No callback raises before the one of a live pool. -/
def Orderly (raises : Nat → Bool) (s : TokenCluster) : Prop :=
  ∀ pool, s.Live pool →
    ∀ earlier ∈ s.clients.registered.takeWhile (· ≠ pool), raises earlier = false

/-- Only a callback that raises keeps a new token from a live pool. -/
def Rotates (s : TokenCluster) : Prop := ∀ raises, s.ReachesAll raises ↔ s.Orderly raises

end TokenCluster

namespace NodesManager

/-- No node of this cache has a client. -/
def Unconnected (m : NodesManager) (cache : Dict Text Nat) : Prop :=
  ∀ item ∈ cache, (m.nodes item.2).connected = false

/-- A refresh that ends before it opens connections changes nothing for the nodes in use: they
have no clients, or it has made no client that has registered itself. -/
def Spares (fromUrl : Bool) (d : Discovery) (m : NodesManager) : Prop :=
  m.Unconnected m.nodesCache ∨ fromUrl = true ∨
    ∀ ref, (d.manager.nodes ref).connected = (m.nodes ref).connected

/-- A refresh that leaves no live pool out: where it adopts a topology, no node of that topology
had a client before its connections were opened. -/
def Renews (config : ClusterConfig) (fromUrl : Bool) (answers : Answers) (m : NodesManager) :
    Prop :=
  match m.discover config answers with
  | .error _ d => m.Spares fromUrl d
  | .ok reachable d =>
    if reachable = false then m.Spares fromUrl d
    else if d.covered = false ∧ config.requireFullCoverage = true then m.Unconnected m.nodesCache
    else d.manager.Unconnected d.tmpNodes

end NodesManager

/-- A change after which no live pool is left out. -/
def TopologyChange.Careful (config : ClusterConfig) (fromUrl : Bool) (s : TokenCluster) :
    TopologyChange → Prop
  | .lose _ => True
  | .refresh answers => s.manager.Renews config fromUrl answers

/-! ## Walks over the registered pools -/

namespace NodeClients

/-- A pool is reached if it is registered and no callback before its own raises. -/
theorem mem_reAuth {raises : Nat → Bool} {pools : List Nat} {pool : Nat} :
    pool ∈ reAuth raises pools ↔
      pool ∈ pools ∧ ∀ earlier ∈ pools.takeWhile (· ≠ pool), raises earlier = false := by
  induction pools with
  | nil => simp [reAuth]
  | cons first pools ih =>
    rw [reAuth, List.mem_cons]
    by_cases same : first = pool
    · simp [same]
    · have differs : pool ≠ first := fun equal => same equal.symm
      cases raised : raises first with
      | true => simp [differs, same, raised]
      | false => simp [differs, same, raised, ih]

end NodeClients

namespace TokenCluster

/-- A client's tokens are rotated if all its live pools are registered. -/
theorem rotates_iff {s : TokenCluster} :
    s.Rotates ↔ ∀ pool, s.Live pool → pool ∈ s.clients.registered := by
  constructor
  · intro rotates pool live
    have calm : s.Orderly fun _ => false := fun _ _ _ _ => rfl
    have reached := (rotates fun _ => false).mpr calm pool live
    exact (NodeClients.mem_reAuth.mp reached).1
  · intro covered raises
    constructor
    · intro reaches pool live
      exact (NodeClients.mem_reAuth.mp (reaches pool live)).2
    · intro orderly pool live
      exact NodeClients.mem_reAuth.mpr ⟨covered pool live, orderly pool live⟩

end TokenCluster

/-! ## What new clients change -/

namespace NodeClients

/-- Clients were opened, for nodes among these. -/
structure Opened (fromUrl : Bool) (refs : List Nat) (c later : NodeClients) : Prop where
  /-- Pools are added. -/
  poolCount : c.poolCount ≤ later.poolCount
  /-- Clients keep their pools. -/
  kept : ∀ ref pool, c.pools ref = some pool → later.pools ref = some pool
  /-- New clients have new pools. -/
  new : ∀ ref pool, later.pools ref = some pool →
    c.pools ref = some pool ∨ ref ∈ refs ∧ c.poolCount ≤ pool ∧ pool < later.poolCount
  /-- Nothing is registered, or the last new client has registered itself. -/
  registered : later.registered = c.registered ∧
      (fromUrl = true ∨ ∀ ref, (later.pools ref).isSome = (c.pools ref).isSome) ∨
    (∃ pool, c.poolCount ≤ pool ∧ later.registered = [pool]) ∧
      fromUrl = false ∧ ∃ ref, c.pools ref = none ∧ (later.pools ref).isSome

namespace Opened

variable {fromUrl : Bool} {refs others : List Nat} {c middle later : NodeClients}

/-- Nothing was opened. -/
theorem refl (fromUrl : Bool) (refs : List Nat) (c : NodeClients) : Opened fromUrl refs c c where
  poolCount := Nat.le_refl _
  kept _ _ pooled := pooled
  new _ _ pooled := .inl pooled
  registered := .inl ⟨rfl, .inr fun _ => rfl⟩

/-- More nodes may have got clients. -/
theorem mono (opened : Opened fromUrl refs c later) (within : ∀ ref ∈ refs, ref ∈ others) :
    Opened fromUrl others c later where
  poolCount := opened.poolCount
  kept := opened.kept
  new ref pool pooled := by
    rcases opened.new ref pool pooled with old | ⟨among, bounds⟩
    · exact .inl old
    · exact .inr ⟨within ref among, bounds⟩
  registered := opened.registered

/-- A client that is there stays there. -/
theorem isSome (opened : Opened fromUrl refs c later) {ref : Nat} (pooled : (c.pools ref).isSome) :
    (later.pools ref).isSome := by
  obtain ⟨pool, found⟩ := Option.isSome_iff_exists.mp pooled
  rw [opened.kept ref pool found]
  rfl

/-- One after the other. -/
theorem trans (first : Opened fromUrl refs c middle) (second : Opened fromUrl refs middle later) :
    Opened fromUrl refs c later where
  poolCount := Nat.le_trans first.poolCount second.poolCount
  kept ref pool pooled := second.kept ref pool (first.kept ref pool pooled)
  new ref pool pooled := by
    rcases second.new ref pool pooled with before | ⟨among, above, below⟩
    · rcases first.new ref pool before with old | ⟨among, above, below⟩
      · exact .inl old
      · exact .inr ⟨among, above, Nat.lt_of_lt_of_le below second.poolCount⟩
    · exact .inr ⟨among, Nat.le_trans first.poolCount above, below⟩
  registered := by
    rcases second.registered with ⟨same, quiet⟩ | ⟨⟨pool, above, alone⟩, own, ref, free, pooled⟩
    · rcases first.registered with ⟨before, still⟩ | ⟨⟨pool, above, alone⟩, own, ref, free, pooled⟩
      · refine .inl ⟨same.trans before, ?_⟩
        rcases still with url | still
        · exact .inl url
        · rcases quiet with url | quiet
          · exact .inl url
          · exact .inr fun ref => (quiet ref).trans (still ref)
      · exact .inr ⟨⟨pool, above, same.trans alone⟩, own, ref, free, second.isSome pooled⟩
    · refine .inr ⟨⟨pool, Nat.le_trans first.poolCount above, alone⟩, own, ref, ?_, pooled⟩
      cases before : c.pools ref with
      | none => rfl
      | some old =>
        rw [first.kept ref old before] at free
        cases free

end Opened

/-- A node that had no client has the new one. -/
theorem connect_opened (fromUrl : Bool) (ref : Nat) (c : NodeClients) :
    Opened fromUrl [ref] c (c.connect fromUrl ref).2 := by
  unfold connect
  cases pooled : c.pools ref with
  | some pool => exact .refl fromUrl [ref] c
  | none =>
    have kept : ∀ other pool, c.pools other = some pool →
        (if other = ref then some c.poolCount else c.pools other) = some pool := by
      intro other pool found
      have differs : other ≠ ref := by
        rintro rfl
        rw [pooled] at found
        cases found
      rw [if_neg differs, found]
    have new : ∀ other pool, (if other = ref then some c.poolCount else c.pools other) = some pool →
        c.pools other = some pool ∨
          other ∈ [ref] ∧ c.poolCount ≤ pool ∧ pool < c.poolCount + 1 := by
      intro other pool found
      by_cases here : other = ref
      · rw [if_pos here] at found
        cases found
        exact .inr ⟨List.mem_singleton.mpr here, Nat.le_refl _, Nat.lt_succ_self _⟩
      · rw [if_neg here] at found
        exact .inl found
    cases fromUrl with
    | true => exact ⟨Nat.le_succ _, kept, new, .inl ⟨rfl, .inl rfl⟩⟩
    | false =>
      refine ⟨Nat.le_succ _, kept, new, .inr ⟨⟨c.poolCount, Nat.le_refl _, ?_⟩, rfl, ref, pooled, ?_⟩⟩
      · simp [createRedisNode, listen, registered]
      · simp [createRedisNode, listen]

/-- A node has a client when it was given one, and the others are as they were. -/
theorem connect_isSome (fromUrl : Bool) (ref : Nat) (c : NodeClients) (other : Nat) :
    ((c.connect fromUrl ref).2.pools other).isSome =
      (decide (other = ref) || (c.pools other).isSome) := by
  unfold connect
  cases pooled : c.pools ref with
  | some pool =>
    by_cases here : other = ref
    · simp [here, pooled]
    · simp [here]
  | none =>
    by_cases here : other = ref
    · simp [here]
    · cases fromUrl <;> simp [here, createRedisNode, listen]

/-- The new pools, and whose they are. -/
structure Collects (refs pools : List Nat) (c later : NodeClients) : Prop where
  /-- They are new. -/
  new : ∀ pool ∈ pools, c.poolCount ≤ pool
  /-- The nodes that had no client have them. -/
  served : ∀ ref ∈ refs, c.pools ref = none → ∃ pool ∈ pools, later.pools ref = some pool

/-- The loop of `create_redis_connections` opens clients and collects their pools. -/
theorem connectAll_spec (fromUrl : Bool) (refs : List Nat) (c : NodeClients) :
    Opened fromUrl refs c (c.connectAll fromUrl refs).2 ∧
      Collects refs (c.connectAll fromUrl refs).1 c (c.connectAll fromUrl refs).2 ∧
      ∀ other, ((c.connectAll fromUrl refs).2.pools other).isSome =
        (decide (other ∈ refs) || (c.pools other).isSome) := by
  induction refs generalizing c with
  | nil => exact ⟨.refl fromUrl [] c, ⟨by simp [connectAll], by simp⟩, by simp [connectAll]⟩
  | cons ref refs ih =>
    have first := connect_opened fromUrl ref c
    have one := connect_isSome fromUrl ref c
    obtain ⟨rest, collects, all⟩ := ih (c.connect fromUrl ref).2
    have made : ∀ pool ∈ (c.connect fromUrl ref).1, c.poolCount ≤ pool := by
      unfold connect
      cases c.pools ref with
      | some _ => simp
      | none => cases fromUrl <;> simp [createRedisNode]
    have given : c.pools ref = none →
        ∃ pool ∈ (c.connect fromUrl ref).1, (c.connect fromUrl ref).2.pools ref = some pool := by
      intro free
      unfold connect
      rw [free]
      cases fromUrl <;> simp [createRedisNode]
    refine ⟨(first.mono (by simp)).trans (rest.mono (by simp +contextual)), ⟨?_, ?_⟩, ?_⟩
    · intro pool member
      rcases List.mem_append.mp member with early | late
      · exact made pool early
      · exact Nat.le_trans first.poolCount (collects.new pool late)
    · intro other member free
      by_cases here : other = ref
      · rw [here] at free ⊢
        obtain ⟨pool, early, pooled⟩ := given free
        exact ⟨pool, List.mem_append_left _ early, rest.kept ref pool pooled⟩
      · have later : other ∈ refs := by simpa [here] using member
        have still : (c.connect fromUrl ref).2.pools other = none := by
          have none := one other
          rw [free] at none
          simpa [here] using none
        obtain ⟨pool, late, pooled⟩ := collects.served other later still
        exact ⟨pool, List.mem_append_right _ late, pooled⟩
    · intro other
      show ((connectAll fromUrl refs (c.connect fromUrl ref).2).2.pools other).isSome = _
      rw [all other, one other]
      by_cases here : other = ref
      · simp [here]
      · simp [here]

end NodeClients

/-! ## Reading opens no clients -/

namespace NodesManager

/-- The startup nodes are those of the table. -/
theorem startups_eq (m : NodesManager) : m.startups = m.startupTable.map (·.2) := rfl

/-- Objects to come have no clients. -/
def Blank (m : NodesManager) : Prop := ∀ ref, m.nodeCount ≤ ref → (m.nodes ref).connected = false

end NodesManager

namespace Discovery

/-- What reading an answer leaves alone. -/
structure Reads (d later : Discovery) : Prop where
  /-- Nodes are added. -/
  nodeCount : d.manager.nodeCount ≤ later.manager.nodeCount
  /-- No client is opened. -/
  connected : d.manager.Blank →
    ∀ ref, (later.manager.nodes ref).connected = (d.manager.nodes ref).connected
  /-- No name is stored twice. -/
  unique : d.tmpNodes.Unique → later.tmpNodes.Unique

namespace Reads

variable {d middle later : Discovery}

/-- Nothing is read. -/
theorem refl (d : Discovery) : Reads d d := ⟨Nat.le_refl _, fun _ _ => rfl, id⟩

/-- Objects to come still have no clients. -/
theorem blank (reads : Reads d later) (blank : d.manager.Blank) : later.manager.Blank := by
  intro ref outside
  rw [reads.connected blank ref]
  exact blank ref (Nat.le_trans reads.nodeCount outside)

/-- One after the other. -/
theorem trans (first : Reads d middle) (second : Reads middle later) : Reads d later where
  nodeCount := Nat.le_trans first.nodeCount second.nodeCount
  connected blank ref := by
    rw [second.connected (first.blank blank) ref, first.connected blank ref]
  unique unique := second.unique (first.unique unique)

end Reads

/-- Finding or making a node. -/
theorem getOrCreateClusterNode_reads (config : ClusterConfig) (address : Text × Int)
    (role : ServerType) (d : Discovery) :
    Reads d (d.getOrCreateClusterNode config address role).2 := by
  have stores : ∀ name ref, d.tmpNodes.Unique → (d.tmpNodes.set name ref).Unique :=
    fun name ref unique => unique.set name ref
  unfold getOrCreateClusterNode
  cases d.tmpNodes.get (getNodeName address.1 address.2) with
  | some ref =>
    cases config.flavor with
    | sync => exact .refl d
    | async => exact ⟨Nat.le_refl _, fun _ _ => rfl, stores _ _⟩
  | none =>
    simp only
    split
    · next ref _ =>
      refine ⟨Nat.le_refl _, fun _ other => ?_, stores _ _⟩
      by_cases here : other = ref
      · simp [setServerType, modifyNode, here]
      · simp [setServerType, modifyNode, here]
    · refine ⟨Nat.le_succ _, fun blank other => ?_, stores _ _⟩
      by_cases here : other = d.manager.nodeCount
      · have none := blank other (Nat.le_of_eq here.symm)
        simp [newNode, here, ← none]
      · simp [newNode, here]

/-- The replicas of a section. -/
theorem replicaNodes_reads (config : ClusterConfig) (addresses : List (Text × Int))
    (d : Discovery) : Reads d (replicaNodes config addresses d).2 := by
  induction addresses generalizing d with
  | nil => exact .refl d
  | cons address addresses ih =>
    have first := getOrCreateClusterNode_reads config (config.remap address) .replica d
    exact first.trans (ih _)

/-- Giving slots to a list. -/
theorem assignSlots_reads (target list : Nat) (slots : List Int) (d : Discovery) :
    Reads d (stateAfter (assignSlots target list slots d)) := by
  induction slots generalizing d with
  | nil => exact .refl d
  | cons slot slots ih =>
    have noted : ∀ tmpSlots disagreements, Reads d { d with tmpSlots, disagreements } :=
      fun _ _ => ⟨Nat.le_refl _, fun _ _ => rfl, id⟩
    rw [assignSlots]
    cases d.tmpSlots.get slot with
    | none => exact (noted (d.tmpSlots.set slot list) d.disagreements).trans (ih _)
    | some stored =>
      simp only
      split
      · split
        · exact noted d.tmpSlots (d.disagreements + 1)
        · exact (noted d.tmpSlots (d.disagreements + 1)).trans (ih _)
      · exact ih d

/-- A section. -/
theorem readSection_reads (config : ClusterConfig) (startupHost : Text) (sect : SlotSection)
    (d : Discovery) : Reads d (stateAfter (d.readSection config startupHost sect)) := by
  unfold readSection
  have first := getOrCreateClusterNode_reads config
    (config.remap (if sect.primary.1 = [] then startupHost else sect.primary.1, sect.primary.2))
    .primary d
  have second := replicaNodes_reads config sect.replicas (getOrCreateClusterNode config
    (config.remap (if sect.primary.1 = [] then startupHost else sect.primary.1, sect.primary.2))
    .primary d).2
  have listed : ∀ members, ∀ found : Discovery,
      Reads found { found with manager := (found.manager.newList members).2 } :=
    fun _ _ => ⟨Nat.le_refl _, fun _ _ => rfl, id⟩
  exact ((first.trans second).trans (listed _ _)).trans (assignSlots_reads _ _ _ _)

/-- An answer. -/
theorem readSections_reads (config : ClusterConfig) (startupHost : Text)
    (sections : List SlotSection) (d : Discovery) :
    Reads d (stateAfter (d.readSections config startupHost sections)) := by
  induction sections generalizing d with
  | nil => exact .refl d
  | cons sect sections ih =>
    have first := readSection_reads config startupHost sect d
    rw [readSections]
    cases read : d.readSection config startupHost sect with
    | ok _ after =>
      rw [read] at first
      exact first.trans (ih after)
    | error e after =>
      rw [read] at first
      exact first

end Discovery

/-! ## A refresh -/

/-- Nodes have clients where the manager says so, and their pools exist. -/
structure NodeClients.Serve (m : NodesManager) (c : NodeClients) : Prop where
  /-- Objects to come have none. -/
  blank : m.Blank
  /-- `redis_connection is not None`. -/
  pooled : ∀ ref, (m.nodes ref).connected = (c.pools ref).isSome
  /-- Pools exist. -/
  bounded : ∀ ref pool, c.pools ref = some pool → pool < c.poolCount

namespace NodeClients

/-- A node that has no client has no pool. -/
theorem Serve.none_of_unconnected {m : NodesManager} {c : NodeClients} (serve : Serve m c) {ref : Nat}
    (free : (m.nodes ref).connected = false) : c.pools ref = none := by
  have none := serve.pooled ref
  rw [free] at none
  cases pooled : c.pools ref with
  | none => rfl
  | some pool =>
    rw [pooled] at none
    cases none

/-- A node that has a client has a pool. -/
theorem Serve.pool_of_connected {m : NodesManager} {c : NodeClients} (serve : Serve m c) {ref : Nat}
    (connected : ¬(m.nodes ref).connected = false) : ∃ pool, c.pools ref = some pool := by
  have some : (c.pools ref).isSome = true := by
    rw [← serve.pooled]
    simpa using connected
  exact Option.isSome_iff_exists.mp some

/-- A startup node gets its client. -/
theorem Serve.connect {m : NodesManager} {c : NodeClients} (serve : Serve m c) (fromUrl : Bool)
    {ref : Nat} (bound : ref < m.nodeCount) :
    Serve (m.modifyNode ref fun node => { node with connected := true })
      (c.connect fromUrl ref).2 where
  blank other outside := by
    have differs : other ≠ ref := Nat.ne_of_gt (Nat.lt_of_lt_of_le bound outside)
    simpa [modifyNode, differs] using serve.blank other outside
  pooled other := by
    rw [connect_isSome, ← serve.pooled other]
    by_cases here : other = ref
    · simp [modifyNode, here]
    · simp [modifyNode, here]
  bounded other pool pooled := by
    have opened := connect_opened fromUrl ref c
    rcases opened.new other pool pooled with old | ⟨_, _, below⟩
    · exact Nat.lt_of_lt_of_le (serve.bounded other pool old) opened.poolCount
    · exact below

/-- The startup nodes are asked. -/
theorem askStartupNodes_spec (config : ClusterConfig) (fromUrl : Bool) (answers : Answers)
    (startups : List Nat) (reachable : Bool) {d : Discovery} {c : NodeClients}
    (known : ∀ startup ∈ startups, startup < d.manager.nodeCount) (serve : Serve d.manager c) :
    Opened fromUrl startups c (c.askStartupNodes config fromUrl answers startups d) ∧
      Serve (stateAfter (d.askStartupNodes config answers startups reachable)).manager
        (c.askStartupNodes config fromUrl answers startups d) ∧
      (d.tmpNodes.Unique →
        (stateAfter (d.askStartupNodes config answers startups reachable)).tmpNodes.Unique) := by
  induction startups generalizing d c reachable with
  | nil => exact ⟨.refl fromUrl [] c, serve, id⟩
  | cons startup others ih =>
    have inside := known startup List.mem_cons_self
    have opened : Opened fromUrl (startup :: others) c (c.connect fromUrl startup).2 :=
      (connect_opened fromUrl startup c).mono (by simp)
    have next := serve.connect fromUrl inside
    have widen : ∀ {before later : NodeClients}, Opened fromUrl others before later →
        Opened fromUrl (startup :: others) before later := fun more => more.mono (by simp +contextual)
    rw [askStartupNodes, Discovery.askStartupNodes]
    simp only
    have count : (d.manager.modifyNode startup fun node => { node with connected := true }).nodeCount =
        d.manager.nodeCount := rfl
    generalize (d.manager.modifyNode startup fun node => { node with connected := true }) = manager at *
    cases answers (manager.nodes startup) with
    | error e =>
      have rest : ∀ other ∈ others, other < ({ d with manager } : Discovery).manager.nodeCount := by
        intro other member
        rw [count]
        exact known other (List.mem_cons_of_mem startup member)
      obtain ⟨more, served, unique⟩ := ih reachable rest next
      exact ⟨opened.trans (widen more), served, unique⟩
    | ok sections =>
      have read := Discovery.readSections_reads config (manager.nodes startup).host sections
        { d with manager }
      simp only
      cases ended : ({ d with manager } : Discovery).readSections config (manager.nodes startup).host
          sections with
      | error e after =>
        rw [ended] at read
        exact ⟨opened, ⟨read.blank next.blank, fun ref => (read.connected next.blank ref).trans
          (next.pooled ref), next.bounded⟩, read.unique⟩
      | ok _ after =>
        rw [ended] at read
        have still : Serve after.manager (c.connect fromUrl startup).2 :=
          ⟨read.blank next.blank, fun ref => (read.connected next.blank ref).trans (next.pooled ref),
            next.bounded⟩
        simp only
        cases after.covered with
        | true => exact ⟨opened, still, read.unique⟩
        | false =>
          have rest : ∀ other ∈ others, other < after.manager.nodeCount := by
            intro other member
            have before := known other (List.mem_cons_of_mem startup member)
            rw [← count] at before
            exact Nat.lt_of_lt_of_le before read.nodeCount
          obtain ⟨more, served, unique⟩ := ih true rest still
          exact ⟨opened.trans (widen more), served, fun start => unique (read.unique start)⟩

/-- The clients after `create_redis_connections`. -/
theorem createRedisConnections_opened (fromUrl : Bool) (refs : List Nat) (c : NodeClients) :
    ∃ made pools, c.createRedisConnections fromUrl refs = made.listen 0 pools ∧
      Opened fromUrl refs c made ∧ Collects refs pools c made ∧
        ∀ other, (made.pools other).isSome = (decide (other ∈ refs) || (c.pools other).isSome) :=
  ⟨_, _, rfl, connectAll_spec fromUrl refs c⟩

end NodeClients

namespace NodesManager

/-- New connections, seen from the nodes. -/
theorem createRedisConnections_connected (refs : List Nat) (m : NodesManager) :
    (m.createRedisConnections refs).nodeCount = m.nodeCount ∧
      ∀ ref, ((m.createRedisConnections refs).nodes ref).connected =
        (decide (ref ∈ refs) || (m.nodes ref).connected) := by
  induction refs generalizing m with
  | nil => exact ⟨rfl, fun ref => by simp [createRedisConnections]⟩
  | cons first refs ih =>
    obtain ⟨count, rest⟩ := ih (m.modifyNode first fun node => { node with connected := true })
    refine ⟨count, fun ref => ?_⟩
    show (((m.modifyNode first fun node =>
      { node with connected := true }).createRedisConnections refs).nodes ref).connected = _
    rw [rest ref]
    by_cases here : ref = first
    · simp [modifyNode, here]
    · simp [modifyNode, here]

end NodesManager

namespace NodeClients

/-- All nodes of a list have clients now. -/
theorem Serve.createRedisConnections {m : NodesManager} {c : NodeClients} (serve : Serve m c)
    (fromUrl : Bool) {refs : List Nat} (known : ∀ ref ∈ refs, ref < m.nodeCount) :
    Serve (m.createRedisConnections refs) (c.createRedisConnections fromUrl refs) := by
  obtain ⟨made, pools, equal, opened, _, isSome⟩ := createRedisConnections_opened fromUrl refs c
  obtain ⟨count, connected⟩ := createRedisConnections_connected refs m
  rw [equal]
  constructor
  · intro ref outside
    rw [count] at outside
    have away : ref ∉ refs := fun member => absurd (known ref member) (Nat.not_lt.mpr outside)
    rw [connected ref, serve.blank ref outside]
    simp [away]
  · intro ref
    rw [connected ref, serve.pooled ref]
    exact (isSome ref).symm
  · intro ref pool pooled
    rcases opened.new ref pool pooled with old | ⟨_, _, below⟩
    · exact Nat.lt_of_lt_of_le (serve.bounded ref pool old) opened.poolCount
    · exact below

end NodeClients

namespace TokenCluster

open NodeClients

/-- What holds of a client all along. -/
structure Sound (s : TokenCluster) : Prop where
  /-- The caches. -/
  wellFormed : s.manager.WellFormed
  /-- The startup nodes. -/
  started : Filed s.manager s.manager.startupTable
  /-- No startup node is stored twice. -/
  unique : s.manager.startupTable.Unique
  /-- Clients and pools. -/
  serve : Serve s.manager s.clients
  /-- A startup node that is in `nodes_cache` has a client. -/
  shared : ∀ item ∈ s.manager.nodesCache, item.2 ∈ s.manager.startups →
    (s.manager.nodes item.2).connected = true

/-- The startup nodes were asked. -/
structure Asked (fromUrl : Bool) (s : TokenCluster) (d : Discovery) (asked : NodeClients) : Prop where
  /-- Some got clients. -/
  opened : Opened fromUrl s.manager.startups s.clients asked
  /-- Clients and pools. -/
  serve : Serve d.manager asked
  /-- The caches under construction. -/
  wellFormed : d.WellFormed
  /-- No name is stored twice. -/
  unique : d.tmpNodes.Unique
  /-- `nodes_cache`. -/
  nodesCache : d.manager.nodesCache = s.manager.nodesCache
  /-- `startup_nodes`. -/
  startupNodes : d.manager.startupNodes = s.manager.startupNodes

/-- What a refresh comes to. -/
inductive Refreshed (config : ClusterConfig) (fromUrl : Bool) (answers : Answers)
    (s : TokenCluster) : TokenCluster → Prop where
  /-- It has ended before it opened connections. -/
  | brokeOff {d : Discovery} {asked : NodeClients} (learned : Asked fromUrl s d asked)
      (renews : s.manager.Renews config fromUrl answers ↔ s.manager.Spares fromUrl d) :
      Refreshed config fromUrl answers s { manager := d.manager, clients := asked }
  /-- It has ended before it adopted the topology. -/
  | uncovered {d : Discovery} {asked : NodeClients} (learned : Asked fromUrl s d asked)
      (renews : s.manager.Renews config fromUrl answers ↔
        s.manager.Unconnected s.manager.nodesCache) :
      Refreshed config fromUrl answers s
        { manager := d.manager.createRedisConnections (d.tmpNodes.map (·.2))
          clients := asked.createRedisConnections fromUrl (d.tmpNodes.map (·.2)) }
  /-- It has adopted the topology. -/
  | adopted {d : Discovery} {asked : NodeClients} {later : NodesManager}
      (learned : Asked fromUrl s d asked)
      (renews : s.manager.Renews config fromUrl answers ↔ d.manager.Unconnected d.tmpNodes)
      (nodes : later.nodes = (d.manager.createRedisConnections (d.tmpNodes.map (·.2))).nodes)
      (nodeCount : later.nodeCount =
        (d.manager.createRedisConnections (d.tmpNodes.map (·.2))).nodeCount)
      (nodesCache : later.nodesCache = d.tmpNodes)
      (startups : later.startupTable = s.manager.startupTable ∨ later.startupTable = d.tmpNodes) :
      Refreshed config fromUrl answers s
        { manager := later
          clients := asked.createRedisConnections fromUrl (d.tmpNodes.map (·.2)) }

/-- Asking the startup nodes. -/
theorem Sound.asked {s : TokenCluster} (sound : s.Sound) (config : ClusterConfig) (fromUrl : Bool)
    (answers : Answers) :
    Asked fromUrl s (stateAfter (s.manager.discover config answers))
      (s.clients.askStartupNodes config fromUrl answers s.manager.resetBalancer.startups
        (Discovery.begin s.manager.resetBalancer)) := by
  have known : ∀ startup ∈ s.manager.resetBalancer.startups,
      startup < (Discovery.begin s.manager.resetBalancer).manager.nodeCount := by
    intro startup member
    obtain ⟨item, stored, rfl⟩ := List.mem_map.mp member
    exact (sound.started item stored).1
  have serve : Serve (Discovery.begin s.manager.resetBalancer).manager s.clients :=
    ⟨sound.serve.blank, sound.serve.pooled, sound.serve.bounded⟩
  have start : (Discovery.begin s.manager.resetBalancer).WellFormed :=
    (Survey.Describes.begin sound.wellFormed).wellFormed
  obtain ⟨opened, served, unique⟩ := askStartupNodes_spec config fromUrl answers
    s.manager.resetBalancer.startups false known serve
  have frame := Discovery.askStartupNodes_frame config answers s.manager.resetBalancer.startups
    false (Discovery.begin s.manager.resetBalancer)
  have wellFormed := Discovery.askStartupNodes_wellFormed config answers
    s.manager.resetBalancer.startups false start
  exact ⟨opened, served, wellFormed, unique List.nodup_nil, frame.nodesCache, frame.startupNodes⟩

/-- A refresh of the blocking client comes to one of three things. -/
theorem Sound.refreshed {s : TokenCluster} (sound : s.Sound) {config : ClusterConfig}
    (sync : config.flavor = .sync) (fromUrl : Bool) (answers : Answers) :
    Refreshed config fromUrl answers s (s.change config fromUrl (.refresh answers)) := by
  have learned := sound.asked config fromUrl answers
  have same : s.change config fromUrl (.refresh answers) =
    { manager := stateAfter (s.manager.initializeNodes config answers)
      clients := s.clients.initializeNodes config fromUrl answers s.manager } := rfl
  have unfolded : s.manager.initializeNodes config answers =
      match s.manager.discover config answers with
      | .error e d => .error e d.manager
      | .ok reachable d => conclude config reachable d := rfl
  rw [same, unfolded, NodeClients.initializeNodes]
  generalize s.clients.askStartupNodes config fromUrl answers s.manager.resetBalancer.startups
    (Discovery.begin s.manager.resetBalancer) = asked at learned ⊢
  cases ended : s.manager.discover config answers with
  | error e d =>
    rw [ended] at learned
    exact .brokeOff learned (by rw [Renews, ended])
  | ok reachable d =>
    have learned : Asked fromUrl s d asked := by
      rw [ended] at learned
      exact learned
    have renews : s.manager.Renews config fromUrl answers ↔
        if reachable = false then s.manager.Spares fromUrl d
        else if d.covered = false ∧ config.requireFullCoverage = true then
          s.manager.Unconnected s.manager.nodesCache
        else d.manager.Unconnected d.tmpNodes := by rw [Renews, ended]
    have opened : connected config d = d.manager.createRedisConnections (d.tmpNodes.map (·.2)) :=
      if_pos sync
    have stored := Frame.createRedisConnections (d.tmpNodes.map (·.2)) d.manager
    cases reachable with
    | false =>
      rw [if_pos rfl] at renews
      exact .brokeOff learned renews
    | true =>
      rw [if_neg (by decide)] at renews
      simp only
      unfold conclude
      by_cases required : d.covered = false ∧ config.requireFullCoverage = true
      · rw [if_pos required] at renews
        rw [required.1, required.2, opened]
        exact .uncovered learned renews
      · rw [if_neg required] at renews
        have complete : (!d.covered && config.requireFullCoverage) = false := by
          cases covered : d.covered with
          | true => rfl
          | false => simpa [covered] using required
        rw [complete, opened]
        simp only [adopt, sync, Bool.not_true, Bool.false_eq_true, ↓reduceIte, true_and]
        have table : (d.manager.createRedisConnections (d.tmpNodes.map (·.2))).startupNodes.getD
            (d.manager.createRedisConnections (d.tmpNodes.map (·.2))).nodesCache =
              s.manager.startupTable := by
          rw [stored.startupNodes, stored.nodesCache, learned.startupNodes, learned.nodesCache]
          rfl
        split
        · exact .adopted learned renews rfl rfl rfl (.inl table)
        · refine .adopted learned renews rfl rfl rfl ?_
          by_cases own : config.dynamicStartupNodes = true
          · right
            simp [stateAfter, startupTable, own]
          · left
            simpa [stateAfter, startupTable, own] using table

/-! ## Every change -/

variable {config : ClusterConfig} {fromUrl : Bool} {s : TokenCluster}

/-- A node without a client that is in `nodes_cache` is not asked. -/
theorem Sound.unasked (sound : s.Sound) {item : Text × Nat}
    (cached : item ∈ s.manager.nodesCache)
    (free : (s.manager.nodes item.2).connected = false) : item.2 ∉ s.manager.startups := by
  intro asked
  have connected := sound.shared item cached asked
  rw [free] at connected
  cases connected

/-- A node in `nodes_cache` gets no client while the startup nodes are asked. -/
theorem Asked.pools (sound : s.Sound) {d : Discovery} {asked : NodeClients}
    (learned : Asked fromUrl s d asked) {item : Text × Nat} (cached : item ∈ s.manager.nodesCache) :
    asked.pools item.2 = s.clients.pools item.2 := by
  cases before : s.clients.pools item.2 with
  | some pool => exact learned.opened.kept item.2 pool before
  | none =>
    cases after : asked.pools item.2 with
    | none => rfl
    | some pool =>
      have free : (s.manager.nodes item.2).connected = false := by
        rw [sound.serve.pooled, before]
        rfl
      rcases learned.opened.new item.2 pool after with old | ⟨among, _⟩
      · rw [before] at old
        cases old
      · exact absurd among (sound.unasked cached free)

/-- A refresh that has ended before it opened connections. -/
theorem Asked.rotates_iff_spares (sound : s.Sound) (rotates : s.Rotates) {d : Discovery}
    {asked : NodeClients} (learned : Asked fromUrl s d asked) :
    ({ manager := d.manager, clients := asked } : TokenCluster).Rotates ↔
      s.manager.Spares fromUrl d := by
  rw [rotates_iff] at rotates ⊢
  have live : ∀ pool, ({ manager := d.manager, clients := asked } : TokenCluster).Live pool ↔
      s.Live pool := by
    intro pool
    constructor
    · rintro ⟨item, cached, pooled⟩
      have before : item ∈ s.manager.nodesCache := learned.nodesCache ▸ cached
      exact ⟨item, before, (learned.pools sound before).symm.trans pooled⟩
    · rintro ⟨item, cached, pooled⟩
      exact ⟨item, learned.nodesCache.symm ▸ cached, (learned.pools sound cached).trans pooled⟩
  have flags : (∀ ref, (asked.pools ref).isSome = (s.clients.pools ref).isSome) ↔
      ∀ ref, (d.manager.nodes ref).connected = (s.manager.nodes ref).connected := by
    simp only [learned.serve.pooled, sound.serve.pooled]
  rw [Spares, ← flags]
  rcases learned.opened.registered with ⟨same, quiet⟩ | ⟨⟨new, above, alone⟩, own, ref, free, pooled⟩
  · -- nothing was registered
    constructor
    · exact fun _ => .inr quiet
    · intro _ pool alive
      rw [same]
      exact rotates pool ((live pool).mp alive)
  · -- only the last new client is registered, and no live pool is new
    have spared : (s.manager.Unconnected s.manager.nodesCache ∨ fromUrl = true ∨
        ∀ ref, (asked.pools ref).isSome = (s.clients.pools ref).isSome) ↔
          s.manager.Unconnected s.manager.nodesCache := by
      constructor
      · rintro (none | url | still)
        · exact none
        · rw [own] at url
          cases url
        · rw [still ref, free] at pooled
          cases pooled
      · exact .inl
    rw [spared]
    constructor
    · intro covered item cached
      by_contra connected
      obtain ⟨pool, found⟩ := sound.serve.pool_of_connected connected
      have reached := covered pool ((live pool).mpr ⟨item, cached, found⟩)
      have below := sound.serve.bounded item.2 pool found
      rw [alone, List.mem_singleton] at reached
      omega
    · intro none pool alive
      obtain ⟨item, cached, found⟩ := (live pool).mp alive
      rw [sound.serve.none_of_unconnected (none item cached)] at found
      cases found

/-- What is registered when connections were opened: the new pools. -/
theorem registered_listen (pools : List Nat) (c : NodeClients) :
    (c.listen 0 pools).registered = pools := by
  simp [NodeClients.listen, NodeClients.registered]

/-- A refresh that has ended before it adopted the topology. -/
theorem Asked.rotates_iff_unconnected (sound : s.Sound) {d : Discovery} {asked : NodeClients}
    (learned : Asked fromUrl s d asked) (refs : List Nat) :
    ({ manager := d.manager.createRedisConnections refs
       clients := asked.createRedisConnections fromUrl refs } : TokenCluster).Rotates ↔
      s.manager.Unconnected s.manager.nodesCache := by
  obtain ⟨made, pools, equal, opened, collects, _⟩ := createRedisConnections_opened fromUrl refs asked
  have cache : (d.manager.createRedisConnections refs).nodesCache = s.manager.nodesCache :=
    (createRedisConnections_caches refs d.manager).1.trans learned.nodesCache
  rw [rotates_iff, equal, registered_listen]
  constructor
  · intro covered item cached
    by_contra connected
    obtain ⟨pool, found⟩ := sound.serve.pool_of_connected connected
    have kept := opened.kept item.2 pool (learned.opened.kept item.2 pool found)
    have reached := covered pool ⟨item, cache.symm ▸ cached, kept⟩
    have above := collects.new pool reached
    have below := sound.serve.bounded item.2 pool found
    have between := learned.opened.poolCount
    omega
  · rintro none pool ⟨item, cached, pooled⟩
    have before : item ∈ s.manager.nodesCache := cache ▸ cached
    have free : asked.pools item.2 = Option.none := by
      rw [learned.pools sound before]
      exact sound.serve.none_of_unconnected (none item before)
    rcases opened.new item.2 pool pooled with old | ⟨among, _⟩
    · rw [free] at old
      cases old
    · obtain ⟨other, member, found⟩ := collects.served item.2 among free
      have same : other = pool := Option.some.inj (found.symm.trans pooled)
      rw [← same]
      exact member

/-- A refresh that has adopted the topology. -/
theorem Asked.rotates_iff_adopted {d : Discovery} {asked : NodeClients}
    (learned : Asked fromUrl s d asked) {later : NodesManager}
    (nodesCache : later.nodesCache = d.tmpNodes) :
    ({ manager := later
       clients := asked.createRedisConnections fromUrl (d.tmpNodes.map (·.2)) } :
      TokenCluster).Rotates ↔ d.manager.Unconnected d.tmpNodes := by
  obtain ⟨made, pools, equal, opened, collects, _⟩ :=
    createRedisConnections_opened fromUrl (d.tmpNodes.map (·.2)) asked
  rw [rotates_iff, equal, registered_listen]
  constructor
  · intro covered item found
    by_contra connected
    obtain ⟨pool, before⟩ := learned.serve.pool_of_connected connected
    have reached := covered pool ⟨item, nodesCache.symm ▸ found, opened.kept item.2 pool before⟩
    have above := collects.new pool reached
    have below := learned.serve.bounded item.2 pool before
    omega
  · rintro none pool ⟨item, cached, pooled⟩
    have found : item ∈ d.tmpNodes := nodesCache ▸ cached
    have free := learned.serve.none_of_unconnected (none item found)
    obtain ⟨other, member, served⟩ :=
      collects.served item.2 (List.mem_map.mpr ⟨item, found, rfl⟩) free
    have same : other = pool := Option.some.inj (served.symm.trans pooled)
    rw [← same]
    exact member

/-- After a refresh no live pool is left out if and only if it renews. -/
theorem refresh_rotates_iff (sync : config.flavor = .sync) (sound : s.Sound) (rotates : s.Rotates)
    (answers : Answers) :
    (s.change config fromUrl (.refresh answers)).Rotates ↔
      s.manager.Renews config fromUrl answers := by
  have refreshed := sound.refreshed sync fromUrl answers
  generalize s.change config fromUrl (.refresh answers) = after at refreshed ⊢
  cases refreshed with
  | brokeOff learned renews =>
    rw [renews]
    exact learned.rotates_iff_spares sound rotates
  | uncovered learned renews =>
    rw [renews]
    exact learned.rotates_iff_unconnected sound _
  | adopted learned renews nodes nodeCount nodesCache startups =>
    rw [renews]
    exact learned.rotates_iff_adopted nodesCache

/-- A refresh keeps what holds all along. -/
theorem Sound.refresh (sync : config.flavor = .sync) (sound : s.Sound) (answers : Answers) :
    (s.change config fromUrl (.refresh answers)).Sound := by
  have refreshed := sound.refreshed sync fromUrl answers
  have wellFormed : (s.change config fromUrl (.refresh answers)).manager.WellFormed :=
    initializeNodes_wellFormed config answers sound.wellFormed
  have started : Filed (s.change config fromUrl (.refresh answers)).manager
      (s.change config fromUrl (.refresh answers)).manager.startupTable :=
    initializeNodes_started config answers sound.wellFormed sound.started
  generalize s.change config fromUrl (.refresh answers) = after at refreshed wellFormed started ⊢
  -- connections are opened to existing nodes
  have known : ∀ {d asked}, Asked fromUrl s d asked →
      ∀ ref ∈ d.tmpNodes.map (·.2), ref < d.manager.nodeCount := by
    intro d asked learned ref member
    obtain ⟨item, found, rfl⟩ := List.mem_map.mp member
    exact (learned.wellFormed.filed item found).1
  -- a startup node in `nodes_cache` keeps its client
  have shared : ∀ {d asked}, Asked fromUrl s d asked → ∀ item ∈ s.manager.nodesCache,
      item.2 ∈ s.manager.startups → (d.manager.nodes item.2).connected = true := by
    intro d asked learned item cached among
    have before := sound.shared item cached among
    rw [sound.serve.pooled] at before
    rw [learned.serve.pooled]
    exact learned.opened.isSome before
  cases refreshed with
  | @brokeOff d asked learned renews =>
    have table : d.manager.startupTable = s.manager.startupTable := by
      rw [startupTable, startupTable, learned.startupNodes, learned.nodesCache]
    refine ⟨wellFormed, started, table ▸ sound.unique, learned.serve, fun item cached among => ?_⟩
    have before : item ∈ s.manager.nodesCache := learned.nodesCache ▸ cached
    have asked : item.2 ∈ s.manager.startups := by
      rw [startups_eq, table] at among
      exact among
    exact shared learned item before asked
  | @uncovered d asked learned renews =>
    have frame := Frame.createRedisConnections (d.tmpNodes.map (·.2)) d.manager
    have cache : (d.manager.createRedisConnections (d.tmpNodes.map (·.2))).nodesCache =
        s.manager.nodesCache := frame.nodesCache.trans learned.nodesCache
    have table : (d.manager.createRedisConnections (d.tmpNodes.map (·.2))).startupTable =
        s.manager.startupTable := by
      rw [startupTable, startupTable, frame.startupNodes, learned.startupNodes, cache]
    refine ⟨wellFormed, started, table ▸ sound.unique,
      learned.serve.createRedisConnections fromUrl (known learned), fun item cached among => ?_⟩
    have before : item ∈ s.manager.nodesCache := cache ▸ cached
    have asked : item.2 ∈ s.manager.startups := by
      rw [startups_eq, table] at among
      exact among
    rw [(createRedisConnections_connected _ _).2, shared learned item before asked, Bool.or_true]
  | @adopted d asked later learned renews nodes nodeCount nodesCache startups =>
    have serve := learned.serve.createRedisConnections fromUrl (known learned)
    have same : Serve later (asked.createRedisConnections fromUrl (d.tmpNodes.map (·.2))) := by
      refine ⟨fun ref outside => ?_, fun ref => ?_, serve.bounded⟩
      · rw [nodes]
        exact serve.blank ref (nodeCount ▸ outside)
      · rw [nodes]
        exact serve.pooled ref
    refine ⟨wellFormed, started, ?_, same, fun item cached _ => ?_⟩
    · rcases startups with old | new
      · exact old ▸ sound.unique
      · exact new ▸ learned.unique
    · have found : item ∈ d.tmpNodes := nodesCache ▸ cached
      rw [nodes, (createRedisConnections_connected _ _).2]
      simp [List.mem_map_of_mem found]

/-- A node that is popped from the startup nodes. -/
structure Popped (ref : Nat) (m popped : NodesManager) : Prop where
  /-- Nodes stay. -/
  nodes : popped.nodes = m.nodes
  /-- No node is made. -/
  nodeCount : popped.nodeCount = m.nodeCount
  /-- No node enters `nodes_cache`. -/
  nodesCache : ∀ item ∈ popped.nodesCache, item ∈ m.nodesCache
  /-- The other startup nodes are left. -/
  startups : ∀ item ∈ popped.startupTable, item ∈ m.startupTable ∧ item.2 ≠ ref

/-- The name of a node is popped. -/
theorem Sound.popped (sound : s.Sound) (ref : Nat) :
    Popped ref s.manager (s.manager.popStartup (s.manager.nodes ref).name) where
  nodes := by
    unfold popStartup
    cases s.manager.startupNodes <;> rfl
  nodeCount := by
    unfold popStartup
    cases s.manager.startupNodes <;> rfl
  nodesCache item cached := by
    unfold popStartup at cached
    cases own : s.manager.startupNodes with
    | some table =>
      rw [own] at cached
      exact cached
    | none =>
      rw [own] at cached
      exact List.mem_of_mem_eraseP cached
  startups item left := by
    rw [Stocked.startupTable_popStartup] at left
    have member : item ∈ s.manager.startupTable := List.mem_of_mem_eraseP left
    have keys : item.1 ∈ (s.manager.startupTable.erase (s.manager.nodes ref).name).keys :=
      List.mem_map.mpr ⟨item, left, rfl⟩
    have other := ((Dict.mem_keys_erase sound.unique).mp keys).2
    refine ⟨member, ?_⟩
    intro same
    have named := (sound.started item member).2
    rw [same] at named
    exact other named.symm

/-- A lost connection keeps what holds all along. -/
theorem Sound.lose (sound : s.Sound) (ref : Nat) : (s.change config fromUrl (.lose ref)).Sound := by
  have popped := sound.popped ref
  have table := Stocked.startupTable_popStartup (s.manager.nodes ref).name s.manager
  have wellFormed := RedisCluster.popStartup_wellFormed sound.wellFormed (s.manager.nodes ref).name
  have same : s.change config fromUrl (.lose ref) =
    { manager := (s.manager.popStartup (s.manager.nodes ref).name).dropConnection ref
      clients := s.clients.dropConnection ref } := rfl
  rw [same]
  generalize s.manager.popStartup (s.manager.nodes ref).name = left at popped table wellFormed ⊢
  have frame : Frame left (left.dropConnection ref) :=
    Frame.modifyNode left ref (fun _ => rfl) fun _ => rfl
  have tableAfter : (left.dropConnection ref).startupTable = left.startupTable := rfl
  have started : Filed left left.startupTable := by
    intro item member
    rw [popped.nodes, popped.nodeCount]
    exact sound.started item (popped.startups item member).1
  have connected : ∀ other, ((left.dropConnection ref).nodes other).connected =
      (!decide (other = ref) && (s.manager.nodes other).connected) := by
    intro other
    by_cases here : other = ref
    · simp [NodesManager.dropConnection, modifyNode, here]
    · simp [NodesManager.dropConnection, modifyNode, here, popped.nodes]
  refine ⟨wellFormed.grow frame.grows rfl rfl, started.grow frame.grows, ?_, ⟨?_, ?_, ?_⟩, ?_⟩
  · rw [tableAfter, table]
    exact sound.unique.erase _
  · intro other outside
    have beyond : s.manager.nodeCount ≤ other := popped.nodeCount ▸ outside
    rw [connected, sound.serve.blank other beyond, Bool.and_false]
  · intro other
    rw [connected, sound.serve.pooled]
    by_cases here : other = ref
    · simp [NodeClients.dropConnection, here]
    · simp [NodeClients.dropConnection, here]
  · intro other pool pooled
    by_cases here : other = ref
    · simp [NodeClients.dropConnection, here] at pooled
    · exact sound.serve.bounded other pool (by simpa [NodeClients.dropConnection, here] using pooled)
  · intro item cached among
    obtain ⟨startup, member, equal⟩ := List.mem_map.mp among
    obtain ⟨before, differs⟩ := popped.startups startup (tableAfter ▸ member)
    have still := sound.shared item (popped.nodesCache item cached)
      (List.mem_map.mpr ⟨startup, before, equal⟩)
    rw [equal] at differs
    simp [connected, differs, still]

/-- A lost connection leaves no live pool out. -/
theorem lose_rotates (sound : s.Sound) (rotates : s.Rotates) (ref : Nat) :
    (s.change config fromUrl (.lose ref)).Rotates := by
  rw [rotates_iff] at rotates ⊢
  rintro pool ⟨item, cached, pooled⟩
  have before : s.Live pool := by
    refine ⟨item, (sound.popped ref).nodesCache item cached, ?_⟩
    by_cases here : item.2 = ref
    · simp [change, NodeClients.dropConnection, here] at pooled
    · simpa [change, NodeClients.dropConnection, here] using pooled
  exact rotates pool before

/-- New startup nodes have no clients. -/
theorem populateStartupNodes_blank (config : ClusterConfig) (addresses : List (Text × Int))
    {m : NodesManager}
    (free : ∀ ref, (m.nodes ref).connected = false) (unique : m.startupTable.Unique) :
    (∀ ref, ((m.populateStartupNodes config addresses).nodes ref).connected = false) ∧
      (m.populateStartupNodes config addresses).startupTable.Unique := by
  induction addresses generalizing m with
  | nil => exact ⟨free, unique⟩
  | cons address addresses ih =>
    apply ih
    · intro ref
      by_cases here : ref = m.nodeCount
      · simp [newNode, here]
      · simp [newNode, here, free]
    · exact unique.set _ _

/-- What holds all along holds before the first discovery. -/
theorem start_sound (config : ClusterConfig) (addresses : List (Text × Int)) :
    (start config addresses).Sound := by
  obtain ⟨free, unique⟩ := populateStartupNodes_blank config addresses
    (m := NodesManager.empty) (fun _ => rfl) List.nodup_nil
  have cache : (start config addresses).manager.nodesCache = [] :=
    (populateStartupNodes_caches config addresses NodesManager.empty).1
  refine ⟨run_wellFormed config addresses [], run_started config addresses [], unique,
    ⟨fun ref _ => free ref, fun ref => free ref, ?_⟩, ?_⟩
  · intro ref pool pooled
    cases pooled
  · intro item cached
    rw [cache] at cached
    cases cached

/-- Before the first discovery there is no live pool. -/
theorem start_rotates (config : ClusterConfig) (addresses : List (Text × Int)) :
    (start config addresses).Rotates := by
  rw [rotates_iff]
  rintro pool ⟨item, cached, _⟩
  have cache : (start config addresses).manager.nodesCache = [] :=
    (populateStartupNodes_caches config addresses NodesManager.empty).1
  rw [cache] at cached
  cases cached

/-- A shard that keeps its nodes. -/
def discoveredTwice : List TopologyChange := [.refresh oneShard, .refresh oneShard]

/-- A refresh adopts a topology of nodes that have no clients. -/
def adoptsNew (config : ClusterConfig) (answers : Answers) (m : NodesManager) : Bool :=
  match m.discover config answers with
  | .error _ _ => false
  | .ok reachable d =>
    reachable && !config.requireFullCoverage &&
      d.tmpNodes.all fun item => !(d.manager.nodes item.2).connected

/-- All refreshes adopt topologies of nodes that have no clients. -/
def allNew (config : ClusterConfig) (fromUrl : Bool) : List Answers → TokenCluster → Bool
  | [], _ => true
  | answers :: later, s =>
    adoptsNew config answers s.manager &&
      allNew config fromUrl later (s.change config fromUrl (.refresh answers))

/-- A refresh that adopts a topology of nodes that have no clients renews them. -/
theorem renews_of_adoptsNew {answers : Answers} {m : NodesManager}
    (adopts : adoptsNew config answers m = true) : m.Renews config fromUrl answers := by
  unfold adoptsNew at adopts
  unfold Renews
  cases ended : m.discover config answers with
  | error e d =>
    rw [ended] at adopts
    cases adopts
  | ok reachable d =>
    rw [ended] at adopts
    simp only [Bool.and_eq_true, Bool.not_eq_true', List.all_eq_true] at adopts
    obtain ⟨⟨there, relaxed⟩, free⟩ := adopts
    have unconnected : d.manager.Unconnected d.tmpNodes := free
    simpa only [there, relaxed, Bool.true_eq_false, ↓reduceIte, Bool.false_eq_true, and_false]
      using unconnected

/-- Such refreshes are careful. -/
theorem each_of_allNew {all : List Answers} (new : allNew config fromUrl all s = true) :
    Runs.Each (change config fromUrl) (TopologyChange.Careful config fromUrl) s
      (all.map .refresh) := by
  induction all generalizing s with
  | nil => exact Runs.each_nil
  | cons answers later ih =>
    rw [allNew, Bool.and_eq_true] at new
    rw [List.map_cons, Runs.each_cons]
    have first : s.manager.Renews config fromUrl answers := renews_of_adoptsNew new.1
    exact ⟨first, ih new.2⟩

/-- The same shard after both of its nodes were replaced. -/
def replacedShard : Answers := fun _ => .ok
  [{ first := 5, last := 5, primary := ("127.0.0.1".toList, 7002),
     replicas := [("127.0.0.1".toList, 7003)] }]

end TokenCluster

end RedisPy

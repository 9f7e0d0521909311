import RedisPy.Cluster.NodesManager

/-!
# The invariant of a nodes manager

What every nodes manager keeps over its whole life: the node cache files each node under
its name, and each slot it knows has a non-empty list of existing nodes.
-/

namespace RedisPy

open Contract

namespace NodesManager

/-! ## The invariant -/

/-- Every node of the cache is filed under its name. -/
def Filed (m : NodesManager) (cache : Dict Text Nat) : Prop :=
  ∀ item ∈ cache, item.2 < m.nodeCount ∧ (m.nodes item.2).name = item.1

/-- Every slot of the table has a non-empty list of existing nodes. -/
def Served (m : NodesManager) (table : Dict Int Nat) : Prop :=
  ∀ item ∈ table, item.2 < m.listCount ∧ m.lists item.2 ≠ [] ∧
    ∀ ref ∈ m.lists item.2, ref < m.nodeCount

/-- A well-formed manager. -/
structure WellFormed (m : NodesManager) : Prop where
  /-- The node cache. -/
  filed : Filed m m.nodesCache
  /-- The slot table. -/
  served : Served m m.slotsCache

/-- The heaps only grow, and names and lists stay what they are. -/
structure Grows (m later : NodesManager) : Prop where
  /-- Nodes are added. -/
  nodeCount : m.nodeCount ≤ later.nodeCount
  /-- Lists are added. -/
  listCount : m.listCount ≤ later.listCount
  /-- Nodes keep their names. -/
  name : ∀ ref < m.nodeCount, (later.nodes ref).name = (m.nodes ref).name
  /-- Lists keep their members. -/
  lists : ∀ list < m.listCount, later.lists list = m.lists list

/-- Nothing grows in no time. -/
theorem Grows.refl (m : NodesManager) : Grows m m :=
  ⟨Nat.le_refl _, Nat.le_refl _, fun _ _ => rfl, fun _ _ => rfl⟩

/-- Growth adds up. -/
theorem Grows.trans {m n l : NodesManager} (first : Grows m n) (second : Grows n l) : Grows m l where
  nodeCount := Nat.le_trans first.nodeCount second.nodeCount
  listCount := Nat.le_trans first.listCount second.listCount
  name ref bound := by
    rw [second.name ref (Nat.lt_of_lt_of_le bound first.nodeCount), first.name ref bound]
  lists list bound := by
    rw [second.lists list (Nat.lt_of_lt_of_le bound first.listCount), first.lists list bound]

/-- Files survive growth. -/
theorem Filed.grow {m later : NodesManager} {cache : Dict Text Nat} (filed : Filed m cache)
    (grows : Grows m later) : Filed later cache := by
  intro item member
  obtain ⟨bound, name⟩ := filed item member
  exact ⟨Nat.lt_of_lt_of_le bound grows.nodeCount, by rw [grows.name _ bound, name]⟩

/-- Tables survive growth. -/
theorem Served.grow {m later : NodesManager} {table : Dict Int Nat} (served : Served m table)
    (grows : Grows m later) : Served later table := by
  intro item member
  obtain ⟨bound, some, inside⟩ := served item member
  rw [grows.lists _ bound]
  exact ⟨Nat.lt_of_lt_of_le bound grows.listCount, some,
    fun ref listed => Nat.lt_of_lt_of_le (inside ref listed) grows.nodeCount⟩

/-- A well-formed manager stays so when its heaps grow. -/
theorem WellFormed.grow {m later : NodesManager} (wellFormed : WellFormed m) (grows : Grows m later)
    (nodesCache : later.nodesCache = m.nodesCache) (slotsCache : later.slotsCache = m.slotsCache) :
    WellFormed later :=
  ⟨by rw [nodesCache]; exact wellFormed.filed.grow grows,
    by rw [slotsCache]; exact wellFormed.served.grow grows⟩

/-- One more node may be filed under its name. -/
theorem Filed.set {m : NodesManager} {cache : Dict Text Nat} (filed : Filed m cache) {ref : Nat}
    (bound : ref < m.nodeCount) : Filed m (cache.set (m.nodes ref).name ref) := by
  intro item member
  rcases Dict.mem_set member with rfl | old
  · exact ⟨bound, rfl⟩
  · exact filed item old

/-- One more slot may be served. -/
theorem Served.set {m : NodesManager} {table : Dict Int Nat} (served : Served m table)
    {slot : Int} {list : Nat} (bound : list < m.listCount) (some : m.lists list ≠ [])
    (inside : ∀ ref ∈ m.lists list, ref < m.nodeCount) : Served m (table.set slot list) := by
  intro item member
  rcases Dict.mem_set member with rfl | old
  · exact ⟨bound, some, inside⟩
  · exact served item old

/-- Changing a node without its address. -/
theorem grows_modifyNode (m : NodesManager) (ref : Nat) {change : ClusterNode → ClusterNode}
    (same : ∀ node, (change node).name = node.name) : Grows m (m.modifyNode ref change) where
  nodeCount := Nat.le_refl _
  listCount := Nat.le_refl _
  name other _ := by
    by_cases here : other = ref
    · simp [modifyNode, here, same]
    · simp [modifyNode, here]
  lists _ _ := rfl

/-- Changing a server type. -/
theorem grows_setServerType (m : NodesManager) (ref : Nat) (serverType : ServerType) :
    Grows m (m.setServerType ref serverType) :=
  grows_modifyNode m ref fun _ => rfl

/-- A new node. -/
theorem grows_newNode (config : ClusterConfig) (host : Text) (port : Int)
    (serverType : Option ServerType) (m : NodesManager) :
    Grows m (m.newNode config host port serverType).2 where
  nodeCount := Nat.le_succ _
  listCount := Nat.le_refl _
  name ref bound := by
    have other : ref ≠ m.nodeCount := Nat.ne_of_lt bound
    simp [newNode, other]
  lists _ _ := rfl

/-- A new list. -/
theorem grows_newList (members : List Nat) (m : NodesManager) : Grows m (m.newList members).2 where
  nodeCount := Nat.le_refl _
  listCount := Nat.le_succ _
  name _ _ := rfl
  lists list bound := by
    have other : list ≠ m.listCount := Nat.ne_of_lt bound
    simp [newList, other]

/-- New connections. -/
theorem grows_createRedisConnections (refs : List Nat) (m : NodesManager) :
    Grows m (m.createRedisConnections refs) := by
  induction refs generalizing m with
  | nil => exact .refl m
  | cons ref refs ih =>
    have head : Grows m (m.modifyNode ref fun node => { node with connected := true }) :=
      grows_modifyNode m ref fun _ => rfl
    exact head.trans (ih _)

/-- New connections leave the caches alone. -/
theorem createRedisConnections_caches (refs : List Nat) (m : NodesManager) :
    (m.createRedisConnections refs).nodesCache = m.nodesCache ∧
      (m.createRedisConnections refs).slotsCache = m.slotsCache := by
  induction refs generalizing m with
  | nil => exact ⟨rfl, rfl⟩
  | cons ref refs ih => exact ih (m.modifyNode ref fun node => { node with connected := true })

end NodesManager

open NodesManager

/-! ## Initialization keeps the invariant -/

/-- The caches under construction are as good as the ones in use. -/
structure Discovery.WellFormed (d : Discovery) : Prop where
  /-- The manager. -/
  manager : d.manager.WellFormed
  /-- `tmp_nodes_cache`. -/
  filed : Filed d.manager d.tmpNodes
  /-- `tmp_slots`. -/
  served : Served d.manager d.tmpSlots

namespace Discovery

/-- The manager grows and everything else stays. -/
theorem WellFormed.grow {d : Discovery} (wellFormed : d.WellFormed) {manager : NodesManager}
    (grows : Grows d.manager manager) (nodesCache : manager.nodesCache = d.manager.nodesCache)
    (slotsCache : manager.slotsCache = d.manager.slotsCache) :
    ({ d with manager } : Discovery).WellFormed :=
  ⟨wellFormed.manager.grow grows nodesCache slotsCache, wellFormed.filed.grow grows,
    wellFormed.served.grow grows⟩

/-- A node may be filed. -/
theorem WellFormed.file {d : Discovery} (wellFormed : d.WellFormed) {ref : Nat}
    (bound : ref < d.manager.nodeCount) :
    ({ d with tmpNodes := d.tmpNodes.set (d.manager.nodes ref).name ref } : Discovery).WellFormed :=
  ⟨wellFormed.manager, wellFormed.filed.set bound, wellFormed.served⟩

/-- Getting or creating a node gives an existing node. -/
theorem getOrCreateClusterNode_wellFormed (config : ClusterConfig) (address : Text × Int)
    (role : ServerType) {d : Discovery} (wellFormed : d.WellFormed) :
    (d.getOrCreateClusterNode config address role).2.WellFormed ∧
      (d.getOrCreateClusterNode config address role).1 <
        (d.getOrCreateClusterNode config address role).2.manager.nodeCount ∧
      Grows d.manager (d.getOrCreateClusterNode config address role).2.manager := by
  unfold getOrCreateClusterNode
  cases found : d.tmpNodes.get (getNodeName address.1 address.2) with
  | some ref =>
    have bound := (wellFormed.filed _ (Dict.mem_of_get found)).1
    cases config.flavor with
    | sync => exact ⟨wellFormed, bound, .refl _⟩
    | async => exact ⟨wellFormed.file bound, bound, .refl _⟩
  | none =>
    simp only
    cases known : (if config.flavor = .sync then
        d.manager.nodesCache.get (getNodeName address.1 address.2) else none).filter
          fun ref => (d.manager.nodes ref).connected with
    | some ref =>
      have cached : d.manager.nodesCache.get (getNodeName address.1 address.2) = some ref := by
        have stored := (Option.filter_eq_some_iff.mp known).1
        by_cases sync : config.flavor = .sync
        · simpa [sync] using stored
        · simp [sync] at stored
      have bound := (wellFormed.manager.filed _ (Dict.mem_of_get cached)).1
      have grows := grows_setServerType d.manager ref role
      have grown := wellFormed.grow grows rfl rfl
      exact ⟨grown.file bound, bound, grows⟩
    | none =>
      have grows := grows_newNode config address.1 address.2 (some role) d.manager
      have grown := wellFormed.grow grows rfl rfl
      exact ⟨grown.file (Nat.lt_succ_self _), Nat.lt_succ_self _, grows⟩

/-- The replicas of a section are existing nodes. -/
theorem replicaNodes_wellFormed (config : ClusterConfig) (addresses : List (Text × Int))
    {d : Discovery} (wellFormed : d.WellFormed) :
    (replicaNodes config addresses d).2.WellFormed ∧
      (∀ ref ∈ (replicaNodes config addresses d).1,
        ref < (replicaNodes config addresses d).2.manager.nodeCount) ∧
      Grows d.manager (replicaNodes config addresses d).2.manager := by
  induction addresses generalizing d with
  | nil => exact ⟨wellFormed, by simp [replicaNodes], .refl _⟩
  | cons address addresses ih =>
    obtain ⟨next, bound, grows⟩ :=
      getOrCreateClusterNode_wellFormed config (config.remap address) .replica wellFormed
    obtain ⟨last, inside, more⟩ := ih next
    refine ⟨last, ?_, grows.trans more⟩
    intro ref member
    rcases List.mem_cons.mp member with rfl | member
    · exact Nat.lt_of_lt_of_le bound more.nodeCount
    · exact inside ref member

/-- Slots are given a good list. -/
theorem assignSlots_wellFormed (target list : Nat) (slots : List Int) {d : Discovery}
    (wellFormed : d.WellFormed) (bound : list < d.manager.listCount)
    (some : d.manager.lists list ≠ [])
    (inside : ∀ ref ∈ d.manager.lists list, ref < d.manager.nodeCount) :
    (stateAfter (assignSlots target list slots d)).WellFormed := by
  induction slots generalizing d with
  | nil => exact wellFormed
  | cons slot slots ih =>
    rw [assignSlots]
    cases d.tmpSlots.get slot with
    | none =>
      exact ih ⟨wellFormed.manager, wellFormed.filed, wellFormed.served.set bound some inside⟩
        bound some inside
    | some stored =>
      have counted : ({ d with disagreements := d.disagreements + 1 } : Discovery).WellFormed :=
        ⟨wellFormed.manager, wellFormed.filed, wellFormed.served⟩
      by_cases differ : ((d.manager.lists stored).head?.any fun ref =>
          (d.manager.nodes ref).name ≠ (d.manager.nodes target).name) = true
      · simp only [if_pos differ]
        by_cases many : d.disagreements + 1 > 5
        · rw [if_pos many]
          exact counted
        · rw [if_neg many]
          exact ih counted bound some inside
      · simp only [if_neg differ]
        exact ih wellFormed bound some inside

/-- A section is read into good caches. -/
theorem readSection_wellFormed (config : ClusterConfig) (startupHost : Text) (sect : SlotSection)
    {d : Discovery} (wellFormed : d.WellFormed) :
    (stateAfter (d.readSection config startupHost sect)).WellFormed := by
  unfold readSection
  obtain ⟨host, port⟩ := sect.primary
  obtain ⟨next, bound, grows⟩ := getOrCreateClusterNode_wellFormed config
    (config.remap (if host = [] then startupHost else host, port)) .primary wellFormed
  obtain ⟨last, inside, more⟩ := replicaNodes_wellFormed config sect.replicas next
  simp only
  generalize getOrCreateClusterNode config
    (config.remap (if host = [] then startupHost else host, port)) .primary d = first at *
  generalize replicaNodes config sect.replicas first.2 = second at *
  have fresh := grows_newList (first.1 :: second.1) second.2.manager
  have members : (newList (first.1 :: second.1) second.2.manager).2.lists
      (newList (first.1 :: second.1) second.2.manager).1 = first.1 :: second.1 := by simp [newList]
  refine assignSlots_wellFormed first.1 _ _ (last.grow fresh rfl rfl) (Nat.lt_succ_self _) ?_ ?_
  · show (newList (first.1 :: second.1) second.2.manager).2.lists _ ≠ []
    rw [members]
    simp
  · show ∀ ref ∈ (newList (first.1 :: second.1) second.2.manager).2.lists _, _
    rw [members]
    intro ref member
    rcases List.mem_cons.mp member with rfl | member
    · exact Nat.lt_of_lt_of_le bound more.nodeCount
    · exact inside ref member

/-- An answer is read into good caches. -/
theorem readSections_wellFormed (config : ClusterConfig) (startupHost : Text)
    (sections : List SlotSection) {d : Discovery} (wellFormed : d.WellFormed) :
    (stateAfter (d.readSections config startupHost sections)).WellFormed := by
  induction sections generalizing d with
  | nil => exact wellFormed
  | cons sect sections ih =>
    have first := readSection_wellFormed config startupHost sect wellFormed
    rw [readSections]
    cases read : d.readSection config startupHost sect with
    | ok _ after =>
      rw [read] at first
      exact ih first
    | error e after =>
      rw [read] at first
      exact first

/-- The startup nodes are asked into good caches. -/
theorem askStartupNodes_wellFormed (config : ClusterConfig) (answers : Answers)
    (startups : List Nat) (reachable : Bool) {d : Discovery} (wellFormed : d.WellFormed) :
    (stateAfter (d.askStartupNodes config answers startups reachable)).WellFormed := by
  induction startups generalizing d reachable with
  | nil => exact wellFormed
  | cons startup others ih =>
    have grows : Grows d.manager
        (d.manager.modifyNode startup fun node => { node with connected := true }) :=
      grows_modifyNode d.manager startup fun _ => rfl
    have asked := wellFormed.grow grows rfl rfl
    rw [askStartupNodes]
    cases answered : answers
        ((d.manager.modifyNode startup fun node => { node with connected := true }).nodes startup) with
    | error e =>
      simp only
      exact ih reachable asked
    | ok sections =>
      simp only
      have read := readSections_wellFormed config
        ((d.manager.modifyNode startup fun node => { node with connected := true }).nodes startup).host
        sections asked
      cases ended : readSections config
          ((d.manager.modifyNode startup fun node => { node with connected := true }).nodes startup).host
          sections { d with
            manager := d.manager.modifyNode startup fun node => { node with connected := true } } with
      | error e after =>
        rw [ended] at read
        exact read
      | ok _ after =>
        rw [ended] at read
        by_cases full : after.covered = true
        · simp only [if_pos full]
          exact read
        · simp only [if_neg full]
          exact ih true read

end Discovery

namespace NodesManager

/-- Merging node caches keeps the nodes filed. -/
theorem Filed.setNodes {m : NodesManager} {old new : Dict Text Nat} (oldFiled : Filed m old)
    (newFiled : Filed m new) : Filed m (setNodes old new) := by
  have fold (items : Dict Text Nat) (filed : Filed m items) (start : Dict Text Nat)
      (startFiled : Filed m start) :
      Filed m (items.foldl (fun d item => d.set item.1 item.2) start) := by
    induction items generalizing start with
    | nil => exact startFiled
    | cons item items ih =>
      apply ih fun other member => filed other (List.mem_cons_of_mem item member)
      intro other member
      rcases Dict.mem_set member with rfl | kept
      · exact filed item List.mem_cons_self
      · exact startFiled other kept
  apply fold new newFiled
  intro item member
  exact oldFiled item (List.mem_of_mem_filter member)

/-- The end of `initialize` keeps the invariant. -/
theorem conclude_wellFormed (config : ClusterConfig) (reachable : Bool) {d : Discovery}
    (asked : d.WellFormed) : (stateAfter (conclude config reachable d)).WellFormed := by
  have grows : Grows d.manager (connected config d) := by
    unfold connected
    by_cases sync : config.flavor = .sync
    · rw [if_pos sync]
      exact grows_createRedisConnections _ _
    · rw [if_neg sync]
      exact .refl _
  have same : (connected config d).nodesCache = d.manager.nodesCache ∧
      (connected config d).slotsCache = d.manager.slotsCache := by
    unfold connected
    by_cases sync : config.flavor = .sync
    · rw [if_pos sync]
      exact createRedisConnections_caches _ _
    · rw [if_neg sync]
      exact ⟨rfl, rfl⟩
  have ready : (connected config d).WellFormed := asked.manager.grow grows same.1 same.2
  have filed := asked.filed.grow grows
  have served := asked.served.grow grows
  have merged := ready.filed.setNodes filed
  have adopted : ((connected config d).adopt config d).WellFormed := by
    unfold adopt
    cases config.flavor with
    | sync => exact ⟨filed, served⟩
    | async => exact ⟨merged, served⟩
  unfold conclude
  split
  · exact asked.manager
  · split
    · exact ready
    · simp only
      split
      · exact adopted
      · exact ⟨adopted.filed, adopted.served⟩

/-- `initialize` keeps a manager well-formed, also when it raises. -/
theorem initializeNodes_wellFormed (config : ClusterConfig) (answers : Answers) {m : NodesManager}
    (wellFormed : m.WellFormed) : (stateAfter (m.initializeNodes config answers)).WellFormed := by
  have start : (Discovery.begin m.resetBalancer).WellFormed := by
    refine ⟨⟨wellFormed.filed, wellFormed.served⟩, ?_, ?_⟩
    · intro item member
      cases member
    · intro item member
      cases member
  have asked := Discovery.askStartupNodes_wellFormed config answers m.resetBalancer.startups false start
  unfold initializeNodes
  cases ended : (Discovery.begin m.resetBalancer).askStartupNodes config answers
      m.resetBalancer.startups false with
  | error e d =>
    rw [ended] at asked
    simp only [ended]
    exact asked.manager
  | ok reachable d =>
    rw [ended] at asked
    simp only [ended]
    exact conclude_wellFormed config reachable asked

end NodesManager

end RedisPy

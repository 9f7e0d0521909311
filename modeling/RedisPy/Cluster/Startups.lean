import RedisPy.Cluster.Moved

/-!
# The startup nodes of a manager

Besides its caches a manager keeps the table of the nodes it asks for the topology, which
may be the node cache itself. That table holds existing nodes under their names in every
run, like the node cache does.
-/

namespace RedisPy

open Contract

namespace NodesManager

/-- `startup_nodes`. -/
def startupTable (m : NodesManager) : Dict Text Nat := m.startupNodes.getD m.nodesCache

/-! ## What a refresh leaves alone -/

/-- What a refresh leaves alone while it reads. -/
structure Frame (m later : NodesManager) : Prop where
  /-- The heaps grow. -/
  grows : Grows m later
  /-- `nodes_cache`. -/
  nodesCache : later.nodesCache = m.nodesCache
  /-- `slots_cache`. -/
  slotsCache : later.slotsCache = m.slotsCache
  /-- `default_node`. -/
  defaultNode : later.defaultNode = m.defaultNode
  /-- `startup_nodes`. -/
  startupNodes : later.startupNodes = m.startupNodes
  /-- Nodes keep their hosts. -/
  host : ∀ ref < m.nodeCount, (later.nodes ref).host = (m.nodes ref).host
  /-- Nodes keep their ports. -/
  port : ∀ ref < m.nodeCount, (later.nodes ref).port = (m.nodes ref).port

namespace Frame

/-- Nothing happened. -/
theorem refl (m : NodesManager) : Frame m m :=
  ⟨.refl m, rfl, rfl, rfl, rfl, fun _ _ => rfl, fun _ _ => rfl⟩

/-- Frames compose. -/
theorem trans {m n l : NodesManager} (first : Frame m n) (second : Frame n l) : Frame m l where
  grows := first.grows.trans second.grows
  nodesCache := second.nodesCache.trans first.nodesCache
  slotsCache := second.slotsCache.trans first.slotsCache
  defaultNode := second.defaultNode.trans first.defaultNode
  startupNodes := second.startupNodes.trans first.startupNodes
  host ref bound := by
    have later := Nat.lt_of_lt_of_le bound first.grows.nodeCount
    rw [second.host ref later, first.host ref bound]
  port ref bound := by
    have later := Nat.lt_of_lt_of_le bound first.grows.nodeCount
    rw [second.port ref later, first.port ref bound]

/-- A change of a node that keeps its address. -/
theorem modifyNode (m : NodesManager) (ref : Nat) {change : ClusterNode → ClusterNode}
    (host : ∀ node, (change node).host = node.host)
    (port : ∀ node, (change node).port = node.port) : Frame m (m.modifyNode ref change) where
  grows := grows_modifyNode m ref fun node => by simp [ClusterNode.name, host, port]
  nodesCache := rfl
  slotsCache := rfl
  defaultNode := rfl
  startupNodes := rfl
  host other _ := by
    by_cases here : other = ref
    · simp [NodesManager.modifyNode, here, host]
    · simp [NodesManager.modifyNode, here]
  port other _ := by
    by_cases here : other = ref
    · simp [NodesManager.modifyNode, here, port]
    · simp [NodesManager.modifyNode, here]

/-- A change of a server type. -/
theorem setServerType (m : NodesManager) (ref : Nat) (serverType : ServerType) :
    Frame m (m.setServerType ref serverType) :=
  modifyNode m ref (fun _ => rfl) fun _ => rfl

/-- A new node. -/
theorem newNode (config : ClusterConfig) (host : Text) (port : Int)
    (serverType : Option ServerType) (m : NodesManager) :
    Frame m (m.newNode config host port serverType).2 where
  grows := grows_newNode config host port serverType m
  nodesCache := rfl
  slotsCache := rfl
  defaultNode := rfl
  startupNodes := rfl
  host ref bound := by simp [NodesManager.newNode, Nat.ne_of_lt bound]
  port ref bound := by simp [NodesManager.newNode, Nat.ne_of_lt bound]

/-- A new list. -/
theorem newList (members : List Nat) (m : NodesManager) : Frame m (m.newList members).2 where
  grows := grows_newList members m
  nodesCache := rfl
  slotsCache := rfl
  defaultNode := rfl
  startupNodes := rfl
  host _ _ := rfl
  port _ _ := rfl

/-- New connections. -/
theorem createRedisConnections (refs : List Nat) (m : NodesManager) :
    Frame m (m.createRedisConnections refs) := by
  induction refs generalizing m with
  | nil => exact refl m
  | cons ref refs ih =>
    have first : Frame m (m.modifyNode ref fun node => { node with connected := true }) :=
      modifyNode m ref (fun _ => rfl) fun _ => rfl
    exact first.trans (ih _)

end Frame

end NodesManager

namespace Discovery

open NodesManager

/-- Finding or making a node. -/
theorem getOrCreateClusterNode_frame (config : ClusterConfig) (address : Text × Int)
    (role : ServerType) (d : Discovery) :
    Frame d.manager (d.getOrCreateClusterNode config address role).2.manager := by
  unfold getOrCreateClusterNode
  cases d.tmpNodes.get (getNodeName address.1 address.2) with
  | some ref =>
    cases config.flavor with
    | sync => exact .refl _
    | async => exact .refl _
  | none =>
    simp only
    split
    · exact .setServerType _ _ role
    · exact .newNode _ _ _ _ _

/-- The replicas of a section. -/
theorem replicaNodes_frame (config : ClusterConfig) (addresses : List (Text × Int))
    (d : Discovery) : Frame d.manager (replicaNodes config addresses d).2.manager := by
  induction addresses generalizing d with
  | nil => exact .refl _
  | cons address addresses ih =>
    have first := getOrCreateClusterNode_frame config (config.remap address) .replica d
    exact first.trans (ih _)

/-- Giving slots to a list. -/
theorem assignSlots_manager (target list : Nat) (slots : List Int) (d : Discovery) :
    (stateAfter (assignSlots target list slots d)).manager = d.manager := by
  induction slots generalizing d with
  | nil => rfl
  | cons slot slots ih =>
    rw [assignSlots]
    cases d.tmpSlots.get slot with
    | none => exact ih _
    | some stored =>
      simp only
      split
      · split
        · rfl
        · exact ih _
      · exact ih d

/-- A section. -/
theorem readSection_frame (config : ClusterConfig) (startupHost : Text) (sect : SlotSection)
    (d : Discovery) : Frame d.manager (stateAfter (d.readSection config startupHost sect)).manager := by
  unfold readSection
  simp only [assignSlots_manager]
  have first := getOrCreateClusterNode_frame config
    (config.remap (if sect.primary.1 = [] then startupHost else sect.primary.1, sect.primary.2))
    .primary d
  have second := replicaNodes_frame config sect.replicas (getOrCreateClusterNode config
    (config.remap (if sect.primary.1 = [] then startupHost else sect.primary.1, sect.primary.2))
    .primary d).2
  exact (first.trans second).trans (.newList _ _)

/-- An answer. -/
theorem readSections_frame (config : ClusterConfig) (startupHost : Text)
    (sections : List SlotSection) (d : Discovery) :
    Frame d.manager (stateAfter (d.readSections config startupHost sections)).manager := by
  induction sections generalizing d with
  | nil => exact .refl _
  | cons sect sections ih =>
    have first := readSection_frame config startupHost sect d
    rw [readSections]
    cases read : d.readSection config startupHost sect with
    | ok _ after =>
      rw [read] at first
      exact first.trans (ih after)
    | error e after =>
      rw [read] at first
      exact first

/-- Asking the startup nodes. -/
theorem askStartupNodes_frame (config : ClusterConfig) (answers : Answers) (startups : List Nat)
    (reachable : Bool) (d : Discovery) :
    Frame d.manager (stateAfter (d.askStartupNodes config answers startups reachable)).manager := by
  induction startups generalizing d reachable with
  | nil => exact .refl _
  | cons startup others ih =>
    have opened : Frame d.manager
        (d.manager.modifyNode startup fun node => { node with connected := true }) :=
      .modifyNode _ _ (fun _ => rfl) fun _ => rfl
    rw [askStartupNodes]
    split
    · have rest := ih reachable { d with
          manager := d.manager.modifyNode startup fun node => { node with connected := true } }
      exact opened.trans rest
    · next sections _ =>
      have read := readSections_frame config
        ((d.manager.modifyNode startup fun node => { node with connected := true }).nodes startup).host
        sections { d with
          manager := d.manager.modifyNode startup fun node => { node with connected := true } }
      split
      · next e after ended =>
        rw [ended] at read
        exact opened.trans read
      · next after ended =>
        rw [ended] at read
        split
        · exact opened.trans read
        · exact (opened.trans read).trans (ih true after)

end Discovery

namespace NodesManager

/-! ## Startup nodes are filed -/

/-- What every use but a refresh leaves alone. -/
structure Ages (m later : NodesManager) : Prop where
  /-- `startup_nodes`. -/
  startupNodes : later.startupNodes = m.startupNodes
  /-- Nodes are added. -/
  nodeCount : m.nodeCount ≤ later.nodeCount
  /-- Nodes keep their names. -/
  name : ∀ ref < m.nodeCount, (later.nodes ref).name = (m.nodes ref).name

/-- Growth alone leaves them alone. -/
theorem Grows.ages {m later : NodesManager} (grows : Grows m later)
    (startupNodes : later.startupNodes = m.startupNodes) : Ages m later :=
  ⟨startupNodes, grows.nodeCount, grows.name⟩

/-- Ages add up. -/
theorem Ages.trans {m n l : NodesManager} (first : Ages m n) (second : Ages n l) : Ages m l where
  startupNodes := second.startupNodes.trans first.startupNodes
  nodeCount := Nat.le_trans first.nodeCount second.nodeCount
  name ref bound := by
    rw [second.name ref (Nat.lt_of_lt_of_le bound first.nodeCount), first.name ref bound]

/-- Files survive. -/
theorem Filed.age {m later : NodesManager} {cache : Dict Text Nat} (filed : Filed m cache)
    (ages : Ages m later) : Filed later cache := by
  intro item member
  obtain ⟨bound, name⟩ := filed item member
  exact ⟨Nat.lt_of_lt_of_le bound ages.nodeCount, by rw [ages.name _ bound, name]⟩

/-- The startup nodes stay filed. -/
theorem Ages.started {m later : NodesManager} (ages : Ages m later)
    (started : Filed m m.startupTable) (wellFormed : later.WellFormed) :
    Filed later later.startupTable := by
  unfold startupTable at started ⊢
  rw [ages.startupNodes]
  cases own : m.startupNodes with
  | none => exact wellFormed.filed
  | some table =>
    rw [own] at started
    exact started.age ages

/-- The redirected node is found or made. -/
theorem redirectedNode_ages {config : ClusterConfig} {e : Redirect} {m after : NodesManager}
    {redirected : Nat} (found : m.redirectedNode config e = .ok (redirected, after)) :
    Ages m after := by
  unfold redirectedNode at found
  split at found
  · cases found
  · cases found
    exact (grows_setServerType m _ .primary).ages rfl
  · cases found
    have grows := grows_newNode config e.host e.port (some .primary) m
    exact ⟨rfl, grows.nodeCount, grows.name⟩

/-- Applying a redirection. -/
theorem updateMovedSlots_ages (config : ClusterConfig) (e : Redirect) (m : NodesManager) :
    Ages m (stateAfter (m.updateMovedSlots config e)) := by
  have refl : Ages m m := ⟨rfl, Nat.le_refl _, fun _ _ => rfl⟩
  unfold updateMovedSlots
  cases found : m.redirectedNode config e with
  | error raised => exact refl
  | ok pair =>
    obtain ⟨redirected, middle⟩ := pair
    have ages := redirectedNode_ages found
    simp only
    split
    · exact ages
    · split
      · split
        · exact ages
        · next oldPrimary _ _ =>
          exact ages.trans ⟨rfl, Nat.le_refl _, fun ref _ =>
            name_setServerType middle oldPrimary ref .replica⟩
      · exact ages.trans ⟨rfl, Nat.le_refl _, fun _ _ => rfl⟩

/-- A lookup. -/
theorem getNodeFromSlot_ages (config : ClusterConfig) (lookup : Lookup) (m : NodesManager) :
    Ages m (stateAfter (m.getNodeFromSlot config lookup)) := by
  have choice (m : NodesManager) : Ages m (stateAfter (m.chooseNode config lookup)) := by
    obtain ⟨readLoadBalancer, chosen⟩ := chooseNode_state config lookup m
    rw [chosen]
    exact ⟨rfl, Nat.le_refl _, fun _ _ => rfl⟩
  unfold getNodeFromSlot
  cases m.movedException with
  | none => exact choice m
  | some e =>
    have updated := updateMovedSlots_ages config e m
    cases ran : m.updateMovedSlots config e with
    | ok _ after =>
      rw [ran] at updated
      simp only [ran]
      exact updated.trans (choice after)
    | error raised after =>
      rw [ran] at updated
      simp only [ran]
      exact updated

/-- The connections that a refresh opens. -/
theorem connected_frame (config : ClusterConfig) (d : Discovery) :
    Frame d.manager (connected config d) := by
  unfold connected
  by_cases sync : config.flavor = .sync
  · rw [if_pos sync]
    exact .createRedisConnections _ _
  · rw [if_neg sync]
    exact .refl _

/-- Startup nodes stay filed within a frame. -/
theorem Frame.started {m later : NodesManager} (frame : Frame m later)
    (started : Filed m m.startupTable) : Filed later later.startupTable := by
  have same : later.startupTable = m.startupTable := by
    rw [startupTable, startupTable, frame.startupNodes, frame.nodesCache]
  rw [same]
  exact started.grow frame.grows

/-- The end of a refresh keeps the startup nodes filed. -/
theorem conclude_started (config : ClusterConfig) (reachable : Bool) {d : Discovery}
    (asked : d.WellFormed) (started : Filed d.manager d.manager.startupTable) :
    Filed (stateAfter (conclude config reachable d))
      (stateAfter (conclude config reachable d)).startupTable := by
  have frame := connected_frame config d
  have ready := frame.started started
  have fresh := asked.filed.grow frame.grows
  have wellFormed := asked.manager.grow frame.grows frame.nodesCache frame.slotsCache
  have merged := wellFormed.filed.setNodes fresh
  have adopted : Filed ((connected config d).adopt config d)
      ((connected config d).adopt config d).startupTable := by
    unfold adopt
    cases config.flavor with
    | sync => exact ready
    | async => exact ready.setNodes merged
  have shared : config.flavor = .sync → ((connected config d).adopt config d).nodesCache =
      d.tmpNodes := by
    intro sync
    simp only [adopt, sync]
  have nodes : ((connected config d).adopt config d).nodes = (connected config d).nodes ∧
      ((connected config d).adopt config d).nodeCount = (connected config d).nodeCount := by
    unfold adopt
    cases config.flavor <;> exact ⟨rfl, rfl⟩
  unfold conclude
  split
  · exact started
  · split
    · exact ready
    · simp only
      split
      · exact adopted
      · by_cases own : config.flavor = .sync ∧ config.dynamicStartupNodes = true
        · have table : Filed ((connected config d).adopt config d) d.tmpNodes := by
            intro item member
            rw [nodes.1, nodes.2]
            exact fresh item member
          simp only [stateAfter, startupTable, own, and_self, ↓reduceIte, Option.getD_none]
          rw [shared own.1]
          exact table
        · simp only [stateAfter, startupTable, own, ↓reduceIte]
          exact adopted

/-- A refresh keeps the startup nodes filed, also when it raises. -/
theorem initializeNodes_started (config : ClusterConfig) (answers : Answers) {m : NodesManager}
    (wellFormed : m.WellFormed) (started : Filed m m.startupTable) :
    Filed (stateAfter (m.initializeNodes config answers))
      (stateAfter (m.initializeNodes config answers)).startupTable := by
  have start : (Discovery.begin m.resetBalancer).WellFormed := by
    refine ⟨⟨wellFormed.filed, wellFormed.served⟩, ?_, ?_⟩
    · intro item member
      cases member
    · intro item member
      cases member
  have frame := Discovery.askStartupNodes_frame config answers m.resetBalancer.startups false
    (Discovery.begin m.resetBalancer)
  have asked := Discovery.askStartupNodes_wellFormed config answers m.resetBalancer.startups false
    start
  have before : Filed (Discovery.begin m.resetBalancer).manager
      (Discovery.begin m.resetBalancer).manager.startupTable := started
  unfold initializeNodes
  cases ended : (Discovery.begin m.resetBalancer).askStartupNodes config answers
      m.resetBalancer.startups false with
  | error e d =>
    rw [ended] at frame
    simp only [ended]
    exact frame.started before
  | ok reachable d =>
    rw [ended] at frame asked
    simp only [ended]
    exact conclude_started config reachable asked (frame.started before)

/-- A manager in use: besides its caches, its startup nodes are in order. -/
structure Standing extends NodesManager where
  /-- The caches. -/
  wellFormed : toNodesManager.WellFormed
  /-- The startup nodes. -/
  started : Filed toNodesManager toNodesManager.startupTable

/-- New startup nodes are filed. -/
theorem populateStartupNodes_started (config : ClusterConfig) (addresses : List (Text × Int))
    {m : NodesManager} (own : m.startupNodes ≠ none) (started : Filed m m.startupTable) :
    Filed (m.populateStartupNodes config addresses)
      (m.populateStartupNodes config addresses).startupTable := by
  induction addresses generalizing m with
  | nil => exact started
  | cons address addresses ih =>
    have grows := grows_newNode config address.1 address.2 none m
    have grown := started.grow grows
    apply ih
    · simp
    · exact grown.set (Nat.lt_succ_self _)

/-- Every use keeps the startup nodes filed. -/
theorem use_started (config : ClusterConfig) {m : NodesManager} (wellFormed : m.WellFormed)
    (started : Filed m m.startupTable) (use : Use) :
    Filed (m.use config use) (m.use config use).startupTable := by
  cases use with
  | discover answers => exact initializeNodes_started config answers wellFormed started
  | connect ref => exact (Frame.createRedisConnections [ref] m).started started
  | moved e => exact started
  | find lookup =>
    exact (getNodeFromSlot_ages config lookup m).started started
      (getNodeFromSlot_wellFormed config lookup wellFormed)

/-- Every run gives a manager whose startup nodes are filed. -/
theorem run_started (config : ClusterConfig) (addresses : List (Text × Int)) (uses : List Use) :
    Filed (run config addresses uses) (run config addresses uses).startupTable := by
  have start : Filed (empty.populateStartupNodes config addresses)
      (empty.populateStartupNodes config addresses).startupTable := by
    apply populateStartupNodes_started
    · exact Option.some_ne_none []
    · intro item member
      cases member
  have both : (run config addresses uses).WellFormed ∧
      Filed (run config addresses uses) (run config addresses uses).startupTable := by
    apply List.foldlRecOn uses (use config) (motive := fun m => m.WellFormed ∧ Filed m m.startupTable)
    · exact ⟨run_wellFormed config addresses [], start⟩
    · intro m kept step _
      exact ⟨use_wellFormed config kept.1 step, use_started config kept.1 kept.2 step⟩
  exact both.2

/-- The manager after a run. -/
def standing (config : ClusterConfig) (addresses : List (Text × Int)) (uses : List Use) :
    Standing where
  toNodesManager := run config addresses uses
  wellFormed := run_wellFormed config addresses uses
  started := run_started config addresses uses

end NodesManager

end RedisPy

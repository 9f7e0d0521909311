import RedisPy.Cluster.Startups

/-!
# Failed refreshes of the blocking client's topology

What a call of `initialize` leaves of the topology when it raises. The nodes it reads are
objects that the old topology may share, so what it does to them before it raises stays.
A survey says what a refresh learns without any objects; the objects follow it step by
step, and with it one can tell beforehand whether a failing refresh leaves a trace.
-/

namespace RedisPy

open Contract

namespace NodesManager

/-! ## The law -/

/-- The names of the nodes that a slot has. -/
def slotNames (m : NodesManager) (slot : Int) : Option (List Text) :=
  (m.slotNodes slot).map m.names

/-- The server type of the node that `nodes_cache` has under a name. -/
def typeOf (m : NodesManager) (name : Text) : Option (Option ServerType) :=
  (m.nodesCache.get name).map fun ref => (m.nodes ref).serverType

/-- What a failed refresh has to leave as it was. -/
structure View where
  /-- The names of each slot's nodes. -/
  slots : Int → Option (List Text)
  /-- The names and server types of `nodes_cache`. -/
  types : Text → Option (Option ServerType)
  /-- `default_node`. -/
  defaultNode : Option Nat
  /-- The names in `startup_nodes`. -/
  startups : List Text

/-- The view of a manager. -/
def view (m : NodesManager) : View where
  slots := m.slotNames
  types := m.typeOf
  defaultNode := m.defaultNode
  startups := m.startupTable.map (·.1)

/-- What `CLUSTER SLOTS` gives at each address. -/
abbrev AddressAnswers := Text × Int → Except Exc (List SlotSection)

/-- The answers by node. -/
def AddressAnswers.byNode (answers : AddressAnswers) : Answers :=
  fun node => answers (node.host, node.port)

/-- The law of a refresh with these answers: when it raises, the view is what it was. -/
def RefreshedAtomically (config : ClusterConfig) (answers : AddressAnswers) (m : NodesManager) :
    Prop :=
  match m.initializeNodes config answers.byNode with
  | .ok _ _ => True
  | .error _ after => after.view = m.view

end NodesManager

open NodesManager

/-! ## Surveys -/

/-- What a refresh has learned, without the objects that carry it. -/
structure Survey where
  /-- Startup nodes that were given a connection. -/
  opened : List Nat
  /-- The names read so far and the roles of their nodes. -/
  roles : Dict Text ServerType
  /-- The names whose nodes are taken over from `nodes_cache`, and the roles they get. -/
  taken : Dict Text ServerType
  /-- The names of each slot's nodes. -/
  slots : Dict Int (List Text)
  /-- The number of disagreements about primaries. -/
  disagreements : Nat

namespace Survey

/-- Nothing learned yet. -/
def begin : Survey := { opened := [], roles := [], taken := [], slots := [], disagreements := 0 }

/-- Whether `nodes_cache` has a connected node of this name that the class takes over. -/
def knows (config : ClusterConfig) (m : NodesManager) (s : Survey) (name : Text) : Bool :=
  config.flavor = .sync &&
    (m.nodesCache.get name).any fun ref => (m.nodes ref).connected || s.opened.contains ref

/-- A node is read in a role; a name that was read before keeps the role it has. -/
def mention (config : ClusterConfig) (m : NodesManager) (address : Text × Int) (role : ServerType)
    (s : Survey) : Text × Survey :=
  let name := getNodeName address.1 address.2
  if s.roles.contains name then (name, s)
  else if s.knows config m name then
    (name, { s with roles := s.roles.set name role, taken := s.taken.set name role })
  else
    let resolved := getNodeName (config.resolve address.1) address.2
    (resolved, { s with roles := s.roles.set resolved role })

/-- The replicas of a section are read. -/
def mentionReplicas (config : ClusterConfig) (m : NodesManager) :
    List (Text × Int) → Survey → List Text × Survey
  | [], s => ([], s)
  | address :: addresses, s =>
    let (name, s) := s.mention config m (config.remap address) .replica
    let (names, s) := mentionReplicas config m addresses s
    (name :: names, s)

/-- A section's slots are given to its nodes, up to a sixth disagreement. -/
def assign (target : Text) (members : List Text) :
    List Int → Survey → EStateM.Result Exc Survey Unit
  | [], s => .ok () s
  | slot :: slots, s =>
    match s.slots.get slot with
    | none => assign target members slots { s with slots := s.slots.set slot members }
    | some stored =>
      if stored.head?.any fun name => name ≠ target then
        let s := { s with disagreements := s.disagreements + 1 }
        if s.disagreements > 5 then .error { cls := .redisClusterException } s
        else assign target members slots s
      else assign target members slots s

/-- A section is read. -/
def readSection (config : ClusterConfig) (m : NodesManager) (startupHost : Text)
    (sect : SlotSection) (s : Survey) : EStateM.Result Exc Survey Unit :=
  let (host, port) := sect.primary
  let address := config.remap (if host = [] then startupHost else host, port)
  let (target, s) := s.mention config m address .primary
  let (replicas, s) := mentionReplicas config m sect.replicas s
  assign target (target :: replicas) sect.slots s

/-- An answer is read. -/
def readSections (config : ClusterConfig) (m : NodesManager) (startupHost : Text) :
    List SlotSection → Survey → EStateM.Result Exc Survey Unit
  | [], s => .ok () s
  | sect :: sections, s =>
    match s.readSection config m startupHost sect with
    | .ok _ s => readSections config m startupHost sections s
    | .error e s => .error e s

/-- All slots have nodes. -/
def covered (s : Survey) : Bool :=
  (List.range 16384).all fun slot => s.slots.contains (slot : Int)

/-- The startup nodes are asked, up to the first full coverage. -/
def ask (config : ClusterConfig) (m : NodesManager) (answers : AddressAnswers) :
    List Nat → Bool → Survey → EStateM.Result Exc Survey Bool
  | [], reachable, s => .ok reachable s
  | startup :: others, reachable, s =>
    let s := { s with opened := startup :: s.opened }
    match answers ((m.nodes startup).host, (m.nodes startup).port) with
    | .error _ => ask config m answers others reachable s
    | .ok sections =>
      match s.readSections config m (m.nodes startup).host sections with
      | .error e s => .error e s
      | .ok _ s => if s.covered then .ok true s else ask config m answers others true s

/-- Every node taken over has the role that it had. -/
def KeepsRoles (m : NodesManager) (s : Survey) : Prop :=
  ∀ name role, s.taken.get name = some role → m.typeOf name = some (some role)

/-- The survey found what the manager has. -/
def Agrees (m : NodesManager) (s : Survey) : Prop :=
  (∀ name, (s.roles.get name).map some = m.typeOf name) ∧
    ∀ slot, s.slots.get slot = m.slotNames slot

/-- Some name was read as a primary. -/
def NamesPrimary (s : Survey) : Prop := ∃ item ∈ s.roles, item.2 = ServerType.primary

end Survey

/-- A refresh that leaves no trace when it raises: a failure before the new topology is
adopted finds every node it has taken over in the role it had, and a topology without a
primary is adopted only where it is the old one. -/
def NodesManager.Traceless (config : ClusterConfig) (answers : AddressAnswers) (m : NodesManager) :
    Prop :=
  match Survey.begin.ask config m answers m.startups false with
  | .error _ s => s.KeepsRoles m
  | .ok reachable s =>
    if reachable = false then True
    else if s.covered = false ∧ config.requireFullCoverage = true then s.KeepsRoles m
    else s.NamesPrimary ∨ s.Agrees m

/-! ## Objects follow the survey -/

/-- The objects of a refresh that began at `m` carry what a survey says. -/
structure Survey.Describes (m : NodesManager) (d : Discovery) (s : Survey) : Prop where
  /-- The caches under construction are well-formed. -/
  wellFormed : d.WellFormed
  /-- What stays. -/
  frame : Frame m d.manager
  /-- Connections are opened to startup nodes only. -/
  connected : ∀ ref < m.nodeCount,
    (d.manager.nodes ref).connected = ((m.nodes ref).connected || s.opened.contains ref)
  /-- Server types change where nodes are taken over. -/
  type : ∀ name ref, m.nodesCache.get name = some ref →
    (d.manager.nodes ref).serverType =
      ((s.taken.get name).map some).getD (m.nodes ref).serverType
  /-- Nodes are taken over from `nodes_cache`. -/
  known : ∀ name role, s.taken.get name = some role → (m.nodesCache.get name).isSome
  /-- `tmp_nodes_cache`. -/
  roles : d.tmpNodes.mapValues (fun ref => (d.manager.nodes ref).serverType) =
    s.roles.mapValues some
  /-- `tmp_slots`. -/
  slots : d.tmpSlots.mapValues (fun list => d.manager.names (d.manager.lists list)) = s.slots
  /-- `disagreements`. -/
  disagreements : d.disagreements = s.disagreements

/-- A step over the objects ends as the survey's step does. -/
def Survey.Follows {α : Type} (m : NodesManager) :
    EStateM.Result Exc Discovery α → EStateM.Result Exc Survey α → Prop
  | .ok value d, .ok told s => value = told ∧ Describes m d s
  | .error _ d, .error _ s => Describes m d s
  | _, _ => False

/-- Both return, or both raise. -/
theorem Survey.Follows.together {α : Type} {m : NodesManager} {ran : EStateM.Result Exc Discovery α}
    {surveyed : EStateM.Result Exc Survey α} (follows : Follows m ran surveyed) :
    (∃ value d s, ran = .ok value d ∧ surveyed = .ok value s ∧ Describes m d s) ∨
      ∃ e other d s, ran = .error e d ∧ surveyed = .error other s ∧ Describes m d s := by
  cases ran with
  | ok value d =>
    cases surveyed with
    | ok told s => exact .inl ⟨value, d, s, rfl, by rw [follows.1], follows.2⟩
    | error other s => exact False.elim follows
  | error e d =>
    cases surveyed with
    | ok told s => exact False.elim follows
    | error other s => exact .inr ⟨e, other, d, s, rfl, rfl, follows⟩

namespace Survey.Describes

open Discovery

variable {m : NodesManager} {d : Discovery} {s : Survey}

/-- Slots keep their names when the heaps grow. -/
theorem slots_grow (wellFormed : d.WellFormed) {later : NodesManager} (grows : Grows d.manager later) :
    d.tmpSlots.mapValues (fun list => later.names (later.lists list)) =
      d.tmpSlots.mapValues fun list => d.manager.names (d.manager.lists list) := by
  apply Dict.mapValues_congr
  intro item member
  obtain ⟨bound, _, inside⟩ := wellFormed.served item member
  rw [grows.lists _ bound]
  exact List.map_congr_left fun ref listed => grows.name ref (inside ref listed)

/-- A stored name is a name that was read. -/
theorem contains_iff (describes : Describes m d s) (name : Text) :
    s.roles.contains name = (d.tmpNodes.get name).isSome := by
  rw [← Dict.contains_mapValues some, ← describes.roles, Dict.contains_mapValues,
    Dict.contains_eq_isSome_get]

/-- The nodes that can be taken over. -/
theorem known_eq {config : ClusterConfig} (describes : Describes m d s)
    (filed : Filed m m.nodesCache) (name : Text) :
    ((if config.flavor = .sync then d.manager.nodesCache.get name else none).filter fun ref =>
      (d.manager.nodes ref).connected).isSome = s.knows config m name := by
  rw [describes.frame.nodesCache, knows]
  by_cases sync : config.flavor = .sync
  · rw [if_pos sync, decide_eq_true sync, Bool.true_and]
    cases found : m.nodesCache.get name with
    | none => rfl
    | some ref =>
      have bound := (filed _ (Dict.mem_of_get found)).1
      rw [Option.any_some, ← describes.connected ref bound]
      cases same : (d.manager.nodes ref).connected <;> simp [Option.filter, same]
  · rw [if_neg sync, decide_eq_false sync, Bool.false_and]
    rfl

/-- A connected node of the old topology is taken over. -/
theorem take (filed : Filed m m.nodesCache) (describes : Describes m d s) {name : Text} {ref : Nat}
    (role : ServerType) (unread : d.tmpNodes.get name = none)
    (known : m.nodesCache.get name = some ref) :
    Describes m { d with
        manager := d.manager.setServerType ref role
        tmpNodes := d.tmpNodes.set name ref }
      { s with roles := s.roles.set name role, taken := s.taken.set name role } := by
  obtain ⟨bound, named⟩ := filed _ (Dict.mem_of_get known)
  have frame : Frame d.manager (d.manager.setServerType ref role) :=
    Frame.modifyNode d.manager ref (fun _ => rfl) fun _ => rfl
  have name_eq : (d.manager.nodes ref).name = name := by
    rw [describes.frame.grows.name ref bound, named]
  have later := describes.wellFormed.grow frame.grows frame.nodesCache frame.slotsCache
  have others : ∀ other, other ≠ ref →
      ((d.manager.setServerType ref role).nodes other).serverType =
        (d.manager.nodes other).serverType := by
    intro other ne
    simp [setServerType, NodesManager.modifyNode, ne]
  have itself : ((d.manager.setServerType ref role).nodes ref).serverType = some role := by
    simp [setServerType, NodesManager.modifyNode]
  constructor
  · have inside : ref < (d.manager.setServerType ref role).nodeCount :=
      Nat.lt_of_lt_of_le bound describes.frame.grows.nodeCount
    have stored := later.file inside
    have key : ((d.manager.setServerType ref role).nodes ref).name = name := by
      simpa [setServerType, NodesManager.modifyNode, ClusterNode.name] using name_eq
    simp only [key] at stored
    exact stored
  · exact describes.frame.trans frame
  · intro other inside
    rw [← describes.connected other inside]
    by_cases here : other = ref
    · simp [setServerType, NodesManager.modifyNode, here]
    · simp [setServerType, NodesManager.modifyNode, here]
  · intro other otherRef found
    by_cases same : name = other
    · subst same
      have refs : otherRef = ref := Option.some.inj (found.symm.trans known)
      simp only [refs, itself, Dict.get_set_self, Option.map_some, Option.getD_some]
    · have apart : otherRef ≠ ref := by
        intro refs
        have otherNamed := (filed _ (Dict.mem_of_get found)).2
        rw [refs, named] at otherNamed
        exact same otherNamed
      rw [others otherRef apart, Dict.get_set_ne _ _ same]
      exact describes.type other otherRef found
  · intro other given taken
    by_cases same : name = other
    · rw [← same, known]
      rfl
    · exact describes.known other given (by rwa [Dict.get_set_ne _ _ same] at taken)
  · have same : d.tmpNodes.mapValues
        (fun other => ((d.manager.setServerType ref role).nodes other).serverType) =
          d.tmpNodes.mapValues fun other => (d.manager.nodes other).serverType := by
      apply Dict.mapValues_congr
      intro item member
      apply others
      intro refs
      have filedAs := (describes.wellFormed.filed item member).2
      rw [refs, name_eq] at filedAs
      have pair : (name, item.2) ∈ d.tmpNodes := by
        rw [filedAs]
        exact member
      have stored := Dict.contains_of_mem pair
      rw [Dict.contains_eq_isSome_get, unread] at stored
      cases stored
    rw [Dict.mapValues_set, Dict.mapValues_set, same, describes.roles, itself]
  · rw [← describes.slots]
    exact slots_grow describes.wellFormed frame.grows
  · exact describes.disagreements

/-- A new node is made. -/
theorem fresh (config : ClusterConfig) (filed : Filed m m.nodesCache) (describes : Describes m d s)
    (address : Text × Int) (role : ServerType) :
    Describes m { d with
        manager := (d.manager.newNode config address.1 address.2 (some role)).2
        tmpNodes := d.tmpNodes.set (getNodeName (config.resolve address.1) address.2)
          d.manager.nodeCount }
      { s with roles := s.roles.set (getNodeName (config.resolve address.1) address.2) role } := by
  have frame := Frame.newNode config address.1 address.2 (some role) d.manager
  have later := describes.wellFormed.grow frame.grows frame.nodesCache frame.slotsCache
  have others : ∀ other < d.manager.nodeCount,
      (d.manager.newNode config address.1 address.2 (some role)).2.nodes other =
        d.manager.nodes other := by
    intro other inside
    simp [newNode, Nat.ne_of_lt inside]
  have itself : (d.manager.newNode config address.1 address.2 (some role)).2.nodes
      d.manager.nodeCount =
        { host := config.resolve address.1, port := address.2, serverType := some role,
          connected := false } := by
    simp [newNode]
  constructor
  · have inside : d.manager.nodeCount <
        (d.manager.newNode config address.1 address.2 (some role)).2.nodeCount := Nat.lt_succ_self _
    have stored := later.file inside
    simp only [itself, ClusterNode.name] at stored
    exact stored
  · exact describes.frame.trans frame
  · intro other inside
    rw [others other (Nat.lt_of_lt_of_le inside describes.frame.grows.nodeCount)]
    exact describes.connected other inside
  · intro other otherRef found
    have inside := (filed _ (Dict.mem_of_get found)).1
    rw [others otherRef (Nat.lt_of_lt_of_le inside describes.frame.grows.nodeCount)]
    exact describes.type other otherRef found
  · exact describes.known
  · have same : d.tmpNodes.mapValues (fun other =>
        ((d.manager.newNode config address.1 address.2 (some role)).2.nodes other).serverType) =
          d.tmpNodes.mapValues fun other => (d.manager.nodes other).serverType := by
      apply Dict.mapValues_congr
      intro item member
      rw [others _ (describes.wellFormed.filed item member).1]
    rw [Dict.mapValues_set, Dict.mapValues_set, same, describes.roles, itself]
  · rw [← describes.slots]
    exact slots_grow describes.wellFormed frame.grows
  · exact describes.disagreements

/-- A node is read in a role as the survey reads its name. -/
theorem mention (config : ClusterConfig) (filed : Filed m m.nodesCache)
    (describes : Describes m d s) (address : Text × Int) (role : ServerType) :
    Describes m (d.getOrCreateClusterNode config address role).2
        (s.mention config m address role).2 ∧
      ((d.getOrCreateClusterNode config address role).2.manager.nodes
        (d.getOrCreateClusterNode config address role).1).name =
          (s.mention config m address role).1 := by
  unfold Discovery.getOrCreateClusterNode Survey.mention
  simp only [describes.contains_iff, ← describes.known_eq filed]
  cases found : d.tmpNodes.get (getNodeName address.1 address.2) with
  | some ref =>
    have name := (describes.wellFormed.filed _ (Dict.mem_of_get found)).2
    cases config.flavor with
    | sync => exact ⟨describes, name⟩
    | async =>
      have same : d.tmpNodes.set (d.manager.nodes ref).name ref = d.tmpNodes := by
        rw [name]
        exact Dict.set_of_get found
      simp only [same]
      exact ⟨describes, name⟩
  | none =>
    simp only [Option.isSome_none, Bool.false_eq_true, ↓reduceIte]
    cases known : (if config.flavor = .sync then
        d.manager.nodesCache.get (getNodeName address.1 address.2) else none).filter
          fun ref => (d.manager.nodes ref).connected with
    | some ref =>
      have cached : d.manager.nodesCache.get (getNodeName address.1 address.2) = some ref := by
        have stored := (Option.filter_eq_some_iff.mp known).1
        by_cases sync : config.flavor = .sync
        · rwa [if_pos sync] at stored
        · rw [if_neg sync] at stored
          cases stored
      have named := (describes.wellFormed.manager.filed _ (Dict.mem_of_get cached)).2
      rw [describes.frame.nodesCache] at cached
      have key : ((d.manager.setServerType ref role).nodes ref).name =
          getNodeName address.1 address.2 := by
        simpa [setServerType, NodesManager.modifyNode, ClusterNode.name] using named
      simp only [key, Option.isSome_some, ↓reduceIte]
      exact ⟨describes.take filed role found cached, trivial⟩
    | none =>
      have key : ((d.manager.newNode config address.1 address.2 (some role)).2.nodes
          d.manager.nodeCount).name = getNodeName (config.resolve address.1) address.2 := by
        simp [newNode, ClusterNode.name]
      simp only [Option.isSome_none, Bool.false_eq_true, ↓reduceIte]
      refine ⟨?_, key⟩
      show Describes m { d with
          manager := (d.manager.newNode config address.1 address.2 (some role)).2
          tmpNodes := d.tmpNodes.set
            ((d.manager.newNode config address.1 address.2 (some role)).2.nodes
              d.manager.nodeCount).name d.manager.nodeCount } _
      rw [key]
      exact describes.fresh config filed address role

/-- The replicas of a section are read as the survey reads their names. -/
theorem mentionReplicas (config : ClusterConfig)
    (filed : Filed m m.nodesCache) (describes : Describes m d s)
    (addresses : List (Text × Int)) :
    Describes m (d.replicaNodes config addresses).2 (s.mentionReplicas config m addresses).2 ∧
      (d.replicaNodes config addresses).2.manager.names (d.replicaNodes config addresses).1 =
        (s.mentionReplicas config m addresses).1 := by
  induction addresses generalizing d s with
  | nil => exact ⟨describes, rfl⟩
  | cons address addresses ih =>
    obtain ⟨next, name⟩ := describes.mention config filed (config.remap address) .replica
    obtain ⟨last, names⟩ := ih next
    refine ⟨last, ?_⟩
    have bound := (Discovery.getOrCreateClusterNode_wellFormed config (config.remap address)
      .replica describes.wellFormed).2.1
    have grows := (Discovery.replicaNodes_wellFormed config addresses next.wellFormed).2.2
    show ((replicaNodes config addresses
        (getOrCreateClusterNode config (config.remap address) .replica d).2).2.manager.nodes
          (getOrCreateClusterNode config (config.remap address) .replica d).1).name :: _ =
      (Survey.mention config m (config.remap address) .replica s).1 :: _
    rw [← name, grows.name _ bound]
    exact congrArg _ names

/-- Slots are assigned as the survey assigns them. -/
theorem assign (describes : Describes m d s) {target list : Nat} {name : Text}
    {members : List Text} (slots : List Int) (named : (d.manager.nodes target).name = name)
    (bound : list < d.manager.listCount) (some : d.manager.lists list ≠ [])
    (inside : ∀ ref ∈ d.manager.lists list, ref < d.manager.nodeCount)
    (names : d.manager.names (d.manager.lists list) = members) :
    Follows m (d.assignSlots target list slots) (s.assign name members slots) := by
  induction slots generalizing d s with
  | nil => exact ⟨rfl, describes⟩
  | cons slot slots ih =>
    have found := congrArg (fun table => Dict.get table slot) describes.slots
    simp only [Dict.get_mapValues] at found
    rw [Discovery.assignSlots, Survey.assign, ← found]
    cases stored : d.tmpSlots.get slot with
    | none =>
      have served : Served d.manager (d.tmpSlots.set slot list) :=
        describes.wellFormed.served.set bound some inside
      have next : Describes m { d with tmpSlots := d.tmpSlots.set slot list }
          { s with slots := s.slots.set slot members } :=
        ⟨⟨describes.wellFormed.manager, describes.wellFormed.filed, served⟩, describes.frame,
          describes.connected, describes.type, describes.known, describes.roles,
          by rw [Dict.mapValues_set, describes.slots, names], describes.disagreements⟩
      exact ih next named bound some inside names
    | some earlier =>
      have first : (d.manager.names (d.manager.lists earlier)).head?.any (fun other => other ≠ name) =
          (d.manager.lists earlier).head?.any fun ref =>
            (d.manager.nodes ref).name ≠ (d.manager.nodes target).name := by
        rw [NodesManager.names, List.head?_map, Option.any_map, named]
      have counted : Describes m { d with disagreements := d.disagreements + 1 }
          { s with disagreements := d.disagreements + 1 } :=
        ⟨⟨describes.wellFormed.manager, describes.wellFormed.filed, describes.wellFormed.served⟩,
          describes.frame, describes.connected, describes.type, describes.known, describes.roles,
          describes.slots, rfl⟩
      simp only [Option.map_some, first]
      by_cases differ : ((d.manager.lists earlier).head?.any fun ref =>
          (d.manager.nodes ref).name ≠ (d.manager.nodes target).name) = true
      · simp only [if_pos differ, ← describes.disagreements]
        by_cases many : d.disagreements + 1 > 5
        · rw [if_pos many, if_pos many]
          exact counted
        · rw [if_neg many, if_neg many]
          exact ih counted named bound some inside names
      · simp only [if_neg differ]
        exact ih describes named bound some inside names

/-- A section is read as the survey reads it. -/
theorem readSection (config : ClusterConfig)
    (filed : Filed m m.nodesCache) (describes : Describes m d s) (startupHost : Text)
    (sect : SlotSection) :
    Follows m (d.readSection config startupHost sect)
      (s.readSection config m startupHost sect) := by
  unfold Discovery.readSection Survey.readSection
  obtain ⟨host, port⟩ := sect.primary
  obtain ⟨next, name⟩ := describes.mention config filed
    (config.remap (if host = [] then startupHost else host, port)) .primary
  obtain ⟨last, names⟩ := next.mentionReplicas config filed sect.replicas
  have bound := (getOrCreateClusterNode_wellFormed config
    (config.remap (if host = [] then startupHost else host, port)) .primary describes.wellFormed).2.1
  obtain ⟨_, inside, more⟩ := replicaNodes_wellFormed config sect.replicas next.wellFormed
  simp only
  generalize getOrCreateClusterNode config
    (config.remap (if host = [] then startupHost else host, port)) .primary d = first at *
  generalize Survey.mention config m
    (config.remap (if host = [] then startupHost else host, port)) .primary s = heard at *
  generalize replicaNodes config sect.replicas first.2 = second at *
  generalize Survey.mentionReplicas config m sect.replicas heard.2 = told at *
  have listed := Frame.newList (first.1 :: second.1) second.2.manager
  have members : (newList (first.1 :: second.1) second.2.manager).2.lists
      (newList (first.1 :: second.1) second.2.manager).1 = first.1 :: second.1 := by simp [newList]
  have fits : (newList (first.1 :: second.1) second.2.manager).1 <
      (newList (first.1 :: second.1) second.2.manager).2.listCount := Nat.lt_succ_self _
  have sameNodes : (newList (first.1 :: second.1) second.2.manager).2.nodes =
      second.2.manager.nodes := rfl
  have grown : Describes m { second.2 with
      manager := (newList (first.1 :: second.1) second.2.manager).2 } told.2 :=
    ⟨last.wellFormed.grow listed.grows rfl rfl, last.frame.trans listed, last.connected, last.type,
      last.known, last.roles, by rw [← last.slots]; exact slots_grow last.wellFormed listed.grows,
      last.disagreements⟩
  generalize newList (first.1 :: second.1) second.2.manager = made at *
  have target : first.1 < made.2.nodeCount :=
    Nat.lt_of_lt_of_le bound (Nat.le_trans more.nodeCount listed.grows.nodeCount)
  have targetName : (made.2.nodes first.1).name = heard.1 := by
    rw [sameNodes, more.name _ bound, name]
  have every : made.2.names (made.2.lists made.1) = heard.1 :: told.1 := by
    rw [members, ← names, ← targetName, NodesManager.names, NodesManager.names, sameNodes]
    rfl
  have some : made.2.lists made.1 ≠ [] := by
    rw [members]
    exact List.cons_ne_nil _ _
  have known : ∀ ref ∈ made.2.lists made.1, ref < made.2.nodeCount := by
    rw [members]
    intro ref member
    rcases List.mem_cons.mp member with rfl | member
    · exact target
    · exact Nat.lt_of_lt_of_le (inside ref member) listed.grows.nodeCount
  exact grown.assign sect.slots targetName fits some known every

/-- An answer is read as the survey reads it. -/
theorem readSections (config : ClusterConfig)
    (filed : Filed m m.nodesCache) (describes : Describes m d s) (startupHost : Text)
    (sections : List SlotSection) :
    Follows m (d.readSections config startupHost sections)
      (s.readSections config m startupHost sections) := by
  induction sections generalizing d s with
  | nil => exact ⟨rfl, describes⟩
  | cons sect sections ih =>
    rw [Discovery.readSections, Survey.readSections]
    rcases (describes.readSection config filed startupHost sect).together with
      ⟨_, after, told, read, surveyed, next⟩ | ⟨_, _, after, told, read, surveyed, next⟩
    · rw [read, surveyed]
      exact ih next
    · rw [read, surveyed]
      exact next

/-- Coverage is what the survey says. -/
theorem covered_eq (describes : Describes m d s) : d.covered = s.covered := by
  have each : (fun slot : Nat => s.slots.contains (slot : Int)) =
      fun slot : Nat => d.tmpSlots.contains (slot : Int) := by
    funext slot
    rw [← describes.slots, Dict.contains_mapValues]
  rw [Discovery.covered, Survey.covered, each]

/-- A startup node gets a connection. -/
theorem opens (describes : Describes m d s) (startup : Nat) :
    Describes m
      { d with manager := d.manager.modifyNode startup fun node => { node with connected := true } }
      { s with opened := startup :: s.opened } := by
  have frame : Frame d.manager
      (d.manager.modifyNode startup fun node => { node with connected := true }) :=
    Frame.modifyNode d.manager startup (fun _ => rfl) fun _ => rfl
  have types : ∀ ref, ((d.manager.modifyNode startup fun node =>
      { node with connected := true }).nodes ref).serverType = (d.manager.nodes ref).serverType := by
    intro ref
    by_cases here : ref = startup
    · simp [NodesManager.modifyNode, here]
    · simp [NodesManager.modifyNode, here]
  constructor
  · exact describes.wellFormed.grow frame.grows frame.nodesCache frame.slotsCache
  · exact describes.frame.trans frame
  · intro ref inside
    by_cases here : ref = startup
    · simp [NodesManager.modifyNode, here]
    · have before := describes.connected ref inside
      simpa [NodesManager.modifyNode, here] using before
  · intro name ref found
    rw [types]
    exact describes.type name ref found
  · exact describes.known
  · simp only [types]
    exact describes.roles
  · rw [← describes.slots]
    exact slots_grow describes.wellFormed frame.grows
  · exact describes.disagreements

/-- The startup nodes are asked as the survey asks them. -/
theorem askStartupNodes (config : ClusterConfig)
    (filed : Filed m m.nodesCache) (describes : Describes m d s) (answers : AddressAnswers)
    (startups : List Nat) (known : ∀ startup ∈ startups, startup < m.nodeCount)
    (reachable : Bool) :
    Follows m (d.askStartupNodes config answers.byNode startups reachable)
      (s.ask config m answers startups reachable) := by
  induction startups generalizing d s reachable with
  | nil => exact ⟨rfl, describes⟩
  | cons startup others ih =>
    have opened := describes.opens startup
    have inside := known startup List.mem_cons_self
    have host := opened.frame.host startup inside
    have port := opened.frame.port startup inside
    have rest := fun other member => known other (List.mem_cons_of_mem startup member)
    rw [Discovery.askStartupNodes, Survey.ask]
    simp only [AddressAnswers.byNode] at host port ⊢
    rw [host, port]
    cases answers ((m.nodes startup).host, (m.nodes startup).port) with
    | error e => exact ih opened rest reachable
    | ok sections =>
      simp only
      rcases (opened.readSections config filed (m.nodes startup).host sections).together with
        ⟨_, after, told, read, surveyed, next⟩ | ⟨_, _, after, told, read, surveyed, next⟩
      · rw [read, surveyed]
        simp only [next.covered_eq]
        cases told.covered with
        | true => exact ⟨rfl, next⟩
        | false => exact ih next rest true
      · rw [read, surveyed]
        exact next

/-- A refresh begins with nothing learned. -/
theorem begin (wellFormed : m.WellFormed) :
    Describes m (Discovery.begin m.resetBalancer) Survey.begin where
  wellFormed := by
    refine ⟨⟨wellFormed.filed, wellFormed.served⟩, ?_, ?_⟩
    · intro item member
      cases member
    · intro item member
      cases member
  frame :=
    ⟨⟨Nat.le_refl _, Nat.le_refl _, fun _ _ => rfl, fun _ _ => rfl⟩, rfl, rfl, rfl, rfl,
      fun _ _ => rfl, fun _ _ => rfl⟩
  connected _ _ := by simp [Discovery.begin, Survey.begin, resetBalancer]
  type _ _ _ := rfl
  known _ _ taken := by cases taken
  roles := rfl
  slots := rfl
  disagreements := rfl

end Survey.Describes

/-! ## The law -/

namespace NodesManager

/-- What a manager shows while nothing is adopted. -/
theorem view_of_frame {m later : NodesManager} (wellFormed : m.WellFormed) (frame : Frame m later) :
    later.view = { m.view with types := later.typeOf } := by
  have slots : later.slotNames = m.slotNames := by
    funext slot
    unfold slotNames slotNodes
    rw [frame.slotsCache]
    cases found : m.slotsCache.get slot with
    | none => rfl
    | some list =>
      obtain ⟨bound, _, inside⟩ := wellFormed.served _ (Dict.mem_of_get found)
      simp only [Option.map_some, frame.grows.lists list bound]
      congr 1
      exact List.map_congr_left fun ref member => frame.grows.name ref (inside ref member)
  simp only [view, slots, startupTable, frame.startupNodes, frame.nodesCache, frame.defaultNode]

/-- A manager whose nodes were taken over has the same types when they kept their roles. -/
theorem typeOf_taken_iff {m later : NodesManager} {d : Discovery} {s : Survey}
    (describes : s.Describes m d) (nodesCache : later.nodesCache = m.nodesCache)
    (types : ∀ ref, (later.nodes ref).serverType = (d.manager.nodes ref).serverType) :
    later.typeOf = m.typeOf ↔ s.KeepsRoles m := by
  constructor
  · intro same name role taken
    obtain ⟨ref, found⟩ := Option.isSome_iff_exists.mp (describes.known name role taken)
    have now : later.typeOf name = some (some role) := by
      rw [typeOf, nodesCache, found, Option.map_some, types, describes.type name ref found, taken]
      rfl
    rw [← same, now]
  · intro keeps
    funext name
    rw [typeOf, typeOf, nodesCache]
    cases found : m.nodesCache.get name with
    | none => rfl
    | some ref =>
      rw [Option.map_some, Option.map_some, types, describes.type name ref found]
      cases taken : s.taken.get name with
      | none => rfl
      | some role =>
        have kept := keeps name role taken
        rw [typeOf, found, Option.map_some] at kept
        rw [Option.some.inj kept]
        rfl

/-- A refresh that raises before it adopts anything leaves no trace where the nodes it took
over kept their roles. -/
theorem view_unadopted_iff {m later : NodesManager} {d : Discovery} {s : Survey}
    (wellFormed : m.WellFormed) (describes : s.Describes m d) (frame : Frame m later)
    (types : ∀ ref, (later.nodes ref).serverType = (d.manager.nodes ref).serverType) :
    later.view = m.view ↔ s.KeepsRoles m := by
  rw [← typeOf_taken_iff describes frame.nodesCache types, view_of_frame wellFormed frame]
  constructor
  · intro same
    exact congrArg View.types same
  · intro same
    rw [same]
    rfl

/-- New connections do not change server types. -/
theorem createRedisConnections_serverType (refs : List Nat) (m : NodesManager) (ref : Nat) :
    ((m.createRedisConnections refs).nodes ref).serverType = (m.nodes ref).serverType := by
  induction refs generalizing m with
  | nil => rfl
  | cons first refs ih =>
    have rest := ih (m.modifyNode first fun node => { node with connected := true })
    have one : ((m.modifyNode first fun node => { node with connected := true }).nodes
        ref).serverType = (m.nodes ref).serverType := by
      by_cases here : ref = first
      · simp [modifyNode, here]
      · simp [modifyNode, here]
    exact rest.trans one

/-- Once a startup node was reachable the refresh does not forget it. -/
theorem ask_reachable (config : ClusterConfig) (m : NodesManager) (answers : AddressAnswers)
    (startups : List Nat) {s after : Survey} {reachable : Bool}
    (asked : s.ask config m answers startups true = .ok reachable after) : reachable = true := by
  induction startups generalizing s with
  | nil =>
    cases asked
    rfl
  | cons startup others ih =>
    rw [Survey.ask] at asked
    split at asked
    · exact ih asked
    · split at asked
      · cases asked
      · split at asked
        · cases asked
          rfl
        · exact ih asked

/-- Without a reachable startup node no node is taken over. -/
theorem ask_unreachable (config : ClusterConfig) (m : NodesManager) (answers : AddressAnswers)
    (startups : List Nat) {s after : Survey}
    (asked : s.ask config m answers startups false = .ok false after) : after.taken = s.taken := by
  induction startups generalizing s with
  | nil =>
    cases asked
    rfl
  | cons startup others ih =>
    rw [Survey.ask] at asked
    split at asked
    · have rest := ih asked
      exact rest
    · split at asked
      · cases asked
      · split at asked
        · cases asked
        · have reached := ask_reachable config m answers others asked
          cases reached

/-- The adopted topology has a primary when one was named. -/
theorem adopted_primary_iff {m later : NodesManager} {d : Discovery} {s : Survey}
    (describes : s.Describes m d) (nodesCache : later.nodesCache = d.tmpNodes)
    (types : ∀ ref, (later.nodes ref).serverType = (d.manager.nodes ref).serverType) :
    later.getNodesByServerType .primary ≠ [] ↔ s.NamesPrimary := by
  have items : ∀ type, (∃ item ∈ d.tmpNodes, (d.manager.nodes item.2).serverType = some type) ↔
      ∃ item ∈ s.roles, item.2 = type := by
    intro type
    have mapped := congrArg (fun items => ∃ item ∈ items, item.2 = some type) describes.roles
    simpa [Dict.mapValues] using mapped
  rw [Survey.NamesPrimary, ← items, getNodesByServerType, nodesCache]
  simp only [types, ne_eq, List.filter_eq_nil_iff, List.mem_map, not_forall, not_not, beq_iff_eq]
  constructor
  · rintro ⟨_, ⟨item, member, rfl⟩, type⟩
    exact ⟨item, member, type⟩
  · rintro ⟨item, member, type⟩
    exact ⟨item.2, ⟨item, member, rfl⟩, type⟩

/-- An adopted topology shows what the manager had where the survey agrees with it. -/
theorem view_adopted_iff {config : ClusterConfig} (sync : config.flavor = .sync) {m : NodesManager}
    {d : Discovery} {s : Survey} (describes : s.Describes m d) :
    ((connected config d).adopt config d).view = m.view ↔ s.Agrees m := by
  have opened : connected config d = d.manager.createRedisConnections (d.tmpNodes.map (·.2)) :=
    if_pos sync
  have frame : Frame d.manager (connected config d) := by
    rw [opened]
    exact Frame.createRedisConnections _ _
  have same : ∀ ref, ((connected config d).nodes ref).serverType = (d.manager.nodes ref).serverType := by
    rw [opened]
    exact createRedisConnections_serverType _ _
  have types : ((connected config d).adopt config d).typeOf = fun name =>
      (s.roles.get name).map some := by
    funext name
    rw [← Dict.get_mapValues, ← describes.roles, Dict.get_mapValues, typeOf]
    simp only [adopt, sync]
    exact congrArg (fun type => Option.map type (d.tmpNodes.get name)) (funext same)
  have slots : ((connected config d).adopt config d).slotNames = s.slots.get := by
    funext slot
    rw [← describes.slots, ← Survey.Describes.slots_grow describes.wellFormed frame.grows,
      Dict.get_mapValues, slotNames, slotNodes]
    simp only [adopt, sync, Option.map_map]
    rfl
  have startups : ((connected config d).adopt config d).startupTable = m.startupTable := by
    simp only [startupTable, adopt, sync, frame.startupNodes, frame.nodesCache,
      describes.frame.startupNodes, describes.frame.nodesCache, Option.getD_some]
  have defaultNode : ((connected config d).adopt config d).defaultNode = m.defaultNode := by
    simp only [adopt, sync, frame.defaultNode, describes.frame.defaultNode]
  rw [view, view, types, slots, startups, defaultNode, Survey.Agrees]
  constructor
  · intro equal
    injection equal with slotsEq typesEq
    exact ⟨fun name => congrFun typesEq name, fun slot => congrFun slotsEq slot⟩
  · rintro ⟨typesEq, slotsEq⟩
    rw [funext typesEq, funext slotsEq]

/-- The end of a refresh keeps the law as the survey says. -/
theorem conclude_atomic_iff {config : ClusterConfig} (sync : config.flavor = .sync)
    {m : NodesManager} (wellFormed : m.WellFormed) {d : Discovery} {s : Survey}
    (describes : s.Describes m d) (reachable : Bool)
    (unread : reachable = false → s.taken = []) :
    (match conclude config reachable d with
      | .ok _ _ => True
      | .error _ after => after.view = m.view) ↔
    if reachable = false then True
    else if s.covered = false ∧ config.requireFullCoverage = true then s.KeepsRoles m
    else s.NamesPrimary ∨ s.Agrees m := by
  have opened : connected config d = d.manager.createRedisConnections (d.tmpNodes.map (·.2)) :=
    if_pos sync
  have frame : Frame m (connected config d) := by
    rw [opened]
    exact describes.frame.trans (Frame.createRedisConnections _ _)
  have same : ∀ ref, ((connected config d).nodes ref).serverType = (d.manager.nodes ref).serverType := by
    rw [opened]
    exact createRedisConnections_serverType _ _
  unfold conclude
  cases reachable with
  | false =>
    have keeps : s.KeepsRoles m := by
      intro name role taken
      rw [unread rfl] at taken
      cases taken
    simpa using (view_unadopted_iff wellFormed describes describes.frame fun _ => rfl).mpr keeps
  | true =>
    rw [describes.covered_eq]
    generalize s.covered = covered
    by_cases required : covered = false ∧ config.requireFullCoverage = true
    · rw [required.1, required.2]
      simpa using view_unadopted_iff wellFormed describes frame same
    · have complete : (!covered && config.requireFullCoverage) = false := by
        cases covered
        · simpa using required
        · rfl
      rw [complete]
      simp only [Bool.not_true, Bool.false_eq_true, ↓reduceIte, required, reduceCtorEq]
      have named : ((connected config d).adopt config d).getNodesByServerType .primary ≠ [] ↔
          s.NamesPrimary :=
        adopted_primary_iff describes (by simp only [adopt, sync])
          (by simpa only [adopt, sync] using same)
      have adopted := view_adopted_iff sync describes
      cases primaries : ((connected config d).adopt config d).getNodesByServerType .primary with
      | nil =>
        have unnamed : ¬s.NamesPrimary := fun known => named.mpr known primaries
        simpa [unnamed] using adopted
      | cons primary others =>
        have known : s.NamesPrimary := named.mp (by rw [primaries]; exact List.cons_ne_nil _ _)
        simp [known]

/-- A refresh leaves no trace when it raises if and only if it is traceless. -/
theorem refreshed_iff {config : ClusterConfig} (sync : config.flavor = .sync)
    (answers : AddressAnswers) {m : NodesManager} (wellFormed : m.WellFormed)
    (started : Filed m m.startupTable) :
    RefreshedAtomically config answers m ↔ Traceless config answers m := by
  have known : ∀ startup ∈ m.startups, startup < m.nodeCount := by
    intro startup member
    obtain ⟨item, stored, rfl⟩ := List.mem_map.mp member
    exact (started item stored).1
  have start := Survey.Describes.begin wellFormed
  have asked := start.askStartupNodes config wellFormed.filed answers m.startups known false
  have startups : m.resetBalancer.startups = m.startups := rfl
  unfold RefreshedAtomically Traceless initializeNodes
  rcases asked.together with
    ⟨reachable, d, s, ran, surveyed, describes⟩ | ⟨_, _, d, s, ran, surveyed, describes⟩
  · have unread : reachable = false → s.taken = [] := by
      rintro rfl
      exact ask_unreachable _ _ _ _ surveyed
    have ends := conclude_atomic_iff sync wellFormed describes reachable unread
    simpa only [startups, ran, surveyed] using ends
  · have kept := view_unadopted_iff wellFormed describes describes.frame fun _ => rfl
    simpa only [startups, ran, surveyed] using kept

/-- In every state of a blocking client's manager, a refresh leaves no trace when it raises if
and only if it is traceless. -/
theorem refreshedAtomically_iff_traceless (config : ClusterConfig) (answers : AddressAnswers)
    (m : Standing) :
    RefreshedAtomically { config with flavor := .sync } answers m.toNodesManager ↔
      Traceless { config with flavor := .sync } answers m.toNodesManager :=
  refreshed_iff rfl answers m.wellFormed m.started

/-- Whether a refresh raises and leaves a node with another server type than before. -/
def retypes (config : ClusterConfig) (answers : AddressAnswers) (m : NodesManager) (name : Text) :
    Bool :=
  match m.initializeNodes config answers.byNode with
  | .ok _ _ => false
  | .error _ after => after.typeOf name ≠ m.typeOf name

/-- A refresh that raises and retypes a node breaks the law. -/
theorem not_refreshedAtomically {config : ClusterConfig} {answers : AddressAnswers}
    {m : NodesManager} {name : Text} (retyped : retypes config answers m name = true) :
    ¬RefreshedAtomically config answers m := by
  intro atomic
  unfold retypes at retyped
  unfold RefreshedAtomically at atomic
  split at retyped
  · cases retyped
  · next e after ended =>
    rw [ended] at atomic
    have changed := of_decide_eq_true retyped
    exact changed (congrFun (congrArg View.types atomic) name)

/-- Six slots of one primary and one replica. -/
def sixSlots (primary replica : Int) : List SlotSection :=
  [{ first := 0, last := 5, primary := ("127.0.0.1".toList, primary),
     replicas := [("127.0.0.1".toList, replica)] }]

/-- The manager after it discovered a primary on port 7000 and a replica on port 7001. -/
def sixSlotsManager : Standing :=
  standing (relaxedConfig .sync) [("127.0.0.1".toList, 7000)]
    [.discover fun _ => .ok (sixSlots 7000 7001)]

/-- The two nodes disagree about which of them is the primary. -/
def contradiction : AddressAnswers := fun address =>
  if address.2 = 7000 then .ok (sixSlots 7001 7000) else .ok (sixSlots 7000 7001)

/-- A refresh that ends in too many disagreements has swapped the roles of the nodes that are
in use. -/
theorem disagreement_swaps_roles :
    ¬RefreshedAtomically (relaxedConfig .sync) contradiction sixSlotsManager.toNodesManager := by
  have demoted : retypes (relaxedConfig .sync) contradiction sixSlotsManager.toNodesManager
      (getNodeName "127.0.0.1".toList 7000) = true := by decide +kernel
  exact not_refreshedAtomically demoted

end NodesManager

end RedisPy

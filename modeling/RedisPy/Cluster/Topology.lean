import RedisPy.Cluster.Refresh

/-!
# The topology that a refresh builds

What the blocking client's manager holds after `initialize` has returned: for every slot the
nodes of the first section that names it, in the answers of the startup nodes up to the first
full coverage. The names and roles are read off the survey; that the slot table and the node
cache share their objects is a fact about the objects themselves.
-/

namespace RedisPy

open Contract NodesManager

/-! ## What was reported -/

namespace SlotSection

/-- The nodes of a section, the primary first. -/
def addresses (sect : SlotSection) : List (Text × Int) := sect.primary :: sect.replicas

/-- The slot is in the range of the section. -/
def includes (sect : SlotSection) (slot : Int) : Bool := sect.first ≤ slot ∧ slot ≤ sect.last

/-- The slots of a section are those of its range. -/
theorem mem_slots (sect : SlotSection) (slot : Int) :
    slot ∈ sect.slots ↔ sect.includes slot = true := by
  have ranged : slot ∈ sect.slots ↔
      ∃ i : Nat, i < (sect.last + 1 - sect.first).toNat ∧ sect.first + (i : Int) = slot := by
    simp [slots]
  rw [ranged, includes, decide_eq_true_iff]
  constructor
  · rintro ⟨i, bound, rfl⟩
    omega
  · rintro ⟨low, high⟩
    refine ⟨(slot - sect.first).toNat, ?_, ?_⟩
    · omega
    · omega

/-- Every host is a name of its own: none is empty, and none is `localhost`. -/
def Plain (sect : SlotSection) : Prop :=
  ∀ address ∈ sect.addresses, address.1 ≠ [] ∧ address.1 ≠ "localhost".toList

/-- The names of the nodes of a section. -/
def nodeNames (sect : SlotSection) : List Text :=
  sect.addresses.map fun address => getNodeName address.1 address.2

/-- The names of a section with the roles they are read in. -/
def mentions (sect : SlotSection) : List (Text × ServerType) :=
  (getNodeName sect.primary.1 sect.primary.2, .primary) ::
    sect.replicas.map fun address => (getNodeName address.1 address.2, .replica)

end SlotSection

/-- Every slot is in the range of a section. -/
def coversAll (sections : List SlotSection) : Bool :=
  (List.range 16384).all fun slot => sections.any (·.includes (slot : Int))

namespace NodesManager

/-- The addresses of node objects. -/
def addressesOf (m : NodesManager) (refs : List Nat) : List (Text × Int) :=
  refs.map fun ref => ((m.nodes ref).host, (m.nodes ref).port)

/-- Where the startup nodes are, in the order in which they are asked. -/
def startupAddresses (m : NodesManager) : List (Text × Int) := m.addressesOf m.startups

/-- The sections of the answers that a refresh uses, after those it has `read`: all answers, up to
the first full coverage. -/
def usedSections (answers : AddressAnswers) : List (Text × Int) → List SlotSection → List SlotSection
  | [], read => read
  | address :: others, read =>
    match answers address with
    | .error _ => usedSections answers others read
    | .ok sections =>
      if coversAll (read ++ sections) then read ++ sections
      else usedSections answers others (read ++ sections)

/-- Every section that is used stands in an answer. -/
theorem mem_usedSections {answers : AddressAnswers} {addresses : List (Text × Int)}
    {read : List SlotSection} {sect : SlotSection}
    (used : sect ∈ usedSections answers addresses read) :
    sect ∈ read ∨ ∃ address sections, answers address = .ok sections ∧ sect ∈ sections := by
  induction addresses generalizing read with
  | nil => exact .inl used
  | cons address others ih =>
    rw [usedSections] at used
    have either : ∀ sections, answers address = .ok sections → sect ∈ read ++ sections →
        sect ∈ read ∨ ∃ address sections, answers address = .ok sections ∧ sect ∈ sections := by
      intro sections answered member
      rcases List.mem_append.mp member with old | new
      · exact .inl old
      · exact .inr ⟨address, sections, answered, new⟩
    split at used
    · exact ih used
    · next sections answered =>
      split at used
      · exact either sections answered used
      · rcases ih used with member | found
        · exact either sections answered member
        · exact .inr found

/-- Sections that were read are used. -/
theorem usedSections_of_mem {answers : AddressAnswers} {addresses : List (Text × Int)}
    {read : List SlotSection} {sect : SlotSection} (member : sect ∈ read) :
    sect ∈ usedSections answers addresses read := by
  induction addresses generalizing read with
  | nil => exact member
  | cons address others ih =>
    rw [usedSections]
    split
    · exact ih member
    · split
      · exact List.mem_append_left _ member
      · exact ih (List.mem_append_left _ member)

/-- The routing table of these sections. -/
structure Consistent (config : ClusterConfig) (sections : List SlotSection) (m : NodesManager) :
    Prop where
  /-- A slot lists the primary and then the replicas of the first section that names it. -/
  slots : ∀ slot, (m.slotNodes slot).map m.addressesOf =
    (sections.find? (·.includes slot)).map SlotSection.addresses
  /-- Every listed node is registered under its name. -/
  registered : ∀ slot refs, m.slotNodes slot = some refs →
    ∀ ref ∈ refs, m.nodesCache.get (m.nodes ref).name = some ref
  /-- The first node of a slot is a primary and the others are replicas. -/
  typed : ∀ slot primary replicas, m.slotNodes slot = some (primary :: replicas) →
    (m.nodes primary).serverType = some .primary ∧
      ∀ ref ∈ replicas, (m.nodes ref).serverType = some .replica
  /-- The node cache has the reported nodes and no others. -/
  reported : ∀ name, m.nodesCache.contains name = true ↔ ∃ sect ∈ sections, name ∈ sect.nodeNames
  /-- Every node of the cache is filed under its name. -/
  named : ∀ name ref, m.nodesCache.get name = some ref → (m.nodes ref).name = name
  /-- The default node is a primary of the node cache. -/
  defaultNode : ∃ ref ∈ m.nodesCache.map (·.2),
    m.defaultNode = some ref ∧ (m.nodes ref).serverType = some .primary
  /-- If full coverage is required, no slot is missing. -/
  covered : config.requireFullCoverage = true →
    ∀ slot : Nat, slot < 16384 → (m.slotNodes slot).isSome = true
  /-- No redirection is pending. -/
  settled : m.movedException = none

end NodesManager

/-! ## The survey -/

namespace Survey

variable {config : ClusterConfig} {m : NodesManager}

/-- The roles are those of the mentions, and every mentioned name has one. -/
structure Heard (mentions : List (Text × ServerType)) (roles : Dict Text ServerType) : Prop where
  /-- Roles come from mentions. -/
  from' : ∀ name role, roles.get name = some role → (name, role) ∈ mentions
  /-- Mentioned names have roles. -/
  all : ∀ item ∈ mentions, roles.contains item.1 = true

/-- A name is mentioned: it has a role now, unless it had one. -/
theorem Heard.mention {mentions : List (Text × ServerType)} {roles : Dict Text ServerType}
    (heard : Heard mentions roles) (name : Text) (role : ServerType) :
    Heard (mentions ++ [(name, role)])
      (if roles.contains name then roles else roles.set name role) where
  from' other found := by
    intro stored
    by_cases known : roles.contains name = true
    · rw [if_pos known] at stored
      exact List.mem_append_left _ (heard.from' other found stored)
    · rw [if_neg known] at stored
      by_cases same : name = other
      · rw [← same, Dict.get_set_self] at stored
        rw [← same, ← Option.some.inj stored]
        exact List.mem_append_right _ List.mem_cons_self
      · rw [Dict.get_set_ne _ _ same] at stored
        exact List.mem_append_left _ (heard.from' other found stored)
  all item member := by
    have stays : ∀ other, roles.contains other = true →
        (if roles.contains name then roles else roles.set name role).contains other = true := by
      intro other known
      by_cases old : roles.contains name = true
      · rw [if_pos old]
        exact known
      · rw [if_neg old, Dict.contains_eq_isSome_get]
        by_cases same : name = other
        · rw [← same, Dict.get_set_self]
          rfl
        · rw [Dict.get_set_ne _ _ same, ← Dict.contains_eq_isSome_get]
          exact known
    rcases List.mem_append.mp member with old | new
    · exact stays item.1 (heard.all item old)
    · rw [List.mem_singleton.mp new]
      by_cases old : roles.contains name = true
      · exact stays name old
      · rw [if_neg old, Dict.contains_eq_isSome_get, Dict.get_set_self]
        rfl

/-- A node with a plain host is mentioned under the name it is looked up by. -/
theorem mention_plain (config : ClusterConfig) (m : NodesManager) {address : Text × Int} (plain : address.1 ≠ "localhost".toList)
    (role : ServerType) (s : Survey) :
    (s.mention config m address role).1 = getNodeName address.1 address.2 ∧
    (s.mention config m address role).2.slots = s.slots ∧
    (s.mention config m address role).2.roles =
      if s.roles.contains (getNodeName address.1 address.2) then s.roles
      else s.roles.set (getNodeName address.1 address.2) role := by
  have resolved : config.resolve address.1 = address.1 := if_neg plain
  unfold mention
  by_cases old : s.roles.contains (getNodeName address.1 address.2) = true
  · simp [old]
  · by_cases known : s.knows config m (getNodeName address.1 address.2) = true
    · simp [old, known]
    · simp [old, known, resolved]

/-- The replicas of a section are mentioned. -/
theorem mentionReplicas_plain (remap : config.remap = id) {addresses : List (Text × Int)}
    (plain : ∀ address ∈ addresses, address.1 ≠ "localhost".toList) {s : Survey}
    {mentions : List (Text × ServerType)} (heard : Heard mentions s.roles) :
    (mentionReplicas config m addresses s).1 =
      addresses.map (fun address => getNodeName address.1 address.2) ∧
    (mentionReplicas config m addresses s).2.slots = s.slots ∧
    Heard (mentions ++ addresses.map fun address => (getNodeName address.1 address.2, .replica))
      (mentionReplicas config m addresses s).2.roles := by
  induction addresses generalizing s mentions with
  | nil =>
    refine ⟨rfl, rfl, ?_⟩
    rw [List.map_nil, List.append_nil]
    exact heard
  | cons address addresses ih =>
    have first := mention_plain config m (plain address List.mem_cons_self) .replica s
    have next : Heard (mentions ++ [(getNodeName address.1 address.2, .replica)])
        (s.mention config m address .replica).2.roles := by
      rw [first.2.2]
      exact heard.mention _ _
    have rest := ih (fun other member => plain other (List.mem_cons_of_mem address member)) next
    have here : config.remap address = address := by rw [remap, id]
    rw [mentionReplicas, here]
    refine ⟨?_, rest.2.1.trans first.2.1, ?_⟩
    · show _ :: _ = _
      rw [first.1, rest.1, List.map_cons]
    · have names := rest.2.2
      rw [List.append_assoc, List.singleton_append] at names
      exact names

/-- Slots are given to a section unless they have nodes. -/
theorem assign_slots {target : Text} {members : List Text} {slots : List Int} {s after : Survey}
    (assigned : assign target members slots s = .ok () after) :
    after.roles = s.roles ∧ ∀ slot, after.slots.get slot =
      (s.slots.get slot).or (if slot ∈ slots then some members else none) := by
  induction slots generalizing s with
  | nil =>
    cases assigned
    refine ⟨rfl, fun slot => ?_⟩
    rw [if_neg List.not_mem_nil, Option.or_none]
  | cons first slots ih =>
    rw [assign] at assigned
    cases found : s.slots.get first with
    | none =>
      rw [found] at assigned
      obtain ⟨roles, rest⟩ := ih assigned
      refine ⟨roles, fun slot => ?_⟩
      rw [rest slot]
      by_cases same : first = slot
      · rw [← same, Dict.get_set_self, found, if_pos List.mem_cons_self]
        rfl
      · have other : slot ≠ first := fun equal => same equal.symm
        rw [Dict.get_set_ne _ _ same]
        simp [other]
    | some stored =>
      rw [found] at assigned
      have either : ∃ t : Survey, assign target members slots t = .ok () after ∧
          t.roles = s.roles ∧ t.slots = s.slots := by
        simp only at assigned
        split at assigned
        · split at assigned
          · cases assigned
          · exact ⟨_, assigned, rfl, rfl⟩
        · exact ⟨s, assigned, rfl, rfl⟩
      obtain ⟨t, went, sameRoles, sameSlots⟩ := either
      obtain ⟨roles, rest⟩ := ih went
      refine ⟨roles.trans sameRoles, fun slot => ?_⟩
      rw [rest slot, sameSlots]
      by_cases same : first = slot
      · rw [← same, found]
        rfl
      · have other : slot ≠ first := fun equal => same equal.symm
        simp [other]

/-- What a survey knows of the sections it has read. -/
structure Reads (sections : List SlotSection) (s : Survey) : Prop where
  /-- The roles. -/
  heard : Heard (sections.flatMap SlotSection.mentions) s.roles
  /-- A slot has the nodes of the first section that names it. -/
  slots : ∀ slot, s.slots.get slot =
    (sections.find? (·.includes slot)).map SlotSection.nodeNames

/-- A section is read. -/
theorem Reads.readSection (remap : config.remap = id) {sections : List SlotSection} {s after : Survey}
    (reads : Reads sections s) {startupHost : Text} {sect : SlotSection} (plain : sect.Plain)
    (read : s.readSection config m startupHost sect = .ok () after) :
    Reads (sections ++ [sect]) after := by
  have primary := plain sect.primary List.mem_cons_self
  have replicas : ∀ address ∈ sect.replicas, address.1 ≠ "localhost".toList :=
    fun address member => (plain address (List.mem_cons_of_mem _ member)).2
  have first := mention_plain config m primary.2 .primary s
  have heard : Heard (sections.flatMap SlotSection.mentions ++
      [(getNodeName sect.primary.1 sect.primary.2, .primary)])
      (s.mention config m sect.primary .primary).2.roles := by
    rw [first.2.2]
    exact reads.heard.mention _ _
  have rest := mentionReplicas_plain (m := m) remap replicas heard
  have here : config.remap (if sect.primary.1 = [] then startupHost else sect.primary.1,
      sect.primary.2) = sect.primary := by rw [if_neg primary.1, remap, id]
  unfold Survey.readSection at read
  simp only [here, first.1, rest.1] at read
  obtain ⟨roles, slots⟩ := assign_slots read
  constructor
  · rw [roles, List.flatMap_append, List.flatMap_singleton]
    have names := rest.2.2
    rw [List.append_assoc, List.singleton_append] at names
    exact names
  · intro slot
    rw [slots slot, rest.2.1, first.2.1, reads.slots slot, List.find?_append, Option.map_or]
    congr 1
    simp only [sect.mem_slots]
    by_cases inside : sect.includes slot = true
    · simp only [inside, ↓reduceIte, List.find?_cons]
      rfl
    · simp only [inside, Bool.false_eq_true, ↓reduceIte, List.find?_cons, List.find?_nil]
      rfl

/-- An answer is read. -/
theorem Reads.readSections (remap : config.remap = id) {read sections : List SlotSection}
    {s after : Survey} (reads : Reads read s) {startupHost : Text}
    (plain : ∀ sect ∈ sections, sect.Plain)
    (ran : s.readSections config m startupHost sections = .ok () after) :
    Reads (read ++ sections) after := by
  induction sections generalizing read s with
  | nil =>
    cases ran
    rw [List.append_nil]
    exact reads
  | cons sect sections ih =>
    rw [Survey.readSections] at ran
    cases first : s.readSection config m startupHost sect with
    | error e t =>
      rw [first] at ran
      cases ran
    | ok _ t =>
      rw [first] at ran
      have next := reads.readSection remap (plain sect List.mem_cons_self) first
      have rest := ih next (fun other member => plain other (List.mem_cons_of_mem sect member)) ran
      rw [List.append_assoc, List.singleton_append] at rest
      exact rest

/-- All slots have nodes if the sections cover them. -/
theorem Reads.covered {sections : List SlotSection} {s : Survey} (reads : Reads sections s) :
    s.covered = coversAll sections := by
  have each : (fun slot : Nat => s.slots.contains (slot : Int)) =
      fun slot : Nat => sections.any (·.includes (slot : Int)) := by
    funext slot
    rw [Dict.contains_eq_isSome_get, reads.slots, Option.isSome_map, List.isSome_find?]
  rw [Survey.covered, coversAll, each]

end Survey

/-! ## The objects -/

namespace Discovery

/-- Every node that a slot lists is the one filed under its name. -/
def Listed (d : Discovery) : Prop :=
  ∀ item ∈ d.tmpSlots, ∀ ref ∈ d.manager.lists item.2,
    d.tmpNodes.get (d.manager.nodes ref).name = some ref

/-- Nodes are filed, and nothing that was filed is replaced. -/
structure Extends (d later : Discovery) : Prop where
  /-- The heaps grow. -/
  grows : Grows d.manager later.manager
  /-- Filed nodes stay filed. -/
  kept : ∀ name ref, d.tmpNodes.get name = some ref → later.tmpNodes.get name = some ref
  /-- No slot is assigned. -/
  slots : later.tmpSlots = d.tmpSlots

variable {d : Discovery}

/-- Two extensions are one. -/
theorem Extends.trans {middle later : Discovery} (first : Extends d middle)
    (second : Extends middle later) : Extends d later where
  grows := first.grows.trans second.grows
  kept name ref filed := second.kept name ref (first.kept name ref filed)
  slots := second.slots.trans first.slots

/-- What a slot lists stays filed. -/
theorem Listed.extend (listed : d.Listed) (wellFormed : d.WellFormed) {later : Discovery}
    (extended : Extends d later) : later.Listed := by
  intro item member ref inside
  rw [extended.slots] at member
  obtain ⟨bound, -, known⟩ := wellFormed.served item member
  rw [extended.grows.lists item.2 bound] at inside
  rw [extended.grows.name ref (known ref inside)]
  exact extended.kept _ ref (listed item member ref inside)

/-- A node with a plain host is filed under the name it is looked up by. -/
theorem getOrCreateClusterNode_extends (config : ClusterConfig) {address : Text × Int}
    (plain : address.1 ≠ "localhost".toList) (role : ServerType) (wellFormed : d.WellFormed) :
    Extends d (d.getOrCreateClusterNode config address role).2 ∧
      (d.getOrCreateClusterNode config address role).2.tmpNodes.get
        ((d.getOrCreateClusterNode config address role).2.manager.nodes
          (d.getOrCreateClusterNode config address role).1).name =
        some (d.getOrCreateClusterNode config address role).1 := by
  have resolved : config.resolve address.1 = address.1 := if_neg plain
  have new : ∀ ref name other, d.tmpNodes.get (getNodeName address.1 address.2) = none →
      d.tmpNodes.get name = some other →
      (d.tmpNodes.set (getNodeName address.1 address.2) ref).get name = some other := by
    intro ref name other unfiled filed
    have differ : getNodeName address.1 address.2 ≠ name := by
      rintro rfl
      rw [unfiled] at filed
      cases filed
    rw [Dict.get_set_ne _ _ differ]
    exact filed
  unfold getOrCreateClusterNode
  cases found : d.tmpNodes.get (getNodeName address.1 address.2) with
  | some ref =>
    have name : (d.manager.nodes ref).name = getNodeName address.1 address.2 :=
      (wellFormed.filed _ (Dict.mem_of_get found)).2
    cases config.flavor with
    | sync =>
      refine ⟨⟨.refl _, fun _ _ filed => filed, rfl⟩, ?_⟩
      show d.tmpNodes.get (d.manager.nodes ref).name = some ref
      rw [name, found]
    | async =>
      have same : d.tmpNodes.set (d.manager.nodes ref).name ref = d.tmpNodes := by
        rw [name]
        exact Dict.set_of_get found
      simp only [same]
      exact ⟨⟨.refl _, fun _ _ filed => filed, rfl⟩, by rw [name, found]⟩
  | none =>
    simp only
    cases known : (if config.flavor = .sync then
        d.manager.nodesCache.get (getNodeName address.1 address.2) else none).filter
          fun ref => (d.manager.nodes ref).connected with
    | some ref =>
      have cached : d.manager.nodesCache.get (getNodeName address.1 address.2) = some ref := by
        have stored := (Option.filter_eq_some_iff.mp known).1
        by_cases sync : config.flavor = .sync
        · simpa [sync] using stored
        · simp [sync] at stored
      obtain ⟨bound, name⟩ := wellFormed.manager.filed _ (Dict.mem_of_get cached)
      have grows := grows_setServerType d.manager ref role
      have same : ((d.manager.setServerType ref role).nodes ref).name =
          getNodeName address.1 address.2 := by rw [grows.name ref bound, name]
      simp only [same]
      exact ⟨⟨grows, fun other filed => new ref other filed found, rfl⟩, Dict.get_set_self _ _ _⟩
    | none =>
      have grows := grows_newNode config address.1 address.2 (some role) d.manager
      have same : ((d.manager.newNode config address.1 address.2 (some role)).2.nodes
          (d.manager.newNode config address.1 address.2 (some role)).1).name =
          getNodeName address.1 address.2 := by simp [newNode, ClusterNode.name, resolved]
      simp only [same]
      exact ⟨⟨grows, fun other filed => new _ other filed found, rfl⟩, Dict.get_set_self _ _ _⟩

/-- The replicas of a section are filed. -/
theorem replicaNodes_extends {config : ClusterConfig} (remap : config.remap = id)
    {addresses : List (Text × Int)}
    (plain : ∀ address ∈ addresses, address.1 ≠ "localhost".toList) (wellFormed : d.WellFormed) :
    Extends d (replicaNodes config addresses d).2 ∧
      ∀ ref ∈ (replicaNodes config addresses d).1, (replicaNodes config addresses d).2.tmpNodes.get
        ((replicaNodes config addresses d).2.manager.nodes ref).name = some ref := by
  induction addresses generalizing d with
  | nil => exact ⟨⟨.refl _, fun _ _ filed => filed, rfl⟩, by simp [replicaNodes]⟩
  | cons address addresses ih =>
    have here : config.remap address = address := by rw [remap, id]
    have local' := plain address List.mem_cons_self
    obtain ⟨next, bound, -⟩ :=
      getOrCreateClusterNode_wellFormed config address .replica wellFormed
    obtain ⟨extended, filed⟩ :=
      getOrCreateClusterNode_extends config local' .replica wellFormed
    obtain ⟨more, rest⟩ := ih (fun other member => plain other (List.mem_cons_of_mem _ member)) next
    rw [replicaNodes, here]
    refine ⟨extended.trans more, fun ref member => ?_⟩
    rcases List.mem_cons.mp member with rfl | member
    · show (replicaNodes config addresses _).2.tmpNodes.get _ = _
      rw [more.grows.name _ bound]
      exact more.kept _ _ filed
    · exact rest ref member

/-- Slots are given a list of filed nodes. -/
theorem assignSlots_listed {target list : Nat} {slots : List Int} {after : Discovery}
    (listed : d.Listed)
    (members : ∀ ref ∈ d.manager.lists list, d.tmpNodes.get (d.manager.nodes ref).name = some ref)
    (assigned : assignSlots target list slots d = .ok () after) : after.Listed := by
  induction slots generalizing d with
  | nil =>
    cases assigned
    exact listed
  | cons slot slots ih =>
    rw [assignSlots] at assigned
    split at assigned
    · have wider : ({ d with tmpSlots := d.tmpSlots.set slot list } : Discovery).Listed := by
        intro item member
        rcases Dict.mem_set member with rfl | old
        · exact members
        · exact listed item old
      exact ih wider members assigned
    · simp only at assigned
      split at assigned
      · split at assigned
        · cases assigned
        · exact ih (d := { d with disagreements := d.disagreements + 1 }) listed members assigned
      · exact ih listed members assigned

/-- A section is read. -/
theorem readSection_listed {config : ClusterConfig} (remap : config.remap = id)
    {startupHost : Text} {sect : SlotSection} (plain : sect.Plain) {after : Discovery}
    (listed : d.Listed) (wellFormed : d.WellFormed)
    (read : d.readSection config startupHost sect = .ok () after) : after.Listed := by
  have primary := plain sect.primary List.mem_cons_self
  have replicas : ∀ address ∈ sect.replicas, address.1 ≠ "localhost".toList :=
    fun address member => (plain address (List.mem_cons_of_mem _ member)).2
  have here : config.remap (if sect.primary.1 = [] then startupHost else sect.primary.1,
      sect.primary.2) = sect.primary := by rw [if_neg primary.1, remap, id]
  unfold readSection at read
  simp only [here] at read
  obtain ⟨next, bound, -⟩ :=
    getOrCreateClusterNode_wellFormed config sect.primary .primary wellFormed
  obtain ⟨first, filed⟩ :=
    getOrCreateClusterNode_extends config primary.2 .primary wellFormed
  obtain ⟨last, inside, -⟩ := replicaNodes_wellFormed config sect.replicas next
  obtain ⟨second, rest⟩ := replicaNodes_extends remap replicas next
  generalize d.getOrCreateClusterNode config sect.primary .primary = target at *
  generalize replicaNodes config sect.replicas target.2 = others at *
  have fresh := grows_newList (target.1 :: others.1) others.2.manager
  have members : (newList (target.1 :: others.1) others.2.manager).2.lists
      (newList (target.1 :: others.1) others.2.manager).1 = target.1 :: others.1 := by simp [newList]
  have whole := first.trans second
  have extended : Extends d
      { others.2 with manager := (newList (target.1 :: others.1) others.2.manager).2 } :=
    ⟨whole.grows.trans fresh, whole.kept, whole.slots⟩
  refine assignSlots_listed (listed.extend wellFormed extended) ?_ read
  rw [members]
  intro ref member
  rcases List.mem_cons.mp member with rfl | member
  · have name := second.grows.name target.1 bound
    show others.2.tmpNodes.get (others.2.manager.nodes target.1).name = _
    rw [name]
    exact second.kept _ _ filed
  · exact rest ref member

/-- An answer is read. -/
theorem readSections_listed {config : ClusterConfig} (remap : config.remap = id)
    {startupHost : Text} {sections : List SlotSection} (plain : ∀ sect ∈ sections, sect.Plain)
    {after : Discovery} (listed : d.Listed) (wellFormed : d.WellFormed)
    (read : d.readSections config startupHost sections = .ok () after) : after.Listed := by
  induction sections generalizing d with
  | nil =>
    cases read
    exact listed
  | cons sect sections ih =>
    have formed := readSection_wellFormed config startupHost sect wellFormed
    rw [readSections] at read
    cases first : d.readSection config startupHost sect with
    | error e t =>
      rw [first] at read
      cases read
    | ok _ t =>
      rw [first] at read formed
      have next := readSection_listed remap (plain sect List.mem_cons_self) listed wellFormed first
      exact ih (fun other member => plain other (List.mem_cons_of_mem sect member)) next formed read

/-- A refresh that began at `m` has built what these sections say. -/
structure Built (m : NodesManager) (sections : List SlotSection) (d : Discovery) : Prop where
  /-- The slots list filed nodes. -/
  listed : d.Listed
  /-- Names and roles are those of the sections. -/
  surveyed : ∃ s : Survey, s.Describes m d ∧ s.Reads sections

/-- The startup nodes are asked. -/
theorem Built.ask (config : ClusterConfig) (remap : config.remap = id) {m : NodesManager}
    (filed : Filed m m.nodesCache) {answers : AddressAnswers} {startups : List Nat}
    (known : ∀ startup ∈ startups, startup < m.nodeCount) {read : List SlotSection}
    {before reachable : Bool} {after : Discovery} (built : Built m read d)
    (plain : ∀ sect ∈ usedSections answers (m.addressesOf startups) read, sect.Plain)
    (asked : d.askStartupNodes config answers.byNode startups before = .ok reachable after) :
    Built m (usedSections answers (m.addressesOf startups) read) after := by
  induction startups generalizing d read before with
  | nil =>
    cases asked
    exact built
  | cons startup others ih =>
    obtain ⟨s, describes, reads⟩ := built.surveyed
    have opened := describes.opens startup
    have inside := known startup List.mem_cons_self
    have host := opened.frame.host startup inside
    have port := opened.frame.port startup inside
    have rest := fun other member => known other (List.mem_cons_of_mem startup member)
    have split : m.addressesOf (startup :: others) =
        ((m.nodes startup).host, (m.nodes startup).port) :: m.addressesOf others := rfl
    have grown : Grows d.manager
        (d.manager.modifyNode startup fun node => { node with connected := true }) :=
      grows_modifyNode d.manager startup fun _ => rfl
    have extended : Extends d { d with
        manager := d.manager.modifyNode startup fun node => { node with connected := true } } :=
      ⟨grown, fun _ _ filed => filed, rfl⟩
    have listed := built.listed.extend describes.wellFormed extended
    rw [split] at plain ⊢
    rw [usedSections] at plain ⊢
    rw [askStartupNodes] at asked
    simp only [AddressAnswers.byNode] at host port asked
    rw [host, port] at asked
    cases answered : answers ((m.nodes startup).host, (m.nodes startup).port) with
    | error e =>
      simp only [answered] at asked plain ⊢
      exact ih rest ⟨listed, _, opened, reads.heard, reads.slots⟩ plain asked
    | ok sections =>
      simp only [answered] at asked plain ⊢
      have fits : ∀ sect ∈ sections, sect.Plain := by
        intro sect member
        apply plain sect
        split
        · exact List.mem_append_right read member
        · exact usedSections_of_mem (List.mem_append_right read member)
      rcases (opened.readSections config filed (m.nodes startup).host sections).together with
        ⟨_, t, told, ran, surveyed, next⟩ | ⟨_, _, t, told, ran, surveyed, next⟩
      · have same : Survey.Reads read { s with opened := startup :: s.opened } :=
          ⟨reads.heard, reads.slots⟩
        have heard := same.readSections remap fits surveyed
        have good := readSections_listed remap fits listed opened.wellFormed ran
        simp only [ran, next.covered_eq, heard.covered] at asked
        by_cases full : coversAll (read ++ sections) = true
        · rw [if_pos full] at asked ⊢
          cases asked
          exact ⟨good, told, next, heard⟩
        · rw [if_neg full] at asked plain ⊢
          exact ih rest ⟨good, told, next, heard⟩ plain asked
      · simp only [ran] at asked
        cases asked

end Discovery

/-! ## The routing table -/

/-- No address is reported both as a primary and as a replica. -/
def OneRole (sections : List SlotSection) : Prop :=
  ∀ sect ∈ sections, ∀ other ∈ sections, sect.primary ∉ other.replicas

/-- Addresses with one list of names are the same. -/
theorem addresses_of_names {first second : List (Text × Int)}
    (same : first.map (fun address => getNodeName address.1 address.2) =
      second.map fun address => getNodeName address.1 address.2) : first = second := by
  apply List.map_injective_iff.mpr _ same
  intro address other names
  obtain ⟨host, port⟩ := getNodeName_injective names
  exact Prod.ext host port

namespace Survey.Reads

variable {sections : List SlotSection} {s : Survey}

/-- Where no address has two roles, a primary has its own. -/
theorem primary_role (reads : s.Reads sections) (oneRole : OneRole sections) {sect : SlotSection}
    (member : sect ∈ sections) :
    s.roles.get (getNodeName sect.primary.1 sect.primary.2) = some .primary := by
  have mentioned : (getNodeName sect.primary.1 sect.primary.2, ServerType.primary) ∈
      sections.flatMap SlotSection.mentions :=
    List.mem_flatMap.mpr ⟨sect, member, List.mem_cons_self⟩
  have known := reads.heard.all _ mentioned
  rw [Dict.contains_eq_isSome_get] at known
  obtain ⟨role, found⟩ := Option.isSome_iff_exists.mp known
  rw [found]
  cases role with
  | primary => rfl
  | replica =>
    obtain ⟨other, inside, named⟩ := List.mem_flatMap.mp (reads.heard.from' _ _ found)
    rcases List.mem_cons.mp named with wrong | named
    · cases (Prod.ext_iff.mp wrong).2
    · obtain ⟨address, replica, same⟩ := List.mem_map.mp named
      obtain ⟨host, port⟩ := getNodeName_injective (Prod.ext_iff.mp same).1
      have equal : address = sect.primary := Prod.ext host port
      rw [equal] at replica
      exact absurd replica (oneRole sect member other inside)

/-- Where no address has two roles, a replica has its own. -/
theorem replica_role (reads : s.Reads sections) (oneRole : OneRole sections) {sect : SlotSection}
    (member : sect ∈ sections) {address : Text × Int} (replica : address ∈ sect.replicas) :
    s.roles.get (getNodeName address.1 address.2) = some .replica := by
  have mentioned : (getNodeName address.1 address.2, ServerType.replica) ∈
      sections.flatMap SlotSection.mentions :=
    List.mem_flatMap.mpr
      ⟨sect, member, List.mem_cons_of_mem _ (List.mem_map.mpr ⟨address, replica, rfl⟩)⟩
  have known := reads.heard.all _ mentioned
  rw [Dict.contains_eq_isSome_get] at known
  obtain ⟨role, found⟩ := Option.isSome_iff_exists.mp known
  rw [found]
  cases role with
  | replica => rfl
  | primary =>
    obtain ⟨other, inside, named⟩ := List.mem_flatMap.mp (reads.heard.from' _ _ found)
    rcases List.mem_cons.mp named with same | named
    · obtain ⟨host, port⟩ := getNodeName_injective (Prod.ext_iff.mp same).1
      have equal : address = other.primary := Prod.ext host port
      rw [equal] at replica
      exact absurd replica (oneRole other inside sect member)
    · obtain ⟨_, _, wrong⟩ := List.mem_map.mp named
      cases (Prod.ext_iff.mp wrong).2

/-- The names that have roles are the names that were reported. -/
theorem contains_iff (reads : s.Reads sections) (name : Text) :
    s.roles.contains name = true ↔ ∃ sect ∈ sections, name ∈ sect.nodeNames := by
  constructor
  · intro known
    rw [Dict.contains_eq_isSome_get] at known
    obtain ⟨role, found⟩ := Option.isSome_iff_exists.mp known
    obtain ⟨sect, member, named⟩ := List.mem_flatMap.mp (reads.heard.from' _ _ found)
    refine ⟨sect, member, ?_⟩
    rcases List.mem_cons.mp named with same | named
    · have here : name = _ := (Prod.ext_iff.mp same).1
      rw [here]
      exact List.mem_cons_self
    · obtain ⟨address, replica, same⟩ := List.mem_map.mp named
      have here : _ = name := (Prod.ext_iff.mp same).1
      rw [← here]
      exact List.mem_cons_of_mem _ (List.mem_map.mpr ⟨address, replica, rfl⟩)
  · rintro ⟨sect, member, named⟩
    rcases List.mem_cons.mp named with rfl | named
    · exact reads.heard.all (_, .primary)
        (List.mem_flatMap.mpr ⟨sect, member, List.mem_cons_self⟩)
    · obtain ⟨address, replica, rfl⟩ := List.mem_map.mp named
      exact reads.heard.all (_, .replica) (List.mem_flatMap.mpr
        ⟨sect, member, List.mem_cons_of_mem _ (List.mem_map.mpr ⟨address, replica, rfl⟩)⟩)

end Survey.Reads

/-- The nodes and caches of the manager that a refresh leaves, in terms of what it has built. -/
structure Adopted (d : Discovery) (later : NodesManager) : Prop where
  /-- The heaps. -/
  grows : Grows d.manager later
  /-- Addresses stay. -/
  address : ∀ ref < d.manager.nodeCount, (later.nodes ref).host = (d.manager.nodes ref).host ∧
    (later.nodes ref).port = (d.manager.nodes ref).port
  /-- Roles stay. -/
  type : ∀ ref, (later.nodes ref).serverType = (d.manager.nodes ref).serverType
  /-- `self.nodes_cache = tmp_nodes_cache`. -/
  nodesCache : later.nodesCache = d.tmpNodes
  /-- `self.slots_cache = tmp_slots`. -/
  slotsCache : later.slotsCache = d.tmpSlots

namespace Adopted

variable {m later : NodesManager} {d : Discovery} {sections : List SlotSection}

/-- The list of a slot. -/
theorem slotNodes_eq (adopted : Adopted d later) (wellFormed : d.WellFormed) (slot : Int) :
    later.slotNodes slot = (d.tmpSlots.get slot).map d.manager.lists := by
  rw [slotNodes, adopted.slotsCache]
  cases found : d.tmpSlots.get slot with
  | none => rfl
  | some list =>
    have bound := (wellFormed.served _ (Dict.mem_of_get found)).1
    rw [Option.map_some, Option.map_some, adopted.grows.lists list bound]

/-- The names of a slot's nodes are those of the section that the slot has its nodes from. -/
theorem names_eq (adopted : Adopted d later) (built : d.Built m sections) (slot : Int) :
    (later.slotNodes slot).map later.names =
      (sections.find? (·.includes slot)).map SlotSection.nodeNames := by
  obtain ⟨s, describes, reads⟩ := built.surveyed
  rw [← reads.slots slot, ← describes.slots,
    ← Survey.Describes.slots_grow describes.wellFormed adopted.grows, Dict.get_mapValues,
    adopted.slotNodes_eq describes.wellFormed]
  cases found : d.tmpSlots.get slot with
  | none => rfl
  | some list =>
    have bound := (describes.wellFormed.served _ (Dict.mem_of_get found)).1
    rw [Option.map_some, Option.map_some, Option.map_some, adopted.grows.lists list bound]

/-- A name is that of an address. -/
theorem names_addresses (m : NodesManager) (refs : List Nat) :
    m.names refs = (m.addressesOf refs).map fun address => getNodeName address.1 address.2 := by
  rw [names, addressesOf, List.map_map]
  rfl

/-- The nodes of a slot, as sections. -/
theorem slots (adopted : Adopted d later) (built : d.Built m sections) (slot : Int) :
    (later.slotNodes slot).map later.addressesOf =
      (sections.find? (·.includes slot)).map SlotSection.addresses := by
  have same := adopted.names_eq built slot
  cases listed : later.slotNodes slot with
  | none =>
    rw [listed, Option.map_none] at same
    rw [Option.map_none, Option.map_eq_none_iff.mp same.symm, Option.map_none]
  | some refs =>
    cases first : sections.find? (·.includes slot) with
    | none =>
      rw [listed, first] at same
      cases same
    | some sect =>
      rw [listed, first, Option.map_some, Option.map_some, names_addresses] at same
      rw [Option.map_some, Option.map_some, addresses_of_names (Option.some.inj same)]

/-- Listed nodes are registered. -/
theorem registered (adopted : Adopted d later) (built : d.Built m sections) {slot : Int}
    {refs : List Nat} (listed : later.slotNodes slot = some refs) {ref : Nat} (member : ref ∈ refs) :
    later.nodesCache.get (later.nodes ref).name = some ref := by
  obtain ⟨s, describes, -⟩ := built.surveyed
  rw [adopted.slotNodes_eq describes.wellFormed] at listed
  obtain ⟨list, found, rfl⟩ := Option.map_eq_some_iff.mp listed
  have stored := Dict.mem_of_get found
  have known := (describes.wellFormed.served _ stored).2.2 ref member
  rw [adopted.nodesCache, adopted.grows.name ref known]
  exact built.listed _ stored ref member

/-- A registered node has the role of its name. -/
theorem type_of_role (adopted : Adopted d later) {s : Survey} (describes : s.Describes m d)
    {ref : Nat} {role : ServerType}
    (registered : later.nodesCache.get (later.nodes ref).name = some ref)
    (known : s.roles.get (later.nodes ref).name = some role) :
    (later.nodes ref).serverType = some role := by
  have same : (d.tmpNodes.get (later.nodes ref).name).map
      (fun ref => (d.manager.nodes ref).serverType) =
      (s.roles.get (later.nodes ref).name).map some := by
    rw [← Dict.get_mapValues, describes.roles, Dict.get_mapValues]
  rw [adopted.nodesCache] at registered
  rw [registered, known, Option.map_some, Option.map_some] at same
  rw [adopted.type]
  exact Option.some.inj same

/-- The first node of a slot is a primary and the others are replicas. -/
theorem typed (adopted : Adopted d later) (built : d.Built m sections) (oneRole : OneRole sections)
    {slot : Int} {primary : Nat} {replicas : List Nat}
    (listed : later.slotNodes slot = some (primary :: replicas)) :
    (later.nodes primary).serverType = some .primary ∧
      ∀ ref ∈ replicas, (later.nodes ref).serverType = some .replica := by
  obtain ⟨s, describes, reads⟩ := built.surveyed
  have same := adopted.slots built slot
  rw [listed, Option.map_some] at same
  obtain ⟨sect, first, addresses⟩ := Option.map_eq_some_iff.mp same.symm
  have member := List.mem_of_find?_eq_some first
  obtain ⟨head, tail⟩ := List.cons.inj addresses
  constructor
  · apply adopted.type_of_role describes (adopted.registered built listed List.mem_cons_self)
    have role := reads.primary_role oneRole member
    rw [head] at role
    exact role
  · intro ref inside
    apply adopted.type_of_role describes
      (adopted.registered built listed (List.mem_cons_of_mem _ inside))
    have replica : ((later.nodes ref).host, (later.nodes ref).port) ∈ sect.replicas := by
      rw [tail]
      exact List.mem_map.mpr ⟨ref, inside, rfl⟩
    exact reads.replica_role oneRole member replica

/-- The node cache has the reported nodes. -/
theorem reported (adopted : Adopted d later) (built : d.Built m sections) (name : Text) :
    later.nodesCache.contains name = true ↔ ∃ sect ∈ sections, name ∈ sect.nodeNames := by
  obtain ⟨s, describes, reads⟩ := built.surveyed
  rw [adopted.nodesCache, ← reads.contains_iff, Dict.contains_eq_isSome_get, describes.contains_iff]

/-- The nodes are filed under their names. -/
theorem named (adopted : Adopted d later) (wellFormed : d.WellFormed) {name : Text} {ref : Nat}
    (found : later.nodesCache.get name = some ref) : (later.nodes ref).name = name := by
  rw [adopted.nodesCache] at found
  obtain ⟨bound, same⟩ := wellFormed.filed _ (Dict.mem_of_get found)
  rw [adopted.grows.name ref bound, same]

end Adopted

namespace NodesManager

/-- A manager that has adopted what was built has the routing table of the sections. -/
theorem conclude_adopted {config : ClusterConfig} {m later : NodesManager}
    {sections : List SlotSection} {d : Discovery} (adopted : Adopted d later)
    (built : d.Built m sections) (oneRole : OneRole sections)
    (defaultNode : ∃ ref ∈ later.nodesCache.map (·.2),
      later.defaultNode = some ref ∧ (later.nodes ref).serverType = some .primary)
    (covered : config.requireFullCoverage = true → d.covered = true)
    (settled : later.movedException = none) : later.Consistent config sections where
  slots slot := adopted.slots built slot
  registered _ _ listed _ member := adopted.registered built listed member
  typed _ _ _ listed := adopted.typed built oneRole listed
  reported name := adopted.reported built name
  named _ _ found := by
    obtain ⟨s, describes, -⟩ := built.surveyed
    exact adopted.named describes.wellFormed found
  defaultNode := defaultNode
  covered required slot bound := by
    obtain ⟨s, describes, -⟩ := built.surveyed
    have all := List.all_eq_true.mp (covered required) slot (List.mem_range.mpr bound)
    rw [Dict.contains_eq_isSome_get] at all
    rw [adopted.slotNodes_eq describes.wellFormed, Option.isSome_map]
    exact all
  settled := settled

/-- A refresh that succeeds leaves the routing table of the sections it has built. -/
theorem conclude_consistent {config : ClusterConfig} (sync : config.flavor = .sync)
    {m later : NodesManager} {sections : List SlotSection} (oneRole : OneRole sections)
    {d : Discovery} (built : d.Built m sections) {reachable : Bool}
    (concluded : conclude config reachable d = .ok () later) : later.Consistent config sections := by
  obtain ⟨s, describes, reads⟩ := built.surveyed
  have opened : connected config d = d.manager.createRedisConnections (d.tmpNodes.map (·.2)) :=
    if_pos sync
  have frame : Frame d.manager (connected config d) := by
    rw [opened]
    exact Frame.createRedisConnections _ _
  have same : ∀ ref, ((connected config d).nodes ref).serverType = (d.manager.nodes ref).serverType := by
    rw [opened]
    exact createRedisConnections_serverType _ _
  unfold conclude at concluded
  cases reachable with
  | false => cases concluded
  | true =>
    simp only [Bool.not_true, Bool.false_eq_true, ↓reduceIte] at concluded
    split at concluded
    · cases concluded
    next complete =>
    split at concluded
    · cases concluded
    next primary others primaries =>
    have adoption : (connected config d).adopt config d =
        { connected config d with
          nodesCache := d.tmpNodes
          slotsCache := d.tmpSlots
          startupNodes := some ((connected config d).startupNodes.getD
            (connected config d).nodesCache) } := by rw [adopt, sync]
    have listed : primary ∈ ((connected config d).adopt config d).getNodesByServerType .primary := by
      rw [primaries]
      exact List.mem_cons_self
    rw [adoption] at listed concluded
    obtain ⟨member, type⟩ := List.mem_filter.mp listed
    cases concluded
    refine conclude_adopted ?_ built oneRole ?_ ?_ rfl
    · exact ⟨⟨frame.grows.nodeCount, frame.grows.listCount, frame.grows.name, frame.grows.lists⟩,
        fun ref bound => ⟨frame.host ref bound, frame.port ref bound⟩, same, rfl, rfl⟩
    · exact ⟨primary, member, rfl, beq_iff_eq.mp type⟩
    · intro required
      cases covered : d.covered with
      | true => rfl
      | false =>
        rw [covered, required] at complete
        exact absurd rfl complete

/-- In every state of a blocking client's manager, a refresh that succeeds leaves the routing table
of the sections it has used, provided that their hosts are plain, no address is remapped and
none has two roles. -/
theorem initialize_consistent (config : ClusterConfig) (remap : config.remap = id)
    (answers : AddressAnswers) (m : Standing)
    (plain : ∀ sect ∈ usedSections answers m.startupAddresses [], sect.Plain)
    (oneRole : OneRole (usedSections answers m.startupAddresses [])) {later : NodesManager}
    (ran : m.initializeNodes { config with flavor := .sync } answers.byNode = .ok () later) :
    later.Consistent config (usedSections answers m.startupAddresses []) := by
  have known : ∀ startup ∈ m.startups, startup < m.nodeCount := by
    intro startup member
    obtain ⟨item, stored, rfl⟩ := List.mem_map.mp member
    exact (m.started item stored).1
  have start : (Discovery.begin m.resetBalancer).Built m.toNodesManager [] := by
    have nothing : Survey.Heard [] Survey.begin.roles :=
      ⟨fun _ _ found => (by cases found), fun _ member => (by cases member)⟩
    constructor
    · intro item member
      cases member
    · exact ⟨Survey.begin, .begin m.wellFormed, nothing, fun _ => rfl⟩
  have startups : m.resetBalancer.startups = m.startups := rfl
  unfold initializeNodes at ran
  rw [startups] at ran
  cases asked : (Discovery.begin m.resetBalancer).askStartupNodes { config with flavor := .sync }
      answers.byNode m.startups false with
  | error e d =>
    simp only [asked] at ran
    cases ran
  | ok reachable d =>
    simp only [asked] at ran
    have built := start.ask { config with flavor := .sync } remap m.wellFormed.filed known plain asked
    have consistent := conclude_consistent rfl oneRole built ran
    exact ⟨consistent.slots, consistent.registered, consistent.typed, consistent.reported,
      consistent.named, consistent.defaultNode, consistent.covered, consistent.settled⟩

/-- After a failover the two nodes have swapped their roles. -/
def swapped : AddressAnswers := fun _ => .ok (sixSlots 7001 7000)

/-- A refresh after the failover of a manager that has both nodes. -/
theorem initialize_consistent_swapped :
    ∃ later, sixSlotsManager.initializeNodes (relaxedConfig .sync) swapped.byNode = .ok () later ∧
      later.Consistent (relaxedConfig .sync)
        (usedSections swapped sixSlotsManager.startupAddresses []) := by
  have done : (EStateM.run' (initializeNodes (relaxedConfig .sync) swapped.byNode)
      sixSlotsManager.toNodesManager).isSome = true := by decide +kernel
  have reported : ∀ sect ∈ usedSections swapped sixSlotsManager.startupAddresses [],
      sect ∈ sixSlots 7001 7000 := by
    intro sect used
    rcases mem_usedSections used with member | ⟨_, _, answered, member⟩
    · cases member
    · cases answered
      exact member
  have plain : ∀ sect ∈ sixSlots 7001 7000, sect.Plain := by
    intro sect member
    rw [List.mem_singleton.mp member]
    unfold SlotSection.Plain
    decide
  have oneRole : OneRole (sixSlots 7001 7000) := by
    intro sect member other inside
    rw [List.mem_singleton.mp member, List.mem_singleton.mp inside]
    decide
  have unmapped : (relaxedConfig .sync).remap = id := rfl
  have plainUsed : ∀ sect ∈ usedSections swapped sixSlotsManager.startupAddresses [], sect.Plain :=
    fun sect used => plain sect (reported sect used)
  have oneUsed : OneRole (usedSections swapped sixSlotsManager.startupAddresses []) :=
    fun sect used other more => oneRole sect (reported sect used) other (reported other more)
  cases ran : sixSlotsManager.initializeNodes (relaxedConfig .sync) swapped.byNode with
  | ok u later =>
    exact ⟨later, rfl,
      initialize_consistent (relaxedConfig .sync) unmapped swapped sixSlotsManager plainUsed oneUsed ran⟩
  | error e later =>
    unfold EStateM.run' EStateM.run at done
    rw [ran] at done
    cases done

end NodesManager

end RedisPy

import RedisPy.Cluster.Upkeep

/-!
# What cluster clients remember of the cluster

A cluster client finds the cluster through its startup nodes. It drops a node from them when
the node fails, and gives them up for the nodes that a refresh finds. What happens to them is
recorded as events; as long as every event is harmless, the client keeps a way to the cluster.
-/

namespace RedisPy

open Contract NodesManager

/-! ## The law -/

/-- The manager before an event. -/
def ClusterEvent.before : ClusterEvent → NodesManager
  | .removal before _ => before
  | .refresh before _ _ => before

/-- The law: there always were startup nodes and still are, and a refresh after a removal either
adopts a topology with the removed node or finds it put back. -/
structure RedisCluster.Remembers (c : RedisCluster) : Prop where
  /-- There are startup nodes. -/
  members : c.manager.startupTable ≠ []
  /-- No removed node was left out. -/
  complete : c.forgotten = []
  /-- There were startup nodes at every event. -/
  always : ∀ event ∈ c.events, event.before.startupTable ≠ []

/-- A topology with the removed nodes. The asyncio class fills the startup list before it looks for
a primary; so it needs an answer that lists a node, but not one that lists a primary. -/
def Survey.Relists (flavor : Flavor) (removed : List Text) (s : Survey) : Prop :=
  match flavor with
  | .sync => removed = [] ∨ (s.NamesPrimary ∧ ∀ name ∈ removed, s.roles.contains name)
  | .async => s.roles ≠ [] ∧ ∀ name ∈ removed, s.roles.contains name

/-- What startup nodes answer gives back the removed nodes: where there are any, the answers cover
what they have to and list the removed nodes. -/
def Survey.GivesBack (config : ClusterConfig) (removed : List Text) :
    EStateM.Result Exc Survey Bool → Prop
  | .error _ _ => removed = []
  | .ok reachable s =>
    if reachable = false ∨ (s.covered = false ∧ config.requireFullCoverage = true) then removed = []
    else s.Relists config.flavor removed

/-- A refresh that gives back the nodes that were removed before it. -/
def NodesManager.Rediscovers (config : ClusterConfig) (answers : AddressAnswers)
    (removed : List Text) (m : NodesManager) : Prop :=
  Survey.GivesBack config removed (Survey.begin.ask config m answers m.startups false)

/-- A removal is harmless where another startup node is left, a refresh where it gives back what
was removed before it. -/
def ClusterEvent.Harmless (config : ClusterConfig) : ClusterEvent → Prop
  | .removal before name => ∃ item ∈ before.startupTable, item.1 ≠ name
  | .refresh before answers removed => before.Rediscovers config answers removed

instance (flavor : Flavor) (removed : List Text) (s : Survey) :
    Decidable (s.Relists flavor removed) :=
  match flavor with
  | .sync => inferInstanceAs (Decidable (removed = [] ∨
      ((∃ item ∈ s.roles, item.2 = ServerType.primary) ∧ ∀ name ∈ removed, s.roles.contains name)))
  | .async => inferInstanceAs (Decidable (s.roles ≠ [] ∧ ∀ name ∈ removed, s.roles.contains name))

instance (config : ClusterConfig) (removed : List Text) (result : EStateM.Result Exc Survey Bool) :
    Decidable (Survey.GivesBack config removed result) :=
  match result with
  | .error _ _ => inferInstanceAs (Decidable (removed = []))
  | .ok reachable s => inferInstanceAs (Decidable
      (if reachable = false ∨ (s.covered = false ∧ config.requireFullCoverage = true) then removed = []
      else s.Relists config.flavor removed))

instance (config : ClusterConfig) (event : ClusterEvent) : Decidable (event.Harmless config) :=
  match event with
  | .removal before name => inferInstanceAs (Decidable (∃ item ∈ before.startupTable, item.1 ≠ name))
  | .refresh before answers removed => inferInstanceAs (Decidable
      (Survey.GivesBack config removed (Survey.begin.ask config before answers before.startups false)))

/-! ## Managers with startup nodes -/

/-- A manager in order that has startup nodes. -/
structure NodesManager.Stocked (m : NodesManager) : Prop where
  /-- The caches. -/
  wellFormed : m.WellFormed
  /-- The startup nodes are filed. -/
  started : Filed m m.startupTable
  /-- There are some. -/
  members : m.startupTable ≠ []

namespace Dict

variable {κ υ : Type} [BEq κ]

/-- What is stored leaves no dictionary empty. -/
theorem set_ne_nil (d : Dict κ υ) (key : κ) (value : υ) : d.set key value ≠ [] := by
  cases d with
  | nil => exact List.cons_ne_nil _ _
  | cons item rest =>
    unfold set
    split <;> exact List.cons_ne_nil _ _

/-- A dictionary with a key is not empty. -/
theorem ne_nil_of_contains {d : Dict κ υ} {key : κ} (stored : d.contains key = true) : d ≠ [] := by
  rintro rfl
  cases stored

variable [LawfulBEq κ]

/-- Other keys stay when one is erased. -/
theorem mem_erase_of_ne {d : Dict κ υ} {key : κ} {item : κ × υ} (member : item ∈ d)
    (other : item.1 ≠ key) : item ∈ d.erase key := by
  have differ : ¬(item.1 == key) = true := by simpa using other
  exact (@List.mem_eraseP_of_neg _ (fun item : κ × υ => item.1 == key) _ d differ).mpr member

/-- Storing keeps every key and adds one. -/
theorem contains_set (d : Dict κ υ) (key other : κ) (value : υ) :
    (d.set key value).contains other = (d.contains other || key == other) := by
  by_cases same : key = other
  · subst same
    rw [contains_eq_isSome_get, get_set_self]
    simp
  · have differ : (key == other) = false := beq_eq_false_iff_ne.mpr same
    rw [contains_eq_isSome_get, contains_eq_isSome_get, get_set_ne d value same, differ,
      Bool.or_false]

end Dict

namespace NodesManager

/-- A merged cache has every name of the new one. -/
theorem contains_setNodes {old new : Dict Text Nat} {name : Text}
    (stored : new.contains name = true) : (setNodes old new).contains name = true := by
  have fold (items start : Dict Text Nat)
      (known : (start.contains name || items.contains name) = true) :
      Dict.contains (items.foldl (fun d item => d.set item.1 item.2) start) name = true := by
    induction items generalizing start with
    | nil => simpa [Dict.contains] using known
    | cons item items ih =>
      apply ih
      rw [Dict.contains_set]
      simpa [Dict.contains, Bool.or_assoc] using known
  apply fold
  rw [stored, Bool.or_true]

namespace Stocked

variable {m later : NodesManager}

/-- What leaves the startup nodes alone. -/
theorem frame (stocked : m.Stocked) (frame : Frame m later) : later.Stocked where
  wellFormed := stocked.wellFormed.grow frame.grows frame.nodesCache frame.slotsCache
  started := frame.started stocked.started
  members := by
    rw [startupTable, frame.startupNodes, frame.nodesCache]
    exact stocked.members

/-- Another default node. -/
theorem replaceDefaultNode (stocked : m.Stocked) (random : Nat) :
    (m.replaceDefaultNode random).Stocked := by
  unfold NodesManager.replaceDefaultNode
  simp only
  split
  · exact ⟨⟨stocked.wellFormed.filed, stocked.wellFormed.served⟩, stocked.started, stocked.members⟩
  · split
    · exact ⟨⟨stocked.wellFormed.filed, stocked.wellFormed.served⟩, stocked.started, stocked.members⟩
    · exact stocked

/-- The redirected node is found or made. -/
theorem redirectedNode_nodesCache {config : ClusterConfig} {e : Redirect} {redirected : Nat}
    (found : m.redirectedNode config e = .ok (redirected, later)) (some : m.nodesCache ≠ []) :
    later.nodesCache ≠ [] := by
  unfold redirectedNode at found
  split at found
  · cases found
  · cases found
    exact some
  · cases found
    exact Dict.set_ne_nil _ _ _

/-- Applying a redirection. -/
theorem updateMovedSlots_nodesCache (config : ClusterConfig) (e : Redirect)
    (some : m.nodesCache ≠ []) : (stateAfter (m.updateMovedSlots config e)).nodesCache ≠ [] := by
  unfold updateMovedSlots
  cases found : m.redirectedNode config e with
  | error raised => exact some
  | ok pair =>
    obtain ⟨redirected, middle⟩ := pair
    have kept := redirectedNode_nodesCache found some
    simp only
    split
    · exact kept
    · split
      · split
        · exact kept
        · exact kept
      · exact kept

/-- A lookup. -/
theorem getNodeFromSlot_nodesCache (config : ClusterConfig) (lookup : Lookup)
    (some : m.nodesCache ≠ []) : (stateAfter (m.getNodeFromSlot config lookup)).nodesCache ≠ [] := by
  have choice (m : NodesManager) (some : m.nodesCache ≠ []) :
      (stateAfter (m.chooseNode config lookup)).nodesCache ≠ [] := by
    obtain ⟨readLoadBalancer, chosen⟩ := chooseNode_state config lookup m
    rw [chosen]
    exact some
  unfold getNodeFromSlot
  cases m.movedException with
  | none => exact choice m some
  | some e =>
    have updated := updateMovedSlots_nodesCache config e some
    cases ran : m.updateMovedSlots config e with
    | ok _ after =>
      rw [ran] at updated
      simp only [ran]
      exact choice after updated
    | error raised after =>
      rw [ran] at updated
      simp only [ran]
      exact updated

/-- A lookup leaves startup nodes. -/
theorem getNodeFromSlot (stocked : m.Stocked) (config : ClusterConfig) (lookup : Lookup) :
    (stateAfter (m.getNodeFromSlot config lookup)).Stocked := by
  have ages := getNodeFromSlot_ages config lookup m
  have wellFormed := getNodeFromSlot_wellFormed config lookup stocked.wellFormed
  refine ⟨wellFormed, ages.started stocked.started wellFormed, ?_⟩
  have before := stocked.members
  unfold startupTable at before ⊢
  rw [ages.startupNodes]
  cases own : m.startupNodes with
  | none =>
    rw [own] at before
    exact getNodeFromSlot_nodesCache config lookup before
  | some table =>
    rw [own] at before
    exact before

/-- The startup nodes without one of them. -/
theorem startupTable_popStartup (name : Text) (m : NodesManager) :
    (m.popStartup name).startupTable = m.startupTable.erase name := by
  unfold popStartup startupTable
  cases m.startupNodes with
  | none => rfl
  | some table => rfl

/-- A node is removed while another one is left. -/
theorem popStartup (stocked : m.Stocked) {name : Text}
    (left : ∃ item ∈ m.startupTable, item.1 ≠ name) : (m.popStartup name).Stocked := by
  have less : ∀ cache : Dict Text Nat, Filed m cache → Filed m (cache.erase name) :=
    fun cache filed item member => filed item (List.mem_of_mem_eraseP member)
  have heap : (m.popStartup name).nodes = m.nodes ∧
      (m.popStartup name).nodeCount = m.nodeCount := by
    unfold NodesManager.popStartup
    cases m.startupNodes <;> exact ⟨rfl, rfl⟩
  constructor
  · unfold NodesManager.popStartup
    cases m.startupNodes with
    | none => exact ⟨less _ stocked.wellFormed.filed, stocked.wellFormed.served⟩
    | some table => exact ⟨stocked.wellFormed.filed, stocked.wellFormed.served⟩
  · rw [startupTable_popStartup]
    unfold Filed
    rw [heap.1, heap.2]
    exact less _ stocked.started
  · obtain ⟨item, member, other⟩ := left
    rw [startupTable_popStartup]
    exact List.ne_nil_of_mem (Dict.mem_erase_of_ne member other)

end Stocked

/-! ## Refreshes -/

/-- Where a name belongs after a refresh: in the topology it adopted, or in the startup list. -/
def keepsTrack (name : Text) : EStateM.Result Exc NodesManager Unit → Bool
  | .ok _ m => m.nodesCache.contains name
  | .error _ m => m.startupTable.contains name

/-- A refresh leaves startup nodes, and has the removed ones where they belong. -/
structure Relists (removed : List Text) (result : EStateM.Result Exc NodesManager Unit) : Prop where
  /-- There are startup nodes. -/
  members : (stateAfter result).startupTable ≠ []
  /-- The removed nodes are listed. -/
  listed : ∀ name ∈ removed, keepsTrack name result

/-- Without removed nodes a refresh that adopts nothing relists them. -/
theorem relists_unadopted {m later : NodesManager} (some : m.startupTable ≠ [])
    (same : later.startupTable = m.startupTable) {removed : List Text} (nothing : removed = [])
    (e : Exc) : Relists removed (.error e later) := by
  refine ⟨by rwa [stateAfter, same], ?_⟩
  rw [nothing]
  intro name member
  cases member

/-- Frames do not change the startup nodes. -/
theorem Frame.startupTable {m later : NodesManager} (frame : Frame m later) :
    later.startupTable = m.startupTable := by
  rw [NodesManager.startupTable, NodesManager.startupTable, frame.startupNodes, frame.nodesCache]

/-- The blocking class has adopted a topology. -/
theorem relists_adopted_sync {config : ClusterConfig} (sync : config.flavor = .sync)
    {m : NodesManager} (some : m.startupTable ≠ []) {d : Discovery} {s : Survey}
    (describes : s.Describes m d) (complete : (!d.covered && config.requireFullCoverage) = false)
    {removed : List Text}
    (listed : removed = [] ∨ (s.NamesPrimary ∧ ∀ name ∈ removed, s.roles.contains name)) :
    Relists removed (conclude config true d) := by
  have opened := connected_frame config d
  have frame := describes.frame.trans opened
  have types : ∀ ref, (((connected config d).adopt config d).nodes ref).serverType =
      (d.manager.nodes ref).serverType := by
    intro ref
    simp only [adopt, sync, connected, ↓reduceIte]
    exact createRedisConnections_serverType _ _ ref
  have nodesCache : ((connected config d).adopt config d).nodesCache = d.tmpNodes := by
    simp only [adopt, sync]
  have table : ((connected config d).adopt config d).startupTable = m.startupTable := by
    rw [← frame.startupTable]
    simp only [adopt, sync, startupTable, Option.getD_some]
  have named := adopted_primary_iff describes nodesCache types
  unfold conclude
  simp only [Bool.not_true, Bool.false_eq_true, ↓reduceIte, complete]
  split
  · next primaries =>
    rcases listed with nothing | ⟨primary, _⟩
    · exact relists_unadopted some table nothing _
    · exact absurd primaries (named.mpr primary)
  · next primary others primaries =>
    have members : d.tmpNodes ≠ [] := by
      intro none
      simp [getNodesByServerType, nodesCache, none] at primaries
    constructor
    · simp only [startupTable, stateAfter]
      split
      · rw [Option.getD_none, nodesCache]
        exact members
      · rw [← table] at some
        exact some
    · intro name member
      rcases listed with nothing | ⟨_, all⟩
      · rw [nothing] at member
        cases member
      · have read := all name member
        rw [describes.contains_iff, ← Dict.contains_eq_isSome_get] at read
        simp only [keepsTrack, nodesCache]
        exact read

/-- The asyncio class has adopted a topology. -/
theorem relists_adopted_async {config : ClusterConfig} (async : config.flavor = .async)
    {m : NodesManager} {d : Discovery} {s : Survey} (describes : s.Describes m d)
    (complete : (!d.covered && config.requireFullCoverage) = false) {removed : List Text}
    (some : s.roles ≠ []) (listed : ∀ name ∈ removed, s.roles.contains name) :
    Relists removed (conclude config true d) := by
  have known : ∀ name, s.roles.contains name = true →
      ((connected config d).adopt config d).nodesCache.contains name = true := by
    intro name read
    rw [describes.contains_iff, ← Dict.contains_eq_isSome_get] at read
    simp only [adopt, async]
    exact contains_setNodes read
  have started : ∀ name, s.roles.contains name = true →
      ((connected config d).adopt config d).startupTable.contains name = true := by
    intro name read
    have cached := known name read
    simp only [adopt, async, startupTable, Option.getD_some] at cached ⊢
    exact contains_setNodes cached
  have members : ((connected config d).adopt config d).startupTable ≠ [] := by
    obtain ⟨item, member⟩ := List.exists_mem_of_ne_nil _ some
    exact Dict.ne_nil_of_contains (started item.1 (Dict.contains_of_mem member))
  unfold conclude
  simp only [Bool.not_true, Bool.false_eq_true, ↓reduceIte, complete]
  split
  · exact ⟨members, fun name member => started name (listed name member)⟩
  · refine ⟨?_, fun name member => known name (listed name member)⟩
    simp only [stateAfter, startupTable, async, reduceCtorEq, false_and, ↓reduceIte]
    exact members

/-- The end of a refresh relists the removed nodes where the survey does. -/
theorem conclude_relists {config : ClusterConfig} {m : NodesManager} (stocked : m.Stocked)
    {d : Discovery} {s : Survey} (describes : s.Describes m d) {covered reachable : Bool}
    (told : d.covered = covered) {removed : List Text}
    (rediscovers :
      if reachable = false ∨ (covered = false ∧ config.requireFullCoverage = true) then removed = []
      else s.Relists config.flavor removed) :
    Relists removed (conclude config reachable d) := by
  have frame := describes.frame.trans (connected_frame config d)
  cases reachable with
  | false =>
    rw [if_pos (.inl rfl)] at rediscovers
    exact relists_unadopted stocked.members describes.frame.startupTable rediscovers _
  | true =>
    by_cases incomplete : covered = false ∧ config.requireFullCoverage = true
    · rw [if_pos (.inr incomplete)] at rediscovers
      have refused : conclude config true d =
          .error { cls := .redisClusterException } (connected config d) := by
        simp [conclude, told, incomplete]
      rw [refused]
      exact relists_unadopted stocked.members frame.startupTable rediscovers _
    · rw [if_neg (by simpa using incomplete)] at rediscovers
      have complete : (!d.covered && config.requireFullCoverage) = false := by
        rw [told]
        cases covered with
        | true => rfl
        | false => simpa using incomplete
      cases flavor : config.flavor with
      | sync =>
        rw [flavor] at rediscovers
        exact relists_adopted_sync flavor stocked.members describes complete rediscovers
      | async =>
        rw [flavor] at rediscovers
        exact relists_adopted_async flavor describes complete rediscovers.1 rediscovers.2

/-- A refresh that rediscovers the removed nodes relists them. -/
theorem initializeNodes_relists {config : ClusterConfig} {answers : AddressAnswers}
    {m : NodesManager} (stocked : m.Stocked) {removed : List Text}
    (rediscovers : m.Rediscovers config answers removed) :
    Relists removed (m.initializeNodes config answers.byNode) := by
  have known : ∀ startup ∈ m.startups, startup < m.nodeCount := by
    intro startup member
    obtain ⟨item, stored, rfl⟩ := List.mem_map.mp member
    exact (stocked.started item stored).1
  have start := Survey.Describes.begin stocked.wellFormed
  have asked :=
    start.askStartupNodes config stocked.wellFormed.filed answers m.startups known false
  have startups : m.resetBalancer.startups = m.startups := rfl
  unfold Rediscovers at rediscovers
  unfold initializeNodes
  rcases asked.together with
    ⟨reachable, d, s, ran, surveyed, describes⟩ | ⟨e, _, d, s, ran, surveyed, describes⟩
  · rw [surveyed] at rediscovers
    simp only [startups, ran]
    exact conclude_relists stocked describes describes.covered_eq rediscovers
  · rw [surveyed] at rediscovers
    simp only [startups, ran]
    exact relists_unadopted stocked.members describes.frame.startupTable rediscovers e

end NodesManager

/-! ## The client -/

namespace RedisCluster

/-- A client that keeps the law. -/
structure Sound (c : RedisCluster) : Prop where
  /-- Its manager. -/
  stocked : c.manager.Stocked
  /-- The law. -/
  remembers : c.Remembers

/-- The invariant: after harmless events the client keeps the law. -/
def Kept (config : ClusterConfig) (c : RedisCluster) : Prop :=
  (∀ event ∈ c.events, event.Harmless config) → c.Sound

/-- Another manager in order. -/
theorem Kept.withManager {config : ClusterConfig} {c later : RedisCluster} (kept : Kept config c)
    (manager : c.manager.Stocked → later.manager.Stocked) (forgotten : later.forgotten = c.forgotten)
    (events : later.events = c.events) : Kept config later := by
  intro harmless
  rw [events] at harmless
  have sound := kept harmless
  have stocked := manager sound.stocked
  refine ⟨stocked, stocked.members, ?_, ?_⟩
  · rw [forgotten]
    exact sound.remembers.complete
  · rw [events]
    exact sound.remembers.always

section Rules

variable {config : ClusterConfig} {α : Type}

/-- Code of the manager. -/
theorem keeps_onManager {program : EStateM Exc NodesManager α}
    (kept : ∀ m : NodesManager, m.Stocked → (stateAfter (program m)).Stocked) :
    Keeps (Kept config) (onManager program) := by
  intro c start
  have stocked := kept c.manager
  unfold onManager
  cases ran : program c.manager with
  | ok value manager =>
    rw [ran] at stocked
    exact start.withManager stocked rfl rfl
  | error e manager =>
    rw [ran] at stocked
    exact start.withManager stocked rfl rfl

/-- A change of the manager. -/
theorem keeps_modifyManager {change : NodesManager → NodesManager}
    (kept : ∀ m : NodesManager, m.Stocked → (change m).Stocked) :
    Keeps (Kept config) (modifyManager change) :=
  keeps_modify fun c start => start.withManager (kept c.manager) rfl rfl

end Rules

variable (world : ClusterWorld) (options : ClusterOptions) (command : ClusterCommand)

/-! ### Removals and refreshes -/

/-- A record with one more event. -/
theorem Sound.always_cons {c : RedisCluster} (sound : c.Sound) {event : ClusterEvent}
    (before : event.before = c.manager) :
    ∀ other ∈ event :: c.events, other.before.startupTable ≠ [] := by
  intro other member
  rcases List.mem_cons.mp member with rfl | member
  · rw [before]
    exact sound.stocked.members
  · exact sound.remembers.always other member

/-- A removal. -/
theorem keeps_removeStartup (ref : Nat) : Keeps (Kept options.config) (removeStartup ref) := by
  apply keeps_modify
  intro c start
  simp only
  split
  · intro harmless
    have sound := start fun event member => harmless event (List.mem_cons_of_mem _ member)
    have left := harmless _ List.mem_cons_self
    have stocked := sound.stocked.popStartup left
    exact ⟨stocked, stocked.members, sound.remembers.complete, sound.always_cons rfl⟩
  · next absent =>
    refine start.withManager (fun stocked => stocked.popStartup ?_) rfl rfl
    obtain ⟨item, member⟩ := List.exists_mem_of_ne_nil _ stocked.members
    refine ⟨item, member, ?_⟩
    intro same
    have stored := Dict.contains_of_mem member
    rw [same] at stored
    exact absent stored

/-- After a refresh that left startup nodes and all removed ones where they belong. -/
theorem Sound.refreshed {c : RedisCluster} (sound : c.Sound) {manager : NodesManager}
    (stocked : manager.Stocked) {known : Text → Bool} (listed : ∀ name ∈ c.removed, known name = true)
    (clock : Nat) (answers : AddressAnswers) :
    (settleRemoved known { c with
      manager, clock, events := .refresh c.manager answers c.removed :: c.events }).Sound := by
  have nothing : c.removed.filter (fun name => !known name) = [] := by
    rw [List.filter_eq_nil_iff]
    intro name member
    simp [listed name member]
  refine ⟨stocked, stocked.members, ?_, sound.always_cons rfl⟩
  simp only [settleRemoved, nothing, sound.remembers.complete, List.append_nil]

/-- A refresh. -/
theorem keeps_refresh : Keeps (Kept options.config) (refresh world options) := by
  intro c start
  have sound : (∀ event ∈ ClusterEvent.refresh c.manager (world.answers c.clock) c.removed :: c.events,
      event.Harmless options.config) → c.Sound :=
    fun harmless => start fun event member => harmless event (List.mem_cons_of_mem _ member)
  have relists : (∀ event ∈ ClusterEvent.refresh c.manager (world.answers c.clock) c.removed :: c.events,
      event.Harmless options.config) → Relists c.removed
        (c.manager.initializeNodes options.config (world.answers c.clock).byNode) :=
    fun harmless =>
      initializeNodes_relists (sound harmless).stocked (harmless _ List.mem_cons_self)
  have wellFormed (stocked : c.manager.Stocked) := initializeNodes_wellFormed options.config
    (world.answers c.clock).byNode stocked.wellFormed
  have started (stocked : c.manager.Stocked) := initializeNodes_started options.config
    (world.answers c.clock).byNode stocked.wellFormed stocked.started
  unfold refresh
  simp only
  cases ran : c.manager.initializeNodes options.config (world.answers c.clock).byNode with
  | ok _ manager =>
    intro harmless
    rw [ran] at relists wellFormed started
    have before := sound harmless
    have after := relists harmless
    have stocked : manager.Stocked :=
      ⟨wellFormed before.stocked, started before.stocked, after.members⟩
    exact before.refreshed stocked after.listed _ _
  | error e manager =>
    intro harmless
    rw [ran] at relists wellFormed started
    have before := sound harmless
    have after := relists harmless
    have stocked : manager.Stocked :=
      ⟨wellFormed before.stocked, started before.stocked, after.members⟩
    exact before.refreshed stocked after.listed _ _

/-! ### Everything else -/

/-- All that a command does keeps the law, if all events stay harmless. -/
theorem upkeep : Upkeep world options (Kept options.config) where
  clock c clock start := start.withManager (fun stocked => stocked) rfl rfl
  counter c counter start := start.withManager (fun stocked => stocked) rfl rfl
  initialized c start := start.withManager (fun stocked => stocked) rfl rfl
  lookup lookup := keeps_onManager fun m stocked => stocked.getNodeFromSlot _ lookup
  connect ref := keeps_modifyManager fun m stocked =>
    stocked.frame (Frame.createRedisConnections [ref] m)
  moved redirect := keeps_modifyManager fun m stocked =>
    ⟨⟨stocked.wellFormed.filed, stocked.wellFormed.served⟩, stocked.started, stocked.members⟩
  drop ref := keeps_modifyManager fun m stocked =>
    stocked.frame (Frame.modifyNode m ref (fun _ => rfl) fun _ => rfl)
  replace random := keeps_modifyManager fun m stocked => stocked.replaceDefaultNode random
  forget := keeps_modifyManager fun m stocked =>
    ⟨⟨stocked.wellFormed.filed, stocked.wellFormed.served⟩, stocked.started, stocked.members⟩
  remove := keeps_removeStartup options
  refresh := keeps_refresh world options
  close := by
    apply keeps_modify
    intro c start
    split
    · refine start.withManager (fun stocked => ?_) rfl rfl
      exact ⟨⟨stocked.wellFormed.filed, stocked.wellFormed.served⟩, stocked.started,
        stocked.members⟩
    · exact start

/-! ## Runs -/

/-- A new client has startup nodes. -/
theorem create_sound (address : Text × Int) (addresses : List (Text × Int)) :
    (create options (address :: addresses)).Sound := by
  have table : ∀ (addresses : List (Text × Int)) (m : NodesManager), m.startupTable ≠ [] →
      (m.populateStartupNodes options.config addresses).startupTable ≠ [] := by
    intro addresses
    induction addresses with
    | nil => exact fun m some => some
    | cons address addresses ih =>
      intro m some
      apply ih
      exact Dict.set_ne_nil _ _ _
  have started : Filed (empty.populateStartupNodes options.config (address :: addresses))
      (empty.populateStartupNodes options.config (address :: addresses)).startupTable := by
    apply populateStartupNodes_started
    · exact Option.some_ne_none []
    · intro item member
      cases member
  have members : (empty.populateStartupNodes options.config (address :: addresses)).startupTable ≠
      [] := table addresses _ (Dict.set_ne_nil _ _ _)
  refine ⟨⟨run_wellFormed options.config (address :: addresses) [], started, members⟩, members, rfl, ?_⟩
  intro event member
  cases member

/-- In every run of a client all of whose events are harmless, the client never is without startup
nodes, and no node that it removed is forgotten. -/
theorem run_remembers (address : Text × Int) (addresses : List (Text × Int))
    (commands : List ClusterCommand)
    (harmless : ∀ event ∈ (run world options (address :: addresses) commands).events,
      event.Harmless options.config) :
    (run world options (address :: addresses) commands).Remembers := by
  have start : Kept options.config (create options (address :: addresses)) :=
    fun _ => create_sound options address addresses
  have kept := (upkeep world options).run start commands
  exact (kept harmless).remembers

/-! ## A short outage -/

/-- A cluster of one primary that always gives its topology, but does not answer at first. -/
def shortOutage : ClusterWorld where
  exchange clock _ _ := if clock < 4 then .error { cls := .connectionError } else .ok ()
  answers _ _ := .ok
    [{ first := 0, last := 5, primary := ("127.0.0.1".toList, 7000), replicas := [] }]
  commandTable _ := .ok ()
  random _ := 0

/-- The default options. -/
def defaultOptions (flavor : Flavor) : ClusterOptions where
  config := relaxedConfig flavor
  reinitializeSteps := 5
  clusterErrorRetryAttempts := 3
  requestTtl := 16

/-- A command for slot 0. -/
def readSlotZero : ClusterCommand where
  target := .slot
  slot := .ok 0
  readFromReplicas := false
  strategy := none

/-- One failed exchange with the only node leaves a client that has no startup nodes, in both
classes. -/
theorem shortOutage_not_remembers :
    ¬(run shortOutage (defaultOptions .sync) [("127.0.0.1".toList, 7000)] [readSlotZero]).Remembers ∧
      ¬(run shortOutage (defaultOptions .async) [("127.0.0.1".toList, 7000)]
        [readSlotZero]).Remembers := by
  constructor
  · intro remembers
    exact remembers.members (by decide +kernel)
  · intro remembers
    exact remembers.members (by decide +kernel)

/-- The same outage in a cluster of two primaries. -/
def twoPrimaries : ClusterWorld := { shortOutage with
  answers := fun _ _ => .ok
    [{ first := 0, last := 5, primary := ("127.0.0.1".toList, 7000), replicas := [] },
      { first := 6, last := 9, primary := ("127.0.0.1".toList, 7001), replicas := [] }] }

/-- Where another node is left, the blocking client removes the failed node and finds it again. -/
theorem run_remembers_twoPrimaries :
    (run twoPrimaries (defaultOptions .sync) [("127.0.0.1".toList, 7000)] [readSlotZero]).events.length =
        3 ∧
      (run twoPrimaries (defaultOptions .sync) [("127.0.0.1".toList, 7000)]
        [readSlotZero]).Remembers := by
  constructor
  · decide +kernel
  · exact run_remembers _ _ _ _ _ (by decide +kernel)

end RedisCluster

end RedisPy

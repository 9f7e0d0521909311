import RedisPy.Cluster.Invariant

/-!
# Redirections and the slot table

When applying a `MOVED` redirection leaves the slot with the redirected node in front, its
former primary a replica and nothing pending. Every run of a manager is covered: startup
nodes, initializations that succeed or fail, connections, redirections and lookups.
-/

namespace RedisPy

open Contract

namespace NodesManager

/-! ## Applying a redirection -/

/-- The name of the node that a redirection names. -/
def redirectName (config : ClusterConfig) (e : Redirect) : Text :=
  getNodeName (config.resolve e.host) e.port

/-- What looking up or making the redirected node gives. -/
structure Redirected (config : ClusterConfig) (e : Redirect) (m after : NodesManager)
    (redirected : Nat) : Prop where
  /-- Names and lists stay. -/
  grows : Grows m after
  /-- The manager stays well-formed. -/
  wellFormed : after.WellFormed
  /-- No list is made. -/
  listCount : after.listCount = m.listCount
  /-- The slot table stays. -/
  slotsCache : after.slotsCache = m.slotsCache
  /-- The node has the name of the redirection. -/
  name : (after.nodes redirected).name = redirectName config e
  /-- It is a primary. -/
  serverType : (after.nodes redirected).serverType = some .primary
  /-- It is registered under its name. -/
  registered : after.nodesCache.get (redirectName config e) = some redirected
  /-- It is the registered node, if there was one, and new otherwise. -/
  found : ∀ ref < m.nodeCount, redirected = ref ↔ m.getNode config e.host e.port = .ok (some ref)

/-- The redirected node is found or made; only the asyncio class can fail, for an address without
host or port. -/
theorem redirectedNode_spec (config : ClusterConfig) (e : Redirect) {m : NodesManager}
    (wellFormed : m.WellFormed) :
    match m.redirectedNode config e with
    | .error _ => config.flavor = .async ∧ ¬(e.host ≠ [] ∧ e.port ≠ 0)
    | .ok (redirected, after) => (config.flavor = .async → e.host ≠ [] ∧ e.port ≠ 0) ∧
        Redirected config e m after redirected := by
  unfold redirectedNode
  cases found : m.getNode config e.host e.port with
  | error raised =>
    unfold getNode at found
    by_cases usable : e.host ≠ [] ∧ e.port ≠ 0
    · rw [if_pos usable] at found
      cases found
    · rw [if_neg usable] at found
      cases flavor : config.flavor with
      | sync =>
        rw [flavor] at found
        cases found
      | async => exact ⟨rfl, usable⟩
  | ok node =>
    have addressed : config.flavor = .async → e.host ≠ [] ∧ e.port ≠ 0 := by
      intro async
      by_contra unusable
      unfold getNode at found
      rw [if_neg unusable, async] at found
      cases found
    cases node with
    | some ref =>
      have cached : m.nodesCache.get (redirectName config e) = some ref := by
        unfold getNode at found
        by_cases usable : e.host ≠ [] ∧ e.port ≠ 0
        · rw [if_pos usable] at found
          exact Except.ok.inj found
        · rw [if_neg usable] at found
          cases flavor : config.flavor with
          | sync =>
            rw [flavor] at found
            cases found
          | async =>
            rw [flavor] at found
            cases found
      obtain ⟨bound, name⟩ := wellFormed.filed _ (Dict.mem_of_get cached)
      have grows := grows_setServerType m ref .primary
      refine ⟨addressed, ⟨grows, wellFormed.grow grows rfl rfl, rfl, rfl, ?_, ?_, cached, ?_⟩⟩
      · rw [grows.name ref bound]
        exact name
      · simp [setServerType, modifyNode]
      · intro other _
        rw [found, Except.ok.injEq, Option.some.injEq]
    | none =>
      let grown := (m.newNode config e.host e.port (some .primary)).2
      have grows : Grows m grown := grows_newNode config e.host e.port (some .primary) m
      have fresh : grown.nodes m.nodeCount =
          { host := config.resolve e.host, port := e.port, serverType := some .primary,
            connected := false } := by simp [grown, newNode]
      have name : (grown.nodes m.nodeCount).name = redirectName config e := by
        rw [fresh]
        rfl
      have registered : Grows m (grown.register m.nodeCount) :=
        ⟨grows.nodeCount, grows.listCount, grows.name, grows.lists⟩
      refine ⟨addressed, ⟨registered, ⟨?_, ?_⟩, rfl, rfl, name, ?_, ?_, ?_⟩⟩
      · exact (wellFormed.filed.grow grows).set (Nat.lt_succ_self _)
      · exact wellFormed.served.grow registered
      · show (grown.nodes m.nodeCount).serverType = _
        rw [fresh]
      · show (grown.nodesCache.set (grown.nodes m.nodeCount).name m.nodeCount).get _ = _
        rw [← name]
        exact Dict.get_set_self _ _ _
      · intro ref bound
        rw [found, Except.ok.injEq]
        constructor
        · intro same
          exact absurd bound (by rw [← same]; exact Nat.lt_irrefl _)
        · intro same
          cases same

/-- What a slot looks like once a redirection was applied to it. -/
structure Redirects (config : ClusterConfig) (e : Redirect) (before after : NodesManager) : Prop where
  /-- Nothing is pending. -/
  cleared : after.movedException = none
  /-- The redirected node is in front, a primary, and registered under its name. -/
  front : ∃ redirected others, after.slotNodes e.slotId = some (redirected :: others) ∧
    (after.nodes redirected).name = redirectName config e ∧
    (after.nodes redirected).serverType = some .primary ∧
    after.nodesCache.get (redirectName config e) = some redirected
  /-- No node is listed twice. -/
  nodup : ∀ members, after.slotNodes e.slotId = some members → (after.names members).Nodup
  /-- A node that was listed before moves within the list. -/
  kept : ∀ old, before.slotNodes e.slotId = some old → redirectName config e ∈ before.names old →
    ∃ members, after.slotNodes e.slotId = some members ∧
      (after.names members).Perm (before.names old)
  /-- Another node that was in front before is a replica then. -/
  demoted : ∀ primary others, before.slotNodes e.slotId = some (primary :: others) →
    redirectName config e ∈ before.names (primary :: others) →
    (before.nodes primary).name ≠ redirectName config e →
    (after.nodes primary).serverType = some .replica

/-- The redirections that the code applies as it means to: the slot is covered, and the node is
new to it, or one of several distinct nodes but not the first, or a second object under the
name of the only one; the asyncio class also needs a host and a port. -/
def Redirectable (config : ClusterConfig) (e : Redirect) (m : NodesManager) : Prop :=
  (config.flavor = .async → e.host ≠ [] ∧ e.port ≠ 0) ∧
  ∃ members, m.slotNodes e.slotId = some members ∧
    (redirectName config e ∉ m.names members ∨
      (m.names members).Nodup ∧ (m.names members).head? ≠ some (redirectName config e) ∨
      ∃ primary, members = [primary] ∧ m.getNode config e.host e.port ≠ .ok (some primary))

/-- The first node of a name is the first with its name. -/
theorem names_eraseP (m : NodesManager) (name : Text) (refs : List Nat) :
    m.names (refs.eraseP fun ref => (m.nodes ref).name == name) = (m.names refs).erase name := by
  induction refs with
  | nil => rfl
  | cons ref refs ih =>
    by_cases same : (m.nodes ref).name = name
    · simp [names, same]
    · have apart : ((m.nodes ref).name == name) = false := beq_eq_false_iff_ne.mpr same
      simp only [names] at ih
      simp [names, apart, ih]

/-- The members of a list once a listed node was put in front of it. -/
def promotedMembers (m : NodesManager) (members : List Nat) (redirected oldPrimary : Nat) :
    List Nat :=
  ((members ++ [oldPrimary]).eraseP fun ref =>
    (m.nodes ref).name == (m.nodes redirected).name).set 0 redirected

/-- The manager after a listed node was put in front of its slot. -/
def promoted (m : NodesManager) (list : Nat) (members : List Nat) (oldPrimary : Nat)
    (defaultNode : Option Nat) : NodesManager :=
  { (m.setServerType oldPrimary .replica).setList list members with
    defaultNode
    movedException := none }

/-- The manager after a slot was given to a node that was not listed. -/
def replaced (m : NodesManager) (slot : Int) (redirected : Nat) : NodesManager :=
  { (m.newList [redirected]).2 with
    slotsCache := m.slotsCache.set slot m.listCount
    movedException := none }

/-- What `_update_moved_slots` does, case by case. -/
theorem updateMovedSlots_cases (config : ClusterConfig) (e : Redirect) {m : NodesManager}
    (wellFormed : m.WellFormed) :
    (∃ raised after, m.updateMovedSlots config e = .error raised after ∧ after.WellFormed ∧
      (config.flavor = .async ∧ ¬(e.host ≠ [] ∧ e.port ≠ 0) ∨ m.slotNodes e.slotId = none)) ∨
    ∃ middle redirected list, Redirected config e m middle redirected ∧
      (config.flavor = .async → e.host ≠ [] ∧ e.port ≠ 0) ∧
      middle.slotsCache.get e.slotId = some list ∧ m.slotNodes e.slotId = some (middle.lists list) ∧
      (redirectName config e ∉ middle.names (middle.lists list) ∧
          m.updateMovedSlots config e = .ok () (middle.replaced e.slotId redirected) ∨
        redirectName config e ∈ middle.names (middle.lists list) ∧
          ∃ oldPrimary others defaultNode, middle.lists list = oldPrimary :: others ∧
            m.updateMovedSlots config e =
              .ok () (middle.promoted list
                (middle.promotedMembers (oldPrimary :: others) redirected oldPrimary) oldPrimary
                defaultNode)) := by
  have spec := redirectedNode_spec config e wellFormed
  unfold updateMovedSlots
  cases found : m.redirectedNode config e with
  | error raised =>
    rw [found] at spec
    exact .inl ⟨raised, m, rfl, wellFormed, .inl spec⟩
  | ok pair =>
    obtain ⟨redirected, middle⟩ := pair
    rw [found] at spec
    obtain ⟨addressed, spec⟩ := spec
    simp only
    cases covered : middle.slotsCache.get e.slotId with
    | none =>
      have uncovered : m.slotNodes e.slotId = none := by
        rw [slotNodes, ← spec.slotsCache, covered]
        rfl
      exact .inl ⟨_, middle, rfl, spec.wellFormed, .inr uncovered⟩
    | some list =>
      have stored : m.slotsCache.get e.slotId = some list := by rw [← spec.slotsCache, covered]
      have bound := (wellFormed.served _ (Dict.mem_of_get stored)).1
      have before : m.slotNodes e.slotId = some (middle.lists list) := by
        rw [slotNodes, stored, spec.grows.lists list bound]
        rfl
      refine .inr ⟨middle, redirected, list, spec, addressed, covered, before, ?_⟩
      have listed : (middle.lists list).any (fun ref =>
          (middle.nodes ref).name == (middle.nodes redirected).name) = true ↔
            redirectName config e ∈ middle.names (middle.lists list) := by
        rw [← spec.name]
        simp [names, List.any_eq_true]
      by_cases inside : redirectName config e ∈ middle.names (middle.lists list)
      · right
        refine ⟨inside, ?_⟩
        simp only [if_pos (listed.mpr inside)]
        cases members : middle.lists list with
        | nil =>
          rw [members] at inside
          cases inside
        | cons oldPrimary others =>
          exact ⟨oldPrimary, others, _, rfl, rfl⟩
      · left
        refine ⟨inside, ?_⟩
        simp only [if_neg (fun found => inside (listed.mp found))]
        rfl

/-! ## The slot after a redirection -/

/-- Names do not depend on server types. -/
@[simp] theorem name_setServerType (m : NodesManager) (ref other : Nat) (serverType : ServerType) :
    ((m.setServerType ref serverType).nodes other).name = (m.nodes other).name := by
  by_cases here : other = ref
  · simp [setServerType, modifyNode, ClusterNode.name, here]
  · simp [setServerType, modifyNode, here]

/-- Existing nodes keep their names. -/
theorem Grows.names {m later : NodesManager} (grows : Grows m later) {refs : List Nat}
    (inside : ∀ ref ∈ refs, ref < m.nodeCount) : later.names refs = m.names refs := by
  apply List.map_congr_left
  intro ref member
  exact grows.name ref (inside ref member)

/-- A slot that is not listed for the node gets a list of its own. -/
theorem slotNodes_replaced (m : NodesManager) (slot : Int) (redirected : Nat) :
    (m.replaced slot redirected).slotNodes slot = some [redirected] := by
  unfold slotNodes replaced
  rw [Dict.get_set_self]
  simp [newList]

/-- A slot that is listed for the node keeps its list object. -/
theorem slotNodes_promoted {m : NodesManager} {slot : Int} {list : Nat} (members : List Nat)
    (oldPrimary : Nat) (defaultNode : Option Nat) (covered : m.slotsCache.get slot = some list) :
    (m.promoted list members oldPrimary defaultNode).slotNodes slot = some members := by
  show (m.slotsCache.get slot).map _ = _
  rw [covered]
  simp [promoted, setList]

/-- Promotion changes no name. -/
theorem names_promoted (m : NodesManager) (list : Nat) (members : List Nat) (oldPrimary : Nat)
    (defaultNode : Option Nat) (refs : List Nat) :
    (m.promoted list members oldPrimary defaultNode).names refs = m.names refs := by
  apply List.map_congr_left
  intro ref _
  exact name_setServerType m oldPrimary ref .replica

/-- The former primary is a replica then. -/
theorem serverType_promoted_self (m : NodesManager) (list : Nat) (members : List Nat)
    (oldPrimary : Nat) (defaultNode : Option Nat) :
    ((m.promoted list members oldPrimary defaultNode).nodes oldPrimary).serverType =
      some .replica := by
  simp [promoted, setList, setServerType, modifyNode]

/-- Every other node keeps its server type. -/
theorem serverType_promoted_ne (m : NodesManager) (list : Nat) (members : List Nat)
    {ref oldPrimary : Nat} (defaultNode : Option Nat) (apart : ref ≠ oldPrimary) :
    ((m.promoted list members oldPrimary defaultNode).nodes ref).serverType =
      (m.nodes ref).serverType := by
  simp [promoted, setList, setServerType, modifyNode, apart]

/-- When the node in front has the name of the redirected node, it is what is removed. -/
theorem promotedMembers_of_front {m : NodesManager} {redirected oldPrimary : Nat}
    (others : List Nat) (same : (m.nodes oldPrimary).name = (m.nodes redirected).name) :
    m.promotedMembers (oldPrimary :: others) redirected oldPrimary =
      (others ++ [oldPrimary]).set 0 redirected := by
  simp [promotedMembers, same]

/-- Otherwise the redirected node takes the front and the former primary goes to the end. -/
theorem promotedMembers_of_behind {m : NodesManager} {redirected oldPrimary : Nat}
    {others : List Nat} (apart : (m.nodes oldPrimary).name ≠ (m.nodes redirected).name)
    (listed : (m.nodes redirected).name ∈ m.names others) :
    m.promotedMembers (oldPrimary :: others) redirected oldPrimary =
      redirected :: (others.eraseP fun ref => (m.nodes ref).name == (m.nodes redirected).name) ++
        [oldPrimary] := by
  have differ : ((m.nodes oldPrimary).name == (m.nodes redirected).name) = false :=
    beq_eq_false_iff_ne.mpr apart
  obtain ⟨ref, member, name⟩ := List.mem_map.mp listed
  have gone : (others ++ [oldPrimary]).eraseP (fun ref =>
      (m.nodes ref).name == (m.nodes redirected).name) =
        others.eraseP (fun ref => (m.nodes ref).name == (m.nodes redirected).name) ++
          [oldPrimary] :=
    List.eraseP_append_left (a := ref) (by simp [name]) [oldPrimary] member
  unfold promotedMembers
  rw [List.cons_append, List.eraseP_cons_of_neg (by simp [differ]), gone]
  rfl

/-- The promoted list names the same nodes as the list before. -/
theorem names_promotedMembers {m : NodesManager} {redirected oldPrimary : Nat} {others : List Nat}
    (apart : (m.nodes oldPrimary).name ≠ (m.nodes redirected).name)
    (listed : (m.nodes redirected).name ∈ m.names others) :
    (m.names (m.promotedMembers (oldPrimary :: others) redirected oldPrimary)).Perm
      (m.names (oldPrimary :: others)) := by
  rw [promotedMembers_of_behind apart listed]
  have erased := names_eraseP m (m.nodes redirected).name others
  have written : m.names (redirected :: (others.eraseP fun ref =>
      (m.nodes ref).name == (m.nodes redirected).name) ++ [oldPrimary]) =
      ((m.nodes redirected).name :: (m.names others).erase (m.nodes redirected).name) ++
        [(m.nodes oldPrimary).name] := by
    rw [← erased]
    simp [names]
  rw [written]
  have turned : ((m.nodes redirected).name ::
      (m.names others).erase (m.nodes redirected).name ++ [(m.nodes oldPrimary).name]).Perm
        ((m.nodes oldPrimary).name :: (m.nodes redirected).name ::
          (m.names others).erase (m.nodes redirected).name) := List.perm_append_singleton _ _
  have restored := List.perm_cons_erase listed
  exact turned.trans (restored.symm.cons (m.nodes oldPrimary).name)

/-- Every listed node of a slot exists, and there is one. -/
theorem WellFormed.listed {m : NodesManager} (wellFormed : m.WellFormed) {slot : Int}
    {members : List Nat} (covered : m.slotNodes slot = some members) :
    members ≠ [] ∧ ∀ ref ∈ members, ref < m.nodeCount := by
  obtain ⟨list, stored, rfl⟩ := Option.map_eq_some_iff.mp covered
  exact (wellFormed.served _ (Dict.mem_of_get stored)).2

/-- A redirection to a node that is not listed meets the law. -/
theorem replaced_redirects {config : ClusterConfig} {e : Redirect} {m middle : NodesManager}
    {redirected : Nat} (spec : Redirected config e m middle redirected) {old : List Nat}
    (covered : m.slotNodes e.slotId = some old)
    (unlisted : redirectName config e ∉ m.names old) :
    Redirects config e m (middle.replaced e.slotId redirected) := by
  have only := slotNodes_replaced middle e.slotId redirected
  constructor
  · rfl
  · exact ⟨redirected, [], only, spec.name, spec.serverType, spec.registered⟩
  · intro members listed
    rw [only, Option.some.injEq] at listed
    rw [← listed]
    simp [names]
  · intro other before inside
    rw [covered, Option.some.injEq] at before
    rw [← before] at inside
    exact absurd inside unlisted
  · intro primary others before inside
    rw [covered, Option.some.injEq] at before
    rw [← before] at inside
    exact absurd inside unlisted

/-- A redirection to a listed node behind the front meets the law if and only if no node is
listed twice. -/
theorem promoted_redirects_iff_nodup {config : ClusterConfig} {e : Redirect}
    {m middle : NodesManager} (wellFormed : m.WellFormed) {redirected list oldPrimary : Nat}
    (spec : Redirected config e m middle redirected) {others : List Nat}
    (defaultNode : Option Nat) (stored : middle.slotsCache.get e.slotId = some list)
    (covered : m.slotNodes e.slotId = some (oldPrimary :: others))
    (apart : (middle.nodes oldPrimary).name ≠ redirectName config e)
    (listed : redirectName config e ∈ middle.names others) :
    Redirects config e m (middle.promoted list
        (middle.promotedMembers (oldPrimary :: others) redirected oldPrimary) oldPrimary
        defaultNode) ↔
      (m.names (oldPrimary :: others)).Nodup := by
  have inside := (wellFormed.listed covered).2
  have same : middle.names (oldPrimary :: others) = m.names (oldPrimary :: others) :=
    spec.grows.names inside
  have primaryName : (middle.nodes oldPrimary).name = (m.nodes oldPrimary).name :=
    spec.grows.name oldPrimary (inside oldPrimary List.mem_cons_self)
  rw [← spec.name] at apart listed
  have perm := names_promotedMembers apart listed
  have shape := promotedMembers_of_behind apart listed
  let after := middle.promoted list
    (middle.promotedMembers (oldPrimary :: others) redirected oldPrimary) oldPrimary defaultNode
  have now : after.slotNodes e.slotId =
      some (middle.promotedMembers (oldPrimary :: others) redirected oldPrimary) :=
    slotNodes_promoted _ oldPrimary defaultNode stored
  have names : (after.names
      (middle.promotedMembers (oldPrimary :: others) redirected oldPrimary)).Perm
        (m.names (oldPrimary :: others)) := by
    rw [names_promoted, ← same]
    exact perm
  constructor
  · intro law
    exact names.nodup_iff.mp (law.nodup _ now)
  · intro nodup
    constructor
    · rfl
    · have different : redirected ≠ oldPrimary := fun equal => apart (by rw [equal])
      have front := now
      rw [shape] at front
      have type := serverType_promoted_ne middle list
        (middle.promotedMembers (oldPrimary :: others) redirected oldPrimary) defaultNode different
      exact ⟨redirected, _, front, (name_setServerType _ _ _ _).trans spec.name,
        type.trans spec.serverType, spec.registered⟩
    · intro members known
      rw [now, Option.some.injEq] at known
      rw [← known]
      exact names.nodup_iff.mpr nodup
    · intro old before _
      rw [covered, Option.some.injEq] at before
      rw [← before]
      exact ⟨_, now, names⟩
    · intro primary rest before _ _
      rw [covered, Option.some.injEq, List.cons.injEq] at before
      rw [← before.1]
      exact serverType_promoted_self _ _ _ _ _

/-- A redirection to the node in front meets the law if and only if the node is alone and
another object than the registered one. -/
theorem promoted_redirects_iff_alone {config : ClusterConfig} {e : Redirect}
    {m middle : NodesManager} (wellFormed : m.WellFormed) {redirected list oldPrimary : Nat}
    (spec : Redirected config e m middle redirected) {others : List Nat}
    (defaultNode : Option Nat) (stored : middle.slotsCache.get e.slotId = some list)
    (covered : m.slotNodes e.slotId = some (oldPrimary :: others))
    (front : (middle.nodes oldPrimary).name = redirectName config e) :
    Redirects config e m (middle.promoted list
        (middle.promotedMembers (oldPrimary :: others) redirected oldPrimary) oldPrimary
        defaultNode) ↔
      others = [] ∧ redirected ≠ oldPrimary := by
  have inside := (wellFormed.listed covered).2
  have primaryName : (middle.nodes oldPrimary).name = (m.nodes oldPrimary).name :=
    spec.grows.name oldPrimary (inside oldPrimary List.mem_cons_self)
  have shape := promotedMembers_of_front others (front.trans spec.name.symm)
  let after := middle.promoted list
    (middle.promotedMembers (oldPrimary :: others) redirected oldPrimary) oldPrimary defaultNode
  have now : after.slotNodes e.slotId = some ((others ++ [oldPrimary]).set 0 redirected) := by
    rw [← shape]
    exact slotNodes_promoted _ oldPrimary defaultNode stored
  cases others with
  | nil =>
    have alone : after.slotNodes e.slotId = some [redirected] := now
    constructor
    · intro law
      refine ⟨rfl, ?_⟩
      intro equal
      obtain ⟨ref, others, listed, _, type, _⟩ := law.front
      rw [alone, Option.some.injEq, List.cons.injEq] at listed
      rw [← listed.1, equal, serverType_promoted_self] at type
      cases type
    · intro ⟨_, different⟩
      have type := serverType_promoted_ne middle list
        (middle.promotedMembers [oldPrimary] redirected oldPrimary) defaultNode different
      have name := (name_setServerType middle oldPrimary redirected .replica).trans spec.name
      constructor
      · rfl
      · exact ⟨redirected, [], alone, name, type.trans spec.serverType, spec.registered⟩
      · intro members known
        rw [alone, Option.some.injEq] at known
        rw [← known]
        simp [names]
      · intro old before _
        rw [covered, Option.some.injEq] at before
        rw [← before]
        refine ⟨_, alone, ?_⟩
        show [((middle.setServerType oldPrimary .replica).nodes redirected).name].Perm
          [(m.nodes oldPrimary).name]
        rw [name, ← front, primaryName]
      · intro primary rest before _ other
        rw [covered, Option.some.injEq, List.cons.injEq] at before
        rw [← before.1, ← primaryName] at other
        exact absurd front other
  | cons next rest =>
    constructor
    · intro law
      have nodup := law.nodup _ now
      rw [names_promoted] at nodup
      have twice : middle.names ((next :: rest ++ [oldPrimary]).set 0 redirected) =
          redirectName config e :: (middle.names rest ++ [redirectName config e]) := by
        rw [← front]
        simp [names, spec.name, front]
      rw [twice] at nodup
      have fresh := (List.nodup_cons.mp nodup).1
      exact absurd (List.mem_append_right _ (List.mem_singleton_self _)) fresh
    · intro ⟨empty, _⟩
      cases empty

/-! ## One redirection -/

/-- The redirection is applied without an exception, and the lookup leaves the slot as it
should be. -/
def Applied (config : ClusterConfig) (e : Redirect) (lookup : Lookup) (m : NodesManager) : Prop :=
  (∃ updated, m.updateMovedSlots config e = .ok () updated) ∧
    Redirects config e m (stateAfter (m.getNodeFromSlot config lookup))

/-- The choice of a node only moves the load balancer. -/
theorem chooseNode_state (config : ClusterConfig) (lookup : Lookup) (m : NodesManager) :
    ∃ readLoadBalancer, stateAfter (m.chooseNode config lookup) = { m with readLoadBalancer } := by
  unfold chooseNode
  simp only
  split
  · exact ⟨_, rfl⟩
  · exact ⟨_, rfl⟩
  · exact ⟨_, rfl⟩
  · split <;> exact ⟨_, rfl⟩
  · split <;> exact ⟨_, rfl⟩

/-- The law does not look at the load balancer. -/
theorem redirects_balancer {config : ClusterConfig} {e : Redirect} {before after : NodesManager}
    (readLoadBalancer : LoadBalancer) :
    Redirects config e before { after with readLoadBalancer } ↔ Redirects config e before after := by
  constructor
  · intro law
    exact ⟨law.cleared, law.front, law.nodup, law.kept, law.demoted⟩
  · intro law
    exact ⟨law.cleared, law.front, law.nodup, law.kept, law.demoted⟩

/-- A redirection that is applied meets the law if the updated manager does. -/
theorem applied_of_updated {config : ClusterConfig} {e : Redirect} (lookup : Lookup)
    {m updated : NodesManager} (pending : m.movedException = some e)
    (ran : m.updateMovedSlots config e = .ok () updated) :
    Applied config e lookup m ↔ Redirects config e m updated := by
  obtain ⟨readLoadBalancer, chosen⟩ := chooseNode_state config lookup updated
  have found : m.getNodeFromSlot config lookup = updated.chooseNode config lookup := by
    unfold getNodeFromSlot
    rw [pending]
    simp only [ran]
  unfold Applied
  rw [found, chosen, redirects_balancer]
  constructor
  · intro applied
    exact applied.2
  · intro law
    exact ⟨⟨updated, ran⟩, law⟩

/-- In a well-formed manager, a pending redirection is applied as it should be if and only if it
is redirectable. -/
theorem applied_iff_redirectable {config : ClusterConfig} {e : Redirect} (lookup : Lookup)
    {m : NodesManager} (wellFormed : m.WellFormed) (pending : m.movedException = some e) :
    Applied config e lookup m ↔ Redirectable config e m := by
  rcases updateMovedSlots_cases config e wellFormed with
    ⟨raised, after, ran, _, reason⟩ |
      ⟨middle, redirected, list, spec, addressed, stored, covered, outcome⟩
  · -- nothing is applied: the asyncio class wants an address, and the slot has to be covered
    constructor
    · intro ⟨⟨updated, ok⟩, _⟩
      rw [ran] at ok
      cases ok
    · intro ⟨usable, members, known, _⟩
      rcases reason with ⟨async, unusable⟩ | uncovered
      · exact absurd (usable async) unusable
      · rw [uncovered] at known
        cases known
  · have inside := (wellFormed.listed covered).2
    have same : middle.names (middle.lists list) = m.names (middle.lists list) :=
      spec.grows.names inside
    rw [same] at outcome
    rcases outcome with ⟨unlisted, ran⟩ | ⟨listed, oldPrimary, others, defaultNode, members, ran⟩
    · rw [applied_of_updated lookup pending ran]
      constructor
      · intro _
        exact ⟨addressed, _, covered, .inl unlisted⟩
      · intro _
        exact replaced_redirects spec covered unlisted
    · rw [applied_of_updated lookup pending ran]
      rw [members] at covered listed same inside
      have bound : oldPrimary < m.nodeCount := inside oldPrimary List.mem_cons_self
      have name : (middle.nodes oldPrimary).name = (m.nodes oldPrimary).name :=
        spec.grows.name oldPrimary bound
      by_cases front : (middle.nodes oldPrimary).name = redirectName config e
      · rw [promoted_redirects_iff_alone wellFormed spec defaultNode stored covered front]
        constructor
        · intro ⟨alone, different⟩
          refine ⟨addressed, _, covered, .inr (.inr ⟨oldPrimary, by rw [alone], ?_⟩)⟩
          intro registered
          exact different ((spec.found oldPrimary bound).mpr registered)
        · intro ⟨_, known, before, condition⟩
          rw [covered, Option.some.injEq] at before
          rw [← before] at condition
          rcases condition with unlisted | ⟨_, behind⟩ | ⟨primary, alone, different⟩
          · exact absurd listed unlisted
          · exact absurd (congrArg some (name.symm.trans front)) behind
          · rw [List.cons.injEq] at alone
            refine ⟨alone.2, ?_⟩
            intro equal
            apply different
            rw [← alone.1]
            exact (spec.found oldPrimary bound).mp equal
      · have behind : redirectName config e ∈ middle.names others := by
          rw [← same] at listed
          rcases List.mem_cons.mp listed with here | there
          · exact absurd here.symm front
          · exact there
        rw [promoted_redirects_iff_nodup wellFormed spec defaultNode stored covered front behind]
        constructor
        · intro nodup
          refine ⟨addressed, _, covered, .inr (.inl ⟨nodup, ?_⟩)⟩
          intro head
          exact front (name.trans (Option.some.inj head))
        · intro ⟨_, known, before, condition⟩
          rw [covered, Option.some.injEq] at before
          rw [← before] at condition
          rcases condition with unlisted | ⟨nodup, _⟩ | ⟨primary, alone, _⟩
          · exact absurd listed unlisted
          · exact nodup
          · rw [List.cons.injEq] at alone
            rw [alone.2] at behind
            cases behind

/-! ## Whole runs -/

/-- Putting a listed node in front keeps a manager well-formed. -/
theorem promoted_wellFormed {config : ClusterConfig} {e : Redirect} {m middle : NodesManager}
    {redirected list oldPrimary : Nat} (spec : Redirected config e m middle redirected)
    {others : List Nat} (defaultNode : Option Nat)
    (stored : middle.slotsCache.get e.slotId = some list)
    (members : middle.lists list = oldPrimary :: others) :
    (middle.promoted list (middle.promotedMembers (oldPrimary :: others) redirected oldPrimary)
      oldPrimary defaultNode).WellFormed := by
  have known := (spec.wellFormed.filed _ (Dict.mem_of_get spec.registered)).1
  have inside := (spec.wellFormed.served _ (Dict.mem_of_get stored)).2.2
  rw [members] at inside
  constructor
  · intro item filed
    have before := spec.wellFormed.filed item filed
    exact ⟨before.1, (name_setServerType _ _ _ _).trans before.2⟩
  · intro item served
    obtain ⟨bound, some, listed⟩ := spec.wellFormed.served item served
    refine ⟨bound, ?_⟩
    by_cases here : item.2 = list
    · have now : (middle.promoted list
          (middle.promotedMembers (oldPrimary :: others) redirected oldPrimary) oldPrimary
          defaultNode).lists item.2 =
            middle.promotedMembers (oldPrimary :: others) redirected oldPrimary := by
        simp [promoted, setList, here]
      rw [now]
      constructor
      · intro empty
        have length := congrArg List.length empty
        rw [promotedMembers, List.length_set, List.length_nil] at length
        have shorter := List.le_length_eraseP (l := oldPrimary :: others ++ [oldPrimary])
          (p := fun ref => (middle.nodes ref).name == (middle.nodes redirected).name)
        rw [length] at shorter
        simp only [List.length_append, List.length_cons] at shorter
        omega
      · intro ref member
        rcases List.mem_or_eq_of_mem_set member with old | rfl
        · have among := List.mem_of_mem_eraseP old
          rcases List.mem_append.mp among with first | last
          · exact inside ref first
          · rw [List.mem_singleton.mp last]
            exact inside oldPrimary List.mem_cons_self
        · exact known
    · have now : (middle.promoted list
          (middle.promotedMembers (oldPrimary :: others) redirected oldPrimary) oldPrimary
          defaultNode).lists item.2 = middle.lists item.2 := by
        simp [promoted, setList, setServerType, modifyNode, here]
      rw [now]
      exact ⟨some, listed⟩

/-- Giving a slot to an unlisted node keeps a manager well-formed. -/
theorem replaced_wellFormed {config : ClusterConfig} {e : Redirect} {m middle : NodesManager}
    {redirected : Nat} (spec : Redirected config e m middle redirected) :
    (middle.replaced e.slotId redirected).WellFormed := by
  have known := (spec.wellFormed.filed _ (Dict.mem_of_get spec.registered)).1
  have grows : Grows middle (middle.replaced e.slotId redirected) :=
    let list := grows_newList [redirected] middle
    ⟨list.nodeCount, list.listCount, list.name, list.lists⟩
  have fresh : (middle.replaced e.slotId redirected).lists middle.listCount = [redirected] := by
    simp [replaced, newList]
  refine ⟨spec.wellFormed.filed.grow grows, ?_⟩
  apply (spec.wellFormed.served.grow grows).set
  · exact Nat.lt_succ_self _
  · rw [fresh]
    exact List.cons_ne_nil _ _
  · intro ref member
    rw [fresh, List.mem_singleton] at member
    rw [member]
    exact known

/-- Applying a redirection keeps a manager well-formed, also when it raises. -/
theorem updateMovedSlots_wellFormed (config : ClusterConfig) (e : Redirect) {m : NodesManager}
    (wellFormed : m.WellFormed) : (stateAfter (m.updateMovedSlots config e)).WellFormed := by
  rcases updateMovedSlots_cases config e wellFormed with
    ⟨raised, after, ran, kept, _⟩ | ⟨middle, redirected, list, spec, _, stored, _, outcome⟩
  · rw [ran]
    exact kept
  · rcases outcome with ⟨_, ran⟩ | ⟨_, oldPrimary, others, defaultNode, members, ran⟩
    · rw [ran]
      exact replaced_wellFormed spec
    · rw [ran]
      exact promoted_wellFormed spec defaultNode stored members

/-- A lookup keeps a manager well-formed. -/
theorem getNodeFromSlot_wellFormed (config : ClusterConfig) (lookup : Lookup) {m : NodesManager}
    (wellFormed : m.WellFormed) : (stateAfter (m.getNodeFromSlot config lookup)).WellFormed := by
  have choice : ∀ {m : NodesManager}, m.WellFormed →
      (stateAfter (m.chooseNode config lookup)).WellFormed := by
    intro m wellFormed
    obtain ⟨readLoadBalancer, chosen⟩ := chooseNode_state config lookup m
    rw [chosen]
    exact ⟨wellFormed.filed, wellFormed.served⟩
  unfold getNodeFromSlot
  cases m.movedException with
  | none => exact choice wellFormed
  | some e =>
    have updated := updateMovedSlots_wellFormed config e wellFormed
    cases ran : m.updateMovedSlots config e with
    | ok _ after =>
      rw [ran] at updated
      simp only [ran]
      exact choice updated
    | error raised after =>
      rw [ran] at updated
      simp only [ran]
      exact updated

/-- A manager without nodes. -/
def empty : NodesManager where
  nodes _ := { host := [], port := 0, serverType := none, connected := false }
  nodeCount := 0
  lists _ := []
  listCount := 0
  slotsCache := []
  nodesCache := []
  startupNodes := some []
  defaultNode := none
  movedException := none
  readLoadBalancer := { primaryToIdx := [], startIndex := 0 }

/-- `populate_startup_nodes`, with nodes made for these addresses. -/
def populateStartupNodes (config : ClusterConfig) (addresses : List (Text × Int))
    (m : NodesManager) : NodesManager :=
  addresses.foldl (fun m address =>
    let (ref, grown) := m.newNode config address.1 address.2 none
    { grown with
      startupNodes := some ((grown.startupNodes.getD grown.nodesCache).set
        (grown.nodes ref).name ref) }) m

/-- One use of a manager by its client. -/
inductive Use where
  /-- `initialize`, with what the startup nodes answer; it may raise. -/
  | discover (answers : Answers)
  /-- A node gets its connection. -/
  | connect (ref : Nat)
  /-- `update_moved_exception`. -/
  | moved (e : Redirect)
  /-- `get_node_from_slot`; it may raise. -/
  | find (lookup : Lookup)

/-- The manager after one use. -/
def use (config : ClusterConfig) (m : NodesManager) : Use → NodesManager
  | .discover answers => stateAfter (m.initializeNodes config answers)
  | .connect ref => m.createRedisConnections [ref]
  | .moved e => m.updateMovedException e
  | .find lookup => stateAfter (m.getNodeFromSlot config lookup)

/-- The manager after a run: startup nodes with these addresses, then any uses. -/
def run (config : ClusterConfig) (addresses : List (Text × Int)) (uses : List Use) :
    NodesManager :=
  uses.foldl (use config) (empty.populateStartupNodes config addresses)

/-- New startup nodes leave both caches empty. -/
theorem populateStartupNodes_caches (config : ClusterConfig) (addresses : List (Text × Int))
    (m : NodesManager) :
    (m.populateStartupNodes config addresses).nodesCache = m.nodesCache ∧
      (m.populateStartupNodes config addresses).slotsCache = m.slotsCache := by
  induction addresses generalizing m with
  | nil => exact ⟨rfl, rfl⟩
  | cons address addresses ih => exact ih _

/-- Every use keeps a manager well-formed. -/
theorem use_wellFormed (config : ClusterConfig) {m : NodesManager} (wellFormed : m.WellFormed)
    (use : Use) : (m.use config use).WellFormed := by
  cases use with
  | discover answers => exact initializeNodes_wellFormed config answers wellFormed
  | connect ref =>
    have same := createRedisConnections_caches [ref] m
    exact wellFormed.grow (grows_createRedisConnections [ref] m) same.1 same.2
  | moved e => exact ⟨wellFormed.filed, wellFormed.served⟩
  | find lookup => exact getNodeFromSlot_wellFormed config lookup wellFormed

/-- Every run gives a well-formed manager. -/
theorem run_wellFormed (config : ClusterConfig) (addresses : List (Text × Int)) (uses : List Use) :
    (run config addresses uses).WellFormed := by
  have caches := populateStartupNodes_caches config addresses empty
  have start : (empty.populateStartupNodes config addresses).WellFormed := by
    constructor
    · rw [caches.1]
      intro item member
      cases member
    · rw [caches.2]
      intro item member
      cases member
  exact List.foldlRecOn uses (use config) start fun m wellFormed step _ =>
    use_wellFormed config wellFormed step

/-- After every run, the next redirection is applied by the next lookup as it should be if and
only if it is redirectable. -/
theorem redirection_applied_iff (config : ClusterConfig) (addresses : List (Text × Int))
    (uses : List Use) (e : Redirect) (lookup : Lookup) :
    Applied config e lookup ((run config addresses uses).updateMovedException e) ↔
      Redirectable config e ((run config addresses uses).updateMovedException e) := by
  have wellFormed := use_wellFormed config (run_wellFormed config addresses uses) (.moved e)
  exact applied_iff_redirectable lookup wellFormed rfl

/-- A cluster of one primary and one replica that serves one slot. -/
def oneShard : Answers := fun _ => .ok
  [{ first := 5, last := 5, primary := ("127.0.0.1".toList, 7000),
     replicas := [("127.0.0.1".toList, 7001)] }]

/-- A client that needs no full coverage. -/
def relaxedConfig (flavor : Flavor) : ClusterConfig where
  flavor
  localhost := "127.0.0.1".toList
  requireFullCoverage := false
  dynamicStartupNodes := true
  remap address := address

/-- The manager after discovering that cluster and a redirection to its primary. -/
def movedToPrimary (flavor : Flavor) : NodesManager :=
  (run (relaxedConfig flavor) [("127.0.0.1".toList, 7000)] [.discover oneShard]).updateMovedException
    { slotId := 5, host := "127.0.0.1".toList, port := 7000 }

/-- A lookup of the primary of that slot. -/
def primaryLookup : Lookup :=
  { slot := 5, readFromReplicas := false, strategy := none, serverType := none, random := 0 }

/-- A redirection to the primary that the slot already has drops the replica and lists the
primary twice. -/
theorem moved_to_primary_lists_it_twice :
    ¬Applied (relaxedConfig .sync) { slotId := 5, host := "127.0.0.1".toList, port := 7000 }
        primaryLookup (movedToPrimary .sync) ∧
      ¬Applied (relaxedConfig .async) { slotId := 5, host := "127.0.0.1".toList, port := 7000 }
        primaryLookup (movedToPrimary .async) := by
  constructor
  · intro applied
    have nodup := applied.2.nodup [1, 1] (by decide +kernel)
    exact absurd nodup (by decide +kernel)
  · intro applied
    have nodup := applied.2.nodup [1, 1] (by decide +kernel)
    exact absurd nodup (by decide +kernel)

end NodesManager

end RedisPy

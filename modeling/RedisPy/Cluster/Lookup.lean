import RedisPy.Cluster.Moved
import RedisPy.Lib.Runs

/-!
# Which node answers for a slot

`get_node_from_slot` reads a position of the load balancer that earlier lookups have left, and uses
it in the node list that the slot has now. A lookup is answered well when it gives a node of that
list as its strategy asks, or says that the slot has no nodes.
-/

namespace RedisPy

open Contract

/-! ## Good answers -/

namespace LoadBalancingStrategy

/-- The strategy asks for a replica. -/
def replicasOnly : LoadBalancingStrategy → Bool
  | .roundRobin => false
  | .roundRobinReplicas => true
  | .randomReplica => true

end LoadBalancingStrategy

namespace NodesManager

/-- The strategy of a lookup; reading from replicas alone is a round robin. -/
def Lookup.used (lookup : Lookup) : Option LoadBalancingStrategy :=
  if lookup.readFromReplicas && lookup.strategy.isNone then some .roundRobin else lookup.strategy

/-- Nothing asks for another node than the primary. -/
def Lookup.plain (config : ClusterConfig) (lookup : Lookup) : Prop :=
  lookup.used = none ∧ (config.flavor = .sync → lookup.serverType ≠ some .replica)

/-- A node of a list is what the lookup asks for. -/
structure Fits (config : ClusterConfig) (lookup : Lookup) (m : NodesManager) (members : List Nat)
    (ref : Nat) : Prop where
  /-- It is listed. -/
  member : ref ∈ members
  /-- It is the first one without a strategy, and when no other one is listed. -/
  first : lookup.plain config ∨ members.length = 1 → members.head? = some ref
  /-- It is not the first one when a replica is asked for and there is another node. -/
  replica : ∀ strategy, lookup.used = some strategy → strategy.replicasOnly = true →
    1 < members.length → ∀ primary, members.head? = some primary →
      (m.nodes ref).name ≠ (m.nodes primary).name

/-- A lookup returns a fitting node, or raises `SlotNotCoveredError` for a slot without nodes. -/
structure Answered (config : ClusterConfig) (lookup : Lookup) (m : NodesManager) : Prop where
  /-- What it returns. -/
  returns : ∀ ref after, m.getNodeFromSlot config lookup = .ok ref after →
    ∃ members, m.slotNodes lookup.slot = some members ∧ m.Fits config lookup members ref
  /-- What it raises, and when. -/
  raises : ∀ e after, m.getNodeFromSlot config lookup = .error e after →
    e.cls = .slotNotCoveredError ∧
      (m.slotNodes lookup.slot = none ∨ m.slotNodes lookup.slot = some [])

/-! ## When a lookup is answered well -/

/-- Where the load balancer stands for the lists of a primary. -/
def position (m : NodesManager) (primary : Nat) : Nat :=
  (m.readLoadBalancer.primaryToIdx.get (m.nodes primary).name).getD m.readLoadBalancer.startIndex

/-- The position that a strategy is after. -/
def aim (lookup : Lookup) (m : NodesManager) (primary : Nat) : LoadBalancingStrategy → Nat
  | .roundRobin => m.position primary
  | .roundRobinReplicas => if m.position primary = 0 then 1 else m.position primary
  | .randomReplica => lookup.random

/-- The load balancer stands in the slot's list, at a node that the strategy allows; and an asyncio
client has a list for the slot. -/
structure Answerable (config : ClusterConfig) (lookup : Lookup) (m : NodesManager) : Prop where
  /-- The slot is in the table. -/
  known : config.flavor = .async → m.slotNodes lookup.slot ≠ none
  /-- The position is in the list. -/
  within : ∀ strategy primary others, lookup.used = some strategy →
    m.slotNodes lookup.slot = some (primary :: others) → others ≠ [] →
      strategy ≠ .randomReplica → m.position primary < (primary :: others).length
  /-- The first node is not listed again at that position. -/
  apart : ∀ strategy primary others, lookup.used = some strategy →
    m.slotNodes lookup.slot = some (primary :: others) → others ≠ [] →
      strategy.replicasOnly = true → ∀ ref, (primary :: others)[m.aim lookup primary strategy]? = some ref →
        (m.nodes ref).name ≠ (m.nodes primary).name

/-- `random.randint(1, len(nodes) - 1)`, for a list of several nodes. -/
def Draws (lookup : Lookup) (m : NodesManager) : Prop :=
  ∀ members, m.slotNodes lookup.slot = some members → 1 < members.length →
    1 ≤ lookup.random ∧ lookup.random < members.length

/-! ## The position -/

/-- The position that is used in a list, and the load balancer afterwards. -/
def selected (config : ClusterConfig) (lookup : Lookup) (m : NodesManager) (primary : Nat)
    (others : List Nat) : Nat × LoadBalancer :=
  match lookup.used with
  | some strategy =>
    if others = [] then (0, m.readLoadBalancer)
    else
      m.readLoadBalancer.getServerIndex lookup.random (m.nodes primary).name
        (primary :: others).length strategy
  | none =>
    if config.flavor = .sync ∧ lookup.serverType = some .replica ∧ others ≠ [] then
      (lookup.random, m.readLoadBalancer)
    else (0, m.readLoadBalancer)

/-- A choice in a list of nodes returns the node at the position, or raises when there is none. -/
theorem chooseNode_listed (config : ClusterConfig) (lookup : Lookup) {m : NodesManager}
    {primary : Nat} {others : List Nat} (listed : m.slotNodes lookup.slot = some (primary :: others)) :
    ∃ e, m.chooseNode config lookup =
      let chosen := m.selected config lookup primary others
      match (primary :: others)[chosen.1]? with
      | some ref => .ok ref { m with readLoadBalancer := chosen.2 }
      | none => .error e { m with readLoadBalancer := chosen.2 } := by
  unfold chooseNode selected
  rw [listed]
  simp only
  rw [← Lookup.used]
  have several : (primary :: others).length ≠ 1 ↔ others ≠ [] := by
    cases others with
    | nil => simp
    | cons second others => simp
  have many : (primary :: others).length > 1 ↔ others ≠ [] := by
    cases others with
    | nil => simp
    | cons second others => simp
  cases used : lookup.used with
  | none =>
    cases flavor : config.flavor with
    | sync =>
      simp only [several, true_and]
      by_cases replica : lookup.serverType = some .replica ∧ others ≠ []
      · rw [if_pos replica]
        exact ⟨{ cls := .indexError }, rfl⟩
      · rw [if_neg replica]
        exact ⟨{ cls := .indexError }, rfl⟩
    | async => exact ⟨{ cls := .slotNotCoveredError }, rfl⟩
  | some strategy =>
    cases flavor : config.flavor with
    | sync =>
      simp only [many]
      by_cases alone : others = []
      · simp only [alone, ne_eq, not_true_eq_false, ↓reduceIte]
        exact ⟨{ cls := .indexError }, rfl⟩
      · simp only [alone, ne_eq, not_false_eq_true, ↓reduceIte]
        exact ⟨{ cls := .indexError }, rfl⟩
    | async =>
      simp only [many]
      by_cases alone : others = []
      · simp only [alone, ne_eq, not_true_eq_false, ↓reduceIte]
        exact ⟨{ cls := .slotNotCoveredError }, rfl⟩
      · simp only [alone, ne_eq, not_false_eq_true, ↓reduceIte]
        exact ⟨{ cls := .slotNotCoveredError }, rfl⟩

/-- Without a redirection a lookup is a choice. -/
theorem getNodeFromSlot_settled (config : ClusterConfig) (lookup : Lookup) {m : NodesManager}
    (settled : m.movedException = none) : m.getNodeFromSlot config lookup = m.chooseNode config lookup := by
  unfold getNodeFromSlot
  rw [settled]

/-- A good answer, by what the lookup does. -/
theorem answered_iff (config : ClusterConfig) (lookup : Lookup) (m : NodesManager) :
    m.Answered config lookup ↔
      match m.getNodeFromSlot config lookup with
      | .ok ref _ => ∃ members, m.slotNodes lookup.slot = some members ∧
          m.Fits config lookup members ref
      | .error e _ => e.cls = .slotNotCoveredError ∧
          (m.slotNodes lookup.slot = none ∨ m.slotNodes lookup.slot = some []) := by
  constructor
  · intro answered
    split
    · next ran => exact answered.returns _ _ ran
    · next ran => exact answered.raises _ _ ran
  · intro outcome
    refine ⟨fun ref after ran => ?_, fun e after ran => ?_⟩
    · rw [ran] at outcome
      exact outcome
    · rw [ran] at outcome
      exact outcome

/-- Without another wish, or without another node, the position is the first one. -/
theorem selected_first {config : ClusterConfig} {lookup : Lookup} (m : NodesManager) (primary : Nat)
    {others : List Nat} (wish : lookup.plain config ∨ others = []) :
    (m.selected config lookup primary others).1 = 0 := by
  unfold selected
  rcases wish with ⟨unused, master⟩ | rfl
  · rw [unused]
    simp only
    rw [if_neg]
    rintro ⟨sync, replica, -⟩
    exact master sync replica
  · cases lookup.used <;> simp

/-- With a strategy and several nodes the position is what the strategy is after. -/
theorem selected_used (config : ClusterConfig) {lookup : Lookup} (m : NodesManager) (primary : Nat)
    {others : List Nat} {strategy : LoadBalancingStrategy} (used : lookup.used = some strategy)
    (several : others ≠ []) :
    (m.selected config lookup primary others).1 = m.aim lookup primary strategy := by
  unfold selected
  rw [used]
  simp only [if_neg several]
  cases strategy with
  | roundRobin => rfl
  | roundRobinReplicas =>
    simp only [LoadBalancer.getServerIndex, LoadBalancer.getRoundRobinIndex, Bool.true_and, beq_iff_eq]
    rfl
  | randomReplica => rfl

/-- A slot without nodes is reported, but not by an asyncio client whose table lacks the slot. -/
theorem answered_iff_of_uncovered (config : ClusterConfig) (lookup : Lookup) {m : NodesManager}
    (settled : m.movedException = none)
    (uncovered : m.slotNodes lookup.slot = none ∨ m.slotNodes lookup.slot = some []) :
    m.Answered config lookup ↔ m.Answerable config lookup := by
  have reported : m.Answered config lookup ↔ (config.flavor = .async → m.slotNodes lookup.slot ≠ none) := by
    rw [answered_iff, getNodeFromSlot_settled config lookup settled]
    unfold chooseNode
    rcases uncovered with missing | empty
    · rw [missing]
      cases config.flavor <;> simp
    · rw [empty]
      cases config.flavor <;> simp
  have unlisted (primary : Nat) (others : List Nat) : m.slotNodes lookup.slot ≠ some (primary :: others) := by
    rcases uncovered with missing | empty
    · simp [missing]
    · simp [empty]
  rw [reported]
  constructor
  · intro known
    exact ⟨known, fun _ primary others _ listed => absurd listed (unlisted primary others),
      fun _ primary others _ listed => absurd listed (unlisted primary others)⟩
  · exact Answerable.known

/-- The position is in the list exactly when the load balancer stands there, if it is asked. -/
theorem selected_lt_iff (config : ClusterConfig) (lookup : Lookup) {m : NodesManager} {primary : Nat}
    {others : List Nat} (listed : m.slotNodes lookup.slot = some (primary :: others))
    (draws : m.Draws lookup) :
    (m.selected config lookup primary others).1 < (primary :: others).length ↔
      ∀ strategy, lookup.used = some strategy → others ≠ [] → strategy ≠ .randomReplica →
        m.position primary < (primary :: others).length := by
  by_cases alone : others = []
  · rw [selected_first m primary (.inr alone)]
    simp [alone]
  · have many : 1 < (primary :: others).length := by
      have := List.length_pos_of_ne_nil alone
      simp only [List.length_cons]
      omega
    have drawn := draws _ listed many
    cases used : lookup.used with
    | none =>
      have drawnOrFirst : (m.selected config lookup primary others).1 < (primary :: others).length := by
        unfold selected
        rw [used]
        simp only
        split <;> omega
      refine iff_of_true drawnOrFirst ?_
      intro strategy given
      cases given
    | some strategy =>
      rw [selected_used config m primary used alone]
      cases strategy with
      | roundRobin => simp [aim, alone]
      | roundRobinReplicas =>
        simp only [aim, Option.some.injEq, ne_eq, alone, not_false_eq_true, forall_const, forall_eq',
          reduceCtorEq]
        split <;> omega
      | randomReplica => simpa [aim] using drawn.2

/-- A lookup is answered well if and only if the load balancer stands in the slot's list, at a node
that the strategy allows, and an asyncio client has a list for the slot. -/
theorem answered_iff_answerable (config : ClusterConfig) (lookup : Lookup) {m : NodesManager}
    (settled : m.movedException = none) (draws : m.Draws lookup) :
    m.Answered config lookup ↔ m.Answerable config lookup := by
  rcases covered : m.slotNodes lookup.slot with _ | _ | ⟨primary, others⟩
  · exact answered_iff_of_uncovered config lookup settled (.inl covered)
  · exact answered_iff_of_uncovered config lookup settled (.inr covered)
  · obtain ⟨e, ran⟩ := chooseNode_listed config lookup covered
    have inside := selected_lt_iff config lookup covered draws
    rw [answered_iff, getNodeFromSlot_settled config lookup settled, ran]
    simp only
    cases found : (primary :: others)[(m.selected config lookup primary others).1]? with
    | none =>
      have outside : (primary :: others).length ≤ (m.selected config lookup primary others).1 :=
        List.getElem?_eq_none_iff.mp found
      refine iff_of_false ?_ ?_
      · rintro ⟨-, missing | empty⟩
        · rw [covered] at missing
          cases missing
        · rw [covered] at empty
          cases empty
      · intro answerable
        have bound := inside.mpr fun strategy used several deterministic =>
          answerable.within strategy primary others used covered several deterministic
        omega
    | some ref =>
      have bound : (m.selected config lookup primary others).1 < (primary :: others).length :=
        (List.getElem?_eq_some_iff.mp found).1
      simp only
      constructor
      · rintro ⟨members, listed, fits⟩
        rw [covered, Option.some.injEq] at listed
        subst listed
        refine ⟨fun _ => by simp [covered], ?_, ?_⟩
        · intro strategy first rest used same several deterministic
          rw [covered, Option.some.injEq, List.cons.injEq] at same
          obtain ⟨rfl, rfl⟩ := same
          exact inside.mp bound strategy used several deterministic
        · intro strategy first rest used same several replica other aimed
          rw [covered, Option.some.injEq, List.cons.injEq] at same
          obtain ⟨rfl, rfl⟩ := same
          rw [← selected_used config m primary used several, found, Option.some.injEq] at aimed
          subst aimed
          have many : 1 < (primary :: others).length := by
            have := List.length_pos_of_ne_nil several
            simp only [List.length_cons]
            omega
          exact fits.replica strategy used replica many primary rfl
      · intro answerable
        refine ⟨_, covered, List.mem_of_getElem? found, ?_, ?_⟩
        · intro wish
          have alone : lookup.plain config ∨ others = [] := by
            simpa using wish
          rw [selected_first m primary alone] at found
          simpa using found
        · intro strategy used replica many first same
          have several : others ≠ [] := by
            rintro rfl
            simp at many
          have aimed := found
          rw [selected_used config m primary used several] at aimed
          cases same
          exact answerable.apart strategy primary others used covered several replica ref aimed

/-- A primary that serves slot 5 with one replica and slot 6 with two. -/
def unevenShard : Answers := fun _ => .ok
  [{ first := 5, last := 5, primary := ("127.0.0.1".toList, 7000),
     replicas := [("127.0.0.1".toList, 7001)] },
   { first := 6, last := 6, primary := ("127.0.0.1".toList, 7000),
     replicas := [("127.0.0.1".toList, 7001), ("127.0.0.1".toList, 7002)] }]

/-- A lookup in turn. -/
def inTurn (slot : Int) : Lookup :=
  { slot, readFromReplicas := true, strategy := none, serverType := none, random := 1 }

/-- The manager after two lookups of slot 6. -/
def twiceLooked (flavor : Flavor) : NodesManager :=
  run (relaxedConfig flavor) [("127.0.0.1".toList, 7000)]
    [.discover unevenShard, .find (inTurn 6), .find (inTurn 6)]

/-- The class of what a lookup raises. -/
def raisedClass (config : ClusterConfig) (lookup : Lookup) (m : NodesManager) : Option ExcClass :=
  match m.getNodeFromSlot config lookup with
  | .ok _ _ => none
  | .error e _ => some e.cls

/-- What raises must be a slot without nodes. -/
theorem Answered.raised {config : ClusterConfig} {lookup : Lookup} {m : NodesManager}
    (answered : m.Answered config lookup) {cls : ExcClass}
    (raised : m.raisedClass config lookup = some cls) :
    cls = .slotNotCoveredError ∧
      (m.slotNodes lookup.slot = none ∨ m.slotNodes lookup.slot = some []) := by
  unfold raisedClass at raised
  split at raised
  · cases raised
  · next ran =>
    cases raised
    exact answered.raises _ _ ran

/-- The position that two lookups of slot 6 leave is past the end of the list of slot 5: the blocking
client raises `IndexError`, and the asyncio client reports a slot that has nodes. It does not report
a slot that it has no list for. -/
theorem stale_position_not_answered :
    ¬Answered (relaxedConfig .sync) (inTurn 5) (twiceLooked .sync) ∧
      ¬Answered (relaxedConfig .async) (inTurn 5) (twiceLooked .async) ∧
      ¬Answered (relaxedConfig .async) (inTurn 7) (twiceLooked .async) := by
  refine ⟨?_, ?_, ?_⟩
  · intro answered
    have raised : (twiceLooked .sync).raisedClass (relaxedConfig .sync) (inTurn 5) = some .indexError := by
      decide +kernel
    cases (answered.raised raised).1
  · intro answered
    have raised : (twiceLooked .async).raisedClass (relaxedConfig .async) (inTurn 5) =
        some .slotNotCoveredError := by
      decide +kernel
    have listed : (twiceLooked .async).slotNodes 5 = some [1, 2] := by decide +kernel
    rcases (answered.raised raised).2 with missing | empty
    · exact absurd (listed.symm.trans missing) (by decide)
    · exact absurd (listed.symm.trans empty) (by decide)
  · intro answered
    have raised : (twiceLooked .async).raisedClass (relaxedConfig .async) (inTurn 7) = some .keyError := by
      decide +kernel
    cases (answered.raised raised).1

/-- The next lookup of slot 6 is answered well. -/
theorem next_lookup_answered : Answered (relaxedConfig .async) (inTurn 6) (twiceLooked .async) := by
  have listed : (twiceLooked .async).slotNodes 6 = some [1, 2, 3] := by decide +kernel
  have stands : (twiceLooked .async).position 1 = 2 := by decide +kernel
  refine (answered_iff_answerable (relaxedConfig .async) (inTurn 6) (by decide +kernel) ?_).mpr ⟨?_, ?_, ?_⟩
  · intro members found several
    rw [show (inTurn 6).slot = 6 from rfl, listed, Option.some.injEq] at found
    subst found
    decide
  · intro _
    rw [show (inTurn 6).slot = 6 from rfl, listed]
    simp
  · intro strategy primary others used found _ _
    rw [show (inTurn 6).slot = 6 from rfl, listed, Option.some.injEq, List.cons.injEq] at found
    obtain ⟨rfl, rfl⟩ := found
    rw [stands]
    decide
  · intro strategy primary others used _ _ replica
    cases used
    cases replica

/-! ## Histories -/

/-- What happens between two lookups. -/
inductive BalancerEvent where
  /-- `get_node_from_slot`; it may raise. -/
  | looked (lookup : Lookup)
  /-- Anything that leaves the load balancer alone, such as new lists. -/
  | changed (other : NodesManager)
  /-- `reset` of the load balancer. -/
  | reset

/-- The manager after an event. -/
def BalancerEvent.after (config : ClusterConfig) (m : NodesManager) : BalancerEvent → NodesManager
  | looked lookup => stateAfter (m.getNodeFromSlot config lookup)
  | changed other => { other with readLoadBalancer := m.readLoadBalancer }
  | reset => m.resetBalancer

/-- All lists of several nodes that a primary heads have one length. -/
def Regular (sizes : Text → Nat) (m : NodesManager) : Prop :=
  ∀ slot primary others, m.slotNodes slot = some (primary :: others) → others ≠ [] →
    (primary :: others).length = sizes (m.nodes primary).name

/-- The load balancer starts at the primary, and stands in lists of these lengths. -/
structure Stands (sizes : Text → Nat) (lb : LoadBalancer) : Prop where
  start : lb.startIndex = 0
  within : ∀ name index, lb.primaryToIdx.get name = some index → index < sizes name

/-- A redirection leaves the load balancer alone. -/
theorem updateMovedSlots_balancer (config : ClusterConfig) (e : Redirect) (m : NodesManager) :
    (stateAfter (m.updateMovedSlots config e)).readLoadBalancer = m.readLoadBalancer := by
  unfold updateMovedSlots
  cases found : m.redirectedNode config e with
  | error raised => rfl
  | ok pair =>
    obtain ⟨redirected, middle⟩ := pair
    have same : middle.readLoadBalancer = m.readLoadBalancer := by
      unfold redirectedNode at found
      split at found
      · cases found
      · cases found
        rfl
      · cases found
        rfl
    simp only
    split
    · exact same
    · split
      · split
        · exact same
        · exact same
      · exact same

/-- A choice in regular lists keeps the load balancer in them. -/
theorem Stands.selected {sizes : Text → Nat} {m : NodesManager} (stands : Stands sizes m.readLoadBalancer)
    (regular : Regular sizes m) (config : ClusterConfig) (lookup : Lookup) {primary : Nat}
    {others : List Nat} (listed : m.slotNodes lookup.slot = some (primary :: others)) :
    Stands sizes (m.selected config lookup primary others).2 := by
  unfold NodesManager.selected
  cases lookup.used with
  | none =>
    simp only
    split
    · exact stands
    · exact stands
  | some strategy =>
    simp only
    by_cases alone : others = []
    · rw [if_pos alone]
      exact stands
    · rw [if_neg alone]
      have size := regular lookup.slot primary others listed alone
      have stored (index : Nat) : Stands sizes { m.readLoadBalancer with
          primaryToIdx := m.readLoadBalancer.primaryToIdx.set (m.nodes primary).name
            (index % (primary :: others).length) } := by
        refine ⟨stands.start, fun name position found => ?_⟩
        by_cases same : name = (m.nodes primary).name
        · subst same
          rw [Dict.get_set_self, Option.some.injEq] at found
          rw [← found, ← size]
          exact Nat.mod_lt _ (by simp)
        · rw [Dict.get_set_ne _ _ (Ne.symm same)] at found
          exact stands.within name position found
      cases strategy with
      | roundRobin => exact stored _
      | roundRobinReplicas => exact stored _
      | randomReplica => exact stands

/-- A choice, returning or raising, keeps the load balancer in regular lists. -/
theorem Stands.chooseNode {sizes : Text → Nat} {m : NodesManager}
    (stands : Stands sizes m.readLoadBalancer) (regular : Regular sizes m) (config : ClusterConfig)
    (lookup : Lookup) : Stands sizes (stateAfter (m.chooseNode config lookup)).readLoadBalancer := by
  rcases covered : m.slotNodes lookup.slot with _ | _ | ⟨primary, others⟩
  · unfold NodesManager.chooseNode
    rw [covered]
    cases config.flavor <;> exact stands
  · unfold NodesManager.chooseNode
    rw [covered]
    cases config.flavor <;> exact stands
  · obtain ⟨e, ran⟩ := chooseNode_listed config lookup covered
    have kept := stands.selected regular config lookup covered
    rw [ran]
    simp only
    split
    · exact kept
    · exact kept

/-- An event after which the lists are regular keeps the load balancer in them. -/
theorem Stands.after {sizes : Text → Nat} {m : NodesManager} (stands : Stands sizes m.readLoadBalancer)
    (config : ClusterConfig) (event : BalancerEvent) (regular : Regular sizes (event.after config m)) :
    Stands sizes (event.after config m).readLoadBalancer := by
  cases event with
  | changed other => exact stands
  | reset =>
    refine ⟨stands.start, fun name position found => ?_⟩
    cases found
  | looked lookup =>
    have chosen (updated : NodesManager) (same : updated.readLoadBalancer = m.readLoadBalancer)
        (ends : stateAfter (m.getNodeFromSlot config lookup) = stateAfter (updated.chooseNode config lookup)) :
        Stands sizes (stateAfter (m.getNodeFromSlot config lookup)).readLoadBalancer := by
      obtain ⟨lb, moved⟩ := chooseNode_state config lookup updated
      have regularBefore : Regular sizes updated := by
        have later : Regular sizes (stateAfter (m.getNodeFromSlot config lookup)) := regular
        rw [ends, moved] at later
        exact later
      rw [ends]
      exact Stands.chooseNode (by rw [same]; exact stands) regularBefore config lookup
    show Stands sizes (stateAfter (m.getNodeFromSlot config lookup)).readLoadBalancer
    cases pending : m.movedException with
    | none =>
      exact chosen m rfl (by rw [getNodeFromSlot_settled config lookup pending])
    | some e =>
      have untouched := updateMovedSlots_balancer config e m
      cases ran : m.updateMovedSlots config e with
      | ok _ updated =>
        rw [ran] at untouched
        refine chosen updated untouched ?_
        unfold getNodeFromSlot
        rw [pending]
        simp only [ran]
      | error raised failed =>
        rw [ran] at untouched
        unfold getNodeFromSlot
        rw [pending]
        simp only [ran]
        show Stands sizes failed.readLoadBalancer
        rw [show failed.readLoadBalancer = m.readLoadBalancer from untouched]
        exact stands

/-- As long as all lists of a primary have one length, the load balancer stands in the list of every
slot, after every history. -/
theorem position_of_regular (config : ClusterConfig) (sizes : Text → Nat) {m : NodesManager}
    (stands : Stands sizes m.readLoadBalancer) (events : List BalancerEvent)
    (regular : Runs.Always (BalancerEvent.after config) (Regular sizes) m events) (slot : Int)
    {primary : Nat} {others : List Nat}
    (listed : (events.foldl (BalancerEvent.after config) m).slotNodes slot = some (primary :: others))
    (several : others ≠ []) :
    (events.foldl (BalancerEvent.after config) m).position primary < (primary :: others).length := by
  induction events generalizing m with
  | nil =>
    have size := (Runs.always_nil.mp regular) slot primary others listed several
    show m.position primary < _
    unfold position
    cases stored : m.readLoadBalancer.primaryToIdx.get (m.nodes primary).name with
    | none =>
      rw [Option.getD_none, stands.start]
      simp
    | some index =>
      rw [Option.getD_some, size]
      exact stands.within _ index stored
  | cons event events ih =>
    obtain ⟨-, rest⟩ := Runs.always_cons.mp regular
    have first : Regular sizes (event.after config m) := rest [] events rfl
    exact ih (stands.after config event first) rest listed

end NodesManager

end RedisPy

import RedisPy.Cluster.Remembers

/-!
# Where a cluster pipeline sends a command

The client and the pipeline each choose the nodes of a command, by code of their own around
`_determine_nodes`. A queued command is routed again in every attempt of the whole stack and when it
is run on its own, and its `target_nodes` are taken from its options as they are read.
-/

namespace RedisPy

open Contract

/-! ## Queued commands -/

/-- `NODE_FLAGS`. -/
inductive NodeFlag where
  /-- `PRIMARIES`. -/
  | primaries
  /-- `REPLICAS`. -/
  | replicas
  /-- `ALL_NODES`. -/
  | allNodes
  /-- `RANDOM`. -/
  | random
  /-- `DEFAULT_NODE`. -/
  | defaultNode

/-- The nodes of a flag. -/
def NodeFlag.targets : NodeFlag → TargetNodes
  | .primaries => .primaries
  | .replicas => .replicas
  | .allNodes => .allNodes
  | .random => .random
  | .defaultNode => .defaultNode

/-- The option `target_nodes`. -/
inductive PassedTargets where
  /-- No option. -/
  | absent
  /-- A node flag. -/
  | flag (flag : NodeFlag)
  /-- A `ClusterNode`. -/
  | node (ref : Nat)

/-- What is chosen by the `Encoder` of the client or of the pipeline. -/
inductive EncoderOf where
  /-- The client's, by the client's `encoding`. -/
  | client
  /-- The pipeline's, which is made without `encoding`. -/
  | pipeline

/-- A command with its arguments, as far as its way to a node matters. -/
structure QueuedCommand where
  /-- The flag of the command in `COMMAND_FLAGS`; search commands go to the default node. -/
  commandFlag : Option NodeFlag
  /-- `determine_slot(*args)`, which encodes keys. -/
  slot : EncoderOf → Except Exc Int
  /-- `read_from_replicas and command in READ_COMMANDS`. -/
  readFromReplicas : Bool
  /-- `load_balancing_strategy`, for a command in `READ_COMMANDS`. -/
  strategy : Option LoadBalancingStrategy

namespace QueuedCommand

/-- `command_flag`, without a flag from the caller. -/
def ownTargets (c : QueuedCommand) : TargetNodes :=
  match c.commandFlag with
  | some flag => flag.targets
  | none => .slot

/-- The targets of the command by its option. -/
def targets (c : QueuedCommand) : PassedTargets → TargetNodes
  | .absent => c.ownTargets
  | .flag flag => flag.targets
  | .node ref => .given [ref]

/-- The command for these targets. -/
def aimed (c : QueuedCommand) (encoder : EncoderOf) (target : TargetNodes) : ClusterCommand where
  target := target
  slot := c.slot encoder
  readFromReplicas := c.readFromReplicas
  strategy := c.strategy

end QueuedCommand

namespace RedisCluster

variable (world : ClusterWorld) (options : ClusterOptions)

/-- `node.name` of every target; a missing node has no attributes. -/
def existing : List (Option Nat) → ClusterM (List Nat)
  | [] => pure []
  | none :: _ => throw { cls := .attributeError }
  | some ref :: targets => do
    let refs ← existing targets
    pure (ref :: refs)

/-- `_internal_execute_command` up to the nodes that it asks, in the client or in the pipeline. -/
def routeDirect (encoder : EncoderOf) (c : QueuedCommand) (passed : PassedTargets) :
    ClusterM (List Nat) := do
  let targets ← findTargets world options (c.aimed encoder (c.targets passed))
  existing targets

/-- The one target, which must exist. -/
def single : List (Option Nat) → ClusterM Nat
  | [some ref] => pure ref
  | [none] => throw { cls := .attributeError }
  | _ => throw { cls := .redisClusterException }

/-- The routing loop of `_send_cluster_commands` for one command. To tell whether a string is a flag,
it reads `node_flags`, an attribute that only the client sets. -/
def routeQueued (c : QueuedCommand) (passed : PassedTargets) : ClusterM Nat :=
  match passed with
  | .flag _ => throw { cls := .attributeError }
  | _ => do
    let targets ← findTargets world options (c.aimed .pipeline (c.targets passed))
    single targets

/-- How a queued command is routed. -/
inductive RoutingKind where
  /-- With the whole stack. -/
  | stack
  /-- On its own, with `super().execute_command`. -/
  | rerun

/-- The nodes of a queued command in one attempt. -/
def routeAttempt (c : QueuedCommand) (passed : PassedTargets) : RoutingKind → ClusterM (List Nat)
  | .stack => do
    let ref ← routeQueued world options c passed
    pure [ref]
  | .rerun => routeDirect world options .pipeline c passed

/-- The nodes of a queued command in a run, each attempt on its own topology; the first attempt pops
`target_nodes` from the options of the command. -/
def routeAttempts (c : QueuedCommand) :
    PassedTargets → List (RoutingKind × RedisCluster) →
      List (EStateM.Result Exc RedisCluster (List Nat))
  | _, [] => []
  | passed, (kind, topology) :: attempts =>
    routeAttempt world options c passed kind topology :: routeAttempts c .absent attempts

/-- The nodes that the client asks for the command with its options, on the same topologies. -/
def routesDirect (c : QueuedCommand) (passed : PassedTargets)
    (attempts : List (RoutingKind × RedisCluster)) :
    List (EStateM.Result Exc RedisCluster (List Nat)) :=
  attempts.map fun attempt => routeDirect world options .client c passed attempt.2

/-- The pipeline asks the node that the client asks, or both raise; a command for several nodes is
refused by the pipeline. -/
def Agrees : EStateM.Result Exc RedisCluster (List Nat) →
    EStateM.Result Exc RedisCluster (List Nat) → Prop
  | .ok refs after, .ok queued later => queued = refs ∧ later = after
  | .ok refs after, .error e later =>
    1 < refs.length ∧ e.cls = .redisClusterException ∧ later = after
  | .error _ after, .error _ later => later = after
  | .error _ _, .ok _ _ => False

variable {world : ClusterWorld} {options : ClusterOptions}

/-- Agreement with itself. -/
theorem Agrees.refl (result : EStateM.Result Exc RedisCluster (List Nat)) :
    Agrees result result := by
  cases result with
  | ok refs after => exact ⟨rfl, rfl⟩
  | error e after => exact rfl

/-- All nodes exist, or one is missing. -/
theorem existing_cases (targets : List (Option Nat)) (c : RedisCluster) :
    (∃ refs, targets = refs.map some ∧ existing targets c = .ok refs c) ∨
      existing targets c = .error { cls := .attributeError } c := by
  induction targets with
  | nil => exact .inl ⟨[], rfl, rfl⟩
  | cons target targets ih =>
    cases target with
    | none => exact .inr rfl
    | some ref =>
      rcases ih with ⟨refs, rfl, ran⟩ | ran
      · refine .inl ⟨ref :: refs, rfl, ?_⟩
        rw [existing, Interruptible.bind_of_ok ran]
        rfl
      · refine .inr ?_
        rw [existing, Interruptible.bind_of_error ran]

/-- Where nodes were not given, some are found. -/
theorem findTargets_ne_nil {command : ClusterCommand} (given : command.target ≠ .given [])
    {targets : List (Option Nat)} {c t : RedisCluster}
    (found : findTargets world options command c = .ok targets t) : targets ≠ [] := by
  rintro rfl
  unfold findTargets at found
  cases determined : determineNodes world options command c with
  | error e u =>
    rw [Interruptible.bind_of_error determined] at found
    cases found
  | ok nodes u =>
    rw [Interruptible.bind_of_ok determined] at found
    cases target : command.target with
    | given refs =>
      rw [target] at found
      cases found
      unfold determineNodes at determined
      have looked : (get : ClusterM RedisCluster) c = .ok c c := rfl
      rw [Interruptible.bind_of_ok looked, target] at determined
      have none : refs.map some = [] := by injection determined
      rw [target, List.map_eq_nil_iff.mp none] at given
      exact given rfl
    | _ =>
      rw [target] at found
      cases nodes with
      | nil => cases found
      | cons node nodes => cases found

/-- One target or several. -/
theorem agrees_single {targets : List (Option Nat)} (some : targets ≠ []) (t : RedisCluster) :
    Agrees (existing targets t) ((do
      let ref ← single targets
      pure [ref] : ClusterM (List Nat)) t) := by
  match targets with
  | [] => exact absurd rfl some
  | [none] => exact rfl
  | [.some ref] => exact ⟨rfl, rfl⟩
  | first :: second :: others =>
    have refused : ((do
        let ref ← single (first :: second :: others)
        pure [ref] : ClusterM (List Nat)) t) = .error { cls := .redisClusterException } t := by
      cases first <;> rfl
    rw [refused]
    rcases existing_cases (first :: second :: others) t with ⟨refs, whole, ran⟩ | ran
    · rw [ran]
      refine ⟨?_, rfl, rfl⟩
      have lengths := congrArg List.length whole
      rw [List.length_map, List.length_cons, List.length_cons] at lengths
      omega
    · rw [ran]
      exact rfl

/-- The routing loop of the pipeline agrees with the client, for a command without a flag. -/
theorem agrees_routeQueued {c : QueuedCommand} (same : c.slot .pipeline = c.slot .client)
    {passed : PassedTargets} (plain : ∀ flag, passed ≠ .flag flag) (t : RedisCluster) :
    Agrees (routeDirect world options .client c passed t)
      (routeAttempt world options c passed .stack t) := by
  have command : c.aimed .pipeline (c.targets passed) = c.aimed .client (c.targets passed) := by
    unfold QueuedCommand.aimed
    rw [same]
  have given : (c.aimed .client (c.targets passed)).target ≠ .given [] := by
    cases passed with
    | absent =>
      show c.ownTargets ≠ _
      unfold QueuedCommand.ownTargets
      cases c.commandFlag with
      | none => exact nofun
      | some flag => cases flag <;> exact nofun
    | flag flag => exact absurd rfl (plain flag)
    | node ref =>
      intro empty
      cases empty
  have queued : routeAttempt world options c passed .stack =
      (do
        let targets ← findTargets world options (c.aimed .client (c.targets passed))
        let ref ← single targets
        pure [ref]) := by
    rw [← command]
    cases passed with
    | flag flag => exact absurd rfl (plain flag)
    | absent => exact bind_assoc _ _ _
    | node ref => exact bind_assoc _ _ _
  rw [queued]
  unfold routeDirect
  cases found : findTargets world options (c.aimed .client (c.targets passed)) t with
  | error e u =>
    rw [Interruptible.bind_of_error found, Interruptible.bind_of_error found]
    exact rfl
  | ok targets u =>
    have some := findTargets_ne_nil given found
    rw [Interruptible.bind_of_ok found, Interruptible.bind_of_ok found]
    exact agrees_single some u

/-- A queued command without `target_nodes` is sent, in every attempt of the whole stack and when it
is run on its own, to the node that the client asks on the same topology, or both raise, and so is a
command with a node object when it is routed first; only a command for several nodes is refused. -/
theorem routeAttempts_agree (world : ClusterWorld) (options : ClusterOptions) (c : QueuedCommand)
    (same : c.slot .pipeline = c.slot .client) :
    (∀ attempts, List.Forall₂ Agrees (routesDirect world options c .absent attempts)
      (routeAttempts world options c .absent attempts)) ∧
    ∀ ref topology, Agrees (routeDirect world options .client c (.node ref) topology)
      (routeAttempt world options c (.node ref) .stack topology) := by
  constructor
  · intro attempts
    induction attempts with
    | nil => exact .nil
    | cons attempt attempts ih =>
      obtain ⟨kind, topology⟩ := attempt
      refine .cons ?_ ih
      cases kind with
      | stack => exact agrees_routeQueued same (fun flag given => by cases given) topology
      | rerun =>
        have command : c.aimed .pipeline c.ownTargets = c.aimed .client c.ownTargets := by
          unfold QueuedCommand.aimed
          rw [same]
        have direct : routeAttempt world options c .absent .rerun =
            routeDirect world options .client c .absent := by
          show routeDirect world options .pipeline c .absent = _
          unfold routeDirect QueuedCommand.targets
          rw [command]
        show Agrees (routeDirect world options .client c .absent topology)
          (routeAttempt world options c .absent .rerun topology)
        rw [direct]
        exact .refl _
  · intro ref topology
    exact agrees_routeQueued same (fun flag given => by cases given) topology

/-! ## Two primaries -/

/-- A command for slot 0. -/
def slotZero : QueuedCommand where
  commandFlag := none
  slot _ := .ok 0
  readFromReplicas := false
  strategy := none

/-- A client that knows the two primaries. -/
def knowsTwoPrimaries : RedisCluster :=
  run twoPrimaries (defaultOptions .sync) [("127.0.0.1".toList, 7000)] []

/-- A first attempt, another one with the whole stack, and the command on its own. -/
def threeAttempts : List (RoutingKind × RedisCluster) :=
  [(.stack, knowsTwoPrimaries), (.stack, knowsTwoPrimaries), (.rerun, knowsTwoPrimaries)]

/-- Agreement for a command for slot 0, without an option and with the node of another slot. -/
theorem routeAttempts_agree_slotZero :
    List.Forall₂ Agrees
      (routesDirect twoPrimaries (defaultOptions .sync) slotZero .absent threeAttempts)
      (routeAttempts twoPrimaries (defaultOptions .sync) slotZero .absent threeAttempts) ∧
    Agrees (routeDirect twoPrimaries (defaultOptions .sync) .client slotZero (.node 2)
        knowsTwoPrimaries)
      (routeAttempt twoPrimaries (defaultOptions .sync) slotZero (.node 2) .stack
        knowsTwoPrimaries) :=
  have agree := routeAttempts_agree twoPrimaries (defaultOptions .sync) slotZero rfl
  ⟨agree.1 threeAttempts, agree.2 2 knowsTwoPrimaries⟩

/-- The nodes of a result. -/
def nodesOf : EStateM.Result Exc RedisCluster (List Nat) → Option (List Nat)
  | .ok refs _ => some refs
  | .error _ _ => none

/-- A command for all primaries is refused by the pipeline; so is every node flag; and a command that
was sent to a node object goes to the node of its slot when it is sent again. -/
theorem routeAttempts_differ :
    ((routesDirect twoPrimaries (defaultOptions .sync)
          { slotZero with commandFlag := some .primaries } .absent
          [(.stack, knowsTwoPrimaries)]).map nodesOf = [some [1, 2]] ∧
      (routeAttempts twoPrimaries (defaultOptions .sync)
          { slotZero with commandFlag := some .primaries } .absent
          [(.stack, knowsTwoPrimaries)]).map nodesOf = [none]) ∧
    ((routesDirect twoPrimaries (defaultOptions .sync) slotZero (.flag .defaultNode)
          [(.stack, knowsTwoPrimaries)]).map nodesOf = [some [1]] ∧
      (routeAttempts twoPrimaries (defaultOptions .sync) slotZero (.flag .defaultNode)
          [(.stack, knowsTwoPrimaries)]).map nodesOf = [none]) ∧
    ((routesDirect twoPrimaries (defaultOptions .sync) slotZero (.node 2)
          threeAttempts).map nodesOf = [some [2], some [2], some [2]] ∧
      (routeAttempts twoPrimaries (defaultOptions .sync) slotZero (.node 2)
          threeAttempts).map nodesOf = [some [2], some [1], some [1]]) := by
  decide +kernel

end RedisCluster

end RedisPy

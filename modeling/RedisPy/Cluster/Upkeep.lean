import RedisPy.Cluster.Client

/-!
# What a cluster client keeps

A command touches its client in a few ways: it looks up nodes, connects them, notes redirections,
removes failed nodes, discovers the topology anew, closes and counts. A property that each of them
keeps is kept by every command, and so holds all along a run.
-/

namespace RedisPy

open Contract NodesManager

namespace RedisCluster

/-- A property that everything a command does to its client keeps. -/
structure Upkeep (world : ClusterWorld) (options : ClusterOptions) (I : RedisCluster → Prop) :
    Prop where
  /-- Counting questions. -/
  clock : ∀ c clock, I c → I { c with clock }
  /-- Counting redirections. -/
  counter : ∀ c reinitializeCounter, I c → I { c with reinitializeCounter }
  /-- Initialization is over. -/
  initialized : ∀ c, I c → I { c with initialized := true }
  /-- `get_node_from_slot`. -/
  lookup : ∀ lookup, Keeps I (onManager fun m => m.getNodeFromSlot options.config lookup)
  /-- `create_redis_connections`. -/
  connect : ∀ ref, Keeps I (modifyManager fun m => m.createRedisConnections [ref])
  /-- `update_moved_exception`. -/
  moved : ∀ redirect, Keeps I (modifyManager (·.updateMovedException redirect))
  /-- The connection of a failed node. -/
  drop : ∀ ref, Keeps I (modifyManager (·.dropConnection ref))
  /-- Another default node. -/
  replace : ∀ random, Keeps I (modifyManager (·.replaceDefaultNode random))
  /-- No default node. -/
  forget : Keeps I (modifyManager fun m => { m with defaultNode := none })
  /-- A node is removed from the startup list. -/
  remove : ∀ ref, Keeps I (removeStartup ref)
  /-- `nodes_manager.initialize`. -/
  refresh : Keeps I (refresh world options)
  /-- `aclose`. -/
  close : Keeps I aclose

namespace Upkeep

variable {world : ClusterWorld} {options : ClusterOptions} {I : RedisCluster → Prop} {α : Type}

/-- An answer. -/
theorem keeps_settled (outcome : Except Exc α) : Keeps I (settled outcome) := by
  cases outcome with
  | ok value => exact keeps_pure value
  | error e => exact keeps_throw e

/-- A caught exception. -/
theorem keeps_caught {program : ClusterM α} (kept : Keeps I program) :
    Keeps I (caught program) := by
  intro c start
  have ends := kept c start
  unfold caught
  cases ran : program c with
  | ok value after =>
    rw [ran] at ends
    exact ends
  | error e after =>
    rw [ran] at ends
    exact ends

section Commands

variable (up : Upkeep world options I) (command : ClusterCommand)
include up

/-- A question. -/
theorem keeps_ask (question : Nat → α) : Keeps I (ask question) :=
  fun c start => up.clock c (c.clock + 1) start

/-! ## One node -/

/-- A lookup. -/
theorem keeps_nodeFromSlot (slot : Int) : Keeps I (nodeFromSlot world options command slot) :=
  (up.keeps_ask _).bind fun _ => up.lookup _

/-- A target is located. -/
theorem keeps_locate (routing : Routing) : Keeps I (locate world options command routing) := by
  refine keeps_get fun c => ?_
  split
  · exact keeps_pure _
  · refine (keeps_settled _).bind fun slot => ?_
    refine (up.keeps_nodeFromSlot command slot).bind fun ref => ?_
    exact keeps_pure _
  · exact keeps_pure _

/-- An exchange. -/
theorem keeps_exchangeWith (ref : Nat) (exchange : Exchange) :
    Keeps I (exchangeWith world ref exchange) := by
  refine keeps_get fun c => ?_
  exact (up.keeps_ask _).bind fun outcome => keeps_settled outcome

/-- A node is contacted. -/
theorem keeps_contact (ref : Nat) (routing : Routing) :
    Keeps I (contact world options ref routing) := by
  have exchanged (exchange : Exchange) : Keeps I (caught (exchangeWith world ref exchange)) :=
    keeps_caught (up.keeps_exchangeWith ref exchange)
  refine (keeps_whenever (up.connect ref)).bind fun _ => ?_
  split
  · exact (exchanged .command).bind fun _ => keeps_pure _
  · refine (exchanged .asking).bind fun asked => ?_
    split
    · exact keeps_pure _
    · exact (exchanged .command).bind fun _ => keeps_pure _

/-- The body of the `try` statement. -/
theorem keeps_attempt (routing : Routing) : Keeps I (attempt world options command routing) := by
  refine (keeps_caught (up.keeps_locate command routing)).bind fun located => ?_
  split
  · exact keeps_pure _
  · split
    · exact up.keeps_contact _ _
    · exact keeps_pure _

/-- A redirection is noted. -/
theorem keeps_noteMoved {discover : ClusterM Unit} (kept : Keeps I discover) (e : Exc) :
    Keeps I (noteMoved options discover e) := by
  have count (change : Nat → Nat) : Keeps I (modify fun c => { c with
      reinitializeCounter := change c.reinitializeCounter } : ClusterM Unit) :=
    keeps_modify fun c start => up.counter c _ start
  refine (count (· + 1)).bind fun _ => keeps_get fun c => ?_
  split
  · exact kept.bind fun _ => count fun _ => 0
  · exact keeps_whenSome fun redirect => up.moved redirect

/-- The failed node is removed. -/
theorem keeps_removeTarget (routing : Routing) : Keeps I (removeTarget routing) :=
  keeps_whenSome fun ref => up.remove ref

/-- The handlers of the blocking class. -/
theorem keeps_recoverSync (routing : Routing) (e : Exc) :
    Keeps I (recoverSync world options routing e) := by
  have raised : Keeps I (throw e : ClusterM Routing) := keeps_throw e
  have dropped : Keeps I
      (whenSome routing.target fun ref => modifyManager (·.dropConnection ref)) :=
    keeps_whenSome fun ref => up.drop ref
  unfold recoverSync
  refine keeps_ite raised (keeps_ite ?_ (keeps_ite ?_ (keeps_ite (keeps_pure _)
    (keeps_ite (keeps_pure _) (keeps_ite ?_ raised)))))
  · refine (up.keeps_removeTarget routing).bind fun _ => ?_
    exact dropped.bind fun _ => up.refresh.bind fun _ => raised
  · exact (up.keeps_noteMoved up.refresh e).bind fun _ => keeps_pure _
  · exact up.refresh.bind fun _ => raised

/-- The handlers of the asyncio class. -/
theorem keeps_recoverAsync (routing : Routing) (e : Exc) :
    Keeps I (recoverAsync options routing e) := by
  have raised : Keeps I (throw e : ClusterM Routing) := keeps_throw e
  unfold recoverAsync
  refine keeps_ite raised (keeps_ite ?_ (keeps_ite ?_ (keeps_ite ?_
    (keeps_ite (keeps_pure _) (keeps_ite (keeps_pure _) raised)))))
  · exact (up.keeps_removeTarget routing).bind fun _ => up.close.bind fun _ => raised
  · exact up.close.bind fun _ => raised
  · exact (up.keeps_noteMoved up.close e).bind fun _ => keeps_pure _

/-- The handlers of either class. -/
theorem keeps_recoverFrom (routing : Routing) (e : Exc) :
    Keeps I (recoverFrom world options routing e) := by
  unfold recoverFrom
  cases options.config.flavor with
  | sync => exact up.keeps_recoverSync routing e
  | async => exact up.keeps_recoverAsync routing e

/-- The loop of `_execute_command`. -/
theorem keeps_attempts (ttl : Nat) (routing : Routing) :
    Keeps I (attempts world options command ttl routing) := by
  induction ttl generalizing routing with
  | zero => exact keeps_throw _
  | succ ttl ih =>
    refine (up.keeps_attempt command routing).bind fun attempted => ?_
    obtain ⟨routing, outcome⟩ := attempted
    cases outcome with
    | ok _ => exact keeps_pure ()
    | error e => exact (up.keeps_recoverFrom routing e).bind ih

/-! ## All nodes of a command -/

/-- The nodes of a command. -/
theorem keeps_findTargets : Keeps I (findTargets world options command) := by
  have determined : Keeps I (determineNodes world options command) := by
    refine keeps_get fun c => ?_
    split
    · exact keeps_pure _
    · refine (up.keeps_ask _).bind fun random => ?_
      unfold oneNode
      split
      · exact keeps_pure _
      · exact keeps_throw _
    · exact keeps_pure _
    · exact keeps_pure _
    · exact keeps_pure _
    · exact keeps_pure _
    · refine (keeps_settled _).bind fun slot => ?_
      exact (up.keeps_nodeFromSlot command slot).bind fun ref => keeps_pure _
  refine determined.bind fun targets => ?_
  split
  · exact keeps_pure _
  · exact keeps_throw _
  · exact keeps_pure _

/-- The blocking class's nodes. -/
theorem keeps_executeEach (targets : List (Option Nat)) :
    Keeps I (executeEach world options command targets) := by
  induction targets with
  | nil => exact keeps_pure ()
  | cons target targets ih => exact (up.keeps_attempts command _ _).bind fun _ => ih

/-- The asyncio class's nodes. -/
theorem keeps_executeAll (targets : List (Option Nat)) (outcome : Except Exc Unit) :
    Keeps I (executeAll world options command targets outcome) := by
  induction targets generalizing outcome with
  | nil => exact keeps_settled outcome
  | cons target targets ih =>
    exact (keeps_caught (up.keeps_attempts command _ _)).bind fun one => ih _

/-- Another default node. -/
theorem keeps_replaceDefault : Keeps I (replaceDefault world) :=
  (up.keeps_ask _).bind fun random => up.replace random

/-- An attempt of the blocking class. -/
theorem keeps_trySync (isDefault : Bool) :
    Keeps I (trySync world options command isDefault) := by
  refine (keeps_caught (up.keeps_findTargets command)).bind fun found => ?_
  split
  · exact keeps_pure _
  · refine keeps_get fun c => ?_
    exact (keeps_caught (up.keeps_executeEach command _)).bind fun _ => keeps_pure _

/-- The loop of the blocking class. -/
theorem keeps_executeSync (retries : Nat) (isDefault : Bool) :
    Keeps I (executeSync world options command retries isDefault) := by
  induction retries generalizing isDefault with
  | zero => exact (up.keeps_trySync command isDefault).bind fun _ => keeps_settled _
  | succ retries ih =>
    refine (up.keeps_trySync command isDefault).bind fun tried => ?_
    obtain ⟨isDefault, outcome⟩ := tried
    cases outcome with
    | ok _ => exact keeps_pure ()
    | error e =>
      refine keeps_ite ?_ (keeps_throw e)
      exact (keeps_whenever up.keeps_replaceDefault).bind fun _ => ih isDefault

/-- The asyncio class's initialization. -/
theorem keeps_initializeClient : Keeps I (initializeClient world options) := by
  have discovered : Keeps I (do
      RedisCluster.refresh world options
      let outcome ← ask world.commandTable
      settled outcome) :=
    up.refresh.bind fun _ => (up.keeps_ask _).bind fun _ => keeps_settled _
  refine (keeps_caught discovered).bind fun found => ?_
  split
  · exact keeps_modify up.initialized
  · exact up.forget.bind fun _ => keeps_throw _

/-- What the asyncio class does first. -/
theorem keeps_prepareAsync (targets : List (Option Nat)) :
    Keeps I (prepareAsync world options targets) := by
  refine keeps_get fun c => keeps_whenever ?_
  refine up.keeps_initializeClient.bind fun _ => keeps_get fun c => ?_
  exact keeps_whenever up.keeps_replaceDefault

/-- An attempt of the asyncio class. -/
theorem keeps_tryAsync (targets : List (Option Nat)) :
    Keeps I (tryAsync world options command targets) := by
  refine (keeps_caught (up.keeps_findTargets command)).bind fun found => ?_
  split
  · exact keeps_pure _
  · exact (keeps_caught (up.keeps_executeAll command _ _)).bind fun _ => keeps_pure _

/-- The loop of the asyncio class. -/
theorem keeps_executeAsync (retries : Nat) (targets : List (Option Nat)) :
    Keeps I (executeAsync world options command retries targets) := by
  induction retries generalizing targets with
  | zero =>
    refine (up.keeps_prepareAsync targets).bind fun _ => ?_
    exact (up.keeps_tryAsync command targets).bind fun _ => keeps_settled _
  | succ retries ih =>
    refine (up.keeps_prepareAsync targets).bind fun _ => ?_
    refine (up.keeps_tryAsync command targets).bind fun tried => ?_
    obtain ⟨targets, outcome⟩ := tried
    cases outcome with
    | ok _ => exact keeps_pure ()
    | error e => exact keeps_ite (ih targets) (keeps_throw e)

/-- A command. -/
theorem keeps_executeCommand : Keeps I (executeCommand world options command) := by
  unfold executeCommand
  cases options.config.flavor with
  | sync => exact up.keeps_executeSync command _ _
  | async => exact up.keeps_executeAsync command _ _

/-- A run keeps what its client starts with. -/
theorem run {addresses : List (Text × Int)} (start : I (create options addresses))
    (commands : List ClusterCommand) : I (run world options addresses commands) := by
  have steps : ∀ c, I c → I (commands.foldl
      (fun c command => stateAfter (executeCommand world options command c)) c) := by
    intro c start
    apply List.foldlRecOn commands _ start
    intro later kept command _
    exact (up.keeps_executeCommand command).stateAfter kept
  have refreshed := up.refresh _ start
  unfold RedisCluster.run
  cases options.config.flavor with
  | async => exact steps _ start
  | sync =>
    simp only
    cases ran : RedisCluster.refresh world options (create options addresses) with
    | ok _ constructed =>
      rw [ran] at refreshed
      exact steps _ refreshed
    | error e failed =>
      rw [ran] at refreshed
      exact refreshed

end Commands

end Upkeep

end RedisCluster

end RedisPy

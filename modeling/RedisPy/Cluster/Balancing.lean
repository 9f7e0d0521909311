import RedisPy.Cluster.NodesManager
import RedisPy.Lib.Turns

/-!
# Balancing reads

The indices that a load balancer hands out for the servers of many primaries, call by call. Those of one
primary are taken in turn, whatever happens between for the others.
-/

namespace RedisPy

/-- A call of `get_server_index`, and what `random.randint` would return. -/
structure ServerCall where
  primary : Text
  listSize : Nat
  strategy : LoadBalancingStrategy
  random : Nat

namespace LoadBalancer

/-- One call. -/
def serve (lb : LoadBalancer) (call : ServerCall) : Nat × LoadBalancer :=
  lb.getServerIndex call.random call.primary call.listSize call.strategy

/-- What the calls for one primary return, one after the other. -/
def answers (primary : Text) (lb : LoadBalancer) : List ServerCall → List Nat
  | [] => []
  | call :: calls =>
    if call.primary = primary then (lb.serve call).1 :: answers primary (lb.serve call).2 calls
    else answers primary (lb.serve call).2 calls

/-- `LoadBalancer()`. -/
def new : LoadBalancer := { primaryToIdx := [], startIndex := 0 }

/-- The calls share the reads of every primary fairly. -/
structure Fair (calls : List ServerCall) : Prop where
  /-- Over all servers, as many calls as there are servers reach each one once. -/
  roundRobin : ∀ primary n, 2 ≤ n →
    (∀ call ∈ calls, call.primary = primary → call.strategy = .roundRobin ∧ call.listSize = n) →
    ∀ window, window <:+: new.answers primary calls → window.length = n → window.Perm (List.range n)
  /-- Over the replicas, as many calls as there are replicas reach each one once. -/
  replicas : ∀ primary n, 2 ≤ n →
    (∀ call ∈ calls, call.primary = primary → call.strategy = .roundRobinReplicas ∧ call.listSize = n) →
    ∀ window, window <:+: new.answers primary calls → window.length = n - 1 →
      window.Perm (List.range' 1 (n - 1))
  /-- The calls for the other primaries make no difference. -/
  apart : ∀ primary, new.answers primary calls = new.answers primary (calls.filter (·.primary = primary))

/-! ## One call -/

/-- The index stored for a primary. -/
def position (lb : LoadBalancer) (primary : Text) : Nat := (lb.primaryToIdx.get primary).getD lb.startIndex

/-- A call returns and stores what follows from the index of its primary. -/
theorem serve_position {lb other : LoadBalancer} (call : ServerCall)
    (same : lb.position call.primary = other.position call.primary) :
    (lb.serve call).1 = (other.serve call).1 ∧
      (lb.serve call).2.position call.primary = (other.serve call).2.position call.primary := by
  obtain ⟨primary, listSize, strategy, random⟩ := call
  have stored : (lb.primaryToIdx.get primary).getD lb.startIndex =
      (other.primaryToIdx.get primary).getD other.startIndex := same
  cases strategy with
  | randomReplica => exact ⟨rfl, same⟩
  | roundRobin => simp [serve, getServerIndex, getRoundRobinIndex, position, Dict.get_set_self, stored]
  | roundRobinReplicas => simp [serve, getServerIndex, getRoundRobinIndex, position, Dict.get_set_self, stored]

/-- A call leaves the indices of the other primaries. -/
theorem serve_position_ne (lb : LoadBalancer) {call : ServerCall} {primary : Text}
    (other : call.primary ≠ primary) : (lb.serve call).2.position primary = lb.position primary := by
  obtain ⟨callPrimary, listSize, strategy, random⟩ := call
  have kept (value : Nat) : (lb.primaryToIdx.set callPrimary value).get primary = lb.primaryToIdx.get primary :=
    Dict.get_set_ne lb.primaryToIdx value other
  cases strategy with
  | randomReplica => rfl
  | roundRobin => simp [serve, getServerIndex, getRoundRobinIndex, position, kept]
  | roundRobinReplicas => simp [serve, getServerIndex, getRoundRobinIndex, position, kept]

/-- The answers depend on the index of the primary and on its own calls only. -/
theorem answers_filter (primary : Text) (calls : List ServerCall) (lb other : LoadBalancer)
    (same : lb.position primary = other.position primary) :
    lb.answers primary calls = other.answers primary (calls.filter (·.primary = primary)) := by
  induction calls generalizing lb other with
  | nil => rfl
  | cons call calls ih =>
    by_cases own : call.primary = primary
    · subst own
      obtain ⟨answer, next⟩ := serve_position call same
      rw [List.filter_cons_of_pos (by simp), answers, answers, if_pos rfl, if_pos rfl, answer, ih _ _ next]
    · rw [List.filter_cons_of_neg (by simp [own]), answers, if_neg own]
      exact ih _ _ ((lb.serve_position_ne own).trans same)

/-! ## Turns -/

/-- The servers that a strategy takes in turn. -/
def servers (n : Nat) : LoadBalancingStrategy → List Nat
  | .roundRobin => List.range n
  | .roundRobinReplicas => List.range' 1 (n - 1)
  | .randomReplica => []

/-- The index from which a strategy goes on at a turn. -/
def AtTurn (n turn : Nat) (strategy : LoadBalancingStrategy) (stored : Nat) : Prop :=
  match strategy with
  | .roundRobin => stored = turn % n
  | .roundRobinReplicas => (if stored = 0 then 1 else stored) = 1 + turn % (n - 1)
  | .randomReplica => False

/-- One call takes the server of its turn and goes on to the next one. -/
theorem serve_atTurn {lb : LoadBalancer} {call : ServerCall} (several : 2 ≤ call.listSize) {turn : Nat}
    (here : AtTurn call.listSize turn call.strategy (lb.position call.primary)) :
    (servers call.listSize call.strategy)[turn % (servers call.listSize call.strategy).length]? =
        some (lb.serve call).1 ∧
      AtTurn call.listSize (turn + 1) call.strategy ((lb.serve call).2.position call.primary) := by
  obtain ⟨primary, n, strategy, random⟩ := call
  have two : 2 ≤ n := several
  cases strategy with
  | randomReplica => cases here
  | roundRobin =>
    have stored : lb.position primary = turn % n := here
    have small : turn % n < n := Nat.mod_lt _ (by omega)
    have next : ((lb.serve ⟨primary, n, .roundRobin, random⟩).2).position primary = (lb.position primary + 1) % n := by
      simp [serve, getServerIndex, getRoundRobinIndex, position, Dict.get_set_self]
    refine ⟨?_, ?_⟩
    · show (List.range n)[turn % (List.range n).length]? = some (lb.position primary)
      rw [List.length_range, List.getElem?_range small, stored]
    · show ((lb.serve _).2).position primary = (turn + 1) % n
      rw [next, stored, Nat.mod_add_mod]
  | roundRobinReplicas =>
    have small : turn % (n - 1) < n - 1 := Nat.mod_lt _ (by omega)
    have stored : (if lb.position primary = 0 then 1 else lb.position primary) = 1 + turn % (n - 1) := here
    have answer : (lb.serve ⟨primary, n, .roundRobinReplicas, random⟩).1 = 1 + turn % (n - 1) := by
      rw [← stored]
      by_cases first : (lb.primaryToIdx.get primary).getD lb.startIndex = 0 <;>
        simp [serve, getServerIndex, getRoundRobinIndex, position, first]
    have next : ((lb.serve ⟨primary, n, .roundRobinReplicas, random⟩).2).position primary =
        (1 + turn % (n - 1) + 1) % n := by
      rw [← stored]
      by_cases first : (lb.primaryToIdx.get primary).getD lb.startIndex = 0 <;>
        simp [serve, getServerIndex, getRoundRobinIndex, position, Dict.get_set_self, first]
    refine ⟨?_, ?_⟩
    · show (List.range' 1 (n - 1))[turn % (List.range' 1 (n - 1)).length]? = some _
      rw [List.length_range', List.getElem?_range' small, answer, Nat.one_mul]
    · show (if _ = 0 then 1 else _) = 1 + (turn + 1) % (n - 1)
      rw [next, ← Nat.mod_add_mod turn]
      -- after the last replica the index of the primary itself is stored, and skipped in the next call
      by_cases last : turn % (n - 1) + 1 = n - 1
      · have full : 1 + turn % (n - 1) + 1 = n := by omega
        rw [full, last, Nat.mod_self, Nat.mod_self]
        rfl
      · rw [Nat.mod_eq_of_lt (show 1 + turn % (n - 1) + 1 < n by omega),
          Nat.mod_eq_of_lt (show turn % (n - 1) + 1 < n - 1 by omega), if_neg (by omega)]
        omega

/-- The calls for one primary take its servers in turn. -/
theorem answers_inTurn {primary : Text} {n : Nat} (several : 2 ≤ n) {strategy : LoadBalancingStrategy}
    {calls : List ServerCall}
    (uniform : ∀ call ∈ calls, call.primary = primary → call.strategy = strategy ∧ call.listSize = n)
    {lb : LoadBalancer} {turn : Nat} (here : AtTurn n turn strategy (lb.position primary)) :
    Turns.InTurn (servers n strategy) turn (lb.answers primary calls) := by
  induction calls generalizing lb turn with
  | nil => trivial
  | cons call calls ih =>
    have later : ∀ call ∈ calls, call.primary = primary → call.strategy = strategy ∧ call.listSize = n :=
      fun other member => uniform other (List.mem_cons_of_mem _ member)
    rw [answers]
    split
    · next own =>
      subst own
      obtain ⟨rfl, rfl⟩ := uniform call List.mem_cons_self rfl
      obtain ⟨answer, next⟩ := serve_atTurn several here
      exact ⟨answer, ih later next⟩
    · next other =>
      rw [← lb.serve_position_ne other] at here
      exact ih later here

/-- Every sequence of calls is fair. -/
theorem getServerIndex_fair (calls : List ServerCall) : Fair calls where
  roundRobin primary n several uniform window within round := by
    have start : AtTurn n 0 .roundRobin (new.position primary) := (Nat.zero_mod n).symm
    exact (answers_inTurn several uniform start).window within (round.trans List.length_range.symm)
  replicas primary n several uniform window within round := by
    have start : AtTurn n 0 .roundRobinReplicas (new.position primary) := by
      show 1 = 1 + 0 % (n - 1)
      rw [Nat.zero_mod]
    exact (answers_inTurn several uniform start).window within (round.trans List.length_range'.symm)
  apart primary := answers_filter primary calls new new rfl

/-- Two primaries with three servers each, one of them read from its replicas only. -/
example :
    let call (primary : String) (strategy : LoadBalancingStrategy) : ServerCall := ⟨primary.toList, 3, strategy, 0⟩
    let calls := [call "a" .roundRobin, call "b" .roundRobinReplicas, call "b" .roundRobinReplicas,
      call "a" .roundRobin, call "a" .roundRobin, call "b" .roundRobinReplicas, call "a" .roundRobin]
    new.answers "a".toList calls = [0, 1, 2, 0] ∧ new.answers "b".toList calls = [1, 2, 1] := by
  decide

end LoadBalancer

end RedisPy

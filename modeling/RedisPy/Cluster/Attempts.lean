import RedisPy.Exceptions
import RedisPy.Lib.Contract
import RedisPy.Lib.Leases

/-!
# The connections of a cluster command

What the loop of `RedisCluster._execute_command` does with connections: each attempt finds the
pool of its node, gets a connection, uses it and releases what the local variable holds, which
outlives the attempt. What happens in each attempt is given.
-/

namespace RedisPy

open Contract Leases

/-! ## Attempts -/

/-- What the loop does to a connection that it holds. -/
inductive ConnectionUse where
  /-- `connection.send_command`. -/
  | write
  /-- `redis_node.parse_response`. -/
  | read
  /-- `connection.disconnect`. -/
  | disconnect
deriving DecidableEq

/-- The locals `asking` and `moved`. -/
structure Redirection where
  /-- An `AskError` was the last redirection. -/
  asking : Bool
  /-- A `MovedError` was not followed yet. -/
  moved : Bool
deriving DecidableEq

/-- What happens in one attempt, where each step returns or raises. -/
structure AttemptOutcome where
  /-- `get_node`, or `determine_slot` and `get_node_from_slot`. -/
  located : Option Exc
  /-- `get_redis_connection`: the pool of the target node. -/
  node : Except Exc Nat
  /-- `get_connection`. -/
  connected : Option Exc
  /-- `send_command("ASKING")`. -/
  askingWritten : Option Exc
  /-- `parse_response` of `ASKING`. -/
  askingRead : Option Exc
  /-- `send_command`. -/
  written : Option Exc
  /-- `parse_response`. -/
  read : Option Exc
  /-- The response callback. -/
  callback : Option Exc
  /-- What a handler does to the topology, or its sleep. -/
  recovery : Option Exc
  /-- `release`, after the connection is back. -/
  released : Option Exc

/-- The locals of the loop; the last two fields only keep a record. -/
structure LoopState where
  /-- `redis_node`, by the number of its pool. -/
  redisNode : Option Nat
  /-- `connection`, by the number of its lease. -/
  connection : Option Nat
  /-- `asking` and `moved`. -/
  redirection : Redirection
  /-- The number of connections that were obtained. -/
  obtained : Nat
  /-- What was done with them. -/
  events : List (LeaseEvent Nat ConnectionUse)

/-- Code of the loop. -/
abbrev LoopM := EStateM Exc LoopState

namespace LoopState

/-- Before the first attempt. -/
def start : LoopState where
  redisNode := none
  connection := none
  redirection := { asking := false, moved := false }
  obtained := 0
  events := []

/-- What a use of the local variable adds to the record. -/
def usesOf (connection : Option Nat) (usages : List ConnectionUse) :
    List (LeaseEvent Nat ConnectionUse) :=
  match connection with
  | some lease => usages.map (.used lease)
  | none => []

/-- The connection that is held is used. -/
def use (usages : List ConnectionUse) (s : LoopState) : LoopState :=
  { s with events := s.events ++ usesOf s.connection usages }

/-- `get_connection(redis_node)` returned. -/
def obtain (pool : Nat) (s : LoopState) : LoopState :=
  { s with
    redisNode := some pool
    connection := some s.obtained
    obtained := s.obtained + 1
    events := s.events ++ [.acquired s.obtained pool] }

/-- What the release of the local variable adds to the record. -/
def releaseOf : Option Nat → Option Nat → List (LeaseEvent Nat ConnectionUse)
  | some lease, some pool => [.released lease pool]
  | _, _ => []

/-- `redis_node.connection_pool.release(connection)`. -/
def release (s : LoopState) : LoopState :=
  { s with events := s.events ++ releaseOf s.connection s.redisNode }

end LoopState

namespace AttemptOutcome

/-- A step that only matters for what it raises. -/
def raising : Option Exc → LoopM Unit
  | some e => throw e
  | none => pure ()

/-- A step of a connection that is held. -/
def exchange (usage : ConnectionUse) (outcome : Option Exc) : LoopM Unit := do
  modify (·.use [usage])
  raising outcome

/-- The target node of a redirection. -/
def locate (o : AttemptOutcome) : LoopM Unit := do
  let s ← get
  if s.redirection.asking = true then raising o.located
  else if s.redirection.moved = true then do
    raising o.located
    modify fun s => { s with redirection := { s.redirection with moved := false } }
  else pure ()

/-- `get_redis_connection` and `get_connection`. -/
def connect (o : AttemptOutcome) : LoopM Unit :=
  match o.node with
  | .error e => throw e
  | .ok pool => do
    modify fun s => { s with redisNode := some pool }
    raising o.connected
    modify (·.obtain pool)

/-- `ASKING`, where it is due. -/
def ask (o : AttemptOutcome) : LoopM Unit := do
  let s ← get
  whenever (s.redirection.asking = true) do
    exchange .write o.askingWritten
    exchange .read o.askingRead
    modify fun s => { s with redirection := { s.redirection with asking := false } }

/-- The command and its response. -/
def converse (o : AttemptOutcome) : LoopM Unit := do
  exchange .write o.written
  exchange .read o.read
  raising o.callback

/-- The body of the `try` statement. -/
def body (o : AttemptOutcome) : LoopM Unit := do
  locate o
  connect o
  ask o
  converse o

/-- `connection.disconnect()`, if there is one. -/
def disconnect : LoopM Unit := modify (·.use [.disconnect])

/-- The handlers: the loop goes on, or an exception is raised. -/
def handle (o : AttemptOutcome) (e : Exc) : LoopM Unit :=
  if e.isinstance .authenticationError then throw e
  else if e.isinstanceAny [.connectionError, .timeoutError] then do
    disconnect
    raising o.recovery
    throw e
  else if e.isinstance .movedError then do
    raising o.recovery
    modify fun s => { s with redirection := { s.redirection with moved := true } }
  else if e.isinstance .tryAgainError then raising o.recovery
  else if e.isinstance .askError then
    modify fun s => { s with redirection := { s.redirection with asking := true } }
  else if e.isinstance .clusterDownError then do
    raising o.recovery
    throw e
  else if e.isinstance .responseError then throw e
  else if e.isinstance .exception then do
    disconnect
    throw e
  else throw e

/-- The `finally` clause. -/
def giveBack (o : AttemptOutcome) : LoopM Unit := do
  let s ← get
  whenSome s.connection fun _ => do
    modify (·.release)
    raising o.released

/-- One pass of the loop, which returns whether there is a response. -/
def pass (o : AttemptOutcome) : LoopM Bool :=
  ensure
    (recover (do body o; pure true) fun e => do handle o e; pure false)
    (giveBack o)

/-- The loop of `_execute_command`, by the passes that are left and those that were made. -/
def attempts (outcomes : Nat → AttemptOutcome) : Nat → Nat → LoopM Unit
  | 0, _ => throw { cls := .clusterError, args := ["TTL exhausted.".toList] }
  | ttl + 1, made => do
    let answered ← pass (outcomes made)
    if answered = true then pure () else attempts outcomes ttl (made + 1)

/-- `_execute_command` for a command, with `RedisClusterRequestTTL`. -/
def execute (outcomes : Nat → AttemptOutcome) (requestTtl : Nat) : LoopM Unit :=
  attempts outcomes requestTtl 0

/-- What a command does with connections. -/
def record (outcomes : Nat → AttemptOutcome) (requestTtl : Nat) :
    List (LeaseEvent Nat ConnectionUse) :=
  (stateAfter (execute outcomes requestTtl .start)).events

/-! ## How an attempt ends -/

/-- What `get_redis_connection` and `get_connection` raise. -/
def connecting (o : AttemptOutcome) : Option Exc :=
  match o.node with
  | .error e => some e
  | .ok _ => o.connected

/-- What is raised before a connection is obtained. -/
def obtaining (o : AttemptOutcome) (r : Redirection) : Option Exc :=
  (if r.asking || r.moved then o.located else none).or o.connecting

/-- The pass obtains a connection. -/
def obtains (o : AttemptOutcome) (r : Redirection) : Bool := (o.obtaining r).isNone

/-- What is raised afterwards. -/
def conversing (o : AttemptOutcome) (asking : Bool) : Option Exc :=
  (if asking then o.askingWritten.or o.askingRead else none).or
    (o.written.or (o.read.or o.callback))

/-- What the body raises. -/
def failure (o : AttemptOutcome) (r : Redirection) : Option Exc :=
  (o.obtaining r).or (o.conversing r.asking)

/-- The redirection once the node of a `MovedError` was found. -/
def afterLocate (o : AttemptOutcome) (r : Redirection) : Redirection :=
  { r with moved := r.moved && (r.asking || o.located.isSome) }

/-- The redirection when the body ends. -/
def afterBody (o : AttemptOutcome) (r : Redirection) : Redirection :=
  let located := o.afterLocate r
  if (o.obtaining r).isNone && (o.askingWritten.or o.askingRead).isNone then
    { located with asking := false }
  else located

/-- The redirection that a handler leaves to the next pass, if there is one. -/
def handled (o : AttemptOutcome) (e : Exc) (r : Redirection) : Option Redirection :=
  if e.isinstance .authenticationError then none
  else if e.isinstanceAny [.connectionError, .timeoutError] then none
  else if e.isinstance .movedError then
    if o.recovery.isNone then some { r with moved := true } else none
  else if e.isinstance .tryAgainError then if o.recovery.isNone then some r else none
  else if e.isinstance .askError then some { r with asking := true }
  else none

/-- The redirection in the next pass, if there is one; `holding` is whether a connection is
released at the end of this one. -/
def next (o : AttemptOutcome) (holding : Bool) (r : Redirection) : Option Redirection :=
  if holding && o.released.isSome then none
  else (o.failure r).bind fun e => o.handled e (o.afterBody r)

/-- From the first pass that obtains a connection on, every pass that is made obtains one. -/
def Renewed (outcomes : Nat → AttemptOutcome) : Nat → Nat → Bool → Redirection → Prop
  | 0, _, _, _ => True
  | ttl + 1, made, holding, r =>
    (holding = true → (outcomes made).obtains r = true) ∧
      match (outcomes made).next (holding || (outcomes made).obtains r) r with
      | none => True
      | some after => Renewed outcomes ttl (made + 1) (holding || (outcomes made).obtains r) after

end AttemptOutcome

/-! ## What a pass does -/

namespace LoopState

variable {s : LoopState}

/-- The redirection is noted. -/
def redirect (r : Redirection) (s : LoopState) : LoopState := { s with redirection := r }

/-- Nothing is used. -/
@[simp]
theorem use_nil : s.use [] = s := by
  have none : usesOf s.connection [] = [] := by cases s.connection <;> rfl
  unfold use
  rw [none, List.append_nil]

/-- Without a connection nothing is released. -/
theorem release_of_none (missing : s.connection = none) : s.release = s := by
  have none : releaseOf s.connection s.redisNode = [] := by rw [missing]; rfl
  unfold release
  rw [none, List.append_nil]

/-- One use after another. -/
theorem use_use (first second : List ConnectionUse) :
    (s.use first).use second = s.use (first ++ second) := by
  have both : usesOf s.connection first ++ usesOf s.connection second =
      usesOf s.connection (first ++ second) := by
    cases s.connection with
    | none => rfl
    | some lease => exact List.map_append.symm
  unfold use
  rw [← both, List.append_assoc]

end LoopState

namespace AttemptOutcome

variable {o : AttemptOutcome} {s t u : LoopState}

/-- The end of a step. -/
def ended (outcome : Option Exc) (s : LoopState) : EStateM.Result Exc LoopState Unit :=
  match outcome with
  | some e => .error e s
  | none => .ok () s

/-- The first exception of two steps. -/
theorem bind_ended {first : LoopM Unit} (second : Unit → LoopM Unit) {one two : Option Exc}
    (ran : first s = ended one t) (next : one = none → second () t = ended two u) :
    (first >>= second) s = ended (one.or two) (if one.isNone then u else t) := by
  cases one with
  | some e => exact Interruptible.bind_of_error ran
  | none =>
    rw [Interruptible.bind_of_ok ran]
    exact next rfl

/-- A step that only matters for what it raises. -/
theorem raising_eq (outcome : Option Exc) : raising outcome s = ended outcome s := by
  cases outcome <;> rfl

/-- A step of a connection. -/
theorem exchange_eq (usage : ConnectionUse) (outcome : Option Exc) :
    exchange usage outcome s = ended outcome (s.use [usage]) :=
  raising_eq outcome

/-- A write and a read. -/
theorem exchanges_spec (written read : Option Exc) :
    ∃ usages, (exchange .write written >>= fun _ => exchange .read read) s =
      ended (written.or read) (s.use usages) := by
  have ran := bind_ended (fun _ => exchange .read read) (exchange_eq .write written (s := s))
    fun _ => exchange_eq .read read
  rw [ran]
  cases written with
  | some e => exact ⟨_, rfl⟩
  | none => exact ⟨_, congrArg (ended read) (LoopState.use_use _ _)⟩

/-- The command and its response. -/
theorem converse_spec :
    ∃ usages, converse o s = ended (o.written.or (o.read.or o.callback)) (s.use usages) := by
  obtain ⟨usages, exchanged⟩ := exchanges_spec o.written o.read (s := s)
  have ran := bind_ended (fun _ => raising o.callback) exchanged
    fun _ => raising_eq o.callback
  have same : converse o s =
      ((exchange .write o.written >>= fun _ => exchange .read o.read) >>= fun _ =>
        raising o.callback) s := by
    rw [bind_assoc]
    rfl
  refine ⟨usages, ?_⟩
  rw [same, ran, Option.or_assoc, ite_self]

/-- `ASKING`, where it is due. -/
theorem ask_spec :
    ∃ usages, ask o s =
      ended (if s.redirection.asking then o.askingWritten.or o.askingRead else none)
        ((s.use usages).redirect
          (if (o.askingWritten.or o.askingRead).isNone then
            { s.redirection with asking := false } else s.redirection)) := by
  have looked : (get : LoopM LoopState) s = .ok s s := rfl
  unfold ask
  rw [Interruptible.bind_of_ok looked]
  by_cases asking : s.redirection.asking = true
  · obtain ⟨usages, exchanged⟩ := exchanges_spec o.askingWritten o.askingRead (s := s)
    have ran := bind_ended (fun _ => modify fun s =>
      { s with redirection := { s.redirection with asking := false } }) exchanged
      fun _ => (rfl : _ = ended none _)
    refine ⟨usages, ?_⟩
    rw [whenever, if_pos asking, if_pos asking, ← bind_assoc, ran, Option.or_none]
    cases (o.askingWritten.or o.askingRead) <;> rfl
  · have same : s.redirection.asking = false := Bool.eq_false_iff.mpr asking
    refine ⟨[], ?_⟩
    rw [whenever, if_neg asking, if_neg asking]
    have off : ({ s.redirection with asking := false } : Redirection) = s.redirection := by
      rw [← same]
    rw [off, ite_self, LoopState.use_nil]
    rfl

/-- The target node of a redirection. -/
theorem locate_eq :
    locate o s = ended (if s.redirection.asking || s.redirection.moved then o.located else none)
      (s.redirect (o.afterLocate s.redirection)) := by
  have looked : (get : LoopM LoopState) s = .ok s s := rfl
  unfold locate
  rw [Interruptible.bind_of_ok looked]
  rcases s with ⟨node, connection, ⟨asking, moved⟩, obtained, events⟩
  cases asking <;> cases moved <;> cases located : o.located <;>
    simp [located, afterLocate, LoopState.redirect, raising, ended] <;> rfl

/-- A connection was obtained, or nothing was done. -/
structure Begun (o : AttemptOutcome) (s t : LoopState) : Prop where
  /-- There is a new connection. -/
  obtains : o.obtaining s.redirection = none → ∃ pool,
    t.redisNode = some pool ∧ t.connection = some s.obtained ∧ t.obtained = s.obtained + 1 ∧
      t.events = s.events ++ [.acquired s.obtained pool]
  /-- The local variable keeps what it had. -/
  fails : o.obtaining s.redirection ≠ none → t.connection = s.connection ∧
    t.obtained = s.obtained ∧ t.events = s.events
  /-- There is a node. -/
  node : s.redisNode.isSome = true → t.redisNode.isSome = true

/-- `get_redis_connection` and `get_connection`. -/
theorem connect_spec :
    ∃ t, connect o s = ended o.connecting t ∧ t.redirection = s.redirection ∧
      (s.redisNode.isSome = true → t.redisNode.isSome = true) ∧
      (o.connecting = none → ∃ pool, t = s.obtain pool) ∧
      (o.connecting ≠ none → t.connection = s.connection ∧ t.obtained = s.obtained ∧
        t.events = s.events) := by
  unfold connect connecting
  cases node : o.node with
  | error e =>
    refine ⟨s, rfl, rfl, fun kept => kept, fun missing => ?_, fun _ => ⟨rfl, rfl, rfl⟩⟩
    cases missing
  | ok pool =>
    simp only
    cases connected : o.connected with
    | none =>
      refine ⟨s.obtain pool, rfl, rfl, fun _ => rfl, fun _ => ⟨pool, rfl⟩, fun raised => ?_⟩
      exact absurd rfl raised
    | some e =>
      refine ⟨{ s with redisNode := some pool }, rfl, rfl, fun _ => rfl, fun missing => ?_,
        fun _ => ⟨rfl, rfl, rfl⟩⟩
      cases missing

/-- A connection of the target node. -/
theorem begin_spec :
    ∃ t, Begun o s t ∧ t.redirection = o.afterLocate s.redirection ∧
      (locate o >>= fun _ => connect o) s = ended (o.obtaining s.redirection) t := by
  have found : o.obtaining s.redirection =
      (if s.redirection.asking || s.redirection.moved then o.located else none).or o.connecting :=
    rfl
  have located := locate_eq (o := o) (s := s)
  generalize (if s.redirection.asking || s.redirection.moved then o.located else none) = raised
    at found located
  cases raised with
  | some e =>
    refine ⟨s.redirect (o.afterLocate s.redirection), ?_, rfl, ?_⟩
    · exact {
        obtains := fun none => by rw [found] at none; cases none
        fails := fun _ => ⟨rfl, rfl, rfl⟩
        node := id }
    · rw [found]
      exact Interruptible.bind_of_error located
  | none =>
    rw [Option.none_or] at found
    obtain ⟨t, ran, kept, node, obtains, fails⟩ :=
      connect_spec (o := o) (s := s.redirect (o.afterLocate s.redirection))
    refine ⟨t, ?_, kept, ?_⟩
    · exact {
        obtains := fun none => by
          obtain ⟨pool, rfl⟩ := obtains (found ▸ none)
          exact ⟨pool, rfl, rfl, rfl, rfl⟩
        fails := fun some => fails (found ▸ some)
        node := node }
    · rw [Interruptible.bind_of_ok located, found]
      exact ran

/-- The body obtains a connection, if it gets that far, and only uses it. -/
theorem body_spec :
    ∃ t usages, Begun o s t ∧ body o s =
      ended (o.failure s.redirection) ((t.use usages).redirect (o.afterBody s.redirection)) := by
  obtain ⟨t, begun, redirected, began⟩ := begin_spec (o := o) (s := s)
  have whole : body o s =
      ((locate o >>= fun _ => connect o) >>= fun _ => ask o >>= fun _ => converse o) s := by
    rw [bind_assoc]
    rfl
  rw [whole]
  unfold failure
  cases obtaining : o.obtaining s.redirection with
  | some e =>
    have left : o.afterBody s.redirection = t.redirection := by
      unfold afterBody
      rw [obtaining, redirected]
      rfl
    rw [obtaining] at began
    rw [Interruptible.bind_of_error began, left]
    exact ⟨t, [], begun, by rw [LoopState.use_nil]; rfl⟩
  | none =>
    rw [obtaining] at began
    obtain ⟨asked, asking⟩ := ask_spec (o := o) (s := t)
    have same : t.redirection.asking = s.redirection.asking := by rw [redirected]; rfl
    have left : (if (o.askingWritten.or o.askingRead).isNone then
          { t.redirection with asking := false } else t.redirection) =
        o.afterBody s.redirection := by
      unfold afterBody
      rw [obtaining, redirected]
      rfl
    rw [same, left] at asking
    obtain ⟨used, conversing⟩ := converse_spec (o := o)
      (s := (t.use asked).redirect (o.afterBody s.redirection))
    have found : o.conversing s.redirection.asking =
        (if s.redirection.asking then o.askingWritten.or o.askingRead else none).or
          (o.written.or (o.read.or o.callback)) := rfl
    rw [Interruptible.bind_of_ok began, bind_ended _ asking fun _ => conversing, Option.none_or,
      found]
    cases (if s.redirection.asking then o.askingWritten.or o.askingRead else none) with
    | some e => exact ⟨t, asked, begun, rfl⟩
    | none =>
      have both : ((t.use asked).redirect (o.afterBody s.redirection)).use used =
          (t.use (asked ++ used)).redirect (o.afterBody s.redirection) := by
        rw [← LoopState.use_use]
        rfl
      exact ⟨t, asked ++ used, begun, congrArg (ended _) both⟩

/-- A step before an exception. -/
theorem raises_before (outcome : Option Exc) (e : Exc) :
    ∃ raised, (raising outcome >>= fun _ => (throw e : LoopM Unit)) s = .error raised s := by
  cases outcome with
  | some other => exact ⟨other, rfl⟩
  | none => exact ⟨e, rfl⟩

/-- The handlers note a redirection, or raise, where they may disconnect before. -/
theorem handle_spec (e : Exc) :
    (∀ r, o.handled e s.redirection = some r → handle o e s = .ok () (s.redirect r)) ∧
    (o.handled e s.redirection = none →
      ∃ usages raised, handle o e s = .error raised (s.use usages)) := by
  have quietly (raised : Exc) : ∃ usages other,
      (.error raised s : EStateM.Result Exc LoopState Unit) = .error other (s.use usages) :=
    ⟨[], raised, by rw [LoopState.use_nil]⟩
  have before (outcome : Option Exc) : ∃ usages other,
      (raising outcome >>= fun _ => (throw e : LoopM Unit)) s = .error other (s.use usages) := by
    obtain ⟨raised, ran⟩ := raises_before outcome e (s := s)
    rw [ran]
    exact quietly raised
  unfold handled handle
  by_cases auth : e.isinstance .authenticationError = true
  · rw [if_pos auth, if_pos auth]
    exact ⟨fun r none => (by cases none), fun _ => quietly e⟩
  rw [if_neg auth, if_neg auth]
  by_cases connection : e.isinstanceAny [.connectionError, .timeoutError] = true
  · rw [if_pos connection, if_pos connection]
    refine ⟨fun r none => (by cases none), fun _ => ?_⟩
    obtain ⟨raised, ran⟩ := raises_before o.recovery e (s := s.use [.disconnect])
    exact ⟨[.disconnect], raised, ran⟩
  rw [if_neg connection, if_neg connection]
  by_cases moved : e.isinstance .movedError = true
  · rw [if_pos moved, if_pos moved]
    cases recovery : o.recovery with
    | none =>
      refine ⟨fun r on => ?_, fun off => (by cases off)⟩
      cases on
      rfl
    | some e =>
      exact ⟨fun r none => (by cases none), fun _ => quietly e⟩
  rw [if_neg moved, if_neg moved]
  by_cases again : e.isinstance .tryAgainError = true
  · rw [if_pos again, if_pos again]
    cases recovery : o.recovery with
    | none =>
      refine ⟨fun r on => ?_, fun off => (by cases off)⟩
      cases on
      rfl
    | some e =>
      exact ⟨fun r none => (by cases none), fun _ => quietly e⟩
  rw [if_neg again, if_neg again]
  by_cases ask : e.isinstance .askError = true
  · rw [if_pos ask, if_pos ask]
    refine ⟨fun r on => ?_, fun off => (by cases off)⟩
    cases on
    rfl
  rw [if_neg ask, if_neg ask]
  refine ⟨fun r none => (by cases none), fun _ => ?_⟩
  by_cases down : e.isinstance .clusterDownError = true
  · rw [if_pos down]
    exact before o.recovery
  rw [if_neg down]
  by_cases response : e.isinstance .responseError = true
  · rw [if_pos response]
    exact quietly e
  rw [if_neg response]
  by_cases ordinary : e.isinstance .exception = true
  · rw [if_pos ordinary]
    exact ⟨[.disconnect], e, rfl⟩
  rw [if_neg ordinary]
  exact quietly e

/-- The body and its handlers. -/
def tried (o : AttemptOutcome) : LoopM Bool :=
  recover (do body o; pure true) fun e => do handle o e; pure false

/-- How a pass ends before the connection is released: there is a response, or the redirection of
the next pass is noted, or an exception is raised. -/
theorem tried_spec :
    ∃ t usages, Begun o s t ∧
      match (o.failure s.redirection).bind fun e => o.handled e (o.afterBody s.redirection) with
      | some r => tried o s = .ok false ((t.use usages).redirect r)
      | none => ∃ r, tried o s = .ok true ((t.use usages).redirect r) ∨
          ∃ e, tried o s = .error e ((t.use usages).redirect r) := by
  obtain ⟨t, usages, begun, ran⟩ := body_spec (o := o) (s := s)
  unfold tried recover
  cases failure : o.failure s.redirection with
  | none =>
    rw [failure] at ran
    rw [Interruptible.bind_of_ok ran]
    exact ⟨t, usages, begun, _, .inl rfl⟩
  | some e =>
    rw [failure] at ran
    rw [Interruptible.bind_of_error ran]
    obtain ⟨goes, stops⟩ := handle_spec (o := o) e
      (s := (t.use usages).redirect (o.afterBody s.redirection))
    show ∃ t usages, Begun o s t ∧ match o.handled e (o.afterBody s.redirection) with
      | some r => _
      | none => _
    cases handled : o.handled e (o.afterBody s.redirection) with
    | some r =>
      refine ⟨t, usages, begun, ?_⟩
      simp only
      rw [Interruptible.bind_of_ok (goes r handled)]
      rfl
    | none =>
      obtain ⟨more, raised, last⟩ := stops handled
      refine ⟨t, usages ++ more, begun, o.afterBody s.redirection, .inr ⟨raised, ?_⟩⟩
      simp only
      rw [Interruptible.bind_of_error last, ← LoopState.use_use]
      rfl

/-- The `finally` clause releases what the local variable holds. -/
theorem giveBack_eq :
    giveBack o s = ended (if s.connection.isSome then o.released else none) s.release := by
  have looked : (get : LoopM LoopState) s = .ok s s := rfl
  unfold giveBack
  rw [Interruptible.bind_of_ok looked]
  cases held : s.connection with
  | none =>
    rw [LoopState.release_of_none held]
    rfl
  | some lease => exact raising_eq o.released

/-- A pass: what was obtained is used, and what is held is released. -/
theorem pass_spec :
    ∃ t usages r, Begun o s t ∧
      stateAfter (pass o s) = ((t.use usages).redirect r).release ∧
      match o.next t.connection.isSome s.redirection with
      | some other => other = r ∧ pass o s = .ok false ((t.use usages).redirect r).release
      | none => ∀ u, pass o s ≠ .ok false u := by
  obtain ⟨t, usages, begun, ends⟩ := tried_spec (o := o) (s := s)
  have back (r : Redirection) := giveBack_eq (o := o) (s := (t.use usages).redirect r)
  have whole : pass o s = ensure (tried o) (giveBack o) s := rfl
  have listened : (t.connection.isSome && o.released.isSome) =
      (if t.connection.isSome then o.released else none).isSome := by
    cases t.connection <;> rfl
  have held (r : Redirection) : ((t.use usages).redirect r).connection = t.connection := rfl
  simp only [held] at back
  rw [whole]
  unfold ensure next
  cases following :
    (o.failure s.redirection).bind fun e => o.handled e (o.afterBody s.redirection) with
  | some r =>
    rw [following] at ends
    simp only at ends
    refine ⟨t, usages, r, begun, ?_⟩
    rw [listened]
    generalize (if t.connection.isSome then o.released else none) = raised at back
    simp only [ends, back]
    cases raised with
    | none => exact ⟨rfl, rfl, rfl⟩
    | some e => exact ⟨rfl, fun u same => by cases same⟩
  | none =>
    rw [following] at ends
    obtain ⟨r, ends⟩ := ends
    refine ⟨t, usages, r, begun, ?_⟩
    rw [ite_self]
    generalize (if t.connection.isSome then o.released else none) = raised at back
    rcases ends with answered | ⟨e, failed⟩
    · simp only [answered, back]
      cases raised with
      | none => exact ⟨rfl, fun u same => by cases same⟩
      | some e => exact ⟨rfl, fun u same => by cases same⟩
    · simp only [failed, back]
      cases raised with
      | none => exact ⟨rfl, fun u same => by cases same⟩
      | some e => exact ⟨rfl, fun u same => by cases same⟩

/-- The rest of the loop, when a pass does not end it. -/
theorem attempts_of_next {outcomes : Nat → AttemptOutcome} {ttl made : Nat}
    (passed : pass (outcomes made) s = .ok false t) :
    attempts outcomes (ttl + 1) made s = attempts outcomes ttl (made + 1) t := by
  rw [attempts, Interruptible.bind_of_ok passed]
  rfl

/-- The loop ends with a pass. -/
theorem attempts_of_end {outcomes : Nat → AttemptOutcome} {ttl made : Nat}
    (passed : ∀ u, pass (outcomes made) s ≠ .ok false u) :
    stateAfter (attempts outcomes (ttl + 1) made s) = stateAfter (pass (outcomes made) s) := by
  unfold attempts
  cases ran : pass (outcomes made) s with
  | error e u =>
    rw [Interruptible.bind_of_error ran]
    rfl
  | ok answered u =>
    rw [Interruptible.bind_of_ok ran]
    cases answered with
    | true => rfl
    | false => exact absurd ran (passed u)

/-! ## Every lease is owned once -/

/-- What is in the record so far, and the connection that was released last. -/
structure Tidy (s : LoopState) : Prop where
  /-- So far every lease is owned once. -/
  owned : OwnedOnce s.events
  /-- The leases are numbered. -/
  below : Below s.obtained s.events
  /-- The local variable holds a connection that was released. -/
  stale : ∀ lease, s.connection = some lease →
    s.redisNode.isSome = true ∧ ∃ pool, .released lease pool ∈ s.events

/-- Before the first attempt. -/
theorem Tidy.start : Tidy .start where
  owned := .nil
  below _ member := absurd member List.not_mem_nil
  stale _ held := by cases held

/-- A record goes on. -/
def Extends (base : List (LeaseEvent Nat ConnectionUse)) (s : LoopState) : Prop :=
  ∃ more, s.events = base ++ more

/-- A pass adds to the record. -/
theorem extends_pass {base : List (LeaseEvent Nat ConnectionUse)} (start : Extends base s) :
    Extends base (stateAfter (pass o s)) := by
  obtain ⟨t, usages, r, begun, ends, -⟩ := pass_spec (o := o) (s := s)
  obtain ⟨more, same⟩ := start
  have added : (stateAfter (pass o s)).events = t.events ++ LoopState.usesOf t.connection usages ++
      LoopState.releaseOf t.connection t.redisNode := by
    rw [ends]
    rfl
  rw [Extends, added]
  by_cases obtaining : o.obtaining s.redirection = none
  · obtain ⟨pool, -, -, -, events⟩ := begun.obtains obtaining
    rw [events, same]
    simp only [List.append_assoc]
    exact ⟨_, rfl⟩
  · obtain ⟨-, -, events⟩ := begun.fails obtaining
    rw [events, same]
    simp only [List.append_assoc]
    exact ⟨_, rfl⟩

/-- The loop adds to the record. -/
theorem extends_attempts {base : List (LeaseEvent Nat ConnectionUse)}
    (outcomes : Nat → AttemptOutcome) (ttl made : Nat) (start : Extends base s) :
    Extends base (stateAfter (attempts outcomes ttl made s)) := by
  induction ttl generalizing s made with
  | zero => exact start
  | succ ttl ih =>
    have passed := extends_pass (o := outcomes made) start
    by_cases goes : ∃ u, pass (outcomes made) s = .ok false u
    · obtain ⟨u, ran⟩ := goes
      rw [ran] at passed
      rw [attempts_of_next ran]
      exact ih (made + 1) passed
    · rw [attempts_of_end fun u ran => goes ⟨u, ran⟩]
      exact passed

/-- A pass that obtains a connection leaves everything tidy. -/
theorem Begun.tidy_of_obtains (begun : Begun o s t) (tidy : Tidy s)
    (obtaining : o.obtaining s.redirection = none) (usages : List ConnectionUse) (r : Redirection) :
    t.connection.isSome = true ∧ Tidy ((t.use usages).redirect r).release := by
  obtain ⟨pool, node, held, count, events⟩ := begun.obtains obtaining
  have record : ((t.use usages).redirect r).release.events =
      s.events ++ episode s.obtained pool usages := by
    show t.events ++ LoopState.usesOf t.connection usages ++
      LoopState.releaseOf t.connection t.redisNode = _
    rw [events, held, node]
    simp only [LoopState.usesOf, LoopState.releaseOf, episode, List.append_assoc, List.cons_append,
      List.nil_append]
  refine ⟨by rw [held]; rfl, ?_⟩
  exact {
    owned := by
      rw [record]
      exact tidy.owned.append_episode tidy.below usages
    below := by
      rw [record]
      show Below t.obtained _
      rw [count]
      exact tidy.below.append_episode usages
    stale := fun lease same => by
      have kept : t.connection = some lease := same
      rw [held] at kept
      cases kept
      refine ⟨(congrArg Option.isSome node).trans rfl, pool, ?_⟩
      rw [record]
      refine List.mem_append_right _ ?_
      exact List.mem_append_right _ List.mem_cons_self }

/-- A pass without any connection leaves everything tidy. -/
theorem Begun.tidy_of_none (begun : Begun o s t) (tidy : Tidy s) (missing : s.connection = none)
    (obtaining : o.obtaining s.redirection ≠ none) (usages : List ConnectionUse) (r : Redirection) :
    t.connection = none ∧ Tidy ((t.use usages).redirect r).release := by
  obtain ⟨held, count, events⟩ := begun.fails obtaining
  have none : t.connection = none := held.trans missing
  have record : ((t.use usages).redirect r).release.events = s.events := by
    show t.events ++ LoopState.usesOf t.connection usages ++
      LoopState.releaseOf t.connection t.redisNode = _
    rw [none, events]
    simp only [LoopState.usesOf, LoopState.releaseOf, List.append_nil]
  refine ⟨none, ?_⟩
  exact {
    owned := by
      rw [record]
      exact tidy.owned
    below := by
      rw [record]
      show Below t.obtained _
      rw [count]
      exact tidy.below
    stale := fun lease same => by
      have kept : t.connection = some lease := same
      rw [none] at kept
      cases kept }

/-- A pass that keeps a released connection touches it again. -/
theorem Begun.touches (begun : Begun o s t) (tidy : Tidy s) {lease : Nat}
    (held : s.connection = some lease) (obtaining : o.obtaining s.redirection ≠ none)
    (usages : List ConnectionUse) (r : Redirection) :
    ∃ event later, event.lease = lease ∧
      ((t.use usages).redirect r).release.events = s.events ++ event :: later := by
  obtain ⟨kept, -, events⟩ := begun.fails obtaining
  have some : t.connection = some lease := kept.trans held
  obtain ⟨pool, node⟩ := Option.isSome_iff_exists.mp (begun.node (tidy.stale lease held).1)
  have record : ((t.use usages).redirect r).release.events =
      s.events ++ (usages.map (.used lease) ++ [.released lease pool]) := by
    show t.events ++ LoopState.usesOf t.connection usages ++
      LoopState.releaseOf t.connection t.redisNode = _
    rw [some, node, events, List.append_assoc]
    rfl
  cases usages with
  | nil => exact ⟨.released lease pool, [], rfl, record⟩
  | cons usage usages =>
    rw [List.map_cons, List.cons_append] at record
    exact ⟨.used lease usage, usages.map (.used lease) ++ [.released lease pool], rfl, record⟩

/-- From any pass on, every lease is owned once if and only if the connections are renewed. -/
theorem ownedOnce_attempts_iff (outcomes : Nat → AttemptOutcome) (ttl made : Nat) (tidy : Tidy s) :
    OwnedOnce (stateAfter (attempts outcomes ttl made s)).events ↔
      Renewed outcomes ttl made s.connection.isSome s.redirection := by
  induction ttl generalizing s made with
  | zero => exact iff_of_true tidy.owned trivial
  | succ ttl ih =>
    obtain ⟨t, usages, r, begun, after, following⟩ := pass_spec (o := outcomes made) (s := s)
    -- the passes after one that leaves everything tidy
    have rest (left : Tidy ((t.use usages).redirect r).release) :
        OwnedOnce (stateAfter (attempts outcomes (ttl + 1) made s)).events ↔
          match (outcomes made).next t.connection.isSome s.redirection with
          | none => True
          | some r => Renewed outcomes ttl (made + 1) t.connection.isSome r := by
      cases on : (outcomes made).next t.connection.isSome s.redirection with
      | none =>
        rw [on] at following
        rw [attempts_of_end following, after]
        exact iff_of_true left.owned trivial
      | some other =>
        rw [on] at following
        obtain ⟨rfl, passed⟩ := following
        rw [attempts_of_next passed]
        exact ih (made + 1) left
    unfold Renewed
    by_cases obtaining : (outcomes made).obtaining s.redirection = none
    · obtain ⟨held, left⟩ := begun.tidy_of_obtains tidy obtaining usages r
      have obtains : (outcomes made).obtains s.redirection = true :=
        Option.isNone_iff_eq_none.mpr obtaining
      rw [rest left, held, obtains, Bool.or_true]
      exact (and_iff_right fun _ => rfl).symm
    · have raised : (outcomes made).obtains s.redirection = false :=
        Option.isNone_eq_false_iff.mpr (Option.isSome_iff_ne_none.mpr obtaining)
      rw [raised, Bool.or_false]
      cases held : s.connection with
      | none =>
        obtain ⟨missing, left⟩ := begun.tidy_of_none tidy held obtaining usages r
        rw [rest left, missing]
        exact (and_iff_right fun holding => by cases holding).symm
      | some lease =>
        obtain ⟨event, later, same, touched⟩ := begun.touches tidy held obtaining usages r
        obtain ⟨pool, released⟩ := (tidy.stale lease held).2
        have extends' : Extends (s.events ++ event :: later)
            (stateAfter (attempts outcomes (ttl + 1) made s)) := by
          have passed :
              Extends (s.events ++ event :: later) (stateAfter (pass (outcomes made) s)) := by
            rw [after]
            exact ⟨[], by rw [touched, List.append_nil]⟩
          by_cases goes : ∃ u, pass (outcomes made) s = .ok false u
          · obtain ⟨u, ran⟩ := goes
            rw [ran] at passed
            rw [attempts_of_next ran]
            exact extends_attempts outcomes ttl (made + 1) passed
          · rw [attempts_of_end fun u ran => goes ⟨u, ran⟩]
            exact passed
        obtain ⟨more, record⟩ := extends'
        have broken : ¬OwnedOnce (stateAfter (attempts outcomes (ttl + 1) made s)).events := by
          rw [record, List.append_assoc, List.cons_append]
          exact not_ownedOnce_of_touched released event same _
        refine iff_of_false broken ?_
        rintro ⟨renewed, -⟩
        cases renewed rfl

/-- Every connection that a command obtains is released once, to the pool it came from, and not
touched afterwards, if and only if, once a pass has obtained a connection, every later pass obtains
one of its own. -/
theorem ownedOnce_record_iff (outcomes : Nat → AttemptOutcome) (requestTtl : Nat) :
    OwnedOnce (record outcomes requestTtl) ↔
      Renewed outcomes requestTtl 0 false { asking := false, moved := false } :=
  ownedOnce_attempts_iff outcomes requestTtl 0 .start

/-- A pass that meets nothing but this reply. -/
def replying (read : Option Exc) : AttemptOutcome where
  located := none
  node := .ok 0
  connected := none
  askingWritten := none
  askingRead := none
  written := none
  read := read
  callback := none
  recovery := none
  released := none

/-- A `MovedError` in the first pass, after which the pool of another node has no connection. -/
def movedToFull : Nat → AttemptOutcome
  | 0 => replying (some { cls := .movedError })
  | _ => { replying none with
      node := .ok 1
      connected := some { cls := .maxConnectionsError } }

/-- After a redirection to a node whose pool is exhausted, the connection that was released to the
first node is disconnected and released to the second. -/
theorem record_movedToFull_not_ownedOnce :
    record movedToFull 16 = [.acquired 0 0, .used 0 .write, .used 0 .read, .released 0 0,
        .used 0 .disconnect, .released 0 1] ∧
      ¬OwnedOnce (record movedToFull 16) := by
  have run : record movedToFull 16 = [.acquired 0 0, .used 0 .write, .used 0 .read, .released 0 0,
      .used 0 .disconnect, .released 0 1] := by decide +kernel
  refine ⟨run, ?_⟩
  rw [run]
  have released : (.released 0 0 : LeaseEvent Nat ConnectionUse) ∈
      [.acquired 0 0, .used 0 .write, .used 0 .read, .released 0 0] := by decide
  exact not_ownedOnce_of_touched released (.used 0 .disconnect) rfl [.released 0 1]

end AttemptOutcome

end RedisPy

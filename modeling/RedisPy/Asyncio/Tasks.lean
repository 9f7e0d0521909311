import RedisPy.Exceptions
import RedisPy.Lib.Places
import Mathlib.Data.Finset.Card

/-!
# Tasks that share an asyncio pool

Calls of `get_connection`, `release`, `disconnect` and `re_auth_callback` on a `ConnectionPool` or
a `BlockingConnectionPool`, in any order in which the event loop may resume them. A call is at one
of its suspension points, and an action resumes it, cancels it or lets its timer go off. What
happens between two suspension points is one step.

A `ConnectionPool` holds its `_lock` from the moment a connection is taken until it is returned or
given back; `release` takes no lock. A `BlockingConnectionPool` takes and gives back connections
under the lock of its `_condition`, and connects them outside.
-/

namespace RedisPy

open Places

/-- The class of an asyncio pool. -/
inductive TaskPoolKind where
  /-- `ConnectionPool`. -/
  | standard
  /-- `BlockingConnectionPool`. -/
  | blocking
deriving DecidableEq

/-- Where a call is suspended. -/
inductive PoolCall where
  /-- The call is over, or has not begun. -/
  | idle
  /-- `get_connection` acquires the lock. -/
  | entering
  /-- `get_connection` waits in the queue of the condition. -/
  | waiting
  /-- `get_connection` was woken and acquires the lock of the condition again; it was woken by a
  notification, or its wait was interrupted. -/
  | woken (interrupted : Bool)
  /-- `get_connection` awaits `ensure_connection`. -/
  | ensuring (c : Nat)
  /-- `get_connection` failed, or was cancelled, and its `release` acquires the lock. -/
  | cleaning (c : Nat) (cancelled : Bool)
  /-- `release` acquires the lock. -/
  | releasing (c : Nat)
  /-- `release` awaits the dispatched event, which authenticates the connection again; the release
  may be that of a failed `get_connection`. -/
  | dispatching (c : Nat) (failing : Bool)
  /-- `disconnect` awaits the connections. -/
  | disconnecting
  /-- `re_auth_callback` acquires `_lock`. -/
  | listening
  /-- `re_auth_callback` authenticates the idle connection at a position. -/
  | authenticating (c : Nat) (position : Nat)
deriving DecidableEq

namespace PoolCall

/-- The call is inside `async with self._lock`. -/
def inLock (kind : TaskPoolKind) : PoolCall → Bool
  | .ensuring _ => kind = .standard
  | .dispatching _ failing => kind = .standard && failing
  | .authenticating _ _ => true
  | _ => false

/-- The call is inside `async with self._condition`. -/
def inCondition (kind : TaskPoolKind) : PoolCall → Bool
  | .dispatching _ _ => kind = .blocking
  | _ => false

/-- The call waits to be notified. -/
def isWaiting : PoolCall → Bool
  | .waiting => true
  | _ => false

/-- The call was woken. -/
def isWoken : PoolCall → Bool
  | .woken _ => true
  | _ => false

/-- The connection in use that the call has to return or to give back. -/
def owns : PoolCall → Option Nat
  | .ensuring c => some c
  | .cleaning c _ => some c
  | .releasing c => some c
  | _ => none

end PoolCall

/-- A pool with its tasks; connections are numbered in the order they are made. -/
structure TaskPool where
  /-- The class. -/
  kind : TaskPoolKind
  /-- `max_connections`. -/
  maxConnections : Nat
  /-- `_available_connections`; the last one is popped. -/
  available : List Nat
  /-- `_in_use_connections`. -/
  inUse : Finset Nat
  /-- The number of connections made. -/
  made : Nat
  /-- The connections that were returned and whose release has not begun. -/
  held : Finset Nat
  /-- The connections with a `_re_auth_token`. -/
  tokens : Finset Nat
  /-- The call that holds `_lock`. -/
  lock : Option Nat
  /-- The call that holds the lock of `_condition`. -/
  condition : Option Nat
  /-- The queue of the condition, without those who were woken. -/
  waiters : List Nat
  /-- The calls that were woken. -/
  woken : List Nat
  /-- The calls. -/
  calls : Nat → PoolCall

/-- How a call of `get_connection` ends. -/
inductive PoolOutcome where
  /-- It returns a connection. -/
  | returned (c : Nat)
  /-- It raises, after it had taken a connection or before. -/
  | failed (taken : Option Nat)
deriving DecidableEq

/-- What the event loop does next. -/
inductive PoolAction where
  /-- A task calls `get_connection`. -/
  | getConnection (i : Nat)
  /-- A call of `get_connection` acquires the lock. -/
  | enter (i : Nat)
  /-- A woken call of `get_connection` acquires the lock again. -/
  | reenter (i : Nat)
  /-- `ensure_connection` ends. -/
  | ensured (i : Nat) (success : Bool)
  /-- A task calls `release` with a connection that it holds. -/
  | release (i c : Nat)
  /-- A call of `release` acquires the lock. -/
  | giveBack (i : Nat)
  /-- The dispatched event is handled. -/
  | dispatched (i : Nat) (success : Bool)
  /-- A task calls `disconnect`. -/
  | disconnect (i : Nat)
  /-- The connections are disconnected. -/
  | disconnected (i : Nat)
  /-- The credential listener calls `re_auth_callback`. -/
  | reAuth (i : Nat)
  /-- A call of `re_auth_callback` acquires `_lock`. -/
  | listen (i : Nat)
  /-- A connection answers the `AUTH` of `re_auth_callback`. -/
  | authenticated (i : Nat) (success : Bool)
  /-- A call is cancelled. -/
  | cancel (i : Nat)
  /-- The timer of a waiting `get_connection` goes off. -/
  | timeout (i : Nat)
deriving DecidableEq

namespace TaskPool

/-- A new pool. -/
def new (kind : TaskPoolKind) (maxConnections : Nat) : TaskPool where
  kind := kind
  maxConnections := maxConnections
  available := []
  inUse := ∅
  made := 0
  held := ∅
  tokens := ∅
  lock := none
  condition := none
  waiters := []
  woken := []
  calls _ := .idle

/-- A call goes on to a suspension point, with the locks that are held there. -/
def become (i : Nat) (call : PoolCall) (pool : TaskPool) : TaskPool :=
  { pool with
    calls := Function.update pool.calls i call
    lock := relock (PoolCall.inLock pool.kind) i call pool.lock
    condition := relock (PoolCall.inCondition pool.kind) i call pool.condition }

/-- The lock that `get_connection` acquires. -/
def guard (pool : TaskPool) : Option Nat :=
  match pool.kind with
  | .standard => pool.lock
  | .blocking => pool.condition

/-- `can_get_connection`. -/
def canGetConnection (pool : TaskPool) : Bool :=
  !pool.available.isEmpty || pool.inUse.card < pool.maxConnections

/-- `get_available_connection`. -/
def getAvailableConnection (pool : TaskPool) : Except Exc (Nat × TaskPool) :=
  match pool.available.getLast? with
  | some c =>
    .ok (c, { pool with available := pool.available.dropLast, inUse := insert c pool.inUse })
  | none =>
    if pool.inUse.card ≥ pool.maxConnections then .error { cls := .connectionError }
    else
      .ok (pool.made,
        { pool with inUse := insert pool.made pool.inUse, made := pool.made + 1 })

/-- `_condition.notify`. -/
def notify (pool : TaskPool) : TaskPool :=
  match pool.waiters with
  | [] => pool
  | i :: rest =>
    ({ pool with waiters := rest, woken := pool.woken ++ [i] }).become i (.woken false)

/-! ## `release` -/

/-- `super().release`, up to the event. -/
def putBack (c : Nat) (pool : TaskPool) : TaskPool :=
  { pool with inUse := pool.inUse.erase c, available := pool.available ++ [c] }

/-- The event is handled; a blocking pool notifies if nothing was raised. -/
def handled (c : Nat) (success : Bool) (pool : TaskPool) : TaskPool :=
  let answered := if success then { pool with tokens := pool.tokens.erase c } else pool
  match pool.kind with
  | .standard => answered
  | .blocking => if success then answered.notify else answered

/-- The call ends after the event. -/
def finish (i c : Nat) (failing success : Bool) (pool : TaskPool) :
    TaskPool × Option PoolOutcome :=
  ((pool.handled c success).become i .idle, if failing then some (.failed (some c)) else none)

/-- A connection is given back and the event is dispatched; without a token there is nothing to
await. -/
def dispatch (i c : Nat) (failing : Bool) (pool : TaskPool) : TaskPool × Option PoolOutcome :=
  let begun := (pool.putBack c).become i (.dispatching c failing)
  if c ∈ pool.tokens then (begun, none) else begun.finish i c failing true

/-- `release` is called. -/
def release (i c : Nat) (pool : TaskPool) : TaskPool × Option PoolOutcome :=
  if pool.calls i = .idle ∧ c ∈ pool.held then
    let given := { pool with held := pool.held.erase c }
    match pool.kind with
    | .standard => given.dispatch i c false
    | .blocking => (given.become i (.releasing c), none)
  else (pool, none)

/-- The `release` of a blocking pool has its lock. -/
def giveBack (i : Nat) (pool : TaskPool) : TaskPool × Option PoolOutcome :=
  if pool.kind = .blocking ∧ pool.condition = none then
    match pool.calls i with
    | .cleaning c _ => pool.dispatch i c true
    | .releasing c => pool.dispatch i c false
    | _ => (pool, none)
  else (pool, none)

/-- The awaited event is handled. -/
def dispatched (i : Nat) (success : Bool) (pool : TaskPool) : TaskPool × Option PoolOutcome :=
  match pool.calls i with
  | .dispatching c failing => pool.finish i c failing success
  | _ => (pool, none)

/-! ## `get_connection` -/

/-- A connection is taken. -/
def takeFor (i : Nat) (pool : TaskPool) : TaskPool × Option PoolOutcome :=
  match pool.getAvailableConnection with
  | .error _ => (pool.become i .idle, some (.failed none))
  | .ok (c, taken) => (taken.become i (.ensuring c), none)

/-- `_condition.wait_for`, and a connection is taken. -/
def waitFor (i : Nat) (pool : TaskPool) : TaskPool × Option PoolOutcome :=
  if pool.canGetConnection then pool.takeFor i
  else (({ pool with waiters := pool.waiters ++ [i] }).become i .waiting, none)

/-- `get_connection` has its lock. -/
def enter (i : Nat) (pool : TaskPool) : TaskPool × Option PoolOutcome :=
  if pool.calls i = .entering ∧ pool.guard = none then
    match pool.kind with
    | .standard => pool.takeFor i
    | .blocking => pool.waitFor i
  else (pool, none)

/-- A woken call has the lock again; if its wait was interrupted it raises, and somebody else is
notified. -/
def reenter (i : Nat) (pool : TaskPool) : TaskPool × Option PoolOutcome :=
  match pool.calls i with
  | .woken interrupted =>
    if pool.kind = .blocking ∧ pool.condition = none then
      let left := { pool with woken := pool.woken.erase i }
      if interrupted then ((left.become i .idle).notify, some (.failed none))
      else left.waitFor i
    else (pool, none)
  | _ => (pool, none)

/-- `except BaseException: await self.release(connection)`. -/
def fail (i c : Nat) (cancelled : Bool) (pool : TaskPool) : TaskPool × Option PoolOutcome :=
  match pool.kind with
  | .standard => pool.dispatch i c true
  | .blocking => (pool.become i (.cleaning c cancelled), none)

/-- `ensure_connection` ends. -/
def ensured (i : Nat) (success : Bool) (pool : TaskPool) : TaskPool × Option PoolOutcome :=
  match pool.calls i with
  | .ensuring c =>
    if success then
      (({ pool with held := insert c pool.held }).become i .idle, some (.returned c))
    else pool.fail i c false
  | _ => (pool, none)

/-! ## `re_auth_callback` -/

/-- The next idle connection is authenticated; after the last one, those in use get the token. -/
def authenticateFrom (i position : Nat) (pool : TaskPool) : TaskPool :=
  match pool.available[position]? with
  | some c => pool.become i (.authenticating c position)
  | none => ({ pool with tokens := pool.tokens ∪ pool.inUse }).become i .idle

/-- `re_auth_callback` has its lock. -/
def listen (i : Nat) (pool : TaskPool) : TaskPool :=
  if pool.calls i = .listening ∧ pool.lock = none then pool.authenticateFrom i 0 else pool

/-- An `AUTH` of `re_auth_callback` ends. -/
def authenticated (i : Nat) (success : Bool) (pool : TaskPool) : TaskPool :=
  match pool.calls i with
  | .authenticating _ position =>
    if success then pool.authenticateFrom i (position + 1) else pool.become i .idle
  | _ => pool

/-! ## Interruptions -/

/-- A wait in the queue of the condition is interrupted. -/
def interrupt (i : Nat) (pool : TaskPool) : TaskPool :=
  match pool.calls i with
  | .waiting =>
    ({ pool with waiters := pool.waiters.erase i, woken := pool.woken ++ [i] }).become i
      (.woken true)
  | .woken _ => pool.become i (.woken true)
  | _ => pool

/-- A call is cancelled where it is suspended. -/
def cancel (i : Nat) (pool : TaskPool) : TaskPool × Option PoolOutcome :=
  match pool.calls i with
  | .idle => (pool, none)
  | .entering => (pool.become i .idle, some (.failed none))
  | .waiting => (pool.interrupt i, none)
  | .woken _ => (pool.interrupt i, none)
  | .ensuring c => pool.fail i c true
  -- a call is cancelled once
  | .cleaning _ true => (pool, none)
  | .cleaning c false => (pool.become i .idle, some (.failed (some c)))
  | .releasing _ => (pool.become i .idle, none)
  | .dispatching c failing => pool.finish i c failing false
  | .disconnecting => (pool.become i .idle, none)
  | .listening => (pool.become i .idle, none)
  | .authenticating _ _ => (pool.become i .idle, none)

/-! ## Runs -/

/-- A call begins. -/
def start (i : Nat) (call : PoolCall) (pool : TaskPool) : TaskPool :=
  if pool.calls i = .idle then pool.become i call else pool

/-- What an action does, and how a `get_connection` ends in it. -/
def advance (pool : TaskPool) : PoolAction → TaskPool × Option PoolOutcome
  | .getConnection i => (pool.start i .entering, none)
  | .enter i => pool.enter i
  | .reenter i => pool.reenter i
  | .ensured i success => pool.ensured i success
  | .release i c => pool.release i c
  | .giveBack i => pool.giveBack i
  | .dispatched i success => pool.dispatched i success
  | .disconnect i => (pool.start i .disconnecting, none)
  | .disconnected i =>
    (if pool.calls i = .disconnecting then pool.become i .idle else pool, none)
  | .reAuth i => (pool.start i .listening, none)
  | .listen i => (pool.listen i, none)
  | .authenticated i success => (pool.authenticated i success, none)
  | .cancel i => pool.cancel i
  | .timeout i => (pool.interrupt i, none)

/-- The pool after an action. -/
def step (pool : TaskPool) (action : PoolAction) : TaskPool := (pool.advance action).1

/-- How a `get_connection` ends in an action. -/
def outcome (pool : TaskPool) (action : PoolAction) : Option PoolOutcome := (pool.advance action).2

end TaskPool

end RedisPy

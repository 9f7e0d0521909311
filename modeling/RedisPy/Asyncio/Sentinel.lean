import RedisPy.Asyncio.Accounting
import RedisPy.Pool.ConnectionPool

/-!
# Tasks that share an asyncio pool which keeps to a master

A `SentinelConnectionPool` in master mode is a `ConnectionPool` whose connections ask the sentinels
where to connect to. The step of `connect` that a connection is at is kept beside the pool: it
asks for the master, it waits until the idle connections are disconnected because the answer was
new, and it connects. `get_connection` does this under the lock of the pool; somebody who holds a
connection may do it at any time. A command on a connection without a socket connects it to the
host and port that it has.
-/

namespace RedisPy

/-- Where `connect` of a connection is. -/
inductive Stage where
  /-- Nothing is under way. -/
  | rest
  /-- It awaits `discover_master`. -/
  | asking
  /-- `get_master_address` has a new address and disconnects the idle connections that are left. -/
  | clearing (address : Address) (left : List Nat)
  /-- `connect_to`. -/
  | dialing (address : Address)
  /-- An attempt failed. -/
  | failed
deriving DecidableEq

/-- How `connect_to` ends. -/
inductive Dialed where
  /-- The connection is established. -/
  | established
  /-- There is no connection. -/
  | broken
  /-- There is a connection, but no `PONG`. -/
  | unanswered
deriving DecidableEq

/-- What `ensure_connection` finds on a connection that is connected. -/
inductive Looked where
  /-- There is no data. -/
  | nothing
  /-- There is data, or an error that is handled in the same way. -/
  | data
  /-- There is data, and the connection is disconnected with an error. -/
  | unclosed
  /-- Another error. -/
  | broken
deriving DecidableEq

/-- A sentinel pool in master mode with its tasks. -/
structure SentinelTasks where
  /-- The pool; its class is `ConnectionPool`. -/
  pool : TaskPool
  /-- `master_address`. -/
  masterAddress : Option Address
  /-- `get_master_address` has returned `master_address`. -/
  returned : Bool
  /-- The addresses that the connections are connected to. -/
  connected : Nat → Option Address
  /-- `host` and `port` of the connections. -/
  addresses : Nat → Address
  /-- Where their `connect` is. -/
  stages : Nat → Stage
  /-- `get_connection` took the connection from the idle ones. -/
  fromIdle : Nat → Bool
  /-- `ensure_connection` has found data once. -/
  again : Nat → Bool

/-- What happens next. -/
inductive SentinelAction where
  /-- A task calls `get_connection`. -/
  | getConnection (i : Nat)
  /-- A call of `get_connection` acquires the lock. -/
  | enter (i : Nat)
  /-- A task releases a connection that it holds. -/
  | release (i c : Nat)
  /-- The sentinels report a master address, or none. -/
  | report (c : Nat) (address : Option Address)
  /-- An idle connection is disconnected for the sake of another one, which learned an address. -/
  | close (d c : Nat)
  /-- All idle connections are disconnected. -/
  | cleared (c : Nat) (success : Bool)
  /-- `connect_to` ends. -/
  | dialed (c : Nat) (result : Dialed)
  /-- `call_with_retry` tries once more. -/
  | retry (c : Nat)
  /-- `call_with_retry` gives up, in `get_connection`. -/
  | giveUp (i : Nat)
  /-- `call_with_retry` gives up, for the holder of a connection. -/
  | giveUpHeld (c : Nat)
  /-- `ensure_connection` looks for data. -/
  | looked (i : Nat) (result : Looked)
  /-- The holder of a connection calls `connect`. -/
  | connect (c : Nat)
  /-- The holder of a connection without a socket sends a command. -/
  | send (c : Nat)
  /-- The holder of a connection disconnects it. -/
  | disconnect (c : Nat)
deriving DecidableEq

namespace SentinelTasks

/-- A new pool. -/
def new (maxConnections : Nat) (address : Address) : SentinelTasks where
  pool := .new .standard maxConnections
  masterAddress := none
  returned := false
  connected _ := none
  addresses _ := address
  stages _ := .rest
  fromIdle _ := false
  again _ := false

/-- The `connect` of a connection goes on. -/
def goTo (c : Nat) (stage : Stage) (s : SentinelTasks) : SentinelTasks :=
  { s with stages := Function.update s.stages c stage }

/-- A connection gets a socket or loses it. -/
def socket (c : Nat) (address : Option Address) (s : SentinelTasks) : SentinelTasks :=
  { s with connected := Function.update s.connected c address }

/-- `_connect_retry`, up to the question to the sentinels. -/
def connectRetry (c : Nat) (s : SentinelTasks) : SentinelTasks :=
  s.goTo c (if s.connected c = none then .asking else .rest)

/-- `get_connection` takes a connection and begins to connect it. -/
def enter (i : Nat) (s : SentinelTasks) : SentinelTasks :=
  if s.pool.calls i = .entering then
    let entered := { s with pool := s.pool.step (.enter i) }
    match entered.pool.calls i with
    | .ensuring c =>
      connectRetry c { entered with
        fromIdle := Function.update s.fromIdle c (c ∈ s.pool.available)
        again := Function.update s.again c false }
    | _ => entered
  else s

/-- `get_master_address` hears from the sentinels. -/
def report (c : Nat) (address : Option Address) (s : SentinelTasks) : SentinelTasks :=
  if s.stages c = .asking then
    match address with
    | none => s.goTo c .failed
    | some address =>
      if s.masterAddress = some address then
        ({ s with returned := true }).goTo c (.dialing address)
      else
        ({ s with masterAddress := some address, returned := false }).goTo c
          (.clearing address s.pool.available)
  else s

/-- `disconnect` of an idle connection. -/
def close (d c : Nat) (s : SentinelTasks) : SentinelTasks :=
  match s.stages c with
  | .clearing address left =>
    if d ∈ left then (s.socket d none).goTo c (.clearing address (left.erase d)) else s
  | _ => s

/-- `get_master_address` returns or raises. -/
def cleared (c : Nat) (success : Bool) (s : SentinelTasks) : SentinelTasks :=
  match s.stages c with
  | .clearing address [] =>
    if success then
      ({ s with returned := s.returned || s.masterAddress = some address }).goTo c
        (.dialing address)
    else s.goTo c .failed
  | _ => s

/-- `connect_to`. -/
def dialed (c : Nat) (result : Dialed) (s : SentinelTasks) : SentinelTasks :=
  match s.stages c with
  | .dialing address =>
    let moved := { s with addresses := Function.update s.addresses c address }
    match result with
    | .established => (moved.socket c (some address)).goTo c .rest
    | .broken => (moved.socket c none).goTo c .failed
    | .unanswered => (moved.socket c (some address)).goTo c .failed
  | _ => s

/-- `get_connection` fails and gives its connection back. -/
def fail (i c : Nat) (s : SentinelTasks) : SentinelTasks :=
  ({ s with pool := s.pool.step (.ensured i false) }).goTo c .rest

/-- The connection that a `get_connection` connects. -/
def ensuredBy (i : Nat) (s : SentinelTasks) : Option Nat :=
  match s.pool.calls i with
  | .ensuring c => some c
  | _ => none

/-- `call_with_retry` gives up in `get_connection`. -/
def giveUp (i : Nat) (s : SentinelTasks) : SentinelTasks :=
  match s.ensuredBy i with
  | some c => if s.stages c = .failed then s.fail i c else s
  | none => s

/-- `ensure_connection` looks for data, and connects once more if there is some. -/
def looked (i : Nat) (result : Looked) (s : SentinelTasks) : SentinelTasks :=
  match s.ensuredBy i with
  | some c =>
    if s.stages c = .rest then
      match result with
      | .nothing => { s with pool := s.pool.step (.ensured i true) }
      | .broken => s.fail i c
      | .unclosed => if s.again c then s.fail i c else (s.socket c none).fail i c
      | .data =>
        if s.again c then s.fail i c
        else connectRetry c { s.socket c none with again := Function.update s.again c true }
    else s
  | none => s

/-- The holder of a connection may do something with it. -/
def whenHeld (c : Nat) (s after : SentinelTasks) : SentinelTasks :=
  if c ∈ s.pool.held ∧ s.stages c = .rest then after else s

/-- One step. -/
def step (s : SentinelTasks) : SentinelAction → SentinelTasks
  | .getConnection i => { s with pool := s.pool.step (.getConnection i) }
  | .enter i => s.enter i
  -- `release` does not ask whether the pool owns the connection
  | .release i c => s.whenHeld c { s with pool := s.pool.step (.release i c) }
  | .report c address => s.report c address
  | .close d c => s.close d c
  | .cleared c success => s.cleared c success
  | .dialed c result => s.dialed c result
  | .retry c => if s.stages c = .failed then s.connectRetry c else s
  | .giveUp i => s.giveUp i
  | .giveUpHeld c => if c ∈ s.pool.held ∧ s.stages c = .failed then s.goTo c .rest else s
  | .looked i result => s.looked i result
  | .connect c => s.whenHeld c (s.connectRetry c)
  | .send c => s.whenHeld c (if s.connected c = none then s.socket c (some (s.addresses c)) else s)
  | .disconnect c => s.whenHeld c (s.socket c none)

/-- The connection that `get_connection` returns. -/
def handedOut (s : SentinelTasks) : SentinelAction → Option Nat
  | .looked i .nothing =>
    match s.ensuredBy i with
    | some c => if s.stages c = .rest then some c else none
    | none => none
  | _ => none

end SentinelTasks

end RedisPy

import RedisPy.Parsers.Async

/-!
# The asyncio connection pool

`ConnectionPool.get_connection` and what it relies on, and runs of a pool in which
holders read replies, cancel reads, abandon replies, disconnect and release, while data
may reach any connection at any time.

A connection that `get_connection` did not connect itself is in step when no octet is
left in the reader or in the parser. `can_read_destructive` looks at the parser's joined
journal and at the end of the stream only, so octets in the stream and chunks of a
cancelled read go unnoticed; `handout_inStep_iff` says that nothing else goes wrong.
-/

namespace RedisPy

open Interruptible

/-- An asyncio connection. -/
structure AsyncConnection where
  /-- `is_connected`: there is a reader and a writer. -/
  isConnected : Bool
  /-- `_parser`. -/
  parser : AsyncParser
deriving DecidableEq

/-- How one attempt of `_connect` with the handshake ends. -/
inductive Attempt where
  /-- Connected, with the reader as the handshake left it. -/
  | established (stream : StreamReader)
  | failed (e : Exc)

/-- What the network does during one `get_connection`. -/
structure Connecting where
  /-- The first call of `connect`. -/
  first : Attempt
  /-- An exception while the old connection is closed. -/
  closing : Option Exc
  /-- The second call of `connect`. -/
  second : Attempt

namespace AsyncConnection

/-- A connection that was never connected. -/
def make : AsyncConnection where
  isConnected := false
  parser := (AsyncParser.onConnect
    { buffer := [], limit := StreamReader.defaultLimit, ended := false, incoming := [] }).onDisconnect

/-- The octets of replies that nobody has taken. -/
def unread (c : AsyncConnection) : Bytes :=
  c.parser.buffer ++ c.parser.chunks.flatten ++ c.parser.stream.buffer

/-- `connect`: nothing happens when there is a connection. -/
def connect (attempt : Attempt) (c : AsyncConnection) : Except Exc AsyncConnection :=
  if c.isConnected then .ok c
  else
    match attempt with
    | .established stream => .ok { isConnected := true, parser := AsyncParser.onConnect stream }
    | .failed e => .error e

/-- `disconnect`. -/
def disconnect (c : AsyncConnection) : AsyncConnection :=
  { isConnected := false, parser := c.parser.onDisconnect }

/-- The handler of `ensure_connection`: disconnect, connect again and look again. -/
def reconnect (env : Connecting) (c : AsyncConnection) : Except Exc Bool × AsyncConnection :=
  match env.closing with
  | some e => (.error e, c.disconnect)
  | none =>
    match c.disconnect.connect env.second with
    | .error e => (.error e, c.disconnect)
    | .ok c =>
      match c.parser.canReadDestructive with
      | .ok true => (.error { cls := .connectionError }, c)
      | .ok false => (.ok true, c)
      | .error e => (.error e, c)

/-- `ensure_connection`; the result says whether it connected. -/
def ensureConnection (env : Connecting) (c : AsyncConnection) : Except Exc Bool × AsyncConnection :=
  match c.connect env.first with
  | .error e => (.error e, c)
  | .ok connected =>
    match connected.parser.canReadDestructive with
    | .ok false => (.ok (!c.isConnected), connected)
    | .ok true => reconnect env connected
    | .error e =>
      if e.isinstanceAny [.connectionError, .timeoutError, .osError] then reconnect env connected
      else (.error e, connected)

end AsyncConnection

/-- `ConnectionPool`; connections are numbered in the order they are made. -/
structure AsyncPool where
  /-- `_available_connections`; the last one is popped. -/
  available : List Nat
  /-- `_in_use_connections`. -/
  inUse : List Nat
  /-- The number of connections made. -/
  made : Nat
  /-- The connections. -/
  connections : Nat → AsyncConnection
  /-- `max_connections`. -/
  maxConnections : Nat

namespace AsyncPool

/-- A new pool. -/
def new (maxConnections : Nat) : AsyncPool :=
  { available := [], inUse := [], made := 0, connections := fun _ => .make, maxConnections }

/-- Change one connection. -/
def update (pool : AsyncPool) (id : Nat) (c : AsyncConnection) : AsyncPool :=
  { pool with connections := fun other => if other = id then c else pool.connections other }

/-- The changed connection. -/
@[simp]
theorem update_self (pool : AsyncPool) (id : Nat) (c : AsyncConnection) :
    (pool.update id c).connections id = c := if_pos rfl

/-- The other connections. -/
theorem update_other (pool : AsyncPool) {id other : Nat} (c : AsyncConnection)
    (distinct : other ≠ id) : (pool.update id c).connections other = pool.connections other :=
  if_neg distinct

/-- `get_available_connection`, with `make_connection`. -/
def getAvailableConnection (pool : AsyncPool) : Except Exc (Nat × AsyncPool) :=
  match pool.available.getLast? with
  | some id =>
    .ok (id, { pool with available := pool.available.dropLast, inUse := id :: pool.inUse })
  | none =>
    if pool.inUse.length ≥ pool.maxConnections then .error { cls := .connectionError }
    else
      let grown := pool.update pool.made .make
      .ok (pool.made, { grown with inUse := pool.made :: pool.inUse, made := pool.made + 1 })

/-- `release`. -/
def release (pool : AsyncPool) (id : Nat) : AsyncPool :=
  { pool with inUse := pool.inUse.erase id, available := pool.available ++ [id] }

/-- `get_connection`; the result says whether it connected. -/
def getConnection (env : Connecting) (pool : AsyncPool) : Except Exc (Nat × Bool) × AsyncPool :=
  match pool.getAvailableConnection with
  | .error e => (.error e, pool)
  | .ok (id, taken) =>
    match (taken.connections id).ensureConnection env with
    | (.ok connected, c) => (.ok (id, connected), taken.update id c)
    | (.error e, c) => (.error e, (taken.update id c).release id)

end AsyncPool

/-! ## Runs -/

/-- A step of a run. -/
inductive PoolEvent where
  /-- Somebody asks for a connection. -/
  | get (env : Connecting)
  /-- The holder calls `read_response`; the event loop brings these meanwhile. -/
  | read (id : Nat) (wakes : List Wake) (disconnectOnError : Bool)
  /-- The holder, or the pool, disconnects. -/
  | disconnect (id : Nat)
  /-- The holder releases. -/
  | release (id : Nat)
  /-- Data arrives, also late. -/
  | arrive (id : Nat) (chunk : Bytes)
  /-- The server closes the connection. -/
  | close (id : Nat)

/-- A connection that `get_connection` returned. -/
structure Handout where
  /-- The pool before the call. -/
  before : AsyncPool
  /-- The connection as it is returned. -/
  connection : AsyncConnection
  /-- The call connected it. -/
  connected : Bool

/-- Connected by the call, or nothing left to read. -/
def Handout.InStep (handout : Handout) : Prop :=
  handout.connected = true ∨ handout.connection.unread = []

instance (handout : Handout) : Decidable handout.InStep :=
  inferInstanceAs (Decidable (_ ∨ _))

/-- What arrived after a read was over. -/
def StreamReader.settle (s : StreamReader) : StreamReader :=
  { s with
    buffer := s.buffer ++ arrivals s.incoming
    ended := s.ended || s.incoming.contains .eof
    incoming := [] }

variable {F : Type}

section Run

variable {α : Type} (readResponse : EStateM Stop AsyncParser α)

/-- `Connection.read_response` with everything the event loop brings. -/
def AsyncConnection.read (wakes : List Wake) (disconnectOnError : Bool) (c : AsyncConnection) :
    AsyncConnection :=
  match readResponse { c.parser with stream := { c.parser.stream with incoming := wakes } } with
  | .ok _ parser => { c with parser := { parser with stream := parser.stream.settle } }
  | .error _ parser =>
    let left := { c with parser := { parser with stream := parser.stream.settle } }
    if disconnectOnError then left.disconnect else left

/-- One step of a run. -/
def AsyncPool.step (pool : AsyncPool) : PoolEvent → AsyncPool × Option Handout
  | .get env =>
    match pool.getConnection env with
    | (.ok (id, connected), after) =>
      (after, some { before := pool, connection := after.connections id, connected })
    | (.error _, after) => (after, none)
  | .read id wakes disconnectOnError =>
    (pool.update id ((pool.connections id).read readResponse wakes disconnectOnError), none)
  | .disconnect id => (pool.update id (pool.connections id).disconnect, none)
  | .release id => (if id ∈ pool.inUse then pool.release id else pool, none)
  | .arrive id chunk =>
    let c := pool.connections id
    let stream := { c.parser.stream with buffer := c.parser.stream.buffer ++ chunk }
    (pool.update id { c with parser := { c.parser with stream } }, none)
  | .close id =>
    let c := pool.connections id
    let stream := { c.parser.stream with ended := true }
    (pool.update id { c with parser := { c.parser with stream } }, none)

/-- A run from a pool, with every connection it handed out. -/
def AsyncPool.run (pool : AsyncPool) : List PoolEvent → AsyncPool × List Handout
  | [] => (pool, [])
  | event :: events =>
    let (after, handout) := pool.step readResponse event
    let (last, handouts) := after.run events
    (last, handout.toList ++ handouts)

end Run

/-! ## When a handout is in step -/

/-- The connection on top of the pool, if it is connected at all, holds octets where
`can_read_destructive` looks, or holds none. -/
def AsyncPool.Ready (pool : AsyncPool) : Prop :=
  ∀ id ∈ pool.available.getLast?,
    (pool.connections id).isConnected = false ∨ (pool.connections id).parser.buffer ≠ [] ∨
      (pool.connections id).parser.stream.atEof = true ∨ (pool.connections id).unread = []

namespace AsyncConnection

/-- Whatever the handler returns was connected by it. -/
theorem reconnect_connected {env : Connecting} {c after : AsyncConnection} {connected : Bool}
    (ended : c.reconnect env = (.ok connected, after)) : connected = true := by
  unfold reconnect at ended
  cases closing : env.closing with
  | some e =>
    rw [closing] at ended
    cases ended
  | none =>
    rw [closing] at ended
    cases attempt : c.disconnect.connect env.second with
    | error e =>
      simp only [attempt] at ended
      cases ended
    | ok fresh =>
      simp only [attempt] at ended
      cases looked : fresh.parser.canReadDestructive with
      | error e =>
        simp only [looked] at ended
        cases ended
      | ok data =>
        cases data with
        | true =>
          simp only [looked] at ended
          cases ended
        | false =>
          simp only [looked] at ended
          cases ended
          rfl

/-- `ensure_connection` returns a connection it connected, or the one it got, in which it saw
nothing. -/
theorem ensureConnection_cases {env : Connecting} {c after : AsyncConnection} {connected : Bool}
    (ended : c.ensureConnection env = (.ok connected, after)) :
    connected = true ∧ (c.isConnected = false ∨ c.parser.buffer ≠ [] ∨
        c.parser.stream.atEof = true) ∨
      connected = false ∧ after = c ∧ c.isConnected = true ∧ c.parser.buffer = [] ∧
        c.parser.stream.atEof = false := by
  unfold ensureConnection at ended
  cases attempt : c.connect env.first with
  | error e =>
    rw [attempt] at ended
    cases ended
  | ok now =>
    rw [attempt] at ended
    by_cases up : c.isConnected = true
    · have same : now = c := by
        unfold connect at attempt
        rw [if_pos up] at attempt
        exact (Except.ok.inj attempt).symm
      subst same
      cases looked : now.parser.canReadDestructive with
      | error e =>
        simp only [looked] at ended
        -- a parser that is not connected raises a plain `RedisError`, which is not handled
        have plain : e = { cls := .redisError } := by
          unfold AsyncParser.canReadDestructive at looked
          split at looked
          · exact (Except.error.inj looked).symm
          · split at looked
            · cases looked
            · cases looked
        have unhandled : e.isinstanceAny [.connectionError, .timeoutError, .osError] = false := by
          rw [plain]
          decide
        rw [unhandled] at ended
        cases ended
      | ok data =>
        have answer : data = (!now.parser.buffer.isEmpty || now.parser.stream.atEof) := by
          unfold AsyncParser.canReadDestructive at looked
          split at looked
          · cases looked
          · split at looked
            · rename_i held
              rw [held]
              exact (Except.ok.inj looked).symm
            · rename_i empty
              simp only [Bool.not_eq_true] at empty
              rw [empty]
              exact (Except.ok.inj looked).symm
        cases data with
        | true =>
          simp only [looked] at ended
          refine .inl ⟨reconnect_connected ended, .inr ?_⟩
          rcases (Bool.or_eq_true _ _).mp answer.symm with held | atEnd
          · left
            simpa using held
          · exact .inr atEnd
        | false =>
          simp only [looked, up] at ended
          cases ended
          have quiet := (Bool.or_eq_false_iff.mp answer.symm)
          exact .inr ⟨rfl, rfl, up, by simpa using quiet.1, quiet.2⟩
    · simp only [Bool.not_eq_true] at up
      refine .inl ⟨?_, .inl up⟩
      cases looked : now.parser.canReadDestructive with
      | ok data =>
        cases data with
        | true =>
          simp only [looked] at ended
          exact reconnect_connected ended
        | false =>
          simp only [looked, up] at ended
          cases ended
          rfl
      | error e =>
        simp only [looked] at ended
        split at ended
        · exact reconnect_connected ended
        · cases ended

end AsyncConnection

/-- A returned connection is in step exactly when the pool was ready. -/
theorem AsyncPool.getConnection_inStep_iff {pool after : AsyncPool} {env : Connecting} {id : Nat}
    {connected : Bool} (ended : pool.getConnection env = (.ok (id, connected), after)) :
    (connected = true ∨ (after.connections id).unread = []) ↔ pool.Ready := by
  unfold getConnection getAvailableConnection at ended
  cases top : pool.available.getLast? with
  | none =>
    have ready : pool.Ready := by
      intro other member
      rw [top] at member
      cases member
    refine ⟨fun _ => ready, fun _ => .inl ?_⟩
    rw [top] at ended
    by_cases full : pool.inUse.length ≥ pool.maxConnections
    · simp only [if_pos full] at ended
      cases ended
    · simp only [if_neg full, update_self] at ended
      cases ensured : AsyncConnection.make.ensureConnection env with
      | mk result c =>
        rw [ensured] at ended
        cases result with
        | error e => cases ended
        | ok flag =>
          cases ended
          rcases AsyncConnection.ensureConnection_cases ensured with
            ⟨fresh, -⟩ | ⟨-, -, up, -, -⟩
          · exact fresh
          · cases up
  | some id' =>
    rw [top] at ended
    simp only at ended
    cases ensured : (pool.connections id').ensureConnection env with
    | mk result c =>
      rw [ensured] at ended
      cases result with
      | error e => cases ended
      | ok flag =>
        cases ended
        rw [update_self]
        have only {P : Nat → Prop} (holds : P id) : ∀ other ∈ pool.available.getLast?, P other := by
          intro other member
          rw [top] at member
          cases member
          exact holds
        rcases AsyncConnection.ensureConnection_cases ensured with
          ⟨fresh, seen⟩ | ⟨kept, same, up, empty, running⟩
        · refine ⟨fun _ => only ?_, fun _ => .inl fresh⟩
          rcases seen with down | held | atEnd
          · exact .inl down
          · exact .inr (.inl held)
          · exact .inr (.inr (.inl atEnd))
        · subst same
          constructor
          · rintro (fresh | quiet)
            · rw [kept] at fresh
              cases fresh
            · exact only (.inr (.inr (.inr quiet)))
          · intro ready
            rcases ready id (by rw [top]; rfl) with down | held | atEnd | quiet
            · rw [up] at down
              cases down
            · exact absurd empty held
            · rw [running] at atEnd
              cases atEnd
            · exact .inr quiet

section Run

variable {α : Type} {readResponse : EStateM Stop AsyncParser α}

/-- A handout of one step is in step exactly when the pool before it was ready. -/
theorem AsyncPool.step_inStep_iff {pool : AsyncPool} {event : PoolEvent} {handout : Handout}
    (handed : (pool.step readResponse event).2 = some handout) :
    handout.InStep ↔ handout.before.Ready := by
  cases event with
  | get env =>
    cases got : pool.getConnection env with
    | mk result after =>
      cases result with
      | error e =>
        simp only [step, got] at handed
        cases handed
      | ok pair =>
        obtain ⟨id, connected⟩ := pair
        simp only [step, got] at handed
        cases handed
        exact getConnection_inStep_iff got
  | read id wakes disconnectOnError => cases handed
  | disconnect id => cases handed
  | release id => cases handed
  | arrive id chunk => cases handed
  | close id => cases handed

/-- In every run, a connection handed out is in step exactly when the pool was ready for the
call. -/
theorem AsyncPool.run_inStep_iff (readResponse : EStateM Stop AsyncParser α) (pool : AsyncPool)
    (events : List PoolEvent) :
    ∀ handout ∈ (pool.run readResponse events).2, handout.InStep ↔ handout.before.Ready := by
  induction events generalizing pool with
  | nil => simp [run]
  | cons event events ih =>
    intro handout member
    rw [run] at member
    rcases List.mem_append.mp member with now | later
    · exact step_inStep_iff (Option.mem_toList.mp now)
    · exact ih _ handout later

/-- A connection handed out by a run of the pool, for any way of reading replies, is in step
exactly when the pool was ready; so a run that is ready at every call hands out nothing else,
and no other run does. -/
theorem handouts_inStep_iff [PyFloat F] (handlers : PushHandlers AsyncParser F)
    (decoding : Decoding) (protocol : Protocol) (maxConnections : Nat) (events : List PoolEvent) :
    (∀ handout ∈ ((AsyncPool.new maxConnections).run
        (AsyncParser.readResponseOf handlers decoding protocol) events).2, handout.InStep) ↔
      ∀ handout ∈ ((AsyncPool.new maxConnections).run
        (AsyncParser.readResponseOf handlers decoding protocol) events).2, handout.before.Ready := by
  have each := AsyncPool.run_inStep_iff (AsyncParser.readResponseOf handlers decoding protocol)
    (AsyncPool.new maxConnections) events
  constructor
  · intro inStep handout member
    exact (each handout member).mp (inStep handout member)
  · intro ready handout member
    exact (each handout member).mpr (ready handout member)

/-- A pipeline whose two replies arrive together reads one of them, is abandoned, and the next
holder gets the connection with the other reply unread. -/
theorem abandoned_reply_handed_out :
    ¬∀ handout ∈ ((AsyncPool.new 1).run
      (AsyncParser.readResponseOf (F := Empty) defaultHandlers .raw .resp2)
      [.get { first := .established (StreamReader.mk [] StreamReader.defaultLimit false []),
              closing := none, second := .failed { cls := .connectionError } },
        .read 0 [.data (ascii ":1\r\n:2\r\n") false] true,
        .release 0,
        .get { first := .failed { cls := .connectionError }, closing := none,
               second := .failed { cls := .connectionError } }]).2, handout.InStep := by
  decide +kernel

end Run

end RedisPy

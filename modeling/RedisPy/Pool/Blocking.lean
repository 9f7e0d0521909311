import RedisPy.Pool.ConnectionPool
import RedisPy.Lib.Runs
import Mathlib.Data.Finset.Card
import Mathlib.Data.List.ReduceOption

/-!
# The pool that blocks

`BlockingConnectionPool` keeps a queue with one item for each connection that nobody holds; an
item `None` stands for a connection that is yet to be made. A call that finds the queue empty
waits and then raises, which is all that can happen while calls are made one after another.
-/

namespace RedisPy

open Contract Runs

/-- `queue.Full`. -/
def queueFull : ExcClass := .user 2 .exception

/-- What a blocking pool is made with. -/
structure BlockingPoolConfig where
  /-- `max_connections`. -/
  maxConnections : Option Nat
  /-- There is a cache. -/
  cached : Bool
  /-- `queue_class` is first-in first-out, not `LifoQueue`. -/
  fifo : Bool

/-- The size of the queue. -/
def BlockingPoolConfig.bound (config : BlockingPoolConfig) : Nat := boundOf config.maxConnections

/-- A connection as a blocking pool sees it. -/
structure BlockingConnection where
  /-- `pid`. -/
  pid : Nat
  /-- There is a socket. -/
  connected : Bool
deriving DecidableEq

/-- A blocking pool in its process; connections are numbered in the order they are made. -/
structure BlockingPool where
  /-- `pool`, oldest item first. -/
  queue : List (Option Nat)
  /-- `_connections`. -/
  own : List Nat
  /-- `pid`. -/
  pid : Nat
  /-- The number of connections made. -/
  made : Nat
  /-- The connections. -/
  connections : Nat → BlockingConnection
  /-- `os.getpid()`. -/
  process : Nat
  /-- How often the environment was asked. -/
  clock : Nat

namespace BlockingPool

/-- One more question to the environment. -/
def tick (pool : BlockingPool) : BlockingPool := { pool with clock := pool.clock + 1 }

instance : Clocked BlockingPool := ⟨clock, tick⟩

/-- Change the sockets of some connections. -/
def setConnected (which : Nat → Bool) (connected : Bool) (pool : BlockingPool) : BlockingPool :=
  { pool with connections := fun id =>
      if which id then { pool.connections id with connected } else pool.connections id }

section Operations

variable (config : BlockingPoolConfig) (env : PoolEnv)

/-- `reset`. -/
def reset (pool : BlockingPool) : BlockingPool :=
  { pool with queue := List.replicate config.bound none, own := [], pid := pool.process }

/-- A new pool. -/
def new (process : Nat) : BlockingPool where
  queue := List.replicate config.bound none
  own := []
  pid := process
  made := 0
  connections _ := { pid := process, connected := false }
  process := process
  clock := 0

/-- The pool in the process that it was last used in. -/
def current (pool : BlockingPool) : BlockingPool :=
  if pool.pid = pool.process then pool else pool.reset config

/-- `_checkpid`. -/
def checkpid : EStateM Exc BlockingPool Unit := modify (current config)

/-- `connection.disconnect()`. -/
def hangUp (id : Nat) : EStateM Exc BlockingPool Unit := modify (setConnected (· = id) false)

/-- A connection talks to its server. -/
def talk (id : Nat) (ending : Talk) : EStateM Exc BlockingPool Unit := do
  modify (setConnected (· = id) ending.connected)
  whenSome ending.error throw

/-- `Connection.connect`. -/
def dial (id : Nat) : EStateM Exc BlockingPool Unit := do
  let pool ← get
  whenever ((pool.connections id).connected = false) do
    let ending ← ask env.dial
    talk id ending

/-- `connect`. -/
def connect (id : Nat) : EStateM Exc BlockingPool Unit := do
  dial env id
  whenever config.cached (consult env.accept)

/-- `can_read`. -/
def canRead (id : Nat) : EStateM Exc BlockingPool Bool := do
  dial env id
  recover (consult env.canRead) fun e =>
    if e.isinstance .osError then do
      hangUp id
      throw { cls := .connectionError }
    else throw e

/-- The connection that is taken is connected and has no data; otherwise it is connected once
more. -/
def ready (id : Nat) : EStateM Exc BlockingPool Unit := do
  connect config env id
  recover (do
    let data ← canRead env id
    whenever data (throw { cls := .connectionError })) fun e =>
      if e.isinstanceAny [.connectionError, .timeoutError, .osError] then do
        hangUp id
        connect config env id
        let data ← canRead env id
        whenever data (throw { cls := .connectionError })
      else throw e

/-- The item that a queue gives out, and the others. -/
def nextItem (queue : List (Option Nat)) : Option (Option Nat × List (Option Nat)) :=
  if config.fifo then
    match queue with
    | [] => none
    | item :: items => some (item, items)
  else
    match queue.getLast? with
    | none => none
    | some item => some (item, queue.dropLast)

/-- `self.pool.get(block=True, timeout=self.timeout)`, with what becomes of `Empty`. -/
def getItem : EStateM Exc BlockingPool (Option Nat) := do
  let pool ← get
  match nextItem config pool.queue with
  | none => throw { cls := .connectionError }
  | some (item, queue) => do
    modify fun pool => { pool with queue }
    pure item

/-- `self.pool.put_nowait(item)`. -/
def putNowait (item : Option Nat) : EStateM Exc BlockingPool Unit := do
  let pool ← get
  if pool.queue.length < config.bound then
    modify fun pool => { pool with queue := pool.queue ++ [item] }
  else throw { cls := queueFull }

/-- `make_connection`. -/
def makeConnection : EStateM Exc BlockingPool Nat := do
  consult env.construct
  let pool ← get
  modify fun pool => { pool with
    own := pool.own ++ [pool.made]
    made := pool.made + 1
    connections := fun id =>
      if id = pool.made then { pid := pool.process, connected := false } else pool.connections id }
  pure pool.made

/-- The item that is taken, or a connection in place of `None`. -/
def take : EStateM Exc BlockingPool Nat := do
  let item ← getItem config
  match item with
  | some id => pure id
  | none => makeConnection env

/-- `release`. -/
def release (id : Nat) : EStateM Exc BlockingPool Unit := do
  checkpid config
  let pool ← get
  if (pool.connections id).pid = pool.pid then
    recover (putNowait config (some id)) fun e => if e.isinstance queueFull then pure () else throw e
  else do
    hangUp id
    putNowait config none

/-- `get_connection`. -/
def getConnection : EStateM Exc BlockingPool Nat := do
  checkpid config
  acquire (take config env) (ready config env) (release config)

/-- `disconnect`. -/
def disconnect : EStateM Exc BlockingPool Unit := do
  checkpid config
  modify fun pool => pool.setConnected (· ∈ pool.own) false

end Operations

end BlockingPool

/-! ## Runs -/

/-- A step of a run. -/
inductive BlockingStep where
  /-- Somebody asks for a connection. -/
  | getConnection
  /-- A holder releases a connection. -/
  | release (id : Nat)
  /-- Somebody disconnects the pool. -/
  | disconnect
  /-- The process forks, and the run goes on in the child. -/
  | fork
  /-- A holder talks to the server, or disconnects. -/
  | talk (id : Nat) (connected : Bool)

/-- A pool and who holds its connections. -/
structure BlockingRun where
  /-- The pool. -/
  pool : BlockingPool
  /-- The connections that were handed out, in this process or before a fork, and not released
  since. -/
  held : Finset Nat
  /-- A release raised. -/
  raised : Bool

namespace BlockingRun

open BlockingPool

variable (config : BlockingPoolConfig) (env : PoolEnv)

/-- A new pool. -/
def start (process : Nat) : BlockingRun where
  pool := .new config process
  held := ∅
  raised := false

/-- A holder releases. -/
def release (run : BlockingRun) (id : Nat) : BlockingRun :=
  match run.pool.release config id with
  | .ok _ pool => { run with pool, held := run.held.erase id }
  | .error _ pool => { pool, held := run.held.erase id, raised := true }

/-- One step; only a holder can release. -/
def step (run : BlockingRun) : BlockingStep → BlockingRun
  | .getConnection =>
    match run.pool.getConnection config env with
    | .ok id pool => { run with pool, held := insert id run.held }
    | .error _ pool => { run with pool }
  | .release id => if id ∈ run.held then run.release config id else run
  | .disconnect => { run with pool := stateAfter (run.pool.disconnect config) }
  | .fork => { run with pool := { run.pool with process := run.pool.process + 1 } }
  | .talk id connected => { run with pool := run.pool.setConnected (· = id) connected }

/-- The connections of this process that are checked out. -/
def checkedOut (run : BlockingRun) : Finset Nat :=
  run.held.filter fun id => (run.pool.connections id).pid = run.pool.process

/-- The queue, as the next call in this process finds it, has an item for every connection that is
not checked out, no connection twice, and no release raised. -/
def Complete (run : BlockingRun) : Prop :=
  (run.pool.current config).queue.length + run.checkedOut.card = config.bound ∧
    run.pool.queue.reduceOption.Nodup ∧ run.raised = false

instance (run : BlockingRun) : Decidable (run.Complete config) :=
  inferInstanceAs (Decidable (_ ∧ _ ∧ _))

/-- No constructor raises after an item `None` was taken, and connections are released in the
process that they were made in. -/
def Covered (run : BlockingRun) : BlockingStep → Prop
  | .getConnection =>
    (∃ rest, nextItem config (run.pool.current config).queue = some (none, rest)) →
      env.construct run.pool.clock = .ok ()
  | .release id => id ∈ run.held → (run.pool.connections id).pid = run.pool.process
  | _ => True

end BlockingRun

/-! ## What the functions do -/

namespace BlockingPool

section Functions

variable {config : BlockingPoolConfig} {env : PoolEnv}

/-- The item that a queue gives out is one of its items. -/
theorem nextItem_perm {queue rest : List (Option Nat)} {item : Option Nat}
    (next : nextItem config queue = some (item, rest)) : List.Perm queue (item :: rest) := by
  unfold nextItem at next
  by_cases fifo : config.fifo = true
  · rw [if_pos fifo] at next
    cases queue with
    | nil => cases next
    | cons first items =>
      cases next
      exact List.Perm.refl _
  · rw [if_neg fifo] at next
    cases last : queue.getLast? with
    | none =>
      rw [last] at next
      cases next
    | some found =>
      rw [last] at next
      cases next
      have whole := List.dropLast_append_getLast? item last
      have swapped : List.Perm (queue.dropLast ++ [item]) (item :: queue.dropLast) :=
        List.perm_append_comm
      rwa [whole] at swapped

/-- After a check the pool is of its process. -/
theorem current_pid (config : BlockingPoolConfig) (pool : BlockingPool) :
    (pool.current config).pid = (pool.current config).process := by
  unfold current
  by_cases here : pool.pid = pool.process
  · rw [if_pos here]
    exact here
  · rw [if_neg here]
    rfl

/-- A check does not change the process, the time, or who made a connection. -/
theorem current_rest (config : BlockingPoolConfig) (pool : BlockingPool) :
    (pool.current config).process = pool.process ∧ (pool.current config).clock = pool.clock ∧
      (pool.current config).connections = pool.connections := by
  unfold current
  by_cases here : pool.pid = pool.process
  · rw [if_pos here]
    exact ⟨rfl, rfl, rfl⟩
  · rw [if_neg here]
    exact ⟨rfl, rfl, rfl⟩

/-- A pool in its process is as it is. -/
theorem current_of_here {pool : BlockingPool} (here : pool.pid = pool.process) :
    pool.current config = pool :=
  if_pos here

/-- A pool with a new connection. -/
def grown (rest : List (Option Nat)) (pool : BlockingPool) : BlockingPool :=
  { pool.tick with
    queue := rest
    own := pool.own ++ [pool.made]
    made := pool.made + 1
    connections := fun id =>
      if id = pool.made then { pid := pool.process, connected := false } else pool.connections id }

/-- What taking comes to. -/
theorem take_eq (config : BlockingPoolConfig) (env : PoolEnv) (s : BlockingPool) :
    take config env s =
      match nextItem config s.queue with
      | none => .error { cls := .connectionError } s
      | some (some id, rest) => .ok id { s with queue := rest }
      | some (none, rest) =>
        match env.construct s.clock with
        | .ok () => .ok s.made (s.grown rest)
        | .error e => .error e { s.tick with queue := rest } := by
  have looked : (get : EStateM Exc BlockingPool BlockingPool) s = .ok s s := rfl
  unfold take
  cases next : nextItem config s.queue with
  | none =>
    have got : getItem config s = .error { cls := .connectionError } s := by
      unfold getItem
      rw [Interruptible.bind_of_ok looked, next]
      rfl
    rw [Interruptible.bind_of_error got]
  | some found =>
    obtain ⟨item, rest⟩ := found
    have got : getItem config s = .ok item { s with queue := rest } := by
      unfold getItem
      rw [Interruptible.bind_of_ok looked, next]
      rfl
    rw [Interruptible.bind_of_ok got]
    cases item with
    | some id => rfl
    | none =>
      show makeConnection env { s with queue := rest } = _
      unfold makeConnection
      cases built : env.construct s.clock with
      | ok value =>
        have constructed : consult env.construct { s with queue := rest } =
          .ok value { s.tick with queue := rest } := consult_ok built
        rw [Interruptible.bind_of_ok constructed]
        rfl
      | error e =>
        have constructed : (consult env.construct : EStateM Exc BlockingPool Unit)
          { s with queue := rest } = .error e { s.tick with queue := rest } := consult_error built
        rw [Interruptible.bind_of_error constructed]

/-- The pool after an item was put. -/
def put (item : Option Nat) (pool : BlockingPool) : BlockingPool :=
  { pool with queue := pool.queue ++ [item] }

/-- What a release comes to, after the check. -/
theorem release_eq (config : BlockingPoolConfig) (id : Nat) (s : BlockingPool) :
    release config id s =
      let s := s.current config
      if (s.connections id).pid = s.pid then
        .ok () (if s.queue.length < config.bound then s.put (some id) else s)
      else
        let hung := s.setConnected (· = id) false
        if s.queue.length < config.bound then .ok () (hung.put none)
        else .error { cls := queueFull } hung := by
  have checked : checkpid config s = .ok () (s.current config) := rfl
  have looked (t : BlockingPool) : (get : EStateM Exc BlockingPool BlockingPool) t = .ok t t := rfl
  have puts (item : Option Nat) (t : BlockingPool) : putNowait config item t =
      if t.queue.length < config.bound then .ok () (t.put item)
      else .error { cls := queueFull } t := by
    unfold putNowait
    rw [Interruptible.bind_of_ok (looked t)]
    by_cases room : t.queue.length < config.bound
    · rw [if_pos room, if_pos room]
      rfl
    · rw [if_neg room, if_neg room]
      rfl
  unfold release
  rw [Interruptible.bind_of_ok checked, Interruptible.bind_of_ok (looked _)]
  by_cases own : ((s.current config).connections id).pid = (s.current config).pid
  · simp only [if_pos own]
    unfold recover
    rw [puts]
    by_cases room : (s.current config).queue.length < config.bound
    · rw [if_pos room, if_pos room]
    · rw [if_neg room, if_neg room]
      rfl
  · simp only [if_neg own]
    have hung : hangUp id (s.current config) =
      .ok () ((s.current config).setConnected (· = id) false) := rfl
    rw [Interruptible.bind_of_ok hung, puts]
    rfl

/-- What a call of `get_connection` comes to. -/
theorem getConnection_cases (config : BlockingPoolConfig) (env : PoolEnv) (s : BlockingPool) :
    (∃ e t, take config env (s.current config) = .error e t ∧
      getConnection config env s = .error e t) ∨
    (∃ id t u, take config env (s.current config) = .ok id t ∧
      ready config env id t = .ok () u ∧ getConnection config env s = .ok id u) ∨
    ∃ id t e u f v, take config env (s.current config) = .ok id t ∧
      ready config env id t = .error e u ∧ stateAfter (release config id u) = v ∧
      getConnection config env s = .error f v := by
  have checked : checkpid config s = .ok () (s.current config) := rfl
  unfold getConnection
  rw [Interruptible.bind_of_ok checked]
  exact acquire_cases (take config env) (ready config env) (release config) (s.current config)

/-! ## Getting ready -/

/-- A property that neither questions nor changes of sockets touch. -/
structure Indifferent (I : BlockingPool → Prop) : Prop where
  /-- Questions. -/
  ticks : ∀ s, I s → I s.tick
  /-- Sockets. -/
  sets : ∀ s which connected, I s → I (s.setConnected which connected)

section Indifferent

variable {I : BlockingPool → Prop} (indifferent : Indifferent I)

include indifferent

/-- Connecting to the server. -/
theorem Indifferent.dial (env : PoolEnv) (id : Nat) : Keeps I (dial env id) := by
  apply keeps_get
  intro s
  have talks : Keeps I (do
      let ending ← ask env.dial
      talk id ending) := by
    apply Meets.bind (meets_ask (Q := fun _ => I) indifferent.ticks)
    intro ending
    have sets : Keeps I (modify (setConnected (· = id) ending.connected) : EStateM Exc _ Unit) :=
      keeps_modify fun s holds => indifferent.sets s _ _ holds
    exact sets.bind fun _ => keeps_whenSome fun e => keeps_throw e
  exact keeps_whenever talks

/-- Connecting. -/
theorem Indifferent.connect (config : BlockingPoolConfig) (env : PoolEnv) (id : Nat) :
    Keeps I (connect config env id) :=
  (indifferent.dial env id).bind fun _ => keeps_whenever (keeps_consult indifferent.ticks env.accept)

/-- Disconnecting. -/
theorem Indifferent.hangUp (id : Nat) : Keeps I (hangUp id) :=
  keeps_modify fun s holds => indifferent.sets s _ _ holds

/-- Looking for data. -/
theorem Indifferent.canRead (env : PoolEnv) (id : Nat) : Keeps I (canRead env id) := by
  apply (indifferent.dial env id).bind
  intro _
  apply (keeps_consult indifferent.ticks env.canRead).recover
  intro e
  exact keeps_ite ((indifferent.hangUp id).bind fun _ => keeps_throw _) (keeps_throw e)

/-- Getting a connection ready. -/
theorem Indifferent.ready (config : BlockingPoolConfig) (env : PoolEnv) (id : Nat) :
    Keeps I (ready config env id) := by
  apply (indifferent.connect config env id).bind
  intro _
  have looks : Keeps I (do
      let data ← BlockingPool.canRead env id
      whenever data (throw { cls := .connectionError })) :=
    (indifferent.canRead env id).bind fun _ => keeps_guard
  apply looks.recover
  intro e
  have again : Keeps I (do
      BlockingPool.hangUp id
      BlockingPool.connect config env id
      let data ← BlockingPool.canRead env id
      whenever data (throw { cls := .connectionError })) :=
    (indifferent.hangUp id).bind fun _ => (indifferent.connect config env id).bind fun _ => looks
  exact keeps_ite again (keeps_throw e)

end Indifferent

/-! ## Slots -/

/-- The connections, of those that are held, that were made in the process of the pool. -/
def present (pool : BlockingPool) (held : Finset Nat) : Finset Nat :=
  held.filter fun id => (pool.connections id).pid = pool.pid

/-- Every slot is an item of the queue or a connection that is held, as far as the process that the
pool was last used in is concerned. -/
structure Slots (config : BlockingPoolConfig) (pool : BlockingPool) (held : Finset Nat) : Prop where
  /-- The items and the connections that are held. -/
  counted : pool.queue.length + (pool.present held).card = config.bound
  /-- No connection is in the queue twice. -/
  nodup : pool.queue.reduceOption.Nodup
  /-- The connections in the queue. -/
  queued : ∀ id, some id ∈ pool.queue →
    id < pool.made ∧ (pool.connections id).pid = pool.pid ∧ id ∉ held
  /-- The connections that are held. -/
  known : ∀ id ∈ held, id < pool.made
  /-- No connection is from a later process. -/
  pids : ∀ id, (pool.connections id).pid ≤ pool.pid
  /-- Nor is the pool. -/
  older : pool.pid ≤ pool.process

section Slots

variable {s : BlockingPool} {held : Finset Nat}

/-- A socket is not part of who made a connection. -/
theorem setConnected_pid (s : BlockingPool) (which : Nat → Bool) (connected : Bool) (id : Nat) :
    ((s.setConnected which connected).connections id).pid = (s.connections id).pid := by
  unfold setConnected
  simp only
  split <;> rfl

/-- Sockets do not touch the slots. -/
theorem Slots.setConnected (slots : Slots config s held) (which : Nat → Bool) (connected : Bool) :
    Slots config (s.setConnected which connected) held := by
  have same := setConnected_pid s which connected
  have present : (s.setConnected which connected).present held = s.present held := by
    unfold BlockingPool.present
    simp only [same]
    rfl
  refine ⟨?_, slots.nodup, ?_, slots.known, ?_, slots.older⟩
  · rw [present]
    exact slots.counted
  · intro id member
    rw [same]
    exact slots.queued id member
  · intro id
    rw [same]
    exact slots.pids id

/-- Neither questions nor sockets touch the slots and the connection that is made ready. -/
theorem slots_indifferent (config : BlockingPoolConfig) (held : Finset Nat) (id : Nat) :
    Indifferent fun s => Slots config s held ∧ s.pid = s.process ∧
      (s.connections id).pid = s.pid where
  ticks _ kept := ⟨⟨kept.1.counted, kept.1.nodup, kept.1.queued, kept.1.known, kept.1.pids,
    kept.1.older⟩, kept.2⟩
  sets s which connected kept := by
    refine ⟨kept.1.setConnected which connected, kept.2.1, ?_⟩
    rw [setConnected_pid]
    exact kept.2.2

/-- A check gives a new process a full queue. -/
theorem Slots.current (slots : Slots config s held) : Slots config (s.current config) held := by
  unfold BlockingPool.current
  by_cases here : s.pid = s.process
  · rw [if_pos here]
    exact slots
  · rw [if_neg here]
    have later : s.pid < s.process := Nat.lt_of_le_of_ne slots.older here
    have foreign : (s.reset config).present held = ∅ := by
      apply Finset.filter_eq_empty_iff.mpr
      intro id _ same
      have pid := slots.pids id
      have same : (s.connections id).pid = s.process := same
      omega
    have empty : ∀ id, some id ∉ List.replicate config.bound (none : Option Nat) := by
      intro id member
      cases List.eq_of_mem_replicate member
    refine ⟨?_, ?_, fun id member => absurd member (empty id), slots.known, ?_, Nat.le_refl _⟩
    · rw [foreign, Finset.card_empty]
      exact List.length_replicate
    · show (List.replicate config.bound (none : Option Nat)).reduceOption.Nodup
      rw [List.reduceOption_replicate_none]
      exact List.nodup_nil
    · intro id
      have pid := slots.pids id
      show (s.connections id).pid ≤ s.process
      omega

/-- An item fewer. -/
theorem Slots.popped (slots : Slots config s held) {item : Option Nat} {rest : List (Option Nat)}
    (next : nextItem config s.queue = some (item, rest)) :
    rest.length + 1 = s.queue.length ∧ rest.reduceOption.Nodup ∧
      (∀ id, some id ∈ rest → some id ∈ s.queue ∧ item ≠ some id) := by
  have perm := nextItem_perm next
  have nodup := (perm.filterMap id).nodup_iff.mp slots.nodup
  have longer := perm.length_eq
  rw [List.length_cons] at longer
  refine ⟨longer.symm, ?_, fun id member => ⟨perm.mem_iff.mpr (List.mem_cons_of_mem _ member), ?_⟩⟩
  · cases item with
    | none => exact nodup
    | some id => exact (List.nodup_cons.mp nodup).2
  · intro same
    rw [same] at nodup
    exact (List.nodup_cons.mp nodup).1 (List.reduceOption_mem_iff.mpr member)

/-- A connection of the queue is taken. -/
theorem Slots.taken (slots : Slots config s held) {id : Nat} {rest : List (Option Nat)}
    (next : nextItem config s.queue = some (some id, rest)) :
    Slots config { s with queue := rest } (insert id held) ∧ id ∉ held := by
  obtain ⟨longer, nodup, others⟩ := slots.popped next
  have queued : some id ∈ s.queue := (nextItem_perm next).mem_iff.mpr List.mem_cons_self
  obtain ⟨known, pid, fresh⟩ := slots.queued id queued
  have more : ({ s with queue := rest } : BlockingPool).present (insert id held) =
      insert id (s.present held) := by
    unfold present
    rw [Finset.filter_insert]
    exact if_pos pid
  have unused : id ∉ s.present held := fun member => fresh (Finset.mem_filter.mp member).1
  refine ⟨⟨?_, nodup, ?_, ?_, slots.pids, slots.older⟩, fresh⟩
  · have counted := slots.counted
    rw [more, Finset.card_insert_of_notMem unused]
    show rest.length + _ = _
    omega
  · intro other member
    obtain ⟨earlier, distinct⟩ := others other member
    have before := slots.queued other earlier
    refine ⟨before.1, before.2.1, fun taken => ?_⟩
    rcases Finset.mem_insert.mp taken with same | held
    · exact distinct (by rw [same])
    · exact before.2.2 held
  · intro other member
    rcases Finset.mem_insert.mp member with same | held
    · rw [same]
      exact known
    · exact slots.known other held

/-- A connection is made in place of `None`. -/
theorem Slots.grown (slots : Slots config s held) (here : s.pid = s.process)
    {rest : List (Option Nat)} (next : nextItem config s.queue = some (none, rest)) :
    Slots config (s.grown rest) (insert s.made held) ∧ s.made ∉ held := by
  obtain ⟨longer, nodup, others⟩ := slots.popped next
  have fresh : s.made ∉ held := fun member => Nat.lt_irrefl _ (slots.known _ member)
  have new : ((s.grown rest).connections s.made).pid = s.pid := by
    rw [here]
    exact congrArg BlockingConnection.pid (if_pos rfl)
  have old : ∀ id, id < s.made → (s.grown rest).connections id = s.connections id :=
    fun id earlier => if_neg (Nat.ne_of_lt earlier)
  have more : (s.grown rest).present (insert s.made held) = insert s.made (s.present held) := by
    have kept : (s.grown rest).present held = s.present held := by
      apply Finset.filter_congr
      intro id member
      rw [old id (slots.known id member)]
      exact Iff.rfl
    rw [← kept]
    unfold present
    rw [Finset.filter_insert]
    exact if_pos new
  have unused : s.made ∉ s.present held := fun member => fresh (Finset.mem_filter.mp member).1
  refine ⟨⟨?_, nodup, ?_, ?_, ?_, slots.older⟩, fresh⟩
  · have counted := slots.counted
    rw [more, Finset.card_insert_of_notMem unused]
    show rest.length + _ = _
    omega
  · intro other member
    have before := slots.queued other (others other member).1
    rw [old other before.1]
    refine ⟨Nat.lt_succ_of_lt before.1, before.2.1, fun taken => ?_⟩
    rcases Finset.mem_insert.mp taken with same | held
    · rw [same] at before
      exact Nat.lt_irrefl _ before.1
    · exact before.2.2 held
  · intro other member
    show other < s.made + 1
    rcases Finset.mem_insert.mp member with same | held
    · omega
    · have earlier := slots.known other held
      omega
  · intro other
    show ((s.grown rest).connections other).pid ≤ s.pid
    by_cases same : other = s.made
    · rw [same, new]
    · have kept : (s.grown rest).connections other = s.connections other := if_neg same
      rw [kept]
      exact slots.pids other

/-- A connection that is held is put back. -/
theorem Slots.returned (slots : Slots config s held) {id : Nat} (member : id ∈ held)
    (pid : (s.connections id).pid = s.pid) :
    s.queue.length < config.bound ∧ Slots config (s.put (some id)) (held.erase id) := by
  have present : id ∈ s.present held := Finset.mem_filter.mpr ⟨member, pid⟩
  have fewer : (s.put (some id)).present (held.erase id) = (s.present held).erase id := by
    unfold BlockingPool.present
    exact Finset.filter_erase _ _ _
  have one := Finset.card_erase_add_one present
  have counted := slots.counted
  refine ⟨by omega, ?_, ?_, ?_, ?_, slots.pids, slots.older⟩
  · rw [fewer]
    show (s.queue ++ [some id]).length + _ = _
    rw [List.length_append, List.length_singleton]
    omega
  · show (s.queue ++ [some id]).reduceOption.Nodup
    rw [List.reduceOption_append, List.nodup_append]
    refine ⟨slots.nodup, List.nodup_singleton id, ?_⟩
    intro a queued b last same
    have single : b = id := List.mem_singleton.mp last
    rw [same, single] at queued
    exact (slots.queued id (List.reduceOption_mem_iff.mp queued)).2.2 member
  · intro other queued
    rcases List.mem_append.mp queued with earlier | last
    · have before := slots.queued other earlier
      exact ⟨before.1, before.2.1, fun kept => before.2.2 (Finset.mem_of_mem_erase kept)⟩
    · have same : other = id := Option.some.inj (List.mem_singleton.mp last)
      rw [same]
      exact ⟨slots.known id member, pid, Finset.notMem_erase id held⟩
  · intro other kept
    exact slots.known other (Finset.mem_of_mem_erase kept)

end Slots

end Functions

end BlockingPool

namespace BlockingRun

open BlockingPool

section Steps

variable {config : BlockingPoolConfig} {env : PoolEnv} {run : BlockingRun}

/-- Every slot is accounted for, and no release raised. -/
structure Kept (config : BlockingPoolConfig) (run : BlockingRun) : Prop where
  /-- The slots. -/
  slots : Slots config run.pool run.held
  /-- The releases. -/
  quiet : run.raised = false

/-- Nobody holds a connection of a new pool. -/
theorem kept_start (config : BlockingPoolConfig) (process : Nat) :
    Kept config (start config process) := by
  have empty : ∀ id, some id ∉ List.replicate config.bound (none : Option Nat) := by
    intro id member
    cases List.eq_of_mem_replicate member
  refine ⟨⟨List.length_replicate, ?_, fun id member => absurd member (empty id), ?_,
    fun _ => Nat.le_refl _, Nat.le_refl _⟩, rfl⟩
  · show (List.replicate config.bound (none : Option Nat)).reduceOption.Nodup
    rw [List.reduceOption_replicate_none]
    exact List.nodup_nil
  · intro id member
    cases member

/-- What is checked out is present in the pool of the process. -/
theorem checkedOut_eq (config : BlockingPoolConfig) (run : BlockingRun) :
    run.checkedOut = (run.pool.current config).present run.held := by
  obtain ⟨process, -, connections⟩ := current_rest config run.pool
  unfold checkedOut present
  rw [current_pid, process, connections]

/-- Slots that are accounted for are complete. -/
theorem Kept.complete (kept : Kept config run) : run.Complete config := by
  have slots := kept.slots.current
  refine ⟨?_, kept.slots.nodup, kept.quiet⟩
  rw [checkedOut_eq config]
  exact slots.counted

/-- What is taken is a connection of the process, which nobody held. -/
theorem taken {s t : BlockingPool} {held : Finset Nat} {id : Nat} (slots : Slots config s held)
    (here : s.pid = s.process) (ran : take config env s = .ok id t) :
    Slots config t (insert id held) ∧ id ∉ held ∧ t.pid = t.process ∧
      (t.connections id).pid = t.pid := by
  rw [take_eq] at ran
  cases next : nextItem config s.queue with
  | none =>
    rw [next] at ran
    cases ran
  | some found =>
    obtain ⟨item, rest⟩ := found
    rw [next] at ran
    cases item with
    | some other =>
      cases ran
      obtain ⟨kept, fresh⟩ := slots.taken next
      have queued : some id ∈ s.queue := (nextItem_perm next).mem_iff.mpr List.mem_cons_self
      exact ⟨kept, fresh, here, (slots.queued id queued).2.1⟩
    | none =>
      cases built : env.construct s.clock with
      | error e =>
        rw [built] at ran
        cases ran
      | ok value =>
        rw [built] at ran
        cases ran
        obtain ⟨kept, fresh⟩ := slots.grown here next
        have new : (s.grown rest).connections s.made = { pid := s.process, connected := false } :=
          if_pos rfl
        refine ⟨kept, fresh, here, ?_⟩
        rw [new]
        exact here.symm

/-- A connection that is not got ready is given back. -/
theorem given_back {t u : BlockingPool} {held : Finset Nat} {id : Nat} {e : Exc}
    (slots : Slots config t (insert id held)) (fresh : id ∉ held) (here : t.pid = t.process)
    (pid : (t.connections id).pid = t.pid) (readied : ready config env id t = .error e u) :
    Slots config (stateAfter (BlockingPool.release config id u)) held := by
  have left := (slots_indifferent config (insert id held) id).ready config env id t ⟨slots, here, pid⟩
  rw [readied] at left
  obtain ⟨kept, still, own⟩ := left
  obtain ⟨room, back⟩ := kept.returned (Finset.mem_insert_self id held) own
  rw [release_eq, current_of_here still]
  simp only [if_pos own, if_pos room]
  rw [Finset.erase_insert fresh] at back
  exact back

/-- Asking for a connection. -/
theorem Kept.got (kept : Kept config run) (covered : Covered config env run .getConnection) :
    Kept config (run.step config env .getConnection) := by
  have slots := kept.slots.current
  have here := current_pid config run.pool
  rcases getConnection_cases config env run.pool with ⟨e, t, ran, ends⟩ |
    ⟨id, t, u, ran, readied, ends⟩ | ⟨id, t, e, u, f, v, ran, readied, released, ends⟩
  · have next : run.step config env .getConnection = { run with pool := t } := by
      unfold BlockingRun.step
      rw [ends]
    rw [next]
    refine ⟨?_, kept.quiet⟩
    show Slots config t run.held
    rw [take_eq] at ran
    cases item : nextItem config (run.pool.current config).queue with
    | none =>
      rw [item] at ran
      cases ran
      exact slots
    | some found =>
      obtain ⟨found, rest⟩ := found
      rw [item] at ran
      cases found with
      | some id => cases ran
      | none =>
        have built := covered ⟨rest, item⟩
        rw [← (current_rest config run.pool).2.1] at built
        rw [built] at ran
        cases ran
  · have next : run.step config env .getConnection =
        { run with pool := u, held := insert id run.held } := by
      unfold BlockingRun.step
      rw [ends]
    rw [next]
    obtain ⟨kept', -, here', pid⟩ := taken slots here ran
    have left := (slots_indifferent config (insert id run.held) id).ready config env id t
      ⟨kept', here', pid⟩
    rw [readied] at left
    exact ⟨left.1, kept.quiet⟩
  · have next : run.step config env .getConnection = { run with pool := v } := by
      unfold BlockingRun.step
      rw [ends]
    rw [next]
    obtain ⟨kept', fresh, here', pid⟩ := taken slots here ran
    have back := given_back kept' fresh here' pid readied
    rw [released] at back
    exact ⟨back, kept.quiet⟩

/-- Releasing a connection of this process. -/
theorem Kept.released (kept : Kept config run) {id : Nat} (member : id ∈ run.held)
    (pid : (run.pool.connections id).pid = run.pool.process) :
    Kept config (run.release config id) := by
  have slots := kept.slots.current
  obtain ⟨process, -, connections⟩ := current_rest config run.pool
  have own : ((run.pool.current config).connections id).pid = (run.pool.current config).pid := by
    rw [current_pid, process, connections, pid]
  obtain ⟨room, back⟩ := slots.returned member own
  have ran : BlockingPool.release config id run.pool =
      .ok () ((run.pool.current config).put (some id)) := by
    rw [release_eq]
    simp only [if_pos own, if_pos room]
  unfold BlockingRun.release
  rw [ran]
  exact ⟨back, kept.quiet⟩

/-- One step in which no slot is lost. -/
theorem Kept.step (kept : Kept config run) {step : BlockingStep}
    (covered : Covered config env run step) : Kept config (run.step config env step) := by
  cases step with
  | getConnection => exact kept.got covered
  | release id =>
    unfold BlockingRun.step
    by_cases member : id ∈ run.held
    · simp only [if_pos member]
      exact kept.released member (covered member)
    · simp only [if_neg member]
      exact kept
  | disconnect => exact ⟨kept.slots.current.setConnected _ _, kept.quiet⟩
  | fork =>
    have slots := kept.slots
    exact ⟨⟨slots.counted, slots.nodup, slots.queued, slots.known, slots.pids,
      Nat.le_succ_of_le slots.older⟩, kept.quiet⟩
  | talk id connected => exact ⟨kept.slots.setConnected _ _, kept.quiet⟩

/-- A constructor that raises takes a slot with it. -/
theorem Kept.got_incomplete (kept : Kept config run)
    (uncovered : ¬Covered config env run .getConnection) :
    ¬(run.step config env .getConnection).Complete config := by
  have slots := kept.slots.current
  have here := current_pid config run.pool
  obtain ⟨-, clock, -⟩ := current_rest config run.pool
  unfold Covered at uncovered
  rw [Classical.not_imp] at uncovered
  obtain ⟨⟨rest, item⟩, raises⟩ := uncovered
  cases built : env.construct run.pool.clock with
  | ok value => exact absurd built raises
  | error e =>
    have ran : take config env (run.pool.current config) =
        .error e { (run.pool.current config).tick with queue := rest } := by
      rw [take_eq, item, clock, built]
    have ends : getConnection config env run.pool =
        .error e { (run.pool.current config).tick with queue := rest } := by
      rcases getConnection_cases config env run.pool with ⟨e', t, ran', ends⟩ |
        ⟨id, t, u, ran', -, -⟩ | ⟨id, t, e', u, f, v, ran', -, -, -⟩
      · rw [ran] at ran'
        cases ran'
        exact ends
      · rw [ran] at ran'
        cases ran'
      · rw [ran] at ran'
        cases ran'
    have next : run.step config env .getConnection =
        { run with pool := { (run.pool.current config).tick with queue := rest } } := by
      unfold BlockingRun.step
      rw [ends]
    rw [next]
    rintro ⟨counted, -, -⟩
    rw [checkedOut_eq config] at counted
    have still : current config { (run.pool.current config).tick with queue := rest } =
        { (run.pool.current config).tick with queue := rest } := current_of_here here
    rw [still] at counted
    have before := slots.counted
    have longer := (slots.popped item).1
    have same : present { (run.pool.current config).tick with queue := rest } run.held =
      (run.pool.current config).present run.held := rfl
    simp only [same] at counted
    omega

/-- A connection that was made before a fork brings a slot too many, or an exception. -/
theorem Kept.released_incomplete (kept : Kept config run) {id : Nat}
    (foreign : ¬(run.pool.connections id).pid = run.pool.process) :
    ¬(run.release config id).Complete config := by
  have slots := kept.slots.current
  have here := current_pid config run.pool
  obtain ⟨process, -, connections⟩ := current_rest config run.pool
  have other : ¬((run.pool.current config).connections id).pid = (run.pool.current config).pid := by
    rw [here, process, connections]
    exact foreign
  unfold BlockingRun.release
  rw [release_eq]
  simp only [if_neg other]
  by_cases room : (run.pool.current config).queue.length < config.bound
  · simp only [if_pos room]
    rintro ⟨counted, -, -⟩
    rw [checkedOut_eq config] at counted
    let after := ((run.pool.current config).setConnected (· = id) false).put none
    have still : current config after = after := current_of_here here
    have same : present after (run.held.erase id) = (run.pool.current config).present run.held := by
      have pids : ∀ a, ((after.connections a).pid = after.pid) =
          (((run.pool.current config).connections a).pid = (run.pool.current config).pid) := by
        intro a
        have pid := setConnected_pid (run.pool.current config) (· = id) false a
        show ((((run.pool.current config).setConnected (· = id) false).connections a).pid = _) = _
        rw [pid]
        rfl
      unfold present
      simp only [pids]
      rw [Finset.filter_erase]
      apply Finset.erase_eq_of_notMem
      intro member
      exact other (Finset.mem_filter.mp member).2
    have longer : after.queue.length = (run.pool.current config).queue.length + 1 := by
      show ((run.pool.current config).queue ++ [none]).length = _
      rw [List.length_append, List.length_singleton]
    have before := slots.counted
    change (current config after).queue.length +
      (present (current config after) (run.held.erase id)).card = config.bound at counted
    rw [still, same, longer] at counted
    omega
  · simp only [if_neg room]
    rintro ⟨-, -, quiet⟩
    cases quiet

/-- In a run of a new pool every slot is accounted for all along, and no release raises, exactly when
no constructor raises where `None` was taken and every connection is released in its process. -/
theorem always_complete_iff (config : BlockingPoolConfig) (env : PoolEnv) (process : Nat)
    (steps : List BlockingStep) :
    Always (step config env) (Complete config) (start config process) steps ↔
      Each (step config env) (Covered config env) (start config process) steps := by
  apply always_iff_each (Kept config) (fun _ _ kept covered => kept.step covered)
    (fun _ kept => kept.complete)
  · intro run step kept uncovered
    cases step with
    | getConnection => exact kept.got_incomplete uncovered
    | release id =>
      unfold Covered at uncovered
      rw [Classical.not_imp] at uncovered
      obtain ⟨member, foreign⟩ := uncovered
      unfold BlockingRun.step
      simp only [if_pos member]
      exact kept.released_incomplete foreign
    | disconnect => exact absurd trivial uncovered
    | fork => exact absurd trivial uncovered
    | talk id connected => exact absurd trivial uncovered
  · exact kept_start config process

/-- A pool for one connection. -/
def single : BlockingPoolConfig where
  maxConnections := some 1
  cached := false
  fifo := false

/-- A child releases the connection of its parent into a queue that is already full. -/
theorem release_after_fork_raises :
    ¬Always (step single .answering) (Complete single) (start single 0)
      [.getConnection, .fork, .release 0] := by
  intro complete
  have last := complete [.getConnection, .fork, .release 0] [] rfl
  revert last
  decide +kernel

end Steps

end BlockingRun

end RedisPy

import RedisPy.Pool.Connecting
import RedisPy.Lib.Runs
import Mathlib.Data.Finset.Card

/-!
# The accounts of a blocking pool

A pool counts the connections it made; each is idle or in use. What breaks the count is a
constructor that raises after the connection was counted, and a release of a connection in
use that the pool does not own. A plain pool owns all its connections in use. A pool that
keeps to a master owns a connection only while the connection's host and port are the
master's, so every other release takes a connection out of the accounts for good.
-/

namespace RedisPy

open Contract

namespace SyncPool

/-- What a pool keeps accounts of. -/
structure Books where
  /-- `_created_connections`. -/
  createdConnections : Nat
  /-- `_available_connections`. -/
  available : List Nat
  /-- `_in_use_connections`. -/
  inUse : Finset Nat
  /-- `pid`. -/
  pid : Nat
  /-- The number of connections made. -/
  made : Nat
  /-- The processes that made the connections. -/
  pids : Nat → Nat
  /-- `os.getpid()`. -/
  process : Nat

/-- The books of a pool. -/
def books (pool : SyncPool) : Books where
  createdConnections := pool.createdConnections
  available := pool.available
  inUse := pool.inUse
  pid := pool.pid
  made := pool.made
  pids id := (pool.connections id).pid
  process := pool.process

/-- Connections may change as long as they stay in their process. -/
theorem books_change (pool : SyncPool) (which : Nat → Bool)
    {f : PooledConnection → PooledConnection} (stays : ∀ c, (f c).pid = c.pid) :
    (pool.change which f).books = pool.books := by
  unfold books change
  congr 1
  funext id
  by_cases one : which id = true
  · simp [one, stays]
  · simp [one]

/-- Talking changes no process. -/
theorem settle_pid (connected : Bool) (c : PooledConnection) : (c.settle connected).pid = c.pid := by
  cases connected <;> rfl

/-- Disconnecting changes no process. -/
theorem closed_pid (c : PooledConnection) : c.closed.pid = c.pid := rfl

/-- After a check the pool is of its process. -/
theorem current_pid (pool : SyncPool) : pool.current.pid = pool.current.process := by
  unfold current
  by_cases same : pool.pid = pool.process
  · rw [if_pos same]
    exact same
  · rw [if_neg same]
    rfl

/-- A check goes by the books. -/
theorem current_books {s t : SyncPool} (same : t.books = s.books) :
    t.current.books = s.current.books := by
  have pid : t.pid = s.pid := congrArg Books.pid same
  have process : t.process = s.process := congrArg Books.process same
  have made : t.made = s.made := congrArg Books.made same
  have pids : (fun id => (t.connections id).pid) = fun id => (s.connections id).pid :=
    congrArg Books.pids same
  unfold current
  rw [pid, process]
  by_cases here : s.pid = s.process
  · rw [if_pos here, if_pos here, same]
  · rw [if_neg here, if_neg here]
    unfold books reset
    simp only [process, made, pids]

/-- A second check changes nothing. -/
theorem current_current (pool : SyncPool) : pool.current.current = pool.current := by
  have here := pool.current_pid
  rw [current, if_pos here]

/-- A host and a port are not in the books. -/
theorem books_moved (pool : SyncPool) (id : Nat) (address : Address) :
    (pool.moved id address).books = pool.books :=
  books_change pool _ fun _ => rfl

/-- Learning a master address comes with a check. -/
theorem books_learned {s t : SyncPool} {address : Address}
    (kept : t.books = s.books ∨ t.books = s.current.books) :
    (t.learned address).books = s.current.books := by
  have same : (current { t with masterAddress := some address }).books = t.current.books :=
    current_books rfl
  unfold learned
  rw [books_change _ _ closed_pid, same]
  rcases kept with kept | kept
  · exact current_books kept
  · rw [current_books kept, current_current]

/-- Connecting leaves the books alone, but for a check. -/
theorem connects_books (config : SyncPoolConfig) (id : Nat) (s : SyncPool) :
    Connects config id (fun t => t.books = s.books ∨ t.books = s.current.books)
      fun t => t.books = s.books ∨ t.books = s.current.books where
  between _ kept := kept
  ticks _ kept := kept
  ticksTalking _ kept := kept
  talks t connected kept := by
    rw [update, books_change t _ (settle_pid connected)]
    exact kept
  hangsUp t kept := by
    rw [update, books_change t _ closed_pid]
    exact kept
  follows _ t address kept _ _ := by
    rw [books_moved]
    exact kept
  learns _ t address kept _ := by
    rw [books_moved]
    exact .inr (books_learned kept)
  moves _ t address kept := by
    rw [books_moved]
    exact kept
  plain _ _ kept := kept

/-! ## Accounts -/

/-- The accounts are in order. -/
structure Accounted (config : SyncPoolConfig) (pool : SyncPool) : Prop where
  /-- No connection is idle twice. -/
  nodup : pool.available.Nodup
  /-- No connection is idle and in use. -/
  disjoint : ∀ id ∈ pool.available, id ∉ pool.inUse
  /-- The count is right. -/
  counted : pool.createdConnections = pool.available.length + pool.inUse.card
  /-- There are not too many connections. -/
  bounded : pool.createdConnections ≤ config.bound

/-- The accounts are in order, and all connections in them were made by the pool in its process. -/
structure Sound (config : SyncPoolConfig) (pool : SyncPool) : Prop
    extends Accounted config pool where
  /-- The idle connections. -/
  idle : ∀ id ∈ pool.available, id < pool.made ∧ (pool.connections id).pid = pool.pid
  /-- The connections in use. -/
  busy : ∀ id ∈ pool.inUse, id < pool.made ∧ (pool.connections id).pid = pool.pid

/-- Soundness goes by the books. -/
theorem Sound.of_books {config : SyncPoolConfig} {s t : SyncPool} (sound : Sound config s)
    (same : t.books = s.books) : Sound config t := by
  have created : t.createdConnections = s.createdConnections :=
    congrArg Books.createdConnections same
  have available : t.available = s.available := congrArg Books.available same
  have inUse : t.inUse = s.inUse := congrArg Books.inUse same
  have pid : t.pid = s.pid := congrArg Books.pid same
  have made : t.made = s.made := congrArg Books.made same
  have pids (id : Nat) : (t.connections id).pid = (s.connections id).pid :=
    congrFun (congrArg Books.pids same) id
  constructor
  · constructor
    · rw [available]
      exact sound.nodup
    · rw [available, inUse]
      exact sound.disjoint
    · rw [created, available, inUse]
      exact sound.counted
    · rw [created]
      exact sound.bounded
  · intro id member
    rw [available] at member
    rw [made, pids, pid]
    exact sound.idle id member
  · intro id member
    rw [inUse] at member
    rw [made, pids, pid]
    exact sound.busy id member

/-- An empty pool is sound. -/
theorem Sound.reset (config : SyncPoolConfig) (pool : SyncPool) : Sound config pool.reset where
  nodup := List.nodup_nil
  disjoint _ member := by cases member
  counted := rfl
  bounded := Nat.zero_le _
  idle _ member := by cases member
  busy _ member := by cases member

/-- A check keeps the accounts. -/
theorem Sound.current {config : SyncPoolConfig} {s : SyncPool} (sound : Sound config s) :
    Sound config s.current := by
  unfold SyncPool.current
  by_cases here : s.pid = s.process
  · rw [if_pos here]
    exact sound
  · rw [if_neg here]
    exact Sound.reset config s

/-! ## Taking and giving back -/

/-- A connection in use becomes idle. -/
def returned (id : Nat) (pool : SyncPool) : SyncPool :=
  { pool with inUse := pool.inUse.erase id, available := pool.available ++ [id] }

/-- A connection in use leaves the accounts. -/
def dropped (id : Nat) (pool : SyncPool) : SyncPool :=
  { pool with inUse := pool.inUse.erase id }

/-- Giving a connection back keeps the accounts. -/
theorem Sound.returned {config : SyncPoolConfig} {s : SyncPool} {id : Nat}
    (sound : Sound config s) (inUse : id ∈ s.inUse) : Sound config (s.returned id) := by
  have other : id ∉ s.available := fun member => sound.disjoint id member inUse
  constructor
  · constructor
    · show (s.available ++ [id]).Nodup
      rw [List.nodup_append]
      refine ⟨sound.nodup, List.nodup_singleton id, ?_⟩
      intro a member b single same
      rw [List.mem_singleton] at single
      rw [same, single] at member
      exact other member
    · intro a member
      show a ∉ s.inUse.erase id
      rcases List.mem_append.mp member with earlier | last
      · exact fun busy => sound.disjoint a earlier (Finset.mem_of_mem_erase busy)
      · rw [List.mem_singleton] at last
        rw [last]
        exact Finset.notMem_erase id s.inUse
    · show s.createdConnections = (s.available ++ [id]).length + (s.inUse.erase id).card
      have one := Finset.card_erase_add_one inUse
      have counted := sound.counted
      rw [List.length_append, List.length_singleton]
      omega
    · exact sound.bounded
  · intro a member
    rcases List.mem_append.mp member with earlier | last
    · exact sound.idle a earlier
    · rw [List.mem_singleton] at last
      rw [last]
      exact sound.busy id inUse
  · intro a member
    exact sound.busy a (Finset.mem_of_mem_erase member)

/-- A connection that leaves the accounts is still counted. -/
theorem Sound.dropped_uncounted {config : SyncPoolConfig} {s : SyncPool} {id : Nat}
    (sound : Sound config s) (inUse : id ∈ s.inUse) :
    (s.dropped id).createdConnections ≠
      (s.dropped id).available.length + (s.dropped id).inUse.card := by
  have one := Finset.card_erase_add_one inUse
  have counted := sound.counted
  show s.createdConnections ≠ s.available.length + (s.inUse.erase id).card
  omega

section Steps

variable (config : SyncPoolConfig) (env : PoolEnv)

/-- What `release` does to the books. -/
theorem release_books (id : Nat) (s : SyncPool) :
    (stateAfter (release config env id s)).books =
      if id ∈ s.current.inUse then
        if s.current.ownsConnection config id then (s.current.returned id).books
        else (s.current.dropped id).books
      else s.current.books := by
  have checked : checkpid s = .ok () s.current := rfl
  have looked : (get : EStateM Exc SyncPool SyncPool) s.current = .ok s.current s.current := rfl
  unfold release
  rw [Interruptible.bind_of_ok checked, Interruptible.bind_of_ok looked]
  by_cases inUse : id ∈ s.current.inUse
  · unfold whenever
    rw [if_pos inUse, if_pos inUse]
    have erased : (modify fun pool => { pool with inUse := pool.inUse.erase id } :
      EStateM Exc SyncPool Unit) s.current = .ok () (s.current.dropped id) := rfl
    rw [Interruptible.bind_of_ok erased]
    by_cases owned : s.current.ownsConnection config id = true
    · rw [if_pos owned, if_pos owned]
      have appended : (modify fun pool => { pool with available := pool.available ++ [id] } :
        EStateM Exc SyncPool Unit) (s.current.dropped id) = .ok () (s.current.returned id) := rfl
      rw [Interruptible.bind_of_ok appended]
      have listens : Keeps (fun t : SyncPool => t.books = (s.current.returned id).books)
          (consult env.listen) := keeps_consult (fun _ kept => kept) env.listen
      exact listens.stateAfter rfl
    · rw [if_neg owned, if_neg owned]
      exact books_change _ _ closed_pid
  · unfold whenever
    rw [if_neg inUse, if_neg inUse]
    rfl

/-- A pool with a new connection, which is in use. -/
def grown (s : SyncPool) : SyncPool :=
  { (s.tick.update s.made fun _ =>
      { pid := s.process, address := config.address, sock := none }) with
    createdConnections := s.createdConnections + 1
    made := s.made + 1
    inUse := insert s.made s.inUse }

/-- The idle connection on top is taken. -/
theorem take_idle {s : SyncPool} {id : Nat} (top : s.available.getLast? = some id) :
    take config env s = .ok id
      { s with available := s.available.dropLast, inUse := insert id s.inUse } := by
  have looked : (get : EStateM Exc SyncPool SyncPool) s = .ok s s := rfl
  have popped : popOrMake config env s = .ok id { s with available := s.available.dropLast } := by
    unfold popOrMake
    rw [Interruptible.bind_of_ok looked, top]
    rfl
  unfold take
  rw [Interruptible.bind_of_ok popped]
  rfl

/-- A connection is made if there is room, and counted before it is constructed. -/
theorem makeConnection_eq (s : SyncPool) :
    makeConnection config env s =
      if config.bound ≤ s.createdConnections then .error { cls := .connectionError } s
      else
        match env.construct s.clock with
        | .ok () => .ok s.made { s.grown config with inUse := s.inUse }
        | .error e => .error e { s.tick with createdConnections := s.createdConnections + 1 } := by
  have looked : (get : EStateM Exc SyncPool SyncPool) s = .ok s s := rfl
  unfold makeConnection
  rw [Interruptible.bind_of_ok looked]
  unfold whenever
  by_cases full : config.bound ≤ s.createdConnections
  · rw [if_pos full, if_pos full]
    rfl
  · rw [if_neg full, if_neg full]
    cases built : env.construct s.clock with
    | ok value =>
      have constructed : consult env.construct
          { s with createdConnections := s.createdConnections + 1 } =
            .ok value { s.tick with createdConnections := s.createdConnections + 1 } :=
        consult_ok built
      show (consult env.construct >>= _) _ = _
      rw [Interruptible.bind_of_ok constructed]
      rfl
    | error e =>
      have constructed : consult env.construct
          { s with createdConnections := s.createdConnections + 1 } =
            .error e { s.tick with createdConnections := s.createdConnections + 1 } :=
        consult_error built
      show (consult env.construct >>= _) _ = _
      rw [Interruptible.bind_of_error constructed]

/-- With no idle connection one is made. -/
theorem take_empty {s : SyncPool} (empty : s.available = []) :
    take config env s =
      if config.bound ≤ s.createdConnections then .error { cls := .connectionError } s
      else
        match env.construct s.clock with
        | .ok () => .ok s.made (s.grown config)
        | .error e => .error e { s.tick with createdConnections := s.createdConnections + 1 } := by
  have looked : (get : EStateM Exc SyncPool SyncPool) s = .ok s s := rfl
  have popped : popOrMake config env s = makeConnection config env s := by
    unfold popOrMake
    rw [Interruptible.bind_of_ok looked, empty]
    rfl
  rw [makeConnection_eq] at popped
  unfold take
  by_cases full : config.bound ≤ s.createdConnections
  · rw [if_pos full] at popped ⊢
    rw [Interruptible.bind_of_error popped]
  · rw [if_neg full] at popped ⊢
    cases built : env.construct s.clock with
    | ok value =>
      rw [built] at popped
      rw [Interruptible.bind_of_ok popped]
      rfl
    | error e =>
      rw [built] at popped
      rw [Interruptible.bind_of_error popped]

variable {config} {env} in
/-- Where a connection was taken, it was idle, or it was made. -/
theorem take_ok_cases {s t : SyncPool} {id : Nat} (ran : take config env s = .ok id t) :
    s.available.getLast? = some id ∧
        t = { s with available := s.available.dropLast, inUse := insert id s.inUse } ∨
      s.available = [] ∧ s.createdConnections < config.bound ∧
        env.construct s.clock = .ok () ∧ id = s.made ∧ t = s.grown config := by
  cases top : s.available.getLast? with
  | some idle =>
    rw [take_idle config env top] at ran
    cases ran
    exact .inl ⟨rfl, rfl⟩
  | none =>
    have empty := List.getLast?_eq_none_iff.mp top
    rw [take_empty config env empty] at ran
    by_cases full : config.bound ≤ s.createdConnections
    · rw [if_pos full] at ran
      cases ran
    · rw [if_neg full] at ran
      cases built : env.construct s.clock with
      | error e =>
        rw [built] at ran
        cases ran
      | ok value =>
        rw [built] at ran
        cases ran
        exact .inr ⟨empty, Nat.lt_of_not_le full, rfl, rfl, rfl⟩

variable {config} {env} in
/-- Where no connection was taken, there was no room, or a constructor raised. -/
theorem take_error_cases {s t : SyncPool} {e : Exc} (ran : take config env s = .error e t) :
    s.available = [] ∧ (config.bound ≤ s.createdConnections ∧ t = s ∨
      s.createdConnections < config.bound ∧ env.construct s.clock = .error e ∧
        t = { s.tick with createdConnections := s.createdConnections + 1 }) := by
  cases top : s.available.getLast? with
  | some idle =>
    rw [take_idle config env top] at ran
    cases ran
  | none =>
    have empty := List.getLast?_eq_none_iff.mp top
    rw [take_empty config env empty] at ran
    refine ⟨empty, ?_⟩
    by_cases full : config.bound ≤ s.createdConnections
    · rw [if_pos full] at ran
      cases ran
      exact .inl ⟨full, rfl⟩
    · rw [if_neg full] at ran
      cases built : env.construct s.clock with
      | ok value =>
        rw [built] at ran
        cases ran
      | error raised =>
        rw [built] at ran
        cases ran
        exact .inr ⟨Nat.lt_of_not_le full, rfl, rfl⟩

/-- What a call of `get_connection` comes to. -/
theorem getConnection_cases (s : SyncPool) :
    (∃ e t, take config env s.current = .error e t ∧ getConnection config env s = .error e t) ∨
    (∃ id t u, take config env s.current = .ok id t ∧ ready config env id t = .ok () u ∧
      getConnection config env s = .ok id u) ∨
    ∃ id t e u f v, take config env s.current = .ok id t ∧ ready config env id t = .error e u ∧
      stateAfter (release config env id u) = v ∧ getConnection config env s = .error f v := by
  have checked : checkpid s = .ok () s.current := rfl
  unfold getConnection
  rw [Interruptible.bind_of_ok checked]
  exact acquire_cases (take config env) (ready config env) (release config env) s.current

/-! ## One step -/

/-- What holds after a connection was taken. -/
structure Taken (s : SyncPool) (id : Nat) (t : SyncPool) : Prop where
  /-- The accounts are in order. -/
  sound : Sound config t
  /-- The pool is of its process. -/
  here : t.pid = t.process
  /-- The connection is in use. -/
  inUse : id ∈ t.inUse
  /-- It was idle, or is new. -/
  source : id ∈ s.available ∨ id = s.made
  /-- The others stay idle. -/
  rest : ∀ other ∈ t.available, other ∈ s.available ∧ other ≠ id
  /-- Connections are made one after another. -/
  grown : s.made ≤ t.made ∧ id < t.made

variable {config} {env}

/-- Taking an idle connection. -/
theorem Sound.taken_idle {s : SyncPool} (sound : Sound config s) (here : s.pid = s.process)
    {id : Nat} (top : s.available.getLast? = some id) :
    Taken config s id { s with available := s.available.dropLast, inUse := insert id s.inUse } := by
  have whole : s.available.dropLast ++ [id] = s.available := List.dropLast_append_getLast? id top
  have member : id ∈ s.available := by
    rw [← whole]
    exact List.mem_append_right _ (List.mem_singleton_self id)
  have nodup := sound.nodup
  rw [← whole, List.nodup_append] at nodup
  have others : ∀ other ∈ s.available.dropLast, other ∈ s.available ∧ other ≠ id :=
    fun other kept => ⟨List.mem_of_mem_dropLast kept,
      nodup.2.2 other kept id (List.mem_singleton_self id)⟩
  have known : ∀ other ∈ insert id s.inUse, other < s.made ∧
      (s.connections other).pid = s.pid := by
    intro other inUse
    rcases Finset.mem_insert.mp inUse with same | busy
    · rw [same]
      exact sound.idle id member
    · exact sound.busy other busy
  refine ⟨⟨⟨nodup.1, ?_, ?_, sound.bounded⟩, fun other kept => sound.idle other (others other kept).1,
    known⟩, here, Finset.mem_insert_self id s.inUse, .inl member, others,
    Nat.le_refl _, (sound.idle id member).1⟩
  · intro other kept inUse
    rcases Finset.mem_insert.mp inUse with same | busy
    · exact (others other kept).2 same
    · exact sound.disjoint other (others other kept).1 busy
  · have counted := sound.counted
    have longer : s.available.length = s.available.dropLast.length + 1 := by
      rw [← whole, List.length_append, List.length_singleton, whole]
    have fresh := Finset.card_insert_of_notMem (sound.disjoint id member)
    show s.createdConnections = s.available.dropLast.length + (insert id s.inUse).card
    omega

/-- Taking a new connection. -/
theorem Sound.taken_made {s : SyncPool} (sound : Sound config s) (here : s.pid = s.process)
    (empty : s.available = []) (room : s.createdConnections < config.bound) :
    Taken config s s.made (s.grown config) := by
  let fresh : PooledConnection := { pid := s.process, address := config.address, sock := none }
  have older : ∀ id, id < s.made → (s.grown config).connections id = s.connections id :=
    fun id earlier => update_other s.tick (fun _ => fresh) (Nat.ne_of_lt earlier)
  have new : ((s.grown config).connections s.made).pid = s.process :=
    congrArg PooledConnection.pid (update_self s.tick s.made fun _ => fresh)
  have unused : s.made ∉ s.inUse := fun busy => Nat.lt_irrefl _ (sound.busy _ busy).1
  have none : ∀ id, id ∉ (s.grown config).available := by
    intro id member
    have idle : id ∈ s.available := member
    rw [empty] at idle
    cases idle
  refine ⟨⟨⟨sound.nodup, fun id member => absurd member (none id), ?_, room⟩,
    fun id member => absurd member (none id), ?_⟩, here, Finset.mem_insert_self _ _, .inr rfl,
    fun id member => absurd member (none id), Nat.le_succ _, Nat.lt_succ_self _⟩
  · have counted := sound.counted
    have one := Finset.card_insert_of_notMem unused
    show s.createdConnections + 1 = s.available.length + (insert s.made s.inUse).card
    omega
  · intro id inUse
    show id < s.made + 1 ∧ ((s.grown config).connections id).pid = s.pid
    rcases Finset.mem_insert.mp inUse with same | busy
    · rw [same, new, here]
      exact ⟨Nat.lt_succ_self _, rfl⟩
    · rw [older id (sound.busy id busy).1]
      exact ⟨Nat.lt_succ_of_lt (sound.busy id busy).1, (sound.busy id busy).2⟩

/-- Whatever is taken. -/
theorem Sound.taken {s t : SyncPool} {id : Nat} (sound : Sound config s) (here : s.pid = s.process)
    (ran : take config env s = .ok id t) : Taken config s id t := by
  rcases take_ok_cases ran with ⟨top, rfl⟩ | ⟨empty, room, -, rfl, rfl⟩
  · exact sound.taken_idle here top
  · exact sound.taken_made here empty room

/-- Taking a connection does not change the process. -/
theorem take_here {s t : SyncPool} {id : Nat} (ran : take config env s = .ok id t)
    (here : s.pid = s.process) : t.pid = t.process := by
  rcases take_ok_cases ran with ⟨-, rfl⟩ | ⟨-, -, -, -, rfl⟩
  · exact here
  · exact here

/-- Getting a connection ready leaves the books alone. -/
theorem ready_books (config : SyncPoolConfig) (env : PoolEnv) (id : Nat) {s : SyncPool}
    (here : s.pid = s.process) : (stateAfter (ready config env id s)).books = s.books := by
  have same : s.current = s := by rw [current, if_pos here]
  have kept := ((connects_books config id s).ready env).stateAfter (.inl rfl)
  rw [same] at kept
  exact kept.elim (fun kept => kept) fun kept => kept

end Steps

/-! ## What breaks the accounts -/

/-- Nothing happens that would take a connection out of the accounts: no constructor raises, and
every connection in use that is released, by its holder or because it could not be got ready, is
one that the pool owns. -/
def Owned (config : SyncPoolConfig) (env : PoolEnv) (pool : SyncPool) : SyncPoolStep → Prop
  | .getConnection =>
    (pool.current.available = [] → pool.current.createdConnections < config.bound →
      env.construct pool.current.clock = .ok ()) ∧
    ∀ id t e u, take config env pool.current = .ok id t → ready config env id t = .error e u →
      u.ownsConnection config id = true
  | .release id => id ∈ pool.current.inUse → pool.current.ownsConnection config id = true
  | _ => True

section Owned

variable {config : SyncPoolConfig} {env : PoolEnv} {s : SyncPool}

/-- A release of a connection that the pool owns, if it is in use at all. -/
theorem Sound.released {id : Nat} (sound : Sound config s)
    (owned : id ∈ s.current.inUse → s.current.ownsConnection config id = true) :
    Sound config (stateAfter (release config env id s)) := by
  have books := release_books config env id s
  by_cases inUse : id ∈ s.current.inUse
  · rw [if_pos inUse, if_pos (owned inUse)] at books
    exact (sound.current.returned inUse).of_books books
  · rw [if_neg inUse] at books
    exact sound.current.of_books books

/-- A release of another connection in use. -/
theorem Sound.released_uncounted {id : Nat} (sound : Sound config s) (inUse : id ∈ s.current.inUse)
    (foreign : ¬s.current.ownsConnection config id = true) :
    (stateAfter (release config env id s)).createdConnections ≠
      (stateAfter (release config env id s)).available.length +
        (stateAfter (release config env id s)).inUse.card := by
  have books := release_books config env id s
  rw [if_pos inUse, if_neg foreign] at books
  have created : (stateAfter (release config env id s)).createdConnections = _ :=
    congrArg Books.createdConnections books
  have available : (stateAfter (release config env id s)).available = _ :=
    congrArg Books.available books
  have busy : (stateAfter (release config env id s)).inUse = _ := congrArg Books.inUse books
  rw [created, available, busy]
  exact sound.current.dropped_uncounted inUse

/-- Where a connection could not be taken, the accounts are in order unless a constructor raised. -/
theorem Sound.refused {e : Exc} {t : SyncPool} (sound : Sound config s)
    (ran : take config env s = .error e t) :
    Sound config t ∧ (s.available = [] → ¬s.createdConnections < config.bound) ∨
      (s.available = [] ∧ s.createdConnections < config.bound ∧
        env.construct s.clock = .error e ∧
        t.createdConnections ≠ t.available.length + t.inUse.card) := by
  obtain ⟨empty, ⟨full, rfl⟩ | ⟨room, raised, rfl⟩⟩ := take_error_cases ran
  · exact .inl ⟨sound, fun _ => Nat.not_lt_of_le full⟩
  · refine .inr ⟨empty, room, raised, ?_⟩
    have counted := sound.counted
    show s.createdConnections + 1 ≠ s.available.length + s.inUse.card
    omega

/-- A connection that could not be got ready is in use, in a pool that is sound. -/
theorem Taken.unready {id : Nat} {t u : SyncPool} {e : Exc} (taken : Taken config s id t)
    (readied : ready config env id t = .error e u) :
    Sound config u ∧ u.current = u ∧ id ∈ u.inUse := by
  have books := ready_books config env id taken.here
  rw [readied] at books
  have here : u.pid = u.process := by
    have pid : u.pid = t.pid := congrArg Books.pid books
    have process : u.process = t.process := congrArg Books.process books
    rw [pid, process, taken.here]
  have inUse : u.inUse = t.inUse := congrArg Books.inUse books
  refine ⟨taken.sound.of_books books, by rw [current, if_pos here], ?_⟩
  rw [inUse]
  exact taken.inUse

/-- A call of `get_connection` in which nothing goes wrong with the accounts. -/
theorem Sound.got (sound : Sound config s) (owned : Owned config env s .getConnection) :
    Sound config (stateAfter (getConnection config env s)) := by
  rcases getConnection_cases config env s with ⟨e, t, ran, ends⟩ | ⟨id, t, u, ran, readied, ends⟩ |
    ⟨id, t, e, u, f, v, ran, readied, released, ends⟩
  · rw [ends]
    rcases sound.current.refused ran with ⟨kept, -⟩ | ⟨empty, room, built, -⟩
    · exact kept
    · rw [owned.1 empty room] at built
      cases built
  · rw [ends]
    have taken := sound.current.taken (current_pid s) ran
    have books := ready_books config env id taken.here
    rw [readied] at books
    exact taken.sound.of_books books
  · have taken := sound.current.taken (current_pid s) ran
    obtain ⟨left, same, -⟩ := taken.unready readied
    rw [ends]
    show Sound config v
    rw [← released]
    apply left.released
    intro _
    rw [same]
    exact owned.2 id t e u ran readied

/-- Where a connection was taken, no constructor raised. -/
theorem constructed_of_take {id : Nat} {t : SyncPool} (ran : take config env s = .ok id t)
    (empty : s.available = []) : env.construct s.clock = .ok () := by
  rcases take_ok_cases ran with ⟨top, -⟩ | ⟨-, -, built, -, -⟩
  · rw [empty] at top
    cases top
  · exact built

/-- A call in which something does. -/
theorem Sound.got_uncounted (sound : Sound config s)
    (lost : ¬Owned config env s .getConnection) :
    (stateAfter (getConnection config env s)).createdConnections ≠
      (stateAfter (getConnection config env s)).available.length +
        (stateAfter (getConnection config env s)).inUse.card := by
  rcases getConnection_cases config env s with ⟨e, t, ran, ends⟩ | ⟨id, t, u, ran, readied, ends⟩ |
    ⟨id, t, e, u, f, v, ran, readied, released, ends⟩
  · rw [ends]
    rcases sound.current.refused ran with ⟨-, full⟩ | ⟨-, -, -, uncounted⟩
    · exfalso
      apply lost
      refine ⟨fun empty room => absurd room (full empty), ?_⟩
      intro id t e u other
      rw [ran] at other
      cases other
    · exact uncounted
  · exfalso
    apply lost
    refine ⟨fun empty _ => constructed_of_take ran empty, ?_⟩
    intro id' t' e' u' ran' readied'
    rw [ran] at ran'
    cases ran'
    rw [readied] at readied'
    cases readied'
  · have taken := sound.current.taken (current_pid s) ran
    obtain ⟨left, same, inUse⟩ := taken.unready readied
    rw [ends]
    show v.createdConnections ≠ v.available.length + v.inUse.card
    rw [← released]
    apply left.released_uncounted
    · rw [same]
      exact inUse
    · rw [same]
      intro owned
      apply lost
      refine ⟨fun empty _ => constructed_of_take ran empty, ?_⟩
      intro id' t' e' u' ran' readied'
      rw [ran] at ran'
      cases ran'
      rw [readied] at readied'
      cases readied'
      exact owned

end Owned

end SyncPool

/-! ## Runs -/

namespace SyncPoolRun

open SyncPool

/-- The accounts are in order, and no connection that somebody holds is idle. -/
structure Kept (config : SyncPoolConfig) (run : SyncPoolRun) : Prop where
  /-- The accounts. -/
  sound : Sound config run.pool
  /-- The connections that are held. -/
  held : ∀ id ∈ run.held, id ∉ run.pool.available ∧ id < run.pool.made

section Steps

variable {config : SyncPoolConfig} {env : PoolEnv} {run : SyncPoolRun}

/-- Nobody holds a connection of a new pool. -/
theorem kept_start (config : SyncPoolConfig) (process : Nat) : Kept config (start config process) where
  sound := Sound.reset config (.new config process)
  held _ member := by cases member

/-- What is idle after a check was idle before. -/
theorem mem_current {s : SyncPool} {id : Nat} (idle : id ∈ s.current.available) :
    id ∈ s.available := by
  unfold current at idle
  by_cases here : s.pid = s.process
  · rwa [if_pos here] at idle
  · rw [if_neg here] at idle
    cases idle

/-- A check makes no connections. -/
theorem current_made (s : SyncPool) : s.current.made = s.made := by
  unfold current
  by_cases here : s.pid = s.process
  · rw [if_pos here]
  · rw [if_neg here]
    rfl

/-- A connection that `get_connection` returns is held by nobody, and is of this process. -/
theorem Kept.handed (kept : Kept config run) {id : Nat} {u : SyncPool}
    (ran : getConnection config env run.pool = .ok id u) :
    id ∉ run.held ∧ (u.connections id).pid = u.process := by
  rcases getConnection_cases config env run.pool with ⟨e, t, -, ends⟩ |
    ⟨id', t, u', taking, readied, ends⟩ | ⟨id', t, e, u', f, v, -, -, -, ends⟩
  · rw [ran] at ends
    cases ends
  · rw [ran] at ends
    cases ends
    have taken := kept.sound.current.taken (current_pid run.pool) taking
    have books := ready_books config env id taken.here
    rw [readied] at books
    constructor
    · intro member
      have held := kept.held id member
      rcases taken.source with idle | new
      · exact held.1 (mem_current idle)
      · rw [current_made] at new
        omega
    · have pid : (u.connections id).pid = (t.connections id).pid :=
        congrFun (congrArg Books.pids books) id
      have process : u.process = t.process := congrArg Books.process books
      rw [pid, process, (taken.sound.busy id taken.inUse).2, taken.here]
  · rw [ran] at ends
    cases ends

/-- Idle connections after a release. -/
theorem mem_released {id other : Nat} {s : SyncPool}
    (idle : other ∈ (stateAfter (release config env id s)).available) :
    other ∈ s.current.available ∨ other = id := by
  have books := release_books config env id s
  have available : (stateAfter (release config env id s)).available = _ :=
    congrArg Books.available books
  rw [available] at idle
  by_cases inUse : id ∈ s.current.inUse
  · rw [if_pos inUse] at idle
    by_cases owned : s.current.ownsConnection config id = true
    · rw [if_pos owned] at idle
      exact (List.mem_append.mp idle).imp_right List.mem_singleton.mp
    · rw [if_neg owned] at idle
      exact .inl idle
  · rw [if_neg inUse] at idle
    exact .inl idle

/-- A release makes no connections. -/
theorem released_made (config : SyncPoolConfig) (env : PoolEnv) (id : Nat) (s : SyncPool) :
    (stateAfter (release config env id s)).made = s.made := by
  have books := release_books config env id s
  have made : (stateAfter (release config env id s)).made = _ := congrArg Books.made books
  rw [made, ← current_made s]
  by_cases inUse : id ∈ s.current.inUse
  · rw [if_pos inUse]
    by_cases owned : s.current.ownsConnection config id = true
    · rw [if_pos owned]
      rfl
    · rw [if_neg owned]
      rfl
  · rw [if_neg inUse]
    rfl

/-- A call of `get_connection` that raises makes no connection idle that was held. -/
theorem Kept.raised (kept : Kept config run) {e : Exc} {v : SyncPool}
    (ran : getConnection config env run.pool = .error e v) :
    ∀ id ∈ run.held, id ∉ v.available ∧ id < v.made := by
  intro id member
  have held := kept.held id member
  rcases getConnection_cases config env run.pool with ⟨e', t, taking, ends⟩ |
    ⟨id', t, u, -, -, ends⟩ | ⟨id', t, e', u, f, v', taking, readied, released, ends⟩
  · rw [ran] at ends
    cases ends
    have same : v.available = run.pool.current.available ∧ v.made = run.pool.current.made := by
      obtain ⟨-, ⟨-, rfl⟩ | ⟨-, -, rfl⟩⟩ := take_error_cases taking
      · exact ⟨rfl, rfl⟩
      · exact ⟨rfl, rfl⟩
    rw [same.1, same.2, current_made]
    exact ⟨fun idle => held.1 (mem_current idle), held.2⟩
  · rw [ran] at ends
    cases ends
  · rw [ran] at ends
    cases ends
    have taken := kept.sound.current.taken (current_pid run.pool) taking
    have books := ready_books config env id' taken.here
    obtain ⟨-, same, -⟩ := taken.unready readied
    rw [readied] at books
    have available : u.available = t.available := congrArg Books.available books
    have made : u.made = t.made := congrArg Books.made books
    have grown := taken.grown.1
    rw [current_made] at grown
    rw [← released, released_made, made]
    refine ⟨fun idle => ?_, by omega⟩
    rcases mem_released idle with other | new
    · rw [same, available] at other
      exact held.1 (mem_current (taken.rest id other).1)
    · rw [new] at held
      rcases taken.source with idle | new
      · exact held.1 (mem_current idle)
      · rw [current_made] at new
        omega

/-- Another pool with the same books, before or after a check. -/
theorem Kept.of_books (kept : Kept config run) {pool : SyncPool}
    (books : pool.books = run.pool.books ∨ pool.books = run.pool.current.books) :
    Kept config { run with pool } := by
  have sound : Sound config pool := books.elim kept.sound.of_books kept.sound.current.of_books
  refine ⟨sound, fun id member => ?_⟩
  have held := kept.held id member
  show id ∉ pool.available ∧ id < pool.made
  rcases books with books | books
  · have available : pool.available = run.pool.available := congrArg Books.available books
    have made : pool.made = run.pool.made := congrArg Books.made books
    rw [available, made]
    exact held
  · have available : pool.available = run.pool.current.available := congrArg Books.available books
    have made : pool.made = run.pool.current.made := congrArg Books.made books
    rw [available, made, current_made]
    exact ⟨fun idle => held.1 (mem_current idle), held.2⟩

/-- One step in which nothing is lost. -/
theorem Kept.step (kept : Kept config run) {step : SyncPoolStep}
    (owned : Owned config env run.pool step) : Kept config (run.step config env step) := by
  cases step with
  | getConnection =>
    have sound := kept.sound.got owned
    cases ran : getConnection config env run.pool with
    | ok id u =>
      have unheld := kept.handed ran
      rw [ran] at sound
      have next : run.step config env .getConnection = { pool := u, held := insert id run.held } := by
        unfold SyncPoolRun.step
        rw [ran]
      rw [next]
      rcases getConnection_cases config env run.pool with ⟨e, t, -, ends⟩ |
        ⟨id', t, u', taking, readied, ends⟩ | ⟨id', t, e, u', f, v, -, -, -, ends⟩
      · rw [ran] at ends
        cases ends
      · rw [ran] at ends
        cases ends
        have taken := kept.sound.current.taken (current_pid run.pool) taking
        have books := ready_books config env id taken.here
        rw [readied] at books
        have available : u.available = t.available := congrArg Books.available books
        have made : u.made = t.made := congrArg Books.made books
        have grown := taken.grown
        rw [current_made] at grown
        refine ⟨sound, fun other member => ?_⟩
        show other ∉ u.available ∧ other < u.made
        rw [available, made]
        rcases Finset.mem_insert.mp member with same | held
        · rw [same]
          exact ⟨fun idle => (taken.rest id idle).2 rfl, grown.2⟩
        · have before := kept.held other held
          exact ⟨fun idle => before.1 (mem_current (taken.rest other idle).1), by omega⟩
      · rw [ran] at ends
        cases ends
    | error e v =>
      rw [ran] at sound
      have next : run.step config env .getConnection = { run with pool := v } := by
        unfold SyncPoolRun.step
        rw [ran]
      rw [next]
      exact ⟨sound, kept.raised ran⟩
  | release id =>
    refine ⟨kept.sound.released owned, fun other member => ?_⟩
    obtain ⟨distinct, held⟩ := Finset.mem_erase.mp member
    have before := kept.held other held
    show other ∉ (stateAfter (release config env id run.pool)).available ∧
      other < (stateAfter (release config env id run.pool)).made
    rw [released_made]
    refine ⟨fun idle => ?_, before.2⟩
    rcases mem_released idle with earlier | same
    · exact before.1 (mem_current earlier)
    · exact distinct same
  | disconnect inuseConnections =>
    exact kept.of_books (.inr (books_change run.pool.current _ closed_pid))
  | fork =>
    have sound := kept.sound
    refine ⟨⟨⟨sound.nodup, sound.disjoint, sound.counted, sound.bounded⟩, sound.idle, sound.busy⟩, ?_⟩
    intro other member
    cases member
  | connect id =>
    exact kept.of_books (((connects_books config id run.pool).connect env).stateAfter (.inl rfl))
  | talk id connected =>
    exact kept.of_books (.inl (books_change run.pool _ (settle_pid connected)))

/-- A pool that does not keep to a master owns every connection in use. -/
theorem owns_busy {s : SyncPool} (master : config.kind.isMaster = false) (sound : Sound config s)
    {id : Nat} (inUse : id ∈ s.inUse) : s.ownsConnection config id = true := by
  unfold ownsConnection
  rw [master, (sound.busy id inUse).2]
  simp

/-- A pool that does not keep to a master loses nothing, unless a constructor raises. -/
theorem Kept.owned (kept : Kept config run) (master : config.kind.isMaster = false)
    (constructs : ∀ n, env.construct n = .ok ()) (step : SyncPoolStep) :
    Owned config env run.pool step := by
  cases step with
  | getConnection =>
    refine ⟨fun _ _ => constructs _, ?_⟩
    intro id t e u ran readied
    have taken := kept.sound.current.taken (current_pid run.pool) ran
    obtain ⟨left, -, inUse⟩ := taken.unready readied
    exact owns_busy master left inUse
  | release id => exact fun inUse => owns_busy master kept.sound.current inUse
  | disconnect inuseConnections => trivial
  | fork => trivial
  | connect id => trivial
  | talk id connected => trivial

end Steps

/-- In every run of a plain pool whose connections can be constructed, the accounts are in order,
and a connection that `get_connection` returns is held by nobody and was made in the calling
process. -/
theorem accounted_after (config : SyncPoolConfig) (env : PoolEnv)
    (standard : config.kind = .standard) (constructs : ∀ n, env.construct n = .ok ())
    (process : Nat) (steps : List SyncPoolStep) :
    Accounted config ((start config process).after config env steps).pool ∧
      ∀ id u, getConnection config env ((start config process).after config env steps).pool =
        .ok id u →
          id ∉ ((start config process).after config env steps).held ∧
            (u.connections id).pid = u.process := by
  have plain : config.kind.isMaster = false := by
    rw [standard]
    rfl
  have kept : Kept config ((start config process).after config env steps) :=
    Runs.inv_of_keeps (Kept config)
      (fun _ step kept => kept.step (kept.owned plain constructs step)) (kept_start config process)
  exact ⟨kept.sound.toAccounted, fun id u ran => kept.handed ran⟩

/-- A plain pool for one connection. -/
def single : SyncPoolConfig where
  kind := .standard
  maxConnections := some 1
  cached := false
  address := { host := "localhost".toList, port := 6379 }
  retry := { retries := some 0, supportedErrors := [] }

/-- A connection is taken, the process forks, and the child releases its parent's connection twice
before it takes one of its own. -/
theorem accounted_after_fork :
    let run := (start single 0).after single .answering
      [.getConnection, .fork, .release 0, .release 0, .getConnection]
    Accounted single run.pool ∧ ∀ id u, getConnection single .answering run.pool = .ok id u →
      id ∉ run.held ∧ (u.connections id).pid = u.process :=
  accounted_after single .answering rfl (fun _ => rfl) 0 _

end SyncPoolRun

end RedisPy

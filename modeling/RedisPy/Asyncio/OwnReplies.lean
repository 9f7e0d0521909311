import RedisPy.Asyncio.SingleConnection

/-!
# Every task gets the reply to its own command

While a task holds `_single_conn_lock` it knows which replies are owed to it, and it gives the lock
back with nothing unread. So whatever the order of the turns, and wherever tasks are cancelled and
sockets fail, every reply is read by the task that sent its command, and the pool gives out one
connection.
-/

namespace RedisPy

open Cooperation Coroutine

namespace SingleClient

variable {F : Type}

/-! ## What the lock protects -/

/-- Replies are read by the tasks they are for, and there is no second connection. -/
structure Apart (s : SingleClient F) : Prop where
  own : ∀ heard ∈ s.heard, heard.written.task = heard.reader
  single : s.taken.length ≤ 1

/-- What every task may count on. -/
structure Grows (s t : SingleClient F) : Prop where
  stays : ∀ c, s.connection = some c → t.connection = some c
  heard : ∀ heard ∈ s.heard, heard ∈ t.heard
  apart : Apart s → Apart t

/-- Nothing is unread. -/
structure Settled (s : SingleClient F) : Prop where
  taken : s.taken = s.connection.toList
  idle : ∀ d, (s.wires d).outstanding = []

/-- Nothing has changed. -/
theorem Grows.refl (s : SingleClient F) : Grows s s := ⟨fun _ => id, fun _ => id, id⟩

/-- One change after another. -/
theorem Grows.trans {r s t : SingleClient F} (first : Grows r s) (second : Grows s t) : Grows r t where
  stays c has := second.stays c (first.stays c has)
  heard heard among := second.heard heard (first.heard heard among)
  apart holds := second.apart (first.apart holds)

/-- The law of `_single_conn_lock`. -/
def law : Protects (SingleClient F) where
  inv := Settled
  grows := Grows
  ever := Apart
  refl := Grows.refl
  trans _ _ _ := Grows.trans
  lasts _ _ holds grows := grows.apart holds

/-! ## What the task with the lock knows -/

/-- The client has this connection, and the others are idle. -/
structure Bound (c : Nat) (s : SingleClient F) : Prop where
  connection : s.connection = some c
  taken : s.taken = [c]
  others : ∀ d, d ≠ c → (s.wires d).outstanding = []
  lost : (s.wires c).connected = false → (s.wires c).outstanding = []

/-- The connection has no streams. -/
structure Lost (c : Nat) (s : SingleClient F) : Prop where
  bound : Bound c s
  lost : (s.wires c).connected = false

/-- These replies are owed to the task, unless the connection is lost. -/
structure Owing (i c : Nat) (owed : List Written) (s : SingleClient F) : Prop where
  bound : Bound c s
  owes : (s.wires c).connected = true → (s.wires c).outstanding = owed
  mine : ∀ written ∈ owed, written.task = i

/-- These replies are owed to the task. -/
structure Open (i c : Nat) (owed : List Written) (s : SingleClient F) : Prop where
  owing : Owing i c owed s
  connected : (s.wires c).connected = true

/-- A task has read the reply to a command. -/
def Read (i : Nat) (written : Written) (reply : PyVal F) (s : SingleClient F) : Prop :=
  { reader := i, written, reply } ∈ s.heard

section Facts

variable {i c : Nat} {s : SingleClient F} {owed : List Written} {written : Written}

/-- Changing a connection is allowed. -/
theorem grows_put (s : SingleClient F) (c : Nat) (wire : Wire) : Grows s (s.put c wire) :=
  ⟨fun _ => id, fun _ => id, fun apart => ⟨apart.own, apart.single⟩⟩

/-- Asking the environment is allowed. -/
theorem grows_tick (s : SingleClient F) : Grows s s.tick :=
  ⟨fun _ => id, fun _ => id, fun apart => ⟨apart.own, apart.single⟩⟩

/-- The connection after its change. -/
@[simp] theorem wires_put (s : SingleClient F) (c : Nat) (wire : Wire) : (s.put c wire).wires c = wire := by
  simp [SingleClient.put]

/-- The connection has changed. -/
theorem Bound.put (bound : Bound c s) {wire : Wire} (lost : wire.connected = false → wire.outstanding = []) :
    Bound c (s.put c wire) where
  connection := bound.connection
  taken := bound.taken
  others d other := by
    have same : (s.put c wire).wires d = s.wires d := by simp [SingleClient.put, other]
    rw [same]
    exact bound.others d other
  lost := by
    rw [wires_put]
    exact lost

/-- A question to the environment. -/
theorem Bound.tick (bound : Bound c s) : Bound c s.tick :=
  ⟨bound.connection, bound.taken, bound.others, bound.lost⟩

/-- A question to the environment. -/
theorem Owing.tick (owing : Owing i c owed s) : Owing i c owed s.tick :=
  ⟨owing.bound.tick, owing.owes, owing.mine⟩

/-- The connection is lost. -/
theorem Bound.closed (bound : Bound c s) : Lost c (closed c s) where
  bound := bound.put fun _ => rfl
  lost := by
    unfold SingleClient.closed
    rw [wires_put]

/-- A lost connection owes whatever one likes. -/
theorem Lost.owing (lost : Lost c s) (mine : ∀ written ∈ owed, written.task = i) : Owing i c owed s where
  bound := lost.bound
  owes connected := by
    rw [lost.lost] at connected
    cases connected
  mine := mine

/-- Nothing is owed on a lost connection. -/
theorem Lost.idle (lost : Lost c s) : Owing i c [] s := lost.owing nofun

/-- The connection is new. -/
theorem Bound.opened (bound : Bound c s) (i : Nat) : Open i c [] (opened c s) := by
  unfold SingleClient.opened
  refine ⟨⟨bound.put fun _ => rfl, fun _ => ?_, nofun⟩, ?_⟩
  · rw [wires_put]
  · rw [wires_put]

/-- Other replies are owed on an open connection. -/
theorem Open.put (holds : Open i c owed s) {others : List Written}
    (mine : ∀ written ∈ others, written.task = i) :
    Open i c others (s.put c { s.wires c with outstanding := others }) := by
  refine ⟨⟨holds.owing.bound.put fun lost => ?_, fun _ => ?_, mine⟩, ?_⟩
  · rw [holds.connected] at lost
    cases lost
  · rw [wires_put]
  · rw [wires_put]
    exact holds.connected

/-- A command is written. -/
theorem Open.wrote (holds : Open i c owed s) (mine : written.task = i) :
    Open i c (owed ++ [written]) (wrote c written s) := by
  unfold SingleClient.wrote
  rw [holds.owing.owes holds.connected]
  refine holds.put fun other among => ?_
  rcases List.mem_append.mp among with earlier | last
  · exact holds.owing.mine other earlier
  · rw [List.mem_singleton.mp last]
    exact mine

/-- A reply is read. -/
theorem Open.hear (holds : Open i c (written :: owed) s) (reply : PyVal F) :
    Grows s (hear c owed { reader := i, written, reply } s) ∧
      Open i c owed (hear c owed { reader := i, written, reply } s) ∧
      Read i written reply (hear c owed { reader := i, written, reply } s) := by
  have rest := holds.put fun other among => holds.owing.mine other (List.mem_cons_of_mem written among)
  refine ⟨⟨fun _ => id, fun _ => List.mem_cons_of_mem _, fun apart => ⟨fun heard among => ?_, apart.single⟩⟩,
    ⟨⟨?_, rest.owing.owes, rest.owing.mine⟩, rest.connected⟩, List.mem_cons_self⟩
  · rcases List.mem_cons.mp among with last | earlier
    · rw [last]
      exact holds.owing.mine written List.mem_cons_self
    · exact apart.own heard earlier
  · exact ⟨rest.owing.bound.connection, rest.owing.bound.taken, rest.owing.bound.others, rest.owing.bound.lost⟩

/-- The lock was taken, and the connection is there. -/
theorem Settled.owing (settled : Settled s) (has : s.connection = some c) (i : Nat) : Owing i c [] s where
  bound :=
    { connection := has
      taken := by rw [settled.taken, has, Option.toList_some]
      others := fun d _ => settled.idle d
      lost := fun _ => settled.idle c }
  owes _ := settled.idle c
  mine _ among := absurd among List.not_mem_nil

/-- The lock may be given back. -/
theorem Owing.settled (owing : Owing i c [] s) : Settled s where
  taken := by rw [owing.bound.taken, owing.bound.connection, Option.toList_some]
  idle d := by
    by_cases same : d = c
    · rw [same]
      cases connected : (s.wires c).connected with
      | true => exact owing.owes connected
      | false => exact owing.bound.lost connected
    · exact owing.bound.others d same

end Facts

/-! ## The programs of the connection -/

section Contracts

variable (config : ConnectionConfig) (env : SingleEnv F) (i c : Nat) (owed : List Written)

/-- The contract of a program of this client. -/
abbrev Keeps {α : Type} (P : SingleClient F → Prop) (program : Program F α)
    (Q : α → SingleClient F → Prop) (E : Exc → SingleClient F → Prop) : Prop :=
  Meets Grows P program Q E

/-- Nothing is unread before a program and after it. -/
abbrev Uses {α : Type} (program : Program F α) : Prop :=
  Keeps (Owing i c []) program (fun _ => Owing i c []) fun _ => Owing i c []

/-- It leaves the connection open if it returns. -/
abbrev Opens {α : Type} (program : Program F α) : Prop :=
  Keeps (Owing i c []) program (fun _ => Open i c []) fun _ => Owing i c []

/-- It leaves an open connection open if it returns. -/
abbrev Stays {α : Type} (program : Program F α) : Prop :=
  Keeps (Open i c []) program (fun _ => Open i c []) fun _ => Owing i c []

/-- An open connection is opened at once. -/
theorem Stays.of_opens {α : Type} {program : Program F α} {i c : Nat} (keeps : Opens i c program) :
    Stays i c program := Meets.before keeps fun _ => Open.owing

/-- A pause. -/
theorem keeps_pause {P : SingleClient F → Prop} : Keeps P (wait fun _ => true) (fun _ => P) fun _ => P :=
  meets_wait (fun _ holds _ => holds) fun _ _ => id

/-- `call_with_retry`, if every failure leaves what the next attempt starts with. -/
theorem meets_callWithRetryAsync {α : Type} (retry : Retry) (backsOff : Nat → Bool)
    {P : SingleClient F → Prop} {Q : α → SingleClient F → Prop} {fail : Exc → Program F Unit}
    {run : Program F α} (runs : Keeps P run Q fun _ => P)
    (fails : ∀ e, Keeps P (fail e) (fun _ => P) fun _ => P) (patience failures : Nat) :
    Keeps P (retry.callWithRetryAsync backsOff fail run patience failures) Q fun _ => P := by
  have handles {again : Program F α} (repeats : Keeps P again Q fun _ => P)
      (failures : Nat) (e : Exc) :
      Keeps P (retry.handleAsync backsOff fail again failures e) Q fun _ => P := by
    have waits : Keeps P (whenever (backsOff failures = true) (wait fun _ => true)) (fun _ => P) fun _ => P :=
      meets_whenever (fun _ => keeps_pause) fun _ _ => id
    exact meets_ite (fun _ => (fails e).bind fun _ => meets_ite (fun _ => meets_raise e fun _ => id) fun _ =>
      waits.bind fun _ => repeats) fun _ => meets_raise e fun _ => id
  induction patience generalizing failures with
  | zero => exact runs.recover (handles (meets_raise _ fun _ => id) _)
  | succ patience ih => exact runs.recover (handles (ih _) _)

/-- `disconnect(nowait=True)`. -/
theorem keeps_drop {E : Exc → SingleClient F → Prop} : Keeps (Bound c) (drop c) (fun _ => Lost c) E :=
  meets_modify (fun s _ => grows_put s c _) fun _ bound => bound.closed

/-- An exception while data is sent or received. -/
theorem keeps_failing {α : Type} {Q : α → SingleClient F → Prop} (e : Exc) :
    Keeps (Bound c) (failing c e) Q fun _ => Lost c :=
  (keeps_drop c).bind fun _ => meets_raise e fun _ => id

/-- Awaiting the socket; an exception closes the connection. -/
theorem keeps_await {P : SingleClient F → Prop} (ready : SingleClient F → Bool) (bound : ∀ s, P s → Bound c s) :
    Keeps P (recover (wait ready) fun e => failing c (socketError e)) (fun _ => P) fun _ => Lost c := by
  have waits : Keeps P (wait ready) (fun _ => P) fun _ => Bound c :=
    meets_wait (fun _ holds _ => holds) fun _ s holds => bound s holds
  exact waits.recover fun e => keeps_failing c _

/-- `disconnect`. -/
theorem keeps_disconnect : Keeps (F := F) (Bound c) (disconnect c) (fun _ => Lost c) fun _ => Lost c := by
  refine meets_whenever_look Grows.refl ?_ fun s bound lost => ⟨bound, eq_false_of_ne_true lost⟩
  have closes (e : Exc) : Keeps (F := F) (Bound c) (closing e) (fun _ => Bound c) fun _ => Bound c :=
    meets_ite (fun _ => meets_raise _ fun _ => id) fun _ =>
      meets_ite (fun _ => meets_pure () fun _ => id) fun _ => meets_raise e fun _ => id
  have waits : Keeps (F := F) (fun s => Bound c s ∧ (s.wires c).connected = true) (wait fun _ => true)
      (fun _ => Bound c) fun _ => Bound c := meets_wait (fun _ holds _ => holds.1) fun _ _ => And.left
  exact (waits.recover closes).ensure (fun _ => keeps_drop c) fun _ => keeps_drop c

/-- Nothing is unread after `disconnect`. -/
theorem uses_disconnect : Uses (F := F) i c (disconnect c) :=
  (keeps_disconnect c).weaken (fun _ => Owing.bound) (fun _ _ => Lost.idle) fun _ _ => Lost.idle

/-- Writing. -/
theorem keeps_transmit (words : Words) (ofCall : Bool) :
    Keeps (F := F) (Owing i c owed) (transmit i c words ofCall)
      (fun _ => Open i c (owed ++ [{ task := i, words, ofCall }])) fun _ => Owing i c [] := by
  refine meets_look Grows.refl fun s owing => ?_
  have lost (_ : Exc) (s : SingleClient F) : Lost c s → Owing i c [] s := Lost.idle
  by_cases connected : (s.wires c).connected = true
  · rw [if_pos connected]
    have writes : Keeps (F := F) (Open i c owed) (modify (wrote c { task := i, words, ofCall }))
        (fun _ => Open i c (owed ++ [{ task := i, words, ofCall }])) fun _ => Lost c :=
      meets_modify (fun s _ => grows_put s c _) fun _ holds => holds.wrote rfl
    have drains := keeps_await c (fun _ : SingleClient F => true)
      fun s (holds : Open i c (owed ++ [{ task := i, words, ofCall }]) s) => holds.owing.bound
    exact (writes.bind fun _ => drains).raising lost s ⟨owing, connected⟩
  · rw [if_neg connected]
    exact (keeps_failing c _).raising lost s owing.bound

/-- Reading the next reply; an error reply leaves the others. -/
theorem keeps_readResponse (written : Written) :
    Keeps (F := F) (Owing i c (written :: owed)) (readResponse env i c)
      (fun reply s => Open i c owed s ∧ Read i written reply s)
      fun e s => Owing i c owed s ∧ (e.isinstance .responseError = false → Owing i c [] s) := by
  intro s owing
  have lost {α : Type} {Q : α → SingleClient F → Prop} {program : Program F α}
      {P : SingleClient F → Prop} (keeps : Keeps P program Q fun _ => Lost c) : Keeps P program Q
        fun e s => Owing i c owed s ∧ (e.isinstance .responseError = false → Owing i c [] s) :=
    keeps.raising fun _ _ lost =>
      ⟨lost.owing fun other among => owing.mine other (List.mem_cons_of_mem _ among), fun _ => lost.idle⟩
  refine meets_look Grows.refl (fun s owing => ?_) s owing
  by_cases connected : (s.wires c).connected = true
  · rw [if_pos connected]
    have waits := lost (keeps_await c (fun s : SingleClient F => !(s.wires c).outstanding.isEmpty)
      fun s (holds : Open i c (written :: owed) s) => holds.owing.bound)
    refine (waits.bind fun _ => meets_look Grows.refl fun t holds => ?_) s ⟨owing, connected⟩
    rw [holds.owing.owes holds.connected]
    cases answered : env.reply written.words t.clock with
    | error e =>
      simp only [parse, answered]
      exact lost (keeps_failing c _) t holds.owing.bound
    | ok reply =>
      simp only [parse, answered]
      obtain ⟨grows, rest, read⟩ := holds.hear reply
      refine ⟨grows, ?_⟩
      show Brings Grows _ (answer reply) _
      unfold answer
      split
      · next e =>
        by_cases error : e.isinstance .responseError = true
        · rw [if_pos error]
          exact ⟨rest.owing, fun none => by rw [error] at none; cases none⟩
        · rw [if_neg error]
          exact ⟨rest, read⟩
      · exact ⟨rest, read⟩
  · rw [if_neg connected]
    exact lost (keeps_failing c _) s owing.bound

/-- Reading the only reply that is owed. -/
theorem keeps_lastResponse (written : Written) :
    Keeps (F := F) (Owing i c [written]) (readResponse env i c)
      (fun reply s => Open i c [] s ∧ Read i written reply s) fun _ => Owing i c [] :=
  (keeps_readResponse env i c [] written).raising fun _ _ => And.left

/-- Packing. -/
theorem keeps_packing (words : Words) {P : SingleClient F → Prop} :
    Keeps P (packing env words) (fun _ => P) fun e s => P s ∧ env.pack words = some e :=
  meets_whenSome (fun e raised => meets_raise e fun _ holds => ⟨holds, raised⟩) fun _ _ => id

/-! ## The handshake and the health check -/

section Reconnecting

variable {reconnect : Program F Unit}

/-- An open connection is left alone. -/
theorem keeps_connected {E : Exc → SingleClient F → Prop} :
    Keeps (Open i c owed) (connectIfClosed c reconnect) (fun _ => Owing i c owed) E := by
  refine meets_whenever_look Grows.refl ?_ fun _ holds _ => holds.owing
  rintro s ⟨holds, lost⟩
  rw [holds.connected] at lost
  cases lost

/-- Sending a command. -/
theorem keeps_sendCommand {P : SingleClient F → Prop} (words : Words)
    (connects : Keeps P (connectIfClosed c reconnect) (fun _ => Owing i c owed) fun _ => Owing i c []) :
    Keeps P (sendCommand env i c reconnect words)
      (fun _ => Open i c (owed ++ [{ task := i, words, ofCall := false }]))
      fun e s => Owing i c [] s ∨ P s ∧ env.pack words = some e := by
  have packs : Keeps P (packing env words) (fun _ => P) fun e s => Owing i c [] s ∨ P s ∧ env.pack words = some e :=
    (keeps_packing env words).raising fun _ _ => .inr
  have sends := connects.bind fun _ => keeps_transmit i c owed words false
  exact packs.bind fun _ => sends.raising fun _ _ => .inl

/-- A reply that must have a text. -/
theorem keeps_expect (text : String) (refused : ExcClass) (response : PyVal F) :
    Stays i c (expect text refused response) :=
  meets_whenever (fun _ => meets_raise _ fun _ => Open.owing) fun _ _ => id

variable (connects : Uses i c (connectIfClosed c reconnect))
include connects

/-- Sending the only command. -/
theorem keeps_sendFirst (words : Words) : Keeps (Owing i c []) (sendCommand env i c reconnect words)
    (fun _ => Owing i c [{ task := i, words, ofCall := false }]) fun _ => Owing i c [] :=
  (keeps_sendCommand env i c [] words connects).weaken (fun _ => id) (fun _ _ => Open.owing)
    fun _ _ raised => raised.elim id And.left

/-- A command and its reply. -/
theorem keeps_exchange (words : Words) : Opens i c (exchange env i c reconnect words) :=
  (keeps_sendFirst env i c connects words).bind fun _ =>
    (keeps_lastResponse env i c _).after fun _ _ => And.left

/-- A command whose reply must have a text. -/
theorem keeps_exchangeText (words : Words) (text : String) (refused : ExcClass) :
    Opens i c (do let response ← exchange env i c reconnect words; expect text refused response) :=
  (keeps_exchange env i c connects words).bind fun response => keeps_expect i c text refused response

/-- `check_health`. -/
theorem keeps_checkHealth : Uses i c (checkHealth config env i c reconnect) := by
  have ticks : Uses (F := F) i c (modify tick) :=
    meets_modify (fun s _ => grows_tick s) fun _ => Owing.tick
  have pings := meets_callWithRetryAsync config.retry env.backsOff
    (keeps_exchangeText env i c connects ["PING".toList] "PONG" .connectionError)
    (fun _ => uses_disconnect i c) env.patience 0
  refine ticks.bind fun _ => meets_whenever_look Grows.refl ?_ fun _ owing _ => owing
  exact pings.weaken (fun _ => And.left) (fun _ _ => Open.owing) fun _ _ => id

/-- Sending a command after a health check. -/
theorem keeps_sendChecked (words : Words) (ofCall : Bool) :
    Keeps (Owing i c []) (sendChecked config env i c reconnect words ofCall)
      (fun _ => Open i c [{ task := i, words, ofCall }]) fun _ => Owing i c [] := by
  have packs : Uses i c (packing env words) := (keeps_packing env words).raising fun _ _ => And.left
  exact packs.bind fun _ => connects.bind fun _ => (keeps_checkHealth config env i c connects).bind fun _ =>
    keeps_transmit i c [] words ofCall

/-! ## Connecting -/

/-- `HELLO` with credentials. -/
theorem keeps_hello (words : Words) :
    Opens i c (hello env i c reconnect words) := by
  refine (keeps_exchange env i c connects words).bind fun response => ?_
  cases response.isProtocol3 with
  | error e => exact meets_raise e fun _ => Open.owing
  | ok version =>
    cases version with
    | true => exact meets_pure () fun _ => id
    | false => exact meets_raise _ fun _ => Open.owing

/-- `AUTH`. -/
theorem keeps_auth (args : List Text) : Opens i c (auth env i c reconnect args) := by
  have reads := (keeps_lastResponse env i c { task := i, words := "AUTH".toList :: args, ofCall := false }).after
    fun _ _ => And.left
  have again (e : Exc) : Opens i c (authAgain env i c reconnect args e) :=
    meets_ite (fun _ => keeps_exchange env i c connects _) fun _ => meets_raise e fun _ => id
  exact (keeps_sendFirst env i c connects _).bind fun _ => (reads.recover again).bind fun response =>
    keeps_expect i c "OK" _ response

/-- The part of the handshake that authenticates or chooses the protocol. -/
theorem keeps_greet (args : List Text) : Stays i c (greet config env i c reconnect args) := by
  have resp3 : Opens i c (do let _ ← exchange env i c reconnect ["HELLO".toList, "3".toList]) :=
    (keeps_exchange env i c connects _).bind fun _ => meets_pure () fun _ => id
  exact meets_ite (fun _ => Stays.of_opens (keeps_hello env i c connects _)) fun _ =>
    meets_ite (fun _ => Stays.of_opens (keeps_auth env i c connects args)) fun _ =>
      meets_ite (fun _ => Stays.of_opens resp3) fun _ => meets_pure () fun _ => id

omit connects in
/-- `auth_args`. -/
theorem keeps_authArgs : Stays (F := F) i c (authArgs config) := by
  unfold authArgs
  cases config.credentials with
  | none => exact meets_pure _ fun _ => id
  | some credentials =>
    cases credentials with
    | error e => exact meets_raise e fun _ => Open.owing
    | ok args =>
      exact (keeps_pause.raising fun _ _ => Open.owing).bind fun _ =>
        meets_pure args fun _ => id

/-- After an exception in a handshake nothing is unread, or it is a `RedisError` and will be cleaned up. -/
structure Muddled (i c : Nat) (e : Exc) (s : SingleClient F) : Prop where
  bound : Bound c s
  idle : e.isinstance .redisError = false → Owing i c [] s

omit connects

/-- Nothing is unread. -/
theorem Owing.muddled {i c : Nat} {s : SingleClient F} (owing : Owing i c [] s) (e : Exc) : Muddled i c e s :=
  ⟨owing.bound, fun _ => owing⟩

/-- A command of the end of the handshake. -/
theorem keeps_sendMore (words : Words)
    (harmless : owed = [] ∨ ∀ e, env.pack words = some e → e.isinstance .redisError = true) :
    Keeps (Open i c owed) (sendCommand env i c reconnect words)
      (fun _ => Open i c (owed ++ [{ task := i, words, ofCall := false }])) (Muddled i c) := by
  refine (keeps_sendCommand env i c owed words (keeps_connected i c owed)).raising ?_
  rintro e s (idle | ⟨holds, raised⟩)
  · exact idle.muddled e
  · refine ⟨holds.owing.bound, fun other => ?_⟩
    rcases harmless with none | redis
    · exact none ▸ holds.owing
    · rw [redis e raised] at other
      cases other

/-- Reading the reply to `CLIENT SETINFO`. -/
theorem keeps_readInfo (written : Written) : Keeps (F := F) (Owing i c (written :: owed)) (readInfo env i c)
    (fun _ => Owing i c owed) fun _ => Owing i c [] := by
  have reads := (keeps_readResponse env i c owed written).bind (Q := fun _ : Unit => Owing i c owed) fun _ =>
    meets_pure () fun _ holds => holds.1.owing
  exact reads.recover fun e => meets_ite (fun _ => meets_pure () fun _ => And.left) fun other =>
    meets_raise e fun _ holds => holds.2 (eq_false_of_ne_true other)

/-- Packing the commands that are sent while replies are unread raises only `RedisError`s. -/
structure Sendable (config : ConnectionConfig) (env : SingleEnv F) : Prop where
  version : ∀ version e, config.libVersion = some version → env.pack (setInfo "LIB-VER" version) = some e →
    e.isinstance .redisError = true
  database : ∀ e, env.pack (select config) = some e → e.isinstance .redisError = true

variable {config env} (sendable : Sendable config env)
include sendable connects

/-- `on_connect_check_health`. -/
theorem keeps_onConnect : Keeps (Open i c []) (onConnect config env i c reconnect) (fun _ => Owing i c [])
    (Muddled i c) := by
  let info (field : String) (value : Text) : Written := { task := i, words := setInfo field value, ofCall := false }
  let names := config.libName.toList.map (info "LIB-NAME")
  let versions := config.libVersion.toList.map (info "LIB-VER")
  let selects : List Written := if config.db ≠ 0 then [{ task := i, words := select config, ofCall := false }] else []
  have idle {α : Type} {P : SingleClient F → Prop} {program : Program F α}
      {Q : α → SingleClient F → Prop} (keeps : Keeps P program Q fun _ => Owing i c []) :
      Keeps P program Q (Muddled i c) := keeps.raising fun e _ owing => owing.muddled e
  have naming : Keeps (Open i c []) (whenSome config.clientName (setName env i c reconnect))
      (fun _ => Open i c []) (Muddled i c) :=
    meets_whenSome (fun name _ => idle (Stays.of_opens (keeps_exchangeText env i c connects _ "OK" _))) fun _ _ => id
  have sends (value : Option Text) (field : String) (owed : List Written)
      (harmless : ∀ item, value = some item → owed = [] ∨
        ∀ e, env.pack (setInfo field item) = some e → e.isinstance .redisError = true) :
      Keeps (Open i c owed) (whenSome value fun item => sendCommand env i c reconnect (setInfo field item))
        (fun _ => Open i c (owed ++ value.toList.map (info field))) (Muddled i c) := by
    refine meets_whenSome (fun item has => ?_) fun none s holds => ?_
    · rw [has]
      exact keeps_sendMore env i c owed _ (harmless item has)
    · rw [none, Option.toList_none, List.map_nil, List.append_nil]
      exact holds
  have sendsName := sends config.libName "LIB-NAME" [] fun _ _ => .inl rfl
  have sendsVersion := sends config.libVersion "LIB-VER" names fun version has =>
    .inr fun e => sendable.version version e has
  have sendsSelect : Keeps (Open i c (names ++ versions))
      (whenever (config.db ≠ 0) (sendCommand env i c reconnect (select config)))
      (fun _ => Owing i c (names ++ (versions ++ selects))) (Muddled i c) := by
    rw [← List.append_assoc]
    refine meets_whenever (fun chosen => ?_) fun zero s holds => ?_
    · simp only [selects, if_pos chosen]
      exact (keeps_sendMore env i c _ _ (.inr sendable.database)).after fun _ _ => Open.owing
    · simp only [selects, if_neg zero, List.append_nil]
      exact holds.owing
  have reads (value : Option Text) (field : String) (owed : List Written) :
      Keeps (F := F) (Owing i c (value.toList.map (info field) ++ owed)) (whenSome value fun _ => readInfo env i c)
        (fun _ => Owing i c owed) (Muddled i c) := by
    refine meets_whenSome (fun item has => ?_) fun none s holds => ?_
    · rw [has]
      exact idle (keeps_readInfo env i c owed _)
    · rw [none] at holds
      exact holds
  have readsSelected : Keeps (F := F) (Owing i c selects) (whenever (config.db ≠ 0) (readSelected env i c))
      (fun _ => Owing i c []) (Muddled i c) := by
    refine meets_whenever (fun chosen => ?_) fun zero s holds => ?_
    · simp only [selects, if_pos chosen]
      exact idle ((keeps_lastResponse env i c _).bind fun response =>
        (keeps_expect i c "OK" .connectionError response).weaken (fun _ => And.left) (fun _ _ => Open.owing)
          fun _ _ => id)
    · simp only [selects, if_neg zero] at holds
      exact holds
  exact (idle (keeps_authArgs config i c)).bind fun args =>
    (idle (keeps_greet config env i c connects args)).bind fun _ => naming.bind fun _ => sendsName.bind fun _ =>
      sendsVersion.bind fun _ => sendsSelect.bind fun _ => (reads _ _ _).bind fun _ => (reads _ _ _).bind fun _ =>
        readsSelected

/-- `connect_check_health` where there are no streams. -/
theorem keeps_openSession : Uses i c (openSession config env i c reconnect) := by
  have opens : Opens (F := F) i c (modify fun s => (opened c s).tick) :=
    meets_modify (fun s _ => (grows_put s c _).trans (grows_tick _)) fun s owing =>
      ⟨(owing.bound.opened i).owing.tick, (owing.bound.opened i).connected⟩
  have dials : Opens i c (dial env c) :=
    keeps_pause.bind fun _ => opens.bind fun _ => meets_look Grows.refl fun s holds =>
      meets_whenSome (P := Open i c []) (fun e _ => meets_raise e fun _ => Open.owing) (fun _ _ => id) s holds
  have connected := (meets_callWithRetryAsync config.retry env.backsOff dials (fun _ => uses_disconnect i c)
    env.patience 0).recover (E := fun _ => Owing i c []) fun e => meets_raise (dialError e) fun _ => id
  have cleans (e : Exc) : Keeps (F := F) (Muddled i c e) (cleanUp c e) (fun _ => Owing i c [])
      fun _ => Owing i c [] := by
    have drops : Keeps (F := F) (Muddled i c e) (whenever (e.isinstance .redisError = true) (disconnect c))
        (fun _ => Owing i c []) fun _ => Owing i c [] :=
      meets_whenever (fun _ => (keeps_disconnect c).weaken (fun _ => Muddled.bound) (fun _ _ => Lost.idle)
        fun _ _ => Lost.idle) fun other _ muddled => muddled.idle (eq_false_of_ne_true other)
    exact drops.bind fun _ => meets_raise e fun _ => id
  exact connected.bind fun _ => (keeps_onConnect i c connects sendable).recover cleans

omit sendable connects in
/-- `connect_check_health` leaves an open connection alone. -/
theorem keeps_connectIfClosed {program : Program F Unit} (keeps : Uses i c program) :
    Uses i c (connectIfClosed c program) :=
  meets_whenever_look Grows.refl (keeps.before fun _ => And.left) fun _ owing _ => owing

end Reconnecting

/-! ## Commands -/

variable {config env} (sendable : Sendable config env)
include sendable

/-- `connect_check_health`. -/
theorem keeps_connectCheckHealth (depth : Nat) : Uses i c (connectCheckHealth config env i c depth) := by
  induction depth with
  | zero => exact keeps_connectIfClosed i c (meets_raise _ fun _ => id)
  | succ depth ih =>
    exact keeps_connectIfClosed i c (keeps_openSession i c (keeps_connectIfClosed i c ih) sendable)

/-- A value that is returned is the task's own reply through the callback, or `EMPTY_RESPONSE`. -/
def Answered (i : Nat) (call : SingleCall F) (value : PyVal F) (s : SingleClient F) : Prop :=
  call.emptyResponse = some value ∨
    ∃ reply, Read i { task := i, words := call.words, ofCall := true } reply s ∧ call.callback reply = .ok value

/-- `_send_command_parse_response`. -/
theorem keeps_sendCommandParseResponse (call : SingleCall F) :
    Keeps (Owing i c []) (sendCommandParseResponse config env i c call)
      (fun value s => Owing i c [] s ∧ Answered i call value s) fun _ => Owing i c [] := by
  refine (keeps_sendChecked config env i c (keeps_connectIfClosed i c
    (keeps_connectCheckHealth i c sendable env.depth)) call.words true).bind fun _ s holds => ?_
  refine (keeps_lastResponse env i c _ s holds.owing).handle fun result t outcome => ?_
  cases result with
  | ok reply =>
    show Outcome _ _ (call.callback reply) t
    cases answer : call.callback reply with
    | error e => exact outcome.1.owing
    | ok value => exact ⟨outcome.1.owing, .inr ⟨reply, outcome.2, answer⟩⟩
  | error e =>
    show Outcome _ _ (if e.isinstance .responseError then call.emptyResponse.elim (.error e) .ok else .error e) t
    by_cases error : e.isinstance .responseError = true
    · rw [if_pos error]
      cases empty : call.emptyResponse with
      | none => exact outcome
      | some value => exact ⟨outcome, .inl empty⟩
    · rw [if_neg error]
      exact outcome

/-- A command with its retries. -/
theorem keeps_execute (call : SingleCall F) : Keeps (Owing i c []) (execute config env i c call)
    (fun value s => Owing i c [] s ∧ Answered i call value s) fun _ => Owing i c [] := by
  have fails (e : Exc) : Uses (F := F) i c (disconnectRaise config c e) :=
    (uses_disconnect i c).bind fun _ => meets_whenever (fun _ => meets_raise e fun _ => id) fun _ _ => id
  exact meets_callWithRetryAsync config.retry env.backsOff (keeps_sendCommandParseResponse i c sendable call) fails
    env.patience 0

/-- Authenticating again. -/
theorem keeps_reAuth (words : Words) :
    Keeps Settled (reAuth config env i words) (fun _ => Settled) fun _ => Settled := by
  refine meets_look Grows.refl fun s settled => ?_
  refine meets_whenSome (P := fun t => t = s) (fun c has => ?_) (fun _ t same => same ▸ settled) s rfl
  have sends := keeps_sendChecked config env i c (keeps_connectIfClosed i c
    (keeps_connectCheckHealth i c sendable env.depth)) words false
  have reads := (keeps_lastResponse env i c { task := i, words, ofCall := false }).bind
    (Q := fun _ : Unit => Owing i c []) fun _ => meets_pure () fun _ holds => holds.1.owing
  refine (sends.bind fun _ => reads.before fun _ => Open.owing).weaken (fun t same => ?_)
    (fun _ _ => Owing.settled) fun _ _ => Owing.settled
  rw [same]
  exact settled.owing has i

omit sendable in
/-- The connection is created once. -/
theorem keeps_createConnection : Keeps (F := F) Settled createConnection
    (fun _ s => Settled s ∧ ∃ c, s.connection = some c) fun _ => Settled := by
  refine meets_whenever_look Grows.refl ?_ fun s settled has =>
    ⟨settled, Option.ne_none_iff_exists'.mp has⟩
  rintro s ⟨settled, none⟩ thrown -
  cases thrown with
  | some e => exact settled
  | none =>
    have empty : s.taken = [] := by rw [settled.taken, none, Option.toList_none]
    refine ⟨Grows.refl s, ⟨fun c has => ?_, fun _ => id, fun apart => ⟨apart.own, ?_⟩⟩,
      ⟨fun c has => ?_, fun _ => id, fun apart => ⟨apart.own, apart.single⟩⟩, ⟨?_, fun d => ?_⟩, s.made, rfl⟩
    · exact has
    · show (s.made :: s.taken).length ≤ 1
      rw [empty]
      exact Nat.le_refl 1
    · rw [show s.connection = some c from has] at none
      cases none
    · show s.made :: s.taken = [s.made]
      rw [empty]
    · show (Function.update s.wires s.made _ d).outstanding = []
      by_cases new : d = s.made
      · rw [new, Function.update_self]
      · rw [Function.update_of_ne new]
        exact settled.idle d

end Contracts

/-! ## The tasks -/

/-- What a task that is over came to. -/
def Came (jobs : Nat → SingleJob F) (i : Nat) (result : Except Exc (PyVal F)) (s : Guarded (SingleClient F)) : Prop :=
  s.holder ≠ some i ∧ ∀ call value, jobs i = .execute call → result = .ok value → Answered i call value s.resource

/-- What was read stays read. -/
theorem came_lasting (jobs : Nat → SingleJob F) (i : Nat) (result : Except Exc (PyVal F))
    (s t : Guarded (SingleClient F)) (came : Came jobs i result s) (relies : law.rules.rely i s t) :
    Came jobs i result t := by
  refine ⟨fun mine => came.1 (relies.2.1.mpr mine), fun call value job returned => ?_⟩
  rcases came.2 call value job returned with empty | ⟨reply, read, answer⟩
  · exact .inl empty
  · exact .inr ⟨reply, relies.1.heard _ read, answer⟩

section Tasks

variable {config : ConnectionConfig} {env : SingleEnv F} (sendable : Sendable config env) {i : Nat}
  {began s : Guarded (SingleClient F)} (outside : law.Outside i began s) {jobs : Nat → SingleJob F}
include sendable outside

/-- `execute_command` keeps to the rules. -/
theorem safe_executeCommand {call : SingleCall F} (job : jobs i = .execute call) :
    law.rules.Safe i (law.rules.Ends i (Came jobs i)) (executeCommand config env i call) began s := by
  have raised {e : Exc} {began t : Guarded (SingleClient F)} (outside : law.Outside i began t) :
      law.rules.Ends i (Came jobs i) (.error e) began t :=
    ⟨outside.inv, outside.owes, outside.free, fun _ _ _ returned => by cases returned⟩
  have creates := outside.safe_locked (P := fun _ => True) (E := fun _ _ => True)
    (Q := fun _ s => ∃ c, s.connection = some c) (fun _ _ _ _ => trivial) trivial
    (keeps_createConnection.weaken (fun _ => And.left) (fun _ _ => id) fun _ _ settled => ⟨settled, trivial⟩)
    fun _ _ _ => trivial
  refine creates.bind (fun _ began t ended => ?_) fun e began t ended => raised ended.1
  obtain ⟨outside, c, has⟩ := ended
  show law.rules.Safe i _ (chosen t.resource.connection >>= _) began t
  rw [has]
  have takes := outside.safe_acquire (ε := Exc) (P := fun s => s.connection = some c)
    (fun r s has grows => grows.stays c has) has
  refine takes.bind (fun _ began u taken => ?_) fun e began u given => raised given.2
  obtain ⟨has, holds, settled⟩ := taken
  refine (holds.safe_inside (keeps_execute i c sendable call _ (settled.owing has i))).handle
    fun result began v ended => ?_
  have known : Owing i c [] v.resource := by
    cases result with
    | ok value => exact ended.2.1
    | error e => exact ended.2
  have released := ended.1.released known.settled
  show law.rules.Safe i _ (handle (returning fun _ => .done result) (whenever (v.resource.connection = none) _))
    began { v with holder := none }
  rw [whenever, if_neg (by rw [known.bound.connection]; exact Option.some_ne_none c)]
  refine ⟨released.inv, released.owes, released.free, fun other value same returned => ?_⟩
  rw [job] at same
  cases same
  rw [returned] at ended
  exact ended.2.2

/-- `_re_auth_async` keeps to the rules. -/
theorem safe_reAuthAsync {words : Words} (job : jobs i = .reAuth words) :
    law.rules.Safe i (law.rules.Ends i (Came jobs i)) (reAuthAsync config env i words) began s := by
  have finished {result : Except Exc (PyVal F)} {began t : Guarded (SingleClient F)} (outside : law.Outside i began t) :
      law.rules.Ends i (Came jobs i) result began t :=
    ⟨outside.inv, outside.owes, outside.free, fun _ _ other => by rw [job] at other; cases other⟩
  have locks := outside.safe_locked (P := fun _ => True) (Q := fun _ _ => True)
    (E := fun _ _ => True) (fun _ _ _ _ => trivial) trivial
    ((keeps_reAuth i sendable words).weaken (fun _ => And.left) (fun _ _ settled => ⟨settled, trivial⟩)
      fun _ _ settled => ⟨settled, trivial⟩) fun _ _ _ => trivial
  exact locks.bind (fun _ _ _ ended => finished ended.1) fun _ _ _ ended => finished ended.1

end Tasks

/-- Every reply is read by the task that sent its command, a call returns the reply to its own command,
there is one connection, nothing on it is unread while the lock is free, and no task is over with the
lock. -/
structure Exclusive (jobs : Nat → SingleJob F) (w : World Exc (Guarded (SingleClient F)) (PyVal F)) : Prop where
  own : ∀ heard ∈ w.shared.resource.heard, heard.written.task = heard.reader
  answered : ∀ i call value, jobs i = .execute call → w.tasks i = .done (.ok value) →
    Answered i call value w.shared.resource
  single : w.shared.resource.taken.length ≤ 1
  settled : w.shared.holder = none → ∀ c, (w.shared.resource.wires c).outstanding = []
  released : ∀ i result, w.tasks i = .done result → w.shared.holder ≠ some i

/-- Any number of tasks share a client, in any order of their turns, wherever they are cancelled and
whatever fails. -/
theorem exclusive_run {config : ConnectionConfig} {env : SingleEnv F} (sendable : Sendable config env)
    (jobs : Nat → SingleJob F) (turns : List (Nat × Option Exc)) :
    Exclusive jobs ((start config env jobs).run turns) := by
  have orderly : law.rules.Orderly (Came jobs) (start config env jobs) := by
    refine ⟨⟨⟨nofun, Nat.zero_le 1⟩, fun _ => ⟨rfl, fun _ => rfl⟩⟩,
      fun i t inv relies => ?_⟩
    have outside : law.Outside i t t := ⟨inv, law.rules.idle i t, fun mine => by cases relies.2.1.mpr mine⟩
    show law.rules.Resumable i (Came jobs i) ((start config env jobs).tasks i) t
    unfold start
    cases job : jobs i with
    | execute call =>
      simp only [job]
      exact (safe_executeCommand sendable outside job).resumable
    | reAuth words =>
      simp only [job]
      exact (safe_reAuthAsync sendable outside job).resumable
  have reached := orderly.run (came_lasting jobs) turns
  exact
    { own := reached.inv.1.own
      answered := fun i call value job ended => (reached.finished ended).2 call value job rfl
      single := reached.inv.1.single
      settled := fun free => (reached.inv.2 free).idle
      released := fun i result ended => (reached.finished ended).1 }

section Scenario

/-- A connection that retries nothing and asks for nothing before its first command. -/
def bareConfig : ConnectionConfig where
  retry := { retries := some 0, supportedErrors := [] }
  retryOnError := none
  healthChecks := false
  resp3 := false
  credentials := none
  clientName := none
  libName := none
  libVersion := none
  db := 0

/-- A server that answers with the last word of a command. -/
def echoing : SingleEnv Empty where
  patience := 0
  depth := 1
  spoils _ := none
  due _ := false
  backsOff _ := false
  pack _ := none
  reply words _ := .ok (.str (words.getLastD []))

/-- Every task has its own number echoed. -/
def echoes (i : Nat) : SingleJob Empty :=
  .execute { words := ["ECHO".toList, decimalText i], emptyResponse := none, callback := .ok }

/-- The first task is cancelled while it waits for its reply. -/
def cancelling : List (Nat × Option Exc) :=
  let turn (i : Nat) : Nat × Option Exc := (i, none)
  [turn 0, turn 0, turn 1, turn 0, turn 0, turn 1, (0, some { cls := .cancelledError })] ++
    List.replicate 4 (turn 1)

/-- The second one gets its own reply. -/
theorem exclusive_echoes :
    let w := (start bareConfig echoing echoes).run cancelling
    w.tasks 1 = .done (.ok (.str ['1'])) ∧ Exclusive echoes w := by
  refine ⟨rfl, ?_⟩
  apply exclusive_run
  exact ⟨fun _ _ _ raised => (by cases raised), fun _ raised => (by cases raised)⟩

end Scenario

end SingleClient

end RedisPy

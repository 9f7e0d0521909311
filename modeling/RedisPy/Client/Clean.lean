import RedisPy.Client.InStep

/-!
# What `execute` leaves of a pipeline

`Pipeline.execute` promises a clean pipeline: no commands, no scripts, nothing watched, no
transaction begun, and the connection back in the pool, once. The `reset` in its `finally` keeps the
promise where it is reached and where the `UNWATCH` that it sends does not raise. Connections are
counted on every way through `execute`: none is lost or released twice.
-/

namespace RedisPy

open Contract

variable {F : Type}

/-- A pipeline as `__init__` leaves it. -/
structure Pipeline.Clean (pipe : Pipeline F) : Prop where
  /-- No commands are queued. -/
  commandStack : pipe.commandStack = []
  /-- No scripts are registered. -/
  scripts : pipe.scripts = []
  /-- Nothing is watched. -/
  watching : pipe.watching = false
  /-- No transaction was begun. -/
  explicitTransaction : pipe.explicitTransaction = false
  /-- No connection is held. -/
  connection : pipe.connection = none

/-- The connections that were created and are not in the pool. -/
def ConnectionPool.outside (pool : ConnectionPool) : Int :=
  (pool.createdConnections : Int) - pool.available.length

namespace Holder

/-- The connections that are neither in the pool nor with the pipeline. -/
def elsewhere (s : Holder F) : Int :=
  s.shared.pool.outside - if s.pipe.connection.isSome then 1 else 0

/-- A pipeline is left clean, and the connections it had are in the pool, each once. -/
structure CleanedUp (before after : Holder F) : Prop where
  /-- The pipeline is clean. -/
  clean : after.pipe.Clean
  /-- The others have what they had. -/
  elsewhere : after.elsewhere = before.elsewhere

variable (config : ClientConfig F) (env : Env F)

/-! ## The commands that load scripts -/

/-- Commands that do not change `watching`. -/
def Silent (command : Command F) : Prop :=
  command.name ∉ unwatchCommands ∧ command.name ≠ "WATCH".toList

/-- Asking for scripts is silent. -/
theorem silent_scriptExists (args : List Text) : Silent (F := F) (.plain "SCRIPT EXISTS" args) := by
  constructor
  · show "SCRIPT EXISTS".toList ∉ unwatchCommands
    decide
  · show "SCRIPT EXISTS".toList ≠ "WATCH".toList
    decide

/-- Loading a script is silent. -/
theorem silent_scriptLoad (args : List Text) : Silent (F := F) (.plain "SCRIPT LOAD" args) := by
  constructor
  · show "SCRIPT LOAD".toList ∉ unwatchCommands
    decide
  · show "SCRIPT LOAD".toList ≠ "WATCH".toList
    decide

/-- `load_scripts` keeps what silent commands keep. -/
theorem keeps_loadScripts [PyFloat F] {I : Holder F → Prop}
    (immediate : ∀ command, Silent command → Keeps I (immediateExecuteCommand config env command)) :
    Keeps I (loadScripts config env) := by
  have missing : ∀ scripts : List (Script × PyVal F), Keeps I (loadMissing config env scripts) := by
    intro scripts
    induction scripts with
    | nil => exact keeps_pure ()
    | cons item others ih =>
      have one := immediate _ (silent_scriptLoad [item.1.script])
      apply Keeps.bind (keeps_whenever (one.bind fun _ => keeps_pure ()))
      intro _
      exact ih
  apply keeps_get
  intro s
  apply (immediate _ (silent_scriptExists (s.pipe.scripts.map (·.sha)))).bind
  intro known
  cases known.elements with
  | none => exact keeps_throw _
  | some flags => exact keeps_whenever (missing _)

/-! ## Properties that calls leave alone -/

/-- A property that does not depend on the state of the connection, nor on the replies to these
commands. -/
structure Aloof (Concerns : Command F → Prop) (I : Holder F → Prop) : Prop where
  /-- The connection was used. -/
  used : ∀ s conn net, s.pipe.connection.isSome = true → I s →
    I { s with pipe.connection := some conn, shared.net := net }
  /-- A reply was parsed. -/
  noted : ∀ command s, Concerns command → I s → I (noteReply command s)
  /-- A connection is needed. -/
  held : Keeps I (holdConnection config env)

section Aloof

variable {config : ClientConfig F} {env : Env F} {Concerns : Command F → Prop}
variable {I : Holder F → Prop} (aloof : Aloof config env Concerns I)

include aloof

/-- A program on the connection. -/
theorem Aloof.onConnection {α : Type} (program : EStateM Exc Link α) :
    Keeps I (onConnection program) := by
  intro s holds
  unfold Holder.onConnection
  cases held : s.pipe.connection with
  | none => exact holds
  | some conn =>
    have some : s.pipe.connection.isSome = true := by rw [held]; rfl
    simp only
    cases program { conn, net := s.shared.net } with
    | ok value link => exact aloof.used s link.conn link.net some holds
    | error e link => exact aloof.used s link.conn link.net some holds

/-- `parse_response`. -/
theorem Aloof.parseResponse {command : Command F} (concerns : Concerns command) :
    Keeps I (parseResponse config env command) := by
  apply (aloof.onConnection _).bind
  intro response
  apply (keeps_modify fun s => aloof.noted command s concerns).bind
  intro _
  exact keeps_pure response

/-- One exchange. -/
theorem Aloof.exchange {command : Command F} (concerns : Concerns command) :
    Keeps I (do
      Holder.onConnection (Link.sendCommand config env command)
      Holder.parseResponse config env command) :=
  (aloof.onConnection _).bind fun _ => aloof.parseResponse concerns

end Aloof

/-- A property that `reset` leaves alone as well. -/
structure Lasting (I : Holder F → Prop) : Prop extends Aloof config env (fun _ => True) I where
  /-- The commands are forgotten. -/
  cleared : ∀ s, I s → I s.clearStack
  /-- The connection is released. -/
  released : ∀ s, I s → I s.letGo
  /-- `EXEC` clears any watched keys. -/
  unwatched : ∀ s, I s → I { s with pipe.watching := false }

/-- A property that nothing does away with but the batches of a pipeline. -/
structure Abiding (I : Holder F → Prop) : Prop where
  /-- Disconnecting. -/
  disconnects : Keeps I (onConnection Link.disconnect)
  /-- Sending one command. -/
  sends : ∀ command, Keeps I (onConnection (Link.sendCommand config env command))
  /-- Parsing a reply. -/
  parses : ∀ command, Keeps I (onConnection (Link.parseResponse config env command))
  /-- The `UNWATCH` of `reset`. -/
  unwatches : Keeps I (onConnection (sendUnwatch config env))
  /-- A reply was parsed. -/
  noted : ∀ command s, I s → I (noteReply command s)
  /-- A connection is needed. -/
  held : Keeps I (holdConnection config env)
  /-- The commands are forgotten. -/
  cleared : ∀ s, I s → I s.clearStack
  /-- The connection is released. -/
  released : ∀ s, I s → I s.letGo

/-- A property that the batches of a pipeline leave alone as well. -/
structure Enduring (I : Holder F → Prop) : Prop extends Abiding config env I where
  /-- Sending a batch. -/
  batches : ∀ batch, Keeps I (onConnection (Link.send config.toConnectionConfig env batch))
  /-- `EXEC` clears any watched keys. -/
  unwatched : ∀ s, I s → I { s with pipe.watching := false }

/-- What lasts does not depend on what the connection does. -/
theorem Lasting.enduring {I : Holder F → Prop} (lasting : Lasting config env I) :
    Enduring config env I where
  disconnects := lasting.toAloof.onConnection _
  sends _ := lasting.toAloof.onConnection _
  parses _ := lasting.toAloof.onConnection _
  unwatches := lasting.toAloof.onConnection _
  noted command s := lasting.noted command s trivial
  held := lasting.held
  cleared := lasting.cleared
  released := lasting.released
  batches _ := lasting.toAloof.onConnection _
  unwatched := lasting.unwatched

section Abiding

variable {config : ClientConfig F} {env : Env F} {I : Holder F → Prop}
variable (abiding : Abiding config env I)

include abiding

/-- `reset`. -/
theorem Abiding.reset : Keeps I (reset config env) := by
  apply (keeps_modify abiding.cleared).bind
  intro _
  apply keeps_get
  intro s
  apply (keeps_whenever abiding.unwatches).bind
  intro _
  exact keeps_modify abiding.released

/-- `_disconnect_reset_raise` and `_disconnect_raise_reset`. -/
theorem Abiding.handlers (e : Exc) :
    Keeps I (disconnectResetRaise config env e) ∧ Keeps I (disconnectRaiseReset config env e) := by
  have given : Keeps I (whenever (!config.retriesOn e) do
      Holder.reset config env
      throw e) := keeps_whenever (abiding.reset.bind fun _ => keeps_throw e)
  constructor
  · apply abiding.disconnects.bind
    intro _
    apply keeps_get
    intro s
    exact keeps_ite (abiding.reset.bind fun _ => keeps_throw _) given
  · apply abiding.disconnects.bind
    intro _
    apply keeps_get
    intro s
    exact keeps_ite (keeps_throw _) given

/-- `parse_response`. -/
theorem Abiding.parseResponse (command : Command F) : Keeps I (parseResponse config env command) := by
  apply (abiding.parses command).bind
  intro response
  apply (keeps_modify (abiding.noted command)).bind
  intro _
  exact keeps_pure response

/-- `immediate_execute_command`. -/
theorem Abiding.immediateExecuteCommand (command : Command F) :
    Keeps I (immediateExecuteCommand config env command) := by
  apply abiding.held.bind
  intro _
  exact config.retry.keeps_callWithRetry
    ((abiding.sends command).bind fun _ => abiding.parseResponse command)
    (fun e => (abiding.handlers e).1) env.patience 0

/-- `load_scripts`. -/
theorem Abiding.loadScripts [PyFloat F] : Keeps I (loadScripts config env) :=
  keeps_loadScripts config env fun command _ => abiding.immediateExecuteCommand command

/-- A reply whose errors are kept or raised. -/
theorem Abiding.parsed {α : Type} {command : Command F} {use : PyVal F → EStateM Exc (Holder F) α}
    {handler : Exc → EStateM Exc (Holder F) α} (used : ∀ reply, Keeps I (use reply))
    (handled : ∀ e, Keeps I (handler e)) :
    Keeps I (recover (Holder.parseResponse config env command >>= use) handler) :=
  Keeps.recover ((abiding.parseResponse command).bind used) handled

/-- The replies to the commands of a transaction. -/
theorem Abiding.readQueued (commands : List (Command F)) (i : Nat) :
    Keeps I (readQueuedReply config env i) ∧ Keeps I (readQueued config env i commands) := by
  have one : ∀ i, Keeps I (readQueuedReply config env i) := fun i =>
    abiding.parsed (fun _ => keeps_pure _) fun e => keeps_ite (keeps_pure _) (keeps_throw e)
  refine ⟨one i, ?_⟩
  induction commands generalizing i with
  | nil => exact keeps_pure _
  | cons command commands ih =>
    unfold Holder.readQueued
    cases command.emptyResponse with
    | some value => exact (ih (i + 1)).bind fun _ => keeps_pure _
    | none =>
      apply (one i).bind
      intro own
      exact (ih (i + 1)).bind fun _ => keeps_pure _

/-- The replies to the commands of a pipeline. -/
theorem Abiding.readPipeline (commands : List (Command F)) :
    Keeps I (readPipeline config env commands) := by
  induction commands with
  | nil => exact keeps_pure _
  | cons command commands ih =>
    have one : Keeps I (readPipelineReply config env command) :=
      (abiding.parseResponse command).recover fun e => keeps_ite (keeps_pure _) (keeps_throw e)
    apply one.bind
    intro reply
    exact ih.bind fun _ => keeps_pure _

/-- The values of a transaction. -/
theorem Abiding.finishTransaction (commands : List (Command F)) (raiseOnError : Bool)
    (errors : List (Nat × PyVal F)) (response : PyVal F) :
    Keeps I (finishTransaction config commands raiseOnError errors response) := by
  unfold Holder.finishTransaction
  cases resultItems errors response with
  | error e => exact keeps_throw e
  | ok items =>
    apply keeps_ite
    · exact abiding.disconnects.bind fun _ => keeps_throw _
    · cases resultValues config commands raiseOnError items with
      | ok values => exact keeps_pure _
      | error e => exact keeps_throw e

/-- What `_execute_transaction` does after sending. -/
theorem Abiding.readTransaction (unwatched : ∀ s, I s → I { s with pipe.watching := false })
    (commands : List (Command F)) (raiseOnError : Bool) :
    Keeps I (do
      let first ← Holder.readQueuedReply config env 0
      let others ← Holder.readQueued config env 0 commands
      let response ← Holder.readExec config env (first ++ others)
      modify fun s => { s with pipe.watching := false }
      Holder.finishTransaction config commands raiseOnError (first ++ others) response) := by
  apply (abiding.readQueued commands 0).1.bind
  intro first
  apply (abiding.readQueued commands 0).2.bind
  intro others
  have exec : Keeps I (Holder.readExec config env (first ++ others)) :=
    (abiding.parseResponse _).recover fun e => keeps_ite (keeps_throw _) (keeps_throw e)
  apply exec.bind
  intro response
  apply (keeps_modify unwatched).bind
  intro _
  exact abiding.finishTransaction commands raiseOnError _ response

end Abiding

section Enduring

variable {config : ClientConfig F} {env : Env F} {I : Holder F → Prop}
variable (enduring : Enduring config env I)

include enduring

/-- Packing and sending. -/
theorem Enduring.sendCommands (batch : List Words → Batch) (commands : List (Command F)) :
    Keeps I (sendCommands config env batch commands) :=
  keeps_ite (enduring.batches _) (keeps_throw _)

/-- `_execute_transaction` and `_execute_pipeline`. -/
theorem Enduring.attempt (transactional : Bool) (commands : List (Command F)) (raiseOnError : Bool) :
    Keeps I (attempt config env transactional commands raiseOnError) := by
  apply keeps_ite
  · apply (enduring.sendCommands .transaction _).bind
    intro _
    exact enduring.toAbiding.readTransaction enduring.unwatched commands raiseOnError
  · apply (enduring.sendCommands .pipeline commands).bind
    intro _
    apply (enduring.toAbiding.readPipeline commands).bind
    intro response
    cases if raiseOnError then firstError response else none with
    | some e => exact keeps_throw e
    | none => exact keeps_pure response

/-- The attempts of `execute`. -/
theorem Enduring.attempts (transactional : Bool) (commands : List (Command F)) (raiseOnError : Bool)
    (patience failures : Nat) :
    Keeps I (config.retry.callWithRetry
      (Holder.attempt config env transactional commands raiseOnError)
      (disconnectRaiseReset config env) patience failures) :=
  config.retry.keeps_callWithRetry (enduring.attempt transactional commands raiseOnError)
    (fun e => (enduring.toAbiding.handlers e).2) patience failures

/-- `execute`. -/
theorem Enduring.execute [PyFloat F] (raiseOnError : Bool) :
    Keeps I (execute config env raiseOnError) := by
  apply keeps_get
  intro s
  apply keeps_ite
  · exact keeps_pure _
  · apply (keeps_whenever enduring.toAbiding.loadScripts).bind
    intro _
    apply enduring.held.bind
    intro _
    apply keeps_get
    intro t
    exact Keeps.ensure (enduring.attempts _ _ raiseOnError env.patience 0) enduring.toAbiding.reset

end Enduring

/-! ## Counting connections -/

/-- Getting a connection takes one out of the pool, or none. -/
theorem getConnection_outside (s : Shared) :
    match s.getConnection config env with
    | .ok _ after => after.pool.outside = s.pool.outside + 1
    | .error _ after => after.pool.outside = s.pool.outside := by
  unfold Shared.getConnection ConnectionPool.take
  cases last : s.pool.available.getLast? with
  | some conn =>
    have many : s.pool.available.dropLast.length + 1 = s.pool.available.length := by
      have some : s.pool.available ≠ [] := by
        intro none
        rw [none] at last
        cases last
      have positive := List.length_pos_iff.mpr some
      rw [List.length_dropLast]
      omega
    simp only
    cases Link.prepare config env { conn, net := s.net } with
    | ok _ link =>
      simp only [ConnectionPool.outside]
      omega
    | error e link =>
      simp only [ConnectionPool.outside, ConnectionPool.release, List.length_append, List.length_singleton]
      omega
  | none =>
    by_cases full : s.pool.createdConnections ≥ s.pool.maxConnections
    · simp only [if_pos full]
    · simp only [if_neg full]
      cases Link.prepare config env { conn := .closed, net := s.net } with
      | ok _ link =>
        simp only [ConnectionPool.outside]
        omega
      | error e link =>
        simp only [ConnectionPool.outside, ConnectionPool.release, List.length_append,
          List.length_singleton]
        omega

/-- Nothing that a pipeline does changes what the others have. -/
theorem lasting_elsewhere (n : Int) : Lasting config env fun s => s.elsewhere = n where
  used s conn net held count := by
    rw [← count, elsewhere, elsewhere, held]
    rfl
  noted command s _ count := by
    unfold noteReply
    split
    · exact count
    · split
      · exact count
      · exact count
  held s count := by
    unfold holdConnection
    cases held : s.pipe.connection with
    | some conn => exact count
    | none =>
      have got := getConnection_outside config env s.shared
      have before : s.elsewhere = n := count
      rw [elsewhere, held] at before
      simp only
      cases ran : s.shared.getConnection config env with
      | ok conn shared =>
        rw [ran] at got
        simp only at got
        simp only [elsewhere, Option.isSome_some, ↓reduceIte, got]
        simp only [Option.isSome_none, Bool.false_eq_true, ↓reduceIte] at before
        omega
      | error e shared =>
        rw [ran] at got
        simp only at got
        simp only [elsewhere, held, got]
        exact before
  cleared s count := count
  released s count := by
    rw [← count]
    unfold letGo elsewhere
    cases held : s.pipe.connection with
    | none => rfl
    | some conn =>
      simp only [ConnectionPool.outside, ConnectionPool.release, List.length_append,
        List.length_singleton, Option.isSome_none, Option.isSome_some, Bool.false_eq_true, ↓reduceIte]
      omega
  unwatched s count := count

/-! ## Clean-up -/

/-- The `UNWATCH` of `reset`, if it sends one, does not raise; a `ConnectionError` is caught. -/
def Unwatches (s : Holder F) : Prop :=
  s.pipe.watching = true → ∀ conn, s.pipe.connection = some conn →
    ∃ link, sendUnwatch config env { conn, net := s.shared.net } = .ok () link

/-- The pipeline after its connection was used. -/
def putLink (s : Holder F) (link : Link) : Holder F :=
  { s with pipe.connection := some link.conn, shared.net := link.net }

/-- `reset` where nothing is watched, or nobody could be asked. -/
theorem reset_quiet {s : Holder F} (quiet : (s.pipe.watching && s.pipe.connection.isSome) = false) :
    reset config env s = .ok () s.clearStack.letGo := by
  have cleared : (modify clearStack : EStateM Exc (Holder F) Unit) s = .ok () s.clearStack := rfl
  have looked : (get : EStateM Exc (Holder F) (Holder F)) s.clearStack =
      .ok s.clearStack s.clearStack := rfl
  have asks : (s.clearStack.pipe.watching && s.clearStack.pipe.connection.isSome) = false := quiet
  rw [reset, Interruptible.bind_of_ok cleared, Interruptible.bind_of_ok looked, asks]
  rfl

/-- `reset` where the connection watches. -/
theorem reset_watching {s : Holder F} {conn : Connection} (watching : s.pipe.watching = true)
    (connection : s.pipe.connection = some conn) :
    reset config env s =
      match sendUnwatch config env { conn, net := s.shared.net } with
      | .ok _ link => .ok () (s.clearStack.putLink link).letGo
      | .error e link => .error e (s.clearStack.putLink link) := by
  have cleared : (modify clearStack : EStateM Exc (Holder F) Unit) s = .ok () s.clearStack := rfl
  have looked : (get : EStateM Exc (Holder F) (Holder F)) s.clearStack =
      .ok s.clearStack s.clearStack := rfl
  have asks : (s.clearStack.pipe.watching && s.clearStack.pipe.connection.isSome) = true := by
    show (s.pipe.watching && s.pipe.connection.isSome) = true
    rw [watching, connection]
    rfl
  have here : s.clearStack.pipe.connection = some conn := connection
  have net : s.clearStack.shared.net = s.shared.net := rfl
  rw [reset, Interruptible.bind_of_ok cleared, Interruptible.bind_of_ok looked, asks]
  cases ran : sendUnwatch config env { conn, net := s.shared.net } with
  | ok u link =>
    have done : whenever (true = true) (onConnection (sendUnwatch config env)) s.clearStack =
        .ok () (s.clearStack.putLink link) := by
      show onConnection (sendUnwatch config env) s.clearStack = _
      simp only [onConnection, here, net, ran, putLink]
    rw [Interruptible.bind_of_ok done]
    rfl
  | error e link =>
    have done : whenever (true = true) (onConnection (sendUnwatch config env)) s.clearStack =
        .error e (s.clearStack.putLink link) := by
      show onConnection (sendUnwatch config env) s.clearStack = _
      simp only [onConnection, here, net, ran, putLink]
    rw [Interruptible.bind_of_error done]

/-- A reset pipeline is clean. -/
theorem clean_letGo {s : Holder F} (stack : s.pipe.commandStack = []) (scripts : s.pipe.scripts = []) :
    s.letGo.pipe.Clean := ⟨stack, scripts, rfl, rfl, rfl⟩

/-- `reset` leaves the pipeline clean, or its `UNWATCH` raises and the pipeline is still watching. -/
theorem reset_cases (s : Holder F) :
    (Unwatches config env s ∧ ∃ t, reset config env s = .ok () t ∧ t.pipe.Clean) ∨
      ¬Unwatches config env s ∧ ∃ e t, reset config env s = .error e t ∧ t.pipe.watching = true := by
  cases asks : s.pipe.watching && s.pipe.connection.isSome with
  | false =>
    left
    have unwatches : Unwatches config env s := by
      intro watching conn held
      rw [watching, held] at asks
      cases asks
    exact ⟨unwatches, _, reset_quiet config env asks, clean_letGo rfl rfl⟩
  | true =>
    obtain ⟨watching, held⟩ := Bool.and_eq_true_iff.mp asks
    obtain ⟨conn, connection⟩ := Option.isSome_iff_exists.mp held
    have ends := reset_watching config env watching connection
    cases ran : sendUnwatch config env { conn, net := s.shared.net } with
    | ok u link =>
      left
      have unwatches : Unwatches config env s := by
        intro _ other same
        rw [connection] at same
        rw [← Option.some.inj same, ran]
        exact ⟨link, rfl⟩
      rw [ran] at ends
      exact ⟨unwatches, _, ends, clean_letGo rfl rfl⟩
    | error e link =>
      right
      have raises : ¬Unwatches config env s := by
        intro unwatches
        obtain ⟨other, returned⟩ := unwatches watching conn connection
        rw [ran] at returned
        cases returned
      rw [ran] at ends
      exact ⟨raises, e, _, ends, watching⟩

/-- `reset` leaves the pipeline clean if and only if its `UNWATCH` does not raise. -/
theorem clean_reset_iff (s : Holder F) :
    (stateAfter (reset config env s)).pipe.Clean ↔ Unwatches config env s := by
  rcases reset_cases config env s with ⟨unwatches, t, ran, clean⟩ | ⟨raises, e, t, ran, watching⟩
  · rw [ran]
    exact ⟨fun _ => unwatches, fun _ => clean⟩
  · rw [ran]
    refine ⟨fun clean => ?_, fun unwatches => absurd unwatches raises⟩
    have stopped : t.pipe.watching = false := clean.watching
    rw [watching] at stopped
    cases stopped

/-! ## Loading scripts -/

/-- What is queued and whether the pipeline watches. -/
def Queued (given : Pipeline F) (s : Holder F) : Prop :=
  s.pipe.commandStack = given.commandStack ∧ s.pipe.scripts = given.scripts ∧
    s.pipe.watching = given.watching

/-- The queue of a pipeline with a connection. -/
theorem aloof_ready (given : Pipeline F) :
    Aloof config env Silent fun s => Queued given s ∧ s.pipe.connection.isSome = true where
  used _ _ _ _ ready := ⟨ready.1, rfl⟩
  noted command s silent ready := by
    unfold noteReply
    rw [if_neg silent.1, if_neg silent.2]
    exact ready
  held s ready := by
    obtain ⟨conn, connection⟩ := Option.isSome_iff_exists.mp ready.2
    unfold holdConnection
    rw [connection]
    exact ready

/-- After a failure that nobody cleaned up after the pipeline is as it was; after a clean-up that
failed it is still watching. -/
def Failed (given : Pipeline F) (s : Holder F) : Prop :=
  Queued given s ∨ s.pipe.watching = true ∨ s.pipe.Clean

/-- A reset that is followed by an exception. -/
theorem meets_reset_throw (e : Exc) (given : Pipeline F) {P : Holder F → Prop}
    {Q : Unit → Holder F → Prop} :
    Meets P (do
      reset config env
      throw e) Q fun _ => Failed given := by
  intro s _
  rcases reset_cases config env s with ⟨_, t, ran, clean⟩ | ⟨_, f, t, ran, watching⟩
  · rw [Interruptible.bind_of_ok ran]
    exact .inr (.inr clean)
  · rw [Interruptible.bind_of_error ran]
    exact .inr (.inl watching)

/-- A silent command that is executed at once leaves the queue, or fails. -/
theorem meets_immediateExecuteCommand {command : Command F} (silent : Silent command)
    (given : Pipeline F) :
    Meets (Queued given) (immediateExecuteCommand config env command)
      (fun _ s => Queued given s ∧ s.pipe.connection.isSome = true) fun _ => Failed given := by
  have held : Meets (Queued given) (holdConnection config env)
      (fun _ s => Queued given s ∧ s.pipe.connection.isSome = true) fun _ => Failed given := by
    intro s queued
    unfold holdConnection
    cases connection : s.pipe.connection with
    | some conn => exact ⟨queued, by rw [connection]; rfl⟩
    | none =>
      simp only
      cases s.shared.getConnection config env with
      | ok conn shared => exact ⟨queued, rfl⟩
      | error e shared => exact .inl queued
  have aloof := aloof_ready config env given
  apply held.bind
  intro _
  apply config.retry.meets_callWithRetry (aloof.exchange silent)
  · intro e _
    have gone := (aloof.onConnection Link.disconnect).weaken (fun _ => id) (fun _ _ => id)
      fun _ _ ready => (.inl ready.1 : Failed given _)
    apply gone.bind
    intro _
    apply meets_get
    intro s ready
    apply meets_ite
    · intro _
      exact meets_reset_throw config env _ given
    · intro _
      apply meets_whenever
      · intro _
        exact meets_reset_throw config env e given
      · intro _ t same
        rw [same]
        exact ⟨ready, .inl ready.1⟩
  · intro _ s _ ready
    exact .inl ready.1
  · intro _
    exact id
  · intro _ ready
    exact .inl ready.1

/-- Loading scripts leaves the queue, or fails. -/
theorem meets_loadScripts [PyFloat F] (given : Pipeline F) :
    Meets (Queued given) (loadScripts config env)
      (fun _ s => Queued given s ∧ s.pipe.connection.isSome = true) fun _ => Failed given := by
  have missing : ∀ scripts : List (Script × PyVal F),
      Meets (fun s => Queued given s ∧ s.pipe.connection.isSome = true) (loadMissing config env scripts)
        (fun _ s => Queued given s ∧ s.pipe.connection.isSome = true) fun _ => Failed given := by
    intro scripts
    induction scripts with
    | nil => exact meets_pure fun _ => id
    | cons item others ih =>
      have loaded : Meets (fun s => Queued given s ∧ s.pipe.connection.isSome = true)
          (whenever (!item.2.truthy) do
            let _ ← immediateExecuteCommand config env (.plain "SCRIPT LOAD" [item.1.script]))
          (fun _ s => Queued given s ∧ s.pipe.connection.isSome = true) fun _ => Failed given := by
        apply meets_whenever
        · intro _
          have one := meets_immediateExecuteCommand config env (silent_scriptLoad [item.1.script]) given
          exact (one.assuming fun _ => And.left).bind fun _ => meets_pure fun _ => id
        · intro _ _
          exact id
      exact loaded.bind fun _ => ih
  apply meets_get
  intro s queued
  have asked := meets_immediateExecuteCommand config env (silent_scriptExists (s.pipe.scripts.map (·.sha))) given
  apply (asked.from_state queued).bind
  intro known
  cases known.elements with
  | none => exact meets_throw fun _ ready => .inl ready.1
  | some flags => exact meets_whenever (fun _ => missing _) fun _ _ => id

/-! ## The condition -/

section Execute

variable [PyFloat F]

/-- `if self.scripts: self.load_scripts()`. -/
def loadRegistered (s : Holder F) : EStateM.Result Exc (Holder F) Unit :=
  whenever (!s.pipe.scripts.isEmpty) (loadScripts config env) s

omit [PyFloat F] in
/-- The attempts to execute the commands. -/
def attempts (commands : List (Command F)) (raiseOnError : Bool) (s : Holder F) :
    EStateM.Result Exc (Holder F) (List (PyVal F)) :=
  config.retry.callWithRetry
    (attempt config env (s.pipe.transaction || s.pipe.explicitTransaction) commands raiseOnError)
    (disconnectRaiseReset config env) env.patience 0 s

/-- None of the branches of `execute` that leave something behind is taken. -/
def Tidies (raiseOnError : Bool) (s : Holder F) : Prop :=
  if (s.pipe.commandStack.isEmpty && !s.pipe.watching) = true then
    -- the early return: nothing is left from before
    s.pipe.scripts = [] ∧ s.pipe.explicitTransaction = false ∧ s.pipe.connection = none
  else
    match loadRegistered config env s with
    | .error _ t =>
      -- the error handler of `immediate_execute_command` has got through its own `reset`
      t.pipe.scripts = [] ∧ t.pipe.watching = false
    | .ok _ t =>
      match holdConnection config env t with
      | .error _ _ => False
      | .ok _ u =>
        Unwatches config env (stateAfter (attempts config env s.pipe.commandStack raiseOnError u))

/-- Loading the registered scripts leaves the queue, or fails; without scripts it does nothing. -/
theorem loadRegistered_cases (s : Holder F) :
    (∃ t, loadRegistered config env s = .ok () t ∧ Queued s.pipe t ∧
      (s.pipe.scripts = [] → t = s) ∧ (s.pipe.scripts ≠ [] → t.pipe.connection.isSome = true)) ∨
    ∃ e t, loadRegistered config env s = .error e t ∧ s.pipe.scripts ≠ [] ∧ Failed s.pipe t := by
  have queued : Queued s.pipe s := ⟨rfl, rfl, rfl⟩
  unfold loadRegistered whenever
  cases registered : s.pipe.scripts with
  | nil =>
    left
    exact ⟨s, rfl, by rw [← registered] at *; exact queued, fun _ => rfl, fun some => absurd rfl some⟩
  | cons script scripts =>
    have loaded := meets_loadScripts config env s.pipe s queued
    have some : script :: scripts ≠ [] := List.cons_ne_nil _ _
    have asked : (!(script :: scripts).isEmpty) = true := rfl
    rw [if_pos asked]
    cases ran : loadScripts config env s with
    | ok u t =>
      rw [ran] at loaded
      left
      exact ⟨t, rfl, loaded.1, fun none => absurd none some, fun _ => loaded.2⟩
    | error e t =>
      rw [ran] at loaded
      right
      exact ⟨e, t, rfl, some, loaded⟩

omit [PyFloat F] in
/-- After scripts could not be loaded, the pipeline is clean if and only if the error handler has
got through its own `reset`. -/
theorem clean_failed_iff {given : Pipeline F} {t : Holder F} (registered : given.scripts ≠ [])
    (failed : Failed given t) :
    t.pipe.Clean ↔ t.pipe.scripts = [] ∧ t.pipe.watching = false := by
  constructor
  · intro clean
    exact ⟨clean.scripts, clean.watching⟩
  · rintro ⟨scripts, watching⟩
    rcases failed with queued | still | clean
    · exact absurd (queued.2.1.symm.trans scripts) registered
    · rw [watching] at still
      cases still
    · exact clean

omit [PyFloat F] in
/-- Getting a connection leaves the queue. -/
theorem holdConnection_cases (s : Holder F) :
    (∃ t, holdConnection config env s = .ok () t) ∨
    ∃ e t, holdConnection config env s = .error e t ∧ s.pipe.connection = none ∧ t.pipe = s.pipe := by
  unfold holdConnection
  cases connection : s.pipe.connection with
  | some conn => exact .inl ⟨s, rfl⟩
  | none =>
    simp only
    cases s.shared.getConnection config env with
    | ok conn shared => exact .inl ⟨_, rfl⟩
    | error e shared => exact .inr ⟨e, _, rfl, trivial, rfl⟩

/-- `execute` leaves the pipeline clean if and only if it takes no branch that leaves something
behind. -/
theorem clean_execute_iff (raiseOnError : Bool) (s : Holder F) :
    (stateAfter (execute config env raiseOnError s)).pipe.Clean ↔
      Tidies config env raiseOnError s := by
  have looked : (get : EStateM Exc (Holder F) (Holder F)) s = .ok s s := rfl
  unfold Tidies
  rw [execute, Interruptible.bind_of_ok looked]
  by_cases idle : (s.pipe.commandStack.isEmpty && !s.pipe.watching) = true
  · rw [if_pos idle, if_pos idle]
    obtain ⟨stack, quiet⟩ := Bool.and_eq_true_iff.mp idle
    have none : s.pipe.commandStack = [] := List.isEmpty_iff.mp stack
    have unwatched : s.pipe.watching = false := by simpa using quiet
    constructor
    · intro clean
      exact ⟨clean.scripts, clean.explicitTransaction, clean.connection⟩
    · rintro ⟨scripts, explicit, connection⟩
      exact ⟨none, scripts, unwatched, explicit, connection⟩
  · rw [if_neg idle, if_neg idle]
    rcases loadRegistered_cases config env s with
      ⟨t, loaded, queued, same, connected⟩ | ⟨e, t, loaded, registered, failed⟩
    · have ran : whenever (!s.pipe.scripts.isEmpty) (loadScripts config env) s = .ok () t := loaded
      rw [loaded, Interruptible.bind_of_ok ran, executeStack]
      simp only
      rcases holdConnection_cases config env t with ⟨u, held⟩ | ⟨e, u, held, unconnected, kept⟩
      · have seen : (get : EStateM Exc (Holder F) (Holder F)) u = .ok u u := rfl
        rw [held, Interruptible.bind_of_ok held, Interruptible.bind_of_ok seen, stateAfter_ensure]
        exact clean_reset_iff config env _
      · rw [held, Interruptible.bind_of_error held]
        refine ⟨fun clean => ?_, False.elim⟩
        -- only a pipeline without scripts can still be without a connection
        have unregistered : s.pipe.scripts = [] := by
          by_contra registered
          have connection := connected registered
          rw [unconnected] at connection
          cases connection
        have here : u.pipe = s.pipe := by rw [kept, same unregistered]
        have stack : s.pipe.commandStack = [] := here ▸ clean.commandStack
        have watching : s.pipe.watching = false := here ▸ clean.watching
        rw [stack, watching] at idle
        exact absurd rfl idle
    · have ran : whenever (!s.pipe.scripts.isEmpty) (loadScripts config env) s = .error e t := loaded
      rw [loaded, Interruptible.bind_of_error ran]
      exact clean_failed_iff registered failed

end Execute

/-- A new pipeline of a client with one connection. -/
def unused : Holder Empty := { pipe := .new true, shared := (Clients.start (F := Empty) 1).shared }

end Holder

end RedisPy

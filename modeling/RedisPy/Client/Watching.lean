import RedisPy.Client.Clean
import RedisPy.Client.Resending

/-!
# Watching across sessions

A `WATCH` is good for the session that acknowledged it. The pipeline keeps a flag and not the session,
and its connection opens a new one wherever it finds no socket before it writes: what was watched is
forgotten then, and `execute` does not notice. A run in which nothing that precedes a write replaces the
socket of a pipeline that has watched is safe.
-/

namespace RedisPy

open Contract

variable {F : Type}

/-- The batch holds commands that were queued. -/
def Batch.isQueued : Batch → Bool
  | .command _ => false
  | _ => true

/-- What was given to sockets of queued commands. -/
def Network.batches (net : Network) : List Transmission := net.log.filter (·.batch.isQueued)

/-! ## The law -/

namespace Holder

/-- The socket of the connection, as its session. -/
def socket (s : Holder F) : Option Nat := s.pipe.connection.bind (·.sock)

/-- `MULTI` … `EXEC` was sent once, on the session of every `WATCH` since the last reset, or `WatchError`
is raised and no queued command was executed. -/
def Optimistic {α : Type} (s : Holder F) (result : EStateM.Result Exc (Holder F) α) : Prop :=
  let words := (s.pipe.commandStack.filter (·.emptyResponse.isNone)).map (·.words)
  (∃ session,
    (stateAfter result).shared.net.batches =
      s.shared.net.batches ++ [{ session, batch := .transaction words, complete := true }] ∧
    ∀ watched ∈ s.pipe.watchedOn, watched = session) ∨
  ((∃ e t, result = .error e t ∧ e.isinstance .watchError = true) ∧
    ∃ failed, (stateAfter result).shared.net.batches = s.shared.net.batches ++ failed ∧
      ∀ transmission ∈ failed, transmission.complete = false)

end Holder

/-- A step is not an `execute` of a watching pipeline that goes wrong. -/
def Clients.Guarded [PyFloat F] (config : ClientConfig F) (s : Clients F) : Call F × Env F → Prop
  | (.pipeline index (.execute raiseOnError), env) =>
    (s.pipes index).watching = true →
      (s.holder index).Optimistic (Holder.execute config env raiseOnError (s.holder index))
  | _ => True

/-! ## The condition -/

namespace Link

/-- What `send_packed_command` does before it writes. -/
def getReady (config : ConnectionConfig) (env : Env F) : EStateM Exc Link Unit := do
  interfere env
  connectIfClosed (connectCheckHealth config env env.depth false)
  checkHealth config env (connectCheckHealth config env env.depth false)

/-- What precedes a write leaves the socket as it is; where it raises, the socket may be gone. -/
def Steady (config : ConnectionConfig) (env : Env F) (s : Link) : Prop :=
  match getReady config env s with
  | .ok _ t => t.conn.sock = s.conn.sock
  | .error _ t => t.conn.sock = none ∨ t.conn.sock = s.conn.sock

end Link

/-- A first failure with this error is the last one. -/
def ConnectionConfig.Final (config : ConnectionConfig) (e : Exc) : Prop :=
  config.Allows e → config.retry.exhausted 1 = true

namespace Holder

variable (config : ClientConfig F) (env : Env F)

/-- The connection keeps the socket that it has until something is written. -/
def Steady (s : Holder F) : Prop :=
  ∀ conn, s.pipe.connection = some conn →
    Link.Steady config.toConnectionConfig env { conn, net := s.shared.net }

/-- The pipeline after its connection was closed. -/
def lost (s : Holder F) : Holder F :=
  { s with pipe.connection := s.pipe.connection.map fun _ => .closed }

/-- If `reset` raises, it leaves no socket. -/
def Abandons (s : Holder F) : Prop := ∀ e t, reset config env s = .error e t → t.socket = none

/-- One attempt of `immediate_execute_command`. -/
def exchange (command : Command F) : EStateM Exc (Holder F) (PyVal F) := do
  onConnection (Link.sendCommand config env command)
  parseResponse config env command

/-- A command that is executed at once on a connection that has watched takes none of the branches
that open a new session. -/
structure Undisturbed (command : Command F) (s : Holder F) : Prop where
  /-- Connecting on sending, and a health check that is repeated. -/
  steady : s.Steady config env
  /-- The clean-up after a lost connection. -/
  abandons : s.pipe.watching = true → ∀ e t, exchange config env command s = .error e t →
    e.isinstanceAny config.retry.supportedErrors = true → t.lost.Abandons config env
  /-- A command that is repeated, after `UNWATCH`. -/
  final : s.pipe.watching = false → ∀ e t, exchange config env command s = .error e t → config.Final e

/-- A transaction after the scripts were loaded: it is sent on the session that the pipeline had
before, or this fails in a way that ends in `WatchError`. -/
structure Conclusive (before : Holder F) (raiseOnError : Bool) (s : Holder F) : Prop where
  /-- A transaction is executed. -/
  transactional : (s.pipe.transaction || s.pipe.explicitTransaction) = true
  /-- Connecting on sending, while the scripts were loaded. -/
  same : s.socket = before.socket
  /-- Connecting on sending, and a health check that is repeated. -/
  steady : s.Steady config env
  /-- The failures that the error handler does not see, and those of the clean-up. -/
  failing : ∀ e t, sendCommands config env .transaction
    (before.pipe.commandStack.filter (·.emptyResponse.isNone)) s = .error e t →
      e.isinstanceAny config.retry.supportedErrors = true ∧ t.lost.Unwatches config env
  /-- A transaction that is repeated after `EXEC`. -/
  final : ∀ e t, attempt config env true before.pipe.commandStack raiseOnError s = .error e t →
    t.pipe.watching = false → config.Final e

/-- `execute` takes none of the branches that lose what was watched. -/
def Executes [PyFloat F] (raiseOnError : Bool) (s : Holder F) : Prop :=
  (s.pipe.commandStack.isEmpty && !s.pipe.watching) = false →
    match loadRegistered config env s with
    | .error e t =>
      (s.pipe.watching = true → e.isinstance .watchError = true) ∧
        (t.pipe.watchedOn = [] ∨ t.socket = none ∨ t.socket = s.socket)
    | .ok _ t =>
      (s.pipe.watching = true → Conclusive config env s raiseOnError t) ∧
        ∀ u, holdConnection config env t = .ok () u →
          (stateAfter (attempts config env s.pipe.commandStack raiseOnError u)).Abandons config env

end Holder

/-- A call on a pipeline takes none of the branches that lose what was watched. -/
def PipeCall.Allowed [PyFloat F] (config : ClientConfig F) (env : Env F) (s : Holder F) :
    PipeCall F → Prop
  | .executeCommand command =>
    s.pipe.watchedOn ≠ [] →
      ((s.pipe.watching || command.name = "WATCH".toList) && !s.pipe.explicitTransaction) = true →
        s.Undisturbed config env command
  | .watch names =>
    s.pipe.watchedOn ≠ [] → s.pipe.explicitTransaction = false →
      s.Undisturbed config env (.plain "WATCH" names)
  | .unwatch =>
    s.pipe.watchedOn ≠ [] → (s.pipe.watching && !s.pipe.explicitTransaction) = true →
      s.Undisturbed config env (.plain "UNWATCH" [])
  | .multi => True
  | .addScript _ => True
  | .execute raiseOnError => s.Executes config env raiseOnError
  | .reset => s.Abandons config env

/-- A step takes none of the branches that lose what was watched. -/
def Clients.Allowed [PyFloat F] (config : ClientConfig F) (s : Clients F) : Call F × Env F → Prop
  | (.pipeline index call, env) => call.Allowed config env (s.holder index)
  | _ => True

/-! ## The invariant -/

/-- Where the connection has a socket, it is that of every `WATCH` since the last reset. -/
structure Pipeline.Anchored (pipe : Pipeline F) : Prop where
  /-- A pipeline that has watched holds a connection. -/
  held : pipe.watching = true ∨ pipe.watchedOn ≠ [] → pipe.connection.isSome = true
  /-- No `WATCH` was acknowledged on another session. -/
  here : ∀ session, pipe.connection.bind (·.sock) = some session →
    ∀ watched ∈ pipe.watchedOn, watched = session

/-! ## What is written -/

namespace Link

/-- Reading gives nothing to a socket. -/
theorem keeps_readResponse (env : Env F) (given : List Transmission) :
    Keeps (·.net.batches = given) (readResponse env) := by
  intro s same
  unfold readResponse
  cases s.conn.sock with
  | none => exact same
  | some session =>
    cases s.conn.outstanding with
    | nil => exact same
    | cons words rest =>
      simp only
      cases env.reply words s.net.clock with
      | error e => exact same
      | ok response =>
        cases response with
        | exc e =>
          by_cases reply : e.isinstance .responseError = true
          · simp only [if_pos reply]
            exact same
          · simp only [if_neg reply]
            exact same
        | _ => exact same

/-- Parsing a reply gives nothing to a socket. -/
theorem keeps_parseResponse (config : ClientConfig F) (env : Env F) (given : List Transmission)
    (command : Command F) : Keeps (·.net.batches = given) (parseResponse config env command) := by
  intro s same
  have read := keeps_readResponse env given s same
  unfold parseResponse
  cases ran : readResponse env s with
  | error e t =>
    rw [ran] at read
    cases command.emptyResponse with
    | none => exact read
    | some value =>
      by_cases reply : e.isinstance .responseError = true
      · simp only [if_pos reply]
        exact read
      · simp only [if_neg reply]
        exact read
  | ok response t =>
    rw [ran] at read
    cases config.responseCallbacks command.name with
    | none => exact read
    | some callback =>
      simp only
      cases callback command response <;> exact read

/-- What is written is put on record, and a failure is told from a success. -/
theorem meets_transmit_batches (env : Env F) (batch : Batch) (written : batch.commands ≠ [])
    (queued : batch.isQueued = true) (given : List Transmission) (sock : Option Nat) :
    Meets (fun s => s.net.batches = given ∧ s.conn.sock = sock) (transmit env batch)
      (fun _ s => ∃ session, sock = some session ∧ s.conn.sock = sock ∧
        s.net.batches = given ++ [{ session, batch, complete := true }])
      fun _ s => s.conn.sock = none ∧
        ∃ failed, s.net.batches = given ++ failed ∧ ∀ one ∈ failed, one.complete = false := by
  rintro s ⟨same, here⟩
  unfold transmit
  rw [if_neg written, here]
  cases sock with
  | none => exact ⟨rfl, [], by rw [List.append_nil]; exact same, fun one member => by cases member⟩
  | some session =>
    have noted (complete : Bool) :
        (s.net.log ++ [{ session, batch, complete : Transmission }]).filter (·.batch.isQueued) =
          given ++ [{ session, batch, complete : Transmission }] := by
      rw [List.filter_append, ← same]
      simp [Network.batches, queued]
    simp only
    cases env.send batch s.net.clock with
    | none => exact ⟨session, rfl, here, noted true⟩
    | some e =>
      refine ⟨rfl, _, noted false, fun one member => ?_⟩
      rw [List.mem_singleton.mp member]

/-- Everything that a connection does besides sending a batch gives no queued command to a socket. -/
theorem conduct_batches (config : ConnectionConfig) (env : Env F) (given : List Transmission) :
    Conduct config env (·.net.batches = given) (fun _ s => s.net.batches = given)
      (·.net.batches = given) where
  between _ := id
  without _ same _ := same
  closes _ := id
  ticks _ := id
  dials := by
    intro s same
    unfold dial
    cases env.dial s.net.clock with
    | some e => exact same
    | none => exact same.1
  transmits words := by
    intro s same
    unfold transmit
    have written : (Batch.command words).commands ≠ [] := List.cons_ne_nil _ _
    rw [if_neg written]
    cases s.conn.sock with
    | none => exact same
    | some session =>
      have noted (complete : Bool) :
          (s.net.log ++ [{ session, batch := .command words, complete : Transmission }]).filter
            (·.batch.isQueued) = given := by
        rw [List.filter_append, ← same]
        simp [Network.batches, Batch.isQueued]
      simp only
      cases env.send (.command words) s.net.clock with
      | none => exact noted true
      | some e => exact noted false
  reads _ := (keeps_readResponse env given).weaken (fun _ => id) (fun _ _ => id) fun _ _ => Or.inl
  pings := keeps_readResponse env given
  pongs _ := Or.inl
  hellos := (keeps_readResponse env given).weaken (fun _ => id) (fun _ _ same => ⟨same, .inl same⟩)
    fun _ _ => Or.inl
  credentials _ _ _ := Or.inl

/-- Sending is getting ready and writing. -/
theorem send_eq (config : ConnectionConfig) (env : Env F) (batch : Batch) :
    send config env batch = (do
      getReady config env
      transmit env batch) := by
  unfold send sendPackedCommand getReady
  simp only [bind_assoc]
  rfl

/-- Getting ready gives no queued command to a socket. -/
theorem keeps_getReady (config : ConnectionConfig) (env : Env F) (given : List Transmission) :
    Keeps (·.net.batches = given) (getReady config env) := by
  have conduct := conduct_batches config env given
  have connects : Meets (fun s : Link => s.net.batches = given ∧ s.conn.sock = none)
      (connectCheckHealth config env env.depth false) (fun _ s => s.net.batches = given)
      fun _ s => s.net.batches = given :=
    (conduct.connectCheckHealth env.depth false).assuming fun _ => And.left
  apply conduct.interferes.bind
  intro _
  apply (meets_connectIfClosed connects).bind
  intro _
  exact conduct.checkHealth connects

/-- A transaction is sent on the socket that there is, and all of it; or it is not executed. -/
theorem send_transaction_cases {config : ConnectionConfig} {env : Env F} {s : Link}
    (steady : s.Steady config env) (commands : List Words) :
    Meets (· = s) (send config env (.transaction commands))
      (fun _ t => ∃ session, s.conn.sock = some session ∧ t.net.batches =
        s.net.batches ++ [{ session, batch := .transaction commands, complete := true }])
      fun _ t => ∃ failed, t.net.batches = s.net.batches ++ failed ∧
        ∀ one ∈ failed, one.complete = false := by
  rw [send_eq]
  have ready : Meets (· = s) (getReady config env)
      (fun _ t => t.net.batches = s.net.batches ∧ t.conn.sock = s.conn.sock)
      fun _ t => ∃ failed, t.net.batches = s.net.batches ++ failed ∧
        ∀ one ∈ failed, one.complete = false := by
    intro t same
    rw [same]
    have kept := keeps_getReady config env s.net.batches s rfl
    unfold Steady at steady
    cases ran : getReady config env s with
    | ok _ t =>
      rw [ran] at kept steady
      exact ⟨kept, steady⟩
    | error e t =>
      rw [ran] at kept
      exact ⟨[], by rw [List.append_nil]; exact kept, fun one member => by cases member⟩
  apply ready.bind
  intro _
  have written := meets_transmit_batches env (.transaction commands) (List.cons_ne_nil _ _) rfl
    s.net.batches s.conn.sock
  exact written.weaken (fun _ => id) (fun _ _ ⟨session, here, _, noted⟩ => ⟨session, here, noted⟩)
    fun _ _ => And.right

/-- The connection has this socket, or none. -/
def At (sock : Option Nat) (s : Link) : Prop := s.conn.sock = none ∨ s.conn.sock = sock

/-- Reading opens no session. -/
theorem keeps_at_readResponse (env : Env F) (sock : Option Nat) : Keeps (At sock) (readResponse env) := by
  intro s here
  unfold readResponse
  cases connected : s.conn.sock with
  | none => exact .inl rfl
  | some session =>
    have same : some session = sock := by
      rcases here with none | same
      · rw [connected] at none
        cases none
      · exact connected.symm.trans same
    cases s.conn.outstanding with
    | nil => exact .inl rfl
    | cons words rest =>
      simp only
      cases env.reply words s.net.clock with
      | error e => exact .inl rfl
      | ok response =>
        cases response with
        | exc e =>
          by_cases reply : e.isinstance .responseError = true
          · simp only [if_pos reply]
            exact .inr (connected.trans same)
          · simp only [if_neg reply]
            exact .inr (connected.trans same)
        | _ => exact .inr (connected.trans same)

/-- Parsing a reply opens no session. -/
theorem keeps_at_parseResponse (config : ClientConfig F) (env : Env F) (sock : Option Nat)
    (command : Command F) : Keeps (At sock) (parseResponse config env command) := by
  intro s here
  have read := keeps_at_readResponse env sock s here
  unfold parseResponse
  cases ran : readResponse env s with
  | error e t =>
    rw [ran] at read
    cases command.emptyResponse with
    | none => exact read
    | some value =>
      by_cases reply : e.isinstance .responseError = true
      · simp only [if_pos reply]
        exact read
      · simp only [if_neg reply]
        exact read
  | ok response t =>
    rw [ran] at read
    cases config.responseCallbacks command.name with
    | none => exact read
    | some callback =>
      simp only
      cases callback command response <;> exact read

/-- Sending a command on a steady connection opens no session. -/
theorem Steady.sendCommand {config : ClientConfig F} {env : Env F} {s : Link}
    (steady : s.Steady config.toConnectionConfig env) (command : Command F) :
    Meets (· = s) (sendCommand config env command) (fun _ => At s.conn.sock)
      fun _ => At s.conn.sock := by
  apply meets_ite
  · intro _
    rw [send_eq]
    have ready : Meets (· = s) (getReady config.toConnectionConfig env) (fun _ => At s.conn.sock)
        fun _ => At s.conn.sock := by
      intro t same
      rw [same]
      unfold Steady at steady
      cases ran : getReady config.toConnectionConfig env s with
      | ok _ t =>
        rw [ran] at steady
        exact .inr steady
      | error e t =>
        rw [ran] at steady
        exact steady
    apply ready.bind
    intro _ t here
    have written : (Batch.command command.words).commands ≠ [] := List.cons_ne_nil _ _
    unfold transmit
    rw [if_neg written]
    cases connected : t.conn.sock with
    | none => exact .inl rfl
    | some session =>
      simp only
      cases env.send (.command command.words) t.net.clock with
      | none =>
        rcases here with none | same
        · rw [connected] at none
          cases none
        · exact .inr same
      | some e => exact .inl rfl
  · intro _
    exact meets_throw fun t same => .inr (congrArg (·.conn.sock) same)

end Link

namespace Holder

variable (config : ClientConfig F) (env : Env F)

/-- What a program on the connection keeps of the network, the pipeline keeps. -/
theorem keeps_onConnection {α : Type} {P : Network → Prop} {program : EStateM Exc Link α}
    (keeps : Keeps (fun link => P link.net) program) :
    Keeps (fun s : Holder F => P s.shared.net) (onConnection program) := by
  intro s holds
  unfold onConnection
  cases s.pipe.connection with
  | none => exact holds
  | some conn =>
    have one := keeps { conn, net := s.shared.net } holds
    simp only
    cases ran : program { conn, net := s.shared.net } with
    | ok value link =>
      rw [ran] at one
      exact one
    | error e link =>
      rw [ran] at one
      exact one

/-- Nothing but the batches of a pipeline gives queued commands to a socket. -/
theorem abiding_batches (given : List Transmission) :
    Abiding config env fun s => s.shared.net.batches = given where
  disconnects := keeps_onConnection (P := fun net => net.batches = given) (keeps_modify fun _ => id)
  sends command := by
    apply keeps_onConnection (P := fun net => net.batches = given)
    have conduct := Link.conduct_batches config.toConnectionConfig env given
    exact keeps_ite (conduct.send (conduct.transmits _) fun _ _ => id) (keeps_throw _)
  parses command := keeps_onConnection (P := fun net => net.batches = given)
    (Link.keeps_parseResponse config env given command)
  unwatches := by
    apply keeps_onConnection (P := fun net => net.batches = given)
    have conduct := Link.conduct_batches config.toConnectionConfig env given
    have sends : Keeps (fun link : Link => link.net.batches = given)
        (Link.send config.toConnectionConfig env (.command ["UNWATCH".toList])) :=
      conduct.send (conduct.transmits _) fun _ _ => id
    apply (sends.bind fun _ => (Link.keeps_readResponse env given).bind fun _ => keeps_pure _).recover
    intro e
    exact keeps_ite (keeps_modify fun _ => id) (keeps_throw e)
  noted command s same := by
    unfold noteReply
    split
    · exact same
    · split <;> exact same
  held s same := by
    unfold holdConnection
    cases s.pipe.connection with
    | some conn => exact same
    | none =>
      have prepared := (Link.conduct_batches config.toConnectionConfig env given).prepare
      unfold Shared.getConnection
      cases s.shared.pool.take with
      | error e => exact same
      | ok taken =>
        have one := prepared { conn := taken.1, net := s.shared.net } same
        simp only
        cases ran : Link.prepare config env { conn := taken.1, net := s.shared.net } with
        | ok _ link =>
          rw [ran] at one
          exact one
        | error e link =>
          rw [ran] at one
          exact one
  cleared _ := id
  released s same := by
    unfold letGo
    cases s.pipe.connection <;> exact same

/-! ## `execute` -/

/-- The transaction was sent once, on the session of the socket that there was. -/
def Sent (s : Holder F) (words : List Words) (t : Holder F) : Prop :=
  ∃ session, s.socket = some session ∧ t.shared.net.batches =
    s.shared.net.batches ++ [{ session, batch := .transaction words, complete := true }]

/-- No queued command was executed. -/
def Unsent (s t : Holder F) : Prop :=
  ∃ failed, t.shared.net.batches = s.shared.net.batches ++ failed ∧
    ∀ transmission ∈ failed, transmission.complete = false

/-- After a transaction that could not be sent, `WatchError` is raised and nothing is left to clean up. -/
def Hopeless (s : Holder F) (e : Exc) (t : Holder F) : Prop :=
  e.isinstanceAny config.retry.supportedErrors = true ∧ t.lost.Unwatches config env ∧
    t.pipe.watching = true ∧ t.pipe.connection.isSome = true ∧ s.Unsent t

omit config env in
/-- Closing the connection of a pipeline. -/
theorem disconnect_lost {s : Holder F} (held : s.pipe.connection.isSome = true) :
    onConnection Link.disconnect s = .ok () s.lost := by
  obtain ⟨conn, connection⟩ := Option.isSome_iff_exists.mp held
  unfold onConnection lost
  rw [connection]
  rfl

/-- A lost connection of a watching pipeline ends `execute`. -/
theorem disconnectRaiseReset_watching {s : Holder F} (held : s.pipe.connection.isSome = true)
    (watching : s.pipe.watching = true) (e : Exc) :
    disconnectRaiseReset config env e s = .error { cls := .watchError } s.lost := by
  have looked : (get : EStateM Exc (Holder F) (Holder F)) s.lost = .ok s.lost s.lost := rfl
  have still : s.lost.pipe.watching = true := watching
  rw [disconnectRaiseReset, Interruptible.bind_of_ok (disconnect_lost held),
    Interruptible.bind_of_ok looked, if_pos still]
  rfl

/-- A transaction is sent on the socket that there is, or not at all; the pipeline is still
watching then. -/
theorem meets_sendTransaction {s : Holder F} (steady : s.Steady config env)
    (held : s.pipe.connection.isSome = true) (commands : List (Command F)) :
    Meets (· = s) (sendCommands config env .transaction commands)
      (fun _ t => s.Sent (commands.map (·.words)) t)
      fun _ t => t.pipe.watching = s.pipe.watching ∧ t.pipe.connection.isSome = true ∧ s.Unsent t := by
  obtain ⟨conn, connection⟩ := Option.isSome_iff_exists.mp held
  apply meets_ite
  · intro _ t same
    rw [same]
    have sent := Link.send_transaction_cases (steady conn connection) (commands.map (·.words)) _ rfl
    unfold onConnection
    simp only [connection]
    cases ran : Link.send config.toConnectionConfig env (.transaction (commands.map (·.words)))
        { conn, net := s.shared.net } with
    | ok _ link =>
      rw [ran] at sent
      obtain ⟨session, here, noted⟩ := sent
      refine ⟨session, ?_, noted⟩
      rw [socket, connection]
      exact here
    | error e link =>
      rw [ran] at sent
      exact ⟨rfl, rfl, sent⟩
  · intro _
    apply meets_throw
    intro t same
    rw [same]
    exact ⟨rfl, held, [], (List.append_nil _).symm, fun one member => by cases member⟩

/-- An attempt sends the transaction on the session that the pipeline had before, or is hopeless. -/
theorem Conclusive.attempt {before s : Holder F} {raiseOnError : Bool}
    (conclusive : Conclusive config env before raiseOnError s) (watching : s.pipe.watching = true)
    (held : s.pipe.connection.isSome = true) :
    let words := (before.pipe.commandStack.filter (·.emptyResponse.isNone)).map (·.words)
    Meets (· = s) (attempt config env true before.pipe.commandStack raiseOnError)
      (fun _ t => s.Sent words t)
      fun e t => (s.Sent words t ∧ (t.pipe.watching = false → config.Final e)) ∨
        Hopeless config env s e t := by
  intro words t same
  rw [same]
  have sent := meets_sendTransaction config env conclusive.steady held
    (before.pipe.commandStack.filter (·.emptyResponse.isNone)) s rfl
  have final := conclusive.final
  have split : Holder.attempt config env true before.pipe.commandStack raiseOnError =
      executeTransaction config env before.pipe.commandStack raiseOnError := rfl
  rw [split] at final ⊢
  unfold executeTransaction at final ⊢
  cases ran : sendCommands config env .transaction
      (before.pipe.commandStack.filter (·.emptyResponse.isNone)) s with
  | ok u v =>
    rw [ran] at sent
    obtain ⟨session, here, noted⟩ := sent
    have reads := (abiding_batches config env v.shared.net.batches).readTransaction (fun _ => id)
      before.pipe.commandStack raiseOnError v rfl
    rw [Interruptible.bind_of_ok ran] at final ⊢
    generalize ended : (do
      let first ← readQueuedReply config env 0
      let others ← readQueued config env 0 before.pipe.commandStack
      let response ← readExec config env (first ++ others)
      modify fun s : Holder F => { s with pipe.watching := false }
      finishTransaction config before.pipe.commandStack raiseOnError (first ++ others) response) v =
        result at reads final ⊢
    cases result with
    | ok value t => exact ⟨session, here, reads.trans noted⟩
    | error e t => exact .inl ⟨⟨session, here, reads.trans noted⟩, final e t rfl⟩
  | error e v =>
    rw [ran] at sent
    obtain ⟨supported, unwatches⟩ := conclusive.failing e v ran
    obtain ⟨still, connected, unsent⟩ := sent
    rw [Interruptible.bind_of_error ran]
    exact .inr ⟨supported, unwatches, still.trans watching, connected, unsent⟩

/-- `_disconnect_raise_reset` returns to the loop for errors to retry on, and to a pipeline that does
not watch. -/
theorem meets_disconnectRaiseReset_returns (e : Exc) (s : Holder F) :
    Meets (· = s) (disconnectRaiseReset config env e)
      (fun _ _ => config.retriesOn e = true ∧ s.pipe.watching = false) fun _ _ => True := by
  have closes : Meets (· = s) (onConnection Link.disconnect)
      (fun _ (t : Holder F) => t.pipe.watching = s.pipe.watching) fun _ _ => True := by
    intro t same
    rw [same]
    unfold onConnection
    cases s.pipe.connection with
    | none => trivial
    | some conn => rfl
  apply closes.bind
  intro _
  apply meets_get
  intro t still
  apply meets_ite
  · intro _
    exact meets_throw fun _ _ => trivial
  · intro quiet
    apply meets_whenever
    · intro _
      exact (meets_before_throw (reset config env) e).assuming fun _ _ => trivial
    · intro retries _ _
      exact ⟨by simpa using retries, still.symm.trans (by simpa using quiet)⟩

/-- All attempts together send the transaction once, on the session that the pipeline had before, or end
in `WatchError`. -/
theorem Conclusive.attempts {before s : Holder F} {raiseOnError : Bool}
    (conclusive : Conclusive config env before raiseOnError s) (watching : s.pipe.watching = true)
    (held : s.pipe.connection.isSome = true) :
    let words := (before.pipe.commandStack.filter (·.emptyResponse.isNone)).map (·.words)
    Meets (· = s)
      (config.retry.callWithRetry (Holder.attempt config env true before.pipe.commandStack raiseOnError)
        (disconnectRaiseReset config env) env.patience 0)
      (fun _ t => s.Sent words t) fun e t => s.Sent words t ∨
        (e.isinstance .watchError = true ∧ t.Unwatches config env ∧ s.Unsent t) := by
  intro words
  apply config.retry.meets_callWithRetry_last 0
    (Conclusive.attempt config env conclusive watching held)
  · rintro e supported t (⟨⟨session, here, noted⟩, final⟩ | ⟨_, unwatches, still, connected, unsent⟩)
    · -- whatever is done about the failure, no queued command is written
      have kept := ((abiding_batches config env t.shared.net.batches).handlers e).2 t rfl
      have returns := meets_disconnectRaiseReset_returns config env e t t rfl
      cases ran : disconnectRaiseReset config env e t with
      | ok _ u =>
        rw [ran] at kept returns
        exact ⟨final returns.2 ⟨supported, returns.1⟩, .inl ⟨session, here, kept.trans noted⟩⟩
      | error f u =>
        rw [ran] at kept
        exact .inl ⟨session, here, kept.trans noted⟩
    · rw [disconnectRaiseReset_watching config env connected still e]
      exact .inr ⟨rfl, unwatches, unsent⟩
  · rintro e t unsupported (⟨sent, _⟩ | ⟨supported, _⟩)
    · exact .inl sent
    · exact absurd supported unsupported

/-! ## Loading scripts -/

/-- What the pipeline has watched, unless it was reset. -/
def Watched (watchedOn : List Nat) (s : Holder F) : Prop :=
  (s.pipe.watchedOn = [] ∨ s.pipe.watchedOn = watchedOn) ∧
    (s.pipe.watching = true ∨ s.pipe.watchedOn ≠ [] → s.pipe.connection.isSome = true)

/-- Silent commands watch nothing. -/
theorem aloof_watched (watchedOn : List Nat) :
    Aloof config env Silent fun s => s.Watched watchedOn where
  used _ _ _ _ kept := ⟨kept.1, fun _ => rfl⟩
  noted command s silent kept := by
    unfold noteReply
    rw [if_neg silent.1, if_neg silent.2]
    exact kept
  held s kept := by
    unfold holdConnection
    cases connection : s.pipe.connection with
    | some conn => exact kept
    | none =>
      simp only
      cases s.shared.getConnection config env with
      | ok conn shared => exact ⟨kept.1, fun _ => rfl⟩
      | error e shared => exact kept

omit config env in
/-- A pipeline that let go has watched nothing. -/
theorem watched_letGo (watchedOn : List Nat) (s : Holder F) : s.letGo.Watched watchedOn :=
  ⟨.inl rfl, fun some => by rcases some with watching | other <;> [cases watching; exact absurd rfl other]⟩

/-- `reset` watches nothing. -/
theorem keeps_watched_reset (watchedOn : List Nat) :
    Keeps (fun s => s.Watched watchedOn) (reset config env) := by
  have cleared : Keeps (fun s : Holder F => s.Watched watchedOn)
      (modify clearStack : EStateM Exc (Holder F) Unit) := keeps_modify fun _ kept => kept
  apply cleared.bind
  intro _
  apply keeps_get
  intro s
  apply (keeps_whenever ((aloof_watched config env watchedOn).onConnection _)).bind
  intro _
  exact keeps_modify fun s _ => watched_letGo watchedOn s

/-- `_disconnect_reset_raise` watches nothing. -/
theorem keeps_watched_handler (watchedOn : List Nat) (e : Exc) :
    Keeps (fun s => s.Watched watchedOn) (disconnectResetRaise config env e) := by
  have resets := keeps_watched_reset config env watchedOn
  apply ((aloof_watched config env watchedOn).onConnection _).bind
  intro _
  apply keeps_get
  intro s
  exact keeps_ite (resets.bind fun _ => keeps_throw _)
    (keeps_whenever (resets.bind fun _ => keeps_throw e))

/-- A silent command that is executed at once watches nothing. -/
theorem keeps_watched_immediate {command : Command F} (silent : Silent command) (watchedOn : List Nat) :
    Keeps (fun s => s.Watched watchedOn) (immediateExecuteCommand config env command) := by
  have aloof := aloof_watched config env watchedOn
  apply aloof.held.bind
  intro _
  exact config.retry.keeps_callWithRetry (aloof.exchange silent)
    (keeps_watched_handler config env watchedOn) env.patience 0

section Execute

variable [PyFloat F]

/-- Loading the registered scripts watches nothing. -/
theorem loadRegistered_watched {watchedOn : List Nat} {s : Holder F} (kept : s.Watched watchedOn) :
    (stateAfter (loadRegistered config env s)).Watched watchedOn :=
  (keeps_whenever (keeps_loadScripts config env fun _ silent =>
    keeps_watched_immediate config env silent watchedOn)).stateAfter kept

/-- Loading the registered scripts writes no queued command. -/
theorem loadRegistered_batches (s : Holder F) :
    (stateAfter (loadRegistered config env s)).shared.net.batches = s.shared.net.batches :=
  (keeps_whenever (abiding_batches config env s.shared.net.batches).loadScripts).stateAfter rfl

omit [PyFloat F] in
/-- What `execute` does with its commands once the scripts are loaded. -/
theorem Conclusive.executeStack {before s : Holder F} {raiseOnError : Bool}
    (conclusive : Conclusive config env before raiseOnError s) (watching : s.pipe.watching = true)
    (held : s.pipe.connection.isSome = true) :
    let words := (before.pipe.commandStack.filter (·.emptyResponse.isNone)).map (·.words)
    Meets (· = s) (executeStack config env before.pipe.commandStack raiseOnError)
      (fun _ t => s.Sent words t) fun e t => s.Sent words t ∨
        (e.isinstance .watchError = true ∧ s.Unsent t) := by
  intro words
  obtain ⟨conn, connection⟩ := Option.isSome_iff_exists.mp held
  have holds : Meets (· = s) (holdConnection config env) (fun _ => (· = s))
      fun (e : Exc) t => s.Sent words t ∨ (e.isinstance .watchError = true ∧ s.Unsent t) := by
    intro t same
    rw [same]
    unfold holdConnection
    rw [connection]
  have resets (t : Holder F) : Keeps (fun u => u.shared.net.batches = t.shared.net.batches)
      (reset config env) := (abiding_batches config env t.shared.net.batches).reset
  apply holds.bind
  intro _
  apply meets_get
  intro t same
  rw [same, conclusive.transactional]
  apply (Conclusive.attempts config env conclusive watching held).ensure
  · rintro value t ⟨session, here, noted⟩
    have kept := resets t t rfl
    cases ran : reset config env t with
    | ok _ u =>
      rw [ran] at kept
      exact ⟨session, here, kept.trans noted⟩
    | error f u =>
      rw [ran] at kept
      exact .inl ⟨session, here, kept.trans noted⟩
  · rintro e t (⟨session, here, noted⟩ | ⟨watchError, unwatches, failed, noted, incomplete⟩)
    · have kept := resets t t rfl
      cases ran : reset config env t with
      | ok _ u =>
        rw [ran] at kept
        exact .inl ⟨session, here, kept.trans noted⟩
      | error f u =>
        rw [ran] at kept
        exact .inl ⟨session, here, kept.trans noted⟩
    · have kept := resets t t rfl
      rcases reset_cases config env t with ⟨_, u, ran, _⟩ | ⟨raises, _⟩
      · rw [ran] at kept ⊢
        exact .inr ⟨watchError, failed, kept.trans noted, incomplete⟩
      · exact absurd unwatches raises

/-- An `execute` that takes none of the branches that lose what was watched is optimistic. -/
theorem optimistic_execute {s : Holder F} {raiseOnError : Bool} (anchored : s.pipe.Anchored)
    (watching : s.pipe.watching = true) (executes : s.Executes config env raiseOnError) :
    s.Optimistic (execute config env raiseOnError s) := by
  have looked : (get : EStateM Exc (Holder F) (Holder F)) s = .ok s s := rfl
  have busy : (s.pipe.commandStack.isEmpty && !s.pipe.watching) = false := by
    rw [watching]
    simp
  have allowed := executes busy
  have watched := loadRegistered_watched config env (s := s) ⟨.inr rfl, anchored.held⟩
  have quiet := loadRegistered_batches config env s
  rw [execute, Interruptible.bind_of_ok looked, if_neg (by rw [busy]; exact Bool.false_ne_true)]
  rcases loadRegistered_cases config env s with ⟨t, loaded, queued, _⟩ | ⟨e, t, loaded, _⟩
  · have ran : whenever (!s.pipe.scripts.isEmpty) (loadScripts config env) s = .ok () t := loaded
    rw [loaded] at allowed watched quiet
    rw [Interruptible.bind_of_ok ran]
    have still : t.pipe.watching = true := queued.2.2.trans watching
    have conclusive := allowed.1 watching
    have ends := Conclusive.executeStack config env conclusive still (watched.2 (.inl still)) t rfl
    have anchor {session : Nat} (here : t.socket = some session) :
        ∀ watched ∈ s.pipe.watchedOn, watched = session :=
      anchored.here session (conclusive.same.symm.trans here)
    cases done : executeStack config env s.pipe.commandStack raiseOnError t with
    | ok value u =>
      rw [done] at ends
      obtain ⟨session, here, noted⟩ := ends
      exact .inl ⟨session, by rw [← quiet]; exact noted, anchor here⟩
    | error e u =>
      rw [done] at ends
      rcases ends with ⟨session, here, noted⟩ | ⟨watchError, failed, noted, incomplete⟩
      · exact .inl ⟨session, by rw [← quiet]; exact noted, anchor here⟩
      · exact .inr ⟨⟨e, u, rfl, watchError⟩, failed, by rw [← quiet]; exact noted, incomplete⟩
  · have ran : whenever (!s.pipe.scripts.isEmpty) (loadScripts config env) s = .error e t := loaded
    rw [loaded] at allowed quiet
    rw [Interruptible.bind_of_error ran]
    exact .inr ⟨⟨e, t, rfl, allowed.1 watching⟩, [], by rw [List.append_nil]; exact quiet,
      fun one member => by cases member⟩

end Execute

end Holder

end RedisPy

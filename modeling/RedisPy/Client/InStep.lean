import RedisPy.Client.Conduct

/-!
# Connections go back in step

A connection is in step when it has no socket or every command written on its session was
answered to a reader. Each program of the connection has a contract that says how many
replies are owed before and after it, also when it raises; from these, every call of a
client keeps the pool in step as long as no response callback leaves the reading of a
pipeline before its last reply.
-/

namespace RedisPy

open Contract

variable {F : Type}

/-- The server owes exactly the replies to these commands, or there is no session. -/
def Connection.Owes (conn : Connection) (commands : List Words) : Prop :=
  conn.sock = none ∨ conn.outstanding = commands

/-- Disconnected, or as many replies read as commands written. -/
def Connection.InStep (conn : Connection) : Prop := conn.Owes []

/-- A connection without a socket owes whatever one likes. -/
theorem Connection.owes_closed (commands : List Words) : Connection.closed.Owes commands := .inl rfl

namespace Link

/-- The connection of the link owes exactly these replies. -/
def Owes (commands : List Words) (s : Link) : Prop := s.conn.Owes commands

/-- A closed link owes whatever one likes. -/
theorem owes_closed (commands : List Words) (s : Link) : s.closed.Owes commands := .inl rfl

/-- Disconnecting settles everything. -/
theorem meets_disconnect (P : Link → Prop) (commands : List Words) (E : Exc → Link → Prop) :
    Meets P disconnect (fun _ => Owes commands) E :=
  meets_modify fun s _ => owes_closed commands s

/-- Writing in step leaves the replies to what was written, or no session. -/
theorem meets_transmit (env : Env F) (batch : Batch) :
    Meets (Owes []) (transmit env batch) (fun _ => Owes batch.commands) fun _ => Owes [] := by
  intro s owes
  unfold transmit
  by_cases empty : batch.commands = []
  · rw [if_pos empty]
    simp only [empty]
    exact owes
  · rw [if_neg empty]
    cases connected : s.conn.sock with
    | none => exact owes_closed [] s
    | some session =>
      have settled : s.conn.outstanding = [] := by
        rcases owes with none | settled
        · rw [connected] at none
          cases none
        · exact settled
      simp only
      cases env.send batch s.net.clock with
      | none =>
        right
        show s.conn.outstanding ++ batch.commands = batch.commands
        rw [settled, List.nil_append]
      | some e => exact owes_closed [] _

/-- Reading takes the first reply, also when it is an error reply; every other error
disconnects. -/
theorem meets_readResponse (env : Env F) (words : Words) (rest : List Words) :
    Meets (Owes (words :: rest)) (readResponse env)
      (fun response s => s.Owes rest ∧ ∃ time, env.reply words time = .ok response) fun e s =>
        s.Owes rest ∧ (s.conn.sock = none ∨ e.isinstance .responseError = true) := by
  intro s owes
  unfold readResponse
  cases connected : s.conn.sock with
  | none => exact ⟨owes_closed rest s, .inl rfl⟩
  | some session =>
    have due : s.conn.outstanding = words :: rest := by
      rcases owes with none | due
      · rw [connected] at none
        cases none
      · exact due
    simp only [due]
    cases given : env.reply words s.net.clock with
    | error e => exact ⟨owes_closed rest _, .inl rfl⟩
    | ok response =>
      cases response with
      | exc e =>
        by_cases reply : e.isinstance .responseError = true
        · simp only [if_pos reply]
          exact ⟨.inr rfl, .inr reply⟩
        · simp only [if_neg reply]
          exact ⟨.inr rfl, _, given⟩
      | _ => exact ⟨.inr rfl, _, given⟩

/-- Reading the only owed reply settles the link. -/
theorem meets_readResponse_only (env : Env F) (words : Words) :
    Meets (Owes [words]) (readResponse env) (fun _ => Owes []) fun _ => Owes [] :=
  (meets_readResponse env words []).weaken (fun _ => id) (fun _ _ => And.left) fun _ _ => And.left

end Link

namespace Link

/-- What the primitives of a connection owe to being in step. -/
theorem conduct_owes (config : ConnectionConfig) (env : Env F) :
    Conduct config env (Owes []) (fun words => Owes [words]) (Owes []) where
  between _ := id
  without _ _ closed := .inl closed
  closes s _ := owes_closed [] s
  ticks _ := id
  dials := by
    intro s holds
    unfold dial
    cases env.dial s.net.clock with
    | some e => exact holds
    | none => exact .inr rfl
  transmits words := meets_transmit env (.command words)
  reads words := (meets_readResponse_only env words).weaken (fun _ => id) (fun _ _ => id)
    fun _ _ => Or.inl
  pings := meets_readResponse_only env _
  pongs _ := Or.inl
  hellos := (meets_readResponse_only env _).weaken (fun _ => id)
    (fun _ _ owes => ⟨owes, .inl owes⟩) fun _ _ => Or.inl
  credentials _ _ _ := Or.inl

section Commands

/-- Sending in step leaves the replies to what was sent. -/
theorem meets_send (config : ConnectionConfig) (env : Env F) (batch : Batch) :
    Meets (Owes []) (send config env batch) (fun _ => Owes batch.commands) fun _ => Owes [] :=
  (conduct_owes config env).send (meets_transmit env batch) fun _ _ => id

variable (config : ClientConfig F) (env : Env F)

/-- Sending a command leaves its reply to be read. -/
theorem meets_sendCommand (command : Command F) :
    Meets (Owes []) (sendCommand config env command) (fun _ => Owes [command.words])
      fun _ => Owes [] :=
  meets_ite (fun _ => meets_send config.toConnectionConfig env _) fun _ => meets_throw fun _ => id

end Commands

end Link

/-! ## Response callbacks -/

/-- The response callback of a command raises this on a reply that the server gives to these
words. -/
def Raises (config : ClientConfig F) (env : Env F) (command : Command F) (words : Words)
    (e : Exc) : Prop :=
  ∃ callback time response, config.responseCallbacks command.name = some callback ∧
    env.reply words time = .ok response ∧ callback command response = .error e

/-- The response callback of a command only raises what the reading loop or the retry catches. -/
def Tame (config : ClientConfig F) (env : Env F) (command : Command F) (words : Words) : Prop :=
  ∀ e, Raises config env command words e →
    e.isinstance .responseError = true ∨ e.isinstanceAny config.retry.supportedErrors = true

/-- After an exception the connection is in step, or the retry is going to disconnect it. -/
def Excused (config : ClientConfig F) (e : Exc) (conn : Connection) : Prop :=
  conn.InStep ∨ e.isinstanceAny config.retry.supportedErrors = true

/-- Parsing takes the first reply; it raises because there is no session any more, because of
an error reply or because of the response callback. -/
theorem Link.meets_parseResponse (config : ClientConfig F) (env : Env F) (command : Command F)
    (words : Words) (rest : List Words) :
    Meets (Owes (words :: rest)) (parseResponse config env command) (fun _ => Owes rest)
      fun e s => s.Owes rest ∧
        (s.conn.sock = none ∨ e.isinstance .responseError = true ∨ Raises config env command words e) := by
  intro s owes
  have read := meets_readResponse env words rest s owes
  unfold parseResponse
  cases ran : readResponse env s with
  | error e t =>
    rw [ran] at read
    have reason := read.2.imp_right fun reply => Or.inl (b := Raises config env command words e) reply
    cases command.emptyResponse with
    | none => exact ⟨read.1, reason⟩
    | some value =>
      by_cases reply : e.isinstance .responseError = true
      · simp only [if_pos reply]
        exact read.1
      · simp only [if_neg reply]
        exact ⟨read.1, reason⟩
  | ok response t =>
    rw [ran] at read
    simp only
    cases found : config.responseCallbacks command.name with
    | none => exact read.1
    | some callback =>
      simp only
      cases called : callback command response with
      | ok value => exact read.1
      | error e =>
        obtain ⟨owes, time, given⟩ := read
        exact ⟨owes, .inr (.inr ⟨callback, time, response, found, given, called⟩)⟩

/-! ## The pool -/

/-- Every connection in the pool is in step, and so was every connection that was released. -/
def ConnectionPool.InStep (pool : ConnectionPool) : Prop :=
  (∀ conn ∈ pool.available, conn.InStep) ∧ ∀ conn ∈ pool.released, conn.InStep

/-- A connection in step may be released. -/
theorem ConnectionPool.InStep.release {pool : ConnectionPool} (inStep : pool.InStep)
    {conn : Connection} (ready : conn.InStep) : (pool.release conn).InStep := by
  constructor
  · intro other member
    rcases List.mem_append.mp member with before | last
    · exact inStep.1 other before
    · rw [List.mem_singleton.mp last]
      exact ready
  · intro other member
    rcases List.mem_append.mp member with before | last
    · exact inStep.2 other before
    · rw [List.mem_singleton.mp last]
      exact ready

/-- A connection that is taken is in step. -/
theorem ConnectionPool.InStep.take {pool : ConnectionPool} (inStep : pool.InStep) :
    match pool.take with
    | .ok (conn, rest) => conn.InStep ∧ rest.InStep
    | .error _ => True := by
  unfold ConnectionPool.take
  cases last : pool.available.getLast? with
  | some conn =>
    have member := List.mem_of_getLast? last
    exact ⟨inStep.1 conn member,
      fun other among => inStep.1 other (List.dropLast_subset _ among), inStep.2⟩
  | none =>
    by_cases full : pool.createdConnections ≥ pool.maxConnections
    · simp only [if_pos full]
    · simp only [if_neg full]
      exact ⟨Connection.owes_closed [], inStep⟩

namespace Shared

variable (config : ClientConfig F) (env : Env F)

/-- The pool is in step. -/
def InStep (s : Shared) : Prop := s.pool.InStep

/-- A connection from the pool is in step. -/
theorem meets_getConnection :
    Meets InStep (getConnection config env) (fun conn s => s.InStep ∧ conn.InStep)
      fun _ => InStep := by
  intro s inStep
  have taken := ConnectionPool.InStep.take inStep
  unfold getConnection
  cases took : s.pool.take with
  | error e => exact inStep
  | ok pair =>
    obtain ⟨conn, rest⟩ := pair
    rw [took] at taken
    have ready := (Link.conduct_owes config.toConnectionConfig env).prepare { conn, net := s.net } taken.1
    simp only
    cases ran : Link.prepare config env { conn, net := s.net } with
    | ok _ link =>
      rw [ran] at ready
      exact ⟨taken.2, ready⟩
    | error e link =>
      rw [ran] at ready
      exact taken.2.release ready

/-- A command of the client keeps its connection in step. -/
theorem keeps_executeOnLink (command : Command F) :
    Keeps (Link.Owes []) (Link.executeCommand config env command) := by
  have parsed : Meets (Link.Owes [command.words]) (Link.parseResponse config env command)
      (fun _ => Link.Owes []) fun _ => Link.Owes [] :=
    (Link.meets_parseResponse config env command command.words []).weaken (fun _ => id)
      (fun _ _ => id) fun _ _ ends => ends.1
  have attempt := (Link.meets_sendCommand config env command).bind fun _ => parsed
  apply config.retry.keeps_callWithRetry attempt
  intro e
  exact (Link.meets_disconnect (Link.Owes []) [] fun _ => Link.Owes []).bind fun _ => keeps_guard

/-- A command of the client keeps the pool in step. -/
theorem keeps_executeCommand (command : Command F) :
    Keeps InStep (executeCommand config env command) := by
  apply (meets_getConnection config env).bind
  intro conn s inStep
  have ran := keeps_executeOnLink config env command { conn, net := s.net } inStep.2
  simp only
  cases ended : Link.executeCommand config env command { conn, net := s.net } with
  | ok value link =>
    rw [ended] at ran
    exact inStep.1.release ran
  | error e link =>
    rw [ended] at ran
    exact inStep.1.release ran

end Shared

/-! ## Pipelines -/

namespace Holder

/-- The pool is in step, and so much holds of the connection of the pipeline. -/
def Holds (P : Connection → Prop) (s : Holder F) : Prop :=
  s.shared.InStep ∧ ∀ conn, s.pipe.connection = some conn → P conn

/-- What holds of the connection may be weakened. -/
theorem Holds.imp {P Q : Connection → Prop} {s : Holder F} (holds : s.Holds P)
    (weaker : ∀ conn, P conn → Q conn) : s.Holds Q :=
  ⟨holds.1, fun conn held => weaker conn (holds.2 conn held)⟩

/-- The contract of a program on the connection is one on the pipeline. -/
theorem meets_onConnection {α : Type} {program : EStateM Exc Link α} {P Q : Connection → Prop}
    {E : Exc → Connection → Prop}
    (meets : Meets (fun link => P link.conn) program (fun _ link => Q link.conn)
      fun e link => E e link.conn) :
    Meets (Holds (F := F) P) (onConnection program) (fun _ => Holds Q) fun e => Holds (E e) := by
  intro s holds
  unfold onConnection
  cases held : s.pipe.connection with
  | none =>
    refine ⟨holds.1, fun conn other => ?_⟩
    rw [held] at other
    cases other
  | some conn =>
    have one := meets { conn, net := s.shared.net } (holds.2 conn held)
    simp only
    cases ran : program { conn, net := s.shared.net } with
    | ok value link =>
      rw [ran] at one
      exact ⟨holds.1, fun other same => (Option.some.inj same) ▸ one⟩
    | error e link =>
      rw [ran] at one
      exact ⟨holds.1, fun other same => (Option.some.inj same) ▸ one⟩

/-- A change elsewhere. -/
theorem meets_elsewhere (change : Holder F → Holder F) {P : Connection → Prop}
    {E : Exc → Holder F → Prop} (pool : ∀ s, (change s).shared = s.shared)
    (connection : ∀ s, (change s).pipe.connection = s.pipe.connection) :
    Meets (Holds P) (modify change) (fun _ => Holds P) E := by
  apply meets_modify
  intro s holds
  refine ⟨?_, ?_⟩
  · rw [pool]
    exact holds.1
  · rw [connection]
    exact holds.2

/-- `watching` has no bearing on the connection. -/
theorem noteReply_elsewhere (command : Command F) (s : Holder F) :
    (noteReply command s).shared = s.shared ∧
      (noteReply command s).pipe.connection = s.pipe.connection := by
  unfold noteReply
  by_cases unwatches : command.name ∈ unwatchCommands
  · rw [if_pos unwatches]
    exact ⟨rfl, rfl⟩
  · rw [if_neg unwatches]
    by_cases watches : command.name = "WATCH".toList
    · rw [if_pos watches]
      exact ⟨rfl, rfl⟩
    · rw [if_neg watches]
      exact ⟨rfl, rfl⟩

variable (config : ClientConfig F) (env : Env F)

/-- Disconnecting settles the connection of the pipeline. -/
theorem meets_disconnect (P : Connection → Prop) :
    Meets (Holds (F := F) P) (onConnection Link.disconnect) (fun _ => Holds Connection.InStep)
      fun _ => Holds Connection.InStep :=
  meets_onConnection (Link.meets_disconnect _ [] _)

/-- Giving the connection back. -/
theorem meets_letGo (E : Exc → Holder F → Prop) :
    Meets (Holds Connection.InStep) (modify letGo) (fun _ => Holds Connection.InStep) E := by
  apply meets_modify
  intro s holds
  refine ⟨?_, fun conn held => by cases held⟩
  unfold letGo
  cases held : s.pipe.connection with
  | none => exact holds.1
  | some conn => exact ConnectionPool.InStep.release holds.1 (holds.2 conn held)

/-- `reset` gives the connection back in step. -/
theorem keeps_reset : Keeps (Holds Connection.InStep) (reset config env) := by
  have unwatches : Keeps (Link.Owes []) (sendUnwatch config env) := by
    have tried : Keeps (Link.Owes []) (do
        Link.send config.toConnectionConfig env (.command ["UNWATCH".toList])
        let _ ← Link.readResponse env) :=
      (Link.meets_send config.toConnectionConfig env _).bind fun _ =>
        (Link.meets_readResponse_only env _).bind fun _ => keeps_pure _
    exact tried.recover fun e => keeps_ite (Link.meets_disconnect _ [] _) (keeps_throw e)
  apply Meets.bind (meets_elsewhere clearStack (fun _ => rfl) fun _ => rfl)
  intro _
  apply keeps_get
  intro s
  have asked : Keeps (Holds Connection.InStep) (onConnection (F := F) (sendUnwatch config env)) :=
    meets_onConnection unwatches
  apply (keeps_whenever asked).bind
  intro _
  exact meets_letGo _

/-- The connection that a pipeline gets is in step. -/
theorem keeps_holdConnection : Keeps (Holds Connection.InStep) (holdConnection config env) := by
  intro s holds
  unfold holdConnection
  cases held : s.pipe.connection with
  | some conn => exact holds
  | none =>
    have got := Shared.meets_getConnection config env s.shared holds.1
    simp only
    cases ran : s.shared.getConnection config env with
    | ok conn shared =>
      rw [ran] at got
      exact ⟨got.1, fun other same => (Option.some.inj same) ▸ got.2⟩
    | error e shared =>
      rw [ran] at got
      refine ⟨got, fun conn other => ?_⟩
      rw [held] at other
      cases other

/-- Parsing a reply takes it. -/
theorem meets_parseResponse (command : Command F) (words : Words) (rest : List Words) :
    Meets (Holds (·.Owes (words :: rest))) (parseResponse config env command)
      (fun _ => Holds (·.Owes rest)) fun e => Holds fun conn => conn.Owes rest ∧
        (conn.sock = none ∨ e.isinstance .responseError = true ∨ Raises config env command words e) := by
  have parsed : Meets (Holds (·.Owes (words :: rest)))
      (onConnection (F := F) (Link.parseResponse config env command)) (fun _ => Holds (·.Owes rest))
      fun e => Holds fun conn => conn.Owes rest ∧
        (conn.sock = none ∨ e.isinstance .responseError = true ∨ Raises config env command words e) :=
    meets_onConnection (Link.meets_parseResponse config env command words rest)
  apply parsed.bind
  intro response
  apply Meets.bind (meets_elsewhere (noteReply command) (fun s => (noteReply_elsewhere command s).1)
    fun s => (noteReply_elsewhere command s).2)
  intro _
  exact meets_pure fun _ => id

/-- A command that is executed at once keeps the connection in step. -/
theorem keeps_immediateExecuteCommand (command : Command F) :
    Keeps (Holds Connection.InStep) (immediateExecuteCommand config env command) := by
  have parsed : Meets (Holds (·.Owes [command.words])) (parseResponse config env command)
      (fun _ => Holds Connection.InStep) fun _ => Holds Connection.InStep :=
    (meets_parseResponse config env command command.words []).weaken (fun _ => id) (fun _ _ => id)
      fun _ _ holds => holds.imp fun _ => And.left
  have sent : Meets (Holds Connection.InStep)
      (onConnection (F := F) (Link.sendCommand config env command)) (fun _ => Holds (·.Owes [command.words])) fun _ => Holds Connection.InStep :=
    meets_onConnection (Link.meets_sendCommand config env command)
  have attempt := sent.bind fun _ => parsed
  apply (keeps_holdConnection config env).bind
  intro _
  apply config.retry.keeps_callWithRetry attempt
  intro e
  apply (meets_disconnect Connection.InStep).bind
  intro _
  apply keeps_get
  intro s
  apply keeps_ite
  · exact (keeps_reset config env).bind fun _ => keeps_throw _
  · exact keeps_whenever ((keeps_reset config env).bind fun _ => keeps_throw e)

/-- What `parse_response` raises is excused, unless the response callback raised it too early. -/
theorem excused_of_parse {command : Command F} {words : Words} {rest : List Words} {e : Exc}
    {s : Holder F} (tame : rest = [] ∨ Tame config env command words)
    (raised : s.Holds fun conn => conn.Owes rest ∧
      (conn.sock = none ∨ e.isinstance .responseError = true ∨ Raises config env command words e))
    (unexpected : ¬e.isinstance .responseError = true) : s.Holds (Excused config e) := by
  apply raised.imp
  intro conn ⟨owes, reason⟩
  rcases reason with none | reply | raises
  · exact .inl (.inl none)
  · exact absurd reply unexpected
  · rcases tame with last | tame
    · rw [last] at owes
      exact .inl owes
    · exact .inr ((tame e raises).resolve_left unexpected)

/-- A reply of a pipeline is taken, or the exception is excused. -/
theorem meets_readPipelineReply (command : Command F) {words : Words} {rest : List Words}
    (tame : rest = [] ∨ Tame config env command words) :
    Meets (Holds (·.Owes (words :: rest))) (readPipelineReply config env command)
      (fun _ => Holds (·.Owes rest)) fun e => Holds (Excused config e) := by
  apply (meets_parseResponse config env command words rest).recover
  intro e
  apply meets_ite
  · intro _
    exact meets_pure fun s raised => raised.imp fun _ => And.left
  · intro unexpected
    exact meets_throw fun s raised => excused_of_parse config env tame raised unexpected

/-- Reading the replies of a pipeline settles the connection, or the exception is excused. -/
theorem meets_readPipeline {commands : List (Command F)}
    (tame : ∀ command ∈ commands.dropLast, Tame config env command command.words) :
    Meets (Holds (·.Owes (commands.map (·.words)))) (readPipeline config env commands)
      (fun _ => Holds Connection.InStep) fun e => Holds (Excused config e) := by
  induction commands with
  | nil => exact meets_pure fun _ => id
  | cons command commands ih =>
    have here : commands.map (·.words) = [] ∨ Tame config env command command.words := by
      cases commands with
      | nil => exact .inl rfl
      | cons next others => exact .inr (tame command List.mem_cons_self)
    have later : ∀ other ∈ commands.dropLast, Tame config env other other.words := by
      intro other member
      cases commands with
      | nil => cases member
      | cons next others => exact tame other (List.mem_cons_of_mem _ member)
    apply (meets_readPipelineReply config env command here).bind
    intro reply
    exact (ih later).bind fun _ => meets_pure fun _ => id

/-- A reply inside a transaction is taken, or the exception is excused. -/
theorem meets_readQueuedReply (i : Nat) {words : Words} {rest : List Words}
    (tame : ∀ words, Tame config env .placeholder words) :
    Meets (Holds (·.Owes (words :: rest))) (readQueuedReply config env i)
      (fun _ => Holds (·.Owes rest)) fun e => Holds (Excused config e) := by
  have parsed := meets_parseResponse config env .placeholder words rest
  have tried : Meets (Holds (·.Owes (words :: rest))) (do
      let _ ← parseResponse config env .placeholder
      pure ([] : List (Nat × PyVal F))) (fun _ => Holds (·.Owes rest)) _ :=
    parsed.bind fun _ => meets_pure fun _ => id
  apply tried.recover
  intro e
  apply meets_ite
  · intro _
    exact meets_pure fun s raised => raised.imp fun _ => And.left
  · intro unexpected
    exact meets_throw fun s raised => excused_of_parse config env (.inr (tame words)) raised unexpected

/-- Reading the replies inside a transaction leaves the reply to `EXEC`. -/
theorem meets_readQueued (i : Nat) (commands : List (Command F)) (rest : List Words)
    (tame : ∀ words, Tame config env .placeholder words) :
    Meets (Holds (·.Owes ((commands.filter (·.emptyResponse.isNone)).map (·.words) ++ rest)))
      (readQueued config env i commands) (fun _ => Holds (·.Owes rest))
      fun e => Holds (Excused config e) := by
  induction commands generalizing i with
  | nil => exact meets_pure fun _ => id
  | cons command commands ih =>
    unfold readQueued
    cases sent : command.emptyResponse with
    | some value =>
      rw [List.filter_cons_of_neg (by simp [sent])]
      exact (ih (i + 1)).bind fun _ => meets_pure fun _ => id
    | none =>
      rw [List.filter_cons_of_pos (by simp [sent])]
      apply (meets_readQueuedReply config env i tame).bind
      intro own
      exact (ih (i + 1)).bind fun _ => meets_pure fun _ => id

/-- Sending commands leaves their replies to be read. -/
theorem meets_sendCommands (batch : List Words → Batch) (commands : List (Command F)) :
    Meets (Holds Connection.InStep) (sendCommands config env batch commands)
      (fun _ => Holds (·.Owes (batch (commands.map (·.words))).commands))
      fun _ => Holds Connection.InStep :=
  meets_ite (fun _ => meets_onConnection (Link.meets_send config.toConnectionConfig env _))
    fun _ => meets_throw fun _ => id

/-- What is made of the reply to `EXEC` keeps the connection in step. -/
theorem keeps_finishTransaction (commands : List (Command F)) (raiseOnError : Bool)
    (errors : List (Nat × PyVal F)) (response : PyVal F) :
    Keeps (Holds Connection.InStep)
      (finishTransaction config commands raiseOnError errors response) := by
  unfold finishTransaction
  cases resultItems errors response with
  | error e => exact keeps_throw e
  | ok items =>
    apply keeps_ite
    · exact (meets_disconnect Connection.InStep).bind fun _ => keeps_throw _
    · cases resultValues config commands raiseOnError items with
      | ok values => exact keeps_pure values
      | error e => exact keeps_throw e

/-- The reply to `EXEC` is the last one. -/
theorem meets_readExec (errors : List (Nat × PyVal F)) (words : Words) :
    Meets (Holds (·.Owes [words])) (readExec config env errors) (fun _ => Holds Connection.InStep)
      fun _ => Holds Connection.InStep := by
  apply (meets_parseResponse config env .placeholder words []).recover
  intro e
  apply meets_ite
  · intro _
    exact meets_throw fun s raised => raised.imp fun _ => And.left
  · intro _
    exact meets_throw fun s raised => raised.imp fun _ => And.left

/-- Something in step is excused. -/
theorem Holds.excused {s : Holder F} (holds : s.Holds Connection.InStep) (e : Exc) :
    s.Holds (Excused config e) :=
  holds.imp fun _ => Or.inl

/-- A transaction settles its connection, or the exception is excused. -/
theorem meets_executeTransaction (commands : List (Command F)) (raiseOnError : Bool)
    (tame : ∀ words, Tame config env .placeholder words) :
    Meets (Holds Connection.InStep) (executeTransaction config env commands raiseOnError)
      (fun _ => Holds Connection.InStep) fun e => Holds (Excused config e) := by
  have excuse : ∀ e (s : Holder F), s.Holds Connection.InStep → s.Holds (Excused config e) :=
    fun e s holds => holds.excused config e
  have sent := (meets_sendCommands config env .transaction
    (commands.filter (·.emptyResponse.isNone))).weaken (fun _ => id) (fun _ _ => id) excuse
  apply sent.bind
  intro _
  apply (meets_readQueuedReply config env 0 tame).bind
  intro first
  apply (meets_readQueued config env 0 commands [["EXEC".toList]] tame).bind
  intro others
  have read := (meets_readExec config env (first ++ others) ["EXEC".toList]).weaken (fun _ => id)
    (fun _ _ => id) excuse
  apply read.bind
  intro response
  apply Meets.bind (meets_elsewhere (fun s => { s with pipe.watching := false }) (fun _ => rfl)
    fun _ => rfl)
  intro _
  exact (keeps_finishTransaction config commands raiseOnError _ response).weaken (fun _ => id)
    (fun _ _ => id) excuse

/-- A pipeline settles its connection, or the exception is excused. -/
theorem meets_executePipeline {commands : List (Command F)} (raiseOnError : Bool)
    (tame : ∀ command ∈ commands.dropLast, Tame config env command command.words) :
    Meets (Holds Connection.InStep) (executePipeline config env commands raiseOnError)
      (fun _ => Holds Connection.InStep) fun e => Holds (Excused config e) := by
  have excuse : ∀ e (s : Holder F), s.Holds Connection.InStep → s.Holds (Excused config e) :=
    fun e s holds => holds.excused config e
  have sent := (meets_sendCommands config env .pipeline commands).weaken (fun _ => id)
    (fun _ _ => id) excuse
  apply sent.bind
  intro _
  apply (meets_readPipeline config env tame).bind
  intro response
  cases if raiseOnError then firstError response else none with
  | some e => exact meets_throw (excuse e)
  | none => exact meets_pure fun _ => id

/-- The callbacks that are applied while replies are read are tame, the one for the last reply
excepted. -/
def TameStack (transactional : Bool) (commands : List (Command F)) : Prop :=
  if transactional then ∀ words, Tame config env .placeholder words
  else ∀ command ∈ commands.dropLast, Tame config env command command.words

/-- An attempt settles the connection, or the exception is excused. -/
theorem meets_attempt {transactional : Bool} {commands : List (Command F)} (raiseOnError : Bool)
    (tame : TameStack config env transactional commands) :
    Meets (Holds Connection.InStep) (attempt config env transactional commands raiseOnError)
      (fun _ => Holds Connection.InStep) fun e => Holds (Excused config e) := by
  unfold TameStack at tame
  apply meets_ite
  · intro transactional
    rw [if_pos transactional] at tame
    exact meets_executeTransaction config env commands raiseOnError tame
  · intro plain
    rw [if_neg plain] at tame
    exact meets_executePipeline config env raiseOnError tame

/-- The failure handler of `execute` disconnects first. -/
theorem meets_disconnectRaiseReset (P : Connection → Prop) (e : Exc) :
    Meets (Holds P) (disconnectRaiseReset config env e) (fun _ => Holds Connection.InStep)
      fun _ => Holds Connection.InStep := by
  apply (meets_disconnect P).bind
  intro _
  apply keeps_get
  intro s
  apply keeps_ite
  · exact keeps_throw _
  · exact keeps_whenever ((keeps_reset config env).bind fun _ => keeps_throw e)

/-- Whether the pipeline is going to execute a transaction. -/
def Transactional (transactional : Bool) (s : Holder F) : Prop :=
  (s.pipe.transaction || s.pipe.explicitTransaction) = transactional

/-- What happens on the connection does not change the kind of the pipeline. -/
theorem keeps_transactional_onConnection {α : Type} (program : EStateM Exc Link α)
    (transactional : Bool) :
    Keeps (Transactional (F := F) transactional) (onConnection program) := by
  intro s kind
  unfold onConnection
  cases s.pipe.connection with
  | none => exact kind
  | some conn =>
    simp only
    cases program { conn, net := s.shared.net } with
    | ok value link => exact kind
    | error e link => exact kind

/-- Neither does getting a connection. -/
theorem keeps_transactional_holdConnection (transactional : Bool) :
    Keeps (Transactional transactional) (holdConnection config env) := by
  intro s kind
  unfold holdConnection
  cases s.pipe.connection with
  | some conn => exact kind
  | none =>
    simp only
    cases s.shared.getConnection config env with
    | ok conn shared => exact kind
    | error e shared => exact kind

/-- A command that is executed at once returns with the kind of the pipeline unchanged. -/
theorem transactional_immediateExecuteCommand (command : Command F) (transactional : Bool) :
    Meets (Transactional transactional) (immediateExecuteCommand config env command)
      (fun _ => Transactional transactional) fun _ _ => True := by
  have parsed : Keeps (Transactional transactional) (parseResponse config env command) := by
    apply (keeps_transactional_onConnection _ transactional).bind
    intro response
    have noted : Keeps (Transactional transactional)
        (modify (noteReply command) : EStateM Exc (Holder F) Unit) := by
      apply keeps_modify
      intro s kind
      unfold noteReply
      by_cases unwatches : command.name ∈ unwatchCommands
      · rw [if_pos unwatches]
        exact kind
      · rw [if_neg unwatches]
        by_cases watches : command.name = "WATCH".toList
        · rw [if_pos watches]
          exact kind
        · rw [if_neg watches]
          exact kind
    exact noted.bind fun _ => keeps_pure response
  have attempt : Keeps (Transactional transactional) (do
      onConnection (Link.sendCommand config env command)
      parseResponse config env command) :=
    (keeps_transactional_onConnection _ transactional).bind fun _ => parsed
  have held := (keeps_transactional_holdConnection config env transactional).weaken (fun _ => id)
    (fun _ _ => id) fun _ _ _ => trivial
  apply held.bind
  intro _
  apply config.retry.meets_callWithRetry attempt
  · intro e _
    have gone := (keeps_transactional_onConnection (F := F) Link.disconnect transactional).weaken
      (fun _ => id) (fun _ _ => id) fun _ _ _ => trivial
    apply gone.bind
    intro _
    apply meets_get
    intro s kind
    apply meets_ite
    · intro _
      exact meets_before_throw _ _
    · intro _
      apply meets_whenever
      · intro _
        exact meets_before_throw _ _
      · intro _ t same
        rw [same]
        exact ⟨kind, trivial⟩
  · intro _ _ _ _
    trivial
  · intro _
    exact id
  · intro _ _
    trivial

section Execute

variable [PyFloat F] {transactional : Bool}

/-- In step, and of this kind. -/
def Ready (transactional : Bool) (s : Holder F) : Prop :=
  s.Holds Connection.InStep ∧ s.Transactional transactional

omit [PyFloat F] in
/-- A command that is executed at once returns in step with the kind unchanged. -/
theorem ready_immediateExecuteCommand (command : Command F) :
    Meets (Ready transactional) (immediateExecuteCommand config env command)
      (fun _ => Ready transactional) fun _ => Holds Connection.InStep :=
  ((keeps_immediateExecuteCommand config env command).and
    (transactional_immediateExecuteCommand config env command transactional)).weaken
    (fun _ => id) (fun _ _ => id) fun _ _ => And.left

/-- Loading scripts returns in step with the kind unchanged. -/
theorem ready_loadScripts :
    Meets (Ready transactional) (loadScripts config env) (fun _ => Ready transactional)
      fun _ => Holds Connection.InStep := by
  have missing : ∀ scripts : List (Script × PyVal F),
      Meets (Ready transactional) (loadMissing config env scripts) (fun _ => Ready transactional)
        fun _ => Holds Connection.InStep := by
    intro scripts
    induction scripts with
    | nil => exact meets_pure fun _ => id
    | cons item others ih =>
      have loaded : Meets (Ready transactional) (whenever (!item.2.truthy) do
          let _ ← immediateExecuteCommand config env (.plain "SCRIPT LOAD" [item.1.script]))
          (fun _ => Ready transactional) fun _ => Holds Connection.InStep :=
        meets_whenever (fun _ => (ready_immediateExecuteCommand config env _).bind fun _ =>
          meets_pure fun _ => id) fun _ _ => id
      exact loaded.bind fun _ => ih
  apply meets_get
  intro s ready
  have asked : Meets (Ready transactional) (immediateExecuteCommand config env
      (.plain "SCRIPT EXISTS" (s.pipe.scripts.map (·.sha)))) (fun _ => Ready transactional) _ :=
    ready_immediateExecuteCommand config env _
  apply (asked.from_state ready).bind
  intro known
  cases known.elements with
  | none => exact meets_throw fun _ => And.left
  | some flags => exact meets_whenever (fun _ => missing _) fun _ _ => id

omit [PyFloat F] in
/-- `execute` gives the connection back in step, if the callbacks are tame. -/
theorem meets_executeStack {commands : List (Command F)} (raiseOnError : Bool)
    (tame : TameStack config env transactional commands) :
    Meets (Ready transactional) (executeStack config env commands raiseOnError)
      (fun _ => Holds Connection.InStep) fun _ => Holds Connection.InStep := by
  have held := ((keeps_holdConnection config env).and
    (keeps_transactional_holdConnection config env transactional)).weaken (fun _ => id)
    (fun _ _ => id) fun _ _ => And.left
  apply held.bind
  intro _
  apply meets_get
  intro s ready
  have kind : (s.pipe.transaction || s.pipe.explicitTransaction) = transactional := ready.2
  simp only [kind]
  have tried := config.retry.meets_callWithRetry
    (meets_attempt config env raiseOnError tame)
    (fun e _ => (meets_disconnectRaiseReset config env (Excused config e) e).weaken (fun _ => id)
      (fun _ _ holds => ⟨holds, holds⟩) fun _ _ => id)
    (fun e t unsupported holds => holds.imp fun _ excused => excused.resolve_right unsupported)
    (fun _ => id) (fun _ => id) env.patience 0
  apply Meets.ensure (tried.from_state ready.1)
  · intro _
    exact keeps_reset config env
  · intro _
    exact keeps_reset config env

/-- `execute` gives the connection back in step, if the callbacks are tame. -/
theorem meets_execute (raiseOnError : Bool) {pipe : Pipeline F}
    (tame : TameStack config env (pipe.transaction || pipe.explicitTransaction) pipe.commandStack) :
    Meets (fun s => s.Holds Connection.InStep ∧ s.pipe = pipe) (execute config env raiseOnError)
      (fun _ => Holds Connection.InStep) fun _ => Holds Connection.InStep := by
  apply meets_get
  intro s start
  have ready : s.Ready (pipe.transaction || pipe.explicitTransaction) :=
    ⟨start.1, by rw [Transactional, start.2]⟩
  rw [start.2]
  apply meets_ite
  · intro _
    exact meets_pure fun t same => same ▸ start.1
  · intro _
    have loaded : Meets (· = s) (whenever (!pipe.scripts.isEmpty) (loadScripts config env))
        (fun _ => Ready (pipe.transaction || pipe.explicitTransaction))
        fun _ => Holds Connection.InStep := by
      apply meets_whenever
      · intro _
        exact (ready_loadScripts config env).from_state ready
      · intro _ t same
        exact same ▸ ready
    exact loaded.bind fun _ => meets_executeStack config env raiseOnError tame

end Execute

end Holder

/-! ## Runs -/

section Runs

variable [PyFloat F] (config : ClientConfig F)

open Holder

/-- The callbacks that a call applies while replies are read are tame. -/
def PipeCall.TameIn (env : Env F) (pipe : Pipeline F) : PipeCall F → Prop
  | .execute _ =>
    TameStack config env (pipe.transaction || pipe.explicitTransaction) pipe.commandStack
  | _ => True

/-- A tame call on a pipeline in step leaves it and the pool in step. -/
theorem PipeCall.meets_run (env : Env F) (pipe : Pipeline F) (call : PipeCall F)
    (tame : call.TameIn config env pipe) :
    Meets (fun s => s.Holds Connection.InStep ∧ s.pipe = pipe) (call.run config env)
      (fun _ => Holds Connection.InStep) fun _ => Holds Connection.InStep := by
  have dispatch : ∀ command, Keeps (Holds Connection.InStep)
      (Holder.executeCommand config env command) := by
    intro command
    apply keeps_get
    intro s
    apply keeps_ite
    · exact (keeps_immediateExecuteCommand config env command).bind fun _ => keeps_pure _
    · exact meets_elsewhere _ (fun _ => rfl) fun _ => rfl
  have simple : ∀ {program : EStateM Exc (Holder F) Unit}, Keeps (Holds Connection.InStep) program →
      Meets (fun s => s.Holds Connection.InStep ∧ s.pipe = pipe) program
        (fun _ => Holds Connection.InStep) fun _ => Holds Connection.InStep :=
    fun kept => kept.weaken (fun _ => And.left) (fun _ _ => id) fun _ _ => id
  cases call with
  | executeCommand command => exact simple (dispatch command)
  | watch names =>
    apply simple
    apply keeps_get
    intro s
    exact keeps_ite (keeps_throw _) (dispatch _)
  | unwatch =>
    apply simple
    apply keeps_get
    intro s
    exact keeps_whenever (dispatch _)
  | multi =>
    apply simple
    apply keeps_get
    intro s
    exact keeps_ite (keeps_throw _) (meets_elsewhere _ (fun _ => rfl) fun _ => rfl)
  | addScript script =>
    apply simple
    exact meets_elsewhere _ (fun _ => rfl) fun _ => rfl
  | execute raiseOnError =>
    exact (meets_execute config env raiseOnError tame).bind fun _ => meets_pure fun _ => id
  | reset => exact simple (keeps_reset config env)

namespace Clients

/-- The pool is in step, and so is every connection that a pipeline holds. -/
def InStep (s : Clients F) : Prop := ∀ index, (s.holder index).Holds Connection.InStep

/-- The callbacks that a call applies while replies are read are tame. -/
def TameCall (s : Clients F) (env : Env F) : Call F → Prop
  | .pipeline index call => call.TameIn config env (s.pipes index)
  | _ => True

omit [PyFloat F] in
/-- Storing a pipeline that is in step with its pool. -/
theorem InStep.store {s : Clients F} (inStep : s.InStep) (index : Nat) {holder : Holder F}
    (holds : holder.Holds Connection.InStep) : (s.store index holder).InStep := by
  intro other
  by_cases here : other = index
  · refine ⟨holds.1, fun conn held => ?_⟩
    rw [here] at held
    simp only [Clients.holder, Clients.store, if_pos] at held
    exact holds.2 conn held
  · refine ⟨holds.1, fun conn held => ?_⟩
    simp only [Clients.holder, Clients.store, if_neg here] at held
    exact (inStep other).2 conn held

/-- A tame step keeps the clients in step. -/
theorem InStep.step {s : Clients F} (inStep : s.InStep) (call : Call F) (env : Env F)
    (tame : s.TameCall config env call) : (s.step config (call, env)).InStep := by
  cases call with
  | executeCommand command =>
    have kept := (Shared.keeps_executeCommand config env command).stateAfter (inStep 0).1
    intro index
    exact ⟨kept, (inStep index).2⟩
  | disconnectPool =>
    intro index
    refine ⟨⟨?_, (inStep index).1.2⟩, ?_⟩
    · intro conn member
      obtain ⟨_, _, rfl⟩ := List.mem_map.mp member
      exact Connection.owes_closed []
    · intro conn held
      obtain ⟨_, _, rfl⟩ := Option.map_eq_some_iff.mp held
      exact Connection.owes_closed []
  | newPipeline index transaction =>
    show (if _ then _ else s).InStep
    split
    · exact inStep.store index ⟨(inStep index).1, fun conn held => by cases held⟩
    · exact inStep
  | pipeline index call =>
    apply inStep.store
    have ran := PipeCall.meets_run config env (s.pipes index) call tame (s.holder index)
      ⟨inStep index, rfl⟩
    cases ended : call.run config env (s.holder index) with
    | ok _ after =>
      rw [ended] at ran
      exact ran
    | error e after =>
      rw [ended] at ran
      exact ran

/-- Every call of a run is tame in the state in which it is made. -/
def TameRun (s : Clients F) : List (Call F × Env F) → Prop
  | [] => True
  | call :: calls => s.TameCall config call.2 call.1 ∧ TameRun (s.step config call) calls

/-- A tame run keeps the clients in step. -/
theorem InStep.run {s : Clients F} (inStep : s.InStep) {calls : List (Call F × Env F)}
    (tame : s.TameRun config calls) : (calls.foldl (Clients.step config) s).InStep := by
  induction calls generalizing s with
  | nil => exact inStep
  | cons call calls ih => exact ih (inStep.step config call.1 call.2 tame.1) tame.2

/-- Every connection that was released was in step then. -/
def ReleasedInStep (s : Clients F) : Prop := ∀ conn ∈ s.shared.pool.released, conn.InStep

end Clients

end Runs

section Scenario

instance Connection.decidableInStep (conn : Connection) : Decidable conn.InStep :=
  inferInstanceAs (Decidable (_ ∨ _))

/-- A client with the default settings, except for its response callbacks. -/
def plainConfig (responseCallbacks : Text → Option (Command Empty → PyVal Empty →
    Except Exc (PyVal Empty))) : ClientConfig Empty where
  retry := { retries := some 0,
             supportedErrors := [.connectionError, .timeoutError, .builtinTimeoutError] }
  retryOnError := some []
  healthChecks := false
  resp3 := false
  credentials := none
  clientName := none
  libName := none
  libVersion := none
  db := 0
  responseCallbacks

/-- Nothing goes wrong around these replies. -/
def quietEnv (reply : Words → Nat → Except Exc (PyVal Empty)) : Env Empty where
  patience := 3
  depth := 3
  stolen _ := false
  dial _ := none
  due _ := false
  send _ _ := none
  reply
  idle _ := { cls := .builtinTimeoutError }
  canRead _ := .ok false

/-- `set_response_callback("GET", int)`. -/
def intCallback (name : Text) :
    Option (Command Empty → PyVal Empty → Except Exc (PyVal Empty)) :=
  if name = "GET".toList then
    some fun _ response =>
      match response with
      | .bytes data =>
        match intOfBytes data with
        | some value => .ok (.int value)
        | none => .error { cls := .valueError }
      | _ => .error { cls := .typeError }
  else none

/-- A pipeline without a transaction that gets two keys. -/
def getTwice (env : Env Empty) : List (Call Empty × Env Empty) :=
  [(.newPipeline 0 false, env),
   (.pipeline 0 (.executeCommand (.plain "GET" ["a".toList])), env),
   (.pipeline 0 (.executeCommand (.plain "GET" ["b".toList])), env),
   (.pipeline 0 (.execute true), env)]

end Scenario

end RedisPy

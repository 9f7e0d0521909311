import RedisPy.Cluster.Pipeline

/-!
# The connections of a cluster pipeline go back once, in step

`_send_cluster_commands` takes one connection from the pool of each node that it needs. Each of
them goes back to its pool once and in step exactly if no exception leaves the routing loop once
a connection is held, unless that is the failure of a pool, and no exception leaves the writing or
the reading while a connection has replies to come.
-/

namespace RedisPy

open Contract

variable {F : Type}

/-! ## Acquired and released -/

namespace PipelineEvent

/-- The connection that a node's pool gets back. -/
def returned (name : Text) : PipelineEvent F → Option Connection
  | .released node conn => if node = name then some conn else none
  | _ => none

/-- A node's pool gives out a connection. -/
def isAcquired (name : Text) : PipelineEvent F → Bool
  | .acquired node => node = name
  | _ => false

/-- Nothing is acquired or released. -/
def silent : PipelineEvent F → Bool
  | .acquired _ => false
  | .released _ _ => false
  | _ => true

end PipelineEvent

/-- The connections that were released to a node's pool, as they were then. -/
def releases (name : Text) (events : List (PipelineEvent F)) : List Connection :=
  events.filterMap (PipelineEvent.returned name)

/-- How often a node's pool gave out a connection. -/
def acquisitions (name : Text) (events : List (PipelineEvent F)) : Nat :=
  events.countP (PipelineEvent.isAcquired name)

/-- Every connection that a pool gave out was released to it once, and each was disconnected then or
had no reply outstanding. -/
structure ReleasedOnce (events : List (PipelineEvent F)) : Prop where
  /-- Once for each acquisition. -/
  once : ∀ name, (releases name events).length = acquisitions name events
  /-- In step. -/
  inStep : ∀ name, ∀ conn ∈ releases name events, conn.InStep

/-- Releases of both parts. -/
theorem releases_append (name : Text) (first second : List (PipelineEvent F)) :
    releases name (first ++ second) = releases name first ++ releases name second :=
  List.filterMap_append

/-- Acquisitions of both parts. -/
theorem acquisitions_append (name : Text) (first second : List (PipelineEvent F)) :
    acquisitions name (first ++ second) = acquisitions name first + acquisitions name second :=
  List.countP_append

/-- Silent events release nothing. -/
theorem releases_silent (name : Text) {events : List (PipelineEvent F)}
    (silent : ∀ event ∈ events, event.silent = true) : releases name events = [] := by
  refine List.filterMap_eq_nil_iff.mpr fun event member => ?_
  have quiet := silent event member
  cases event with
  | released node conn => cases quiet
  | _ => rfl

/-- Silent events acquire nothing. -/
theorem acquisitions_silent (name : Text) {events : List (PipelineEvent F)}
    (silent : ∀ event ∈ events, event.silent = true) : acquisitions name events = 0 := by
  refine List.countP_eq_zero.mpr fun event member => ?_
  have quiet := silent event member
  cases event with
  | acquired node => cases quiet
  | _ => exact Bool.false_ne_true

/-- Silent events change nothing. -/
theorem releasedOnce_append_silent {events later : List (PipelineEvent F)}
    (silent : ∀ event ∈ later, event.silent = true) :
    ReleasedOnce (events ++ later) ↔ ReleasedOnce events := by
  have same (name : Text) : releases name (events ++ later) = releases name events := by
    rw [releases_append, releases_silent name silent, List.append_nil]
  have count (name : Text) : acquisitions name (events ++ later) = acquisitions name events := by
    rw [acquisitions_append, acquisitions_silent name silent, Nat.add_zero]
  constructor
  · intro all
    exact {
      once name := by rw [← same, ← count]; exact all.once name
      inStep name := by rw [← same]; exact all.inStep name }
  · intro all
    exact {
      once name := by rw [same, count]; exact all.once name
      inStep name := by rw [same]; exact all.inStep name }

/-! ## What the surroundings say about a batch -/

namespace NodeCommands

/-- How the writing of a batch ends. -/
inductive WriteEnd where
  /-- Everything was written. -/
  | written
  /-- The connection failed, which is the result of every command. -/
  | failed
  /-- Another exception was raised. -/
  | escaped
deriving DecidableEq

/-- How the writing of a batch ends, by its commands and its connection. -/
def writeEnd (env : Surroundings F) (n : NodeCommands F) : WriteEnd :=
  if n.commands.all (·.command.encodable) then
    match env.send n.name with
    | none => .written
    | some failure =>
      if failure.error.isinstanceAny connectionErrors then .failed else .escaped
  else .escaped

/-- A connection with one reply to come. -/
def waiting : Connection := { sock := some 0, outstanding := [[]] }

/-- How the reading of a batch ends. -/
structure Drained where
  /-- An exception that is no connection error and no error reply is raised. -/
  escapes : Bool
  /-- The connection is closed, or the replies were all read. -/
  inStep : Bool

/-- How the reading of a batch ends, by its replies: a reply that cannot be parsed closes the
connection, and an exception of a response callback leaves it open. -/
def drain (config : ClientConfig F) (env : Surroundings F) :
    Bool → List (PipelineCommand F) → Drained
  | _, [] => { escapes := false, inStep := true }
  | connected, c :: commands =>
    let reply := env.reply c.position
    let still := connected && reply.isOk
    match (parse config reply c.command (if connected then waiting else .closed)).1 with
    | .ok _ => drain config env still commands
    | .error e =>
      if e.isinstanceAny connectionErrors then
        { escapes := false, inStep := !still || commands.isEmpty }
      else if e.isinstance .redisError then drain config env still commands
      else { escapes := true, inStep := !still || commands.isEmpty }

end NodeCommands

namespace Sending

open NodeCommands

/-- Once a batch was written, no other batch raises anything but a connection error. -/
def WritesInStep (env : Surroundings F) : List (NodeCommands F) → Prop
  | [] => True
  | n :: nodes =>
    match writeEnd env n with
    | .escaped => True
    | .failed => WritesInStep env nodes
    | .written => ∀ m ∈ nodes, writeEnd env m ≠ .escaped

/-- Each batch that was written is read until its connection is in step, and no exception leaves the
reading while there is another batch to read. -/
def ReadsInStep (config : ClientConfig F) (env : Surroundings F) : List (NodeCommands F) → Prop
  | [] => True
  | n :: nodes =>
    match writeEnd env n with
    | .written =>
      (drain config env true n.commands).inStep = true ∧
        if (drain config env true n.commands).escapes then ∀ m ∈ nodes, writeEnd env m ≠ .written
        else ReadsInStep config env nodes
    | _ => ReadsInStep config env nodes

/-- No listener raises before the last connection is released. -/
def Heard (env : Surroundings F) (nodes : List (NodeCommands F)) : Prop :=
  ∀ n ∈ nodes.dropLast, env.listener n.name = none

/-- Batches whose connections go back in step. -/
structure Settles (config : ClientConfig F) (env : Surroundings F) (nodes : List (NodeCommands F)) :
    Prop where
  /-- All of them are released. -/
  heard : Heard env nodes
  /-- Writing. -/
  writes : WritesInStep env nodes
  /-- Reading. -/
  reads : (∀ n ∈ nodes, writeEnd env n ≠ .escaped) → ReadsInStep config env nodes

/-- The commands that are left are put under their nodes without an exception; or the first
exception comes before any connection is held, or it is the failure of a pool, after which what
is held is released. -/
def Orderly (config : ClientConfig F) (env : Surroundings F) :
    List (NodeCommands F) → List (PipelineCommand F) → Prop
  | nodes, [] => Settles config env nodes
  | nodes, c :: commands =>
    match targetNode env c with
    | .error _ => nodes = []
    | .ok name =>
      if holds name nodes then Orderly config env (place name c nodes) commands
      else
        match env.acquire name with
        | none =>
          Orderly config env
            (place name c (nodes ++ [{ name, connection := ready, commands := [] }])) commands
        | some e => nodes = [] ∨ e.isinstanceAny connectionErrors = true ∧ Heard env nodes

end Sending

/-! ## One node after the other -/

namespace NodeCommands

variable {step : NodeCommands F → Option Exc × NodeCommands F × List (PipelineEvent F)}

/-- Names are kept. -/
theorem each_names (kept : ∀ n, (step n).2.1.name = n.name) (nodes : List (NodeCommands F)) :
    (each step nodes).2.1.map (·.name) = nodes.map (·.name) := by
  induction nodes with
  | nil => rfl
  | cons n nodes ih =>
    have same := kept n
    rw [each]
    rcases ran : step n with ⟨stop, m, events⟩
    rw [ran] at same
    cases stop with
    | some e => exact congrArg (· :: nodes.map (·.name)) same
    | none =>
      show m.name :: (each step nodes).2.1.map (·.name) = n.name :: nodes.map (·.name)
      rw [ih, same]

/-- What all events of a step have in common, all events have. -/
theorem each_events {P : PipelineEvent F → Prop} (common : ∀ n, ∀ event ∈ (step n).2.2, P event)
    (nodes : List (NodeCommands F)) : ∀ event ∈ (each step nodes).2.2, P event := by
  induction nodes with
  | nil => exact fun _ member => absurd member List.not_mem_nil
  | cons n nodes ih =>
    have first := common n
    rw [each]
    rcases ran : step n with ⟨stop, m, events⟩
    rw [ran] at first
    cases stop with
    | some e => exact first
    | none => exact List.forall_mem_append.mpr ⟨first, ih⟩

/-- All nodes are handled exactly if no step raises. -/
theorem each_none_iff (nodes : List (NodeCommands F)) :
    (each step nodes).1 = none ↔ ∀ n ∈ nodes, (step n).1 = none := by
  induction nodes with
  | nil => simp [each]
  | cons n nodes ih =>
    rw [each, List.forall_mem_cons]
    rcases ran : step n with ⟨stop, m, events⟩
    cases stop with
    | some e => simp
    | none => simpa using ih

/-- Without an exception every node is handled. -/
theorem each_map {nodes : List (NodeCommands F)} (handled : ∀ n ∈ nodes, (step n).1 = none) :
    (each step nodes).2.1 = nodes.map fun n => (step n).2.1 := by
  induction nodes with
  | nil => rfl
  | cons n nodes ih =>
    obtain ⟨first, others⟩ := List.forall_mem_cons.mp handled
    rcases ran : step n with ⟨stop, m, events⟩
    rw [ran] at first
    cases first
    have rest := ih others
    simp only [each, ran, List.map_cons, rest]

/-! ## Writing a batch -/

/-- Nothing was done with a node but to give it commands. -/
structure Fresh (n : NodeCommands F) : Prop where
  /-- The connection is as the pool gave it out. -/
  ready : n.connection = Sending.ready
  /-- There are commands. -/
  commands : n.commands ≠ []

/-- Every connection is in step. -/
def AllInStep (nodes : List (NodeCommands F)) : Prop := ∀ n ∈ nodes, n.connection.InStep

/-- A connection as the pool gives it out is in step. -/
theorem Fresh.inStep {n : NodeCommands F} (fresh : n.Fresh) : n.connection.InStep := by
  rw [fresh.ready]
  exact .inr rfl

/-- A batch waits for its replies. -/
structure Awaits (n : NodeCommands F) : Prop where
  /-- The connection is open. -/
  sock : n.connection.sock = some 0
  /-- Every command was written. -/
  outstanding : n.connection.outstanding = n.words
  /-- No command has a result. -/
  pending : ∀ c ∈ n.commands, c.result.isNone = true
  /-- There are commands. -/
  commands : n.commands ≠ []

/-- A batch that waits for replies is not in step. -/
theorem Awaits.not_inStep {n : NodeCommands F} (awaits : n.Awaits) : ¬ n.connection.InStep := by
  rintro (closed | drained)
  · rw [awaits.sock] at closed
    cases closed
  · rw [awaits.outstanding] at drained
    exact awaits.commands (List.map_eq_nil_iff.mp drained)

/-- A batch whose connection failed while it was written. -/
structure Failed (n : NodeCommands F) : Prop where
  /-- The connection is in step. -/
  inStep : n.connection.InStep
  /-- Every command has a result. -/
  settled : ∀ c ∈ n.commands, c.result.isNone = false

/-- What the writing of a batch leaves. -/
def Written (env : Surroundings F) (n : NodeCommands F) : Prop :=
  match writeEnd env n with
  | .written =>
    (write env n).1 = none ∧ (write env n).2.1.Awaits ∧
      (write env n).2.1.commands = (n.setResults .none).commands
  | .failed => (write env n).1 = none ∧ (write env n).2.1.Failed
  | .escaped => (write env n).1 ≠ none ∧ (write env n).2.1.connection.InStep

/-- The writing of a fresh batch. -/
theorem Fresh.write {n : NodeCommands F} (fresh : n.Fresh) (env : Surroundings F) :
    n.Written env := by
  have started := fresh.inStep
  unfold Written writeEnd NodeCommands.write
  by_cases encodable : n.commands.all (·.command.encodable) = true
  · rw [if_pos encodable, if_pos encodable]
    cases env.send n.name with
    | none =>
      refine ⟨rfl, ?_⟩
      have outstanding : n.connection.outstanding ++ n.words = (n.setResults .none).words := by
        rw [fresh.ready]
        simp [Sending.ready, words, setResults, Function.comp_def]
      have sock : n.connection.sock = some 0 := by rw [fresh.ready]; rfl
      have awaits : NodeCommands.Awaits { n.setResults .none with
          connection.sock := n.connection.sock
          connection.outstanding := n.connection.outstanding ++ n.words } := {
        sock
        outstanding
        pending := by simp [setResults, PyVal.isNone]
        commands := by simpa [setResults] using fresh.commands }
      exact ⟨awaits, rfl⟩
    | some failure =>
      have left : (if failure.wrote then Connection.closed else n.connection).InStep := by
        cases failure.wrote with
        | true => exact .inl rfl
        | false => exact started
      by_cases lost : failure.error.isinstanceAny connectionErrors = true
      · simp only [if_pos lost]
        exact ⟨trivial, left, by simp [setResults, PyVal.isNone]⟩
      · simp only [if_neg lost]
        exact ⟨by simp, left⟩
  · rw [if_neg encodable, if_neg encodable]
    exact ⟨by simp, started⟩

/-- Writing keeps the name. -/
theorem write_name (env : Surroundings F) (n : NodeCommands F) :
    (write env n).2.1.name = n.name := by
  unfold write
  by_cases encodable : n.commands.all (·.command.encodable) = true
  · rw [if_pos encodable]
    cases env.send n.name with
    | none => rfl
    | some failure =>
      by_cases lost : failure.error.isinstanceAny connectionErrors = true
      · simp only [if_pos lost]
        rfl
      · simp only [if_neg lost]
        rfl
  · rw [if_neg encodable]
    rfl

/-- The writing of a fresh batch raises if it ends so. -/
theorem Fresh.write_none_iff {n : NodeCommands F} (fresh : n.Fresh) (env : Surroundings F) :
    (NodeCommands.write env n).1 = none ↔ writeEnd env n ≠ .escaped := by
  have outcome := fresh.write env
  unfold Written at outcome
  cases ended : writeEnd env n with
  | written => simp only [ended] at outcome; simp [outcome.1]
  | failed => simp only [ended] at outcome; simp [outcome.1]
  | escaped => simp only [ended] at outcome; simp [outcome.1]

/-- The writing of a fresh batch leaves its connection in step unless everything was written. -/
theorem Fresh.write_inStep_iff {n : NodeCommands F} (fresh : n.Fresh) (env : Surroundings F) :
    (NodeCommands.write env n).2.1.connection.InStep ↔ writeEnd env n ≠ .written := by
  have outcome := fresh.write env
  unfold Written at outcome
  cases ended : writeEnd env n with
  | written => simp only [ended] at outcome; simp [outcome.2.1.not_inStep]
  | failed => simp only [ended] at outcome; simp [outcome.2.inStep]
  | escaped => simp only [ended] at outcome; simp [outcome.2]

/-! ## Reading the replies to a batch -/

/-- A reply cannot be read from a closed connection. -/
theorem parse_closed (config : ClientConfig F) (reply : Except Exc (PyVal F))
    (command : Command F) :
    parse config reply command .closed = (.error { cls := .attributeError }, .closed) := by
  unfold parse Link.parseResponse
  cases command.emptyResponse <;> rfl

/-- What becomes of a reply that was read or could not be read. -/
def received (config : ClientConfig F) (command : Command F) :
    Except Exc (PyVal F) → Except Exc (PyVal F)
  | .error e =>
    match command.emptyResponse with
    | some value => if e.isinstance .responseError then .ok value else .error e
    | none => .error e
  | .ok response =>
    match config.responseCallbacks command.name with
    | none => .ok response
    | some callback => callback command response

/-- `parse_response` in its two parts. -/
theorem parseResponse_received (config : ClientConfig F) (env : Env F) (command : Command F)
    (s : Link) :
    Link.parseResponse config env command s =
      match Link.readResponse env s with
      | .ok response t =>
        match received config command (.ok response) with
        | .ok value => .ok value t
        | .error e => .error e t
      | .error e t =>
        match received config command (.error e) with
        | .ok value => .ok value t
        | .error e => .error e t := by
  unfold Link.parseResponse received
  cases Link.readResponse env s with
  | ok response t =>
    cases config.responseCallbacks command.name with
    | none => rfl
    | some callback => rfl
  | error e t =>
    cases command.emptyResponse with
    | none => rfl
    | some value =>
      by_cases refused : e.isinstance .responseError = true
      · simp only [if_pos refused]
      · simp only [if_neg refused]

/-- What reading a reply returns or raises depends on no other reply, and afterwards the connection
waits for the others or is closed. -/
theorem parse_open (config : ClientConfig F) (reply : Except Exc (PyVal F)) (command : Command F)
    {conn : Connection} {session : Nat} {words : Words} {rest : List Words}
    (sock : conn.sock = some session) (outstanding : conn.outstanding = words :: rest) :
    parse config reply command conn =
      ((parse config reply command waiting).1,
        if reply.isOk then { conn with outstanding := rest } else .closed) := by
  obtain ⟨connSock, connOutstanding⟩ := conn
  cases sock
  cases outstanding
  simp only [parse, parseResponse_received]
  cases reply with
  | error e =>
    simp only [Link.readResponse, answering, waiting]
    cases received config command (.error (socketError e)) <;> rfl
  | ok response =>
    cases response with
    | exc e =>
      by_cases refused : e.isinstance .responseError = true
      · simp only [Link.readResponse, answering, waiting, if_pos refused]
        cases received config command (.error e) <;> rfl
      · simp only [Link.readResponse, answering, waiting, if_neg refused]
        cases received config command (.ok (.exc e)) <;> rfl
    | _ =>
      simp only [Link.readResponse, answering, waiting]
      generalize received config command _ = outcome
      cases outcome <;> rfl

/-- A connection whose server owes the replies to these commands, or a closed one. -/
inductive Due (commands : List (PipelineCommand F)) : Bool → Connection → Prop where
  /-- The replies are to come. -/
  | waiting (session : Nat) : Due commands true
      { sock := some session, outstanding := commands.map (·.command.words) }
  /-- The connection failed. -/
  | closed : Due commands false .closed

/-- One reply of a batch is read. -/
theorem Due.parse {c : PipelineCommand F} {commands : List (PipelineCommand F)}
    {connected : Bool} {conn : Connection} (due : Due (c :: commands) connected conn)
    (config : ClientConfig F) (reply : Except Exc (PyVal F)) :
    ∃ after, parse config reply c.command conn =
        ((parse config reply c.command (if connected then NodeCommands.waiting else .closed)).1,
          after) ∧
      Due commands (connected && reply.isOk) after := by
  cases due with
  | waiting session =>
    refine ⟨_, parse_open config reply c.command rfl rfl, ?_⟩
    cases reply with
    | ok value => exact .waiting session
    | error e => exact .closed
  | closed =>
    have known := parse_closed config reply c.command
    exact ⟨.closed, by rw [if_neg Bool.false_ne_true, known], .closed⟩

/-- A connection is in step if it is closed or all commands are done. -/
theorem Due.inStep_iff {commands : List (PipelineCommand F)} {connected : Bool}
    {conn : Connection} (due : Due commands connected conn) :
    conn.InStep ↔ (!connected || commands.isEmpty) = true := by
  cases due with
  | waiting session => cases commands <;> simp [Connection.InStep, Connection.Owes]
  | closed => exact ⟨fun _ => rfl, fun _ => .inl rfl⟩

/-- The reading of a batch ends as its replies say. -/
theorem readEach_drain (config : ClientConfig F) (env : Surroundings F)
    {commands : List (PipelineCommand F)} (pending : ∀ c ∈ commands, c.result.isNone = true) :
    ∀ {connected : Bool} {conn : Connection}, Due commands connected conn →
      ((∃ e, (readEach config env conn commands).ended = .escaped e) ↔
        (drain config env connected commands).escapes = true) ∧
      ((readEach config env conn commands).connection.InStep ↔
        (drain config env connected commands).inStep = true) := by
  induction commands with
  | nil =>
    intro connected conn due
    have settled : conn.InStep := due.inStep_iff.mpr (by simp)
    exact ⟨by simp [readEach, drain], fun _ => rfl, fun _ => settled⟩
  | cons c commands ih =>
    intro connected conn due
    obtain ⟨first, others⟩ := List.forall_mem_cons.mp pending
    obtain ⟨after, parsed, left⟩ := due.parse config (env.reply c.position)
    have rest := ih others left
    have settled := left.inStep_iff
    rw [readEach, drain, if_pos first, parsed]
    cases (NodeCommands.parse config (env.reply c.position) c.command
      (if connected then NodeCommands.waiting else .closed)).1 with
    | ok value => exact rest
    | error e =>
      by_cases lost : e.isinstanceAny connectionErrors = true
      · simp only [if_pos lost]
        exact ⟨by simp, settled⟩
      · by_cases kept : e.isinstance .redisError = true
        · simp only [if_neg lost, if_pos kept]
          exact rest
        · simp only [if_neg lost, if_neg kept]
          exact ⟨by simp, settled⟩

/-- Commands with results are not read. -/
theorem readEach_settled (config : ClientConfig F) (env : Surroundings F) (conn : Connection)
    {commands : List (PipelineCommand F)} (settled : ∀ c ∈ commands, c.result.isNone = false) :
    (readEach config env conn commands).ended = .finished ∧
      (readEach config env conn commands).connection = conn := by
  induction commands with
  | nil => exact ⟨rfl, rfl⟩
  | cons c commands ih =>
    obtain ⟨first, others⟩ := List.forall_mem_cons.mp settled
    have skipped : ¬ c.result.isNone = true := by simp [first]
    rw [readEach, if_neg skipped]
    exact ih others

/-- The exception of `read`. -/
theorem read_none_iff (config : ClientConfig F) (env : Surroundings F) (n : NodeCommands F) :
    (read config env n).1 = none ↔
      ¬ ∃ e, (readEach config env n.connection n.commands).ended = .escaped e := by
  unfold read
  cases ended : (readEach config env n.connection n.commands).ended <;> simp [ended]

/-- The connection after `read`. -/
theorem read_connection (config : ClientConfig F) (env : Surroundings F) (n : NodeCommands F) :
    (read config env n).2.1.connection =
      (readEach config env n.connection n.commands).connection := by
  unfold read
  cases ended : (readEach config env n.connection n.commands).ended <;> simp [ended, setResults]

/-- Reading keeps the name. -/
theorem read_name (config : ClientConfig F) (env : Surroundings F) (n : NodeCommands F) :
    (read config env n).2.1.name = n.name := by
  unfold read
  cases ended : (readEach config env n.connection n.commands).ended <;> simp [ended, setResults]

/-- The reading of a batch that waits for its replies. -/
theorem Awaits.read {n : NodeCommands F} (awaits : n.Awaits) (config : ClientConfig F)
    (env : Surroundings F) :
    ((read config env n).1 = none ↔ (drain config env true n.commands).escapes = false) ∧
      ((read config env n).2.1.connection.InStep ↔
        (drain config env true n.commands).inStep = true) := by
  have due : Due n.commands true n.connection := by
    have same : n.connection = { sock := some 0, outstanding := n.words } := by
      rw [← awaits.sock, ← awaits.outstanding]
    rw [same]
    exact .waiting 0
  have known := readEach_drain config env awaits.pending due
  rw [read_none_iff, read_connection, known.1, known.2]
  simp

/-- A batch whose connection failed is not read. -/
theorem Failed.read {n : NodeCommands F} (failed : n.Failed) (config : ClientConfig F)
    (env : Surroundings F) :
    (read config env n).1 = none ∧ (read config env n).2.1.connection.InStep := by
  have known := readEach_settled config env n.connection failed.settled
  rw [read_none_iff, read_connection, known.1, known.2]
  exact ⟨by simp, failed.inStep⟩

/-- How a batch is read does not depend on earlier results. -/
theorem drain_setResults (config : ClientConfig F) (env : Surroundings F) (value : PyVal F)
    (commands : List (PipelineCommand F)) : ∀ connected : Bool,
      drain config env connected (commands.map fun c => { c with result := value }) =
        drain config env connected commands := by
  induction commands with
  | nil => exact fun _ => rfl
  | cons c commands ih =>
    intro connected
    simp only [List.map_cons, drain, ih, List.isEmpty_map]

/-! ## All batches -/

/-- All fresh. -/
def AllFresh (nodes : List (NodeCommands F)) : Prop := ∀ n ∈ nodes, n.Fresh

/-- An exception in one of the writings means that the connections are in step only if nothing was
written before. -/
theorem writes_inStep {env : Surroundings F} {nodes : List (NodeCommands F)}
    (fresh : AllFresh nodes) (stopped : (each (write env) nodes).1 ≠ none) :
    AllInStep (each (write env) nodes).2.1 ↔ Sending.WritesInStep env nodes := by
  induction nodes with
  | nil => exact absurd rfl stopped
  | cons n nodes ih =>
    obtain ⟨first, others⟩ := List.forall_mem_cons.mp fresh
    have rest := ih others
    have outcome := first.write env
    rw [each, Sending.WritesInStep]
    rw [each] at stopped
    unfold Written at outcome
    rcases ran : NodeCommands.write env n with ⟨stop, m, events⟩
    rw [ran] at outcome stopped
    cases ended : writeEnd env n with
    | escaped =>
      simp only [ended] at outcome
      obtain ⟨raised, settled⟩ := outcome
      cases stop with
      | none => exact absurd rfl raised
      | some e =>
        have ready : AllInStep (m :: nodes) :=
          List.forall_mem_cons.mpr ⟨settled, fun k member => (others k member).inStep⟩
        exact iff_of_true ready trivial
    | failed =>
      simp only [ended] at outcome
      obtain ⟨returned, failed⟩ := outcome
      cases returned
      rw [← rest stopped]
      exact List.forall_mem_cons.trans (and_iff_right failed.inStep)
    | written =>
      simp only [ended] at outcome
      obtain ⟨returned, awaits, -⟩ := outcome
      cases returned
      refine iff_of_false (fun all => awaits.not_inStep (all m (List.mem_cons_self ..))) ?_
      intro none_escapes
      refine stopped ((each_none_iff nodes).mpr fun k member => ?_)
      exact ((others k member).write_none_iff env).mpr (none_escapes k member)

/-- If all batches could be handled, how they are read decides whether the connections are in
step. -/
theorem reads_inStep {config : ClientConfig F} {env : Surroundings F}
    {nodes : List (NodeCommands F)} (fresh : AllFresh nodes)
    (handled : ∀ n ∈ nodes, writeEnd env n ≠ .escaped) :
    AllInStep (each (read config env) (nodes.map fun n => (write env n).2.1)).2.1 ↔
      Sending.ReadsInStep config env nodes := by
  induction nodes with
  | nil => exact iff_of_true (fun _ member => absurd member List.not_mem_nil) trivial
  | cons n nodes ih =>
    obtain ⟨first, others⟩ := List.forall_mem_cons.mp fresh
    obtain ⟨notEscaped, restHandled⟩ := List.forall_mem_cons.mp handled
    have rest := ih others restHandled
    have outcome := first.write env
    unfold Written at outcome
    rw [List.map_cons, each, Sending.ReadsInStep]
    cases ended : writeEnd env n with
    | escaped => exact absurd ended notEscaped
    | failed =>
      simp only [ended] at outcome
      have skipped := outcome.2.read config env
      rcases ran : NodeCommands.read config env (write env n).2.1 with ⟨stop, m, events⟩
      rw [ran] at skipped
      obtain ⟨returned, settled⟩ := skipped
      cases returned
      rw [← rest]
      exact List.forall_mem_cons.trans (and_iff_right settled)
    | written =>
      simp only [ended] at outcome
      obtain ⟨-, awaits, commands⟩ := outcome
      have drained := awaits.read config env
      have same : drain config env true (write env n).2.1.commands =
          drain config env true n.commands := by
        rw [commands]
        exact drain_setResults config env .none n.commands true
      rw [same] at drained
      rcases ran : NodeCommands.read config env (write env n).2.1 with ⟨stop, m, events⟩
      rw [ran] at drained
      obtain ⟨returns, settles⟩ := drained
      cases stop with
      | none =>
        have stays : ¬ (drain config env true n.commands).escapes = true := by
          rw [returns.mp rfl]
          exact Bool.false_ne_true
        simp only [if_neg stays]
        rw [← settles, ← rest]
        exact List.forall_mem_cons
      | some e =>
        have escapes : (drain config env true n.commands).escapes = true := by
          cases known : (drain config env true n.commands).escapes with
          | true => rfl
          | false => cases returns.mpr known
        simp only [if_pos escapes]
        rw [← settles]
        refine List.forall_mem_cons.trans (and_congr_right fun _ => ?_)
        rw [List.forall_mem_map]
        exact forall₂_congr fun k member => (others k member).write_inStep_iff env

/-! ## Releasing -/

/-- A node's connection goes back to its pool. -/
def given (n : NodeCommands F) : PipelineEvent F := .released n.name n.connection

/-- A connection that goes back, before other events. -/
theorem releases_given_cons (name : Text) (n : NodeCommands F) (events : List (PipelineEvent F)) :
    (releases name (n.given :: events)).length =
      (if n.name = name then 1 else 0) + (releases name events).length := by
  unfold releases given
  rw [List.filterMap_cons]
  by_cases same : n.name = name
  · simp only [PipelineEvent.returned, if_pos same, List.length_cons]
    omega
  · simp only [PipelineEvent.returned, if_neg same]
    omega

/-- One more node. -/
theorem countP_name_cons (name : Text) (n : NodeCommands F) (nodes : List (NodeCommands F)) :
    (n :: nodes).countP (·.name = name) =
      (if n.name = name then 1 else 0) + nodes.countP (·.name = name) := by
  rw [List.countP_cons]
  simp only [decide_eq_true_eq]
  omega

/-- All connections go back if no listener stops it. -/
theorem release_heard {env : Surroundings F} {nodes : List (NodeCommands F)}
    (heard : Sending.Heard env nodes) :
    (each (release env) nodes).2.2 = nodes.map given := by
  induction nodes with
  | nil => rfl
  | cons n nodes ih =>
    rw [each]
    cases nodes with
    | nil =>
      simp only [release]
      cases env.listener n.name <;> rfl
    | cons m nodes =>
      obtain ⟨silent, others⟩ := List.forall_mem_cons.mp heard
      have rest := ih others
      simp only [release, silent, rest]
      rfl

/-- A listener that raises too early keeps some connection from going back. -/
theorem release_unheard {env : Surroundings F} {nodes : List (NodeCommands F)}
    (unheard : ¬ Sending.Heard env nodes) :
    ∃ name, (releases name (each (release env) nodes).2.2).length <
      nodes.countP (·.name = name) := by
  induction nodes with
  | nil => exact absurd (fun _ member => absurd member List.not_mem_nil) unheard
  | cons n nodes ih =>
    cases nodes with
    | nil => exact absurd (fun _ member => absurd member List.not_mem_nil) unheard
    | cons m nodes =>
      cases heard : env.listener n.name with
      | some e =>
        refine ⟨m.name, ?_⟩
        have alone : (each (release env) (n :: m :: nodes)).2.2 = [n.given] := by
          simp only [each, release, heard]
          rfl
        have nothing : (releases m.name ([] : List (PipelineEvent F))).length = 0 := rfl
        have itself : (if m.name = m.name then 1 else 0) = 1 := if_pos rfl
        rw [alone, releases_given_cons, countP_name_cons, countP_name_cons, nothing, itself]
        omega
      | none =>
        obtain ⟨name, fewer⟩ := ih fun rest =>
          unheard (List.forall_mem_cons.mpr ⟨heard, rest⟩)
        have first : (each (release env) (n :: m :: nodes)).2.2 =
            n.given :: (each (release env) (m :: nodes)).2.2 := by
          rw [each]
          simp only [release, heard]
          rfl
        refine ⟨name, ?_⟩
        rw [first, releases_given_cons, countP_name_cons]
        omega

/-- The connections that go back to one pool. -/
theorem length_releases_given (name : Text) (nodes : List (NodeCommands F)) :
    (releases name (nodes.map given)).length = nodes.countP (·.name = name) := by
  induction nodes with
  | nil => rfl
  | cons n nodes ih => rw [List.map_cons, releases_given_cons, countP_name_cons, ih]

/-- A connection that goes back is the connection of a node. -/
theorem mem_releases_given {nodes : List (NodeCommands F)} {conn : Connection} :
    (∃ name, conn ∈ releases name (nodes.map given)) ↔ ∃ n ∈ nodes, n.connection = conn := by
  simp only [releases, List.mem_filterMap, List.mem_map, given]
  constructor
  · rintro ⟨name, event, ⟨n, member, rfl⟩, returned⟩
    refine ⟨n, member, ?_⟩
    by_cases same : n.name = name
    · simpa [PipelineEvent.returned, same] using returned
    · simp [PipelineEvent.returned, same] at returned
  · rintro ⟨n, member, rfl⟩
    exact ⟨n.name, _, ⟨n, member, rfl⟩, if_pos rfl⟩

/-- Releasing what is held releases it once and in step exactly if no listener stops it and all
connections are in step. -/
theorem releasedOnce_iff (env : Surroundings F) {nodes : List (NodeCommands F)}
    {events : List (PipelineEvent F)} (kept : ∀ name, releases name events = [])
    (held : ∀ name, acquisitions name events = nodes.countP (·.name = name)) :
    ReleasedOnce (events ++ (each (release env) nodes).2.2) ↔
      Sending.Heard env nodes ∧ AllInStep nodes := by
  have acquires (name : Text) : acquisitions name (each (release env) nodes).2.2 = 0 := by
    refine List.countP_eq_zero.mpr ?_
    refine each_events (fun n event member => ?_) nodes
    rw [List.mem_singleton.mp member]
    exact Bool.false_ne_true
  have released (name : Text) : releases name (events ++ (each (release env) nodes).2.2) =
      releases name (each (release env) nodes).2.2 := by
    rw [releases_append, kept, List.nil_append]
  have acquired (name : Text) : acquisitions name (events ++ (each (release env) nodes).2.2) =
      nodes.countP (·.name = name) := by
    rw [acquisitions_append, held, acquires, Nat.add_zero]
  by_cases heard : Sending.Heard env nodes
  · have all := release_heard heard
    refine Iff.trans ?_ (and_iff_right heard).symm
    constructor
    · intro known n member
      obtain ⟨name, returned⟩ := mem_releases_given.mpr ⟨n, member, rfl⟩
      refine known.inStep name n.connection ?_
      rw [released, all]
      exact returned
    · intro settled
      refine { once name := ?_, inStep name conn member := ?_ }
      · rw [released, acquired, all]
        exact length_releases_given name nodes
      · rw [released, all] at member
        obtain ⟨n, held, rfl⟩ := mem_releases_given.mp ⟨name, member⟩
        exact settled n held
  · obtain ⟨name, fewer⟩ := release_unheard heard
    refine iff_of_false (fun known => ?_) fun both => heard both.1
    have once := known.once name
    rw [released, acquired] at once
    omega

end NodeCommands

/-! ## Routing -/

namespace Sending

open NodeCommands

/-- What is held was not released, and each node holds one connection and has commands. -/
structure Holding (s : Sending F) : Prop where
  /-- Nothing was released. -/
  kept : ∀ name, releases name s.events = []
  /-- One acquisition for each node. -/
  held : ∀ name, acquisitions name s.events = s.nodes.countP (·.name = name)
  /-- Nothing was written. -/
  fresh : AllFresh s.nodes

/-- What is held is released once only if nothing is held. -/
theorem Holding.releasedOnce_iff {s : Sending F} (holding : s.Holding) :
    ReleasedOnce s.events ↔ s.nodes = [] := by
  constructor
  · intro known
    rcases nodes : s.nodes with _ | ⟨n, rest⟩
    · rfl
    · have once := known.once n.name
      rw [holding.kept, holding.held, nodes, countP_name_cons, if_pos rfl] at once
      simp only [List.length_nil] at once
      omega
  · intro nodes
    refine { once name := ?_, inStep name conn member := ?_ }
    · rw [holding.kept, holding.held, nodes]
      rfl
    · rw [holding.kept] at member
      cases member

/-- Placing a command keeps the names. -/
theorem place_names (name : Text) (c : PipelineCommand F) (nodes : List (NodeCommands F)) :
    (place name c nodes).map (·.name) = nodes.map (·.name) := by
  rw [place, List.map_map]
  refine List.map_congr_left fun n _ => ?_
  by_cases same : n.name = name <;> simp [same]

/-- Placing a command keeps nodes fresh. -/
theorem place_fresh {name : Text} {c : PipelineCommand F} {nodes : List (NodeCommands F)}
    (fresh : ∀ n ∈ nodes, n.connection = ready ∧ (n.name = name ∨ n.commands ≠ [])) :
    AllFresh (place name c nodes) := by
  refine List.forall_mem_map.mpr fun n member => ?_
  obtain ⟨started, commands⟩ := fresh n member
  by_cases same : n.name = name
  · rw [if_pos same]
    exact { ready := started, commands := by simp }
  · rw [if_neg same]
    exact { ready := started, commands := commands.resolve_left same }

/-- A command is put under a node that is held. -/
theorem Holding.place {s : Sending F} (holding : s.Holding) (name : Text) (c : PipelineCommand F) :
    Holding { s with nodes := place name c s.nodes } where
  kept := holding.kept
  held other := by
    have names := congrArg (List.countP (· = other)) (place_names name c s.nodes)
    rw [List.countP_map, List.countP_map] at names
    exact (holding.held other).trans names.symm
  fresh := place_fresh fun n member =>
    ⟨(holding.fresh n member).ready, .inr (holding.fresh n member).commands⟩

/-- A command is put under a node that is needed for the first time. -/
theorem Holding.hold {s : Sending F} (holding : s.Holding) (name : Text) (c : PipelineCommand F) :
    Holding { s.hold name with nodes := Sending.place name c (s.hold name).nodes } where
  kept other := by
    show releases other (s.events ++ [.acquired name]) = []
    rw [releases_append, holding.kept]
    rfl
  held other := by
    have names := congrArg (List.countP (· = other)) (place_names name c (s.hold name).nodes)
    rw [List.countP_map, List.countP_map] at names
    refine Eq.trans ?_ names.symm
    show acquisitions other (s.events ++ [.acquired name]) = _
    rw [acquisitions_append, holding.held]
    show _ = List.countP _ (s.nodes ++ [_])
    rw [List.countP_append]
    rfl
  fresh := by
    refine place_fresh (List.forall_mem_append.mpr ⟨fun n member => ?_, ?_⟩)
    · exact ⟨(holding.fresh n member).ready, .inr (holding.fresh n member).commands⟩
    · exact List.forall_mem_singleton.mpr ⟨rfl, .inl rfl⟩

/-- The failure of a pool is raised in the end. -/
theorem refuse_raises (env : Surroundings F) (e : Exc) (s : Sending F) :
    ∃ other t, refuse env e s = .error other t := by
  unfold refuse
  by_cases lost : e.isinstanceAny connectionErrors = true
  · rw [if_pos lost]
    simp only [bind, EStateM.bind, forEach]
    rcases each (release env) s.nodes with ⟨stop, nodes, events⟩
    cases stop with
    | some first => exact ⟨_, _, rfl⟩
    | none => cases env.refresh <;> exact ⟨_, _, rfl⟩
  · rw [if_neg lost]
    exact ⟨e, s, rfl⟩

/-- The connections are released after the failure of a pool. -/
theorem refuse_releasedOnce {s : Sending F} (holding : s.Holding) (env : Surroundings F)
    (e : Exc) :
    ReleasedOnce (stateAfter (refuse env e s)).events ↔
      s.nodes = [] ∨ e.isinstanceAny connectionErrors = true ∧ Heard env s.nodes := by
  unfold refuse
  by_cases lost : e.isinstanceAny connectionErrors = true
  · have law := NodeCommands.releasedOnce_iff env holding.kept holding.held
    have settled : AllInStep s.nodes := fun n member => (holding.fresh n member).inStep
    have after : (stateAfter ((if e.isinstanceAny connectionErrors then do
          forEach (NodeCommands.release env)
          whenSome env.refresh throw
          throw e
        else throw e : EStateM Exc (Sending F) Unit) s)).events =
        s.events ++ (each (release env) s.nodes).2.2 := by
      rw [if_pos lost]
      simp only [bind, EStateM.bind, forEach]
      rcases each (release env) s.nodes with ⟨stop, nodes, events⟩
      cases stop with
      | some other => rfl
      | none =>
        cases env.refresh <;> rfl
    rw [after, law]
    constructor
    · exact fun both => .inr ⟨lost, both.1⟩
    · rintro (nodes | ⟨-, heard⟩)
      · rw [nodes]
        exact ⟨fun _ member => absurd member List.not_mem_nil,
          fun _ member => absurd member List.not_mem_nil⟩
      · exact ⟨heard, settled⟩
  · rw [if_neg lost]
    refine holding.releasedOnce_iff.trans ⟨.inl, ?_⟩
    exact fun either => either.resolve_right fun both => lost both.1

/-- The state after all nodes were handled, up to the first exception. -/
theorem stateAfter_forEach
    (step : NodeCommands F → Option Exc × NodeCommands F × List (PipelineEvent F))
    (s : Sending F) :
    stateAfter (forEach step s) =
      { nodes := (each step s.nodes).2.1, events := s.events ++ (each step s.nodes).2.2 } := by
  unfold forEach
  rcases each step s.nodes with ⟨stop, nodes, events⟩
  cases stop <;> rfl

/-- The replies are read if all batches could be handled. -/
theorem stateAfter_forEach_bind
    (step : NodeCommands F → Option Exc × NodeCommands F × List (PipelineEvent F))
    (next : EStateM Exc (Sending F) Unit) (s : Sending F) :
    stateAfter ((do forEach step; next : EStateM Exc (Sending F) Unit) s) =
      if (each step s.nodes).1 = none then stateAfter (next (stateAfter (forEach step s)))
      else stateAfter (forEach step s) := by
  simp only [bind, EStateM.bind, forEach]
  rcases each step s.nodes with ⟨stop, nodes, events⟩
  cases stop <;> rfl

/-- What the writing and the reading of the batches leave. -/
structure Transferred (config : ClientConfig F) (env : Surroundings F) (s t : Sending F) : Prop where
  /-- The same nodes. -/
  names : t.nodes.map (·.name) = s.nodes.map (·.name)
  /-- Nothing is acquired or released. -/
  events : ∃ later, (∀ event ∈ later, event.silent = true) ∧ t.events = s.events ++ later
  /-- The connections are in step as the surroundings say. -/
  inStep : AllInStep t.nodes ↔ WritesInStep env s.nodes ∧
    ((∀ n ∈ s.nodes, writeEnd env n ≠ .escaped) → ReadsInStep config env s.nodes)

/-- Where nothing else is raised, nothing interrupts the writing. -/
theorem writesInStep_of_handled {env : Surroundings F} {nodes : List (NodeCommands F)}
    (handled : ∀ n ∈ nodes, writeEnd env n ≠ .escaped) : WritesInStep env nodes := by
  induction nodes with
  | nil => trivial
  | cons n nodes ih =>
    obtain ⟨first, others⟩ := List.forall_mem_cons.mp handled
    rw [WritesInStep]
    cases ended : writeEnd env n with
    | written => exact others
    | failed => exact ih others
    | escaped => exact absurd ended first

/-- Writing tells nobody about connections. -/
theorem write_silent (env : Surroundings F) (n : NodeCommands F) :
    ∀ event ∈ (NodeCommands.write env n).2.2, event.silent = true := by
  have quiet : ∀ event ∈ n.sents, event.silent = true := List.forall_mem_map.mpr fun _ _ => rfl
  have nothing : ∀ event ∈ ([] : List (PipelineEvent F)), event.silent = true :=
    fun _ member => absurd member List.not_mem_nil
  unfold NodeCommands.write
  by_cases encodable : n.commands.all (·.command.encodable) = true
  · rw [if_pos encodable]
    cases env.send n.name with
    | none => exact quiet
    | some failure =>
      have written : ∀ event ∈ if failure.wrote then n.sents else [], event.silent = true := by
        cases failure.wrote with
        | true => exact quiet
        | false => exact nothing
      by_cases lost : failure.error.isinstanceAny connectionErrors = true
      · simp only [if_pos lost]
        exact written
      · simp only [if_neg lost]
        exact written
  · rw [if_neg encodable]
    exact nothing

/-- The loop of `read` tells nobody about connections. -/
theorem readEach_silent (config : ClientConfig F) (env : Surroundings F)
    (commands : List (PipelineCommand F)) : ∀ conn : Connection,
      ∀ event ∈ (readEach config env conn commands).events, event.silent = true := by
  induction commands with
  | nil => exact fun _ _ member => absurd member List.not_mem_nil
  | cons c commands ih =>
    intro conn
    rw [readEach]
    by_cases pending : c.result.isNone = true
    · rw [if_pos pending]
      rcases NodeCommands.parse config (env.reply c.position) c.command conn with ⟨outcome, after⟩
      have rest := ih after
      cases outcome with
      | ok value => exact List.forall_mem_cons.mpr ⟨rfl, rest⟩
      | error e =>
        by_cases lost : e.isinstanceAny connectionErrors = true
        · simp only [if_pos lost]
          exact fun _ member => absurd member List.not_mem_nil
        · by_cases kept : e.isinstance .redisError = true
          · simp only [if_neg lost, if_pos kept]
            exact rest
          · simp only [if_neg lost, if_neg kept]
            exact fun _ member => absurd member List.not_mem_nil
    · rw [if_neg pending]
      exact ih conn

/-- Reading tells nobody about connections. -/
theorem read_silent (config : ClientConfig F) (env : Surroundings F) (n : NodeCommands F) :
    ∀ event ∈ (NodeCommands.read config env n).2.2, event.silent = true := by
  have quiet := readEach_silent config env n.commands n.connection
  unfold NodeCommands.read
  cases ended : (readEach config env n.connection n.commands).ended <;> simpa only [ended] using quiet

/-- The batches are written, and if all could be handled, the replies are read. -/
theorem Holding.transferred {s : Sending F} (holding : s.Holding) (config : ClientConfig F)
    (env : Surroundings F) :
    Transferred config env s (stateAfter ((do
      forEach (NodeCommands.write env)
      forEach (NodeCommands.read config env) : EStateM Exc (Sending F) Unit) s)) := by
  have fresh := holding.fresh
  have names := each_names (write_name env) s.nodes
  have quiet := each_events (write_silent env) s.nodes
  rw [stateAfter_forEach_bind, stateAfter_forEach, stateAfter_forEach]
  by_cases all : (each (NodeCommands.write env) s.nodes).1 = none
  · rw [if_pos all]
    have each_none := (each_none_iff s.nodes).mp all
    have handled : ∀ n ∈ s.nodes, writeEnd env n ≠ .escaped := fun n member =>
      ((fresh n member).write_none_iff env).mp (each_none n member)
    have read := each_events (read_silent config env)
      (each (NodeCommands.write env) s.nodes).2.1
    refine {
      names := (each_names (read_name config env) _).trans names
      events := ⟨_, List.forall_mem_append.mpr ⟨quiet, read⟩, List.append_assoc ..⟩
      inStep := ?_ }
    show AllInStep (each (NodeCommands.read config env)
      (each (NodeCommands.write env) s.nodes).2.1).2.1 ↔ _
    rw [each_map each_none, reads_inStep fresh handled]
    exact ⟨fun reads => ⟨writesInStep_of_handled handled, fun _ => reads⟩,
      fun both => both.2 handled⟩
  · rw [if_neg all]
    have escapes : ¬ ∀ n ∈ s.nodes, writeEnd env n ≠ .escaped := fun handled =>
      all ((each_none_iff s.nodes).mpr fun n member =>
        ((fresh n member).write_none_iff env).mpr (handled n member))
    refine { names, events := ⟨_, quiet, rfl⟩, inStep := ?_ }
    rw [writes_inStep fresh all]
    exact ⟨fun writes => ⟨writes, fun handled => absurd handled escapes⟩, And.left⟩

/-- Listeners only hear names. -/
theorem heard_congr {env : Surroundings F} {nodes others : List (NodeCommands F)}
    (names : nodes.map (·.name) = others.map (·.name)) : Heard env nodes ↔ Heard env others := by
  have known (nodes : List (NodeCommands F)) :
      Heard env nodes ↔ ∀ name ∈ (nodes.map (·.name)).dropLast, env.listener name = none := by
    rw [← List.map_dropLast, List.forall_mem_map]
    rfl
  rw [known, known, names]

/-- The batches are written and read and the connections released. -/
theorem settle_releasedOnce {config : ClientConfig F} {env : Surroundings F} {s : Sending F}
    (holding : s.Holding) :
    ReleasedOnce (stateAfter (exchange config env [] s)).events ↔ Settles config env s.nodes := by
  have transferred := holding.transferred config env
  obtain ⟨later, quiet, events⟩ := transferred.events
  have after : stateAfter (exchange config env [] s) =
      stateAfter (forEach (NodeCommands.release env) (stateAfter ((do
        forEach (NodeCommands.write env)
        forEach (NodeCommands.read config env) : EStateM Exc (Sending F) Unit) s))) :=
    stateAfter_ensure _ _ s
  rw [after, stateAfter_forEach]
  generalize stateAfter ((do
    forEach (NodeCommands.write env)
    forEach (NodeCommands.read config env) : EStateM Exc (Sending F) Unit) s) = t
    at transferred events
  have kept (name : Text) : releases name t.events = [] := by
    rw [events, releases_append, holding.kept, releases_silent name quiet]
    rfl
  have held (name : Text) : acquisitions name t.events = t.nodes.countP (·.name = name) := by
    have names := congrArg (List.countP (· = name)) transferred.names
    rw [List.countP_map, List.countP_map] at names
    rw [events, acquisitions_append, holding.held, acquisitions_silent name quiet]
    exact names.symm
  rw [NodeCommands.releasedOnce_iff env kept held, heard_congr transferred.names, transferred.inStep]
  exact ⟨fun known => ⟨known.1, known.2.1, known.2.2⟩,
    fun settles => ⟨settles.heard, settles.writes, settles.reads⟩⟩

/-- One command is routed before the others. -/
theorem exchange_cons (config : ClientConfig F) (env : Surroundings F) (c : PipelineCommand F)
    (stack : List (PipelineCommand F)) (s : Sending F) :
    exchange config env (c :: stack) s =
      match assign env c s with
      | .ok _ t => exchange config env stack t
      | .error e t => .error e t := by
  simp only [exchange, assignEach, bind, EStateM.bind]
  cases assign env c s <;> rfl

/-- The connections that an exchange acquires go back once and in step exactly if it is orderly. -/
theorem exchange_releasedOnce (config : ClientConfig F) (env : Surroundings F)
    (stack : List (PipelineCommand F)) : ∀ {s : Sending F}, s.Holding →
      (ReleasedOnce (stateAfter (exchange config env stack s)).events ↔
        Orderly config env s.nodes stack) := by
  induction stack with
  | nil => exact settle_releasedOnce
  | cons c stack ih =>
    intro s holding
    rw [exchange_cons, Orderly]
    cases target : targetNode env c with
    | error e =>
      have refused : assign env c s = .error e s := by
        simp only [assign, target]
        rfl
      rw [refused]
      exact holding.releasedOnce_iff
    | ok name =>
      have looked : (get : EStateM Exc (Sending F) (Sending F)) s = .ok s s := rfl
      by_cases known : holds name s.nodes = true
      · have placed : assign env c s = .ok () { s with nodes := place name c s.nodes } := by
          simp only [assign, target]
          rw [Interruptible.bind_of_ok looked, if_pos known]
          rfl
        simp only [placed, if_pos known]
        exact ih (holding.place name c)
      · cases acquired : env.acquire name with
        | none =>
          have placed : assign env c s =
              .ok () { s.hold name with nodes := place name c (s.hold name).nodes } := by
            simp only [assign, target]
            rw [Interruptible.bind_of_ok looked, if_neg known, acquired]
            rfl
          simp only [placed, if_neg known, acquired]
          exact ih (holding.hold name c)
        | some e =>
          have refused : assign env c s = refuse env e s := by
            simp only [assign, target]
            rw [Interruptible.bind_of_ok looked, if_neg known, acquired]
          have law := refuse_releasedOnce holding env e
          obtain ⟨other, t, raised⟩ := refuse_raises env e s
          rw [raised] at law refused
          simp only [refused, if_neg known, acquired]
          exact law

/-! ## After the release -/

/-- Some silent events were added. -/
def Since (events : List (PipelineEvent F)) (s : Sending F) : Prop :=
  ∃ later, (∀ event ∈ later, event.silent = true) ∧ s.events = events ++ later

/-- More silent events. -/
theorem Since.more {events : List (PipelineEvent F)} {s t : Sending F} (since : s.Since events)
    {more : List (PipelineEvent F)} (quiet : ∀ event ∈ more, event.silent = true)
    (added : t.events = s.events ++ more) : t.Since events := by
  obtain ⟨later, silent, known⟩ := since
  refine ⟨later ++ more, List.forall_mem_append.mpr ⟨silent, quiet⟩, ?_⟩
  rw [added, known, List.append_assoc]

variable {events : List (PipelineEvent F)}

/-- Results are no events. -/
theorem keeps_setResult (position : Nat) (value : PyVal F) :
    Keeps (Since events) (modify (setResult position value) : EStateM Exc (Sending F) Unit) :=
  keeps_modify fun _ => id

/-- A command that is run again by itself concerns no connection of the pipeline. -/
theorem keeps_retryOne (env : Surroundings F) (c : PipelineCommand F) :
    Keeps (Since events) (retryOne env c) := by
  unfold retryOne
  refine Keeps.bind (keeps_modify fun s since => ?_) fun _ => ?_
  · refine since.more (fun event member => ?_) rfl
    rw [List.eq_of_mem_replicate member]
    rfl
  · cases (env.retry c.position).outcome with
    | ok value =>
      refine keeps_modify fun s since => ?_
      exact since.more (List.forall_mem_singleton.mpr rfl) rfl
    | error e =>
      exact keeps_ite (keeps_setResult c.position (.exc e)) (keeps_throw e)

/-- So do all of them. -/
theorem keeps_retryEach (env : Surroundings F) (commands : List (PipelineCommand F)) :
    Keeps (Since events) (retryEach env commands) := by
  induction commands with
  | nil => exact keeps_pure ()
  | cons c commands ih => exact (keeps_retryOne env c).bind fun _ => ih

/-- Cluster callbacks concern no connection. -/
theorem keeps_respond (config : PipelineConfig F) (c : PipelineCommand F) :
    Keeps (Since events) (respond config c) := by
  refine keeps_get fun s => ?_
  cases config.clusterResponseCallbacks c.command.name with
  | none => exact keeps_pure _
  | some callback =>
    simp only []
    cases callback c.command (s.result c.position) with
    | error e => exact keeps_throw e
    | ok value => exact (keeps_setResult c.position value).bind fun _ => keeps_pure value

/-- So do all of them. -/
theorem keeps_respondEach (config : PipelineConfig F) (commands : List (PipelineCommand F)) :
    Keeps (Since events) (respondEach config commands) := by
  induction commands with
  | nil => exact keeps_pure []
  | cons c commands ih =>
    exact (keeps_respond config c).bind fun _ => ih.bind fun _ => keeps_pure _

/-- What comes after the release concerns no connection of the pipeline. -/
theorem keeps_finish (config : PipelineConfig F) (env : Surroundings F)
    (stack : List (PipelineCommand F)) (raiseOnError allowRedirections : Bool) :
    Keeps (Since events) (finish config env stack raiseOnError allowRedirections) := by
  refine keeps_get fun s => ?_
  refine (keeps_whenever ?_).bind fun _ => (keeps_respondEach config stack).bind fun response => ?_
  · exact (keeps_whenSome fun e => keeps_throw e).bind fun _ => keeps_retryEach env _
  · cases (if raiseOnError then firstRaised response else none) with
    | some e => exact keeps_throw e
    | none => exact keeps_pure response

/-- The connections that one attempt acquires go back once and in step exactly if it is orderly. -/
theorem sendOnce_releasedOnce (config : PipelineConfig F) (env : Surroundings F)
    (stack : List (PipelineCommand F)) (raiseOnError allowRedirections : Bool) :
    ReleasedOnce (stateAfter
        (sendOnce config env stack raiseOnError allowRedirections start)).events ↔
      Orderly config.toClientConfig env [] stack := by
  have empty : Holding (start : Sending F) := {
    kept := fun _ => rfl
    held := fun _ => rfl
    fresh := fun _ member => absurd member List.not_mem_nil }
  have law := exchange_releasedOnce config.toClientConfig env stack empty
  refine Iff.trans ?_ law
  show ReleasedOnce (stateAfter ((exchange config.toClientConfig env stack >>= fun _ =>
    finish config env stack raiseOnError allowRedirections) start)).events ↔ _
  simp only [bind, EStateM.bind]
  cases exchange config.toClientConfig env stack start with
  | error e t => exact Iff.rfl
  | ok _ t =>
    have none_yet : Since t.events t :=
      ⟨[], fun _ member => absurd member List.not_mem_nil, (List.append_nil _).symm⟩
    obtain ⟨later, silent, events⟩ :=
      (keeps_finish config env stack raiseOnError allowRedirections).stateAfter none_yet
    show ReleasedOnce (stateAfter
      (finish config env stack raiseOnError allowRedirections t)).events ↔ ReleasedOnce t.events
    rw [events]
    exact releasedOnce_append_silent silent

end Sending

section Scenario

/-- A cluster pipeline without callbacks that tries only once. -/
def plainPipelineConfig : PipelineConfig Empty where
  toClientConfig := plainConfig fun _ => none
  clusterResponseCallbacks _ := none
  clusterErrorRetryAttempts := 0

/-- Only the slot of the first command is covered. -/
def halfCovered : Surroundings Empty where
  route position :=
    if position = 0 then .ok ["10.0.0.1:6379".toList] else .error { cls := .slotNotCoveredError }
  acquire _ := none
  refresh := none
  send _ := none
  reply _ := .ok (.bytes (ascii "1"))
  listener _ := none
  reinitialize := none
  retry _ := { sends := 1, outcome := .ok .none }

/-- When the slot of the second command is not covered, the connection for the first one is never
given back. -/
theorem uncovered_slot_not_releasedOnce :
    ¬ ReleasedOnce (stateAfter (Sending.sendOnce plainPipelineConfig halfCovered
      (Sending.stackOf [.plain "GET" ["a".toList], .plain "GET" ["b".toList]])
      true true Sending.start)).events := by
  intro known
  have once := known.once "10.0.0.1:6379".toList
  revert once
  decide +kernel

end Scenario

end RedisPy

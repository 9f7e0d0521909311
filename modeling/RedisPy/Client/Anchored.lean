import RedisPy.Lib.Runs
import RedisPy.Client.Watching

/-!
# No watched session is lost

A pipeline is anchored while its connection has no other socket than that of every `WATCH` since the last
reset. Calls that take none of the branches that open a session keep it so, whatever happens to the
connection between them, and so in such a run no `execute` of a watching pipeline goes wrong.
-/

namespace RedisPy

open Contract

variable {F : Type}

namespace Holder

variable (config : ClientConfig F) (env : Env F)

omit config env in
/-- A pipeline that has watched nothing since the last reset is anchored. -/
theorem Watched.anchored {s : Holder F} (watched : s.Watched []) : s.pipe.Anchored := by
  have none : s.pipe.watchedOn = [] := watched.1.elim id id
  refine ⟨watched.2, fun session _ one member => ?_⟩
  rw [none] at member
  cases member

omit config env in
/-- Noting a reply adds the session of the socket. -/
theorem anchored_noteReply {s : Holder F} (anchored : s.pipe.Anchored)
    (held : s.pipe.connection.isSome = true) (command : Command F) :
    (noteReply command s).pipe.Anchored := by
  unfold noteReply
  split
  · exact ⟨fun _ => held, anchored.here⟩
  · split
    · refine ⟨fun _ => held, fun session here one member => ?_⟩
      rcases List.mem_append.mp member with before | last
      · exact anchored.here session here one before
      · have own : s.pipe.connection.bind (·.sock) = some session := here
        rw [own] at last
        exact List.mem_singleton.mp last
    · exact anchored

omit config env in
/-- A pipeline that let go is anchored. -/
theorem anchored_letGo (s : Holder F) : s.letGo.pipe.Anchored := (watched_letGo [] s).anchored

/-- A reset pipeline is anchored, and so is one that is left without a socket. -/
theorem anchored_reset {s : Holder F} (abandons : s.Abandons config env) :
    (stateAfter (reset config env s)).pipe.Anchored := by
  cases asks : s.pipe.watching && s.pipe.connection.isSome with
  | false =>
    rw [reset_quiet config env asks]
    exact anchored_letGo _
  | true =>
    obtain ⟨watching, held⟩ := Bool.and_eq_true_iff.mp asks
    obtain ⟨conn, connection⟩ := Option.isSome_iff_exists.mp held
    have ends := reset_watching config env watching connection
    cases ran : sendUnwatch config env { conn, net := s.shared.net } with
    | ok _ link =>
      rw [ran] at ends
      rw [ends]
      exact anchored_letGo _
    | error e link =>
      rw [ran] at ends
      have gone := abandons e _ ends
      rw [ends]
      refine ⟨fun _ => rfl, fun session here => ?_⟩
      cases gone.symm.trans here

/-- A reset that is followed by an exception. -/
theorem meets_anchored_throw {s : Holder F} (abandons : s.Abandons config env) (e : Exc)
    {Q : Unit → Holder F → Prop} :
    Meets (· = s) (do
      reset config env
      throw e) Q fun _ t => t.pipe.Anchored := by
  intro t same
  rw [same]
  have anchored := anchored_reset config env abandons
  cases ran : reset config env s with
  | ok _ u =>
    rw [ran] at anchored
    rw [Interruptible.bind_of_ok ran]
    exact anchored
  | error f u =>
    rw [ran] at anchored
    rw [Interruptible.bind_of_error ran]
    exact anchored

/-- Returning from the connection means that there is one. -/
theorem meets_onConnection_some {α : Type} {I : Holder F → Prop} {program : EStateM Exc Link α}
    (keeps : Keeps I (onConnection program)) :
    Meets I (onConnection program) (fun _ s => I s ∧ s.pipe.connection.isSome = true) fun _ => I := by
  intro s holds
  have kept := keeps s holds
  unfold onConnection at kept ⊢
  cases connection : s.pipe.connection with
  | none => exact holds
  | some conn =>
    rw [connection] at kept
    simp only at kept ⊢
    cases ran : program { conn, net := s.shared.net } with
    | ok value link =>
      rw [ran] at kept
      exact ⟨kept, rfl⟩
    | error e link =>
      rw [ran] at kept
      exact kept

/-- A first command that is executed at once, and repeated as often as one likes. -/
theorem meets_immediate_fresh (command : Command F) :
    Meets (fun s => s.Watched []) (immediateExecuteCommand config env command)
      (fun _ s => s.pipe.Anchored) fun _ s => s.pipe.Anchored := by
  have aloof := aloof_watched config env []
  have fails : ∀ (e : Exc) (s : Holder F), s.Watched [] → s.pipe.Anchored := fun _ _ => Watched.anchored
  have exchanged : Meets (fun s => s.Watched []) (do
      onConnection (Link.sendCommand config env command)
      parseResponse config env command) (fun _ s => s.pipe.Anchored) fun _ s => s.Watched [] := by
    apply Meets.bind (aloof.onConnection _)
    intro _
    apply Meets.bind (meets_onConnection_some (aloof.onConnection _))
    intro response
    have noted : Meets (fun s : Holder F => s.Watched [] ∧ s.pipe.connection.isSome = true)
        (modify (noteReply command)) (fun _ s => s.pipe.Anchored) fun (_ : Exc) s => s.Watched [] :=
      meets_modify fun s watched => anchored_noteReply watched.1.anchored watched.2 command
    apply noted.bind
    intro _
    exact meets_pure fun _ => id
  apply Meets.bind (aloof.held.weaken (fun _ => id) (fun _ _ => id) fails)
  intro _
  apply config.retry.meets_callWithRetry exchanged
  · intro e _
    exact (keeps_watched_handler config env [] e).weaken (fun _ => id)
      (fun _ _ watched => ⟨watched, watched.anchored⟩) fun _ _ => Watched.anchored
  · intro e s _
    exact Watched.anchored
  · intro _
    exact id
  · intro _
    exact Watched.anchored

omit config env in
/-- What a program on the connection makes of its socket, and nothing else of the pipeline. -/
structure Kept (before s : Holder F) : Prop where
  /-- The rest of the pipeline. -/
  pipe : s.pipe = { before.pipe with connection := s.pipe.connection }
  /-- The connection. -/
  held : s.pipe.connection.isSome = true
  /-- No session was opened. -/
  socket : s.socket = none ∨ s.socket = before.socket

omit config env in
/-- A pipeline whose connection opened no session is still anchored. -/
theorem Kept.anchored {before s : Holder F} (kept : Kept before s) (anchored : before.pipe.Anchored) :
    s.pipe.Anchored := by
  refine ⟨fun _ => kept.held, fun session here one member => ?_⟩
  rw [kept.pipe] at member
  rcases kept.socket with none | same
  · cases none.symm.trans here
  · exact anchored.here session (same.symm.trans here) one member

/-- A program that opens no session. -/
theorem meets_onConnection_kept {α : Type} (before : Holder F) {program : EStateM Exc Link α}
    (keeps : Keeps (Link.At before.socket) program) :
    Keeps (Kept before) (onConnection program) := by
  intro s kept
  obtain ⟨conn, connection⟩ := Option.isSome_iff_exists.mp kept.held
  have here := kept.socket
  have pipe := kept.pipe
  unfold onConnection
  simp only [connection]
  rw [socket, connection] at here
  have one := keeps { conn, net := s.shared.net } here
  cases ran : program { conn, net := s.shared.net } with
  | ok value link =>
    rw [ran] at one
    exact ⟨by rw [pipe], rfl, one⟩
  | error e link =>
    rw [ran] at one
    exact ⟨by rw [pipe], rfl, one⟩

/-- One attempt on a steady connection opens no session. -/
theorem Undisturbed.exchange {s : Holder F} (command : Command F) (steady : s.Steady config env)
    (anchored : s.pipe.Anchored) (held : s.pipe.connection.isSome = true) :
    Meets (· = s) (exchange config env command) (fun _ t => t.pipe.Anchored) fun _ t => Kept s t := by
  obtain ⟨conn, connection⟩ := Option.isSome_iff_exists.mp held
  have sends : Meets (· = s) (onConnection (Link.sendCommand config env command)) (fun _ => Kept s)
      fun _ => Kept s := by
    intro t same
    rw [same]
    have sent := (steady conn connection).sendCommand command _ rfl
    have sock : s.socket = conn.sock := by
      rw [socket, connection]
      rfl
    unfold onConnection
    simp only [connection]
    cases ran : Link.sendCommand config env command { conn, net := s.shared.net } with
    | ok value link =>
      rw [ran] at sent
      exact ⟨rfl, rfl, by rw [sock]; exact sent⟩
    | error e link =>
      rw [ran] at sent
      exact ⟨rfl, rfl, by rw [sock]; exact sent⟩
  have parses := meets_onConnection_kept s
    (Link.keeps_at_parseResponse config env s.socket command)
  apply sends.bind
  intro _
  apply Meets.bind parses
  intro response
  have noted : Meets (Kept s) (modify (noteReply command)) (fun _ t => t.pipe.Anchored)
      fun (_ : Exc) t => Kept s t :=
    meets_modify fun t kept => anchored_noteReply (kept.anchored anchored) kept.held command
  apply noted.bind
  intro _
  exact meets_pure fun _ => id

/-- After a failed attempt the connection is closed, and the command is not repeated. -/
theorem Undisturbed.handler {s t : Holder F} {command : Command F} {e : Exc}
    (undisturbed : Undisturbed config env command s)
    (failed : Holder.exchange config env command s = .error e t) (kept : Kept s t)
    (supported : e.isinstanceAny config.retry.supportedErrors = true) :
    Meets (· = t) (disconnectResetRaise config env e)
      (fun _ u => config.retry.exhausted 1 = true ∧ u.pipe.Anchored) fun _ u => u.pipe.Anchored := by
  intro u same
  rw [same]
  have looked : (get : EStateM Exc (Holder F) (Holder F)) t.lost = .ok t.lost t.lost := rfl
  have still : t.pipe.watching = s.pipe.watching := by rw [kept.pipe]
  rw [disconnectResetRaise, Interruptible.bind_of_ok (disconnect_lost kept.held),
    Interruptible.bind_of_ok looked]
  cases watching : s.pipe.watching with
  | true =>
    have watches : t.lost.pipe.watching = true := still.trans watching
    have abandons := undisturbed.abandons watching e t failed supported
    rw [if_pos watches]
    exact meets_anchored_throw config env abandons _ t.lost rfl
  | false =>
    have quiet : t.lost.pipe.watching = false := still.trans watching
    have ready : (t.lost.pipe.watching && t.lost.pipe.connection.isSome) = false := by
      rw [quiet]
      rfl
    have abandons : t.lost.Abandons config env := by
      intro f v raised
      rw [reset_quiet config env ready] at raised
      cases raised
    rw [if_neg (by rw [quiet]; exact Bool.false_ne_true)]
    cases retries : config.retriesOn e with
    | true =>
      refine ⟨undisturbed.final watching e t failed ⟨supported, retries⟩, fun _ => ?_, ?_⟩
      · obtain ⟨conn, connection⟩ := Option.isSome_iff_exists.mp kept.held
        show (t.pipe.connection.map fun _ => Connection.closed).isSome = true
        rw [connection]
        rfl
      · intro session here
        obtain ⟨conn, connection⟩ := Option.isSome_iff_exists.mp kept.held
        have none : t.lost.pipe.connection.bind (·.sock) = none := by
          show (t.pipe.connection.map fun _ => Connection.closed).bind (·.sock) = none
          rw [connection]
          rfl
        cases none.symm.trans here
    | false => exact meets_anchored_throw config env abandons e t.lost rfl

/-- A command that is executed at once on a connection that has watched leaves the pipeline
anchored. -/
theorem Undisturbed.immediate {s : Holder F} {command : Command F}
    (undisturbed : Undisturbed config env command s) (anchored : s.pipe.Anchored)
    (held : s.pipe.connection.isSome = true) :
    (stateAfter (immediateExecuteCommand config env command s)).pipe.Anchored := by
  have holds : Meets (· = s) (holdConnection config env) (fun _ => (· = s))
      fun (_ : Exc) t => t.pipe.Anchored := by
    intro t same
    obtain ⟨conn, connection⟩ := Option.isSome_iff_exists.mp held
    rw [same]
    unfold holdConnection
    rw [connection]
  have attempted : Meets (· = s) (Holder.exchange config env command) (fun _ t => t.pipe.Anchored)
      fun e t => Holder.exchange config env command s = .error e t ∧ Kept s t := by
    intro t same
    have one := Undisturbed.exchange config env command undisturbed.steady anchored held s rfl
    rw [same]
    cases ran : Holder.exchange config env command s with
    | ok value u =>
      rw [ran] at one
      exact one
    | error e u =>
      rw [ran] at one
      exact ⟨rfl, one⟩
  have looped : Meets (· = s) (immediateExecuteCommand config env command)
      (fun _ t => t.pipe.Anchored) fun _ t => t.pipe.Anchored := by
    apply holds.bind
    intro _
    apply config.retry.meets_callWithRetry_last 0 attempted
    · rintro e supported t ⟨failed, kept⟩
      exact undisturbed.handler config env failed kept supported t rfl
    · rintro e t _ ⟨_, kept⟩
      exact kept.anchored anchored
  exact looped.stateAfter rfl

/-- A command that is executed at once leaves the pipeline anchored. -/
theorem meets_anchored_immediate {s : Holder F} {command : Command F} (anchored : s.pipe.Anchored)
    (undisturbed : s.pipe.watchedOn ≠ [] → Undisturbed config env command s) :
    Meets (· = s) (do let _ ← immediateExecuteCommand config env command)
      (fun _ t => t.pipe.Anchored) fun _ t => t.pipe.Anchored := by
  have executed : Meets (· = s) (immediateExecuteCommand config env command)
      (fun _ t => t.pipe.Anchored) fun _ t => t.pipe.Anchored := by
    by_cases fresh : s.pipe.watchedOn = []
    · exact (meets_immediate_fresh config env command).from_state ⟨.inl fresh, anchored.held⟩
    · intro t same
      rw [same]
      have ends := (undisturbed fresh).immediate config env anchored (anchored.held (.inr fresh))
      cases ran : immediateExecuteCommand config env command s with
      | ok value u =>
        rw [ran] at ends
        exact ends
      | error e u =>
        rw [ran] at ends
        exact ends
  exact executed.bind fun _ => meets_pure fun _ => id

/-- `execute_command` leaves the pipeline anchored. -/
theorem meets_anchored_executeCommand {s : Holder F} {command : Command F} (anchored : s.pipe.Anchored)
    (undisturbed : s.pipe.watchedOn ≠ [] →
      ((s.pipe.watching || command.name = "WATCH".toList) && !s.pipe.explicitTransaction) = true →
        Undisturbed config env command s) :
    Meets (· = s) (executeCommand config env command) (fun _ t => t.pipe.Anchored)
      fun _ t => t.pipe.Anchored := by
  apply meets_get
  intro t same
  rw [same]
  apply meets_ite
  · intro immediate
    exact meets_anchored_immediate config env anchored fun watched => undisturbed watched immediate
  · intro _
    apply meets_modify
    intro u here
    rw [here]
    exact ⟨anchored.held, anchored.here⟩

/-- `execute` leaves the pipeline anchored. -/
theorem anchored_execute [PyFloat F] {s : Holder F} {raiseOnError : Bool} (anchored : s.pipe.Anchored)
    (executes : s.Executes config env raiseOnError) :
    (stateAfter (execute config env raiseOnError s)).pipe.Anchored := by
  have looked : (get : EStateM Exc (Holder F) (Holder F)) s = .ok s s := rfl
  rw [execute, Interruptible.bind_of_ok looked]
  cases idle : s.pipe.commandStack.isEmpty && !s.pipe.watching with
  | true => exact anchored
  | false =>
    rw [if_neg Bool.false_ne_true]
    have allowed := executes idle
    have watched := loadRegistered_watched config env (s := s) ⟨.inr rfl, anchored.held⟩
    cases loaded : loadRegistered config env s with
    | error e t =>
      rw [loaded] at allowed watched
      have ran : whenever (!s.pipe.scripts.isEmpty) (loadScripts config env) s = .error e t := loaded
      rw [Interruptible.bind_of_error ran]
      refine ⟨watched.2, fun session here one member => ?_⟩
      have here' : t.socket = some session := here
      rcases allowed.2 with none | none | same
      · rw [show (stateAfter (.error e t : EStateM.Result Exc (Holder F) (List (PyVal F)))) = t from rfl,
          none] at member
        cases member
      · cases none.symm.trans here'
      · rcases watched.1 with none | kept
        · have nothing : t.pipe.watchedOn = [] := none
          have among : one ∈ t.pipe.watchedOn := member
          rw [nothing] at among
          cases among
        · have among : one ∈ t.pipe.watchedOn := member
          have all : t.pipe.watchedOn = s.pipe.watchedOn := kept
          rw [all] at among
          exact anchored.here session (same.symm.trans here') one among
    | ok u t =>
      rw [loaded] at allowed watched
      have ran : whenever (!s.pipe.scripts.isEmpty) (loadScripts config env) s = .ok () t := loaded
      rw [Interruptible.bind_of_ok ran, executeStack]
      have seen (v : Holder F) : (get : EStateM Exc (Holder F) (Holder F)) v = .ok v v := rfl
      rcases holdConnection_cases config env t with ⟨v, held⟩ | ⟨e, v, held, none, pipe⟩
      · rw [Interruptible.bind_of_ok held, Interruptible.bind_of_ok (seen v), stateAfter_ensure]
        exact anchored_reset config env (allowed.2 v held)
      · rw [Interruptible.bind_of_error held]
        have nothing : t.pipe.watching = true ∨ t.pipe.watchedOn ≠ [] → False := by
          intro some
          have connected : t.pipe.connection.isSome = true := watched.2 some
          rw [none] at connected
          cases connected
        show v.pipe.Anchored
        rw [pipe]
        refine ⟨fun some => (nothing some).elim, fun session here => ?_⟩
        rw [none] at here
        cases here

end Holder

section Steps

variable [PyFloat F] {config : ClientConfig F}

/-- An allowed call leaves its pipeline anchored. -/
theorem PipeCall.anchored {env : Env F} {s : Holder F} {call : PipeCall F} (anchored : s.pipe.Anchored)
    (allowed : call.Allowed config env s) : (stateAfter (call.run config env s)).pipe.Anchored := by
  have unchanged : Meets (· = s) (throw { cls := .redisError } : EStateM Exc (Holder F) Unit)
      (fun _ t => t.pipe.Anchored) fun _ t => t.pipe.Anchored :=
    meets_throw fun t same => by
      rw [same]
      exact anchored
  cases call with
  | executeCommand command =>
    exact (Holder.meets_anchored_executeCommand config env anchored allowed).stateAfter rfl
  | watch names =>
    have watches : Meets (· = s) (Holder.watch config env names) (fun _ t => t.pipe.Anchored)
        fun _ t => t.pipe.Anchored := by
      apply meets_get
      intro t same
      rw [same]
      apply meets_ite
      · intro _
        exact unchanged
      · intro implicit
        apply Holder.meets_anchored_executeCommand config env anchored
        intro watched _
        exact allowed watched (by simpa using implicit)
    exact watches.stateAfter rfl
  | unwatch =>
    have unwatches : Meets (· = s) (Holder.unwatch config env) (fun _ t => t.pipe.Anchored)
        fun _ t => t.pipe.Anchored := by
      apply meets_get
      intro t same
      rw [same]
      apply meets_whenever
      · intro watching
        apply Holder.meets_anchored_executeCommand config env anchored
        intro watched immediate
        apply allowed watched
        rw [watching] at immediate ⊢
        simpa using immediate
      · intro _ u here
        rw [here]
        exact anchored
    exact unwatches.stateAfter rfl
  | multi =>
    have begins : Meets (· = s) Holder.multi (fun _ t => t.pipe.Anchored)
        fun _ t => t.pipe.Anchored := by
      apply meets_get
      intro t same
      rw [same]
      apply meets_ite
      · intro _
        exact unchanged
      · intro _
        apply meets_modify
        intro u here
        rw [here]
        exact ⟨anchored.held, anchored.here⟩
    exact begins.stateAfter rfl
  | addScript script => exact ⟨anchored.held, anchored.here⟩
  | execute raiseOnError =>
    have kept := Holder.anchored_execute config env anchored allowed
    show (stateAfter ((Holder.execute config env raiseOnError >>= fun _ => pure ()) s)).pipe.Anchored
    cases ran : Holder.execute config env raiseOnError s with
    | ok value t =>
      rw [ran] at kept
      rw [Interruptible.bind_of_ok ran]
      exact kept
    | error e t =>
      rw [ran] at kept
      rw [Interruptible.bind_of_error ran]
      exact kept
  | reset => exact Holder.anchored_reset config env allowed

/-- All pipelines are anchored. -/
def Clients.Anchored (s : Clients F) : Prop := ∀ index, (s.pipes index).Anchored

omit [PyFloat F] in
/-- A pipeline that is anchored takes the place of another. -/
theorem Clients.Anchored.store {s : Clients F} (anchored : s.Anchored) {index : Nat} {holder : Holder F}
    (kept : holder.pipe.Anchored) : (s.store index holder).Anchored := by
  intro other
  unfold Clients.store
  by_cases same : other = index
  · simp only [if_pos same]
    exact kept
  · simp only [if_neg same]
    exact anchored other

/-- An allowed step leaves all pipelines anchored. -/
theorem Clients.Anchored.step {s : Clients F} (anchored : s.Anchored) {a : Call F × Env F}
    (allowed : s.Allowed config a) : (s.step config a).Anchored := by
  obtain ⟨call, env⟩ := a
  cases call with
  | executeCommand command => exact anchored
  | disconnectPool =>
    intro index
    refine ⟨fun some => ?_, fun session here => ?_⟩
    · have held := (anchored index).held some
      rw [← held]
      exact Option.isSome_map
    · have gone : ((s.pipes index).connection.map fun _ => Connection.closed).bind (·.sock) = some session :=
        here
      cases connection : (s.pipes index).connection with
      | none =>
        rw [connection] at gone
        cases gone
      | some conn =>
        rw [connection] at gone
        cases gone
  | newPipeline index transaction =>
    unfold Clients.step
    by_cases free : (s.pipes index).connection.isNone = true
    · simp only [if_pos free]
      apply anchored.store
      refine ⟨fun some => ?_, fun session here => ?_⟩
      · rcases some with watching | other
        · cases watching
        · exact absurd rfl other
      · cases here
    · simp only [if_neg free]
      exact anchored
  | pipeline index call => exact anchored.store (PipeCall.anchored (anchored index) allowed)

end Steps

section Scenario

/-- A connection that nobody disconnects and whose health is not checked keeps its socket. -/
theorem Link.steady_of_quiet {config : ConnectionConfig} {env : Env F} {s : Link} {session : Nat}
    (connected : s.conn.sock = some session) (alone : env.stolen s.net.clock = false)
    (well : config.healthChecks = false) : s.Steady config env := by
  have interfered : interfere env s = .ok () s.tick := by
    show EStateM.Result.ok () (if env.stolen s.net.clock = true then s.tick.closed else s.tick) = _
    rw [alone]
    rfl
  have looked : (get : EStateM Exc Link Link) s.tick = .ok s.tick s.tick := rfl
  have here : s.tick.conn.sock = some session := connected
  have opened : connectIfClosed (connectCheckHealth config env env.depth false) s.tick =
      .ok () s.tick := by
    rw [connectIfClosed, Interruptible.bind_of_ok looked, here]
    rfl
  have checked : checkHealth config env (connectCheckHealth config env env.depth false) s.tick =
      .ok () s.tick := by
    rw [checkHealth, Interruptible.bind_of_ok looked, well]
    rfl
  unfold Link.Steady getReady
  rw [Interruptible.bind_of_ok interfered, Interruptible.bind_of_ok opened, checked]
  rfl

/-- Every command is answered `OK`, and a transaction of one command is executed. -/
def acceptingEnv : Env Empty :=
  quietEnv fun words _ =>
    if words = ["EXEC".toList] then .ok (.list [.bool true]) else .ok (.bytes (ascii "OK"))

/-- A transaction on a key that is watched; in between the pool may be disconnected. -/
def watchedSet (between : List (Call Empty × Env Empty)) : List (Call Empty × Env Empty) :=
  (.pipeline 0 (.watch ["a".toList]), acceptingEnv) :: between ++
    [(.pipeline 0 .multi, acceptingEnv),
     (.pipeline 0 (.executeCommand (.plain "SET" ["a".toList, "1".toList])), acceptingEnv),
     (.pipeline 0 (.execute true), acceptingEnv)]

end Scenario

end RedisPy

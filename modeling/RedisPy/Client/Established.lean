import RedisPy.Client.Handshake
import RedisPy.Client.Conduct

/-!
# The handshake is all or nothing

Commands of a user are written only on sessions on which every configured part of the handshake
came to its end, and `connect` leaves a disconnected connection when it raises. Both need that
nothing but a `RedisError` leaves the handshake while the connection is open, and nothing at all a
connect callback: the client disconnects in the first case only.
-/

namespace RedisPy

open Contract

variable {F : Type}

/-- A `ResponseError` is a `RedisError`. -/
theorem Exc.isinstance_redisError {e : Exc} (refused : e.isinstance .responseError = true) :
    e.isinstance .redisError = true := by
  obtain ⟨cls, args, redirect⟩ := e
  simp only [Exc.isinstance] at refused ⊢
  induction cls with
  | user name base ih =>
    simp only [ExcClass.issubclass, ExcClass.ancestors, List.contains_cons] at refused ih ⊢
    simpa using ih (by simpa using refused)
  | _ => revert refused; decide

namespace Channel

/-! ## What holds during a handshake -/

section Amid

variable (config : HandshakeConfig F)

/-- Commands of a user were written on complete sessions only. -/
def Served (s : Channel) : Prop := ∀ session ∈ s.commands, s.Complete config session

/-- The open session is complete; or its handshake is going on, of which some parts are done. -/
def Amid (handshake : Option (Nat × List HandshakeStep)) (s : Channel) : Prop :=
  s.Served config ∧ ∀ session, s.sock = some session → s.Complete config session ∨
    ∃ done, handshake = some (session, done) ∧ ∀ step ∈ done, (session, step) ∈ s.completed

/-- A session that is open is complete. -/
def Settled (s : Channel) : Prop := s.Amid config none

/-- What the handshake may raise. -/
def Cleaned (e : Exc) (s : Channel) : Prop := e.isinstance .redisError = true ∨ s.sock = none

/-- What a connect callback may raise. -/
def Disconnected (_ : Exc) (s : Channel) : Prop := s.sock = none

/-- The program keeps what holds during a handshake, and raises only what it may. -/
def Upholds {α : Type} (E : Exc → Channel → Prop) (handshake : Option (Nat × List HandshakeStep))
    (program : EStateM Exc Channel α) : Prop :=
  Meets (Amid config handshake) program (fun _ => Amid config handshake)
    fun e s => s.Amid config handshake ∧ E e s

/-- Connecting where there is no socket settles the connection, or leaves it disconnected. -/
def Reconnects (program : EStateM Exc Channel Unit) : Prop :=
  Meets (fun s => s.Served config ∧ s.sock = none) program (fun _ => Settled config)
    fun _ s => s.Served config ∧ s.sock = none

end Amid

section Rules

variable {config : HandshakeConfig F} {handshake : Option (Nat × List HandshakeStep)}
variable {E : Exc → Channel → Prop}

/-- Without a socket no handshake is going on. -/
theorem amid_of_closed {s : Channel} (served : s.Served config) (closed : s.sock = none) :
    s.Amid config handshake :=
  ⟨served, fun session opened => absurd (closed.symm.trans opened) (by simp)⟩

/-- A settled connection is in no worse state than during a handshake. -/
theorem Settled.amid {s : Channel} (settled : s.Settled config) : s.Amid config handshake := by
  refine ⟨settled.1, fun session opened => ?_⟩
  rcases settled.2 session opened with complete | ⟨done, known, -⟩
  · exact .inl complete
  · cases known

/-- Recording neither opens nor closes anything. -/
@[simp]
theorem record_sock (step : HandshakeStep) (began s : Channel) :
    (record step began s).sock = s.sock := by
  unfold record
  cases opened : s.sock with
  | none => simp [opened]
  | some session => by_cases same : began.sock = some session <;> simp [same, opened]

/-- Recording writes nothing. -/
@[simp]
theorem record_commands (step : HandshakeStep) (began s : Channel) :
    (record step began s).commands = s.commands := by
  unfold record
  cases opened : s.sock with
  | none => rfl
  | some session => by_cases same : began.sock = some session <;> simp [same]

/-- What was recorded stays. -/
theorem mem_record {step : HandshakeStep} {began s : Channel} {entry : Nat × HandshakeStep}
    (member : entry ∈ s.completed) : entry ∈ (record step began s).completed := by
  unfold record
  cases opened : s.sock with
  | none => exact member
  | some session =>
    by_cases same : began.sock = some session
    · simp only [if_pos same]
      exact List.mem_cons_of_mem _ member
    · simp only [if_neg same]
      exact member

/-- What came to its end on the session on which it began is recorded. -/
theorem mem_record_self {step : HandshakeStep} {began s : Channel} {session : Nat}
    (began_on : began.sock = some session) (ended : s.sock = some session) :
    (session, step) ∈ (record step began s).completed := by
  unfold record
  simp only [ended, if_pos began_on]
  exact List.mem_cons_self ..

/-- What is complete stays complete. -/
theorem Complete.record {s : Channel} {session : Nat} (complete : s.Complete config session)
    (step : HandshakeStep) (began : Channel) :
    (record step began s).Complete config session :=
  fun part configured => mem_record (complete part configured)

/-- Recording a part of a handshake does no harm. -/
theorem Amid.record {s : Channel} (amid : s.Amid config handshake) (step : HandshakeStep)
    (began : Channel) : (record step began s).Amid config handshake := by
  refine ⟨fun other member => ?_, fun other found => ?_⟩
  · rw [record_commands] at member
    exact (amid.1 other member).record step began
  · rw [record_sock] at found
    rcases amid.2 other found with complete | ⟨done, known, all⟩
    · exact .inl (complete.record step began)
    · exact .inr ⟨done, known, fun part member => mem_record (all part member)⟩

/-- One program after another. -/
theorem Upholds.bind {α β : Type} {program : EStateM Exc Channel α}
    {next : α → EStateM Exc Channel β} (first : Upholds config E handshake program)
    (second : ∀ value, Upholds config E handshake (next value)) :
    Upholds config E handshake (program >>= next) := Meets.bind first second

/-- Returning. -/
theorem upholds_pure {α : Type} (value : α) :
    Upholds config E handshake (pure value : EStateM Exc Channel α) := fun _ => id

/-- Raising what may be raised. -/
theorem upholds_throw {α : Type} {e : Exc} (may : ∀ s, E e s) :
    Upholds config E handshake (throw e : EStateM Exc Channel α) := fun s amid => ⟨amid, may s⟩

/-- A step that is not always made. -/
theorem upholds_whenever {condition : Prop} [Decidable condition]
    {program : EStateM Exc Channel Unit} (made : Upholds config E handshake program) :
    Upholds config E handshake (whenever condition program) :=
  meets_whenever (fun _ => made) fun _ _ => id

/-- A step that needs a value. -/
theorem upholds_whenSome {β : Type} {given : Option β} {program : β → EStateM Exc Channel Unit}
    (made : ∀ value, given = some value → Upholds config E handshake (program value)) :
    Upholds config E handshake (whenSome given program) := by
  cases given with
  | none => exact upholds_pure ()
  | some value => exact made value rfl

/-- Errors that are passed over. -/
theorem Upholds.forgive {program : EStateM Exc Channel Unit}
    (upholds : Upholds config E handshake program) :
    Upholds config E handshake (forgive program) := by
  refine Meets.recover upholds fun e => ?_
  refine meets_ite (fun _ => ?_) fun _ => ?_
  · exact meets_pure fun s => And.left
  · exact meets_throw fun s => id

/-- A weaker promise about what is raised. -/
theorem Upholds.raising {α : Type} {program : EStateM Exc Channel α}
    (upholds : Upholds config E handshake program) {E' : Exc → Channel → Prop}
    (may : ∀ e s, E e s → E' e s) : Upholds config E' handshake program :=
  upholds.weaken (fun _ => id) (fun _ _ => id) fun e s both => ⟨both.1, may e s both.2⟩

/-- What holds during a handshake is kept. -/
theorem Upholds.keeps {α : Type} {program : EStateM Exc Channel α}
    (upholds : Upholds config E handshake program) : Keeps (Amid config handshake) program :=
  upholds.weaken (fun _ => id) (fun _ _ => id) fun _ _ => And.left

/-- A part of the handshake, seen from any other. -/
theorem Upholds.attempt {program : EStateM Exc Channel Unit} (step : HandshakeStep)
    (upholds : Upholds config E handshake program) :
    Upholds config E handshake (attempt step program) := by
  refine meets_get fun began start => ?_
  refine (upholds.from_state start).bind fun _ => meets_modify fun t amid => ?_
  exact amid.record step began

/-- Connecting if there is no socket. -/
theorem Reconnects.upholds {program : EStateM Exc Channel Unit}
    (reconnects : Reconnects config program) :
    Upholds config Disconnected handshake (connectIfClosed program) := by
  refine meets_get fun s amid => meets_whenever (fun closed => ?_) fun _ t same => ?_
  · refine (reconnects.from_state ⟨amid.1, closed⟩).weaken (fun _ => id) ?_ ?_
    · exact fun _ t settled => settled.amid
    · exact fun e t failed => ⟨amid_of_closed failed.1 failed.2, failed.2⟩
  · exact same ▸ amid

/-- A handshake that is not over, with the parts done so far, of the session that is open. -/
theorem Amid.sock_of_not_settled {s : Channel} {session : Nat} {done : List HandshakeStep}
    (amid : s.Amid config (some (session, done))) (going : ¬ s.Settled config) :
    s.sock = some session := by
  cases opened : s.sock with
  | none => exact absurd (amid_of_closed amid.1 opened) going
  | some other =>
    rcases amid.2 other opened with complete | ⟨parts, known, -⟩
    · refine absurd ⟨amid.1, fun found again => ?_⟩ going
      cases opened.symm.trans again
      exact .inl complete
    · cases known
      rfl

/-- A part of the handshake of a session that came to its end is done. -/
theorem meets_attempt {program : EStateM Exc Channel Unit}
    (upholds : ∀ handshake, Upholds config E handshake program) (step : HandshakeStep)
    (session : Nat) (done : List HandshakeStep) :
    Meets (Amid config (some (session, done))) (Channel.attempt step program)
      (fun _ => Amid config (some (session, step :: done)))
      fun e s => s.Amid config (some (session, done)) ∧ E e s := by
  refine meets_get fun began start => ?_
  by_cases settled : began.Settled config
  · -- another session took over, with a complete handshake of its own
    refine (((upholds none).from_state settled).bind (S := fun _ => Settled config) fun _ =>
      meets_modify fun t after => after.record step began).weaken (fun _ => id) ?_ ?_
    · exact fun _ t after => Settled.amid after
    · exact fun e t failed => ⟨Settled.amid failed.1, failed.2⟩
  · refine ((upholds (some (session, done))).from_state start).bind fun _ =>
      meets_modify fun t after => ?_
    have going := start.sock_of_not_settled settled
    refine ⟨(after.record step began).1, fun other found => ?_⟩
    rcases (after.record step began).2 other found with complete | ⟨parts, known, all⟩
    · exact .inl complete
    · cases known
      refine .inr ⟨_, rfl, List.forall_mem_cons.mpr ⟨?_, all⟩⟩
      rw [record_sock] at found
      exact mem_record_self going found

end Rules

/-! ## What the calls of a connection uphold -/

section Calls

variable {config : HandshakeConfig F} {env : HandshakeEnv F}
variable {handshake : Option (Nat × List HandshakeStep)}

/-- Being stolen does no harm. -/
theorem upholds_interfere {E : Exc → Channel → Prop} :
    Upholds config E handshake (interfere env) := by
  refine meets_modify fun s amid => ?_
  by_cases stolen : env.stolen s.clock = true
  · rw [if_pos stolen]
    exact amid_of_closed amid.1 rfl
  · rw [if_neg stolen]
    exact amid

/-- Disconnecting succeeds, whatever it raises. -/
theorem meets_disconnect :
    Meets (fun s => s.Served config) (disconnect config env)
      (fun _ s => s.Served config ∧ s.sock = none) fun _ s => s.Served config ∧ s.sock = none := by
  intro s served
  unfold disconnect
  cases (if config.asyncio && s.sock.isSome then env.close s.clock else none) with
  | none => exact ⟨served, rfl⟩
  | some e => exact ⟨served, rfl⟩

/-- Disconnecting during a handshake. -/
theorem upholds_disconnect :
    Upholds config Disconnected handshake (disconnect config env) :=
  meets_disconnect.weaken (fun _ => And.left) (fun _ _ both => amid_of_closed both.1 both.2)
    fun _ _ both => ⟨amid_of_closed both.1 both.2, both.2⟩

/-- Writing disconnects if it fails; a command of a user needs a settled connection. -/
theorem upholds_transmit (command : Words) (user : Bool) (ready : user = true → handshake = none) :
    Upholds config Disconnected handshake (transmit env command user) := by
  intro s amid
  unfold transmit
  cases opened : s.sock with
  | none => exact ⟨amid_of_closed amid.1 rfl, rfl⟩
  | some session =>
    have served : ∀ other ∈ (if user then session :: s.commands else s.commands),
        s.Complete config other := by
      cases user with
      | false => exact amid.1
      | true =>
        refine List.forall_mem_cons.mpr ⟨?_, amid.1⟩
        rcases amid.2 session opened with complete | ⟨done, known, -⟩
        · exact complete
        · exact absurd (known.symm.trans (ready rfl)) (by simp)
    simp only
    cases env.write command s.clock with
    | none => exact ⟨served, amid.2⟩
    | some e => exact ⟨amid_of_closed served rfl, rfl⟩

/-- Reading disconnects if it fails, and an error reply is a `RedisError`. -/
theorem upholds_readResponse :
    Upholds config Cleaned handshake (readResponse config env : EStateM Exc Channel (PyVal F)) := by
  intro s amid
  unfold readResponse
  cases opened : s.sock with
  | none => exact ⟨amid_of_closed amid.1 rfl, .inr rfl⟩
  | some session =>
    simp only
    cases env.reply s.latest s.clock with
    | error e => exact ⟨amid_of_closed amid.1 rfl, .inr rfl⟩
    | ok response =>
      cases response with
      | exc e =>
        by_cases refused : e.isinstance .responseError = true
        · simp only [if_pos refused]
          exact ⟨amid, .inl (Exc.isinstance_redisError refused)⟩
        · simp only [if_neg refused]
          exact amid
      | _ => exact amid

/-- What is raised while disconnected is cleaned up after. -/
theorem Upholds.cleaned {α : Type} {program : EStateM Exc Channel α}
    (upholds : Upholds config Disconnected handshake program) :
    Upholds config Cleaned handshake program := upholds.raising fun _ _ => .inr

/-- A `RedisError` is cleaned up after. -/
theorem upholds_raise {α : Type} {e : Exc} (redis : e.isinstance .redisError = true) :
    Upholds config Cleaned handshake (throw e : EStateM Exc Channel α) :=
  upholds_throw fun _ => .inl redis

/-- A reply that must be a certain text. -/
theorem upholds_expect {response : PyVal F} {text : String} {cls : ExcClass}
    (redis : Exc.isinstance { cls } .redisError = true) :
    Upholds config Cleaned handshake (whenever (response.isText text = false)
      (throw { cls } : EStateM Exc Channel Unit)) :=
  upholds_whenever (upholds_raise redis)

/-- Nothing is promised. -/
theorem meets_anything {α : Type} (program : EStateM Exc Channel α) :
    Meets (fun _ => True) program (fun _ _ => True) fun _ _ => True := by
  intro s _
  cases program s <;> exact trivial

/-- The command that was written is the latest. -/
theorem meets_transmit_latest (command : Words) (user : Bool) :
    Meets (fun _ => True) (transmit env command user) (fun _ s => s.latest = command)
      fun _ _ => True := by
  intro s _
  unfold transmit
  cases s.sock with
  | none => exact trivial
  | some session =>
    simp only
    cases env.write command s.clock <;> trivial

/-- What is read is the reply after the latest command, and no error reply. -/
theorem meets_readResponse_latest (command : Words) :
    Meets (fun s => s.latest = command) (readResponse config env : EStateM Exc Channel (PyVal F))
      (fun response _ => (∃ time, env.reply command time = .ok response) ∧
        ∀ e, response = .exc e → ¬ e.isinstance .responseError = true) fun _ _ => True := by
  intro s latest
  unfold readResponse
  cases s.sock with
  | none => exact trivial
  | some session =>
    simp only [latest]
    cases answered : env.reply command s.clock with
    | error e => exact trivial
    | ok response =>
      cases response with
      | exc e =>
        by_cases refused : e.isinstance .responseError = true
        · simp only [if_pos refused]
        · simp only [if_neg refused]
          exact ⟨⟨_, answered⟩, fun _ same => by cases same; exact refused⟩
      | _ => exact ⟨⟨_, answered⟩, nofun⟩

/-- A command of the handshake and the reply to it. -/
theorem meets_exchange_latest {reconnect : Bool → EStateM Exc Channel Unit} (command : Words)
    (check : Bool) :
    Meets (fun _ => True) (exchange config env reconnect command check)
      (fun response _ => (∃ time, env.reply command time = .ok response) ∧
        ∀ e, response = .exc e → ¬ e.isinstance .responseError = true) fun _ _ => True := by
  have sent : Meets (fun _ => True) (sendCommand config env reconnect command check)
      (fun _ s => s.latest = command) fun _ _ => True :=
    (meets_anything _).bind fun _ => (meets_anything _).bind fun _ => (meets_anything _).bind
      fun _ => (meets_anything _).bind fun _ => meets_transmit_latest command false
  exact sent.bind fun _ => meets_readResponse_latest command

end Calls

/-! ## What the handshake upholds -/

/-- A handshake looks into the reply to this command. -/
def looksAt (config : HandshakeConfig F) (command : Words) : Bool :=
  if config.asyncio then
    command.take 3 == ["HELLO".toList, "3".toList, "AUTH".toList]
  else command == ["HELLO".toList, "3".toList]

/-- Surroundings in which nothing but a `RedisError` leaves a handshake. -/
structure Civil (config : HandshakeConfig F) (env : HandshakeEnv F) : Prop where
  /-- The commands of the handshake can be packed. -/
  packs : ∀ command e, env.pack command = some e → e.isinstance .redisError = true
  /-- The credential provider gives credentials. -/
  credentials : config.authenticates = true →
    ∀ time e, env.credentials time = .error e → e.isinstance .redisError = true
  /-- The reply to `HELLO` is a map or an error. -/
  greets : ∀ command time response, looksAt config command = true →
    env.reply command time = .ok response →
      (∃ items, response = .dict items) ∨ ∃ e, response = .exc e ∧ e.isinstance .responseError = true

/-- The surroundings of a handshake in which connecting again is all or nothing. -/
structure Steady (config : HandshakeConfig F) (env : HandshakeEnv F)
    (reconnect : Bool → EStateM Exc Channel Unit) : Prop where
  /-- Connecting again. -/
  reconnects : ∀ check, Reconnects config (reconnect check)
  /-- Nothing else. -/
  civil : Civil config env

namespace Steady

variable {config : HandshakeConfig F} {env : HandshakeEnv F}
variable {reconnect : Bool → EStateM Exc Channel Unit}
variable {handshake : Option (Nat × List HandshakeStep)}

/-- Packing. -/
theorem pack (steady : Steady config env reconnect) (command : Words) :
    Upholds config Cleaned handshake (pack env command) :=
  upholds_whenSome fun e failed => upholds_raise (steady.civil.packs command e failed)

/-- Connecting if there is no socket. -/
theorem connect (steady : Steady config env reconnect) (check : Bool) :
    Upholds config Cleaned handshake (connectIfClosed (reconnect check)) :=
  (steady.reconnects check).upholds.cleaned

/-- `PING`. -/
theorem sendPing (steady : Steady config env reconnect) :
    Upholds config Cleaned handshake (sendPing config env reconnect) :=
  (steady.pack _).bind fun _ =>
    upholds_interfere.bind fun _ =>
      (steady.connect false).bind fun _ =>
        (upholds_transmit _ false nofun).cleaned.bind fun _ =>
          upholds_readResponse.bind fun _ => upholds_expect (by decide)

/-- A health check. -/
theorem checkHealth (steady : Steady config env reconnect) :
    Upholds config Cleaned handshake (checkHealth config env reconnect) := by
  refine meets_get fun s amid => Meets.from_state ?_ amid
  refine upholds_whenever ?_
  refine config.retry.meets_callWithRetry
    (R := fun t => t.Served config ∧ t.sock = none) steady.sendPing ?_ ?_ ?_ ?_ _ _
  · intro e _
    refine meets_disconnect.weaken (fun _ both => both.1.1) ?_ ?_
    · exact fun _ t both => ⟨both, amid_of_closed both.1 both.2, .inr both.2⟩
    · exact fun _ t both => ⟨amid_of_closed both.1 both.2, .inr both.2⟩
  · exact fun _ _ _ => id
  · exact fun t both => amid_of_closed both.1 both.2
  · exact fun t both => ⟨amid_of_closed both.1 both.2, .inr both.2⟩

/-- Sending. -/
theorem sendPackedCommand (steady : Steady config env reconnect) (command : Words)
    (check user : Bool) (ready : user = true → handshake = none) :
    Upholds config Cleaned handshake (sendPackedCommand config env reconnect command check user) :=
  upholds_interfere.bind fun _ =>
    (steady.connect false).bind fun _ =>
      (upholds_whenever steady.checkHealth).bind fun _ =>
        (upholds_transmit command user ready).cleaned

/-- Sending a command of the handshake. -/
theorem sendCommand (steady : Steady config env reconnect) (command : Words) (check : Bool) :
    Upholds config Cleaned handshake (sendCommand config env reconnect command check) :=
  (steady.pack command).bind fun _ => steady.sendPackedCommand command check false nofun

/-- A command and its reply. -/
theorem exchange (steady : Steady config env reconnect) (command : Words) (check : Bool) :
    Upholds config Cleaned handshake (exchange config env reconnect command check) :=
  (steady.sendCommand command check).bind fun _ => upholds_readResponse

/-- A command whose reply must be `OK`. -/
theorem exchangeOk (steady : Steady config env reconnect) (command : Words) (check : Bool) :
    Upholds config Cleaned handshake (exchangeOk config env reconnect command check) :=
  (steady.exchange command check).bind fun _ => upholds_expect (by decide)

/-- The optional end of the blocking handshake. -/
theorem introduce (steady : Steady config env reconnect) (check : Bool) :
    Upholds config Cleaned handshake (introduce config env reconnect check) := by
  have info (field : String) (value : Text) : Upholds config Cleaned handshake
      (do let _ ← Channel.exchange config env reconnect (setInfo field value) check) :=
    (steady.exchange _ check).bind fun _ => upholds_pure ()
  refine (upholds_whenSome fun name _ => (info "LIB-NAME" name).forgive).bind fun _ =>
    (upholds_whenSome fun version _ => (info "LIB-VER" version).forgive).bind fun _ => ?_
  exact upholds_whenever ((steady.exchangeOk _ check).attempt .database)

/-- The end of the asyncio handshake. -/
theorem pipelined (steady : Steady config env reconnect) (check : Bool) :
    Upholds config Cleaned handshake (pipelined config env reconnect check) := by
  have info : Upholds config Cleaned handshake (readInfo config env) :=
    (upholds_readResponse.bind fun _ => upholds_pure ()).forgive
  have selected : Upholds config Cleaned handshake (readSelected config env) :=
    upholds_readResponse.bind fun _ => upholds_expect (by decide)
  exact (upholds_whenSome fun _ _ => steady.sendCommand _ check).bind fun _ =>
    (upholds_whenSome fun _ _ => steady.sendCommand _ check).bind fun _ =>
      (upholds_whenever (steady.sendCommand _ check)).bind fun _ =>
        (upholds_whenSome fun _ _ => info).bind fun _ =>
          (upholds_whenSome fun _ _ => info).bind fun _ => upholds_whenever selected

/-- `AUTH`. -/
theorem auth (steady : Steady config env reconnect) (args : List Text) :
    Upholds config Cleaned handshake (auth config env reconnect args) := by
  refine (steady.sendCommand _ false).bind fun _ => ?_
  refine Meets.bind (Q := fun _ => Amid config handshake) ?_ fun _ => upholds_expect (by decide)
  refine Meets.recover upholds_readResponse fun e => ?_
  refine meets_ite (fun _ => ?_) fun _ => meets_throw fun s => id
  exact (steady.exchange _ false).assuming fun s => And.left

/-- `HELLO`. -/
theorem hello (steady : Steady config env reconnect) (command : Words) (check looks : Bool)
    (seen : looks = true → looksAt config command = true) :
    Upholds config Cleaned handshake (hello config env reconnect command check looks) := by
  have kept : Upholds config Cleaned handshake
      (Channel.exchange config env reconnect command check) :=
    steady.exchange command check
  have answered := (kept.and (meets_exchange_latest command check)).weaken
    (fun s amid => ⟨amid, trivial⟩) (fun _ _ => id) fun _ _ both => both.1
  refine answered.bind fun response => ?_
  refine meets_whenever (fun looked => ?_) fun _ s both => both.1
  rintro s ⟨amid, ⟨time, reply⟩, accepted⟩
  rcases steady.civil.greets command time response (seen looked) reply with
    ⟨items, rfl⟩ | ⟨e, same, refused⟩
  · simp only [PyVal.isProtocol3]
    cases items.any fun item => item.1.isText "proto" && item.2.asInt == some 3 with
    | true => exact amid
    | false => exact ⟨amid, .inl (by decide)⟩
  · exact absurd refused (accepted e same)

/-- Authenticating and choosing the protocol. -/
theorem greet (steady : Steady config env reconnect) (args : List Text) (check : Bool) :
    Upholds config Cleaned handshake (greet config env reconnect args check) := by
  refine meets_ite (fun _ => ?_) fun _ => meets_ite (fun _ => steady.auth args) fun _ =>
    meets_ite (fun _ => ?_) fun _ => upholds_pure ()
  · refine steady.hello _ _ _ fun asyncio => ?_
    unfold looksAt
    rw [if_pos asyncio]
    exact beq_self_eq_true ["HELLO".toList, "3".toList, "AUTH".toList]
  · refine steady.hello _ _ _ fun blocking => ?_
    have known : ¬config.asyncio = true := by
      rw [Bool.not_eq_true]
      simpa using blocking
    unfold looksAt
    rw [if_neg known]
    exact beq_self_eq_true ["HELLO".toList, "3".toList]

/-- The credentials. -/
theorem authArgs (steady : Steady config env reconnect) :
    Upholds config Cleaned handshake (authArgs config env) := by
  intro s amid
  unfold Channel.authArgs
  by_cases authenticates : config.authenticates = true
  · rw [if_pos authenticates]
    cases given : env.credentials s.clock with
    | ok args => exact amid
    | error e => exact ⟨amid, .inl (steady.civil.credentials authenticates _ e given)⟩
  · rw [if_neg authenticates]
    exact amid

/-- The first part of the handshake. -/
theorem greeting (steady : Steady config env reconnect) (check : Bool) :
    Upholds config Cleaned handshake (do
      let args ← Channel.authArgs config env
      Channel.greet config env reconnect args check) :=
  steady.authArgs.bind fun args => steady.greet args check

/-- The default handshake, seen from any other. -/
theorem onConnect (steady : Steady config env reconnect) (check : Bool) :
    Upholds config Cleaned handshake (onConnectCheckHealth config env reconnect check) := by
  refine ((steady.greeting check).attempt .greeting).bind fun _ =>
    (upholds_whenSome fun name _ => (steady.exchangeOk _ check).attempt .clientName).bind
      fun _ => ?_
  refine meets_ite (fun _ => ?_) fun _ => steady.introduce check
  exact meets_ite (fun _ => (steady.pipelined check).attempt .database) fun _ =>
    steady.pipelined check

/-- Code of a user keeps what holds during a handshake. -/
theorem run (steady : Steady config env reconnect) (code : UserCode F) :
    Upholds config (fun _ _ => True) handshake (run config env reconnect code) := by
  induction code with
  | done => exact upholds_pure ()
  | fail e => exact upholds_throw fun _ => trivial
  | call called next ih =>
    have served : Upholds config (fun _ _ => True) handshake
        (serve config env reconnect called) := by
      cases called with
      | sendPackedCommand command check =>
        exact ((steady.sendPackedCommand command check false nofun).raising fun _ _ _ => trivial).bind
          fun _ => upholds_pure _
      | readResponse => exact upholds_readResponse.raising fun _ _ _ => trivial
      | disconnect =>
        exact (upholds_disconnect.raising fun _ _ _ => trivial).bind fun _ => upholds_pure _
      | connect =>
        exact ((steady.connect true).raising fun _ _ _ => trivial).bind fun _ => upholds_pure _
      | onConnect =>
        exact ((steady.onConnect true).raising fun _ _ _ => trivial).bind fun _ => upholds_pure _
    intro s amid
    have ended := served s amid
    unfold Channel.run
    cases answered : serve config env reconnect called s with
    | ok value t =>
      rw [answered] at ended
      exact ih (.ok value) t ended
    | error e t =>
      rw [answered] at ended
      exact ih (.error e) t ended.1

end Steady

/-! ## Connecting is all or nothing -/

/-- Code of a user that raises only what it may, as long as connecting again is all or nothing. -/
def RaisesOnly (config : HandshakeConfig F) (env : HandshakeEnv F) (E : Exc → Channel → Prop)
    (code : UserCode F) : Prop :=
  ∀ reconnect, Steady config env reconnect → ∀ handshake,
    Meets (Amid config handshake) (run config env reconnect code) (fun _ _ => True) E

/-- Surroundings in which the client cleans up after everything that is raised. -/
structure Sound (config : HandshakeConfig F) (env : HandshakeEnv F) : Prop
    extends Civil config env where
  /-- An asyncio connection retries when `_connect` fails with a connected socket. -/
  dials : config.asyncio = true → ∀ time e, env.dial time = .spoiled e →
    e.isinstanceAny config.retry.supportedErrors = true
  /-- `redis_connect_func` raises only `RedisError` while the connection is open. -/
  connectFunc : ∀ code, config.redisConnectFunc = some code → ∀ time,
    RaisesOnly config env Cleaned (code time)
  /-- A connect callback raises only while the connection is closed. -/
  callbacks : ∀ callback ∈ config.connectCallbacks, ∀ time,
    RaisesOnly config env Disconnected (callback time)

/-- The configured parts before the connect callbacks. -/
def opening (config : HandshakeConfig F) : List HandshakeStep :=
  match config.redisConnectFunc with
  | some _ => [.connectFunc]
  | none =>
    .greeting :: ((if config.clientName.isSome then [.clientName] else []) ++
      if config.db ≠ 0 then [.database] else [])

/-- Some connect callbacks, numbered from an index. -/
def numbered (index count : Nat) : List HandshakeStep :=
  (List.range count).map fun offset => .callback (index + offset)

/-- A numbered connect callback. -/
theorem mem_numbered {index count : Nat} {step : HandshakeStep} :
    step ∈ numbered index count ↔ ∃ offset < count, step = .callback (index + offset) := by
  simp only [numbered, List.mem_map, List.mem_range]
  exact exists_congr fun offset => and_congr_right fun _ => eq_comm

section Opening

variable {config : HandshakeConfig F} {env : HandshakeEnv F}
variable {reconnect : Bool → EStateM Exc Channel Unit}
variable {handshake : Option (Nat × List HandshakeStep)}

/-- Fewer parts done. -/
theorem Amid.fewer {s : Channel} {session : Nat} {done fewer : List HandshakeStep}
    (amid : s.Amid config (some (session, done))) (among : ∀ step ∈ fewer, step ∈ done) :
    s.Amid config (some (session, fewer)) := by
  refine ⟨amid.1, fun other opened => ?_⟩
  rcases amid.2 other opened with complete | ⟨parts, known, all⟩
  · exact .inl complete
  · cases known
    exact .inr ⟨fewer, rfl, fun step member => all step (among step member)⟩

/-- A handshake of which all configured parts are done. -/
theorem Amid.settled {s : Channel} {session : Nat} {done : List HandshakeStep}
    (amid : s.Amid config (some (session, done))) (all : ∀ step ∈ config.steps, step ∈ done) :
    s.Settled config := by
  refine ⟨amid.1, fun other opened => .inl ?_⟩
  rcases amid.2 other opened with complete | ⟨parts, known, recorded⟩
  · exact complete
  · cases known
    exact fun step configured => recorded step (all step configured)

/-- Code of a user at the time of its call. -/
theorem Steady.runNow (steady : Steady config env reconnect) (code : Nat → UserCode F)
    {E : Exc → Channel → Prop} (may : ∀ time, RaisesOnly config env E (code time)) :
    Upholds config E handshake (runNow config env reconnect code) := by
  intro s amid
  have runs : Upholds config (fun _ _ => True) handshake (Channel.run config env reconnect _) :=
    steady.run (code s.clock)
  have kept := runs s.tick amid
  have raised := may s.clock reconnect steady handshake s.tick amid
  unfold Channel.runNow
  cases ran : Channel.run config env reconnect (code s.clock) s.tick with
  | ok value t =>
    rw [ran] at kept
    exact kept
  | error e t =>
    rw [ran] at kept raised
    exact ⟨kept.1, raised⟩

/-- `SELECT` is the last part that may be configured. -/
theorem Steady.meets_introduced (steady : Steady config env reconnect) (check : Bool)
    (session : Nat) (done : List HandshakeStep) :
    Meets (Amid config (some (session, done)))
      (if config.asyncio then introduceAsync config env reconnect check
        else Channel.introduce config env reconnect check)
      (fun _ => Amid config
        (some (session, (if config.db ≠ 0 then [.database] else []) ++ done)))
      fun e s => s.Amid config (some (session, done)) ∧ Cleaned e s := by
  by_cases chosen : config.db ≠ 0
  · simp only [if_pos chosen]
    refine meets_ite (fun _ => ?_) fun _ => ?_
    · rw [introduceAsync, if_pos chosen]
      exact meets_attempt (fun _ => steady.pipelined check) .database session done
    · have info (field : String) (value : Text) : Upholds config Cleaned (some (session, done))
          (Channel.forgive do
            let _ ← Channel.exchange config env reconnect (setInfo field value) check) :=
        ((steady.exchange _ check).bind fun _ => upholds_pure ()).forgive
      refine Meets.bind (upholds_whenSome fun name _ => info "LIB-NAME" name) fun _ =>
        Meets.bind (upholds_whenSome fun version _ => info "LIB-VER" version) fun _ => ?_
      rw [whenever, if_pos chosen]
      exact meets_attempt (fun _ => steady.exchangeOk _ check) .database session done
  · simp only [if_neg chosen]
    refine meets_ite (fun _ => ?_) fun _ => steady.introduce check
    rw [introduceAsync, if_neg chosen]
    exact steady.pipelined check

/-- The default handshake does its configured parts. -/
theorem Steady.meets_onConnect (steady : Steady config env reconnect) (check : Bool) (session : Nat)
    (default : config.redisConnectFunc = none) :
    Meets (Amid config (some (session, []))) (onConnectCheckHealth config env reconnect check)
      (fun _ => Amid config (some (session, opening config)))
      fun e s => s.Served config ∧ Cleaned e s := by
  have named : Meets (Amid config (some (session, [.greeting])))
      (setName config env reconnect check)
      (fun _ => Amid config (some (session,
        (if config.clientName.isSome then [.clientName] else []) ++ [.greeting])))
      fun e s => s.Served config ∧ Cleaned e s := by
    unfold setName
    cases config.clientName with
    | none => exact meets_pure fun s => id
    | some name =>
      exact (meets_attempt (fun _ => steady.exchangeOk _ check) .clientName session _).weaken
        (fun _ => id) (fun _ _ => id) fun e t both => ⟨both.1.1, both.2⟩
  refine Meets.bind (Q := fun _ => Amid config (some (session, [.greeting]))) ?_ fun _ =>
    named.bind fun _ => ?_
  · exact (meets_attempt (fun _ => steady.greeting check) .greeting session []).weaken
      (fun _ => id) (fun _ _ => id) fun e t both => ⟨both.1.1, both.2⟩
  · refine (steady.meets_introduced check session _).weaken (fun _ => id) ?_ ?_
    · intro _ t amid
      refine amid.fewer fun step member => ?_
      simp only [opening, default, List.mem_cons, List.mem_append] at member ⊢
      tauto
    · exact fun e t both => ⟨both.1.1, both.2⟩

/-- The handshake or `redis_connect_func` does its configured parts. -/
theorem Steady.meets_prepare (steady : Steady config env reconnect)
    (may : ∀ code, config.redisConnectFunc = some code → ∀ time,
      RaisesOnly config env Cleaned (code time))
    (check : Bool) (session : Nat) :
    Meets (Amid config (some (session, []))) (prepare config env reconnect check)
      (fun _ => Amid config (some (session, opening config)))
      fun e s => s.Served config ∧ Cleaned e s := by
  unfold prepare
  cases given : config.redisConnectFunc with
  | none => exact steady.meets_onConnect check session given
  | some code =>
    refine (meets_attempt (fun _ => steady.runNow code (may code given)) .connectFunc session
      []).weaken (fun _ => id) ?_ ?_
    · intro _ t amid
      refine amid.fewer fun step member => ?_
      simpa only [opening, given] using member
    · exact fun e t both => ⟨both.1.1, both.2⟩

/-- The connect callbacks are called. -/
theorem Steady.meets_notify (steady : Steady config env reconnect) (session : Nat)
    {callbacks : List (Nat → UserCode F)}
    (may : ∀ callback ∈ callbacks, ∀ time, RaisesOnly config env Disconnected (callback time)) :
    ∀ (index : Nat) (done : List HandshakeStep),
      Meets (Amid config (some (session, done))) (notify config env reconnect index callbacks)
        (fun _ => Amid config (some (session, numbered index callbacks.length ++ done)))
        fun _ s => s.Served config ∧ s.sock = none := by
  induction callbacks with
  | nil => exact fun index done => meets_pure fun s => id
  | cons callback callbacks ih =>
    intro index done
    obtain ⟨first, others⟩ := List.forall_mem_cons.mp may
    refine Meets.bind (Q := fun _ => Amid config (some (session, .callback index :: done))) ?_
      fun _ => ?_
    · exact (meets_attempt (fun _ => steady.runNow callback first) _ session done).weaken
        (fun _ => id) (fun _ _ => id) fun e t both => ⟨both.1.1, both.2⟩
    · refine (ih others (index + 1) _).weaken (fun _ => id) (fun _ t amid => ?_) fun _ _ => id
      refine amid.fewer fun step member => ?_
      rcases List.mem_append.mp member with among | before
      · obtain ⟨offset, bound, rfl⟩ := mem_numbered.mp among
        rcases offset with _ | offset
        · exact List.mem_append_right _ (List.mem_cons_self ..)
        · refine List.mem_append_left _ (mem_numbered.mpr ⟨offset, ?_, ?_⟩)
          · simpa using bound
          · rw [Nat.add_assoc, Nat.add_comm 1 offset]
      · exact List.mem_append_right _ (List.mem_cons_of_mem _ before)

/-- Opening a socket, with its retries. -/
theorem Sound.meets_dial (sound : Sound config env) (failures : Nat) :
    Meets (fun s => s.Served config ∧ s.sock = none)
      (config.retry.callWithRetry (dial config env) (fun _ => disconnect config env)
        env.patience failures)
      (fun _ s => s.Served config) fun _ s => s.Served config ∧ s.sock = none := by
  have opened : Meets (fun s => s.Served config ∧ s.sock = none) (dial config env)
      (fun _ s => s.Served config) fun e s => s.Served config ∧
        (s.sock = none ∨ e.isinstanceAny config.retry.supportedErrors = true) := by
    rintro s ⟨served, closed⟩
    unfold dial
    cases dialled : env.dial s.clock with
    | opened => exact served
    | refused e => exact ⟨served, .inl closed⟩
    | spoiled e =>
      cases asyncio : config.asyncio with
      | true => exact ⟨served, .inr (sound.dials asyncio _ e dialled)⟩
      | false => exact ⟨served, .inl closed⟩
  refine config.retry.meets_callWithRetry (R := fun s => s.Served config ∧ s.sock = none) opened
    ?_ ?_ ?_ ?_ _ _
  · exact fun e _ => meets_disconnect.weaken (fun _ => And.left) (fun _ _ both => ⟨both, both⟩)
      fun _ _ => id
  · exact fun e t unsupported both => ⟨both.1, both.2.resolve_right unsupported⟩
  · exact fun t => id
  · exact fun t => id

/-- Opening a session is all or nothing if connecting again is. -/
theorem Sound.openSession (sound : Sound config env) {depth : Nat}
    (reconnects : ∀ check, Reconnects config (connectCheckHealth config env depth check))
    (check : Bool) :
    Reconnects config (openSession config env (connectCheckHealth config env depth) check) := by
  have steady : Steady config env (connectCheckHealth config env depth) :=
    { reconnects, civil := sound.toCivil }
  have dialled : Meets (fun s => s.Served config ∧ s.sock = none)
      (recover (config.retry.callWithRetry (dial config env) (fun _ => disconnect config env)
        env.patience 0) fun e => throw (dialError config e))
      (fun _ s => s.Served config) fun _ s => s.Served config ∧ s.sock = none :=
    (sound.meets_dial 0).recover fun e => meets_throw fun s => id
  have prepared (session : Nat) : Meets (Amid config (some (session, [])))
      (recover (prepare config env (connectCheckHealth config env depth) check) fun e => do
        whenever (e.isinstance .redisError) (disconnect config env)
        throw e)
      (fun _ => Amid config (some (session, opening config)))
      fun _ s => s.Served config ∧ s.sock = none := by
    refine (steady.meets_prepare sound.connectFunc check session).recover fun e => ?_
    refine Meets.bind (Q := fun _ s => s.Served config ∧ s.sock = none) ?_ fun _ =>
      meets_throw fun s => id
    refine meets_whenever (fun _ => meets_disconnect.assuming fun s => And.left) ?_
    exact fun other s both => ⟨both.1, both.2.resolve_left other⟩
  have called (session : Nat) := steady.meets_notify session sound.callbacks 0 (opening config)
  refine dialled.bind fun _ => ?_
  intro s served
  -- the handshake belongs to the session that was opened
  have start : s.Amid config (some (s.sock.getD 0, [])) := by
    refine ⟨served, fun session opened => .inr ⟨[], ?_, nofun⟩⟩
    rw [opened]
    rfl
  refine (((prepared _).bind fun _ => called _).weaken (fun _ => id) (fun _ t amid => ?_)
    fun _ _ => id) s start
  refine amid.settled fun step configured => ?_
  rcases List.mem_append.mp configured with first | callback
  · exact List.mem_append_right _ first
  · refine List.mem_append_left _ (mem_numbered.mpr ?_)
    obtain ⟨index, bound, rfl⟩ := List.mem_map.mp callback
    exact ⟨index, List.mem_range.mp bound, by rw [Nat.zero_add]⟩

/-- Connecting is all or nothing, however deep. -/
theorem Sound.reconnects (sound : Sound config env) (depth : Nat) : ∀ check,
    Reconnects config (connectCheckHealth config env depth check) := by
  have closed {program : EStateM Exc Channel Unit} (opens : Reconnects config program) :
      Reconnects config (connectIfClosed program) := by
    refine meets_get fun s start => meets_whenever (fun _ => opens.from_state start) ?_
    exact fun isOpen => absurd start.2 isOpen
  induction depth with
  | zero => exact fun check => closed (meets_throw fun s => id)
  | succ depth ih => exact fun check => closed (sound.openSession ih check)

/-- Sound surroundings are steady. -/
theorem Sound.steady (sound : Sound config env) (depth : Nat) :
    Steady config env (connectCheckHealth config env depth) where
  reconnects := sound.reconnects depth
  civil := sound.toCivil

/-- Connecting, whether there is a socket or not. -/
theorem Sound.connect (sound : Sound config env) (depth : Nat) (check : Bool) :
    Upholds config Disconnected handshake (connectCheckHealth config env depth check) := by
  cases depth with
  | zero =>
    have never : Reconnects config (throw { cls := .runtimeError }) := meets_throw fun s => id
    exact never.upholds
  | succ depth => exact (sound.openSession (sound.reconnects depth) check).upholds

end Opening

/-! ## The callback of a cache -/

section Tracking

variable {config : HandshakeConfig F} {env : HandshakeEnv F}
variable {reconnect : Bool → EStateM Exc Channel Unit}
variable {handshake : Option (Nat × List HandshakeStep)}

/-- Code that calls the connection and goes on. -/
theorem meets_run_call {P : Channel → Prop} {Q : PyVal F → Channel → Prop}
    {R : Unit → Channel → Prop} {E G : Exc → Channel → Prop} {called : ConnectionCall}
    {next : Except Exc (PyVal F) → UserCode F}
    (calls : Meets P (serve config env reconnect called) Q E)
    (returned : ∀ value, Meets (Q value) (run config env reconnect (next (.ok value))) R G)
    (raised : ∀ e, Meets (E e) (run config env reconnect (next (.error e))) R G) :
    Meets P (run config env reconnect (.call called next)) R G := by
  intro s start
  have ended := calls s start
  unfold run
  cases answered : serve config env reconnect called s with
  | ok value t =>
    rw [answered] at ended
    exact returned value t ended
  | error e t =>
    rw [answered] at ended
    exact raised e t ended

/-- A server that never refuses a command. -/
def Accepted (env : HandshakeEnv F) (command : Words) : Prop :=
  ∀ time e, env.reply command time = .ok (.exc e) → ¬ e.isinstance .responseError = true

/-- Reading the reply to a command that is never refused raises only when disconnected. -/
theorem meets_readResponse_accepted {command : Words} (accepted : Accepted env command) :
    Meets (fun s => s.latest = command) (readResponse config env : EStateM Exc Channel (PyVal F))
      (fun response _ => ∃ time, env.reply command time = .ok response) Disconnected := by
  intro s latest
  unfold readResponse
  cases s.sock with
  | none => exact rfl
  | some session =>
    simp only [latest]
    cases answered : env.reply command s.clock with
    | error e => exact rfl
    | ok response =>
      cases response with
      | exc e =>
        simp only [if_neg (accepted s.clock e answered)]
        exact ⟨_, answered⟩
      | _ => exact ⟨_, answered⟩

/-- A command that was written is the latest, and what is raised is raised when disconnected. -/
theorem meets_transmit_disconnected (command : Words) (user : Bool) :
    Meets (fun _ => True) (transmit env command user) (fun _ s => s.latest = command)
      Disconnected := by
  intro s _
  unfold transmit
  cases s.sock with
  | none => exact rfl
  | some session =>
    simp only
    cases env.write command s.clock with
    | none => exact rfl
    | some e => exact rfl

/-- Where no health checks are configured, none is made. -/
theorem upholds_checkHealth_of_unchecked (unchecked : config.healthChecks = false) :
    Upholds config Disconnected handshake (Channel.checkHealth config env reconnect) := by
  refine meets_get fun s amid => Meets.from_state ?_ amid
  refine meets_whenever (fun due => ?_) fun _ _ => id
  simp [unchecked] at due

/-- The callback of a cache raises only when disconnected if the server never refuses
`CLIENT TRACKING`, where no health checks are configured. -/
theorem raisesOnly_enableTrackingCallback (unchecked : config.healthChecks = false)
    (accepted : Accepted env trackingOn) :
    RaisesOnly config env Disconnected enableTrackingCallback := by
  intro reconnect steady handshake
  have raises {program : EStateM Exc Channel Unit}
      (upholds : Upholds config Disconnected handshake program) :
      Meets (Amid config handshake) program (fun _ => Amid config handshake) Disconnected :=
    upholds.weaken (fun _ => id) (fun _ _ => id) fun _ _ => And.right
  have written : Meets (Amid config handshake)
      (Channel.sendPackedCommand config env reconnect trackingOn true false)
      (fun _ s => s.latest = trackingOn) Disconnected :=
    (raises upholds_interfere).bind fun _ => (raises (steady.reconnects false).upholds).bind
      fun _ => (raises (upholds_whenever (upholds_checkHealth_of_unchecked unchecked))).bind
        fun _ => (meets_transmit_disconnected trackingOn false).assuming fun _ _ => trivial
  have sent : Meets (Amid config handshake)
      (serve config env reconnect (.sendPackedCommand trackingOn true))
      (fun _ s => s.latest = trackingOn) Disconnected :=
    written.bind fun _ => meets_pure fun _ => id
  refine meets_run_call sent (fun _ => ?_) fun e => meets_throw fun _ => id
  exact meets_run_call (meets_readResponse_accepted accepted)
    (fun _ => meets_pure fun _ _ => trivial) fun e => meets_throw fun _ => id

end Tracking

/-! ## Runs -/

section Runs

variable {config : HandshakeConfig F} {env : HandshakeEnv F}

/-- What the parser answers to `can_read`. -/
theorem keeps_poll : Keeps (Settled config) (poll env) := by
  intro s settled
  unfold poll
  cases env.canRead s.clock with
  | ok available => exact settled
  | error e =>
    by_cases lost : e.isinstance .osError = true
    · simp only [if_pos lost]
      exact amid_of_closed settled.1 rfl
    · simp only [if_neg lost]
      exact settled

/-- `can_read`. -/
theorem Sound.keeps_canRead (sound : Sound config env) :
    Keeps (Settled config) (canRead config env) := by
  have connects : Reconnects config (Channel.connect config env) :=
    sound.reconnects env.depth true
  exact (keeps_whenever connects.upholds.keeps).bind fun _ => keeps_poll

/-- A connection of a pool must have nothing to read. -/
theorem Sound.keeps_expectNothing (sound : Sound config env) (cached : Bool) :
    Keeps (Settled config) (expectNothing config env cached) :=
  sound.keeps_canRead.bind fun _ => keeps_guard

/-- Every call keeps the connection settled. -/
theorem Sound.keeps_call (sound : Sound config env) (call : Call) :
    Keeps (Settled config) (call.run config env) := by
  have connected : Keeps (Settled config) (Channel.connect config env) :=
    (sound.connect env.depth true).keeps
  have steady := sound.steady env.depth
  cases call with
  | connect => exact connected
  | getConnection cached =>
    refine connected.bind fun _ => (sound.keeps_expectNothing cached).recover fun e => ?_
    exact keeps_guard.bind fun _ => upholds_disconnect.keeps.bind fun _ =>
      connected.bind fun _ => sound.keeps_expectNothing false
  | send command => exact (steady.sendPackedCommand command true true fun _ => rfl).keeps
  | readResponse => exact upholds_readResponse.keeps.bind fun _ => keeps_pure ()
  | canRead => exact sound.keeps_canRead.bind fun _ => keeps_pure ()
  | checkHealth => exact steady.checkHealth.keeps
  | disconnect => exact upholds_disconnect.keeps

/-- Handshakes were all or nothing so far. -/
structure AllOrNothing (config : HandshakeConfig F) (s : Channel) : Prop where
  /-- Commands of a user were written only after all configured parts of the handshake. -/
  commands : ∀ session ∈ s.commands, s.Complete config session
  /-- An open connection is ready for them. -/
  opened : ∀ session, s.sock = some session → s.Complete config session
  /-- If `connect` raises now, the connection is disconnected. -/
  connects : ∀ env, Sound config env →
    match connect config env s with
    | .ok _ t => ∀ session, t.sock = some session → t.Complete config session
    | .error _ t => t.sock = none

/-- In a settled state handshakes were all or nothing. -/
theorem Settled.complete {s : Channel} (settled : s.Settled config) (session : Nat)
    (opened : s.sock = some session) : s.Complete config session := by
  rcases settled.2 session opened with complete | ⟨done, known, -⟩
  · exact complete
  · cases known

end Runs

section Scenario

/-- A blocking connection with protocol 3 and one connect callback. -/
def callbackConfig (callback : UserCode Empty) : HandshakeConfig Empty where
  asyncio := false
  retry := { retries := some 0,
             supportedErrors := [.connectionError, .timeoutError, .builtinTimeoutError] }
  healthChecks := false
  resp3 := true
  authenticates := false
  clientName := none
  libName := none
  libVersion := none
  db := 0
  redisConnectFunc := none
  connectCallbacks := [fun _ => callback]

/-- `_enable_tracking_callback`, but it disconnects if it fails. -/
def enableTrackingOrDisconnect : UserCode Empty :=
  .call (.sendPackedCommand trackingOn true) fun
    | .error e => .call .disconnect fun _ => .fail e
    | .ok _ => .call .readResponse fun
      | .error e => .call .disconnect fun _ => .fail e
      | .ok _ => .done

/-- A server that gives this reply to `CLIENT TRACKING`. -/
def trackingEnv (tracking : PyVal Empty) : HandshakeEnv Empty where
  patience := 3
  depth := 3
  stolen _ := false
  dial _ := .opened
  due _ := false
  credentials _ := .ok []
  pack _ := none
  write _ _ := none
  reply command _ :=
    if command = trackingOn then .ok tracking
    else .ok (.dict [(.bytes (ascii "proto"), .int 3)])
  close _ := none
  canRead _ := .ok false

/-- A connection of a pool with a cache is asked for twice, and then a command is sent. -/
def askedTwice (env : HandshakeEnv Empty) : List (Call × HandshakeEnv Empty) :=
  [(.getConnection true, env), (.getConnection true, env),
    (.send ["GET".toList, "a".toList], env)]

/-- Code that disconnects before it raises. -/
theorem meets_disconnect_fail {config : HandshakeConfig F} {env : HandshakeEnv F}
    {reconnect : Bool → EStateM Exc Channel Unit} (e : Exc) :
    Meets (fun _ => True) (run config env reconnect (.call .disconnect fun _ => .fail e))
      (fun _ _ => True) Disconnected := by
  have left : Meets (fun _ => True) (disconnect config env) (fun _ s => s.sock = none)
      Disconnected := by
    intro s _
    unfold disconnect
    cases (if config.asyncio && s.sock.isSome then env.close s.clock else none) <;> exact rfl
  have served : Meets (fun _ => True) (serve config env reconnect .disconnect)
      (fun _ s => s.sock = none) Disconnected := left.bind fun _ => meets_pure fun _ => id
  exact meets_run_call served (fun _ => meets_throw fun _ => id) fun _ => meets_throw fun _ => id

/-- A callback that disconnects when it fails raises only when disconnected. -/
theorem raisesOnly_enableTrackingOrDisconnect {config : HandshakeConfig Empty}
    {env : HandshakeEnv Empty} : RaisesOnly config env Disconnected enableTrackingOrDisconnect := by
  intro reconnect _ handshake
  have disconnects (e : Exc) : Meets (fun _ => True)
      (run config env reconnect (.call .disconnect fun _ => .fail e)) (fun _ _ => True)
      Disconnected := meets_disconnect_fail e
  refine meets_run_call ((meets_anything _).assuming fun _ _ => trivial) (fun _ => ?_) disconnects
  exact meets_run_call (meets_anything _) (fun _ => meets_pure fun _ _ => trivial) disconnects

end Scenario

end Channel

end RedisPy

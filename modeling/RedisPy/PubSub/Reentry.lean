import RedisPy.PubSub.Locking

/-!
# No call takes the lock twice

What a connection does by itself leaves the lock alone, whatever `on_connect` is; so a call is
blocked only if `on_connect` finds something to subscribe to while the lock is held. It finds
nothing when nothing is subscribed to, and it is not called when no connection is opened.
-/

namespace RedisPy.Channels

open Contract Runs Line

variable {H α β : Type}

/-! ## Calls that pass -/

/-- What holds when something is raised; nothing is blocked. -/
def Raises (E : Exc → Session H Line → Prop) : Stop → Session H Line → Prop
  | .raised e, s => E e s
  | .blocked, _ => False

/-- Less holds when something is raised. -/
theorem Raises.mono {E E' : Exc → Session H Line → Prop} (less : ∀ e s, E e s → E' e s) (stop : Stop)
    (s : Session H Line) (raised : Raises E stop s) : Raises E' stop s := by
  cases stop with
  | raised e => exact less e s raised
  | blocked => exact raised

/-- A program that keeps an invariant and is not blocked. -/
def Quiet (I : Session H Line → Prop) (program : Action H α) : Prop :=
  Meets I program (fun _ => I) (Raises fun _ => I)

section Rules

variable {P I : Session H Line → Prop} {Q : α → Session H Line → Prop}
  {E E' : Exc → Session H Line → Prop} {F : Stop → Session H Line → Prop}

/-- A handler takes over what is raised. -/
theorem meets_rescue {program : Action H α} {handler : Exc → Action H α}
    (tried : Meets P program Q (Raises E)) (handled : ∀ e, Meets (E e) (handler e) Q F) :
    Meets P (rescue program handler) Q F := by
  apply tried.recover
  intro stop
  cases stop with
  | raised e => exact handled e
  | blocked => exact fun _ never => never.elim

/-- A failed attempt is cleaned up, and then the loop goes on or ends. -/
theorem meets_handle {retry : Retry} {fail : Exc → Action H Unit} {again : Action H α}
    {R : Session H Line → Prop} {failures : Nat}
    (failed : ∀ e, Meets (E e) (fail e) (fun _ s => R s ∧ E' e s) (Raises E'))
    (passed : ∀ e s, E e s → E' e s) (next : Meets R again Q (Raises E')) (e : Exc) :
    Meets (E e) (handle retry fail again failures e) Q (Raises E') := by
  apply meets_ite
  · intro _
    apply (failed e).bind
    intro _
    apply meets_ite
    · intro _
      exact meets_throw fun s ends => ends.2
    · intro _
      exact next.assuming fun s ends => ends.1
  · intro _
    exact meets_throw fun s ends => passed e s ends

/-- Retrying keeps a contract whose failure can be cleaned up. -/
theorem meets_callWithRetry {retry : Retry} {run : Action H α} {fail : Exc → Action H Unit}
    {R : Session H Line → Prop} (attempt : Meets P run Q (Raises E))
    (failed : ∀ e, Meets (E e) (fail e) (fun _ s => R s ∧ E' e s) (Raises E'))
    (passed : ∀ e s, E e s → E' e s) (again : ∀ s, R s → P s)
    (interrupted : ∀ s, R s → E' { cls := .keyboardInterrupt } s) (patience failures : Nat) :
    Meets P (callWithRetry retry run fail patience failures) Q (Raises E') := by
  induction patience generalizing failures with
  | zero => exact meets_rescue attempt (meets_handle failed passed (meets_throw interrupted))
  | succ patience ih =>
    exact meets_rescue attempt (meets_handle failed passed ((ih (failures + 1)).assuming again))

/-- Returning. -/
theorem quiet_pure (value : α) : Quiet I (pure value : Action H α) := fun _ => id

/-- Raising. -/
theorem quiet_throw (e : Exc) : Quiet I (throw (.raised e) : Action H α) := fun _ => id

/-- A change that keeps the invariant. -/
theorem quiet_modify {change : Session H Line → Session H Line} (kept : ∀ s, I s → I (change s)) :
    Quiet I (modify change : Action H Unit) := kept

/-- One program after another. -/
theorem Quiet.bind {program : Action H α} {next : α → Action H β} (first : Quiet I program)
    (second : ∀ value, Quiet I (next value)) : Quiet I (program >>= next) :=
  Meets.bind first second

/-- Looking at the state. -/
theorem quiet_get {body : Session H Line → Action H α} (looks : ∀ s, Quiet I (body s)) :
    Quiet I (get >>= body) :=
  meets_get fun s start => (looks s).from_state start

/-- A branch. -/
theorem quiet_ite {condition : Prop} [Decidable condition] {yes no : Action H α}
    (whenTrue : Quiet I yes) (whenFalse : Quiet I no) :
    Quiet I (if condition then yes else no) :=
  meets_ite (fun _ => whenTrue) fun _ => whenFalse

/-- A step that is not always made. -/
theorem quiet_whenever {condition : Prop} [Decidable condition] {program : Action H Unit}
    (quiet : Quiet I program) : Quiet I (whenever condition program) :=
  quiet_ite quiet (quiet_pure ())

/-- A step that needs a value. -/
theorem quiet_whenSome {value : Option β} {program : β → Action H Unit}
    (quiet : ∀ value, Quiet I (program value)) : Quiet I (whenSome value program) :=
  meets_whenSome quiet fun _ => id

/-- A handler. -/
theorem Quiet.rescue {program : Action H α} {handler : Exc → Action H α} (tried : Quiet I program)
    (handled : ∀ e, Quiet I (handler e)) : Quiet I (rescue program handler) :=
  meets_rescue tried handled

/-- Retrying. -/
theorem Quiet.callWithRetry {retry : Retry} {run : Action H α} {fail : Exc → Action H Unit}
    (attempt : Quiet I run) (failed : ∀ e, Quiet I (fail e)) (patience failures : Nat) :
    Quiet I (callWithRetry retry run fail patience failures) := by
  have cleaned (e : Exc) : Meets I (fail e) (fun _ s => I s ∧ I s) (Raises fun _ => I) :=
    (failed e).weaken (fun _ => id) (fun _ _ kept => ⟨kept, kept⟩) fun _ _ => id
  exact meets_callWithRetry attempt cleaned (fun _ _ => id) (fun _ => id) (fun _ => id)
    patience failures

end Rules

/-! ## What the connection leaves alone -/

/-- An invariant that does not depend on the socket or on the counter, and is not lost with time. -/
structure Stable (I : Session H Line → Prop) : Prop where
  tick : ∀ s, I s → I (tick s)
  sock : ∀ b s, I s → I (withSock b s)
  counted : ∀ counter s, I s → I { s with pubsub.healthCheckResponseCounter := counter }

/-- Raising what there is to raise. -/
theorem quiet_raise {I : Session H Line → Prop} (failure : Option Exc) : Quiet I (raise failure) :=
  quiet_whenSome fun e => quiet_throw e

namespace Stable

variable {I : Session H Line → Prop} {config : ConnectionConfig} {env : LineEnv}
  {reconnect callback : Action H Unit}

/-- Asking the environment. -/
theorem ask (stable : Stable I) (question : Nat → α) : Quiet I (ask question : Action H α) :=
  stable.tick

/-- Disconnecting. -/
theorem disconnect (stable : Stable I) : Quiet I (disconnect : Action H Unit) :=
  quiet_modify (stable.sock false)

/-- Writing. -/
theorem transmit (stable : Stable I) (env : LineEnv) : Quiet I (transmit env : Action H Unit) := by
  apply quiet_get
  intro s
  apply quiet_ite
  · apply (stable.ask env.send).bind
    exact fun failure => quiet_whenSome fun e => stable.disconnect.bind fun _ => quiet_throw _
  · exact stable.disconnect.bind fun _ => quiet_throw _

/-- Reading. -/
theorem readResponse (stable : Stable I) (env : LineEnv) (disconnectOnError : Bool) :
    Quiet I (readResponse env disconnectOnError : Action H Response) := by
  apply quiet_get
  intro s
  apply quiet_ite
  · apply (stable.ask env.read).bind
    intro reading
    cases reading with
    | response response => exact quiet_pure response
    | refused e => exact quiet_throw e
    | failed e => exact (quiet_whenever stable.disconnect).bind fun _ => quiet_throw _
  · exact (quiet_whenever stable.disconnect).bind fun _ => quiet_throw _

/-- Connecting if there is no socket. -/
theorem connectIfClosed (reconnects : Quiet I reconnect) : Quiet I (connectIfClosed reconnect) :=
  quiet_get fun _ => quiet_whenever reconnects

/-- A health check of the connection. -/
theorem sendPing (stable : Stable I) (reconnects : Quiet I reconnect) :
    Quiet I (sendPing env reconnect) := by
  apply (connectIfClosed reconnects).bind
  intro _
  apply (stable.transmit env).bind
  intro _
  apply (stable.readResponse env true).bind
  intro response
  split
  · exact quiet_pure ()
  · exact quiet_throw _

/-- The health checks of the connection. -/
theorem checkConnection (stable : Stable I) (reconnects : Quiet I reconnect) :
    Quiet I (checkConnection config env reconnect) := by
  apply (stable.ask env.due).bind
  intro due
  apply quiet_whenever
  exact (stable.sendPing reconnects).callWithRetry (fun _ => stable.disconnect) env.patience 0

/-- Sending what is packed. -/
theorem sendPackedCommand (stable : Stable I) (reconnects : Quiet I reconnect) (check : Bool) :
    Quiet I (sendPackedCommand config env reconnect check) := by
  apply (connectIfClosed reconnects).bind
  intro _
  apply (quiet_whenever (stable.checkConnection reconnects)).bind
  exact fun _ => stable.transmit env

/-- Sending a command. -/
theorem sendCommand (stable : Stable I) (reconnects : Quiet I reconnect) (command : Command)
    (check : Bool) : Quiet I (Line.sendCommand config env reconnect command check) := by
  apply (stable.ask (env.pack command)).bind
  intro failure
  exact (quiet_raise failure).bind fun _ => stable.sendPackedCommand reconnects check

/-- Polling. -/
theorem canRead (stable : Stable I) (reconnects : Quiet I reconnect) :
    Quiet I (canRead env reconnect) := by
  apply (connectIfClosed reconnects).bind
  intro _
  apply (stable.ask env.canRead).bind
  intro answer
  cases answer with
  | ok available => exact quiet_pure available
  | error e => exact quiet_ite (stable.disconnect.bind fun _ => quiet_throw _) (quiet_throw e)

/-- Dialling. -/
theorem dial (stable : Stable I) (env : LineEnv) : Quiet I (dial env : Action H Unit) := by
  apply (stable.ask env.dial).bind
  intro failure
  exact (quiet_raise failure).bind fun _ => quiet_modify (stable.sock true)

/-- Connecting again during a handshake. -/
theorem connectAgain (stable : Stable I) (reconnects : Quiet I reconnect) (again : List Bool) :
    Quiet I (connectAgain reconnect again) := by
  induction again with
  | nil => exact quiet_pure ()
  | cons caught rest ih =>
    apply stable.disconnect.bind
    intro _
    have tried : Quiet I (rescue reconnect fun e => if caught then pure () else throw (.raised e)) :=
      reconnects.rescue fun e => quiet_ite (quiet_pure ()) (quiet_throw e)
    exact tried.bind fun _ => ih

/-- A handshake. -/
theorem shakeHands (stable : Stable I) (reconnects : Quiet I reconnect) :
    Quiet I (shakeHands env reconnect) := by
  apply (stable.ask env.greeting).bind
  intro greeting
  apply (stable.connectAgain reconnects greeting.again).bind
  intro _
  apply (quiet_modify (stable.sock greeting.sock)).bind
  exact fun _ => quiet_raise greeting.failure

/-- Dialling until it succeeds. -/
theorem dials (stable : Stable I) :
    Quiet I (rescue (callWithRetry config.retry (Line.dial env) (fun _ => Line.disconnect) env.patience 0)
      fun e => throw (.raised (socketError e)) : Action H Unit) := by
  have tried : Quiet I (callWithRetry config.retry (Line.dial env) (fun _ => Line.disconnect)
      env.patience 0 : Action H Unit) :=
    (stable.dial env).callWithRetry (fun _ => stable.disconnect) env.patience 0
  exact tried.rescue fun e => quiet_throw _

/-- Cleaning up after a handshake. -/
theorem cleansUp (stable : Stable I) {Q : Unit → Session H Line → Prop} (e : Exc) :
    Meets I (do
      whenever (e.isinstance .redisError) Line.disconnect
      throw (.raised e)) Q (Raises fun _ => I) :=
  Meets.bind (quiet_whenever stable.disconnect) fun _ => meets_throw fun _ => id

/-- Opening a connection. -/
theorem openSession (stable : Stable I) (reconnects : Quiet I reconnect) (calls : Quiet I callback) :
    Quiet I (openSession config env reconnect callback) := by
  apply stable.dials.bind
  intro _
  apply ((stable.shakeHands reconnects).rescue stable.cleansUp).bind
  intro _
  exact quiet_get fun _ => quiet_whenever calls

/-- Connecting again after a failure. -/
theorem disconnectRaiseConnect (stable : Stable I) (reconnects : Quiet I reconnect) (e : Exc) :
    Quiet I (disconnectRaiseConnect config reconnect e) := by
  apply stable.disconnect.bind
  exact fun _ => quiet_ite (connectIfClosed reconnects) (quiet_throw e)

/-- A command with retries. -/
theorem execute (stable : Stable I) (reconnects : Quiet I reconnect) {command : Action H α}
    (commands : Quiet I command) : Quiet I (execute config env reconnect command) :=
  commands.callWithRetry (stable.disconnectRaiseConnect reconnects) env.patience 0

/-- Counting an answer. -/
theorem countResponse (stable : Stable I) : Quiet I (countResponse : Action H Unit) :=
  quiet_modify fun s => stable.counted _ s

/-- Cleaning up answers. -/
theorem cleanHealthCheckResponses (stable : Stable I) (reconnects : Quiet I reconnect) (ttl : Nat) :
    Quiet I (cleanHealthCheckResponses config env reconnect ttl) := by
  induction ttl with
  | zero => exact quiet_pure ()
  | succ ttl ih =>
    apply quiet_get
    intro s
    apply quiet_whenever
    apply (stable.execute reconnects (stable.canRead reconnects)).bind
    intro available
    refine Quiet.bind (quiet_whenever ?_) fun _ => ih
    apply (stable.execute reconnects (stable.readResponse env true)).bind
    intro response
    cases response with
    | healthCheck => exact stable.countResponse
    | push response => exact quiet_throw _

/-- A health check of the object. -/
theorem checkHealth (stable : Stable I) (reconnects : Quiet I reconnect) :
    Quiet I (checkHealth config env reconnect) := by
  apply (stable.ask env.due).bind
  intro due
  apply quiet_whenever
  apply (stable.sendPackedCommand reconnects false).bind
  exact fun _ => quiet_modify fun s => stable.counted _ s

/-- Reading a message, if there is one. -/
theorem tryRead (stable : Stable I) (reconnects : Quiet I reconnect) (block : Bool) :
    Quiet I (tryRead env reconnect block) := by
  have reads : Quiet I (do
      let response ← Line.readResponse env false
      pure (some response) : Action H (Option Response)) :=
    (stable.readResponse env false).bind fun response => quiet_pure (some response)
  apply quiet_ite
  · exact (connectIfClosed reconnects).bind fun _ => reads
  · apply (stable.canRead reconnects).bind
    exact fun available => quiet_ite reads (quiet_pure none)

/-- Reading a message. -/
theorem parseResponse (stable : Stable I) (reconnects : Quiet I reconnect) (block : Bool) :
    Quiet I (parseResponse config env reconnect block) := by
  apply quiet_get
  intro s
  refine quiet_ite ?_ (quiet_throw _)
  apply (stable.checkHealth reconnects).bind
  intro _
  apply (stable.execute reconnects (stable.tryRead reconnects block)).bind
  intro response
  rcases response with none | response
  · exact quiet_pure none
  · cases response with
    | healthCheck => exact stable.countResponse.bind fun _ => quiet_pure none
    | push response => exact quiet_pure (some response)

end Stable

/-! ## Nothing is subscribed to -/

/-- Nothing is subscribed to. -/
structure Idle (lock attached : Bool) (s : Session H Line) : Prop where
  lock : s.wire.lock = lock
  attached : s.wire.attached = attached
  none : s.pubsub.any = false

/-- Without subscriptions there is no name of any kind. -/
theorem names_of_none {p : PubSub H} (none : p.any = false) (kind : Kind) :
    (p.of kind).names = [] := by
  by_contra some
  have any : p.any = true := PubSub.any_iff p |>.mpr ⟨kind, some⟩
  rw [none] at any
  cases any

section Idle

variable {lock attached : Bool} {config : ConnectionConfig} {env : LineEnv} {codec : Codec}
  {connect : Action H Unit}

/-- Idleness does not depend on the socket. -/
theorem stable_idle : Stable (Idle lock attached : Session H Line → Prop) where
  tick _ idle := ⟨idle.lock, idle.attached, idle.none⟩
  sock _ _ idle := ⟨idle.lock, idle.attached, idle.none⟩
  counted _ _ idle := ⟨idle.lock, idle.attached, idle.none⟩

/-- There is nothing to subscribe to again. -/
theorem quiet_resubscribe_idle (execute : Verb → List Name → Action H Unit) (kind : Kind) :
    Quiet (Idle lock attached) (resubscribe .sync codec execute kind) := by
  apply meets_get
  intro s idle
  apply meets_whenever
  · intro some
    rw [names_of_none idle.none kind] at some
    cases some
  · rintro _ t rfl
    exact idle

/-- `on_connect` does nothing but forget what is pending. -/
theorem quiet_onConnect_idle (execute : Verb → List Name → Action H Unit) :
    Quiet (Idle lock attached) (onConnect .sync codec execute) := by
  have clears : Quiet (Idle lock attached) (Session.note PubSub.clearPending : Action H Unit) :=
    quiet_modify fun s idle => ⟨idle.lock, idle.attached, idle.none⟩
  apply clears.bind
  intro _
  apply (quiet_resubscribe_idle execute .channel).bind
  intro _
  apply (quiet_resubscribe_idle execute .pattern).bind
  exact fun _ => quiet_whenever (quiet_resubscribe_idle execute .shard)

/-- Connecting while nothing is subscribed to. -/
theorem quiet_connect_idle (depth : Nat) :
    Quiet (Idle lock attached : Session H Line → Prop) (connectCheckHealth config env codec depth) := by
  induction depth with
  | zero => exact quiet_throw _
  | succ depth ih => exact stable_idle.openSession ih (quiet_onConnect_idle _)

/-- A lock that is free is taken for the time of its body. -/
theorem meets_withLock {body : Action H Unit} {P B B' Q R : Session H Line → Prop}
    {E : Exc → Session H Line → Prop} (free : ∀ s, P s → s.wire.lock = false)
    (takes : ∀ s, P s → B (locked true s)) (runs : Meets B body (fun _ => B') (Raises E))
    (returns : ∀ s, B' s → Q (locked false s)) (raises : ∀ e s, E e s → R (locked false s)) :
    Meets P (withLock body) (fun _ => Q) (Raises fun _ => R) := by
  intro s start
  have ends := runs (locked true s) (takes s start)
  unfold withLock
  rw [free s start]
  simp only [Bool.false_eq_true, if_false]
  cases ran : body (locked true s) with
  | ok value t =>
    rw [ran] at ends
    exact returns t ends
  | error stop t =>
    rw [ran] at ends
    cases stop with
    | raised e => exact raises e t ends
    | blocked => exact ends.elim

/-- A connection is taken from the pool if there is none. -/
theorem meets_getConnection_idle :
    Meets (Idle false false) (getConnection env : Action H Unit) (fun _ => Idle false true)
      (Raises fun _ => Idle false false) := by
  apply Meets.bind (stable_idle.ask env.getConnection)
  intro taken
  cases taken with
  | ok sock => exact meets_modify fun s idle => ⟨idle.lock, rfl, idle.none⟩
  | error e => exact meets_throw fun s idle => idle

/-- Sending a command while nothing is subscribed to. -/
theorem meets_executeCommand_idle (connects : ∀ lock, Quiet (Idle lock true) connect)
    (command : Command) :
    Meets (Idle false attached) (executeCommand config env connect command) (fun _ => Idle false true)
      (Raises fun _ s => ∃ attached, Idle false attached s) := by
  apply meets_get
  intro s idle
  have taken : Meets (· = s) (whenever (s.wire.attached = false) (getConnection env))
      (fun _ => Idle false true) (Raises fun _ => Idle false attached) := by
    apply meets_whenever
    · intro free
      have unattached : attached = false := idle.attached.symm.trans free
      subst unattached
      exact meets_getConnection_idle.from_state idle
    · rintro set t rfl
      have already : attached = true := by
        rw [← idle.attached]
        exact (Bool.not_eq_false _).mp set
      subst already
      exact idle
  have cleaned (check : Bool) : Quiet (Idle false true)
      (whenever check (cleanHealthCheckResponses config env connect 10)) :=
    quiet_whenever (stable_idle.cleanHealthCheckResponses (connects false) 10)
  have sent (check : Bool) : Quiet (Idle true true)
      (execute config env connect (Line.sendCommand config env connect command check)) :=
    stable_idle.execute (connects true) (stable_idle.sendCommand (connects true) command check)
  have inside (check : Bool) : Quiet (Idle false true)
      (withLock (execute config env connect (Line.sendCommand config env connect command check))) :=
    meets_withLock (fun _ idle => idle.lock) (fun _ idle => ⟨rfl, idle.attached, idle.none⟩)
      (sent check) (fun _ idle => ⟨rfl, idle.attached, idle.none⟩)
      fun _ _ idle => ⟨rfl, idle.attached, idle.none⟩
  have some {attached : Bool} (_ : Exc) (t : Session H Line) (idle : Idle false attached t) :
      ∃ attached, Idle false attached t := ⟨attached, idle⟩
  apply (taken.weaken (fun _ => id) (fun _ _ => id) (Raises.mono some)).bind
  intro _
  have rest (check : Bool) := (cleaned check).bind fun _ => inside check
  exact (rest _).weaken (fun _ => id) (fun _ _ => id) (Raises.mono some)

end Idle

/-! ## No connection is opened -/

/-- A connection that is not opened now is not opened later. -/
theorem Unreachable.later {env : LineEnv} {time other : Nat} (unreachable : Unreachable env time)
    (later : time ≤ other) : Unreachable env other :=
  fun n after => unreachable n (later.trans after)

/-- Asking the environment, with what it answers. -/
theorem meets_asked {question : Nat → α} {body : α → Action H β} {P : Session H Line → Prop}
    {Q : β → Session H Line → Prop} {F : Stop → Session H Line → Prop}
    (asked : ∀ s, P s → Meets (· = tick s) (body (question s.wire.clock)) Q F) :
    Meets P (ask question >>= body) Q F :=
  meets_ask_bind asked

/-- The lock is held, and something may be subscribed to. -/
structure Held (time : Nat) (s : Session H Line) : Prop where
  lock : s.wire.lock = true
  attached : s.wire.attached = true
  subscribed : s.pubsub.subscribedEvent = true
  later : time ≤ s.wire.clock

/-- The lock is held, and no connection is opened any more. -/
structure Cut (env : LineEnv) (time : Nat) (s : Session H Line) : Prop extends Held time s where
  unreachable : Unreachable env s.wire.clock

section Cut

variable {time : Nat} {config : ConnectionConfig} {env : LineEnv} {codec : Codec}
  {reconnect callback : Action H Unit}

/-- Holding the lock does not depend on the socket. -/
theorem stable_held : Stable (Held time : Session H Line → Prop) where
  tick _ held := ⟨held.lock, held.attached, held.subscribed, Nat.le_succ_of_le held.later⟩
  sock _ _ held := ⟨held.lock, held.attached, held.subscribed, held.later⟩
  counted _ _ held := ⟨held.lock, held.attached, held.subscribed, held.later⟩

/-- Being cut off does not depend on the socket. -/
theorem stable_cut : Stable (Cut env time : Session H Line → Prop) where
  tick _ cut := ⟨stable_held.tick _ cut.toHeld, cut.unreachable.later (Nat.le_succ _)⟩
  sock b _ cut := ⟨stable_held.sock b _ cut.toHeld, cut.unreachable⟩
  counted n _ cut := ⟨stable_held.counted n _ cut.toHeld, cut.unreachable⟩

/-- If dialling succeeds, the handshake is going to fail. -/
theorem meets_dial_cut :
    Meets (Cut env time) (dial env : Action H Unit)
      (fun _ s => Cut env time s ∧ (env.greeting s.wire.clock).failure ≠ none)
      (Raises fun _ => Cut env time) := by
  apply meets_asked
  intro s cut
  cases failed : env.dial s.wire.clock with
  | some e =>
    rintro t rfl
    exact stable_cut.tick s cut
  | none =>
    rintro t rfl
    exact ⟨stable_cut.sock true _ (stable_cut.tick s cut), cut.unreachable _ (Nat.le_refl _) failed⟩

/-- Dialling until it succeeds: the handshake is going to fail. -/
theorem meets_dials_cut :
    Meets (Cut env time)
      (rescue (callWithRetry config.retry (dial env) (fun _ => disconnect) env.patience 0) fun e =>
        throw (.raised (socketError e)) : Action H Unit)
      (fun _ s => Cut env time s ∧ (env.greeting s.wire.clock).failure ≠ none)
      (Raises fun _ => Cut env time) := by
  have cleaned (e : Exc) : Meets (Cut env time) (disconnect : Action H Unit)
      (fun _ s => Cut env time s ∧ Cut env time s) (Raises fun _ => Cut env time) :=
    meets_modify fun s cut => ⟨stable_cut.sock false s cut, stable_cut.sock false s cut⟩
  have tried : Meets (Cut env time)
      (callWithRetry config.retry (dial env) (fun _ => disconnect) env.patience 0 : Action H Unit)
      (fun _ s => Cut env time s ∧ (env.greeting s.wire.clock).failure ≠ none)
      (Raises fun _ => Cut env time) :=
    meets_callWithRetry meets_dial_cut cleaned (fun _ _ => id) (fun _ => id) (fun _ => id)
      env.patience 0
  exact meets_rescue tried fun e => meets_throw fun _ => id

/-- A handshake that is going to fail fails. -/
theorem meets_shakeHands_cut (reconnects : Quiet (Cut env time) reconnect) :
    Meets (fun s => Cut env time s ∧ (env.greeting s.wire.clock).failure ≠ none)
      (shakeHands env reconnect) (fun _ _ => False) (Raises fun _ => Cut env time) := by
  apply meets_asked
  intro s going
  obtain ⟨cut, fails⟩ := going
  obtain ⟨e, failed⟩ := Option.ne_none_iff_exists'.mp fails
  rw [failed]
  have before : Quiet (Cut env time) (connectAgain reconnect (env.greeting s.wire.clock).again) :=
    stable_cut.connectAgain reconnects _
  have left : Quiet (Cut env time)
      (modify (withSock (env.greeting s.wire.clock).sock) : Action H Unit) :=
    quiet_modify (stable_cut.sock _)
  apply Meets.from_state _ (stable_cut.tick s cut)
  apply Meets.bind before
  intro _
  apply Meets.bind left
  intro _
  exact meets_throw fun _ => id

/-- Connecting while no connection is opened does not call back. -/
theorem quiet_connect_cut (depth : Nat) :
    Quiet (Cut env time : Session H Line → Prop) (connectCheckHealth config env codec depth) := by
  induction depth with
  | zero => exact quiet_throw _
  | succ depth ih =>
    apply Meets.bind meets_dials_cut
    intro _
    have shaken := meets_rescue (meets_shakeHands_cut ih) stable_cut.cleansUp
    apply shaken.bind
    intro _
    exact fun _ never => never.elim

end Cut

/-! ## Sending while something is subscribed to -/

/-- The connection has a socket, or no connection is opened any more. -/
def Linked (env : LineEnv) (s : Session H Line) : Prop :=
  s.wire.sock = true ∨ Unreachable env s.wire.clock

/-- The lock is free, and something may be subscribed to. -/
structure Ready (time : Nat) (s : Session H Line) : Prop where
  free : s.wire.lock = false
  attached : s.wire.attached = true
  subscribed : s.pubsub.subscribedEvent = true
  later : time ≤ s.wire.clock

/-- The lock is free, and what is subscribed to came with a connection and with the event. -/
structure Orderly (time : Nat) (s : Session H Line) : Prop where
  free : s.wire.lock = false
  held : s.pubsub.any = true → s.wire.attached = true ∧ s.pubsub.subscribedEvent = true
  later : time ≤ s.wire.clock

/-- Something may be subscribed to. -/
theorem Ready.orderly {time : Nat} {s : Session H Line} (ready : Ready time s) : Orderly time s where
  free := ready.free
  held _ := ⟨ready.attached, ready.subscribed⟩
  later := ready.later

/-- Order does not depend on the socket. -/
theorem stable_orderly {time : Nat} : Stable (Orderly time : Session H Line → Prop) where
  tick _ orderly := ⟨orderly.free, orderly.held, Nat.le_succ_of_le orderly.later⟩
  sock _ _ orderly := ⟨orderly.free, orderly.held, orderly.later⟩
  counted _ _ orderly := ⟨orderly.free, orderly.held, orderly.later⟩

section Steady

variable {time : Nat} {config : ConnectionConfig} {env : LineEnv} {codec : Codec}
  {connect : Action H Unit}

/-- What holds when a command fails that was sent while the lock is held. -/
def FailsHeld (config : ConnectionConfig) (env : LineEnv) (time : Nat) (e : Exc)
    (s : Session H Line) : Prop :=
  Held time s ∧ (config.retriesOn e = true → Unreachable env s.wire.clock)

/-- Writing while the lock is held. -/
theorem meets_transmit_held (steady : Steady config env) :
    Meets (fun s => Held time s ∧ Linked env s) (transmit env : Action H Unit)
      (fun _ s => Held time s ∧ Linked env s) (Raises (FailsHeld config env time)) := by
  apply meets_get
  rintro s ⟨held, linked⟩
  apply meets_ite
  · intro sock
    apply meets_asked
    rintro t rfl
    cases failed : env.send t.wire.clock with
    | none =>
      rintro u rfl
      exact ⟨stable_held.tick t held, .inl sock⟩
    | some e =>
      rintro u rfl
      have closed : Held time (withSock false (tick t)) :=
        stable_held.sock false _ (stable_held.tick t held)
      exact ⟨closed, fun retried => steady.sends _ e failed retried⟩
  · intro closed
    have unreachable : Unreachable env s.wire.clock := linked.resolve_left closed
    rintro t rfl
    exact ⟨stable_held.sock false _ held, fun _ => unreachable⟩

/-- Connecting while the lock is held. -/
theorem meets_connectIfClosed_held (connects : Quiet (Cut env time) connect) :
    Meets (fun s => Held time s ∧ Linked env s) (connectIfClosed connect)
      (fun _ s => Held time s ∧ Linked env s) (Raises (FailsHeld config env time)) := by
  apply meets_get
  rintro s ⟨held, linked⟩
  apply meets_whenever
  · intro closed
    have unreachable : Unreachable env s.wire.clock :=
      linked.resolve_left (by rw [closed]; exact Bool.false_ne_true)
    have cut : Meets (· = s) connect (fun _ => Cut env time) (Raises fun _ => Cut env time) :=
      connects.from_state ⟨held, unreachable⟩
    exact cut.weaken (fun _ => id) (fun _ _ ends => ⟨ends.toHeld, .inr ends.unreachable⟩)
      (Raises.mono fun _ _ ends => ⟨ends.toHeld, fun _ => ends.unreachable⟩)
  · rintro _ t rfl
    exact ⟨held, linked⟩

/-- What a command that is sent while the lock is held may rely on. -/
def Prepared (env : LineEnv) (command : Command) (s : Session H Line) : Prop :=
  Linked env s ∨ env.pack command s.wire.clock ≠ none

/-- A command is sent while the lock is held. -/
theorem meets_sendCommand_held (steady : Steady config env) (connects : Quiet (Cut env time) connect)
    (command : Command) :
    Meets (fun s => Held time s ∧ Prepared env command s)
      (Line.sendCommand config env connect command false)
      (fun _ s => Held time s ∧ Linked env s) (Raises (FailsHeld config env time)) := by
  apply meets_asked
  rintro s ⟨held, prepared⟩
  cases failed : env.pack command s.wire.clock with
  | some e =>
    rintro t rfl
    exact ⟨stable_held.tick s held, fun retried => steady.packs command _ e failed retried⟩
  | none =>
    have linked : Linked env (tick s) := by
      rcases prepared with (sock | unreachable) | packs
      · exact .inl sock
      · exact .inr (unreachable.later (Nat.le_succ _))
      · exact absurd failed packs
    have sent : Meets (fun s => Held time s ∧ Linked env s)
        (sendPackedCommand config env connect false) (fun _ s => Held time s ∧ Linked env s)
        (Raises (FailsHeld config env time)) := by
      apply (meets_connectIfClosed_held connects).bind
      intro _
      exact meets_transmit_held steady
    exact sent.from_state ⟨stable_held.tick s held, linked⟩

/-- A failure connects again only when no connection is opened. -/
theorem meets_disconnectRaiseConnect_held (connects : Quiet (Cut env time) connect) (e : Exc) :
    Meets (FailsHeld config env time e) (disconnectRaiseConnect config connect e)
      (fun _ s => Cut env time s ∧ Held time s) (Raises fun _ => Held time) := by
  have closes : Meets (FailsHeld config env time e) (disconnect : Action H Unit)
      (fun _ => FailsHeld config env time e) (Raises fun _ => Held time) :=
    meets_modify fun s failed => ⟨stable_held.sock false s failed.1, failed.2⟩
  apply closes.bind
  intro _
  apply meets_ite
  · intro retried
    have cut : Quiet (Cut env time) (connectIfClosed connect) := Stable.connectIfClosed connects
    exact cut.weaken (fun s failed => ⟨failed.1, failed.2 retried⟩)
      (fun _ _ ends => ⟨ends, ends.toHeld⟩) (Raises.mono fun _ _ ends => ends.toHeld)
  · intro _
    exact meets_throw fun s failed => failed.1

/-- A command is sent, with retries, while the lock is held. -/
theorem meets_execute_held (steady : Steady config env) (connects : Quiet (Cut env time) connect)
    (command : Command) :
    Meets (fun s => Held time s ∧ Prepared env command s)
      (execute config env connect (Line.sendCommand config env connect command false))
      (fun _ s => Held time s ∧ Linked env s) (Raises fun _ => Held time) :=
  meets_callWithRetry (meets_sendCommand_held steady connects command)
    (meets_disconnectRaiseConnect_held connects) (fun _ _ failed => failed.1)
    (fun _ cut => ⟨cut.toHeld, .inl (.inr cut.unreachable)⟩) (fun _ cut => cut.toHeld) env.patience 0

/-- `execute_command` while something may be subscribed to. -/
theorem meets_executeCommand_ready (steady : Steady config env)
    (connects : Quiet (Cut env time) connect) (command : Command) :
    Meets (fun s => Ready time s ∧ Prepared env command s)
      (executeCommand config env connect command)
      (fun _ s => Ready time s ∧ Linked env s) (Raises fun _ => Ready time) := by
  apply meets_get
  rintro s ⟨ready, prepared⟩
  have attached : Meets (· = s) (whenever (s.wire.attached = false) (getConnection env))
      (fun _ => (· = s)) (Raises fun _ => Ready time) := by
    apply meets_whenever
    · intro free
      rw [ready.attached] at free
      cases free
    · exact fun _ _ => id
  apply attached.bind
  intro _
  have subscribed : (!s.pubsub.subscribedEvent) = false := by rw [ready.subscribed]; rfl
  rw [subscribed]
  have sent : Meets (fun s => Ready time s ∧ Prepared env command s)
      (withLock (execute config env connect (Line.sendCommand config env connect command false)))
      (fun _ s => Ready time s ∧ Linked env s) (Raises fun _ => Ready time) :=
    meets_withLock (fun _ start => start.1.free)
      (fun _ start => ⟨⟨rfl, start.1.attached, start.1.subscribed, start.1.later⟩, start.2⟩)
      (meets_execute_held steady connects command)
      (fun _ ends => ⟨⟨rfl, ends.1.attached, ends.1.subscribed, ends.1.later⟩, ends.2⟩)
      fun _ _ ends => ⟨rfl, ends.attached, ends.subscribed, ends.later⟩
  exact sent.from_state ⟨ready, prepared⟩

end Steady

/-! ## Subscribing -/

section Subscribing

variable {P Q T R : Session H Line → Prop} {codec : Codec}
  {execute : Verb → List Name → Action H Unit} {kind : Kind}

/-- Raising what a computation raises. -/
theorem meets_lift (computed : Except Exc α) :
    Meets P (Session.lift computed : Action H α) (fun value s => computed = .ok value ∧ P s)
      (Raises fun _ => P) := by
  cases computed with
  | ok value => exact meets_pure fun _ start => ⟨rfl, start⟩
  | error e => exact meets_throw fun _ => id

/-- The command of a subscription. -/
theorem command_subscribe {args : NameArgs} {kwargs : Dict Text (Option H)} {names : List Name}
    (allowed : kwargs.contains selfWord = false)
    (given : positional .sync { subscribes := true, kind } args = .ok names) :
    (LineCall.subscribe kind args kwargs).command codec = some
      (.subscription { subscribes := true, kind } (newNames names (nameKeywords kind kwargs)).keys) := by
  simp only [LineCall.command, allowed, given]

/-- The command of an unsubscription from some names. -/
theorem command_unsubscribe {args : FirstArg × List Name} {names : List Name}
    {normalized : Dict Name Unit}
    (given : positional .sync { subscribes := false, kind } (some args) = .ok names)
    (keyed : normalizeKeys codec (Dict.fromKeys names ()) = .ok normalized) :
    (LineCall.unsubscribe (H := H) kind (some args)).command codec =
      some (.subscription { subscribes := false, kind } names) := by
  simp only [LineCall.command, given, keyed]

/-- A subscription keeps the contract of the command that it sends. -/
theorem meets_subscribeTo {args : NameArgs} {kwargs : Dict Text (Option H)}
    (sends : ∀ names, (LineCall.subscribe kind args kwargs).command codec =
        some (.subscription { subscribes := true, kind } names) →
      Meets P (execute { subscribes := true, kind } names) (fun _ => Q) (Raises fun _ => R))
    (refused : ∀ s, P s → R s) (unnamed : ∀ s, Q s → R s)
    (noted : ∀ new s, Q s → T { s with pubsub := s.pubsub.noteSubscribed kind new }) :
    Meets P (subscribeTo .sync codec execute kind args kwargs) (fun _ => T) (Raises fun _ => R) := by
  apply meets_ite
  · intro _
    exact meets_throw refused
  · intro allowed
    have given := meets_lift (P := P) (positional .sync { subscribes := true, kind } args)
    apply (given.weaken (fun _ => id) (fun _ _ => id) (Raises.mono fun _ => refused)).bind
    intro names
    apply Meets.bind (Q := fun _ => Q)
    · rintro s ⟨found, start⟩
      exact sends _ (command_subscribe ((Bool.not_eq_true _).mp allowed) found) s start
    · intro _
      have keyed := meets_lift (P := Q)
        (normalizeKeys codec (newNames names (nameKeywords kind kwargs)))
      apply (keyed.weaken (fun _ => id) (fun _ _ => id) (Raises.mono fun _ => unnamed)).bind
      intro new
      exact meets_modify fun s ends => noted new s ends.2

/-- An unsubscription keeps the contract of the command that it sends. -/
theorem meets_unsubscribeFrom {args : NameArgs} (pends : ∀ names s, P s →
      P { s with pubsub := s.pubsub.notePending kind names })
    (sends : ∀ names, (LineCall.unsubscribe (H := H) kind args).command codec =
        some (.subscription { subscribes := false, kind } names) →
      Meets P (execute { subscribes := false, kind } names) (fun _ => Q) (Raises fun _ => R))
    (refused : ∀ s, P s → R s) :
    Meets P (unsubscribeFrom .sync codec execute kind args) (fun _ => Q) (Raises fun _ => R) := by
  cases args with
  | none =>
    have pending : Meets P (Session.note fun p => p.notePending kind (p.of kind).names.keys)
        (fun _ => P) (Raises fun _ => R) :=
      meets_modify fun s start => pends _ s start
    exact pending.bind fun _ => sends [] rfl
  | some args =>
    have given := meets_lift (P := P) (positional .sync { subscribes := false, kind } (some args))
    apply (given.weaken (fun _ => id) (fun _ _ => id) (Raises.mono fun _ => refused)).bind
    intro names
    have keyed := meets_lift
      (P := fun s => positional .sync { subscribes := false, kind } (some args) = .ok names ∧ P s)
      (normalizeKeys codec (Dict.fromKeys names ()))
    apply (keyed.weaken (fun _ => id) (fun _ _ => id)
      (Raises.mono fun _ s ends => refused s ends.2)).bind
    intro normalized
    apply Meets.bind (Q := fun _ s => positional .sync { subscribes := false, kind } (some args) =
      .ok names ∧ normalizeKeys codec (Dict.fromKeys names ()) = .ok normalized ∧ P s)
    · exact meets_modify fun s start => ⟨start.2.1, start.1, pends _ s start.2.2⟩
    · rintro _ s ⟨found, normal, start⟩
      exact sends names (command_unsubscribe found normal) s start

end Subscribing

/-! ## Connecting while the lock is free -/

section Connecting

variable {time : Nat} {config : ConnectionConfig} {env : LineEnv} {codec : Codec}
  {connect reconnect : Action H Unit}

/-- What `on_connect` may rely on. -/
structure Connected (env : LineEnv) (time : Nat) (s : Session H Line) : Prop extends
    Orderly time s where
  attached : s.wire.attached = true
  linked : Linked env s

/-- Subscribing again to the names of one kind. -/
theorem meets_resubscribe (steady : Steady config env) (connects : Quiet (Cut env time) connect)
    (kind : Kind) :
    Meets (Connected env time)
      (resubscribe .sync codec
        (fun verb names => executeCommand config env connect (.subscription verb names)) kind)
      (fun _ => Connected env time) (Raises fun _ => Orderly time) := by
  apply meets_get
  intro s connected
  apply meets_whenever
  · intro some
    have any : s.pubsub.any = true := by
      refine (PubSub.any_iff _).mpr ⟨kind, fun none => ?_⟩
      rw [none] at some
      cases some
    have ready : Ready time s := ⟨connected.free, connected.attached, (connected.held any).2,
      connected.later⟩
    have read := meets_lift (P := (· = s)) (keywords codec (s.pubsub.of kind).names)
    have stays (_ : Exc) (t : Session H Line) (same : t = s) : Orderly time t := by
      rw [same]
      exact connected.toOrderly
    apply (read.weaken (fun _ => id) (fun _ _ => id) (Raises.mono stays)).bind
    intro kwargs
    have subscribed : Meets (fun s => Ready time s ∧ Linked env s)
        (subscribeTo .sync codec
          (fun verb names => executeCommand config env connect (.subscription verb names))
          kind none kwargs)
        (fun _ => Connected env time) (Raises fun _ => Orderly time) := by
      apply meets_subscribeTo (Q := fun s => Ready time s ∧ Linked env s)
      · intro names _
        have sent := meets_executeCommand_ready steady connects
          (.subscription { subscribes := true, kind } names)
        exact sent.weaken (fun s start => ⟨start.1, .inl start.2⟩) (fun _ _ => id)
          (Raises.mono fun _ _ ends => ends.orderly)
      · exact fun s start => start.1.orderly
      · exact fun s start => start.1.orderly
      · rintro new t ⟨ready, linked⟩
        exact {
          free := ready.free
          held := fun _ => ⟨ready.attached, PubSub.subscribedEvent_noteSubscribed ..⟩
          later := ready.later
          attached := ready.attached
          linked }
    apply subscribed.assuming
    rintro t ⟨-, rfl⟩
    exact ⟨ready, connected.linked⟩
  · rintro _ t rfl
    exact connected

/-- `on_connect` while the lock is free. -/
theorem meets_onConnect (steady : Steady config env) (connects : Quiet (Cut env time) connect) :
    Meets (Connected env time)
      (onConnect .sync codec fun verb names =>
        executeCommand config env connect (.subscription verb names))
      (fun _ => Connected env time) (Raises fun _ => Orderly time) := by
  have clears : Meets (Connected env time) (Session.note PubSub.clearPending : Action H Unit)
      (fun _ => Connected env time) (Raises fun _ => Orderly time) := by
    apply meets_modify
    intro s connected
    exact { connected with held := connected.held }
  apply clears.bind
  intro _
  apply (meets_resubscribe steady connects .channel).bind
  intro _
  apply (meets_resubscribe steady connects .pattern).bind
  intro _
  exact meets_whenever (fun _ => meets_resubscribe steady connects .shard) fun _ _ => id

/-- A handshake that returns leaves a socket, or no connection is opened any more. -/
theorem meets_shakeHands (steady : Steady config env)
    (reconnects : ∀ time, Quiet (Orderly time) reconnect) :
    Meets (Orderly time) (shakeHands env reconnect) (fun _ s => Orderly time s ∧ Linked env s)
      (Raises fun _ => Orderly time) := by
  apply meets_asked
  intro s orderly
  have now : Orderly (s.wire.clock + 1) (tick s) := ⟨orderly.free, orderly.held, Nat.le_refl _⟩
  have earlier (t : Session H Line) (later : Orderly (s.wire.clock + 1) t) : Orderly time t :=
    ⟨later.free, later.held, (Nat.le_succ_of_le orderly.later).trans later.later⟩
  have again : Quiet (Orderly (s.wire.clock + 1))
      (connectAgain reconnect (env.greeting s.wire.clock).again) :=
    stable_orderly.connectAgain (reconnects _) _
  have shaken : Meets (Orderly (s.wire.clock + 1))
      (do
        connectAgain reconnect (env.greeting s.wire.clock).again
        modify (withSock (env.greeting s.wire.clock).sock)
        raise (env.greeting s.wire.clock).failure)
      (fun _ s => Orderly time s ∧ Linked env s) (Raises fun _ => Orderly time) := by
    apply (again.weaken (fun _ => id) (fun _ _ => id) (Raises.mono fun _ => earlier)).bind
    intro _
    apply Meets.bind (Q := fun _ t => Orderly (s.wire.clock + 1) t ∧
      t.wire.sock = (env.greeting s.wire.clock).sock)
    · exact meets_modify fun t later => ⟨stable_orderly.sock _ t later, rfl⟩
    · intro _
      cases failed : (env.greeting s.wire.clock).failure with
      | some e => exact meets_throw fun t ends => earlier t ends.1
      | none =>
        apply meets_pure
        rintro t ⟨later, left⟩
        refine ⟨earlier t later, ?_⟩
        cases sock : t.wire.sock with
        | true => exact .inl sock
        | false =>
          have unreachable : Unreachable env (s.wire.clock + 1) :=
            steady.greets _ failed (left.symm.trans sock)
          exact .inr (unreachable.later later.later)
  exact shaken.from_state now

/-- Connecting while the lock is free. -/
theorem quiet_connect_orderly (steady : Steady config env) (depth : Nat) :
    Quiet (Orderly time : Session H Line → Prop) (connectCheckHealth config env codec depth) := by
  induction depth generalizing time with
  | zero => exact quiet_throw _
  | succ depth ih =>
    apply Meets.bind stable_orderly.dials
    intro _
    have shaken : Meets (Orderly time) (shakeHands env (connectCheckHealth config env codec depth))
        (fun _ s => Orderly time s ∧ Linked env s) (Raises fun _ => Orderly time) :=
      meets_shakeHands steady fun _ => ih
    apply (meets_rescue shaken stable_orderly.cleansUp).bind
    intro _
    apply meets_get
    rintro s ⟨orderly, linked⟩
    apply meets_whenever
    · intro attached
      have connected : Connected env time s := { orderly with attached, linked }
      have called : Meets (Connected env time : Session H Line → Prop)
          (onConnect .sync codec fun verb names => executeCommand config env
            (connectCheckHealth config env codec depth) (.subscription verb names))
          (fun _ => Connected env time) (Raises fun _ => Orderly time) :=
        meets_onConnect steady (quiet_connect_cut depth)
      exact (called.weaken (fun _ => id) (fun _ _ ends => ends.toOrderly) fun _ _ => id).from_state
        connected
    · rintro _ t rfl
      exact orderly

end Connecting

/-! ## Calls -/

section Calls

variable {config : ConnectionConfig} {env : LineEnv} {codec : Codec} {attached : Bool}

/-- While nothing is subscribed to, everything is in order. -/
theorem Idle.orderly {s : Session H Line} (idle : Idle false attached s) : Orderly 0 s where
  free := idle.lock
  held any := by
    rw [idle.none] at any
    cases any
  later := Nat.zero_le _

/-- Noting a subscription. -/
theorem Orderly.subscribed {s : Session H Line} (free : s.wire.lock = false)
    (attached : s.wire.attached = true) (kind : Kind) (new : Dict Name (Option H)) :
    Orderly 0 { s with pubsub := s.pubsub.noteSubscribed kind new } where
  free := free
  held _ := ⟨attached, PubSub.subscribedEvent_noteSubscribed ..⟩
  later := Nat.zero_le _

/-- Handling a message. -/
theorem Orderly.handled {s : Session H Line} (orderly : Orderly 0 s) (response : Push Name)
    (ignoreSubscribeMessages : Bool) :
    Orderly 0 { s with
      pubsub := (s.pubsub.handleMessage response ignoreSubscribeMessages).1 } where
  free := orderly.free
  held any := by
    rw [handleMessage_fst] at any ⊢
    obtain ⟨before, same⟩ := any_noteMessage any
    obtain ⟨attached, subscribed⟩ := orderly.held before
    exact ⟨attached, same.trans subscribed⟩
  later := orderly.later

/-- A message is read and handled. -/
theorem meets_getMessage {I : Session H Line → Prop} {connect : Action H Unit} (stable : Stable I)
    (connects : Quiet I connect) (orderly : ∀ s, I s → Orderly 0 s)
    (block ignoreSubscribeMessages : Bool) :
    Meets I (getMessage config env connect block ignoreSubscribeMessages) (fun _ => Orderly 0)
      (Raises fun _ => Orderly 0) := by
  apply meets_get
  intro s start
  apply meets_whenever
  · intro _
    have parsed : Quiet I (parseResponse config env connect block) :=
      stable.parseResponse connects block
    have read := parsed.weaken (fun _ => id) (fun _ => orderly) (Raises.mono fun _ => orderly)
    apply (read.from_state start).bind
    intro response
    apply meets_whenSome
    · intro response
      exact meets_modify fun t ends => ends.handled response ignoreSubscribeMessages
    · exact fun _ => id
  · rintro _ t rfl
    exact orderly t start

/-- The call sends a command of its own. -/
def LineCall.sends : LineCall H → Bool
  | .subscribe .. => true
  | .unsubscribe .. => true
  | .ping => true
  | _ => false

/-- A call that does not need the lock. -/
theorem meets_silent {I : Session H Line → Prop} (stable : Stable I)
    (connects : Quiet I (connect config env codec)) (orderly : ∀ s, I s → Orderly 0 s)
    {call : LineCall H} (silent : call.sends = false) :
    Meets I (call.run config codec env) (fun _ => Orderly 0) (Raises fun _ => Orderly 0) := by
  have ends {program : Action H Unit} (quiet : Quiet I program) :
      Meets I program (fun _ => Orderly 0) (Raises fun _ => Orderly 0) :=
    quiet.weaken (fun _ => id) (fun _ => orderly) (Raises.mono fun _ => orderly)
  cases call with
  | getMessage block ignoreSubscribeMessages =>
    exact meets_getMessage stable connects orderly block ignoreSubscribeMessages
  | checkHealth => exact ends (quiet_get fun s => quiet_ite (stable.checkHealth connects) (quiet_throw _))
  | cleanHealthCheckResponses => exact ends (stable.cleanHealthCheckResponses connects 10)
  | reset =>
    apply meets_modify
    intro s start
    exact {
      free := (orderly s start).free
      held := fun any => by cases any
      later := Nat.zero_le _ }
  | disconnect => exact ends stable.disconnect
  | subscribe kind args kwargs => cases silent
  | unsubscribe kind args => cases silent
  | ping => cases silent

/-- A call while nothing is subscribed to. -/
theorem meets_run_idle (call : LineCall H) :
    Meets (Idle false attached) (call.run config codec env) (fun _ => Orderly 0)
      (Raises fun _ => Orderly 0) := by
  have connects (lock attached : Bool) :
      Quiet (Idle lock attached : Session H Line → Prop) (connect config env codec) :=
    quiet_connect_idle env.depth
  have sends (command : Command) : Meets (Idle false attached)
      (executeCommand config env (connect config env codec) command) (fun _ => Idle false true)
      (Raises fun _ => Orderly 0) :=
    (meets_executeCommand_idle (fun lock => connects lock true) command).weaken (fun _ => id)
      (fun _ _ => id) (Raises.mono fun _ _ some => some.elim fun _ idle => idle.orderly)
  have orderly {attached : Bool} (s : Session H Line) (idle : Idle false attached s) :
      Orderly 0 s := idle.orderly
  cases call with
  | subscribe kind args kwargs =>
    unfold LineCall.run
    refine meets_subscribeTo (Q := Idle false true) (fun names _ => ?_) orderly orderly ?_
    · exact sends _
    · exact fun new s idle => Orderly.subscribed idle.lock idle.attached kind new
  | unsubscribe kind args =>
    have pends (names : List Name) (s : Session H Line) (idle : Idle false attached s) :
        Idle false attached { s with pubsub := s.pubsub.notePending kind names } :=
      ⟨idle.lock, idle.attached, (event_notePending s.pubsub kind names).2.trans idle.none⟩
    unfold LineCall.run
    refine Meets.weaken (Q := fun _ => Idle false true) (E := Raises fun _ => Orderly 0)
      (meets_unsubscribeFrom pends (fun names _ => ?_) orderly) (fun _ => id) (fun _ => orderly)
      fun _ _ => id
    exact sends _
  | ping => exact (sends .ping).weaken (fun _ => id) (fun _ => orderly) fun _ _ => id
  | _ => exact meets_silent stable_idle (connects false attached) orderly rfl

/-- A call while something is subscribed to, if what it sends is prepared. -/
theorem meets_run_steady (steady : Steady config env) (call : LineCall H) {line : Line}
    (prepared : ∀ command, call.command codec = some command →
      line.sock = true ∨ Unreachable env line.clock ∨ env.pack command line.clock ≠ none) :
    Meets (fun s => Ready 0 s ∧ s.wire = line) (call.run config codec env) (fun _ => Orderly 0)
      (Raises fun _ => Orderly 0) := by
  have connects : Quiet (Orderly 0 : Session H Line → Prop) (connect config env codec) :=
    quiet_connect_orderly steady env.depth
  have cut : Quiet (Cut env 0 : Session H Line → Prop) (connect config env codec) :=
    quiet_connect_cut env.depth
  have sends (command : Command) (own : call.command codec = some command) :
      Meets (fun s => Ready 0 s ∧ s.wire = line)
        (executeCommand config env (connect config env codec) command)
        (fun _ => Ready 0) (Raises fun _ => Orderly 0 : Stop → Session H Line → Prop) := by
    apply (meets_executeCommand_ready steady cut command).weaken
    · rintro s ⟨ready, same⟩
      refine ⟨ready, ?_⟩
      unfold Prepared Linked
      rw [same, or_assoc]
      exact prepared command own
    · exact fun _ _ ends => ends.1
    · exact Raises.mono fun _ _ ends => ends.orderly
  have orderly (s : Session H Line) (ready : Ready 0 s) : Orderly 0 s := ready.orderly
  have begins (s : Session H Line) (start : Ready 0 s ∧ s.wire = line) : Orderly 0 s :=
    start.1.orderly
  cases call with
  | subscribe kind args kwargs =>
    unfold LineCall.run
    refine meets_subscribeTo (Q := Ready 0) (fun names own => ?_) begins orderly ?_
    · exact sends _ own
    · exact fun new s ready => Orderly.subscribed ready.free ready.attached kind new
  | unsubscribe kind args =>
    have pends (names : List Name) (s : Session H Line) (start : Ready 0 s ∧ s.wire = line) :
        Ready 0 { s with pubsub := s.pubsub.notePending kind names } ∧ s.wire = line :=
      ⟨⟨start.1.free, start.1.attached,
        (event_notePending s.pubsub kind names).1.trans start.1.subscribed, start.1.later⟩, start.2⟩
    unfold LineCall.run
    refine Meets.weaken (Q := fun _ => Ready 0) (E := Raises fun _ => Orderly 0)
      (meets_unsubscribeFrom pends (fun names own => ?_) begins) (fun _ => id) (fun _ => orderly)
      fun _ _ => id
    exact sends _ own
  | ping => exact (sends .ping rfl).weaken (fun _ => id) (fun _ => orderly) fun _ _ => id
  | _ => exact (meets_silent stable_orderly connects (fun _ => id) rfl).assuming begins

end Calls

/-! ## Runs -/

section Runs

variable {config : ConnectionConfig} {codec : Codec}

/-- An allowed call is not blocked, and leaves everything in order. -/
theorem Orderly.passes {s : Session H Line} (orderly : Orderly 0 s) {call : LineCall H × LineEnv}
    (allowed : LineCall.Allowed config codec s call) :
    LineCall.Passes config codec s call ∧ Orderly 0 (LineCall.next config codec s call) := by
  have ends : Meets (· = LineCall.begin s) (call.1.run config codec call.2) (fun _ => Orderly 0)
      (Raises fun _ => Orderly 0) := by
    rcases Bool.eq_false_or_eq_true s.pubsub.any with any | none
    · obtain ⟨steady, prepared⟩ := allowed.resolve_left (by simp [any])
      obtain ⟨attached, subscribed⟩ := orderly.held any
      have ready : Ready 0 (LineCall.begin s) := ⟨orderly.free, attached, subscribed, Nat.zero_le _⟩
      have sends (command : Command) (own : call.1.command codec = some command) :
          s.wire.sock = true ∨ Unreachable call.2 0 ∨ call.2.pack command 0 ≠ none := by
        rcases prepared command own with sock | packs | unreachable
        · exact .inl sock
        · exact .inr (.inr packs)
        · exact .inr (.inl unreachable)
      exact (meets_run_steady steady call.1 sends).from_state ⟨ready, rfl⟩
    · have idle : Idle false s.wire.attached (LineCall.begin s) := ⟨orderly.free, rfl, none⟩
      exact (meets_run_idle call.1).from_state idle
  have result := ends (LineCall.begin s) rfl
  unfold LineCall.Passes LineCall.next
  cases ran : call.1.run config codec call.2 (LineCall.begin s) with
  | ok value t =>
    rw [ran] at result
    exact ⟨fun _ same => (by cases same), result⟩
  | error stop t =>
    rw [ran] at result
    cases stop with
    | raised e => exact ⟨fun _ same => (by cases same), result⟩
    | blocked => exact result.elim

/-- A new object is in order. -/
theorem orderly_start : Orderly 0 (LineCall.start : Session H Line) where
  free := rfl
  held any := by cases any
  later := Nat.le_refl _

end Runs

/-- In a run of a new object no call takes the lock twice, if no call can open a connection while it
holds the lock and something is subscribed to. -/
theorem never_blocked (config : ConnectionConfig) (codec : Codec) {calls : List (LineCall H × LineEnv)}
    (each : Each (LineCall.next config codec) (LineCall.Allowed config codec) LineCall.start calls) :
    Each (LineCall.next config codec) (LineCall.Passes config codec) LineCall.start calls :=
  each_of_each (Orderly 0) (fun _ _ orderly allowed => orderly.passes allowed) orderly_start each

/-- Everything works, and the same is read every time. -/
def LineEnv.working (reading : Reading) : LineEnv where
  patience := 5
  depth := 5
  getConnection _ := .ok true
  dial _ := none
  greeting _ := { again := [], failure := none, sock := true }
  due _ := false
  pack _ _ := none
  send _ := none
  canRead _ := .ok true
  read _ := reading

/-- An answer to `PING`. -/
def LineEnv.answering : LineEnv := .working (.response (.push (.pong (.bytes []))))

/-- The server closes the connection. -/
def LineEnv.closing : LineEnv := .working (.failed { cls := .connectionError })

/-- A connection with the default settings. -/
def plainConfig : ConnectionConfig where
  retry :=
    { retries := some 0
      supportedErrors := [.connectionError, .timeoutError, .builtinTimeoutError] }
  retryOnError := some []
  healthChecks := false
  resp3 := false
  credentials := none
  clientName := none
  libName := none
  libVersion := none
  db := 0

/-- Where nothing fails and handshakes leave a socket, no connection is opened in a wrong place. -/
theorem steady_working (config : ConnectionConfig) (reading : Reading) :
    Steady config (.working reading) where
  packs _ _ _ failed := by cases failed
  sends _ _ failed := by cases failed
  greets _ _ closed := by cases closed

/-- A connection that the server closes is opened again by `get_message`, and the next command finds
its socket. -/
theorem never_blocked_reopened :
    Each (LineCall.next plainConfig octetCodec) (LineCall.Passes plainConfig octetCodec) LineCall.start
      ([(.subscribe .channel (one "a") [], .answering), (.getMessage true false, .closing),
        (.getMessage true false, .answering), (.ping, .answering)] : List (LineCall Unit × LineEnv)) := by
  apply never_blocked
  refine each_cons.mpr ⟨.inl rfl, each_cons.mpr ⟨.inr ⟨steady_working .., ?_⟩, each_cons.mpr
    ⟨.inr ⟨steady_working .., ?_⟩, each_cons.mpr ⟨.inr ⟨steady_working .., ?_⟩, each_nil⟩⟩⟩⟩
  · intro command none
    cases none
  · intro command none
    cases none
  · intro command _
    exact .inl rfl

/-- A command that finds no socket connects again while it holds the lock, and so does a command
whose sending fails with an error that is retried. -/
theorem blocked_while_sending :
    ¬Each (LineCall.next plainConfig octetCodec) (LineCall.Passes plainConfig octetCodec) LineCall.start
      ([(.subscribe .channel (one "a") [], .answering), (.getMessage true false, .closing),
        (.ping, .answering)] : List (LineCall Unit × LineEnv)) ∧
    let config := { plainConfig with
      retry := { plainConfig.retry with retries := some 1 }
      retryOnError := some [.connectionError] }
    let failing : LineEnv := { LineEnv.answering with
      send := fun n => if n = 1 then some { cls := .osError } else none }
    ¬Each (LineCall.next config octetCodec) (LineCall.Passes config octetCodec) LineCall.start
      ([(.subscribe .channel (one "a") [], .answering), (.ping, failing)] :
        List (LineCall Unit × LineEnv)) := by
  constructor
  · intro each
    exact each [(.subscribe .channel (one "a") [], .answering), (.getMessage true false, .closing)]
      (.ping, .answering) [] rfl _ rfl
  · intro config failing each
    exact each [(.subscribe .channel (one "a") [], .answering)] (.ping, failing) [] rfl _ rfl

end RedisPy.Channels

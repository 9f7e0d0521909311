import RedisPy.Client.Pipeline

/-!
# How a connection conducts itself

Everything that a connection does besides sending a caller's batch is made of a few
primitives: opening a session, writing one command, reading one reply and disconnecting.
`Conduct` collects what these owe to a family of predicates; connecting with the handshake,
health checks and sending owe the same then. One predicate holds between commands, one
while a reply is awaited, and one when connecting or sending has failed.
-/

namespace RedisPy

open Contract

variable {F : Type}

namespace Retry

section CallWithRetry

variable {σ α : Type} (retry : Retry) {P : σ → Prop} {Q : α → σ → Prop} {E E' : Exc → σ → Prop}
variable {run : EStateM Exc σ α} {fail : Exc → EStateM Exc σ Unit}

/-- A failed attempt is cleaned up, and then the loop goes on or ends. -/
theorem meets_handle {again : EStateM Exc σ α} {R : σ → Prop} {failures : Nat}
    (failed : ∀ e, e.isinstanceAny retry.supportedErrors = true →
      Meets (E e) (fail e) (fun _ s => R s ∧ E' e s) E')
    (passed : ∀ e s, ¬e.isinstanceAny retry.supportedErrors = true → E e s → E' e s)
    (next : ¬retry.exhausted failures = true → Meets R again Q E') (e : Exc) :
    Meets (E e) (retry.handle fail again failures e) Q E' := by
  apply meets_ite
  · intro supported
    apply (failed e supported).bind
    intro _
    apply meets_ite
    · intro _
      exact meets_throw fun s ends => ends.2
    · intro goesOn
      exact (next goesOn).assuming fun s ends => ends.1
  · intro unsupported
    exact meets_throw fun s ends => passed e s unsupported ends

/-- Retrying keeps a contract whose failure can be cleaned up; a caller may be interrupted while
it waits. -/
theorem meets_callWithRetry {R : σ → Prop} (attempt : Meets P run Q E)
    (failed : ∀ e, e.isinstanceAny retry.supportedErrors = true →
      Meets (E e) (fail e) (fun _ s => R s ∧ E' e s) E')
    (passed : ∀ e s, ¬e.isinstanceAny retry.supportedErrors = true → E e s → E' e s)
    (again : ∀ s, R s → P s) (interrupted : ∀ s, R s → E' { cls := .keyboardInterrupt } s)
    (patience failures : Nat) : Meets P (retry.callWithRetry run fail patience failures) Q E' := by
  induction patience generalizing failures with
  | zero =>
    exact attempt.recover (retry.meets_handle failed passed fun _ => meets_throw interrupted)
  | succ patience ih =>
    exact attempt.recover (retry.meets_handle failed passed fun _ =>
      (ih (failures + 1)).assuming again)

/-- If the failure handler only returns when the failures are too many, there is one attempt. -/
theorem meets_callWithRetry_last (failures : Nat) (attempt : Meets P run Q E)
    (failed : ∀ e, e.isinstanceAny retry.supportedErrors = true →
      Meets (E e) (fail e) (fun _ s => retry.exhausted (failures + 1) = true ∧ E' e s) E')
    (passed : ∀ e s, ¬e.isinstanceAny retry.supportedErrors = true → E e s → E' e s)
    (patience : Nat) : Meets P (retry.callWithRetry run fail patience failures) Q E' := by
  have handled (again : EStateM Exc σ α) (e : Exc) :
      Meets (E e) (retry.handle fail again (failures + 1) e) Q E' := by
    apply meets_ite
    · intro supported
      apply (failed e supported).bind
      intro _
      apply meets_ite
      · intro _
        exact meets_throw fun s ends => ends.2
      · intro goesOn s ends
        exact absurd ends.1 goesOn
    · intro unsupported
      exact meets_throw fun s ends => passed e s unsupported ends
  cases patience with
  | zero => exact attempt.recover (handled _)
  | succ patience => exact attempt.recover (handled _)

/-- Without retries there is one attempt. -/
theorem meets_callWithRetry_once (single : retry.retries = some 0) (attempt : Meets P run Q E)
    (failed : ∀ e, e.isinstanceAny retry.supportedErrors = true →
      Meets (E e) (fail e) (fun _ => E' e) E')
    (passed : ∀ e s, ¬e.isinstanceAny retry.supportedErrors = true → E e s → E' e s)
    (patience failures : Nat) : Meets P (retry.callWithRetry run fail patience failures) Q E' := by
  have exhausted : retry.exhausted (failures + 1) = true := by
    unfold exhausted
    rw [single]
    simp
  exact retry.meets_callWithRetry_last failures attempt
    (fun e supported => (failed e supported).weaken (fun _ => id) (fun _ _ ends => ⟨exhausted, ends⟩)
      fun _ _ => id) passed patience

/-- Retrying keeps what each attempt and the failure handler keep. -/
theorem keeps_callWithRetry {I : σ → Prop} (attempt : Keeps I run)
    (failed : ∀ e, Keeps I (fail e)) (patience failures : Nat) :
    Keeps I (retry.callWithRetry run fail patience failures) :=
  retry.meets_callWithRetry attempt
    (fun e _ => (failed e).weaken (fun _ => id) (fun _ _ kept => ⟨kept, kept⟩) fun _ _ => id)
    (fun _ _ _ => id) (fun _ => id) (fun _ => id) patience failures

end CallWithRetry

end Retry

namespace Link

/-- What the primitives of a connection owe: `I` between commands, `J` while the reply to a
command is awaited, `E` when connecting or sending has failed. -/
structure Conduct (config : ConnectionConfig) (env : Env F) (I : Link → Prop)
    (J : Words → Link → Prop) (E : Link → Prop) : Prop where
  /-- A failure is no worse than what holds between commands. -/
  between : ∀ s, E s → I s
  /-- Without a socket nothing can go wrong. -/
  without : ∀ s, I s → s.conn.sock = none → E s
  /-- Disconnecting. -/
  closes : ∀ s, I s → I s.closed
  /-- Asking the environment. -/
  ticks : ∀ s, I s → I s.tick
  /-- Opening a session. -/
  dials : Meets (fun s => I s ∧ s.conn.sock = none) (dial env) (fun _ => I)
    fun _ s => I s ∧ s.conn.sock = none
  /-- Writing a command. -/
  transmits : ∀ words, Meets I (transmit env (.command words)) (fun _ => J words) fun _ => E
  /-- Reading its reply. -/
  reads : ∀ words, Meets (J words) (readResponse env) (fun _ => I) fun e s =>
    E s ∨ e.isinstance .redisError = true ∧ I s
  /-- Reading the reply to a health check. -/
  pings : Meets (J ["PING".toList]) (readResponse env) (fun _ => I) fun _ => E
  /-- A health check that is answered wrongly is retried. -/
  pongs : ∀ s, I s → E s ∨
    (Exc.isinstanceAny { cls := .connectionError } config.retry.supportedErrors) = true
  /-- Reading the reply to the choice of a protocol. -/
  hellos : Meets (J ["HELLO".toList, "3".toList]) (readResponse env)
    (fun response s => I s ∧ (E s ∨ ∃ accepted, response.isProtocol3 = .ok accepted)) fun e s =>
      E s ∨ e.isinstance .redisError = true ∧ I s
  /-- A credential provider that raises. -/
  credentials : ∀ e s, config.credentials = some (.error e) → I s →
    E s ∨ e.isinstance .redisError = true ∧ I s

section Conducts

variable {config : ConnectionConfig} {env : Env F} {I : Link → Prop} {J : Words → Link → Prop}
variable {E : Link → Prop} (conduct : Conduct config env I J E)

include conduct

omit conduct in
/-- After a failed handshake step: a failure, or an error that the handshake cleans up after. -/
theorem meets_refused {e : Exc} (redis : e.isinstance .redisError = true) :
    Meets I (throw e : EStateM Exc Link Unit) (fun _ => I) fun e s =>
      E s ∨ e.isinstance .redisError = true ∧ I s :=
  meets_throw fun _ holds => .inr ⟨redis, holds⟩

/-- A failure during the handshake leaves what holds between commands. -/
theorem Conduct.afterRefusal {e : Exc} {s : Link}
    (failed : E s ∨ e.isinstance .redisError = true ∧ I s) : I s := by
  rcases failed with failed | ⟨_, holds⟩
  · exact conduct.between s failed
  · exact holds

/-- Disconnecting clears a failure up. -/
theorem Conduct.disconnects : Meets I disconnect (fun _ s => I s ∧ s.conn.sock = none) fun _ => E :=
  meets_modify fun s holds => ⟨conduct.closes s holds, rfl⟩

/-- Another holder may disconnect. -/
theorem Conduct.interferes : Meets I (interfere env) (fun _ => I) fun _ => E := by
  apply meets_modify
  intro s holds
  by_cases stolen : env.stolen s.net.clock = true
  · rw [if_pos stolen]
    exact conduct.closes _ (conduct.ticks s holds)
  · rw [if_neg stolen]
    exact conduct.ticks s holds

section Reconnecting

variable {reconnect : EStateM Exc Link Unit}
variable (reconnects : Meets (fun s => I s ∧ s.conn.sock = none) reconnect (fun _ => I) fun _ => E)

include reconnects

omit conduct in
/-- Connecting where there is no socket. -/
theorem meets_connectIfClosed : Meets I (connectIfClosed reconnect) (fun _ => I) fun _ => E := by
  apply meets_get
  intro s holds
  apply meets_whenever
  · intro closed
    exact reconnects.from_state ⟨holds, closed⟩
  · intro _ t same
    rw [same]
    exact holds

/-- A health check. -/
theorem Conduct.sendPing : Meets I (sendPing env reconnect) (fun _ => I) fun e s =>
    E s ∨ e.isinstanceAny config.retry.supportedErrors = true ∧ I s := by
  have fails : ∀ (e : Exc) s, E s →
      E s ∨ e.isinstanceAny config.retry.supportedErrors = true ∧ I s := fun _ _ => Or.inl
  apply (conduct.interferes.weaken (fun _ => id) (fun _ _ => id) fails).bind
  intro _
  apply ((meets_connectIfClosed reconnects).weaken (fun _ => id) (fun _ _ => id) fails).bind
  intro _
  apply ((conduct.transmits _).weaken (fun _ => id) (fun _ _ => id) fails).bind
  intro _
  apply (conduct.pings.weaken (fun _ => id) (fun _ _ => id) fails).bind
  intro response
  apply meets_whenever
  · intro _
    exact meets_throw fun s holds => (conduct.pongs s holds).imp_right fun known => ⟨known, holds⟩
  · intro _ _
    exact id

/-- Checking the health. -/
theorem Conduct.checkHealth : Meets I (checkHealth config env reconnect) (fun _ => I) fun _ => E := by
  apply meets_get
  intro s holds
  apply meets_whenever
  · intro _
    have cleaned : ∀ e : Exc, e.isinstanceAny config.retry.supportedErrors = true →
        Meets (fun s => E s ∨ e.isinstanceAny config.retry.supportedErrors = true ∧ I s) disconnect
          (fun _ s => (I s ∧ s.conn.sock = none) ∧ E s) fun (_ : Exc) => E :=
      fun e _ => conduct.disconnects.weaken
        (fun s failed => failed.elim (conduct.between s) And.right)
        (fun _ s closed => ⟨closed, conduct.without s closed.1 closed.2⟩) fun _ _ => id
    have tried := config.retry.meets_callWithRetry (conduct.sendPing reconnects) cleaned
      (fun e s unsupported failed => failed.elim id fun known => absurd known.1 unsupported)
      (fun _ => And.left) (fun s closed => conduct.without s closed.1 closed.2) env.patience 0
    exact tried.from_state holds
  · intro _ t same
    rw [same]
    exact holds

/-- Sending a batch, given what writing it owes. -/
theorem Conduct.sendPackedCommand {batch : Batch} {Q : Unit → Link → Prop} {E' : Exc → Link → Prop}
    (transmits : Meets I (transmit env batch) Q E') (failed : ∀ e s, E s → E' e s) (check : Bool) :
    Meets I (sendPackedCommand config env reconnect batch check) Q E' := by
  apply (conduct.interferes.weaken (fun _ => id) (fun _ _ => id) failed).bind
  intro _
  apply ((meets_connectIfClosed reconnects).weaken (fun _ => id) (fun _ _ => id) failed).bind
  intro _
  have checked : Meets I (whenever check (Link.checkHealth config env reconnect)) (fun _ => I) E' :=
    meets_whenever (fun _ => (conduct.checkHealth reconnects).weaken (fun _ => id) (fun _ _ => id)
      failed) fun _ _ => id
  exact checked.bind fun _ => transmits

/-- Sending a command. -/
theorem Conduct.sendCommand (words : Words) (check : Bool) :
    Meets I (Link.sendPackedCommand config env reconnect (.command words) check) (fun _ => J words)
      fun _ => E :=
  conduct.sendPackedCommand reconnects (conduct.transmits words) (fun _ _ => id) check

/-- A command of the handshake and its reply. -/
theorem Conduct.exchange (words : Words) (check : Bool) :
    Meets I (exchange config env reconnect words check) (fun _ => I) fun e s =>
      E s ∨ e.isinstance .redisError = true ∧ I s :=
  ((conduct.sendCommand reconnects words check).weaken (fun _ => id) (fun _ _ => id)
    fun _ _ => Or.inl).bind fun _ => conduct.reads words

/-- A step of the handshake that must be answered `OK`. -/
theorem Conduct.exchangeOk (words : Words) (check : Bool) {refused : ExcClass}
    (redis : refused.issubclass .redisError = true) :
    Meets I (exchangeOk config env reconnect words check refused) (fun _ => I) fun e s =>
      E s ∨ e.isinstance .redisError = true ∧ I s := by
  apply (conduct.exchange reconnects words check).bind
  intro response
  exact meets_whenever (fun _ => meets_refused redis) fun _ _ => id

/-- A step of the handshake that the server may refuse. -/
theorem Conduct.exchangeOptional (words : Words) (check : Bool) :
    Meets I (exchangeOptional config env reconnect words check) (fun _ => I) fun e s =>
      E s ∨ e.isinstance .redisError = true ∧ I s := by
  have tried : Meets I (do let _ ← Link.exchange config env reconnect words check) (fun _ => I) _ :=
    (conduct.exchange reconnects words check).bind fun _ => meets_pure fun _ => id
  apply tried.recover
  intro e
  apply meets_ite
  · intro _
    exact meets_pure fun _ failed => conduct.afterRefusal failed
  · intro _
    exact meets_throw fun _ => id

/-- The part of the handshake that authenticates or chooses the protocol. -/
theorem Conduct.greet (authArgs : List Text) (check : Bool) :
    Meets I (greet config env reconnect authArgs check) (fun _ => I) fun e s =>
      E s ∨ e.isinstance .redisError = true ∧ I s := by
  apply meets_ite
  · intro _
    exact (conduct.exchange reconnects _ false).bind fun _ => meets_pure fun _ => id
  · intro _
    apply meets_ite
    · intro _
      have sent := (conduct.sendCommand reconnects ("AUTH".toList :: authArgs) false).weaken
        (fun _ => id) (fun _ _ => id) fun (e : Exc) s (failed : E s) =>
          (Or.inl failed : E s ∨ e.isinstance .redisError = true ∧ I s)
      apply sent.bind
      intro _
      have answered : Meets (J ("AUTH".toList :: authArgs)) (recover (readResponse env) fun e =>
          if e.isinstance .authenticationWrongNumberOfArgsError then
            Link.exchange config env reconnect ["AUTH".toList, authArgs.getLastD []] false
          else throw e) (fun _ => I) fun e s => E s ∨ e.isinstance .redisError = true ∧ I s := by
        apply (conduct.reads _).recover
        intro e
        apply meets_ite
        · intro _
          exact (conduct.exchange reconnects _ false).assuming fun _ failed =>
            conduct.afterRefusal failed
        · intro _
          exact meets_throw fun _ => id
      apply answered.bind
      intro response
      exact meets_whenever (fun _ => meets_refused rfl) fun _ _ => id
    · intro _
      apply meets_ite
      · intro _
        have sent := (conduct.sendCommand reconnects ["HELLO".toList, "3".toList] check).weaken
          (fun _ => id) (fun _ _ => id) fun (e : Exc) s (failed : E s) =>
            (Or.inl failed : E s ∨ e.isinstance .redisError = true ∧ I s)
        apply (sent.bind fun _ => conduct.hellos).bind
        intro response
        cases metadata : response.isProtocol3 with
        | ok accepted =>
          cases accepted with
          | true => exact meets_pure fun _ holds => holds.1
          | false => exact meets_throw fun _ holds => .inr ⟨rfl, holds.1⟩
        | error e =>
          apply meets_throw
          intro s holds
          rcases holds.2 with failed | ⟨accepted, other⟩
          · exact .inl failed
          · cases other
      · intro _
        exact meets_pure fun _ => id

omit reconnects in
/-- Asking for the credentials. -/
theorem Conduct.authenticate : Meets I (authenticate config) (fun _ => I) fun e s =>
    E s ∨ e.isinstance .redisError = true ∧ I s := by
  unfold Link.authenticate
  cases given : config.credentials with
  | none => exact meets_pure fun _ => id
  | some credentials =>
    cases credentials with
    | ok authArgs => exact meets_pure fun _ => id
    | error e => exact meets_throw fun s => conduct.credentials e s given

/-- The handshake. -/
theorem Conduct.onConnectCheckHealth (check : Bool) :
    Meets I (onConnectCheckHealth config env reconnect check) (fun _ => I) fun e s =>
      E s ∨ e.isinstance .redisError = true ∧ I s := by
  apply conduct.authenticate.bind
  intro authArgs
  apply (conduct.greet reconnects authArgs check).bind
  intro _
  apply Meets.bind (meets_whenSome (fun _ => conduct.exchangeOk reconnects _ check rfl) fun _ => id)
  intro _
  apply Meets.bind (meets_whenSome (fun _ => conduct.exchangeOptional reconnects _ check)
    fun _ => id)
  intro _
  apply Meets.bind (meets_whenSome (fun _ => conduct.exchangeOptional reconnects _ check)
    fun _ => id)
  intro _
  exact meets_whenever (fun _ => conduct.exchangeOk reconnects _ check rfl) fun _ _ => id

/-- Opening a session: after a failed handshake the connection is closed. -/
theorem Conduct.openSession (check : Bool) :
    Meets (fun s => I s ∧ s.conn.sock = none) (openSession config env reconnect check) (fun _ => I)
      fun _ => E := by
  have closes : Meets (fun s => I s ∧ s.conn.sock = none) disconnect
      (fun _ s => (I s ∧ s.conn.sock = none) ∧ I s ∧ s.conn.sock = none)
      fun (_ : Exc) s => I s ∧ s.conn.sock = none :=
    meets_modify fun s holds =>
      ⟨⟨conduct.closes s holds.1, rfl⟩, conduct.closes s holds.1, rfl⟩
  have dialled := config.retry.meets_callWithRetry conduct.dials (fun _ _ => closes)
    (fun _ _ _ => id) (fun _ => id) (fun _ => id) env.patience 0
  apply (dialled.recover fun e => meets_throw fun s holds =>
    conduct.without s holds.1 holds.2).bind
  intro _
  apply (conduct.onConnectCheckHealth reconnects check).recover
  intro e
  have cleaned : Meets (fun s => E s ∨ e.isinstance .redisError = true ∧ I s)
      (whenever (e.isinstance .redisError) disconnect) (fun _ => E) fun (_ : Exc) => E := by
    apply meets_whenever
    · intro _
      exact meets_modify fun s failed =>
        conduct.without _ (conduct.closes s (conduct.afterRefusal failed)) rfl
    · intro other s failed
      exact failed.elim id fun redis => absurd redis.1 other
  exact cleaned.bind fun _ => meets_throw fun _ => id

end Reconnecting

/-- Connecting, however deep the calls are nested. -/
theorem Conduct.connectCheckHealth (depth : Nat) (check : Bool) :
    Meets I (connectCheckHealth config env depth check) (fun _ => I) fun _ => E := by
  induction depth generalizing check with
  | zero =>
    exact meets_connectIfClosed (meets_throw fun s holds => conduct.without s holds.1 holds.2)
  | succ depth ih =>
    exact meets_connectIfClosed
      (conduct.openSession ((ih false).assuming fun _ => And.left) check)

/-- Sending a batch, given what writing it owes. -/
theorem Conduct.send {batch : Batch} {Q : Unit → Link → Prop} {E' : Exc → Link → Prop}
    (transmits : Meets I (transmit env batch) Q E') (failed : ∀ e s, E s → E' e s) :
    Meets I (send config env batch) Q E' :=
  conduct.sendPackedCommand
    ((conduct.connectCheckHealth env.depth false).assuming fun _ => And.left) transmits failed true

/-- Looking for data. -/
theorem Conduct.canRead : Keeps I (canRead config env) := by
  have connected := conduct.connectCheckHealth env.depth true
  have opened : Keeps I (connectIfClosed (connect config env)) :=
    (meets_connectIfClosed (connected.assuming fun _ => And.left)).weaken (fun _ => id)
      (fun _ _ => id) fun _ => conduct.between
  apply opened.bind
  intro _ s holds
  unfold poll
  cases env.canRead s.net.clock with
  | ok available => exact conduct.ticks s holds
  | error e =>
    by_cases system : e.isinstance .osError = true
    · simp only [if_pos system]
      exact conduct.closes _ (conduct.ticks s holds)
    · simp only [if_neg system]
      exact conduct.ticks s holds

end Conducts

/-- Getting a connection of the pool ready. -/
theorem Conduct.prepare {config : ClientConfig F} {env : Env F} {I : Link → Prop}
    {J : Words → Link → Prop} {E : Link → Prop}
    (conduct : Conduct config.toConnectionConfig env I J E) : Keeps I (prepare config env) := by
  have connects : Keeps I (connect config.toConnectionConfig env) :=
    (conduct.connectCheckHealth env.depth true).weaken (fun _ => id) (fun _ _ => id)
      fun _ => conduct.between
  have verifies : Keeps I (verify config env) := conduct.canRead.bind fun _ => keeps_guard
  have disconnects : Keeps I disconnect := keeps_modify conduct.closes
  apply connects.bind
  intro _
  apply verifies.recover
  intro e
  exact keeps_ite (disconnects.bind fun _ => connects.bind fun _ => verifies) (keeps_throw e)

end Link

end RedisPy

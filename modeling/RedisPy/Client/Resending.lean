import RedisPy.Lib.Recording
import RedisPy.Client.Pipeline

/-!
# Sending a command again

What `Redis.execute_command` does on its connection, with a record beside it: when the command is
given to the socket, how each attempt ends and when the connection is closed. The decision to send
again is split between the loop of `Retry` and the handler of failures, and both go by lists of
classes that the constructors put together.
-/

namespace RedisPy

open Contract Interruptible

variable {F : Type}

/-! ## The classes of errors -/

/-- `update_supported_errors`. -/
def Retry.updateSupportedErrors (retry : Retry) (specifiedErrors : List ExcClass) : Retry :=
  { retry with supportedErrors := retry.supportedErrors ++ specifiedErrors }

/-- `supported_errors`, unless they are given. -/
def Retry.defaultSupportedErrors : List ExcClass :=
  [.connectionError, .timeoutError, .builtinTimeoutError]

/-- The part of the constructor of a connection that sets up `retry` and `retry_on_error`; without
the argument `retry_on_error` is the empty list. -/
def setUpRetries (retryOnTimeout : Bool) (retryOnError : Option (List ExcClass)) (retry : Option Retry) :
    Except Exc (Retry × Option (List ExcClass)) :=
  match retryOnError with
  | none =>
    if retryOnTimeout then .error { cls := .attributeError }
    else
      match retry with
      | none => .ok ({ retries := some 0, supportedErrors := Retry.defaultSupportedErrors }, none)
      | some _ => .error { cls := .typeError }
  | some errors =>
    let errors := if retryOnTimeout then errors ++ [.timeoutError] else errors
    match retry with
    | some retry => .ok (retry.updateSupportedErrors errors, some errors)
    | none =>
      if errors.isEmpty then
        .ok ({ retries := some 0, supportedErrors := Retry.defaultSupportedErrors }, some errors)
      else
        let once := { retries := some 1, supportedErrors := Retry.defaultSupportedErrors : Retry }
        .ok (once.updateSupportedErrors errors, some errors)

/-- The connection retries what its constructor set up. -/
def ConnectionConfig.SetUp (config : ConnectionConfig) : Prop :=
  ∃ retryOnTimeout retryOnError retry,
    setUpRetries retryOnTimeout retryOnError retry = .ok (config.retry, config.retryOnError)

/-- An error after which a command may be sent again. -/
def ConnectionConfig.Allows (config : ConnectionConfig) (e : Exc) : Prop :=
  e.isinstanceAny config.retry.supportedErrors = true ∧ config.retriesOn e = true

/-- An error of one of some more classes is one of all of them. -/
theorem Retry.supports_specified (retry : Retry) {specified : List ExcClass} {e : Exc}
    (specifies : e.isinstanceAny specified = true) :
    e.isinstanceAny (retry.updateSupportedErrors specified).supportedErrors = true := by
  unfold Retry.updateSupportedErrors Exc.isinstanceAny ExcClass.issubclassAny
  rw [List.any_append, Bool.or_eq_true]
  exact .inr specifies

/-- What the constructor sets up supports the errors it retries on. -/
theorem setUpRetries_supports {retryOnTimeout : Bool} {retryOnError : Option (List ExcClass)}
    {given : Option Retry} {set : Retry} {errors : List ExcClass}
    (ends : setUpRetries retryOnTimeout retryOnError given = .ok (set, some errors)) {e : Exc}
    (retries : e.isinstanceAny errors = true) : e.isinstanceAny set.supportedErrors = true := by
  cases retryOnError with
  | none =>
    unfold setUpRetries at ends
    cases retryOnTimeout <;> cases given <;> cases ends
  | some listed =>
    unfold setUpRetries at ends
    dsimp only at ends
    generalize (if retryOnTimeout then listed ++ [.timeoutError] else listed) = all at ends
    cases given with
    | some retry =>
      obtain ⟨rfl, same⟩ := Prod.mk.inj (Except.ok.inj ends)
      cases same
      exact retry.supports_specified retries
    | none =>
      dsimp only at ends
      split at ends
      · next none =>
        obtain ⟨-, same⟩ := Prod.mk.inj (Except.ok.inj ends)
        cases same
        rw [List.isEmpty_iff.mp none] at retries
        cases retries
      · obtain ⟨rfl, same⟩ := Prod.mk.inj (Except.ok.inj ends)
        cases same
        exact Retry.supports_specified _ retries

/-- The errors that a connection is set up to retry on are among the supported ones. -/
theorem ConnectionConfig.SetUp.allows_iff {config : ConnectionConfig} (setUp : config.SetUp) (e : Exc) :
    config.Allows e ↔ config.retriesOn e = true := by
  refine ⟨And.right, fun retries => ⟨?_, retries⟩⟩
  obtain ⟨retryOnTimeout, retryOnError, retry, set⟩ := setUp
  unfold ConnectionConfig.retriesOn at retries
  cases given : config.retryOnError with
  | none =>
    rw [given] at retries
    cases retries
  | some errors =>
    rw [given] at set retries
    exact setUpRetries_supports set retries

/-! ## The attempts of one command -/

/-- What is noted about one command. -/
inductive CommandEvent (F : Type) where
  /-- The command is given to the socket. -/
  | sent
  /-- An attempt ends. -/
  | ended (outcome : Except Exc (PyVal F))
  /-- The connection is closed. -/
  | disconnected

/-- The command is sent. -/
def CommandEvent.isSent : CommandEvent F → Bool
  | .sent => true
  | _ => false

/-- One attempt: whether the command was sent, how the attempt ended, and whether the connection was
closed then. -/
structure CommandAttempt (F : Type) where
  sent : Bool
  outcome : Except Exc (PyVal F)
  disconnected : Bool

/-- What is noted about an attempt. -/
def CommandAttempt.events (a : CommandAttempt F) : List (CommandEvent F) :=
  (if a.sent then [.sent] else []) ++ .ended a.outcome :: if a.disconnected then [.disconnected] else []

namespace Link

/-- Code of a connection that notes what it does. -/
abbrev NotingM (F : Type) := EStateM Exc (Recorded Link (CommandEvent F))

section Noting

variable (config : ClientConfig F) (env : Env F)

/-- The command is about to be given to the socket, if there is one. -/
def noteSent : NotingM F Unit := fun s =>
  if s.inner.conn.sock.isSome then report .sent s else .ok () s

/-- `send_packed_command` for one command, noted. -/
def sendNoting (words : Words) : NotingM F Unit := do
  let reconnect := connectCheckHealth config.toConnectionConfig env env.depth false
  unrecorded (interfere env)
  unrecorded (connectIfClosed reconnect)
  unrecorded (whenever (true = true) (checkHealth config.toConnectionConfig env reconnect))
  noteSent
  unrecorded (transmit env (.command words))

/-- `send_command`, noted. -/
def sendCommandNoting (command : Command F) : NotingM F Unit :=
  if command.encodable then sendNoting config env command.words else throw { cls := .dataError }

/-- `_send_command_parse_response`, noted. -/
def sendCommandParseResponseNoting (command : Command F) : NotingM F (PyVal F) := do
  sendCommandNoting config env command
  unrecorded (parseResponse config env command)

/-- The end of an attempt is noted. -/
def noteEnd (program : NotingM F (PyVal F)) : NotingM F (PyVal F) := fun s =>
  match program s with
  | .ok value s => .ok value { s with record := s.record ++ [.ended (.ok value)] }
  | .error e s => .error e { s with record := s.record ++ [.ended (.error e)] }

/-- `_disconnect_raise`, noted. -/
def disconnectRaiseNoting (error : Exc) : NotingM F Unit := do
  unrecorded disconnect
  report .disconnected
  unrecorded (whenever (!config.retriesOn error) (throw error))

/-- `Redis.execute_command` on its connection, noted. -/
def executeNoting (command : Command F) : NotingM F (PyVal F) :=
  config.retry.callWithRetry (noteEnd (sendCommandParseResponseNoting config env command))
    (disconnectRaiseNoting config) env.patience 0

end Noting

/-! ## The notes change nothing -/

/-- A handler with notes. -/
theorem unrecords_recover {σ α ν : Type} {recorded : EStateM Exc (Recorded σ ν) α} {plain : EStateM Exc σ α}
    {recordedHandler : Exc → EStateM Exc (Recorded σ ν) α} {handler : Exc → EStateM Exc σ α}
    (first : Unrecords recorded plain) (second : ∀ e, Unrecords (recordedHandler e) (handler e)) :
    Unrecords (recover recorded recordedHandler) (recover plain handler) := by
  intro s
  have one := first s
  unfold recover
  cases ran : recorded s with
  | ok value t =>
    rw [ran] at one
    dsimp only at one ⊢
    rw [one]
  | error e t =>
    rw [ran] at one
    dsimp only at one ⊢
    rw [one]
    exact second e t

/-- The loop of `call_with_retry` with notes. -/
theorem unrecords_callWithRetry {σ α ν : Type} (retry : Retry) {recorded : EStateM Exc (Recorded σ ν) α}
    {plain : EStateM Exc σ α} {recordedFail : Exc → EStateM Exc (Recorded σ ν) Unit}
    {fail : Exc → EStateM Exc σ Unit} (runs : Unrecords recorded plain)
    (fails : ∀ e, Unrecords (recordedFail e) (fail e)) (patience failures : Nat) :
    Unrecords (retry.callWithRetry recorded recordedFail patience failures)
      (retry.callWithRetry plain fail patience failures) := by
  have handles {recordedAgain : EStateM Exc (Recorded σ ν) α} {again : EStateM Exc σ α}
      (agains : Unrecords recordedAgain again) (failures : Nat) (e : Exc) :
      Unrecords (retry.handle recordedFail recordedAgain failures e) (retry.handle fail again failures e) := by
    unfold Retry.handle
    split
    · refine (fails e).bind fun _ => ?_
      split
      · exact unrecords_throw e
      · exact agains
    · exact unrecords_throw e
  induction patience generalizing failures with
  | zero => exact unrecords_recover runs (handles (unrecords_throw _) _)
  | succ patience ih => exact unrecords_recover runs (handles (ih _) _)

variable (config : ClientConfig F) (env : Env F)

/-- Noting what is sent changes nothing. -/
theorem unrecords_sendNoting (words : Words) :
    Unrecords (sendNoting config env words) (send config.toConnectionConfig env (.command words)) := by
  have noted : Unrecords (noteSent : NotingM F Unit) (pure ()) := by
    intro s
    by_cases opened : s.inner.conn.sock.isSome = true
    · simp only [noteSent, opened, ↓reduceIte, report]
      rfl
    · simp only [noteSent, opened]
      rfl
  refine (unrecords_unrecorded _).bind fun _ => ?_
  refine (unrecords_unrecorded _).bind fun _ => ?_
  refine (unrecords_unrecorded _).bind fun _ => ?_
  exact noted.bind fun _ => unrecords_unrecorded (transmit env (.command words))

/-- Noting how an attempt ends changes nothing. -/
theorem unrecords_noteEnd {recorded : NotingM F (PyVal F)} {plain : EStateM Exc Link (PyVal F)}
    (unrecords : Unrecords recorded plain) : Unrecords (noteEnd recorded) plain := by
  intro s
  have same := unrecords s
  unfold noteEnd
  cases ran : recorded s with
  | ok value t =>
    rw [ran] at same
    exact same
  | error e t =>
    rw [ran] at same
    exact same

/-- Noting an attempt changes nothing. -/
theorem unrecords_sendCommandParseResponseNoting (command : Command F) :
    Unrecords (sendCommandParseResponseNoting config env command)
      (do
        sendCommand config env command
        parseResponse config env command) := by
  have sends : Unrecords (sendCommandNoting config env command) (sendCommand config env command) := by
    unfold sendCommandNoting sendCommand
    split
    · exact unrecords_sendNoting config env command.words
    · exact unrecords_throw _
  exact sends.bind fun _ => unrecords_unrecorded (parseResponse config env command)

/-- Noting that the connection is closed changes nothing. -/
theorem unrecords_disconnectRaiseNoting (error : Exc) :
    Unrecords (disconnectRaiseNoting config error : NotingM F Unit) (disconnectRaise config error) := by
  refine (unrecords_unrecorded _).bind fun _ => ?_
  exact (unrecords_report CommandEvent.disconnected).bind fun _ => unrecords_unrecorded _

/-- The notes about a command change nothing. -/
theorem unrecords_executeNoting (command : Command F) :
    Unrecords (executeNoting config env command) (executeCommand config env command) :=
  unrecords_callWithRetry config.retry
    (unrecords_noteEnd (unrecords_sendCommandParseResponseNoting config env command))
    (unrecords_disconnectRaiseNoting config) env.patience 0

/-! ## What is noted -/

/-- A program that notes nothing. -/
def Silent {α : Type} (program : NotingM F α) : Prop := ∀ s, (stateAfter (program s)).record = s.record

/-- A program that notes at most that the command is sent. -/
def SendsOnce {α : Type} (program : NotingM F α) : Prop :=
  ∀ s, ∃ sent : Bool, (stateAfter (program s)).record = s.record ++ if sent then [.sent] else []

omit config env in
/-- A program without notes. -/
theorem silent_unrecorded {α : Type} (program : EStateM Exc Link α) :
    Silent (unrecorded program : NotingM F α) := by
  intro s
  unfold unrecorded
  cases program s.inner <;> rfl

omit config env in
/-- A program without notes sends nothing. -/
theorem Silent.sendsOnce {α : Type} {program : NotingM F α} (silent : Silent program) : SendsOnce program :=
  fun s => ⟨false, (silent s).trans (List.append_nil _).symm⟩

omit config env in
/-- Nothing is noted before. -/
theorem SendsOnce.before {α β : Type} {first : NotingM F α} {second : α → NotingM F β}
    (silent : Silent first) (once : ∀ value, SendsOnce (second value)) : SendsOnce (first >>= second) := by
  intro s
  have quiet := silent s
  cases ran : first s with
  | ok value t =>
    rw [ran] at quiet
    rw [bind_of_ok ran, ← show t.record = s.record from quiet]
    exact once value t
  | error e t =>
    rw [ran] at quiet
    rw [bind_of_error ran]
    exact ⟨false, quiet.trans (List.append_nil _).symm⟩

omit config env in
/-- Nothing is noted afterwards. -/
theorem SendsOnce.after {α β : Type} {first : NotingM F α} {second : α → NotingM F β}
    (once : SendsOnce first) (silent : ∀ value, Silent (second value)) : SendsOnce (first >>= second) := by
  intro s
  obtain ⟨sent, noted⟩ := once s
  refine ⟨sent, ?_⟩
  cases ran : first s with
  | ok value t =>
    rw [ran] at noted
    rw [bind_of_ok ran, silent value t]
    exact noted
  | error e t =>
    rw [ran] at noted
    rw [bind_of_error ran]
    exact noted

/-- An attempt sends the command once at most. -/
theorem sendsOnce_attempt (command : Command F) :
    SendsOnce (sendCommandParseResponseNoting config env command) := by
  have notes : SendsOnce (noteSent : NotingM F Unit) := by
    intro s
    by_cases opened : s.inner.conn.sock.isSome = true
    · refine ⟨true, ?_⟩
      simp only [noteSent, opened, ↓reduceIte, report]
      rfl
    · refine ⟨false, ?_⟩
      simp only [noteSent, opened]
      exact (List.append_nil _).symm
  have sends : SendsOnce (sendCommandNoting config env command) := by
    unfold sendCommandNoting
    split
    · refine .before (silent_unrecorded _) fun _ => ?_
      refine .before (silent_unrecorded _) fun _ => ?_
      refine .before (silent_unrecorded _) fun _ => ?_
      exact notes.after fun _ => silent_unrecorded _
    · exact Silent.sendsOnce fun _ => rfl
  exact sends.after fun _ => silent_unrecorded _

/-! ## The attempts -/

/-- How a call ends. -/
def outcomeOf {σ α : Type} : EStateM.Result Exc σ α → Except Exc α
  | .ok value _ => .ok value
  | .error e _ => .error e

/-- A command was sent again for allowed errors only: so many attempts at most are made, every attempt
but the last failed with an allowed error, the connection is closed after every supported failure, and the
call ends as the last attempt did. A caller that waits longer than it has patience for is interrupted. -/
structure AttemptedAsAllowed (config : ConnectionConfig) (patience failures : Nat)
    (attempts : List (CommandAttempt F)) (outcome : Except Exc (PyVal F)) (after : Link) : Prop where
  /-- `retries + 1` attempts, the ones before included. -/
  bounded : ∀ retries, config.retry.retries = some retries → failures + attempts.length ≤ retries + 1
  /-- What was tried again. -/
  again : ∀ a ∈ attempts.dropLast, ∃ e, a.outcome = .error e ∧ config.Allows e
  /-- What was closed. -/
  closes : ∀ a ∈ attempts, ∀ e, a.outcome = .error e → e.isinstanceAny config.retry.supportedErrors = true →
    a.disconnected = true
  /-- How the call ends. -/
  ends : ∃ last, attempts.getLast? = some last ∧
    (∀ e, last.outcome = .error e → e.isinstanceAny config.retry.supportedErrors = true → after.conn = .closed) ∧
    (outcome = last.outcome ∨
      outcome = .error { cls := .keyboardInterrupt } ∧ attempts.length = patience + 1 ∧
        (∀ retries, config.retry.retries = some retries → failures + attempts.length ≤ retries) ∧
        ∃ e, last.outcome = .error e ∧ config.Allows e)

omit config env in
/-- The attempts of the next turns come behind one that failed with an allowed error. -/
theorem AttemptedAsAllowed.cons {config : ConnectionConfig} {patience failures : Nat} {a : CommandAttempt F}
    {attempts : List (CommandAttempt F)} {outcome : Except Exc (PyVal F)} {after : Link} {e : Exc}
    (failed : a.outcome = .error e) (allowed : config.Allows e) (closed : a.disconnected = true)
    (rest : AttemptedAsAllowed config patience (failures + 1) attempts outcome after) :
    AttemptedAsAllowed config (patience + 1) failures (a :: attempts) outcome after := by
  obtain ⟨last, isLast, left, ended⟩ := rest.ends
  cases attempts with
  | nil => cases isLast
  | cons next others =>
    refine ⟨fun retries limit => ?_, fun other member => ?_, fun other member => ?_, last, ?_, left, ?_⟩
    · have := rest.bounded retries limit
      rw [List.length_cons]
      omega
    · rw [List.dropLast_cons_of_ne_nil (List.cons_ne_nil _ _)] at member
      rcases List.mem_cons.mp member with rfl | later
      · exact ⟨e, failed, allowed⟩
      · exact rest.again other later
    · rcases List.mem_cons.mp member with rfl | later
      · exact fun _ _ _ => closed
      · exact rest.closes other later
    · rw [List.getLast?_cons_cons]
      exact isLast
    · refine ended.imp id fun ⟨interrupted, length, more, why⟩ => ⟨interrupted, ?_, fun retries limit => ?_, why⟩
      · rw [List.length_cons, length]
      · have := more retries limit
        rw [List.length_cons]
        omega

omit config env in
/-- An attempt that does not fail with a supported error is the last one. -/
theorem AttemptedAsAllowed.last {config : ConnectionConfig} {patience failures : Nat} {a : CommandAttempt F}
    {after : Link} (early : ∀ retries, config.retry.retries = some retries → failures ≤ retries)
    (unsupported : ∀ e, a.outcome = .error e → e.isinstanceAny config.retry.supportedErrors = true →
      a.disconnected = true ∧ after.conn = .closed) :
    AttemptedAsAllowed config patience failures [a] a.outcome after where
  bounded retries limit := by
    have := early retries limit
    rw [List.length_singleton]
    omega
  again _ member := by cases member
  closes other member e failed supported := by
    rw [List.mem_singleton.mp member] at failed ⊢
    exact (unsupported e failed supported).1
  ends := ⟨a, rfl, fun e failed supported => (unsupported e failed supported).2, .inl rfl⟩

omit config env in
/-- The end of an attempt is noted behind what it noted. -/
theorem noteEnd_cases {program : NotingM F (PyVal F)} (once : SendsOnce program)
    (s : Recorded Link (CommandEvent F)) :
    ∃ a : CommandAttempt F, a.disconnected = false ∧
      (stateAfter (noteEnd program s)).record = s.record ++ a.events ∧
      outcomeOf (noteEnd program s) = a.outcome := by
  obtain ⟨sent, noted⟩ := once s
  unfold noteEnd
  cases ran : program s with
  | ok value t =>
    rw [ran] at noted
    refine ⟨{ sent, outcome := .ok value, disconnected := false }, rfl, ?_, rfl⟩
    show t.record ++ _ = _
    rw [show t.record = _ from noted, List.append_assoc]
    rfl
  | error e t =>
    rw [ran] at noted
    refine ⟨{ sent, outcome := .error e, disconnected := false }, rfl, ?_, rfl⟩
    show t.record ++ _ = _
    rw [show t.record = _ from noted, List.append_assoc]
    rfl

/-- A failure closes the connection, and is raised again unless it is one to retry on. -/
theorem disconnectRaiseNoting_eq (e : Exc) (s : Recorded Link (CommandEvent F)) :
    disconnectRaiseNoting config e s =
      if config.retriesOn e then .ok () { inner := s.inner.closed, record := s.record ++ [.disconnected] }
      else .error e { inner := s.inner.closed, record := s.record ++ [.disconnected] } := by
  unfold disconnectRaiseNoting
  cases config.retriesOn e <;> rfl

/-- One turn of the loop: either its attempt is the last, or it failed with an allowed error and the next
turn follows. -/
theorem turn_attempts {program : NotingM F (PyVal F)} (once : SendsOnce program) {patience failures : Nat}
    (early : ∀ retries, config.retry.retries = some retries → failures ≤ retries)
    {again : NotingM F (PyVal F)}
    (goesOn : ∀ (a : CommandAttempt F) (e : Exc), a.outcome = .error e → config.Allows e →
      a.disconnected = true → (∀ retries, config.retry.retries = some retries → failures + 1 ≤ retries) →
      ∀ t : Recorded Link (CommandEvent F), t.inner.conn = .closed → ∃ attempts,
        (stateAfter (again t)).record = t.record ++ attempts.flatMap CommandAttempt.events ∧
          AttemptedAsAllowed config.toConnectionConfig patience failures (a :: attempts)
            (outcomeOf (again t)) (stateAfter (again t)).inner)
    (s : Recorded Link (CommandEvent F)) :
    let turn := recover (noteEnd program)
      (config.retry.handle (disconnectRaiseNoting config) again (failures + 1))
    ∃ attempts, (stateAfter (turn s)).record = s.record ++ attempts.flatMap CommandAttempt.events ∧
      AttemptedAsAllowed config.toConnectionConfig patience failures attempts (outcomeOf (turn s))
        (stateAfter (turn s)).inner := by
  intro turn
  obtain ⟨a, opened, noted, ended⟩ := noteEnd_cases once s
  have turns : turn s = recover (noteEnd program)
      (config.retry.handle (disconnectRaiseNoting config) again (failures + 1)) s := rfl
  cases ran : noteEnd program s with
  | ok value t =>
    rw [ran] at noted ended
    have done : turn s = .ok value t := by
      rw [turns, recover, ran]
    have same : a.outcome = .ok value := ended.symm
    rw [done]
    refine ⟨[a], by simpa using noted, ?_⟩
    show AttemptedAsAllowed _ _ _ _ (.ok value) _
    rw [← same]
    exact .last early fun e failed => by rw [same] at failed; cases failed
  | error e t =>
    rw [ran] at noted ended
    have failed : a.outcome = .error e := ended.symm
    have handled : turn s = config.retry.handle (disconnectRaiseNoting config) again (failures + 1) e t := by
      rw [turns, recover, ran]
    by_cases supported : e.isinstanceAny config.retry.supportedErrors = true
    · -- the connection is closed, and the attempt is done
      let closed : CommandAttempt F := { a with disconnected := true }
      let after : Recorded Link (CommandEvent F) :=
        { inner := t.inner.closed, record := t.record ++ [.disconnected] }
      have recorded : after.record = s.record ++ closed.events := by
        show t.record ++ [.disconnected] = _
        rw [show t.record = _ from noted, List.append_assoc]
        simp [closed, CommandAttempt.events, opened]
      have stops : AttemptedAsAllowed config.toConnectionConfig patience failures [closed] (.error e)
          t.inner.closed := by
        rw [← failed]
        exact .last (a := closed) early fun _ _ _ => ⟨rfl, rfl⟩
      by_cases retries : config.retriesOn e = true
      · have went : disconnectRaiseNoting config e t = .ok () after := by
          rw [disconnectRaiseNoting_eq, if_pos retries]
        by_cases spent : config.retry.exhausted (failures + 1) = true
        · have done : turn s = .error e after := by
            rw [handled, Retry.handle, if_pos supported, bind_of_ok went, if_pos spent]
            rfl
          rw [done]
          exact ⟨[closed], by rw [List.flatMap_singleton]; exact recorded, stops⟩
        · have more : ∀ limit, config.retry.retries = some limit → failures + 1 ≤ limit := by
            intro limit limited
            unfold Retry.exhausted at spent
            rw [limited] at spent
            simpa using spent
          have done : turn s = again after := by
            rw [handled, Retry.handle, if_pos supported, bind_of_ok went, if_neg spent]
          obtain ⟨attempts, later, allowed⟩ := goesOn closed e failed ⟨supported, retries⟩ rfl more after rfl
          rw [done]
          refine ⟨closed :: attempts, ?_, allowed⟩
          rw [later, recorded, List.flatMap_cons, List.append_assoc]
      · have done : turn s = .error e after := by
          have went : disconnectRaiseNoting config e t = .error e after := by
            rw [disconnectRaiseNoting_eq, if_neg retries]
          rw [handled, Retry.handle, if_pos supported, bind_of_error went]
        rw [done]
        exact ⟨[closed], by rw [List.flatMap_singleton]; exact recorded, stops⟩
    · have done : turn s = .error e t := by
        rw [handled, Retry.handle, if_neg supported]
        rfl
      rw [done]
      refine ⟨[a], by simpa using noted, ?_⟩
      show AttemptedAsAllowed _ _ _ _ (.error e) _
      rw [← failed]
      exact .last early fun other same is => by
        rw [failed] at same
        cases same
        exact absurd is supported

/-- The loop sends again for allowed errors only. -/
theorem callWithRetry_attempts {program : NotingM F (PyVal F)} (once : SendsOnce program)
    (patience failures : Nat)
    (early : ∀ retries, config.retry.retries = some retries → failures ≤ retries)
    (s : Recorded Link (CommandEvent F)) :
    let ran := config.retry.callWithRetry (noteEnd program) (disconnectRaiseNoting config) patience failures s
    ∃ attempts, (stateAfter ran).record = s.record ++ attempts.flatMap CommandAttempt.events ∧
      AttemptedAsAllowed config.toConnectionConfig patience failures attempts (outcomeOf ran)
        (stateAfter ran).inner := by
  induction patience generalizing failures s with
  | zero =>
    refine turn_attempts config once early (fun a e failed allowed closed more t gone => ?_) s
    refine ⟨[], (List.append_nil _).symm, ?_, ?_, ?_, a, rfl, fun _ _ _ => gone, .inr ⟨rfl, rfl, ?_, e, failed, allowed⟩⟩
    · intro retries limit
      have := early retries limit
      rw [List.length_singleton]
      omega
    · intro other member
      cases member
    · intro other member _ _ _
      rw [List.mem_singleton.mp member]
      exact closed
    · intro retries limit
      exact more retries limit
  | succ patience ih =>
    refine turn_attempts config once early (fun a e failed allowed closed more t gone => ?_) s
    obtain ⟨attempts, recorded, rest⟩ := ih (failures + 1) more t
    exact ⟨attempts, recorded, rest.cons failed allowed closed⟩

omit config env in
/-- The command is sent once an attempt at most. -/
theorem countP_isSent_le (attempts : List (CommandAttempt F)) :
    (attempts.flatMap CommandAttempt.events).countP CommandEvent.isSent ≤ attempts.length := by
  induction attempts with
  | nil => exact Nat.le_refl 0
  | cons a attempts ih =>
    have one : a.events.countP CommandEvent.isSent ≤ 1 := by
      unfold CommandAttempt.events
      cases a.sent <;> cases a.disconnected <;> simp [List.countP_cons, CommandEvent.isSent]
    rw [List.flatMap_cons, List.countP_append, List.length_cons]
    omega

end Link

end RedisPy

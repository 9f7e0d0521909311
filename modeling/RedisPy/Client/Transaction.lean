import Mathlib.Data.List.Basic
import RedisPy.Exceptions

/-!
# `Redis.transaction`

`Redis.transaction` of the blocking and of the asyncio client, with the methods of `Pipeline` that the
callable uses: `watch`, `multi`, commands, and the `execute` at the end. Any number of callers run
transactions on one server, each on a connection of its own, while other clients send commands. A step
is one exchange with the server, or one call that needs none.

The server runs commands on a store. It notes for every connection which keys are watched and whether
one of them was touched, and answers `EXEC` with nil if it was. A connection that fails ends its session;
what was sent last may have been run or not, and whether the client tries again is left open. Response
callbacks, scripts, `watch_delay` and the other methods of the pipeline are left out.
-/

namespace RedisPy

namespace Transaction

/-- What a server does with commands. An error reply is a `ResponseError`. -/
structure Server (K V C R : Type) where
  /-- The reply to a command, and the store after it. -/
  run : C → (K → V) → Except Exc R × (K → V)
  /-- The keys that the reply may depend on. -/
  reads : C → List K
  /-- The keys whose watchers are told. -/
  touches : C → (K → V) → List K
  /-- The error of a command that cannot be queued. -/
  refused : C → Option Exc
  reply_eq : ∀ c s t, (∀ k ∈ reads c, s k = t k) → (run c s).1 = (run c t).1
  untouched : ∀ c s k, k ∉ touches c s → (run c s).2 k = s k
  refused_run : ∀ c e s, refused c = some e → run c s = (.error e, s)
  refused_error : ∀ c e, refused c = some e → e.isinstance .responseError = true

/-- What the callable does with the pipeline. What comes next may depend on what a call raised, and on the
reply to a command that was executed at once; other commands return the pipeline. -/
inductive Callable (K C R A : Type) where
  | watch (names : List K) (next : Option Exc → Callable K C R A)
  | multi (next : Option Exc → Callable K C R A)
  | command (c : C) (next : Option (Except Exc R) → Callable K C R A)
  | returns (value : A)
  | raises (e : Exc)

/-- The arguments of `transaction`. -/
structure Call (K C R A : Type) where
  func : Callable K C R A
  watches : List K
  /-- `value_from_callable`. -/
  valueFromCallable : Bool

/-- `Pipeline`, with `transaction` set. -/
structure Pipe (C : Type) where
  /-- `command_stack`. -/
  commandStack : List C
  /-- `watching`. -/
  watching : Bool
  /-- `explicit_transaction`. -/
  explicitTransaction : Bool

namespace Pipe

variable {C : Type}

/-- A pipeline that is new, or was reset. -/
def clean : Pipe C := { commandStack := [], watching := false, explicitTransaction := false }

/-- A command is executed at once. -/
def immediate (pipe : Pipe C) : Bool := pipe.watching && !pipe.explicitTransaction

/-- `pipeline_execute_command`. -/
def stage (pipe : Pipe C) (c : C) : Pipe C := { pipe with commandStack := pipe.commandStack ++ [c] }

/-- `multi`, with what it raises. -/
def multi (pipe : Pipe C) : Option Exc × Pipe C :=
  if pipe.explicitTransaction || !pipe.commandStack.isEmpty then (some { cls := .redisError }, pipe)
  else (none, { pipe with explicitTransaction := true })

/-- A reply to `WATCH` was parsed. -/
def watched (pipe : Pipe C) : Pipe C := { pipe with watching := true }

/-- `execute` sends nothing. -/
def idle (pipe : Pipe C) : Bool := pipe.commandStack.isEmpty && !pipe.watching

end Pipe

/-- The replies to `EXEC`. -/
abbrev Replies (R : Type) := List (Except Exc R)

/-- What `transaction` returns or raises. -/
abbrev Outcome (R A : Type) := Except Exc (A ⊕ Replies R)

/-- The error that `raise_first_error` raises. -/
def firstError {R : Type} (replies : Replies R) : Option Exc :=
  replies.findSome? fun
    | .error e => if e.isinstance .responseError then some e else none
    | .ok _ => none

section Alone

variable {K V C R A : Type} (server : Server K V C R)

/-- Queued commands are run one after the other. -/
def Server.runAll : List C → (K → V) → Replies R × (K → V)
  | [], s => ([], s)
  | c :: rest, s =>
    let first := server.run c s
    let others := runAll rest first.2
    (first.1 :: others.1, others.2)

/-- The keys that queued commands touch. -/
def Server.touchesAll : List C → (K → V) → List K
  | [], _ => []
  | c :: rest, s => server.touches c s ++ touchesAll rest (server.run c s).2

/-- The end of `transaction`, with the replies to `EXEC`. -/
def Call.outcome (call : Call K C R A) (value : A) (replies : Replies R) : Outcome R A :=
  match firstError replies with
  | some e => .error e
  | none => .ok (if call.valueFromCallable then .inl value else .inr replies)

/-- `execute` without other clients, and what `transaction` does then. -/
def Call.execute (call : Call K C R A) (pipe : Pipe C) (value : A) (s : K → V) : Outcome R A × (K → V) :=
  if pipe.idle then (call.outcome value [], s)
  else
    match pipe.commandStack.findSome? server.refused with
    | some e => (.error e, s)
    | none =>
      let ran := server.runAll pipe.commandStack s
      (call.outcome value ran.1, ran.2)

/-- What is left of the callable, and `execute`, without other clients. -/
def Call.finish (call : Call K C R A) : Callable K C R A → Pipe C → (K → V) → Outcome R A × (K → V)
  | .watch _ next, pipe, s =>
    if pipe.explicitTransaction then finish call (next (some { cls := .redisError })) pipe s
    else finish call (next none) pipe.watched s
  | .multi next, pipe, s => finish call (next pipe.multi.1) pipe.multi.2 s
  | .command c next, pipe, s =>
    if pipe.immediate then finish call (next (some (server.run c s).1)) pipe (server.run c s).2
    else finish call (next none) (pipe.stage c) s
  | .returns value, pipe, s => call.execute server pipe value s
  | .raises e, _, s => (.error e, s)

/-- The pipeline when the callable starts. -/
def Call.opening (call : Call K C R A) : Pipe C := if call.watches.isEmpty then .clean else Pipe.clean.watched

/-- The whole transaction, without other clients. -/
def Call.alone (call : Call K C R A) : (K → V) → Outcome R A × (K → V) :=
  call.finish server call.func call.opening

end Alone

/-! ## Callers and the server -/

/-- Where a caller is in the loop of `transaction`. -/
inductive Stage (K C R A : Type) where
  | begins
  | calls (rest : Callable K C R A)
  | executes (value : A)
  | returned (value : A ⊕ Replies R)
  | raised (e : Exc)

/-- A caller of `transaction`. -/
structure Caller (K C R A : Type) where
  pipe : Pipe C
  stage : Stage K C R A

/-- What the server notes for a connection. -/
structure Session (K : Type) where
  watched : List K
  /-- A watched key was touched. -/
  dirty : Bool

/-- What has taken effect: a command of another client, or all of a transaction. -/
inductive Event (C : Type) where
  | command (c : C)
  | transaction (i : Nat)

/-- The server and the callers. -/
structure World (K V C R A : Type) where
  store : K → V
  sessions : Nat → Session K
  callers : Nat → Caller K C R A
  /-- What has taken effect, in this order. -/
  history : List (Event C)

/-- How an exchange fails. -/
structure Failure where
  /-- The server has run what was sent. -/
  executed : Bool
  /-- The error is in `retry_on_error`, and retries are left. -/
  retried : Bool
  error : Exc

/-- A step. -/
inductive Action (C : Type) where
  /-- A caller goes on. -/
  | advance (i : Nat) (failure : Option Failure)
  /-- Another client sends a command. -/
  | command (c : C)
  /-- The connection of a caller is replaced without an error. -/
  | reconnect (i : Nat)

namespace Session

variable {K : Type} [DecidableEq K]

/-- A session that has just begun, or ran `EXEC` or `UNWATCH`. -/
def fresh : Session K := { watched := [], dirty := false }

/-- Keys are touched. -/
def touch (session : Session K) (keys : List K) : Session K :=
  if session.watched.any (· ∈ keys) then { session with dirty := true } else session

end Session

namespace World

variable {K V C R A : Type} [DecidableEq K] (server : Server K V C R) (calls : Nat → Call K C R A)

/-- No transaction has begun. -/
def start (store : K → V) : World K V C R A where
  store
  sessions _ := .fresh
  callers _ := { pipe := .clean, stage := .begins }
  history := []

/-- A caller changes. -/
def put (s : World K V C R A) (i : Nat) (pipe : Pipe C) (stage : Stage K C R A) : World K V C R A :=
  { s with callers := Function.update s.callers i { pipe, stage } }

/-- The session of a caller changes. -/
def putSession (s : World K V C R A) (i : Nat) (session : Session K) : World K V C R A :=
  { s with sessions := Function.update s.sessions i session }

/-- The store changes, and watchers of the touched keys are noted. -/
def change (s : World K V C R A) (keys : List K) (store : K → V) : World K V C R A :=
  { s with store, sessions := fun j => (s.sessions j).touch keys }

/-- The server runs one command. -/
def run (s : World K V C R A) (c : C) : World K V C R A :=
  s.change (server.touches c s.store) (server.run c s.store).2

/-- The server runs the commands that a caller has queued. -/
def runTransaction (s : World K V C R A) (i : Nat) : World K V C R A :=
  let commands := (s.callers i).pipe.commandStack
  let changed := (s.putSession i .fresh).change (server.touchesAll commands s.store)
    (server.runAll commands s.store).2
  { changed with history := s.history ++ [.transaction i] }

/-- An exception reaches the loop of `transaction`: `WatchError` begins again, anything else leaves the
`with` block, which resets the pipeline. -/
def leave (s : World K V C R A) (i : Nat) (pipe : Pipe C) (e : Exc) : World K V C R A :=
  if e.isinstance .watchError then s.put i pipe .begins
  else (s.putSession i .fresh).put i .clean (.raised e)

/-- `_disconnect_reset_raise`, and `_disconnect_raise_reset` with the `reset` of `execute`. -/
def fail (s : World K V C R A) (i : Nat) (failure : Failure) : World K V C R A :=
  let lost := s.putSession i .fresh
  if (s.callers i).pipe.watching then lost.leave i .clean { cls := .watchError }
  else if failure.retried then lost
  else lost.leave i .clean failure.error

/-- `watch`. -/
def watch (s : World K V C R A) (i : Nat) (names : List K) (next : Option Exc → Callable K C R A)
    (failure : Option Failure) : World K V C R A :=
  let pipe := (s.callers i).pipe
  if pipe.explicitTransaction then s.put i pipe (.calls (next (some { cls := .redisError })))
  else
    match failure with
    | some failure => s.fail i failure
    | none =>
      (s.putSession i { s.sessions i with watched := (s.sessions i).watched ++ names }).put i pipe.watched
        (.calls (next none))

/-- `execute_command`. -/
def executeCommand (s : World K V C R A) (i : Nat) (c : C)
    (next : Option (Except Exc R) → Callable K C R A) (failure : Option Failure) : World K V C R A :=
  let pipe := (s.callers i).pipe
  if pipe.immediate then
    match failure with
    | some failure => (if failure.executed then s.run server c else s).fail i failure
    | none => (s.run server c).put i pipe (.calls (next (some (server.run c s.store).1)))
  else s.put i (pipe.stage c) (.calls (next none))

/-- The commands of a caller are run by `EXEC`. -/
def accepted (s : World K V C R A) (i : Nat) : Prop :=
  (s.callers i).pipe.commandStack.findSome? server.refused = none ∧ (s.sessions i).dirty = false

instance (s : World K V C R A) (i : Nat) : Decidable (s.accepted server i) :=
  inferInstanceAs (Decidable (_ ∧ _))

/-- The end of `transaction`. -/
def conclude (s : World K V C R A) (i : Nat) : Outcome R A → World K V C R A
  | .ok value => (s.putSession i .fresh).put i .clean (.returned value)
  | .error e => s.leave i .clean e

/-- `execute`, and what `transaction` does with its value. -/
def execute (s : World K V C R A) (i : Nat) (value : A) (failure : Option Failure) : World K V C R A :=
  let pipe := (s.callers i).pipe
  if pipe.idle then
    { s with history := s.history ++ [Event.transaction i] }.conclude i ((calls i).outcome value [])
  else
    match failure with
    | some failure =>
      (if failure.executed ∧ s.accepted server i then s.runTransaction server i else s).fail i failure
    | none =>
      match pipe.commandStack.findSome? server.refused with
      | some e => (s.putSession i .fresh).leave i .clean e
      | none =>
        if (s.sessions i).dirty then (s.putSession i .fresh).leave i .clean { cls := .watchError }
        else
          (s.runTransaction server i).conclude i
            ((calls i).outcome value (server.runAll pipe.commandStack s.store).1)

/-- The callable begins. -/
def enter (i : Nat) : Option Exc → Callable K C R A
  | none => (calls i).func
  | some e => .raises e

/-- A caller goes on in the loop of `transaction`. -/
def advance (s : World K V C R A) (i : Nat) (failure : Option Failure) : World K V C R A :=
  let pipe := (s.callers i).pipe
  match (s.callers i).stage with
  | .begins =>
    if (calls i).watches.isEmpty then s.put i pipe (.calls (calls i).func)
    else s.watch i (calls i).watches (enter calls i) failure
  | .calls (.watch names next) => s.watch i names next failure
  | .calls (.multi next) => s.put i pipe.multi.2 (.calls (next pipe.multi.1))
  | .calls (.command c next) => s.executeCommand server i c next failure
  | .calls (.returns value) => s.put i pipe (.executes value)
  | .calls (.raises e) => s.leave i pipe e
  | .executes value => s.execute server calls i value failure
  | .returned _ => s
  | .raised _ => s

/-- One step. -/
def step (s : World K V C R A) : Action C → World K V C R A
  | .advance i failure => s.advance server calls i failure
  | .command c => { s.run server c with history := s.history ++ [.command c] }
  | .reconnect i => s.putSession i .fresh

end World

end Transaction

end RedisPy

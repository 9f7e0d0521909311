import RedisPy.Exceptions
import Mathlib.Logic.Function.Basic

/-!
# The distributed lock

`Lock` over one key of a server. `SET NX PX` and the three Lua scripts run on the server at
once; everything else a client does between two of them is local to its `Lock` object. A
call is therefore a sequence of phases, and the calls of any number of clients interleave
at the phases, with time passing and the key expiring in between.
-/

namespace RedisPy

variable {τ : Type} [DecidableEq τ]

/-! ## The key on the server -/

/-- A key with its value. -/
structure Entry (τ : Type) where
  value : τ
  /-- The milliseconds it still has to live, if it expires at all. -/
  lifetime : Option Int
deriving DecidableEq

/-- A key that may be missing. -/
abbrev Key (τ : Type) := Option (Entry τ)

namespace Key

/-- The key stores this value. -/
def Holds (key : Key τ) (token : τ) : Prop := key.map Entry.value = some token

instance decidableHolds (key : Key τ) (token : τ) : Decidable (key.Holds token) :=
  inferInstanceAs (Decidable (_ = _))

/-- `SET name token NX`, with `PX px` where `px` is given. -/
def setNx (token : τ) (px : Option Int) (key : Key τ) : Except Exc (Bool × Key τ) :=
  if px.any (· ≤ 0) then .error { cls := .responseError }
  else
    match key with
    | some entry => .ok (false, some entry)
    | none => .ok (true, some { value := token, lifetime := px })

/-- `PEXPIRE`; a time that is not positive deletes the key. -/
def pexpire (millis : Int) (key : Key τ) : Key τ :=
  if millis ≤ 0 then none else key.map fun entry => { entry with lifetime := some millis }

/-- `PTTL`. -/
def pttl : Key τ → Int
  | none => -2
  | some entry => entry.lifetime.getD (-1)

/-- Time passes. -/
def elapse (millis : Nat) : Key τ → Key τ
  | none => none
  | some entry =>
    match entry.lifetime with
    | none => some entry
    | some left => if left ≤ millis then none else some { entry with lifetime := some (left - millis) }

/-- `LUA_RELEASE_SCRIPT`. -/
def luaRelease (token : τ) (key : Key τ) : Int × Key τ :=
  if key.Holds token then (1, none) else (0, key)

/-- `LUA_EXTEND_SCRIPT`. -/
def luaExtend (token : τ) (millis : Int) (replace : Bool) (key : Key τ) : Int × Key τ :=
  if key.Holds token then
    let expiration := key.pttl
    if expiration < 0 then (0, key)
    else (1, key.pexpire (if replace then millis else millis + expiration))
  else (0, key)

/-- `LUA_REACQUIRE_SCRIPT`. -/
def luaReacquire (token : τ) (millis : Int) (key : Key τ) : Int × Key τ :=
  if key.Holds token then (1, key.pexpire millis) else (0, key)

end Key

/-! ## Lock objects -/

/-- A number of seconds as a lock uses it. -/
structure Seconds where
  /-- `bool(seconds)`. -/
  truthy : Bool
  /-- `int(seconds * 1000)`. -/
  millis : Int

/-- `Lock`; sleeping times and the clock are in milliseconds. -/
structure Lock (τ : Type) where
  /-- `self.timeout`. -/
  timeout : Option Seconds
  /-- `self.sleep`. -/
  sleep : Int
  /-- `self.blocking`. -/
  blocking : Bool
  /-- `self.blocking_timeout`. -/
  blockingTimeout : Option Int
  /-- `self.local.token`. -/
  token : Option τ

/-- A call of a lock's method; `token` is the one that `acquire` generates. -/
inductive Request (τ : Type) where
  | acquire (token : τ) (sleep : Option Int) (blocking : Option Bool)
      (blockingTimeout : Option Int)
  | release
  | extend (additionalTime : Seconds) (replaceTtl : Bool)
  | reacquire

/-- The locals of `acquire`. -/
structure Acquisition (τ : Type) where
  token : τ
  sleep : Int
  blocking : Bool
  /-- `stop_trying_at`. -/
  stopTryingAt : Option Int

/-- How far a client's call is. -/
inductive Phase (τ : Type) where
  /-- No call. -/
  | idle
  /-- `do_acquire` comes next. -/
  | trying (attempt : Acquisition τ)
  /-- `do_acquire` returned `True`, and `self.local.token = token` comes next. -/
  | acquired (token : τ)
  /-- The script of `do_release` comes next. -/
  | releasing (expected : τ)
  /-- The script of `do_extend` comes next. -/
  | extending (millis : Int) (replaceTtl : Bool)
  /-- The script of `do_reacquire` comes next. -/
  | reacquiring

/-- How a call ends. -/
inductive LockOutcome where
  | returned (value : Option Bool)
  | raised (e : Exc)
deriving DecidableEq

/-- `raise cls(message)`. -/
def LockOutcome.error (cls : ExcClass) (message : String) : LockOutcome :=
  .raised { cls, args := [message.toList] }

/-- A client with its lock. -/
structure LockClient (τ : Type) where
  lock : Lock τ
  phase : Phase τ

namespace LockClient

/-- The call is over. -/
def finish (client : LockClient τ) : LockClient τ := { client with phase := .idle }

/-- A call up to its first command, which may end it already. -/
def call (now : Int) (client : LockClient τ) : Request τ → LockClient τ × Option LockOutcome
  | .acquire token sleep blocking blockingTimeout =>
    let stopTryingAt := (blockingTimeout.or client.lock.blockingTimeout).map (now + ·)
    let attempt :=
      { token, sleep := sleep.getD client.lock.sleep,
        blocking := blocking.getD client.lock.blocking, stopTryingAt }
    ({ client with phase := .trying attempt }, none)
  | .release =>
    match client.lock.token with
    | none =>
      (client, some (.error .lockError
        "Cannot release a lock that's not owned or is already unlocked."))
    | some expected =>
      ({ lock := { client.lock with token := none }, phase := .releasing expected }, none)
  | .extend additionalTime replaceTtl =>
    match client.lock.token, client.lock.timeout with
    | none, _ => (client, some (.error .lockError "Cannot extend an unlocked lock"))
    | some _, none => (client, some (.error .lockError "Cannot extend a lock with no timeout"))
    | some _, some _ => ({ client with phase := .extending additionalTime.millis replaceTtl }, none)
  | .reacquire =>
    match client.lock.token, client.lock.timeout with
    | none, _ => (client, some (.error .lockError "Cannot reacquire an unlocked lock"))
    | some _, none => (client, some (.error .lockError "Cannot reacquire a lock with no timeout"))
    | some _, some _ => ({ client with phase := .reacquiring }, none)

/-- The time that `do_acquire` gives the key. -/
def px (client : LockClient τ) : Option Int :=
  (client.lock.timeout.filter Seconds.truthy).map Seconds.millis

/-- After the key was taken by somebody else, `acquire` gives up or tries again. -/
def refused (now : Int) (attempt : Acquisition τ) (client : LockClient τ) :
    LockClient τ × Option LockOutcome :=
  if !attempt.blocking then (client.finish, some (.returned (some false)))
  else if attempt.stopTryingAt.any fun stop => now + attempt.sleep > stop then
    (client.finish, some (.returned (some false)))
  else (client, none)

/-- What a script's answer makes of a call. -/
def answered (client : LockClient τ) (message : String) (value : Option Bool)
    (answer : Int × Key τ) : Key τ × LockClient τ × Option LockOutcome :=
  if answer.1 = 0 then (answer.2, client.finish, some (.error .lockNotOwnedError message))
  else (answer.2, client.finish, some (.returned value))

/-- The next phase of a call. -/
def resume (now : Int) (key : Key τ) (client : LockClient τ) :
    Key τ × LockClient τ × Option LockOutcome :=
  match client.phase with
  | .idle => (key, client, none)
  | .trying attempt =>
    match key.setNx attempt.token client.px with
    | .error e => (key, client.finish, some (.raised e))
    | .ok (true, key) => (key, { client with phase := .acquired attempt.token }, none)
    | .ok (false, key) => (key, client.refused now attempt)
  | .acquired token =>
    (key, { lock := { client.lock with token := some token }, phase := .idle },
      some (.returned (some true)))
  | .releasing expected =>
    client.answered "Cannot release a lock that's no longer owned" none (key.luaRelease expected)
  | .extending millis replaceTtl =>
    match client.lock.token with
    | some token =>
      client.answered "Cannot extend a lock that's no longer owned" (some true)
        (key.luaExtend token millis replaceTtl)
    | none => (key, client.finish, some (.raised { cls := .dataError }))
  | .reacquiring =>
    match client.lock.token, client.lock.timeout with
    | some token, some timeout =>
      client.answered "Cannot reacquire a lock that's no longer owned" (some true)
        (key.luaReacquire token timeout.millis)
    | none, _ => (key, client.finish, some (.raised { cls := .dataError }))
    | _, none => (key, client.finish, some (.raised { cls := .typeError }))

end LockClient

/-! ## Clients and a server -/

variable {ι : Type} [DecidableEq ι]

/-- A server with the key, a clock, and clients. -/
structure LockSystem (ι τ : Type) where
  key : Key τ
  /-- `monotonic()`, the same for all clients. -/
  now : Int
  clients : ι → LockClient τ
  /-- All tokens that were ever generated. -/
  drawn : List τ

/-- What may happen next. -/
inductive LockAction (ι τ : Type) where
  /-- Time passes. -/
  | elapse (millis : Nat)
  /-- A client without a call makes one. -/
  | call (client : ι) (request : Request τ)
  /-- A client's call goes on. -/
  | resume (client : ι)

/-- The token that a call generates. -/
def Request.token : Request τ → Option τ
  | .acquire token _ _ _ => some token
  | _ => none

namespace LockSystem

/-- One client's part changes. -/
def setClient (s : LockSystem ι τ) (i : ι) (client : LockClient τ) : LockSystem ι τ :=
  { s with clients := Function.update s.clients i client }

/-- One step; a generated token is a new one. -/
inductive Step (s : LockSystem ι τ) : LockAction ι τ → LockSystem ι τ → Option LockOutcome → Prop
  | elapse (millis : Nat) :
    Step s (.elapse millis) { s with key := s.key.elapse millis, now := s.now + millis } none
  | call (i : ι) (request : Request τ) (idle : (s.clients i).phase = .idle)
      (fresh : ∀ token ∈ request.token, token ∉ s.drawn) :
    Step s (.call i request)
      { s.setClient i ((s.clients i).call s.now request).1 with
        drawn := request.token.toList ++ s.drawn }
      ((s.clients i).call s.now request).2
  | resume (i : ι) (busy : (s.clients i).phase ≠ .idle) :
    Step s (.resume i)
      { s.setClient i ((s.clients i).resume s.now s.key).2.1 with
        key := ((s.clients i).resume s.now s.key).1 }
      ((s.clients i).resume s.now s.key).2.2

/-- Locks that hold nothing, and a key that may be held by somebody else. -/
def start (locks : ι → Lock τ) (key : Key τ) (now : Int) : LockSystem ι τ where
  key
  now
  clients i := { lock := { locks i with token := none }, phase := .idle }
  drawn := (key.map Entry.value).toList

/-- A run with the states it has been in, the last first. -/
inductive Run (first : LockSystem ι τ) : List (LockSystem ι τ) → LockSystem ι τ → Prop
  | start : Run first [] first
  | step {past : List (LockSystem ι τ)} {s t : LockSystem ι τ} {action : LockAction ι τ}
      {outcome : Option LockOutcome} (before : Run first past s)
      (taken : Step s action t outcome) : Run first (s :: past) t

end LockSystem

end RedisPy

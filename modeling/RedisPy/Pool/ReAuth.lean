import RedisPy.Client.Established
import Mathlib.Data.List.Forall2

/-!
# A new token for the connections of a pool

`re_auth_callback` of the blocking and the asyncio `ConnectionPool`. Idle connections send `AUTH`
one after another, in two steps that are retried separately; connections in use are given the
token and send it when they are released. What the server makes of the exchanges on a connection
is part of its surroundings, so every outcome at every step is possible.
-/

namespace RedisPy

open Contract

variable {F : Type}

/-- A `TokenInterface`, as far as a connection looks at it. -/
structure AuthToken where
  /-- `try_get("oid")`. -/
  oid : Option Text
  /-- `get_value()`. -/
  value : Text
deriving DecidableEq

/-- How an exchange of `AUTH` ended. -/
structure AuthExchange where
  /-- The token that was sent. -/
  token : AuthToken
  /-- The session that accepted it, unless the exchange raised. -/
  accepted : Option Nat
deriving DecidableEq

/-- A connection of a pool. -/
structure AuthConnection (F : Type) where
  /-- What it is configured with. -/
  config : HandshakeConfig F
  /-- What happens around its calls. -/
  env : HandshakeEnv F
  /-- Its socket. -/
  channel : Channel
  /-- `_re_auth_token`. -/
  reAuthToken : Option AuthToken
  /-- The exchanges of `AUTH` besides those of handshakes, the latest first. -/
  exchanges : List AuthExchange

namespace AuthConnection

/-- There is a socket. -/
def Connected (conn : AuthConnection F) : Prop := conn.channel.sock.isSome = true

/-- The token that the server accepted last on the session. -/
def identity (conn : AuthConnection F) : Option AuthToken :=
  match conn.channel.sock with
  | none => none
  | some session => (conn.exchanges.find? (·.accepted = some session)).map (·.token)

section Calls

variable (config : HandshakeConfig F) (env : HandshakeEnv F)

/-- `send_command("AUTH", token.try_get("oid"), token.get_value())`; `None` cannot be packed. -/
def sendAuth (token : AuthToken) : EStateM Exc Channel Unit :=
  match token.oid with
  | none => throw { cls := .dataError }
  | some oid =>
    Channel.sendCommand config env (Channel.connectCheckHealth config env env.depth)
      ["AUTH".toList, oid, token.value] true

/-- `read_response()`. -/
def readReply : EStateM Exc Channel Unit := do
  let _ ← Channel.readResponse config env

/-- `_mock`, the handler of failures. -/
def mock (_ : Exc) : EStateM Exc Channel Unit := pure ()

/-- The body of the loop over the idle connections. -/
def twoSteps (token : AuthToken) : EStateM Exc Channel Unit := do
  config.retry.callWithRetry (sendAuth config env token) mock env.patience 0
  config.retry.callWithRetry (readReply config env) mock env.patience 0

/-- The body of `re_auth`. -/
def oneExchange (token : AuthToken) : EStateM Exc Channel Unit := do
  sendAuth config env token
  readReply config env

end Calls

/-- After an exchange that returned. -/
def settled (conn : AuthConnection F) (token : AuthToken) (channel : Channel) : AuthConnection F :=
  { conn with channel, exchanges := { token, accepted := channel.sock } :: conn.exchanges }

/-- After an exchange that raised. -/
def refused (conn : AuthConnection F) (token : AuthToken) (channel : Channel) : AuthConnection F :=
  { conn with channel, exchanges := { token, accepted := none } :: conn.exchanges }

/-- An idle connection sends `AUTH` and reads the reply. -/
def authenticate (token : AuthToken) : EStateM Exc (AuthConnection F) Unit := fun conn =>
  match twoSteps conn.config conn.env token conn.channel with
  | .ok _ channel => .ok () (conn.settled token channel)
  | .error e channel => .error e (conn.refused token channel)

/-- `set_re_auth_token`. -/
def setReAuthToken (token : AuthToken) (conn : AuthConnection F) : AuthConnection F :=
  { conn with reAuthToken := some token }

/-- `re_auth`, which runs when a connection is released. -/
def reAuth : EStateM Exc (AuthConnection F) Unit := fun conn =>
  match conn.reAuthToken with
  | none => .ok () conn
  | some token =>
    match oneExchange conn.config conn.env token conn.channel with
    | .ok _ channel => .ok () { conn.settled token channel with reAuthToken := none }
    | .error e channel => .error e (conn.refused token channel)

end AuthConnection

/-- A pool, blocking or asyncio. -/
structure AuthPool (F : Type) where
  /-- `_available_connections`. -/
  available : List (AuthConnection F)
  /-- `_in_use_connections`, in the order in which they are visited. -/
  inUse : List (AuthConnection F)

namespace AuthPool

open AuthConnection

/-- The loop over the idle connections; the first exception leaves it. -/
def authenticateIdle (token : AuthToken) : EStateM Exc (List (AuthConnection F)) Unit
  | [] => .ok () []
  | conn :: rest =>
    match authenticate token conn with
    | .error e after => .error e (after :: rest)
    | .ok _ after =>
      match authenticateIdle token rest with
      | .ok _ others => .ok () (after :: others)
      | .error e others => .error e (after :: others)

/-- `re_auth_callback`. -/
def reAuthCallback (token : AuthToken) : EStateM Exc (AuthPool F) Unit := fun pool =>
  match authenticateIdle token pool.available with
  | .ok _ available => .ok () { available, inUse := pool.inUse.map (setReAuthToken token) }
  | .error e available => .error e { pool with available }

end AuthPool

/-! ## What an exchange does -/

namespace AuthConnection

section Exchange

variable {config : HandshakeConfig F} {env : HandshakeEnv F}

/-- A reply is read from a socket. -/
theorem meets_readReply :
    Meets (fun _ => True) (readReply config env) (fun _ s => s.sock.isSome = true)
      fun _ _ => True := by
  have read : Meets (fun _ => True) (Channel.readResponse config env)
      (fun _ s => s.sock.isSome = true) fun _ _ => True := by
    intro s _
    unfold Channel.readResponse
    cases opened : s.sock with
    | none => trivial
    | some session =>
      have kept : s.tick.sock.isSome = true := by
        show s.sock.isSome = true
        rw [opened]
        rfl
      simp only
      cases env.reply s.latest s.clock with
      | error e => trivial
      | ok response =>
        cases response with
        | exc e =>
          by_cases refused : e.isinstance .responseError = true
          · simp only [if_pos refused]
          · simp only [if_neg refused]
            exact kept
        | _ => exact kept
  exact read.bind fun _ => meets_pure fun _ => id

/-- An exchange that returns leaves a socket behind. -/
theorem meets_twoSteps (token : AuthToken) :
    Meets (fun _ => True) (twoSteps config env token) (fun _ s => s.sock.isSome = true)
      fun _ _ => True := by
  have sent : Meets (fun _ => True)
      (config.retry.callWithRetry (sendAuth config env token) mock env.patience 0)
      (fun _ _ => True) fun _ _ => True := Channel.meets_anything _
  have read : Meets (fun _ => True)
      (config.retry.callWithRetry (readReply config env) mock env.patience 0)
      (fun _ s => s.sock.isSome = true) fun _ _ => True :=
    config.retry.meets_callWithRetry (R := fun _ => True) meets_readReply
      (fun _ _ => meets_pure fun _ _ => ⟨trivial, trivial⟩) (fun _ _ _ _ => trivial)
      (fun _ => id) (fun _ _ => trivial) env.patience 0
  exact sent.bind fun _ => read

/-- The second step cannot be repeated: when the reply does not arrive the connection is closed,
and reading does not open it again, whatever the retries. -/
theorem readReply_lost (s : Channel) {e : Exc} (lost : env.reply s.latest s.clock = .error e) :
    ∃ raised t, config.retry.callWithRetry (readReply config env) mock env.patience 0 s =
      .error raised t ∧ t.sock = none := by
  have read : Meets (fun t => t = s ∨ t.sock = none) (Channel.readResponse config env)
      (fun _ _ => False) fun _ t => t.sock = none := by
    intro t start
    unfold Channel.readResponse
    cases opened : t.sock with
    | none => rfl
    | some session =>
      rcases start with same | closed
      · simp only [same, lost]
        rfl
      · rw [closed] at opened
        cases opened
  have attempt : Meets (fun t => t = s ∨ t.sock = none) (readReply config env)
      (fun _ _ => False) fun _ t => t.sock = none := read.bind fun _ => meets_pure fun _ => id
  have mocked (e : Exc) : Meets (fun t => t.sock = none) (mock e)
      (fun _ t => t.sock = none ∧ t.sock = none) fun _ t => t.sock = none :=
    meets_pure fun _ closed => ⟨closed, closed⟩
  have retried := config.retry.meets_callWithRetry attempt (fun e _ => mocked e) (fun _ _ _ => id)
    (fun _ => .inr) (fun _ => id) env.patience 0
  have ends := retried s (.inl rfl)
  cases outcome : config.retry.callWithRetry (readReply config env) mock env.patience 0 s with
  | ok value t =>
    rw [outcome] at ends
    exact ends.elim
  | error raised t =>
    rw [outcome] at ends
    exact ⟨raised, t, rfl, ends⟩

end Exchange

variable {token : AuthToken} {conn after : AuthConnection F}

/-- After an exchange that returned on a connection with a socket, the server knows the token. -/
theorem identity_settled {channel : Channel} (opened : channel.sock.isSome = true) :
    (conn.settled token channel).identity = some token := by
  obtain ⟨session, known⟩ := Option.isSome_iff_exists.mp opened
  simp [identity, settled, known]

/-- An idle connection whose exchange returns is authenticated with the token. -/
theorem authenticate_identity (returned : authenticate token conn = .ok () after) :
    after.identity = some token := by
  have exchange : Meets (fun _ => True) (twoSteps conn.config conn.env token)
      (fun _ s => s.sock.isSome = true) fun _ _ => True := meets_twoSteps token
  have ends := exchange conn.channel trivial
  unfold authenticate at returned
  cases outcome : twoSteps conn.config conn.env token conn.channel with
  | ok value channel =>
    rw [outcome] at returned ends
    cases returned
    exact identity_settled ends
  | error e channel =>
    rw [outcome] at returned
    cases returned

/-- An exchange that raises is recorded. -/
theorem authenticate_refused {e : Exc} (raised : authenticate token conn = .error e after) :
    after.exchanges = { token, accepted := none } :: conn.exchanges := by
  unfold authenticate at raised
  cases outcome : twoSteps conn.config conn.env token conn.channel with
  | ok value channel =>
    rw [outcome] at raised
    cases raised
  | error e channel =>
    rw [outcome] at raised
    cases raised
    rfl

/-- A pending token is sent when the connection is released: either the server has accepted it, or
it stays pending. -/
theorem reAuth_pending (pending : conn.reAuthToken = some token) :
    (∃ after, reAuth conn = .ok () after ∧ after.identity = some token ∧
      after.reAuthToken = none) ∨
    ∃ e after, reAuth conn = .error e after ∧ after.reAuthToken = some token ∧
      after.exchanges = { token, accepted := none } :: conn.exchanges := by
  have ends : Meets (fun _ => True) (oneExchange conn.config conn.env token)
      (fun _ s => s.sock.isSome = true) fun _ _ => True :=
    Meets.bind (Channel.meets_anything _) fun _ => meets_readReply
  have exchanged := ends conn.channel trivial
  unfold reAuth
  rw [pending]
  cases outcome : oneExchange conn.config conn.env token conn.channel with
  | ok value channel =>
    rw [outcome] at exchanged
    have known : (conn.settled token channel).identity = some token := identity_settled exchanged
    exact .inl ⟨{ conn.settled token channel with reAuthToken := none }, by simp only [outcome],
      known, rfl⟩
  | error e channel =>
    exact .inr ⟨e, conn.refused token channel, by simp only [outcome], pending, rfl⟩

/-- The token is known to the server, or pending. -/
def Ready (token : AuthToken) (conn : AuthConnection F) : Prop :=
  conn.identity = some token ∨ conn.reAuthToken = some token

/-- An exchange of `AUTH` on the connection took place, and failed. -/
def Refused (token : AuthToken) (before after : AuthConnection F) : Prop :=
  after.exchanges = { token, accepted := none } :: before.exchanges

/-- A connection that is connected afterwards is ready, unless its own exchange failed. -/
def Reached (token : AuthToken) (before after : AuthConnection F) : Prop :=
  after.Connected → ¬Refused token before after → after.Ready token

/-- The exchange on the connection returns. -/
def Accepts (token : AuthToken) (conn : AuthConnection F) : Prop :=
  ∃ after, authenticate token conn = .ok () after

/-- The exchange on the connection returns or raises. -/
theorem accepts_or_raises (token : AuthToken) (conn : AuthConnection F) :
    conn.Accepts token ∨ ∃ e after, authenticate token conn = .error e after := by
  cases outcome : authenticate token conn with
  | ok value after => exact .inl ⟨after, outcome⟩
  | error e after => exact .inr ⟨e, after, rfl⟩

/-- A connection whose exchange returned is reached. -/
theorem reached_of_ok (returned : authenticate token conn = .ok () after) :
    Reached token conn after :=
  fun _ _ => .inl (authenticate_identity returned)

/-- So is one whose exchange raised. -/
theorem reached_of_error {e : Exc} (raised : authenticate token conn = .error e after) :
    Reached token conn after :=
  fun _ unharmed => absurd (authenticate_refused raised) unharmed

/-- A connection in use is reached when it is given the token. -/
theorem reached_setReAuthToken (token : AuthToken) (conn : AuthConnection F) :
    Reached token conn (setReAuthToken token conn) :=
  fun _ _ => .inr rfl

/-- A connection that is left as it was is reached if it was ready before. -/
theorem reached_self (token : AuthToken) (conn : AuthConnection F) :
    Reached token conn conn ↔ (conn.Connected → conn.Ready token) := by
  have unharmed : ¬Refused token conn conn := by
    intro same
    have lengths := congrArg List.length same
    rw [List.length_cons] at lengths
    omega
  constructor
  · intro reached connected
    exact reached connected unharmed
  · intro ready connected _
    exact ready connected

end AuthConnection

namespace AuthPool

open AuthConnection

variable {token : AuthToken}

/-! ## Where the loop ends -/

/-- All exchanges return, or there is a first one that raises. -/
theorem accepts_all_or_first (token : AuthToken) (idle : List (AuthConnection F)) :
    (∀ conn ∈ idle, conn.Accepts token) ∨
    ∃ ahead conn behind, idle = ahead ++ conn :: behind ∧ (∀ other ∈ ahead, other.Accepts token) ∧
      ∃ e after, authenticate token conn = .error e after := by
  induction idle with
  | nil => exact .inl (by simp)
  | cons conn rest ih =>
    rcases conn.accepts_or_raises token with accepts | raises
    · rcases ih with all | ⟨ahead, first, behind, rfl, accepted, raises⟩
      · exact .inl (List.forall_mem_cons.mpr ⟨accepts, all⟩)
      · exact .inr ⟨conn :: ahead, first, behind, rfl,
          List.forall_mem_cons.mpr ⟨accepts, accepted⟩, raises⟩
    · exact .inr ⟨[], conn, rest, rfl, by simp, raises⟩

/-- If all exchanges return, every connection is visited. -/
theorem authenticateIdle_ok {idle : List (AuthConnection F)}
    (accepts : ∀ conn ∈ idle, conn.Accepts token) :
    ∃ after, authenticateIdle token idle = .ok () after ∧
      List.Forall₂ (Reached token) idle after := by
  induction idle with
  | nil => exact ⟨[], rfl, .nil⟩
  | cons conn rest ih =>
    obtain ⟨⟨after, returned⟩, later⟩ := List.forall_mem_cons.mp accepts
    obtain ⟨others, visited, reached⟩ := ih later
    refine ⟨after :: others, ?_, .cons (reached_of_ok returned) reached⟩
    simp only [authenticateIdle, returned, visited]

/-- At the first exchange that raises the loop is left; what is behind stays as it is. -/
theorem authenticateIdle_error {ahead : List (AuthConnection F)} {conn after : AuthConnection F}
    {e : Exc} (accepts : ∀ other ∈ ahead, other.Accepts token)
    (raises : authenticate token conn = .error e after) (behind : List (AuthConnection F)) :
    ∃ visited, authenticateIdle token (ahead ++ conn :: behind) =
      .error e (visited ++ after :: behind) ∧ List.Forall₂ (Reached token) ahead visited := by
  induction ahead with
  | nil =>
    refine ⟨[], ?_, .nil⟩
    simp only [List.nil_append, authenticateIdle, raises]
  | cons first rest ih =>
    obtain ⟨⟨done, returned⟩, later⟩ := List.forall_mem_cons.mp accepts
    obtain ⟨visited, left, reached⟩ := ih later
    refine ⟨done :: visited, ?_, .cons (reached_of_ok returned) reached⟩
    simp only [List.cons_append, authenticateIdle, returned, left]

/-! ## Which connections are reached -/

/-- Every connection of the pool is reached. -/
structure ReachesAll (token : AuthToken) (before after : AuthPool F) : Prop where
  idle : List.Forall₂ (Reached token) before.available after.available
  used : List.Forall₂ (Reached token) before.inUse after.inUse

/-- When the exchange of an idle connection is the first to raise, all connected connections behind
it and in use have the token already. -/
def LeavesNoneOut (token : AuthToken) (pool : AuthPool F) : Prop :=
  ∀ ahead conn behind, pool.available = ahead ++ conn :: behind →
    (∀ other ∈ ahead, other.Accepts token) → ¬conn.Accepts token →
    ∀ other ∈ behind ++ pool.inUse, other.Connected → other.Ready token

/-- Connections that are left as they were. -/
theorem forall₂_reached_self (token : AuthToken) (conns : List (AuthConnection F)) :
    List.Forall₂ (Reached token) conns conns ↔ ∀ conn ∈ conns, conn.Connected → conn.Ready token := by
  rw [List.forall₂_same]
  simp only [reached_self]

/-- A pool whose loop is left reaches all connections just when none is left out. -/
theorem reachesAll_left {pool : AuthPool F} {ahead behind visited : List (AuthConnection F)}
    {conn after : AuthConnection F} {e : Exc} (split : pool.available = ahead ++ conn :: behind)
    (raises : authenticate token conn = .error e after)
    (reached : List.Forall₂ (Reached token) ahead visited) :
    ReachesAll token pool { pool with available := visited ++ after :: behind } ↔
      ∀ other ∈ behind ++ pool.inUse, other.Connected → other.Ready token := by
  rw [List.forall_mem_append]
  constructor
  · intro all
    have idle := all.idle
    rw [split] at idle
    have rest := List.forall₂_drop_append _ visited (after :: behind) idle
    rw [← reached.length_eq, List.drop_left] at rest
    cases rest with
    | cons _ left =>
      exact ⟨(forall₂_reached_self token behind).mp left,
        (forall₂_reached_self token pool.inUse).mp all.used⟩
  · intro ready
    refine ⟨?_, (forall₂_reached_self token pool.inUse).mpr ready.2⟩
    rw [split]
    have left := (forall₂_reached_self token behind).mpr ready.1
    exact List.rel_append reached (.cons (reached_of_error raises) left)

/-- Re-authentication reaches every connected connection whose own exchange did not fail, just
when no exchange raises while others are left that need the token. -/
theorem reAuthCallback_reachesAll_iff (token : AuthToken) (pool : AuthPool F) :
    ReachesAll token pool (stateAfter (reAuthCallback token pool)) ↔ pool.LeavesNoneOut token := by
  unfold reAuthCallback
  constructor
  · intro all ahead conn behind split accepts raises
    rcases conn.accepts_or_raises token with accepted | ⟨e, after, raised⟩
    · exact absurd accepted raises
    · obtain ⟨visited, left, reached⟩ := authenticateIdle_error accepts raised behind
      rw [split, left] at all
      exact (reachesAll_left split raised reached).mp all
  · intro none_left
    rcases accepts_all_or_first token pool.available with
      accepts | ⟨ahead, conn, behind, split, accepts, e, after, raised⟩
    · obtain ⟨after, visited, reached⟩ := authenticateIdle_ok accepts
      have used : List.Forall₂ (Reached token) pool.inUse
          (pool.inUse.map (setReAuthToken token)) := by
        rw [List.forall₂_map_right_iff, List.forall₂_same]
        intro conn _
        exact reached_setReAuthToken token conn
      rw [visited]
      exact ⟨reached, used⟩
    · obtain ⟨visited, left, reached⟩ := authenticateIdle_error accepts raised behind
      have raises : ¬conn.Accepts token := by
        rintro ⟨done, returned⟩
        rw [raised] at returned
        cases returned
      rw [split, left]
      exact (reachesAll_left split raised reached).mpr
        (none_left ahead conn behind split accepts raises)

/-! ## A lost reply -/

/-- A blocking connection without retries. -/
def plainConfig : HandshakeConfig Empty where
  asyncio := false
  retry := { retries := some 0,
             supportedErrors := [.connectionError, .timeoutError, .builtinTimeoutError] }
  healthChecks := false
  resp3 := false
  authenticates := false
  clientName := none
  libName := none
  libVersion := none
  db := 0
  redisConnectFunc := none
  connectCallbacks := []

/-- A server that answers every command like this. -/
def answering (reply : Except Exc (PyVal Empty)) : HandshakeEnv Empty where
  patience := 0
  depth := 2
  stolen _ := false
  dial _ := .opened
  due _ := false
  credentials _ := .ok []
  pack _ := none
  write _ _ := none
  reply _ _ := reply
  close _ := none
  canRead _ := .ok false

/-- A connected connection. -/
def connectedTo (reply : Except Exc (PyVal Empty)) : AuthConnection Empty where
  config := plainConfig
  env := answering reply
  channel := { Channel.new with sock := some 0, sessions := 1 }
  reAuthToken := none
  exchanges := []

/-- Two idle connections, of which the first has lost its server, and one that is in use. -/
def twoIdle : AuthPool Empty where
  available := [connectedTo (.error { cls := .connectionError }),
    connectedTo (.ok (.bytes (ascii "OK")))]
  inUse := [connectedTo (.ok (.bytes (ascii "OK")))]

/-- A token. -/
def freshToken : AuthToken := { oid := some "user".toList, value := "secret".toList }

/-- The connection in use is connected, took no part in the failed exchange, and never hears of the
token. -/
theorem lost_reply_leaves_out :
    ¬ReachesAll freshToken twoIdle (stateAfter (reAuthCallback freshToken twoIdle)) := by
  intro all
  have kept : (stateAfter (reAuthCallback freshToken twoIdle)).inUse = twoIdle.inUse := rfl
  have used := all.used
  rw [kept] at used
  have ready := (forall₂_reached_self freshToken twoIdle.inUse).mp used
  rcases ready _ (List.mem_singleton.mpr rfl) rfl with known | pending
  · exact absurd known (by decide)
  · exact absurd pending (by decide)

end AuthPool

end RedisPy

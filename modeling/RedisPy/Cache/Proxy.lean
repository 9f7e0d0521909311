import RedisPy.Lib.Contract
import RedisPy.Lib.Runs
import RedisPy.Client.Pipeline
import RedisPy.Cache.Invalidation

/-!
# Connections that share a cache

`CacheProxyConnection` of `redis/connection.py`, over `DefaultCache`. A proxy remembers the entry that
its last command is about, an entry remembers the connection that it was made for, and what the server
sends waits on a connection until somebody reads it. Commands are numbered, so that it can be told whose
reply is read; the server, the network and the opening of a socket are an environment.
-/

namespace RedisPy

open Contract

variable {F : Type}

namespace CacheProxy

/-! ## The state -/

/-- The arguments and the options of `send_command`. -/
structure CacheCommand where
  /-- `args[0]`. -/
  command : Text
  /-- `args[1:]`. -/
  args : List RedisKey
  /-- `kwargs.get("keys")`. -/
  keys : Option (List RedisKey)

/-- A command that was sent, or left to the cache. -/
structure Request where
  number : Nat
  command : Text
  args : List RedisKey
  keys : List RedisKey
deriving DecidableEq

/-- The request that a command becomes. -/
def CacheCommand.request (command : CacheCommand) (number : Nat) : Request :=
  { number, command := command.command, args := command.args, keys := command.keys.getD [] }

/-- `CacheKey(command=args[0], redis_keys=tuple(kwargs.get("keys")))`. -/
def Request.cacheKey (request : Request) : CacheKey := ⟨request.command, request.keys⟩

/-- The name and the complete argument list. -/
def Request.words (request : Request) : Text × List RedisKey := (request.command, request.args)

/-- A socket: its number, and whether `CLIENT TRACKING ON` was acknowledged on it. -/
structure Session where
  number : Nat
  tracking : Bool
deriving DecidableEq

/-- What an entry was made for, and where its value was read. -/
structure Origin where
  request : Request
  session : Option Session

/-- What the server sends. -/
inductive Message (F : Type) where
  /-- The reply to a request. -/
  | reply (request : Request) (value : PyVal F)
  /-- An invalidation with its `data[1]`. -/
  | invalidation (names : Option (List Bytes))

/-- The connection behind a proxy. -/
structure Wrapped (F : Type) where
  /-- `_sock`. -/
  sock : Option Session
  /-- The requests that the server has not answered yet. -/
  outstanding : List Request
  /-- What the server sent and nobody has read yet. -/
  inbox : List (Message F)

/-- A connection without a socket. -/
def Wrapped.closed : Wrapped F := { sock := none, outstanding := [], inbox := [] }

/-- `CacheProxyConnection`. -/
structure Proxy (F : Type) where
  /-- `_conn`. -/
  conn : Wrapped F
  /-- `_current_command_cache_key`. -/
  currentCommandCacheKey : Option CacheKey
  /-- The requests that were written and whose replies nobody was given yet. -/
  expected : List Request
  /-- The request that `send_command` left to the cache. -/
  hit : Option Request

/-- The request whose reply the next `read_response` is for. -/
def Proxy.awaited (proxy : Proxy F) : Option Request := proxy.hit <|> proxy.expected.head?

/-- A cache and its connections. -/
structure World (F : Type) where
  /-- `_cache`. -/
  entries : Entries F Origin
  proxies : Nat → Proxy F
  /-- How many sockets there were. -/
  sessions : Nat
  /-- How many requests there were. -/
  requests : Nat
  /-- The replies that the server gave since the last invalidation of their keys. -/
  given : List (Request × PyVal F)

namespace World

/-- A proxy changed. -/
def put (s : World F) (i : Nat) (proxy : Proxy F) : World F :=
  { s with proxies := Function.update s.proxies i proxy }

/-- A connection changed. -/
def putConn (s : World F) (i : Nat) (conn : Wrapped F) : World F := s.put i { s.proxies i with conn }

/-- A new socket; closing the one before left nothing to read. -/
def opened (s : World F) (i : Nat) (tracking : Bool) : World F :=
  let sock := some { number := s.sessions, tracking }
  { s.putConn i { (s.proxies i).conn with sock } with sessions := s.sessions + 1 }

end World

/-- How a call does not return. -/
inductive Halt where
  /-- With an exception. -/
  | raised (e : Exc)
  /-- With the error reply to a request. -/
  | refused (request : Request) (e : Exc)
  /-- It waits for a server that owes nothing. -/
  | waits

/-- How `connect` ends where there is no socket. -/
inductive Opening where
  /-- With a socket on which the server tracks keys. -/
  | tracked
  /-- With an exception, and without a socket. -/
  | failed (e : Exc)
  /-- With the exception of `_enable_tracking_callback`, which nobody cleans up after. -/
  | untracked (e : Exc)

/-- What comes of a health check. -/
inductive Health where
  | notDue
  | answered
  | failed (e : Exc)

/-- What happens around a call. -/
structure CacheEnv (F : Type) where
  /-- `connect`, for the number of the socket. -/
  opening : Nat → Opening
  /-- The exception of `can_read` on a connection on which so many messages wait. -/
  poll : Nat → Nat → Option Exc
  /-- `check_health`. -/
  health : Health
  /-- A failed health check is repeated. -/
  repeats : Bool
  /-- The exception of `sendall`. -/
  written : Option Exc
  /-- The invalidations that arrive while a reply is waited for. -/
  arriving : List (Option (List Bytes))
  /-- What the parser makes of the reply that is waited for. -/
  answer : Request → Except Exc (PyVal F)

/-! ## The connection behind a proxy -/

/-- A program of the connections. -/
abbrev ProxyM (F : Type) := EStateM Halt (World F)

/-- `_conn.disconnect`. -/
def close (i : Nat) : ProxyM F Unit := modify fun s => s.putConn i .closed

/-- `_conn.connect`, with `_enable_tracking_callback` as the connect callback. -/
def connect (env : CacheEnv F) (i : Nat) : ProxyM F Unit := fun s =>
  match (s.proxies i).conn.sock with
  | some _ => .ok () s
  | none =>
    match env.opening s.sessions with
    | .tracked => .ok () (s.opened i true)
    | .failed e => .error (.raised e) s
    | .untracked e => .error (.raised e) (s.opened i false)

/-- `_conn.can_read`. -/
def canRead (env : CacheEnv F) (i : Nat) : ProxyM F Bool := do
  connect env i
  fun s =>
    let waiting := (s.proxies i).conn.inbox.length
    match env.poll i waiting with
    | some e => .error (.raised e) (s.putConn i .closed)
    | none => .ok (waiting != 0) s

/-- A name of the request is among these. -/
def Request.DependsOn (request : Request) (names : List Bytes) : Prop :=
  request.cacheKey.DependsOn names

instance (request : Request) (names : List Bytes) : Decidable (request.DependsOn names) :=
  inferInstanceAs (Decidable (request.cacheKey.DependsOn names))

/-- `_on_invalidation_callback`. -/
def onInvalidationCallback (names : Option (List Bytes)) : ProxyM F Unit := fun s =>
  match names with
  | none => .ok () { s with entries := (DefaultCache.flush s.entries).2, given := [] }
  | some names =>
    let (response, entries) := DefaultCache.deleteByRedisKeys (names.map .bytes) s.entries
    let t := { s with entries, given := s.given.filter fun reply => ¬reply.1.DependsOn names }
    match response with
    | .ok _ => .ok () t
    | .error e => .error (.raised e) t

/-- A message was taken off the connection. -/
def take (i : Nat) (rest : List (Message F)) : ProxyM F Unit :=
  modify fun s => s.putConn i { (s.proxies i).conn with inbox := rest }

/-- An invalidation is handled while reading; what the handler raises disconnects. -/
def handle (i : Nat) (names : Option (List Bytes)) : ProxyM F Unit :=
  recover (onInvalidationCallback names) fun halt => do
    close i
    throw halt

/-- `_conn.read_response(push_request=True)` for this message: a reply is dropped, or raised. -/
def receive (i : Nat) : Message F → ProxyM F Unit
  | .invalidation names => handle i names
  | .reply request value =>
    match value.errorReply with
    | some e => throw (.refused request e)
    | none => pure ()

/-- `while conn.can_read(): conn.read_response(push_request=True)` with these messages waiting. -/
def drain (env : CacheEnv F) (i : Nat) : List (Message F) → ProxyM F Unit
  | [] => do let _ ← canRead env i
  | message :: rest => do
    let _ ← canRead env i
    take i rest
    receive i message
    drain env i rest

/-- `_process_pending_invalidations`, and the same loop on the connection of an entry. -/
def processPendingInvalidations (env : CacheEnv F) (i : Nat) : ProxyM F Unit := fun s =>
  drain env i (s.proxies i).conn.inbox s

/-- The failure handler of a health check. -/
def pingFailed (env : CacheEnv F) (i : Nat) (e : Exc) : ProxyM F Unit := do
  close i
  if env.repeats then connect env i else throw (.raised e)

/-- The `PONG` is read with these messages waiting before it. -/
def readPong (env : CacheEnv F) (i : Nat) : List (Message F) → ProxyM F Unit
  | [] => do
    let s ← get
    -- the reply to another request is taken for the `PONG`
    whenever ((s.proxies i).conn.outstanding ≠ []) (pingFailed env i { cls := .connectionError })
  | .invalidation names :: rest => do
    take i rest
    handle i names
    readPong env i rest
  | .reply _ _ :: _ => pingFailed env i { cls := .connectionError }

/-- `_conn.check_health`. -/
def checkHealth (env : CacheEnv F) (i : Nat) : ProxyM F Unit :=
  match env.health with
  | .notDue => pure ()
  | .answered => fun s => readPong env i (s.proxies i).conn.inbox s
  | .failed e => pingFailed env i e

/-- The requests are given to the socket. -/
def write (env : CacheEnv F) (i : Nat) (requests : List Request) : ProxyM F Unit := fun s =>
  match env.written with
  | some e => .error (.raised e) (s.putConn i .closed)
  | none =>
    let proxy := s.proxies i
    .ok () (s.put i { proxy with
      conn.outstanding := proxy.conn.outstanding ++ requests
      expected := proxy.expected ++ requests })

/-- `_conn.send_packed_command`. -/
def sendWrapped (env : CacheEnv F) (i : Nat) (requests : List Request) : ProxyM F Unit := do
  connect env i
  checkHealth env i
  write env i requests

/-- A reply is handed over, or raised. -/
def deliver (i : Nat) (request : Request) (value : PyVal F) : ProxyM F (Request × PyVal F) := do
  modify fun s => s.put i { s.proxies i with expected := (s.proxies i).expected.tail }
  match value.errorReply with
  | some e => throw (.refused request e)
  | none => pure (request, value)

/-- Invalidations arrive and are handled. -/
def arrive (i : Nat) : List (Option (List Bytes)) → ProxyM F Unit
  | [] => pure ()
  | names :: rest => do
    handle i names
    arrive i rest

/-- The server answers the first request that it has not answered. -/
def await (env : CacheEnv F) (i : Nat) : ProxyM F (Request × PyVal F) := fun s =>
  let conn := (s.proxies i).conn
  match conn.outstanding with
  | [] => .error .waits s
  | request :: rest =>
    match env.answer request with
    | .error e => .error (.raised e) (s.putConn i .closed)
    | .ok value =>
      deliver i request value { s.putConn i { conn with outstanding := rest } with
        given := s.given ++ [(request, value)] }

/-- `_conn.read_response` with these messages waiting. -/
def readMessages (env : CacheEnv F) (i : Nat) : List (Message F) → ProxyM F (Request × PyVal F)
  | [] => do
    let s ← get
    if (s.proxies i).conn.sock = none then throw (.raised { cls := .attributeError })
    else do
      arrive i env.arriving
      await env i
  | .invalidation names :: rest => do
    take i rest
    handle i names
    readMessages env i rest
  | .reply request value :: rest => do
    take i rest
    deliver i request value

/-- `_conn.read_response`. -/
def readWrapped (env : CacheEnv F) (i : Nat) : ProxyM F (Request × PyVal F) := fun s =>
  readMessages env i (s.proxies i).conn.inbox s

/-! ## The proxy -/

section Calls

variable (config : CacheConfig) (env : CacheEnv F) (i : Nat)

/-- `_current_command_cache_key = key`. -/
def setCurrentCommandCacheKey (key : Option CacheKey) : ProxyM F Unit :=
  modify fun s => s.put i { s.proxies i with currentCommandCacheKey := key }

/-- `_cache.get`. -/
def lookUp (key : CacheKey) : ProxyM F (Option (CacheEntry F Origin)) := fun s =>
  let (found, entries) := DefaultCache.get key s.entries
  .ok found { s with entries }

/-- `_cache.set`. -/
def store (entry : CacheEntry F Origin) : ProxyM F Unit :=
  modify fun s => { s with entries := (DefaultCache.set config entry s.entries).2 }

/-- The temporary entry of a request. -/
def Request.temporary (request : Request) : CacheEntry F Origin where
  cacheKey := request.cacheKey
  cacheValue := .bytes (ascii "foo")
  status := .inProgress
  connectionRef := i
  origin := some { request, session := none }

/-- The rest of `send_command`, for a request with this cache key. -/
def sendCachable (request : Request) : ProxyM F Unit := do
  setCurrentCommandCacheKey i (some request.cacheKey)
  match ← lookUp request.cacheKey with
  | some entry => do
    whenever (entry.connectionRef ≠ i) (processPendingInvalidations env entry.connectionRef)
    modify fun s => s.put i { s.proxies i with hit := some request }
  | none => do
    store config (request.temporary i)
    sendWrapped env i [request]

/-- Some requests get the next numbers. -/
def takeNumbers (count : Nat) : ProxyM F Nat := fun s =>
  .ok s.requests { s with requests := s.requests + count }

/-- `send_command`. -/
def sendCommand (command : CacheCommand) : ProxyM F Unit := do
  let request := command.request (← takeNumbers 1)
  processPendingInvalidations env i
  if config.isAllowedToCache command.command then
    if command.keys = none then throw (.raised { cls := .valueError })
    else sendCachable config env i request
  else do
    setCurrentCommandCacheKey i none
    sendWrapped env i [request]

/-- `send_packed_command`. -/
def sendPackedCommand (commands : List CacheCommand) : ProxyM F Unit := do
  let first ← takeNumbers commands.length
  sendWrapped env i (commands.zipIdx.map fun item => item.1.request (first + item.2))

/-- What `read_response` returns, and the request that it was read for where it was read. -/
structure Reply (F : Type) where
  value : PyVal F
  source : Option Request

/-- The entry of the current command. -/
def lookUpCurrent : ProxyM F (Option (CacheEntry F Origin)) := do
  let s ← get
  match (s.proxies i).currentCommandCacheKey with
  | some key => lookUp key
  | none => pure none

/-- The entry with the value that was read for a request. -/
def complete (request : Request) (value : PyVal F) (session : Option Session)
    (entry : CacheEntry F Origin) : CacheEntry F Origin :=
  { entry with status := .valid, cacheValue := value, origin := some { request, session } }

/-- The end of `read_response`: the entry of the current command gets the value that was read. -/
def keep (request : Request) (value : PyVal F) : ProxyM F Unit := do
  let s ← get
  match (s.proxies i).currentCommandCacheKey with
  | none => pure ()
  | some key =>
    if value.isNone then
      modify fun s => { s with entries := (DefaultCache.deleteByCacheKeys [key] s.entries).2 }
    else do
      match ← lookUp key with
      | some entry => do
        let kept := complete request value (s.proxies i).conn.sock entry
        -- the entry itself is changed before it is stored again
        modify fun s => { s with entries := Dict.set s.entries key kept }
        store config kept
      | none => pure ()
      setCurrentCommandCacheKey i none

/-- `read_response`. -/
def readResponse : ProxyM F (Reply F) := do
  let found ← lookUpCurrent i
  match found.filter (·.status = .valid) with
  | some entry => do
    modify fun s => s.put i { s.proxies i with currentCommandCacheKey := none, hit := none }
    pure { value := entry.cacheValue, source := none }
  | none => do
    let reply ← readWrapped env i
    keep config i reply.1 reply.2
    pure { value := reply.2, source := some reply.1 }

/-! ### What `read_response` does -/

/-- A reply that no current command is waiting for is not kept. -/
theorem keep_other {t : World F} (request : Request) (value : PyVal F)
    (current : (t.proxies i).currentCommandCacheKey = none) :
    keep config i request value t = .ok () t := by
  have looked : (get : ProxyM F (World F)) t = .ok t t := rfl
  rw [keep, Interruptible.bind_of_ok looked, current]
  rfl

/-- `None` is not kept, and the current command stays. -/
theorem keep_nil {t : World F} {key : CacheKey} (request : Request) {value : PyVal F}
    (current : (t.proxies i).currentCommandCacheKey = some key) (nil : value.isNone = true) :
    keep config i request value t =
      .ok () { t with entries := (DefaultCache.deleteByCacheKeys [key] t.entries).2 } := by
  have looked : (get : ProxyM F (World F)) t = .ok t t := rfl
  rw [keep, Interruptible.bind_of_ok looked, current]
  simp only [nil]
  rfl

/-- The entries after a value was read. -/
def keptEntries (key : CacheKey) (request : Request) (value : PyVal F) (session : Option Session)
    (entries : Entries F Origin) : Entries F Origin :=
  match DefaultCache.get key entries with
  | (some entry, entries) =>
    let kept := complete request value session entry
    (DefaultCache.set config kept (Dict.set entries key kept)).2
  | (none, entries) => entries

/-- The state after a value was read for the current command. -/
def World.kept (t : World F) (key : CacheKey) (request : Request) (value : PyVal F) : World F :=
  let entries := keptEntries config key request value (t.proxies i).conn.sock t.entries
  { t with entries }.put i { t.proxies i with currentCommandCacheKey := none }

/-- Another value is kept in the entry of the current command, if there is one. -/
theorem keep_value {t : World F} {key : CacheKey} (request : Request) {value : PyVal F}
    (current : (t.proxies i).currentCommandCacheKey = some key) (some : value.isNone = false) :
    keep config i request value t = .ok () (t.kept config i key request value) := by
  have looked : (get : ProxyM F (World F)) t = .ok t t := rfl
  rw [keep, Interruptible.bind_of_ok looked, current]
  simp only [some]
  unfold World.kept keptEntries
  rcases asked : DefaultCache.get key t.entries with ⟨found, entries⟩
  have lookedUp : lookUp key t = .ok found { t with entries } := by
    unfold lookUp
    rw [asked]
  rw [if_neg Bool.false_ne_true, Interruptible.bind_of_ok lookedUp]
  cases found <;> rfl

/-- The entry of the current command. -/
def World.currentEntry (s : World F) (i : Nat) : Option (CacheEntry F Origin) :=
  (s.proxies i).currentCommandCacheKey.bind fun key => (DefaultCache.get key s.entries).1

/-- The state after the entry of the current command was asked for. -/
def World.touched (s : World F) (i : Nat) : World F :=
  match (s.proxies i).currentCommandCacheKey with
  | some key => { s with entries := (DefaultCache.get key s.entries).2 }
  | none => s

/-- The entry that `read_response` serves. -/
def World.served (s : World F) (i : Nat) : Option (CacheEntry F Origin) :=
  (s.currentEntry i).filter (·.status = .valid)

/-- Asking for the entry of the current command. -/
theorem lookUpCurrent_eq (s : World F) : lookUpCurrent i s = .ok (s.currentEntry i) (s.touched i) := by
  have looked : (get : ProxyM F (World F)) s = .ok s s := rfl
  rw [lookUpCurrent, Interruptible.bind_of_ok looked]
  unfold World.currentEntry World.touched
  cases (s.proxies i).currentCommandCacheKey <;> rfl

/-- A valid entry is served. -/
theorem readResponse_of_served {s : World F} {entry : CacheEntry F Origin}
    (served : s.served i = some entry) :
    readResponse config env i s =
      .ok { value := entry.cacheValue, source := none }
        ((s.touched i).put i
          { (s.touched i).proxies i with currentCommandCacheKey := none, hit := none }) := by
  unfold World.served at served
  rw [readResponse, Interruptible.bind_of_ok (lookUpCurrent_eq i s), served]
  rfl

/-- Otherwise a reply is read, and kept. -/
theorem readResponse_of_missed {s : World F} (missed : s.served i = none) :
    readResponse config env i s = (do
      let reply ← readWrapped env i
      keep config i reply.1 reply.2
      pure { value := reply.2, source := some reply.1 } : ProxyM F (Reply F)) (s.touched i) := by
  unfold World.served at missed
  rw [readResponse, Interruptible.bind_of_ok (lookUpCurrent_eq i s), missed]

/-- `disconnect`. -/
def disconnect : ProxyM F Unit := do
  modify fun s => { s with entries := (DefaultCache.flush s.entries).2 }
  close i

end Calls

/-! ## The server -/

/-- The server answered a request, and the reply arrived. -/
def World.answered (s : World F) (i : Nat) (value : PyVal F) : World F :=
  let conn := (s.proxies i).conn
  match conn.outstanding with
  | [] => s
  | request :: rest =>
    { s.putConn i { conn with outstanding := rest, inbox := conn.inbox ++ [.reply request value] } with
      given := s.given ++ [(request, value)] }

/-- The server sent an invalidation on a session whose keys it tracks. -/
def World.pushed (s : World F) (i : Nat) (names : Option (List Bytes)) : World F :=
  let conn := (s.proxies i).conn
  if conn.sock.any (·.tracking) then
    s.putConn i { conn with inbox := conn.inbox ++ [.invalidation names] }
  else s

/-! ## Runs -/

/-- A step of a run. -/
inductive ProxyCall (F : Type) where
  | connect (i : Nat)
  | sendCommand (i : Nat) (command : CacheCommand)
  | sendPackedCommand (i : Nat) (commands : List CacheCommand)
  | readResponse (i : Nat)
  | disconnect (i : Nat)
  /-- The server answers. -/
  | answer (i : Nat) (value : PyVal F)
  /-- The server invalidates. -/
  | push (i : Nat) (names : Option (List Bytes))
  /-- The socket of the wrapped connection is lost, and the connection notices. -/
  | lose (i : Nat)

/-- The program of a step. -/
def ProxyCall.run (config : CacheConfig) (env : CacheEnv F) : ProxyCall F → ProxyM F Unit
  | .connect i => CacheProxy.connect env i
  | .sendCommand i command => CacheProxy.sendCommand config env i command
  | .sendPackedCommand i commands => CacheProxy.sendPackedCommand env i commands
  | .readResponse i => do let _ ← CacheProxy.readResponse config env i
  | .disconnect i => CacheProxy.disconnect i
  | .answer i value => modify fun s => s.answered i value
  | .push i names => modify fun s => s.pushed i names
  | .lose i => close i

namespace World

/-- The state after a step. -/
def step (config : CacheConfig) (s : World F) (a : ProxyCall F × CacheEnv F) : World F :=
  stateAfter (a.1.run config a.2 s)

/-- An empty cache, and connections without sockets. -/
def start : World F where
  entries := []
  proxies _ := { conn := .closed, currentCommandCacheKey := none, expected := [], hit := none }
  sessions := 0
  requests := 0
  given := []

end World

end CacheProxy

end RedisPy

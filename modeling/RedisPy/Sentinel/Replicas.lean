import RedisPy.Client.Connection
import RedisPy.Sentinel.Rotation

/-!
# Connections to a replica

`_connect_retry` of a `SentinelManagedConnection` in replica mode, once through the generator of
`rotate_slaves`. How each server behaves is fixed beforehand, by the number of the attempt.
-/

namespace RedisPy

/-! ## The connection -/

/-- How it ends to open a socket to a server and to introduce oneself. -/
inductive Opening where
  | opened
  /-- `_connect` raised, after its retries. -/
  | refused (e : Exc)
  /-- `on_connect_check_health` or `redis_connect_func` raised. -/
  | handshake (e : Exc)
  /-- A callback of the connection raised. -/
  | callback (e : Exc)

/-- How a `PING` ends. -/
inductive PingEnd where
  /-- Sending raised. -/
  | unsent (e : Exc)
  /-- Reading raised. -/
  | unread (e : Exc)
  /-- There was an error reply. -/
  | refused (e : Exc)
  /-- The response is `PONG`, or it is not. -/
  | answered (pong : Bool)

/-- A connection with its socket. -/
structure ReplicaLink where
  /-- `host` and `port`. -/
  address : Address
  /-- The number of the attempt that opened the socket. -/
  sock : Option Nat
  /-- Where sockets were tried to open. -/
  tried : List Address
  /-- The attempts that failed and left their socket open. -/
  leftOpen : List Nat

/-- How the servers behave. -/
structure ReplicaWorld where
  /-- `check_connection` of the pool. -/
  checkConnection : Bool
  /-- The opening in each attempt. -/
  opening : Nat → Opening
  /-- The `PING` of each attempt, on the socket of an attempt. -/
  ping : Nat → Nat → PingEnd

namespace ReplicaWorld

variable (world : ReplicaWorld)

/-- `connect_check_health`, with the attempt that has opened the socket. -/
def connectCheckHealth (attempt : Nat) (link : ReplicaLink) : Except Exc Nat × ReplicaLink :=
  match link.sock with
  | some owner => (.ok owner, link)
  | none =>
    let link := { link with tried := link.tried ++ [link.address] }
    match world.opening attempt with
    | .refused e => (.error (socketError e), link)
    | .handshake e =>
      -- only a `RedisError` cleans up
      if e.isinstance .redisError then (.error e, link)
      else (.error e, { link with sock := some attempt })
    | .callback e => (.error e, { link with sock := some attempt })
    | .opened => (.ok attempt, { link with sock := some attempt })

/-- `connect_to`. -/
def connectTo (attempt : Nat) (address : Address) (link : ReplicaLink) : Except Exc Unit × ReplicaLink :=
  match world.connectCheckHealth attempt { link with address } with
  | (.error e, link) => (.error e, link)
  | (.ok owner, link) =>
    if world.checkConnection then
      match world.ping attempt owner with
      | .unsent e => (.error (socketError e), { link with sock := none })
      -- `read_response()` of a managed connection does not disconnect
      | .unread e => (.error (socketError e), link)
      | .refused e =>
        (.error (if e.isinstance .responseError then e else { cls := .connectionError }), link)
      | .answered pong =>
        if pong then (.ok (), link) else (.error { cls := .connectionError }, link)
    else (.ok (), link)

/-- It is noted when an attempt has failed and left its socket open. -/
def note (attempt : Nat) (link : ReplicaLink) : ReplicaLink :=
  if link.sock = some attempt then { link with leftOpen := attempt :: link.leftOpen } else link

/-- The loop of `_connect_retry` over what the generator yields. -/
def tryFrom : Nat → List Yielded → ReplicaLink → Except Exc Unit × ReplicaLink
  | _, [], link => (.error { cls := slaveNotFoundError }, link)
  | _, .raised e :: _, link => (.error e, link)
  | attempt, .address address :: later, link =>
    match world.connectTo attempt address link with
    | (.ok _, link) => (.ok (), link)
    | (.error e, link) =>
      if e.isinstance .connectionError then tryFrom (attempt + 1) later (note attempt link)
      else (.error e, note attempt link)

/-- What the generator yields for these replicas and this master. -/
def yields (replicas : List Address) (draw : Nat) (master : Except Exc Address) (counter : Option Nat) :
    List Yielded :=
  (RotationWorld.rotateSlaves { slaves := .ok replicas, draw, master } (replicas.length + 2) counter).1

/-- `_connect_retry` in replica mode. -/
def connectRetry (replicas : List Address) (draw : Nat) (master : Except Exc Address)
    (counter : Option Nat) (link : ReplicaLink) : Except Exc Unit × ReplicaLink :=
  match link.sock with
  | some _ => (.ok (), link)
  | none => world.tryFrom 0 (yields replicas draw master counter) link

/-! ## The first server that accepts -/

/-- What a `PING` that fails raises. -/
def pingFailure : PingEnd → Option Exc
  | .unsent e => some (socketError e)
  | .unread e => some (socketError e)
  | .refused e => some (if e.isinstance .responseError then e else { cls := .connectionError })
  | .answered pong => if pong then none else some { cls := .connectionError }

/-- What raises in an attempt that really tries its server; `none` when the server accepts. -/
def failure (attempt : Nat) : Option Exc :=
  match world.opening attempt with
  | .opened => if world.checkConnection then pingFailure (world.ping attempt attempt) else none
  | .refused e => some (socketError e)
  | .handshake e => some e
  | .callback e => some e

/-- A failure comes without closing the socket. -/
def staysOpen (attempt : Nat) : Bool :=
  match world.opening attempt with
  | .opened =>
    match world.ping attempt attempt with
    | .unsent _ => false
    | _ => true
  | .refused _ => false
  | .handshake e => !e.isinstance .redisError
  | .callback _ => true

/-- The servers up to the first one that accepts. -/
def upToAccepting : Nat → List Address → List Address
  | _, [] => []
  | attempt, address :: later =>
    if world.failure attempt = none then [address] else address :: upToAccepting (attempt + 1) later

/-- The first attempt whose server accepts. -/
def firstAccepting : Nat → List Address → Option Nat
  | _, [] => none
  | attempt, _ :: later =>
    if world.failure attempt = none then some attempt else firstAccepting (attempt + 1) later

/-- The servers are tried in order up to the first one that accepts, and the connection ends with that
one; it raises only without one, and no failed attempt leaves its socket open. -/
structure ReachesAccepting (attempt : Nat) (candidates : List Address) (start : ReplicaLink)
    (result : Except Exc Unit × ReplicaLink) : Prop where
  tries : result.2.tried = start.tried ++ world.upToAccepting attempt candidates
  connects : ∀ accepting, world.firstAccepting attempt candidates = some accepting →
    result.1 = .ok () ∧ result.2.sock = some accepting
  raises : (∃ e, result.1 = .error e) ↔ world.firstAccepting attempt candidates = none
  closes : result.2.leftOpen = start.leftOpen

/-- Before the first server that accepts, every failure closes its socket and is a `ConnectionError`; that
of the last server may be any error. -/
def FailsCleanly : Nat → List Address → Prop
  | _, [] => True
  | attempt, _ :: later =>
    match world.failure attempt with
    | none => True
    | some e => world.staysOpen attempt = false ∧
      (e.isinstance .connectionError = true ∨ later = []) ∧ FailsCleanly (attempt + 1) later

/-- The replicas in rotation, and the master if it is found. -/
def candidates (replicas : List Address) (draw : Nat) (master : Except Exc Address)
    (counter : Option Nat) : List Address :=
  replicas.rotate (counter.getD draw + 1) ++ master.toOption.toList

/-- What an attempt without a socket does. -/
theorem connectTo_closed (attempt : Nat) (address : Address) {link : ReplicaLink} (closed : link.sock = none) :
    world.connectTo attempt address link =
      match world.failure attempt with
      | none =>
        (.ok (), { link with address, sock := some attempt, tried := link.tried ++ [address] })
      | some e =>
        (.error e, { link with
          address
          sock := if world.staysOpen attempt then some attempt else none
          tried := link.tried ++ [address] }) := by
  unfold connectTo connectCheckHealth failure staysOpen
  simp only [closed]
  cases world.opening attempt with
  | refused e => rfl
  | callback e => rfl
  | handshake e =>
    by_cases redis : e.isinstance .redisError = true
    · simp [redis]
    · simp [redis]
  | opened =>
    by_cases check : world.checkConnection = true
    · simp only [check, ↓reduceIte]
      cases world.ping attempt attempt with
      | unsent e => rfl
      | unread e => rfl
      | refused e => rfl
      | answered pong => cases pong <;> rfl
    · simp only [Bool.not_eq_true] at check
      simp [check]

/-- An attempt notes nothing. -/
theorem connectTo_leftOpen (attempt : Nat) (address : Address) (link : ReplicaLink) :
    (world.connectTo attempt address link).2.leftOpen = link.leftOpen := by
  have opening (link : ReplicaLink) :
      (world.connectCheckHealth attempt link).2.leftOpen = link.leftOpen := by
    unfold connectCheckHealth
    cases link.sock with
    | some owner => rfl
    | none =>
      cases world.opening attempt with
      | handshake e => by_cases redis : e.isinstance .redisError = true <;> simp [redis]
      | _ => rfl
  have opened := opening { link with address }
  unfold connectTo
  cases ran : world.connectCheckHealth attempt { link with address } with
  | mk result after =>
    rw [ran] at opened
    cases result with
    | error e => exact opened
    | ok owner =>
      by_cases check : world.checkConnection = true
      · simp only [check, ↓reduceIte]
        cases world.ping attempt owner with
        | answered pong => cases pong <;> exact opened
        | _ => exact opened
      · simp only [check]
        exact opened

/-- What was noted stays noted. -/
theorem tryFrom_leftOpen (attempt : Nat) (yielded : List Yielded) (link : ReplicaLink) :
    link.leftOpen <:+ (world.tryFrom attempt yielded link).2.leftOpen := by
  have noted (attempt : Nat) (link : ReplicaLink) : link.leftOpen <:+ (note attempt link).leftOpen := by
    unfold note
    split
    · exact List.suffix_cons _ _
    · exact List.suffix_refl _
  fun_induction tryFrom with
  | case1 => exact List.suffix_refl _
  | case2 => exact List.suffix_refl _
  | case3 attempt address later link done after ran =>
    have same := world.connectTo_leftOpen attempt address link
    rw [ran] at same
    exact same ▸ List.suffix_refl _
  | case4 attempt address later link e after ran tolerated ih =>
    have same := world.connectTo_leftOpen attempt address link
    rw [ran] at same
    exact (same ▸ noted attempt after).trans ih
  | case5 attempt address later link e after ran passed =>
    have same := world.connectTo_leftOpen attempt address link
    rw [ran] at same
    exact same ▸ noted attempt after

/-- An attempt with an accepting server ends the loop. -/
theorem tryFrom_accepts {attempt : Nat} (accepts : world.failure attempt = none) (address : Address)
    (later : List Yielded) {link : ReplicaLink} (closed : link.sock = none) :
    world.tryFrom attempt (.address address :: later) link =
      (.ok (), { link with address, sock := some attempt, tried := link.tried ++ [address] }) := by
  rw [tryFrom, connectTo_closed world attempt address closed, accepts]

/-- A failure that leaves its socket open is noted. -/
theorem tryFrom_staysOpen {attempt : Nat} {e : Exc} (fails : world.failure attempt = some e)
    (stays : world.staysOpen attempt = true) (address : Address) (later : List Yielded)
    {link : ReplicaLink} (closed : link.sock = none) :
    attempt :: link.leftOpen <:+ (world.tryFrom attempt (.address address :: later) link).2.leftOpen := by
  rw [tryFrom, connectTo_closed world attempt address closed, fails]
  simp only [stays, ↓reduceIte, note]
  split
  · exact world.tryFrom_leftOpen _ later
      { link with
        address
        sock := some attempt
        tried := link.tried ++ [address]
        leftOpen := attempt :: link.leftOpen }
  · exact List.suffix_refl _

/-- A failure that closes its socket leads to the next server, if it is a `ConnectionError`. -/
theorem tryFrom_closes {attempt : Nat} {e : Exc} (fails : world.failure attempt = some e)
    (closes : world.staysOpen attempt = false) (address : Address) (later : List Yielded)
    {link : ReplicaLink} (closed : link.sock = none) :
    world.tryFrom attempt (.address address :: later) link =
      if e.isinstance .connectionError then
        world.tryFrom (attempt + 1) later
          { link with address, sock := none, tried := link.tried ++ [address] }
      else (.error e, { link with address, sock := none, tried := link.tried ++ [address] }) := by
  rw [tryFrom, connectTo_closed world attempt address closed, fails]
  simp [closes, note]

/-- A failure is on the way to the first server that accepts. -/
theorem upToAccepting_fails {attempt : Nat} {e : Exc} (fails : world.failure attempt = some e)
    (address : Address) (later : List Address) :
    world.upToAccepting attempt (address :: later) = address :: world.upToAccepting (attempt + 1) later := by
  simp [upToAccepting, fails]

/-- The first server that accepts comes after a failure. -/
theorem firstAccepting_fails {attempt : Nat} {e : Exc} (fails : world.failure attempt = some e)
    (address : Address) (later : List Address) :
    world.firstAccepting attempt (address :: later) = world.firstAccepting (attempt + 1) later := by
  simp [firstAccepting, fails]

/-- After a failure that closed its socket the others are to be reached. -/
theorem reachesAccepting_fails {attempt : Nat} {e : Exc} (fails : world.failure attempt = some e)
    (address : Address) (later : List Address) (link : ReplicaLink) (result : Except Exc Unit × ReplicaLink) :
    world.ReachesAccepting attempt (address :: later) link result ↔
      world.ReachesAccepting (attempt + 1) later
        { link with address, sock := none, tried := link.tried ++ [address] } result := by
  have upTo := upToAccepting_fails world fails address later
  have first := firstAccepting_fails world fails address later
  have order : link.tried ++ [address] ++ world.upToAccepting (attempt + 1) later =
      link.tried ++ world.upToAccepting attempt (address :: later) := by
    rw [upTo, List.append_assoc, List.singleton_append]
  constructor
  · intro reaches
    exact ⟨reaches.tries.trans order.symm, first ▸ reaches.connects, first ▸ reaches.raises, reaches.closes⟩
  · intro reaches
    exact ⟨reaches.tries.trans order, first.symm ▸ reaches.connects, first.symm ▸ reaches.raises,
      reaches.closes⟩

/-- The first server that accepts is reached if and only if the failures before it are clean. -/
theorem tryFrom_reaches_iff {ending : List Yielded}
    (ends : ∀ attempt link, ∃ e, world.tryFrom attempt ending link = (.error e, link))
    (candidates : List Address) (attempt : Nat) {link : ReplicaLink} (closed : link.sock = none) :
    world.ReachesAccepting attempt candidates link
        (world.tryFrom attempt (candidates.map Yielded.address ++ ending) link) ↔
      world.FailsCleanly attempt candidates := by
  induction candidates generalizing attempt link with
  | nil =>
    obtain ⟨e, ran⟩ := ends attempt link
    refine iff_of_true ?_ trivial
    rw [List.map_nil, List.nil_append, ran]
    refine ⟨by simp [upToAccepting], fun accepting found => ?_, by simp [firstAccepting], rfl⟩
    cases found
  | cons address later ih =>
    rw [List.map_cons, List.cons_append, FailsCleanly]
    cases fails : world.failure attempt with
    | none =>
      rw [tryFrom_accepts world fails address _ closed]
      refine iff_of_true ⟨by simp [upToAccepting, fails], fun accepting found => ?_, ?_, rfl⟩ trivial
      · rw [firstAccepting, if_pos fails] at found
        exact ⟨rfl, found⟩
      · simp [firstAccepting, fails]
    | some e =>
      cases stays : world.staysOpen attempt with
      | true =>
        refine iff_of_false (fun reaches => ?_) (by simp)
        have noted := (world.tryFrom_staysOpen fails stays address
          (later.map Yielded.address ++ ending) closed).length_le
        rw [reaches.closes, List.length_cons] at noted
        omega
      | false =>
        rw [tryFrom_closes world fails stays address _ closed]
        by_cases tolerated : e.isinstance .connectionError = true
        · simp only [tolerated, ↓reduceIte, true_or, true_and]
          have closedAgain : { link with address, sock := none, tried := link.tried ++ [address] }.sock = none := rfl
          rw [← ih (attempt + 1) closedAgain]
          exact reachesAccepting_fails world fails address later link _
        · simp only [tolerated, Bool.false_eq_true, ↓reduceIte, false_or]
          constructor
          · intro reaches
            have order : link.tried ++ [address] = link.tried ++ world.upToAccepting attempt (address :: later) :=
              reaches.tries
            rw [upToAccepting_fails world fails, List.append_cancel_left_eq] at order
            cases later with
            | nil => exact ⟨trivial, rfl, trivial⟩
            | cons next others =>
              have more : world.upToAccepting (attempt + 1) (next :: others) ≠ [] := by
                rw [upToAccepting]
                split <;> simp
              exact absurd (List.cons.inj order).2.symm more
          · rintro ⟨-, rfl, -⟩
            refine ⟨by simp [upToAccepting], fun accepting found => ?_,
              by simp [firstAccepting, fails], rfl⟩
            rw [firstAccepting_fails world fails] at found
            cases found

/-- The generator yields the candidates, and then it raises. -/
theorem yields_candidates (replicas : List Address) (draw : Nat) (master : Except Exc Address)
    (counter : Option Nat) :
    ∃ e, yields replicas draw master counter =
      (candidates replicas draw master counter).map Yielded.address ++ [.raised e] := by
  have fallback : ∃ e, RotationWorld.fallback { slaves := .ok replicas, draw, master } =
      master.toOption.toList.map Yielded.address ++ [.raised e] := by
    unfold RotationWorld.fallback
    cases master with
    | ok address => exact ⟨_, rfl⟩
    | error e =>
      simp only
      split
      · exact ⟨_, rfl⟩
      · exact ⟨_, rfl⟩
  obtain ⟨e, ends⟩ := fallback
  refine ⟨e, ?_⟩
  unfold yields candidates
  cases replicas with
  | nil =>
    have started : RotationWorld.rotateSlaves { slaves := .ok [], draw, master } 2 counter =
        RotationWorld.consume { slaves := .ok [], draw, master } 2 (.rotating [] 0) counter := by
      unfold RotationWorld.rotateSlaves
      rw [RotationWorld.consume, RotationWorld.consume]
      · rfl
      · simp
      · simp
    rw [List.length_nil, Nat.zero_add, started, RotationWorld.consume_fallback, ends,
      List.take_of_length_le (by simp)]
    simp
  | cons first others =>
    rw [(RotationWorld.rotateSlaves_spec _ rfl (List.cons_ne_nil first others) _ counter).1, ends,
      List.take_of_length_le (by simp)]
    simp

/-- A connection without a socket. -/
def closedLink (address : Address) : ReplicaLink :=
  { address, sock := none, tried := [], leftOpen := [] }

/-- For all replicas, every place of the counter and all outcomes, one pass reaches the first server that
accepts if and only if the failures before it are clean. -/
theorem connectRetry_reaches_iff (replicas : List Address) (draw : Nat) (master : Except Exc Address)
    (counter : Option Nat) (address : Address) :
    world.ReachesAccepting 0 (candidates replicas draw master counter) (closedLink address)
        (world.connectRetry replicas draw master counter (closedLink address)) ↔
      world.FailsCleanly 0 (candidates replicas draw master counter) := by
  obtain ⟨e, yielded⟩ := yields_candidates replicas draw master counter
  have unfolded : world.connectRetry replicas draw master counter (closedLink address) =
      world.tryFrom 0 (yields replicas draw master counter) (closedLink address) := rfl
  rw [unfolded, yielded]
  exact world.tryFrom_reaches_iff (fun attempt link => ⟨e, rfl⟩) _ 0 rfl

/-- The first server times out, and the second one accepts. -/
def firstTimesOut : ReplicaWorld where
  checkConnection := false
  opening attempt := if attempt = 0 then .refused { cls := .builtinTimeoutError } else .opened
  ping _ _ := .answered true

/-- The first server does not answer a `PING` with `PONG`, and the second one does. -/
def firstUnhealthy : ReplicaWorld where
  checkConnection := true
  opening _ := .opened
  ping _ owner := .answered (owner ≠ 0)

/-- Two replicas without a master, and one pass from a connection without a socket. -/
def Reaches (world : ReplicaWorld) : Prop :=
  world.ReachesAccepting 0
    (candidates [firstReplica, secondReplica] 0 (.error { cls := masterNotFoundError }) none)
    (closedLink firstReplica)
    (world.connectRetry [firstReplica, secondReplica] 0 (.error { cls := masterNotFoundError }) none
      (closedLink firstReplica))

/-- A replica that times out, or that fails its `PING`, hides another one that accepts. -/
theorem failing_replica_hides_other : ¬Reaches firstTimesOut ∧ ¬Reaches firstUnhealthy := by
  constructor
  · intro reaches
    have returned := (reaches.connects 1 (by decide)).1
    revert returned
    decide
  · intro reaches
    have returned := (reaches.connects 1 (by decide)).1
    revert returned
    decide

end ReplicaWorld

end RedisPy

import RedisPy.Cluster.Remembers
import RedisPy.Lib.Recording

/-!
# Following `ASK`

What one command sends to which address: the loop of `_execute_command` of both classes, with a
record of each attempt beside it. After an `AskError` the next attempt has to ask the node at the
named address first, and no other attempt asks.
-/

namespace RedisPy

open Contract Interruptible NodesManager

/-! ## What an attempt sends -/

/-- The address of a node and what is sent to it. -/
abbrev AddressedExchange := (Text × Int) × Exchange

/-- The address of a node. -/
def ClusterNode.address (node : ClusterNode) : Text × Int := (node.host, node.port)

/-- `isinstance(e, AskError)` where a `MovedError` is none. -/
def Exc.isAsk (e : Exc) : Bool := e.isinstance .askError && !e.isinstance .movedError

/-- One pass of the loop of `_execute_command`. -/
structure AttemptRecord where
  /-- The client before it. -/
  before : RedisCluster
  /-- What was sent. -/
  sent : List AddressedExchange
  /-- How its `try` statement ended. -/
  outcome : Except Exc Unit

/-- The redirection of an `AskError`. -/
def AttemptRecord.redirect (a : AttemptRecord) : Option Redirect :=
  match a.outcome with
  | .ok _ => none
  | .error e => if e.isAsk then e.redirect else none

/-- The attempt asks first where it was redirected to, and nowhere else. -/
def AttemptRecord.Follows (a : AttemptRecord) : Option Redirect → Prop
  | some r => a.sent = [((r.host, r.port), .asking), ((r.host, r.port), .command)]
  | none => ∀ sending ∈ a.sent, sending.2 = .command

/-- Every attempt, from one that follows the given redirection on, follows the `AskError` before it,
and after an `AskError` there is another attempt if there may be one. -/
def FollowsAsk (ttl : Nat) (expected : Option Redirect) : List AttemptRecord → Prop
  | [] => ttl = 0 ∨ expected = none
  | a :: later => a.Follows expected ∧ FollowsAsk (ttl - 1) a.redirect later

/-- It can be computed whether an attempt asks where it has to. -/
instance (a : AttemptRecord) (expected : Option Redirect) : Decidable (a.Follows expected) :=
  match expected with
  | some r =>
    inferInstanceAs
      (Decidable (a.sent = [((r.host, r.port), .asking), ((r.host, r.port), .command)]))
  | none => inferInstanceAs (Decidable (∀ sending ∈ a.sent, sending.2 = .command))

/-- It can be computed whether all attempts do. -/
instance decidableFollowsAsk (ttl : Nat) (expected : Option Redirect) :
    (history : List AttemptRecord) → Decidable (FollowsAsk ttl expected history)
  | [] => inferInstanceAs (Decidable (ttl = 0 ∨ expected = none))
  | a :: later =>
    have := decidableFollowsAsk (ttl - 1) a.redirect later
    inferInstanceAs (Decidable (a.Follows expected ∧ FollowsAsk (ttl - 1) a.redirect later))

/-- The node that has to be asked is known, and answers `ASKING` without an error. -/
structure RedisCluster.Answers (world : ClusterWorld) (r : Redirect) (c : RedisCluster) : Prop where
  /-- The cache has a node of that name. -/
  known : (c.manager.nodesCache.get (getNodeName r.host r.port)).isSome = true
  /-- The answer. -/
  answered : world.exchange c.clock (r.host, r.port) .asking = .ok ()

/-- Whenever an attempt has to ask, the node is known and answers. -/
def AnswersAsk (world : ClusterWorld) (expected : Option Redirect) : List AttemptRecord → Prop
  | [] => True
  | a :: later => (∀ r, expected = some r → a.before.Answers world r) ∧
      AnswersAsk world a.redirect later

namespace RedisCluster

/-- Code of a client that records what it sends. -/
abbrev SendingM := EStateM Exc (Recorded RedisCluster AddressedExchange)

/-- An exchange, recorded before it is made. -/
def sendTo (world : ClusterWorld) (ref : Nat) (exchange : Exchange) : SendingM (Except Exc Unit) :=
  fun s =>
    (report ((s.inner.manager.nodes ref).address, exchange) >>= fun _ =>
      unrecorded (caught (exchangeWith world ref exchange))) s

/-- `contact`, recorded. -/
def contactSending (world : ClusterWorld) (options : ClusterOptions) (ref : Nat)
    (routing : Routing) : SendingM (Routing × Except Exc Unit) := do
  unrecorded (whenever (options.config.flavor = .sync)
    (modifyManager fun m => m.createRedisConnections [ref]))
  match routing.asking with
  | none => do
    let outcome ← sendTo world ref .command
    pure (routing, outcome)
  | some _ => do
    let asked ← sendTo world ref .asking
    match asked with
    | .error e => pure (routing, .error e)
    | .ok _ => do
      let outcome ← sendTo world ref .command
      pure ({ routing with asking := none }, outcome)

/-- `attempt`, recorded. -/
def attemptSending (world : ClusterWorld) (options : ClusterOptions) (command : ClusterCommand)
    (routing : Routing) : SendingM (Routing × Except Exc Unit) := do
  let located ← unrecorded (caught (locate world options command routing))
  match located with
  | .error e => pure (routing, .error e)
  | .ok routing =>
    match routing.target with
    | some ref => contactSending world options ref routing
    | none => pure (routing, .error { cls := .attributeError })

/-- The attempts of one command on one node, in order. -/
def history (world : ClusterWorld) (options : ClusterOptions) (command : ClusterCommand) :
    Nat → Routing → RedisCluster → List AttemptRecord
  | 0, _, _ => []
  | ttl + 1, routing, c =>
    match attemptSending world options command routing { inner := c, record := [] } with
    | .error _ _ => []
    | .ok (routing, outcome) s =>
      { before := c, sent := s.record, outcome } ::
        match outcome with
        | .ok _ => []
        | .error e =>
          match recoverFrom world options routing e s.inner with
          | .error _ _ => []
          | .ok routing later => history world options command ttl routing later

/-- The attempts of `_execute_command`. -/
def historyOn (world : ClusterWorld) (options : ClusterOptions) (command : ClusterCommand)
    (target : Option Nat) (c : RedisCluster) : List AttemptRecord :=
  history world options command options.requestTtl { target, asking := none, moved := false } c

variable (world : ClusterWorld) (options : ClusterOptions) (command : ClusterCommand)

/-- A recorded exchange is the exchange. -/
theorem unrecords_sendTo (ref : Nat) (exchange : Exchange) :
    Unrecords (sendTo world ref exchange) (caught (exchangeWith world ref exchange)) :=
  (unrecords_unrecorded (caught (exchangeWith world ref exchange))).reporting
    fun c : RedisCluster => ((c.manager.nodes ref).address, exchange)

/-- A recorded contact is the contact. -/
theorem unrecords_contactSending (ref : Nat) (routing : Routing) :
    Unrecords (contactSending world options ref routing) (contact world options ref routing) := by
  refine (unrecords_unrecorded _).bind fun _ => ?_
  cases routing.asking with
  | none => exact (unrecords_sendTo world ref .command).bind fun outcome => unrecords_pure _
  | some address =>
    refine (unrecords_sendTo world ref .asking).bind fun asked => ?_
    cases asked with
    | error e => exact unrecords_pure _
    | ok _ => exact (unrecords_sendTo world ref .command).bind fun outcome => unrecords_pure _

/-- A recorded attempt is the attempt. -/
theorem unrecords_attemptSending (routing : Routing) :
    Unrecords (attemptSending world options command routing)
      (attempt world options command routing) := by
  refine (unrecords_unrecorded _).bind fun located => ?_
  cases located with
  | error e => exact unrecords_pure _
  | ok routing =>
    cases routing with
    | mk target asking moved =>
      cases target with
      | some ref => exact unrecords_contactSending world options ref _
      | none => exact unrecords_pure _

/-! ## One attempt -/

/-- A recorded exchange. -/
theorem sendTo_eq (ref : Nat) (exchange : Exchange) (s : Recorded RedisCluster AddressedExchange) :
    sendTo world ref exchange s =
      .ok (world.exchange s.inner.clock (s.inner.manager.nodes ref).address exchange)
        { inner := { s.inner with clock := s.inner.clock + 1 }
          record := s.record ++ [((s.inner.manager.nodes ref).address, exchange)] } := by
  have told : caught (exchangeWith world ref exchange) s.inner =
      .ok (world.exchange s.inner.clock (s.inner.manager.nodes ref).address exchange)
        { s.inner with clock := s.inner.clock + 1 } := by
    have run : exchangeWith world ref exchange s.inner =
        settled (world.exchange s.inner.clock (s.inner.manager.nodes ref).address exchange)
          { s.inner with clock := s.inner.clock + 1 } := rfl
    unfold caught
    rw [run]
    cases world.exchange s.inner.clock (s.inner.manager.nodes ref).address exchange <;> rfl
  have reported : (report ((s.inner.manager.nodes ref).address, exchange) : SendingM Unit) s =
      .ok () { s with record := s.record ++ [((s.inner.manager.nodes ref).address, exchange)] } :=
    rfl
  unfold sendTo
  rw [bind_of_ok reported]
  unfold unrecorded
  simp only
  rw [told]

/-- The address of a node does not depend on its connection. -/
theorem connected_address (flavor : Flavor) (ref other : Nat) (m : NodesManager) :
    ((if flavor = .sync then m.createRedisConnections [ref] else m).nodes other).address =
      (m.nodes other).address := by
  by_cases sync : flavor = .sync
  · rw [if_pos sync]
    by_cases here : other = ref
    · simp [createRedisConnections, modifyNode, here, ClusterNode.address]
    · simp [createRedisConnections, modifyNode, here]
  · rw [if_neg sync]

/-- The client once the node has its connection. -/
def reached (ref : Nat) (c : RedisCluster) : RedisCluster :=
  { c with manager :=
      if options.config.flavor = .sync then c.manager.createRedisConnections [ref] else c.manager }

/-- The node gets its connection. -/
theorem reach_eq (ref : Nat) (s : Recorded RedisCluster AddressedExchange) :
    (unrecorded (whenever (options.config.flavor = .sync)
      (modifyManager fun m => m.createRedisConnections [ref])) : SendingM Unit) s =
      .ok () { s with inner := reached options ref s.inner } := by
  unfold unrecorded whenever reached
  by_cases sync : options.config.flavor = .sync
  · rw [if_pos sync, if_pos sync]
    rfl
  · rw [if_neg sync, if_neg sync]
    rfl

/-- Contact with a node that is not asked. -/
theorem contactSending_plain {routing : Routing} (plain : routing.asking = none) (ref : Nat)
    (s : Recorded RedisCluster AddressedExchange) :
    ∃ outcome t address, contactSending world options ref routing s = .ok (routing, outcome) t ∧
      t.record = s.record ++ [(address, .command)] := by
  unfold contactSending
  rw [bind_of_ok (reach_eq options ref s), plain]
  simp only
  rw [bind_of_ok (sendTo_eq world ref .command _)]
  exact ⟨_, _, _, rfl, rfl⟩

/-- Contact with a node that is asked and does not let the command through. -/
theorem contactSending_refused {routing : Routing} {name : Text}
    (asking : routing.asking = some name) (ref : Nat)
    (s : Recorded RedisCluster AddressedExchange) {e : Exc}
    (refused :
      world.exchange s.inner.clock (s.inner.manager.nodes ref).address .asking = .error e) :
    ∃ t, contactSending world options ref routing s = .ok (routing, .error e) t ∧
      t.record = s.record ++ [((s.inner.manager.nodes ref).address, .asking)] := by
  have same := connected_address options.config.flavor ref ref s.inner.manager
  have asked := sendTo_eq world ref .asking { s with inner := reached options ref s.inner }
  simp only [reached, same, refused] at asked
  unfold contactSending
  rw [bind_of_ok (reach_eq options ref s), asking]
  simp only [reached]
  rw [bind_of_ok asked]
  exact ⟨_, rfl, rfl⟩

/-- Contact with a node that is asked and lets the command through. -/
theorem contactSending_asking {routing : Routing} {name : Text}
    (asking : routing.asking = some name) (ref : Nat) (s : Recorded RedisCluster AddressedExchange)
    (answered : world.exchange s.inner.clock (s.inner.manager.nodes ref).address .asking = .ok ()) :
    ∃ outcome t, contactSending world options ref routing s =
        .ok ({ routing with asking := none }, outcome) t ∧
      t.record = s.record ++ [((s.inner.manager.nodes ref).address, .asking),
        ((s.inner.manager.nodes ref).address, .command)] := by
  have same := connected_address options.config.flavor ref ref s.inner.manager
  have asked := sendTo_eq world ref .asking { s with inner := reached options ref s.inner }
  simp only [reached, same, answered] at asked
  unfold contactSending
  rw [bind_of_ok (reach_eq options ref s), asking]
  simp only [reached]
  rw [bind_of_ok asked]
  simp only
  rw [bind_of_ok (sendTo_eq world ref .command _)]
  refine ⟨_, _, rfl, ?_⟩
  simp only [same, List.append_assoc, List.cons_append, List.nil_append]

/-- Without a redirection to ask, none is found. -/
theorem locate_plain {routing after : Routing} {c t : RedisCluster} (plain : routing.asking = none)
    (located : locate world options command routing c = .ok after t) : after.asking = none := by
  have looked : (get : ClusterM RedisCluster) c = .ok c c := rfl
  unfold locate at located
  rw [bind_of_ok looked, plain] at located
  cases moved : routing.moved with
  | false =>
    rw [moved] at located
    cases located
    exact plain
  | true =>
    rw [moved] at located
    simp only at located
    cases slot : (settled command.slot : ClusterM Int) c with
    | error e u =>
      rw [bind_of_error slot] at located
      cases located
    | ok value u =>
      rw [bind_of_ok slot] at located
      cases node : nodeFromSlot world options command value u with
      | error e v =>
        rw [bind_of_error node] at located
        cases located
      | ok ref v =>
        rw [bind_of_ok node] at located
        cases located
        rfl

/-- The node of an address to ask is looked up. -/
theorem locate_asking {routing : Routing} {name : Text} (c : RedisCluster)
    (asking : routing.asking = some name) :
    locate world options command routing c =
      .ok { routing with target := c.manager.nodesCache.get name } c := by
  have looked : (get : ClusterM RedisCluster) c = .ok c c := rfl
  unfold locate
  rw [bind_of_ok looked, asking]
  rfl

/-- An attempt that has nobody to ask does not ask. -/
theorem attemptSending_plain {routing : Routing} (c : RedisCluster)
    (plain : routing.asking = none) :
    ∃ outcome after s,
      attemptSending world options command routing { inner := c, record := [] } =
        .ok (after, outcome) s ∧
      after.asking = none ∧ ∀ sending ∈ s.record, sending.2 = .command := by
  unfold attemptSending
  cases located : locate world options command routing c with
  | error e t =>
    have told : (unrecorded (caught (locate world options command routing)) :
        SendingM (Except Exc Routing)) { inner := c, record := [] } =
        .ok (.error e) { inner := t, record := [] } := by
      simp only [unrecorded, caught, located]
    rw [bind_of_ok told]
    exact ⟨_, _, _, rfl, plain, fun sending member => absurd member List.not_mem_nil⟩
  | ok found t =>
    have told : (unrecorded (caught (locate world options command routing)) :
        SendingM (Except Exc Routing)) { inner := c, record := [] } =
        .ok (.ok found) { inner := t, record := [] } := by
      simp only [unrecorded, caught, located]
    have still := locate_plain world options command plain located
    rw [bind_of_ok told]
    simp only
    cases target : found.target with
    | none => exact ⟨_, _, _, rfl, still, fun sending member => absurd member List.not_mem_nil⟩
    | some ref =>
      obtain ⟨outcome, u, address, ran, record⟩ :=
        contactSending_plain world options still ref { inner := t, record := [] }
      refine ⟨outcome, found, u, ran, still, fun sending member => ?_⟩
      rw [record, List.nil_append, List.mem_singleton] at member
      rw [member]

/-- What an attempt that has somebody to ask starts with. -/
theorem attemptSending_located {routing : Routing} {name : Text} (c : RedisCluster)
    (asking : routing.asking = some name) :
    attemptSending world options command routing { inner := c, record := [] } =
      match c.manager.nodesCache.get name with
      | some ref =>
        contactSending world options ref { routing with target := some ref }
          { inner := c, record := [] }
      | none =>
        .ok ({ routing with target := none }, .error { cls := .attributeError })
          { inner := c, record := [] } := by
  have told : (unrecorded (caught (locate world options command routing)) :
      SendingM (Except Exc Routing)) { inner := c, record := [] } =
      .ok (.ok { routing with target := c.manager.nodesCache.get name })
        { inner := c, record := [] } := by
    simp only [unrecorded, caught, locate_asking world options command c asking]
  unfold attemptSending
  rw [bind_of_ok told]
  cases c.manager.nodesCache.get name <;> rfl

/-- An attempt asks at the address of the redirection, and the command follows, if and only if the
node is known and answers. -/
theorem attemptSending_asking {routing : Routing} {r : Redirect} {c : RedisCluster}
    (wellFormed : c.manager.WellFormed)
    (asking : routing.asking = some (getNodeName r.host r.port)) :
    ∃ outcome after s,
      attemptSending world options command routing { inner := c, record := [] } =
        .ok (after, outcome) s ∧
      (c.Answers world r → after.asking = none) ∧
      (s.record = [((r.host, r.port), .asking), ((r.host, r.port), .command)] ↔
        c.Answers world r) := by
  rw [attemptSending_located world options command c asking]
  cases found : c.manager.nodesCache.get (getNodeName r.host r.port) with
  | none =>
    have unknown : ¬c.Answers world r := by
      intro answers
      have known := answers.known
      rw [found] at known
      cases known
    refine ⟨_, _, _, rfl, fun answers => absurd answers unknown, ?_⟩
    exact iff_of_false (List.cons_ne_nil _ _).symm unknown
  | some ref =>
    have name : (c.manager.nodes ref).name = getNodeName r.host r.port :=
      (wellFormed.filed _ (Dict.mem_of_get found)).2
    have address : (c.manager.nodes ref).address = (r.host, r.port) := by
      obtain ⟨host, port⟩ := getNodeName_injective name
      exact Prod.ext host port
    have still : ({ routing with target := some ref } : Routing).asking =
        some (getNodeName r.host r.port) := asking
    simp only
    cases asked : world.exchange c.clock (r.host, r.port) .asking with
    | error e =>
      have silent : ¬c.Answers world r := by
        intro answers
        have answered := answers.answered
        rw [asked] at answered
        cases answered
      obtain ⟨t, ran, record⟩ := contactSending_refused world options still ref
        { inner := c, record := [] } (e := e) (by rw [address]; exact asked)
      refine ⟨_, _, _, ran, fun answers => absurd answers silent, ?_⟩
      rw [record]
      exact iff_of_false (fun same => by cases congrArg List.length same) silent
    | ok _ =>
      obtain ⟨outcome, t, ran, record⟩ := contactSending_asking world options still ref
        { inner := c, record := [] } (by rw [address]; exact asked)
      refine ⟨_, _, _, ran, fun _ => rfl, ?_⟩
      rw [record, address]
      exact iff_of_true rfl ⟨by rw [found]; rfl, asked⟩

/-! ## The handlers -/

end RedisCluster

namespace ExcClass

/-- The classes whose handlers come before that of `AskError`, in one class or the other. -/
def beforeAsk : List ExcClass :=
  [.authenticationError, .connectionError, .timeoutError, .busyLoadingError, .maxConnectionsError,
    .clusterDownError, .tryAgainError]

/-- An `AskError` is none of them. -/
theorem not_beforeAsk {cls : ExcClass} (ask : cls.issubclass .askError = true) :
    ∀ base ∈ beforeAsk, cls.issubclass base = false := by
  induction cls with
  | user name base ih =>
    have inherited (other : ExcClass) (member : other ∈ .askError :: beforeAsk) :
        (ExcClass.user name base).issubclass other = base.issubclass other := by
      have differ : (other == ExcClass.user name base) = false := by
        simp only [beforeAsk, List.mem_cons, List.not_mem_nil, or_false] at member
        rcases member with rfl | rfl | rfl | rfl | rfl | rfl | rfl | rfl <;> rfl
      unfold issubclass
      rw [ancestors, List.contains_cons, differ, Bool.false_or]
    rw [inherited _ List.mem_cons_self] at ask
    intro other member
    rw [inherited _ (List.mem_cons_of_mem _ member)]
    exact ih ask other member
  | askError => decide
  | movedError => decide
  | _ => exact absurd ask (by decide)

end ExcClass

/-- The handlers before that of `AskError` let it through. -/
theorem Exc.not_beforeAsk {e : Exc} (ask : e.isAsk = true) (bases : List ExcClass)
    (before : ∀ base ∈ bases, base ∈ ExcClass.beforeAsk) : e.isinstanceAny bases = false := by
  have isAsk : e.isinstance .askError = true := (Bool.and_eq_true_iff.mp ask).1
  refine List.any_eq_false.mpr fun base member => ?_
  rw [ExcClass.not_beforeAsk isAsk base (before base member)]
  exact Bool.false_ne_true

namespace RedisCluster

variable (world : ClusterWorld) (options : ClusterOptions) (command : ClusterCommand)

/-- An `AskError` is handled by noting its address. -/
theorem recoverFrom_ask {e : Exc} (ask : e.isAsk = true) (routing : Routing) (c : RedisCluster) :
    recoverFrom world options routing e c = .ok { routing with asking := askedAddress e } c := by
  obtain ⟨isAsk, notMoved⟩ := Bool.and_eq_true_iff.mp ask
  have moved : e.isinstance .movedError = false := Bool.not_eq_true' _ |>.mp notMoved
  have before (base : ExcClass) (member : base ∈ ExcClass.beforeAsk) : e.isinstance base = false :=
    ExcClass.not_beforeAsk isAsk base member
  have auth := before .authenticationError (by decide)
  have again := before .tryAgainError (by decide)
  have down := before .clusterDownError (by decide)
  have failed := e.not_beforeAsk ask [.connectionError, .timeoutError] (by decide)
  have busy := e.not_beforeAsk ask [.busyLoadingError, .maxConnectionsError] (by decide)
  unfold recoverFrom
  cases options.config.flavor with
  | sync =>
    simp only [recoverSync, auth, failed, moved, again, isAsk, if_true, Bool.false_eq_true,
      if_false]
    rfl
  | async =>
    simp only [recoverAsync, busy, failed, down, moved, isAsk, if_true, Bool.false_eq_true,
      if_false]
    rfl

/-- A program that may do anything to the state. -/
theorem meets_whatever {α : Type} (program : ClusterM α) :
    Meets (fun _ => True) program (fun _ _ => True) fun _ _ => True := by
  intro c _
  cases program c <;> trivial

/-- Handlers that go on note the address of an `AskError`, and no other. -/
theorem recoverFrom_asking {routing next : Routing} {e : Exc} {c later : RedisCluster}
    (went : recoverFrom world options routing e c = .ok next later) :
    next.asking = if e.isAsk then askedAddress e else routing.asking := by
  by_cases ask : e.isAsk = true
  · rw [recoverFrom_ask world options ask] at went
    cases went
    rw [if_pos ask]
  rw [if_neg ask]
  have stays : ¬e.isinstance .movedError = true → ¬e.isinstance .askError = true := by
    intro notMoved isAsk
    exact ask (Bool.and_eq_true_iff.mpr ⟨isAsk, by rw [Bool.eq_false_iff.mpr notMoved]; rfl⟩)
  let Same (next : Routing) (_ : RedisCluster) : Prop := next.asking = routing.asking
  have noted (discover : ClusterM Unit) : Meets (fun _ => True) (do
      noteMoved options discover e
      pure { routing with moved := true }) Same fun _ _ => True :=
    (meets_whatever _).bind fun _ => meets_pure fun _ _ => rfl
  have unchanged : Meets (fun _ => True) (pure routing : ClusterM Routing) Same fun _ _ => True :=
    meets_pure fun _ _ => rfl
  have raised : Meets (fun _ => True) (throw e : ClusterM Routing) Same fun _ _ => True :=
    meets_throw fun _ _ => trivial
  have recovers : Meets (fun _ => True) (recoverFrom world options routing e) Same
      fun _ _ => True := by
    unfold recoverFrom
    cases options.config.flavor with
    | sync =>
      unfold recoverSync
      refine meets_ite (fun _ => raised) fun _ => meets_ite (fun _ => ?_) fun _ =>
        meets_ite (fun _ => noted _) fun notMoved => meets_ite (fun _ => unchanged) fun _ => ?_
      · refine (meets_whatever _).bind fun _ => (meets_whatever _).bind fun _ => ?_
        exact meets_before_throw _ e
      · refine meets_ite (fun isAsk => absurd isAsk (stays notMoved)) fun _ => ?_
        exact meets_ite (fun _ => meets_before_throw _ e) fun _ => raised
    | async =>
      unfold recoverAsync
      refine meets_ite (fun _ => raised) fun _ => meets_ite (fun _ => ?_) fun _ =>
        meets_ite (fun _ => meets_before_throw _ e) fun _ =>
        meets_ite (fun _ => noted _) fun notMoved => ?_
      · exact (meets_whatever _).bind fun _ => meets_before_throw _ e
      · refine meets_ite (fun isAsk => absurd isAsk (stays notMoved)) fun _ => ?_
        exact meets_ite (fun _ => unchanged) fun _ => raised
  have ends := recovers c trivial
  rw [went] at ends
  exact ends

/-! ## The topology stays in order -/

/-- The node cache and the slot table are in order. -/
def InOrder (c : RedisCluster) : Prop := c.manager.WellFormed

/-- A node is removed from the startup list, which may be the node cache. -/
theorem popStartup_wellFormed {m : NodesManager} (wellFormed : m.WellFormed) (name : Text) :
    (m.popStartup name).WellFormed := by
  unfold popStartup
  cases m.startupNodes with
  | some table => exact ⟨wellFormed.filed, wellFormed.served⟩
  | none =>
    have fewer : ∀ item ∈ m.nodesCache.erase name, item ∈ m.nodesCache :=
      fun item member => List.mem_of_mem_eraseP member
    exact ⟨fun item member => wellFormed.filed item (fewer item member), wellFormed.served⟩

/-- A change of the manager. -/
theorem inOrder_modifyManager {change : NodesManager → NodesManager}
    (kept : ∀ m : NodesManager, m.WellFormed → (change m).WellFormed) :
    Keeps InOrder (modifyManager change) :=
  keeps_modify fun c start => kept c.manager start

/-- Code of the manager. -/
theorem inOrder_onManager {α : Type} {program : EStateM Exc NodesManager α}
    (kept : ∀ m : NodesManager, m.WellFormed → (stateAfter (program m)).WellFormed) :
    Keeps InOrder (onManager program) := by
  intro c start
  have after := kept c.manager start
  unfold onManager
  cases ran : program c.manager with
  | ok value manager =>
    rw [ran] at after
    exact after
  | error e manager =>
    rw [ran] at after
    exact after

/-- All that a command does keeps the topology in order. -/
theorem upkeep_inOrder : Upkeep world options InOrder where
  clock c clock start := start
  counter c counter start := start
  initialized c start := start
  lookup lookup := inOrder_onManager fun m wellFormed =>
    getNodeFromSlot_wellFormed options.config lookup wellFormed
  connect ref := by
    refine inOrder_modifyManager fun m wellFormed => ?_
    obtain ⟨nodes, slots⟩ := createRedisConnections_caches [ref] m
    exact wellFormed.grow (grows_createRedisConnections [ref] m) nodes slots
  moved redirect := inOrder_modifyManager fun m wellFormed => ⟨wellFormed.filed, wellFormed.served⟩
  drop ref := inOrder_modifyManager fun m wellFormed =>
    wellFormed.grow (grows_modifyNode m ref fun _ => rfl) rfl rfl
  replace random := by
    refine inOrder_modifyManager fun m wellFormed => ?_
    unfold replaceDefaultNode
    simp only
    split
    · exact ⟨wellFormed.filed, wellFormed.served⟩
    · split
      · exact ⟨wellFormed.filed, wellFormed.served⟩
      · exact wellFormed
  forget := inOrder_modifyManager fun m wellFormed => ⟨wellFormed.filed, wellFormed.served⟩
  remove ref := by
    refine keeps_modify fun c start => ?_
    have popped := popStartup_wellFormed start (c.manager.nodes ref).name
    simp only
    split
    · exact popped
    · exact popped
  refresh := by
    intro c start
    have after := initializeNodes_wellFormed options.config (world.answers c.clock).byNode start
    unfold refresh
    simp only
    cases ran : c.manager.initializeNodes options.config (world.answers c.clock).byNode with
    | ok _ manager =>
      rw [ran] at after
      exact after
    | error e manager =>
      rw [ran] at after
      exact after
  close := by
    refine keeps_modify fun c start => ?_
    split
    · exact ⟨start.filed, start.served⟩
    · exact start

/-- Every run leaves the topology in order. -/
theorem run_inOrder (addresses : List (Text × Int)) (commands : List ClusterCommand) :
    (run world options addresses commands).InOrder :=
  (upkeep_inOrder world options).run (run_wellFormed options.config addresses []) commands

/-! ## All attempts -/

/-- The redirection to ask after an exception, where the attempt left none. -/
theorem redirect_of_recovered {routing next : Routing} {e : Exc} {c later : RedisCluster}
    (plain : routing.asking = none)
    (went : recoverFrom world options routing e c = .ok next later) (a : AttemptRecord)
    (outcome : a.outcome = .error e) :
    next.asking = a.redirect.map fun r => getNodeName r.host r.port := by
  rw [recoverFrom_asking world options went, plain]
  unfold AttemptRecord.redirect
  rw [outcome]
  by_cases ask : e.isAsk = true
  · simp only [ask, if_true]
    rfl
  · simp only [ask]
    rfl

/-- The attempts after one that leaves no redirection behind. -/
theorem history_of_attempted (ttl : Nat) {routing after : Routing} {c : RedisCluster}
    {outcome : Except Exc Unit} {s : Recorded RedisCluster AddressedExchange}
    (ran : attemptSending world options command routing { inner := c, record := [] } =
      .ok (after, outcome) s) :
    ∃ later, history world options command (ttl + 1) routing c =
        { before := c, sent := s.record, outcome } :: later ∧
      ((outcome = .ok () ∧ later = []) ∨
        ∃ e, outcome = .error e ∧
          match recoverFrom world options after e s.inner with
          | .error _ _ => later = []
          | .ok next t => later = history world options command ttl next t) := by
  rw [history, ran]
  simp only
  cases outcome with
  | ok _ => exact ⟨[], rfl, .inl ⟨rfl, rfl⟩⟩
  | error e =>
    simp only
    cases recovered : recoverFrom world options after e s.inner with
    | error _ _ => exact ⟨[], rfl, .inr ⟨e, rfl, by rw [recovered]⟩⟩
    | ok next t => exact ⟨_, rfl, .inr ⟨e, rfl, by rw [recovered]⟩⟩

/-- The loop ends with a response. -/
theorem attempts_of_answered {ttl : Nat} {routing after : Routing} {c : RedisCluster}
    {s : Recorded RedisCluster AddressedExchange}
    (ran : attemptSending world options command routing { inner := c, record := [] } =
      .ok (after, .ok ()) s) :
    attempts world options command (ttl + 1) routing c = .ok () s.inner := by
  have plain := unrecords_attemptSending world options command routing { inner := c, record := [] }
  rw [ran] at plain
  rw [attempts, bind_of_ok plain]
  rfl

/-- The loop goes on where the handlers leave it. -/
theorem attempts_of_failed {ttl : Nat} {routing after : Routing} {c : RedisCluster} {e : Exc}
    {s : Recorded RedisCluster AddressedExchange}
    (ran : attemptSending world options command routing { inner := c, record := [] } =
      .ok (after, .error e) s) :
    attempts world options command (ttl + 1) routing c =
      (recoverFrom world options after e >>= attempts world options command ttl) s.inner := by
  have plain := unrecords_attemptSending world options command routing { inner := c, record := [] }
  rw [ran] at plain
  rw [attempts, bind_of_ok plain]

/-- An attempt never raises. -/
theorem attemptSending_returns (routing : Routing) (c : RedisCluster) :
    ∃ outcome after s, attemptSending world options command routing { inner := c, record := [] } =
      .ok (after, outcome) s := by
  cases asking : routing.asking with
  | none =>
    obtain ⟨outcome, after, s, ran, -, -⟩ := attemptSending_plain world options command c asking
    exact ⟨outcome, after, s, ran⟩
  | some name =>
    rw [attemptSending_located world options command c asking]
    cases c.manager.nodesCache.get name with
    | none => exact ⟨_, _, _, rfl⟩
    | some ref =>
      have still : ({ routing with target := some ref } : Routing).asking = some name := asking
      cases asked : world.exchange c.clock (c.manager.nodes ref).address .asking with
      | error e =>
        obtain ⟨t, ran, -⟩ :=
          contactSending_refused world options still ref { inner := c, record := [] } asked
        exact ⟨_, _, t, ran⟩
      | ok _ =>
        obtain ⟨outcome, t, ran, -⟩ :=
          contactSending_asking world options still ref { inner := c, record := [] } asked
        exact ⟨outcome, _, t, ran⟩

/-- The recorded attempts are those of the loop: it returns if and only if one of them has a
response. -/
theorem attempts_answered_iff (ttl : Nat) (routing : Routing) (c : RedisCluster) :
    (∃ t, attempts world options command ttl routing c = .ok () t) ↔
      ∃ a ∈ history world options command ttl routing c, a.outcome = .ok () := by
  induction ttl generalizing routing c with
  | zero =>
    refine iff_of_false (fun returned => ?_) fun recorded => ?_
    · obtain ⟨t, ran⟩ := returned
      cases ran
    · obtain ⟨a, member, -⟩ := recorded
      exact absurd member List.not_mem_nil
  | succ ttl ih =>
    obtain ⟨outcome, after, s, ran⟩ := attemptSending_returns world options command routing c
    obtain ⟨later, whole, ends⟩ := history_of_attempted world options command ttl ran
    rw [whole]
    rcases ends with ⟨rfl, -⟩ | ⟨e, rfl, ends⟩
    · refine iff_of_true ⟨s.inner, attempts_of_answered world options command ran⟩ ?_
      exact ⟨_, List.mem_cons_self, rfl⟩
    · rw [attempts_of_failed world options command ran]
      simp only [List.mem_cons, exists_eq_or_imp, reduceCtorEq, false_or]
      cases recovered : recoverFrom world options after e s.inner with
      | error raised t =>
        rw [recovered] at ends
        rw [ends, bind_of_error recovered]
        refine iff_of_false (fun returned => ?_) fun answered => ?_
        · obtain ⟨u, same⟩ := returned
          cases same
        · obtain ⟨a, member, -⟩ := answered
          exact absurd member List.not_mem_nil
      | ok next t =>
        rw [recovered] at ends
        rw [ends, bind_of_ok recovered]
        exact ih next t

/-- From any pass on, the attempts follow every redirection to ask if and only if the nodes to ask
are known and answer. -/
theorem followsAsk_history_iff (ttl : Nat) {routing : Routing} {c : RedisCluster}
    {expected : Option Redirect} (inOrder : c.InOrder)
    (asking : routing.asking = expected.map fun r => getNodeName r.host r.port) :
    FollowsAsk ttl expected (history world options command ttl routing c) ↔
      AnswersAsk world expected (history world options command ttl routing c) := by
  induction ttl generalizing routing c expected with
  | zero => exact iff_of_true (.inl rfl) trivial
  | succ ttl ih =>
    -- the later attempts, if this one leaves no redirection behind
    have rest {after : Routing} {outcome : Except Exc Unit}
        {s : Recorded RedisCluster AddressedExchange}
        (ran : attemptSending world options command routing { inner := c, record := [] } =
          .ok (after, outcome) s) (plain : after.asking = none) {later : List AttemptRecord}
        (ends : (outcome = .ok () ∧ later = []) ∨
          ∃ e, outcome = .error e ∧
            match recoverFrom world options after e s.inner with
            | .error _ _ => later = []
            | .ok next t => later = history world options command ttl next t) :
        FollowsAsk ttl (AttemptRecord.redirect ⟨c, s.record, outcome⟩) later ↔
          AnswersAsk world (AttemptRecord.redirect ⟨c, s.record, outcome⟩) later := by
      rcases ends with ⟨rfl, rfl⟩ | ⟨e, rfl, ends⟩
      · exact iff_of_true (.inr rfl) trivial
      · have attempted := unrecords_attemptSending world options command routing
          { inner := c, record := [] }
        rw [ran] at attempted
        have kept := (upkeep_inOrder world options).keeps_attempt command routing c inOrder
        rw [attempted] at kept
        cases recovered : recoverFrom world options after e s.inner with
        | error raised t =>
          rw [recovered] at ends
          subst ends
          have other : e.isAsk = false := by
            by_contra ask
            rw [recoverFrom_ask world options (Bool.not_eq_false _ ▸ ask)] at recovered
            cases recovered
          refine iff_of_true (.inr ?_) trivial
          simp only [AttemptRecord.redirect, other]
          rfl
        | ok next t =>
          rw [recovered] at ends
          subst ends
          have order := (upkeep_inOrder world options).keeps_recoverFrom after e s.inner kept
          rw [recovered] at order
          exact ih order (redirect_of_recovered world options plain recovered _ rfl)
    cases expected with
    | none =>
      obtain ⟨outcome, after, s, ran, plain, sent⟩ :=
        attemptSending_plain world options command c asking
      obtain ⟨later, whole, ends⟩ := history_of_attempted world options command ttl ran
      rw [whole]
      refine and_congr (iff_of_true sent fun r same => ?_) (rest ran plain ends)
      cases same
    | some r =>
      obtain ⟨outcome, after, s, ran, plain, sent⟩ :=
        attemptSending_asking world options command inOrder asking
      obtain ⟨later, whole, ends⟩ := history_of_attempted world options command ttl ran
      rw [whole]
      by_cases answers : c.Answers world r
      · refine and_congr (iff_of_true (sent.mpr answers) fun other same => ?_)
          (rest ran (plain answers) ends)
        cases same
        exact answers
      · refine iff_of_false (fun follows => answers (sent.mp follows.1)) fun all => ?_
        exact answers (all.1 r rfl)

/-- A cluster of one primary that sends clients on to a node which `CLUSTER SLOTS` does not name
yet. -/
def migrating : ClusterWorld := { shortOutage with
  exchange := fun _ address exchange =>
    if exchange = .command ∧ address.2 = 7000 then
      .error {
        cls := .askError
        redirect := some { slotId := 0, host := "127.0.0.1".toList, port := 7005 } }
    else .ok () }

/-- A client that knows the topology of that cluster. -/
def migratingClient (flavor : Flavor) : { c : RedisCluster // c.InOrder } :=
  ⟨run migrating (defaultOptions flavor) [("127.0.0.1".toList, 7000)] [readSlotZero],
    run_inOrder migrating (defaultOptions flavor) _ _⟩

end RedisCluster

end RedisPy

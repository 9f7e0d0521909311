import Mathlib.Data.List.TakeWhile
import RedisPy.Python.Dict
import RedisPy.Pool.ConnectionPool

/-!
# Discovery by the sentinels

`discover_master` and `discover_slaves` of `Sentinel`, blocking or asyncio, over the states that the
sentinels report as dictionaries. The list of sentinels is reordered when one has named the master.
-/

namespace RedisPy

/-! ## States -/

/-- A `bytes` or a `str` value. -/
inductive Item where
  | bytes (data : Bytes)
  | str (text : Text)
deriving DecidableEq

/-- `str_if_bytes`. -/
def Item.text : Item → Text
  | .bytes data => decodeReplace data
  | .str text => text

/-- A value in the state of a server. -/
inductive FieldValue where
  | item (item : Item)
  | int (value : Int)
  | bool (value : Bool)
  /-- A `set` of strings. -/
  | words (members : List Text)
deriving DecidableEq

/-- `bool(value)`. -/
def FieldValue.truthy : FieldValue → Bool
  | .item (.bytes data) => !data.isEmpty
  | .item (.str text) => !text.isEmpty
  | .int value => value ≠ 0
  | .bool value => value
  | .words members => !members.isEmpty

/-- `value < bound` for an integer. -/
def FieldValue.lt (bound : Int) : FieldValue → Except Exc Bool
  | .int value => .ok (value < bound)
  | .bool value => .ok ((if value then 1 else 0) < bound)
  | _ => .error { cls := .typeError }

/-- The state of a server, as a dictionary. -/
abbrev SentinelState := Dict Item FieldValue

/-- `state[name]`. -/
def SentinelState.field (state : SentinelState) (name : String) : Except Exc FieldValue :=
  match Dict.get state (.str name.toList) with
  | some value => .ok value
  | none => .error { cls := .keyError }

/-- What `sentinel_masters` returns. -/
inductive MastersReply where
  /-- States by names. -/
  | dict (masters : Dict FieldValue SentinelState)
  | list (masters : List SentinelState)

/-- `masters.get(service_name)`. -/
def MastersReply.get (serviceName : Item) : MastersReply → Except Exc (Option SentinelState)
  | .dict masters => .ok (Dict.get masters (.item serviceName))
  | .list _ => .error { cls := .attributeError }

/-- The address of a server. -/
structure FoundAddress where
  ip : FieldValue
  port : FieldValue
deriving DecidableEq

/-! ## Discovery -/

/-- What a `Sentinel` is made with, and the service that is looked for. -/
structure DiscoveryConfig where
  /-- `min_other_sentinels`. -/
  minOtherSentinels : Int
  /-- `_force_master_ip`. -/
  forceMasterIp : Option Text
  /-- `service_name`. -/
  serviceName : Item

namespace DiscoveryConfig

section Masters

variable (config : DiscoveryConfig)

/-- `check_master_state`. -/
def checkMasterState (state : SentinelState) : Except Exc Bool := do
  let isMaster ← state.field "is_master"
  if isMaster.truthy = false then pure false
  else do
    let isSdown ← state.field "is_sdown"
    if isSdown.truthy then pure false
    else do
      let isOdown ← state.field "is_odown"
      if isOdown.truthy then pure false
      else do
        let others ← state.field "num-other-sentinels"
        let few ← others.lt config.minOtherSentinels
        pure (!few)

/-- `if state and self.check_master_state(state, service_name)`: the state, if it is accepted. -/
def accepted (reply : MastersReply) : Except Exc (Option SentinelState) := do
  let found ← reply.get config.serviceName
  match found with
  | none => pure none
  | some [] => pure none
  | some state => do
    let fit ← config.checkMasterState state
    pure (if fit then some state else none)

/-- The `ip` that is returned for an accepted state. -/
def ipOf (state : SentinelState) : Except Exc FieldValue :=
  match config.forceMasterIp with
  | some ip => .ok (.item (.str ip))
  | none => state.field "ip"

/-- The address that is returned for an accepted state. -/
def addressOf (state : SentinelState) : Except Exc FoundAddress := do
  let ip ← config.ipOf state
  let port ← state.field "port"
  pure { ip, port }

variable {S : Type}

/-- `self.sentinels[0], self.sentinels[sentinel_no] = sentinel, self.sentinels[0]`. -/
def promote (sentinels : List S) (sentinelNo : Nat) (sentinel : S) : List S :=
  match sentinels with
  | [] => []
  | first :: others => ((first :: others).set 0 sentinel).set sentinelNo first

/-- The errors of a sentinel that are passed over by `discover_master`. -/
def unreachable : List ExcClass := [.connectionError, .timeoutError]

/-- The loop of `discover_master` from some sentinel on, and the list of sentinels afterwards. -/
def askFrom (ask : S → Except Exc MastersReply) (sentinels : List S) :
    Nat → List S → Except Exc FoundAddress × List S
  | _, [] => (.error { cls := masterNotFoundError }, sentinels)
  | sentinelNo, sentinel :: later =>
    match ask sentinel with
    | .error e =>
      if e.isinstanceAny unreachable then askFrom ask sentinels (sentinelNo + 1) later
      else (.error e, sentinels)
    | .ok reply =>
      match config.accepted reply with
      | .error e => (.error e, sentinels)
      | .ok none => askFrom ask sentinels (sentinelNo + 1) later
      | .ok (some state) => (config.addressOf state, promote sentinels sentinelNo sentinel)

/-- `discover_master`. -/
def discoverMaster (ask : S → Except Exc MastersReply) (sentinels : List S) :
    Except Exc FoundAddress × List S :=
  config.askFrom ask sentinels 0 sentinels

end Masters

/-! ## Replicas -/

/-- `slave["is_odown"] or slave["is_sdown"]`. -/
def isDown (slave : SentinelState) : Except Exc Bool := do
  let isOdown ← slave.field "is_odown"
  if isOdown.truthy then pure true
  else do
    let isSdown ← slave.field "is_sdown"
    pure isSdown.truthy

/-- `filter_slaves`. -/
def filterSlaves : List SentinelState → Except Exc (List FoundAddress)
  | [] => pure []
  | slave :: slaves => do
    let down ← isDown slave
    if down then filterSlaves slaves
    else do
      let ip ← slave.field "ip"
      let port ← slave.field "port"
      let alive ← filterSlaves slaves
      pure ({ ip, port } :: alive)

/-- The errors of a sentinel that are passed over by `discover_slaves`. -/
def refused : List ExcClass := [.connectionError, .responseError, .timeoutError]

/-- `discover_slaves`. -/
def discoverSlaves {S : Type} (ask : S → Except Exc (List SentinelState)) :
    List S → Except Exc (List FoundAddress)
  | [] => .ok []
  | sentinel :: later =>
    match ask sentinel with
    | .error e => if e.isinstanceAny refused then discoverSlaves ask later else .error e
    | .ok states =>
      match filterSlaves states with
      | .error e => .error e
      | .ok [] => discoverSlaves ask later
      | .ok slaves => .ok slaves

/-! ## The first sentinel that knows -/

section Masters

variable (config : DiscoveryConfig) {S : Type} (ask : S → Except Exc MastersReply)

/-- The address that a sentinel gives in an acceptable answer. -/
def given (sentinel : S) : Option FoundAddress :=
  match ask sentinel with
  | .error _ => none
  | .ok reply =>
    match config.accepted reply with
    | .ok (some state) => (config.addressOf state).toOption
    | _ => none

/-- A sentinel is passed over: it could not be reached, or what it answered was not accepted. -/
def PassedOver (sentinel : S) : Prop :=
  (∃ e, ask sentinel = .error e ∧ e.isinstanceAny unreachable = true) ∨
    ∃ reply, ask sentinel = .ok reply ∧ config.accepted reply = .ok none

/-- The sentinels before the first acceptable answer. -/
def earlier (sentinels : List S) : List S :=
  sentinels.takeWhile fun sentinel => (config.given ask sentinel).isNone

/-- The sentinels from the first acceptable answer on. -/
def onwards (sentinels : List S) : List S :=
  sentinels.dropWhile fun sentinel => (config.given ask sentinel).isNone

/-- The first acceptable answer is returned and its sentinel comes first from now on; without one there
is a `MasterNotFoundError` and the order stays. -/
def Discovers (sentinels : List S) : Prop :=
  match config.onwards ask sentinels with
  | [] =>
    (∃ e, (config.discoverMaster ask sentinels).1 = .error e ∧ e.cls = masterNotFoundError) ∧
      (config.discoverMaster ask sentinels).2 = sentinels
  | sentinel :: _ =>
    (∃ address, config.given ask sentinel = some address ∧
      (config.discoverMaster ask sentinels).1 = .ok address) ∧
      (config.discoverMaster ask sentinels).2.head? = some sentinel ∧
      (config.discoverMaster ask sentinels).2.Perm sentinels

variable {config} {ask}

/-- Sentinels that are passed over do not matter. -/
theorem askFrom_passedOver {passed : List S} (passedBy : ∀ sentinel ∈ passed, config.PassedOver ask sentinel)
    (sentinels later : List S) (sentinelNo : Nat) :
    config.askFrom ask sentinels sentinelNo (passed ++ later) =
      config.askFrom ask sentinels (sentinelNo + passed.length) later := by
  induction passed generalizing sentinelNo with
  | nil => rfl
  | cons sentinel passed ih =>
    have rest := ih (fun other member => passedBy other (List.mem_cons_of_mem _ member)) (sentinelNo + 1)
    have shifted : sentinelNo + 1 + passed.length = sentinelNo + (sentinel :: passed).length := by
      simp only [List.length_cons]
      omega
    rw [shifted] at rest
    rw [← rest, List.cons_append, askFrom]
    rcases passedBy sentinel List.mem_cons_self with ⟨e, failed, tolerated⟩ | ⟨reply, answered, unfit⟩
    · rw [failed]
      simp only [tolerated, ↓reduceIte]
    · rw [answered]
      simp only [unfit]

/-- A sentinel with an acceptable answer ends the loop. -/
theorem askFrom_given {sentinel : S} {address : FoundAddress}
    (gives : config.given ask sentinel = some address) (sentinels later : List S) (sentinelNo : Nat) :
    config.askFrom ask sentinels sentinelNo (sentinel :: later) =
      (.ok address, promote sentinels sentinelNo sentinel) := by
  unfold given at gives
  rw [askFrom]
  cases answered : ask sentinel with
  | error e =>
    rw [answered] at gives
    cases gives
  | ok reply =>
    rw [answered] at gives
    simp only at gives ⊢
    cases accepted : config.accepted reply with
    | error e =>
      rw [accepted] at gives
      cases gives
    | ok state =>
      rw [accepted] at gives
      cases state with
      | none => cases gives
      | some state =>
        simp only at gives ⊢
        cases found : config.addressOf state with
        | error e =>
          rw [found] at gives
          cases gives
        | ok other =>
          rw [found] at gives
          cases gives
          rfl

/-- A computation raises errors of these classes only. -/
def RaisesOnly {α : Type} (classes : List ExcClass) (result : Except Exc α) : Prop :=
  ∀ e, result = .error e → e.cls ∈ classes

/-- Returning raises nothing. -/
theorem raisesOnly_pure {α : Type} (classes : List ExcClass) (value : α) :
    RaisesOnly classes (pure value) := by
  intro e raised
  cases raised

/-- One computation after another. -/
theorem RaisesOnly.bind {α β : Type} {classes : List ExcClass} {first : Except Exc α}
    {second : α → Except Exc β} (one : RaisesOnly classes first)
    (two : ∀ value, RaisesOnly classes (second value)) : RaisesOnly classes (first >>= second) := by
  intro e raised
  cases ran : first with
  | error other =>
    rw [ran] at raised
    cases raised
    exact one _ ran
  | ok value =>
    rw [ran] at raised
    exact two value e raised

/-- A branch. -/
theorem RaisesOnly.ite {α : Type} {classes : List ExcClass} {condition : Prop} [Decidable condition]
    {yes no : Except Exc α} (whenTrue : RaisesOnly classes yes) (whenFalse : RaisesOnly classes no) :
    RaisesOnly classes (if condition then yes else no) := by
  split
  · exact whenTrue
  · exact whenFalse

/-- A missing field is a `KeyError`. -/
theorem raisesOnly_field {classes : List ExcClass} (missing : .keyError ∈ classes)
    (state : SentinelState) (name : String) : RaisesOnly classes (state.field name) := by
  intro e raised
  unfold SentinelState.field at raised
  split at raised
  · cases raised
  · cases raised
    exact missing

/-- A value that is not compared is a `TypeError`. -/
theorem raisesOnly_lt {classes : List ExcClass} (mistyped : .typeError ∈ classes) (value : FieldValue)
    (bound : Int) : RaisesOnly classes (value.lt bound) := by
  intro e raised
  cases value with
  | int value => cases raised
  | bool value => cases raised
  | item item =>
    cases raised
    exact mistyped
  | words members =>
    cases raised
    exact mistyped

variable (config)

/-- Checking a state raises what reading its fields raises, or a `TypeError`. -/
theorem raisesOnly_checkMasterState {classes : List ExcClass} (mistyped : .typeError ∈ classes)
    {state : SentinelState} (fields : ∀ name ∈ ["is_master", "is_sdown", "is_odown", "num-other-sentinels"],
      RaisesOnly classes (state.field name)) :
    RaisesOnly classes (config.checkMasterState state) := by
  refine (fields _ (by simp)).bind fun isMaster => .ite (raisesOnly_pure _ _) ?_
  refine (fields _ (by simp)).bind fun isSdown => .ite (raisesOnly_pure _ _) ?_
  refine (fields _ (by simp)).bind fun isOdown => .ite (raisesOnly_pure _ _) ?_
  refine (fields _ (by simp)).bind fun others => ?_
  exact (raisesOnly_lt mistyped others _).bind fun few => raisesOnly_pure _ _

/-- Reading an address raises what reading its fields raises. -/
theorem raisesOnly_addressOf {classes : List ExcClass} {state : SentinelState}
    (fields : ∀ name ∈ ["ip", "port"], RaisesOnly classes (state.field name)) :
    RaisesOnly classes (config.addressOf state) := by
  have ip : RaisesOnly classes (config.ipOf state) := by
    unfold ipOf
    cases config.forceMasterIp with
    | some ip => exact raisesOnly_pure _ _
    | none => exact fields _ (by simp)
  exact ip.bind fun ip => (fields _ (by simp)).bind fun port => raisesOnly_pure _ _

/-- The state of the service is looked at when the answer is a dict. -/
theorem accepted_dict (states : Dict FieldValue SentinelState) :
    config.accepted (.dict states) =
      match Dict.get states (.item config.serviceName) with
      | none => pure none
      | some [] => pure none
      | some state => config.checkMasterState state >>= fun fit => pure (if fit then some state else none) := rfl

/-- What reading an answer can raise. -/
def misread : List ExcClass := [.keyError, .typeError, .attributeError]

/-- Reading an answer raises no error of the library. -/
theorem raisesOnly_accepted (reply : MastersReply) : RaisesOnly misread (config.accepted reply) := by
  have found : RaisesOnly misread (reply.get config.serviceName) := by
    intro e raised
    cases reply with
    | dict masters => cases raised
    | list masters =>
      cases raised
      decide
  refine found.bind fun state => ?_
  match state with
  | none => exact raisesOnly_pure _ _
  | some [] => exact raisesOnly_pure _ _
  | some (first :: others) =>
    refine (raisesOnly_checkMasterState config (by decide) fun name _ => ?_).bind fun fit =>
      raisesOnly_pure _ _
    exact raisesOnly_field (by decide) _ _

variable {config}

/-- A sentinel that is neither passed over nor gives an address makes `discover_master` raise something
else than `MasterNotFoundError`. -/
theorem askFrom_raises {sentinel : S} (silent : config.given ask sentinel = none)
    (stays : ¬config.PassedOver ask sentinel) (sentinels later : List S) (sentinelNo : Nat) :
    ∃ e order, config.askFrom ask sentinels sentinelNo (sentinel :: later) = (.error e, order) ∧
      e.cls ≠ masterNotFoundError := by
  have other {e : Exc} (member : e.cls ∈ misread) : e.cls ≠ masterNotFoundError := by
    intro same
    rw [same] at member
    revert member
    decide
  rw [askFrom]
  cases answered : ask sentinel with
  | error e =>
    have untolerated : ¬e.isinstanceAny unreachable = true := fun tolerated =>
      stays (.inl ⟨e, answered, tolerated⟩)
    simp only [if_neg untolerated]
    refine ⟨e, sentinels, rfl, fun same => untolerated ?_⟩
    unfold Exc.isinstanceAny
    rw [same]
    decide
  | ok reply =>
    have raised := raisesOnly_accepted config reply
    simp only
    cases accepted : config.accepted reply with
    | error e => exact ⟨e, sentinels, rfl, other (raised e accepted)⟩
    | ok state =>
      cases state with
      | none => exact absurd (.inr ⟨reply, answered, accepted⟩) stays
      | some state =>
        have incomplete : RaisesOnly misread (config.addressOf state) :=
          raisesOnly_addressOf config fun name _ => raisesOnly_field (by decide) state name
        unfold given at silent
        rw [answered] at silent
        simp only [accepted] at silent ⊢
        cases found : config.addressOf state with
        | error e => exact ⟨e, _, rfl, other (incomplete e found)⟩
        | ok address =>
          rw [found] at silent
          cases silent

/-- The sentinel that is promoted comes first, and none is lost. -/
theorem promote_spec (passed later : List S) (sentinel : S) :
    (promote (passed ++ sentinel :: later) passed.length sentinel).head? = some sentinel ∧
      (promote (passed ++ sentinel :: later) passed.length sentinel).Perm
        (passed ++ sentinel :: later) := by
  cases passed with
  | nil => exact ⟨rfl, .refl _⟩
  | cons first passed =>
    refine ⟨rfl, ?_⟩
    have swapped := @List.set_set_perm S (first :: passed ++ sentinel :: later) 0 (passed.length + 1)
      (by simp) (by simp)
    simpa [promote] using swapped

variable (config) (ask)

/-- The master is discovered for every order and all answers of the sentinels if and only if each one
before the first acceptable answer is passed over. -/
theorem discovers_iff (sentinels : List S) :
    config.Discovers ask sentinels ↔
      ∀ sentinel ∈ config.earlier ask sentinels, config.PassedOver ask sentinel := by
  have whole : config.earlier ask sentinels ++ config.onwards ask sentinels = sentinels :=
    List.takeWhile_append_dropWhile
  constructor
  · intro discovers
    by_contra stays
    classical
    cases first : (config.earlier ask sentinels).find? fun sentinel => ¬config.PassedOver ask sentinel with
    | none =>
      refine stays fun sentinel member => ?_
      simpa using List.find?_eq_none.mp first sentinel member
    | some sentinel =>
      obtain ⟨hidden, passed, behind, split, passedBy⟩ := List.find?_eq_some_iff_append.mp first
      have silent : config.given ask sentinel = none := by
        have member : sentinel ∈ config.earlier ask sentinels := by
          rw [split]
          exact List.mem_append_right _ List.mem_cons_self
        simpa using List.mem_takeWhile_imp member
      obtain ⟨e, order, ran, other⟩ := askFrom_raises silent (by simpa using hidden) sentinels
        (behind ++ config.onwards ask sentinels) passed.length
      have raised : config.discoverMaster ask sentinels = (.error e, order) := by
        have asked := askFrom_passedOver (fun x member => by simpa using passedBy x member) sentinels
          (sentinel :: (behind ++ config.onwards ask sentinels)) 0
        have parts : passed ++ sentinel :: (behind ++ config.onwards ask sentinels) = sentinels := by
          rw [split, List.append_assoc, List.cons_append] at whole
          exact whole
        rw [Nat.zero_add, ran, parts] at asked
        exact asked
      unfold Discovers at discovers
      rw [raised] at discovers
      split at discovers
      · obtain ⟨⟨f, same, missing⟩, -⟩ := discovers
        cases same
        exact other missing
      · obtain ⟨⟨address, -, same⟩, -⟩ := discovers
        cases same
  · intro passedBy
    have asked := askFrom_passedOver passedBy sentinels (config.onwards ask sentinels) 0
    rw [whole, Nat.zero_add] at asked
    have ran : config.discoverMaster ask sentinels =
      config.askFrom ask sentinels (config.earlier ask sentinels).length (config.onwards ask sentinels) := asked
    unfold Discovers
    rw [ran]
    cases rest : config.onwards ask sentinels with
    | nil => exact ⟨⟨_, rfl, rfl⟩, rfl⟩
    | cons sentinel later =>
      have gives : (config.given ask sentinel).isSome = true := by
        have stops := List.head?_dropWhile_not (fun sentinel => (config.given ask sentinel).isNone) sentinels
        rw [show sentinels.dropWhile _ = sentinel :: later from rest] at stops
        simpa [Option.isSome_iff_ne_none] using stops
      obtain ⟨address, gives⟩ := Option.isSome_iff_exists.mp gives
      obtain ⟨first, perm⟩ := promote_spec (config.earlier ask sentinels) later sentinel
      rw [askFrom_given gives]
      rw [rest] at whole
      rw [whole] at first perm
      exact ⟨⟨address, gives, rfl⟩, first, perm⟩

end Masters

/-- A service without conditions. -/
def anyService : DiscoveryConfig where
  minOtherSentinels := 0
  forceMasterIp := none
  serviceName := .str "mymaster".toList

/-- A master in good state. -/
def healthyMaster : SentinelState :=
  [(.str "ip".toList, .item (.str "10.0.0.1".toList)), (.str "port".toList, .int 6379),
    (.str "num-other-sentinels".toList, .int 1), (.str "is_master".toList, .bool true),
    (.str "is_sdown".toList, .bool false), (.str "is_odown".toList, .bool false)]

/-- One sentinel refuses `SENTINEL MASTERS`, the other one knows the master. -/
def refusedByOne (knows : Bool) : Except Exc MastersReply :=
  if knows then .ok (.dict [(.item anyService.serviceName, healthyMaster)])
  else .error { cls := .noPermissionError }

/-- An error reply of the first sentinel hides the answer of the second one. -/
theorem refused_hides_master :
    ({ cls := .noPermissionError } : Exc).isinstance .redisError = true ∧
      ¬anyService.Discovers refusedByOne [false, true] := by
  refine ⟨by decide, fun discovers => ?_⟩
  have raised : (anyService.discoverMaster refusedByOne [false, true]).1 =
      .error { cls := .noPermissionError } := rfl
  have found : anyService.onwards refusedByOne [false, true] = [true] := by
    have silent : anyService.given refusedByOne false = none := rfl
    have known : (anyService.given refusedByOne true).isNone = false := by decide
    simp [onwards, silent, known]
  unfold Discovers at discovers
  rw [found] at discovers
  obtain ⟨⟨address, -, same⟩, -⟩ := discovers
  rw [raised] at same
  cases same

end DiscoveryConfig

end RedisPy

import RedisPy.Python.Utf8
import RedisPy.Sentinel.Discovery

/-!
# Discovery under both protocols

The callbacks of `SENTINEL MASTERS` and `SENTINEL SLAVES`, blocking or asyncio. A server is described by
fields; RESP2 renders them as a flat list and RESP3 as a map. The callbacks build from them the
dictionaries that discovery reads.
-/

namespace RedisPy

open DiscoveryConfig

/-! ## The callbacks -/

/-- The keys of `SENTINEL_STATE_TYPES`; every type is `int`. -/
def sentinelStateTypes : List String :=
  ["can-failover-its-master", "config-epoch", "down-after-milliseconds", "failover-timeout",
    "info-refresh", "last-hello-message", "last-ok-ping-reply", "last-ping-reply", "last-ping-sent",
    "master-link-down-time", "master-port", "num-other-sentinels", "num-slaves", "o-down-time",
    "pending-commands", "parallel-syncs", "port", "quorum", "role-reported-time", "s-down-time",
    "slave-priority", "slave-repl-offset", "voted-leader-epoch"]

/-- `key in SENTINEL_STATE_TYPES`. -/
def Item.isTyped (key : Item) : Bool :=
  (sentinelStateTypes.map fun name => Item.str name.toList).contains key

/-- `int(value)`. -/
def Item.toInt : Item → Option Int
  | .bytes data => intOfBytes data
  | .str text => intOfText text

/-- The value that `pairs_to_dict_typed` stores: the string where it can't be coerced. -/
def coerced (key value : Item) : FieldValue :=
  match key.isTyped, value.toInt with
  | true, some number => .int number
  | _, _ => .item value

/-- `pairs_to_dict_typed(response, SENTINEL_STATE_TYPES)`, into a dictionary. -/
def pairsToDictTyped : List Item → SentinelState → SentinelState
  | key :: value :: response, result => pairsToDictTyped response (Dict.set result key (coerced key value))
  | _, result => result

/-- `value.split(",")`. -/
def FieldValue.split : FieldValue → Except Exc (List Text)
  | .item (.str text) => .ok (text.splitOn ',')
  | .item (.bytes _) => .error { cls := .typeError }
  | _ => .error { cls := .attributeError }

/-- The fields that are derived from the flags. -/
def derivedFlags : List (String × String) :=
  [("is_master", "master"), ("is_slave", "slave"), ("is_sdown", "s_down"), ("is_odown", "o_down"),
    ("is_sentinel", "sentinel"), ("is_disconnected", "disconnected"),
    ("is_master_down", "master_down")]

/-- `parse_sentinel_state`. -/
def parseSentinelState (item : List Item) : Except Exc SentinelState := do
  let result := pairsToDictTyped item []
  let value ← result.field "flags"
  let flags ← value.split
  pure (Dict.update result (derivedFlags.map fun named =>
    (.str named.1.toList, .bool (flags.contains named.2.toList))))

/-- `map(str_if_bytes, item)`. -/
def decodeItems (item : List Item) : List Item := item.map fun value => .str value.text

/-- `parse_sentinel_masters`, into a dictionary. -/
def parseSentinelMasters : List (List Item) → Dict FieldValue SentinelState →
    Except Exc (Dict FieldValue SentinelState)
  | [], result => pure result
  | item :: response, result => do
    let state ← parseSentinelState (decodeItems item)
    let name ← state.field "name"
    parseSentinelMasters response (Dict.set result name state)

/-- `parse_sentinel_slaves_and_sentinels`. -/
def parseSentinelSlavesAndSentinels (response : List (List Item)) : Except Exc (List SentinelState) :=
  response.mapM fun item => parseSentinelState (decodeItems item)

/-- `parse_sentinel_masters_resp3`: iterating a map gives its keys. -/
def parseSentinelMastersResp3 (response : List (Dict Item Item)) : Except Exc (List SentinelState) :=
  response.mapM fun master => parseSentinelState (Dict.keys master)

/-- The loop of `parse_sentinel_state_resp3` over the keys. -/
def parseFieldsResp3 (response : Dict Item Item) : List Item → SentinelState → Except Exc SentinelState
  | [], result => pure result
  | key :: keys, result =>
    let number := (Dict.get response key).bind fun value => intOfText value.text
    match key.isTyped, number with
    | true, some number => parseFieldsResp3 response keys (Dict.set result (.str key.text) (.int number))
    | _, _ =>
      match Dict.get response (.str key.text) with
      | some value => parseFieldsResp3 response keys (Dict.set result (.str key.text) (.item value))
      | none => .error { cls := .keyError }

/-- `parse_sentinel_state_resp3`. -/
def parseSentinelStateResp3 (response : Dict Item Item) : Except Exc SentinelState := do
  let result ← parseFieldsResp3 response (Dict.keys response) []
  let value ← result.field "flags"
  let flags ← value.split
  pure (Dict.set result (.str "flags".toList) (.words flags))

/-- `parse_sentinel_slaves_and_sentinels_resp3`. -/
def parseSentinelSlavesAndSentinelsResp3 (response : List (Dict Item Item)) :
    Except Exc (List SentinelState) :=
  response.mapM parseSentinelStateResp3

/-! ## Descriptions -/

/-- What a sentinel tells about a server, with the fields that are always there. -/
structure Description (required : List String) where
  fields : Dict Bytes Bytes
  unique : fields.Unique
  complete : ∀ name ∈ required, ascii name ∈ fields.keys

/-- What a sentinel tells about a master. -/
abbrev MasterDescription := Description ["name", "ip", "port", "flags", "num-other-sentinels"]

/-- What a sentinel tells about a replica. -/
abbrev ReplicaDescription := Description ["name", "ip", "port", "flags"]

namespace Description

variable {required : List String} (description : Description required)

/-- The rendering of RESP2. -/
def flat : List Item := description.fields.flatMap fun field => [.bytes field.1, .bytes field.2]

/-- The rendering of RESP3. -/
def map : Dict Item Item := description.fields.map fun field => (.bytes field.1, .bytes field.2)

end Description

/-- What `sentinel_masters` returns under RESP2. -/
def mastersResp2 (masters : List MasterDescription) : Except Exc MastersReply := do
  let states ← parseSentinelMasters (masters.map Description.flat) []
  pure (.dict states)

/-- What `sentinel_masters` returns under RESP3. -/
def mastersResp3 (masters : List MasterDescription) : Except Exc MastersReply := do
  let states ← parseSentinelMastersResp3 (masters.map Description.map)
  pure (.list states)

/-- What `sentinel_slaves` returns under RESP2. -/
def slavesResp2 (replicas : List ReplicaDescription) : Except Exc (List SentinelState) :=
  parseSentinelSlavesAndSentinels (replicas.map Description.flat)

/-- What `sentinel_slaves` returns under RESP3. -/
def slavesResp3 (replicas : List ReplicaDescription) : Except Exc (List SentinelState) :=
  parseSentinelSlavesAndSentinelsResp3 (replicas.map Description.map)

/-! ## What discovery reads under RESP2 -/

/-- The states of RESP2 have these fields, and those of the description. -/
def Complete (required : List String) (state : SentinelState) : Prop :=
  ∀ name ∈ required ++ derivedFlags.map (·.1), .str name.toList ∈ Dict.keys state

/-- Reading a field that is there raises nothing. -/
theorem raisesOnly_field_of_mem {state : SentinelState} {name : String} (classes : List ExcClass)
    (stored : .str name.toList ∈ Dict.keys state) : RaisesOnly classes (state.field name) := by
  intro e raised
  obtain ⟨value, found⟩ := Option.isSome_iff_exists.mp (Dict.isSome_get_iff.mpr stored)
  unfold SentinelState.field at raised
  rw [found] at raised
  cases raised

/-- The pairs of a decoded flat list are stored, with strings where no type is given. -/
theorem pairsToDictTyped_flat (fields : Dict Bytes Bytes) (result : SentinelState) :
    ∀ key, key ∈ Dict.keys (pairsToDictTyped
        (decodeItems (fields.flatMap fun field => [.bytes field.1, .bytes field.2])) result) ↔
      key ∈ Dict.keys result ∨ ∃ stored ∈ Dict.keys fields, key = .str (decodeReplace stored) := by
  induction fields generalizing result with
  | nil => simp [decodeItems, pairsToDictTyped, Dict.keys]
  | cons field fields ih =>
    intro key
    have rest := ih (Dict.set result (.str (decodeReplace field.1))
      (coerced (.str (decodeReplace field.1)) (.str (decodeReplace field.2)))) key
    rw [Dict.mem_keys_set] at rest
    simp only [List.flatMap_cons, decodeItems, List.map_cons, List.cons_append, List.nil_append, Item.text, pairsToDictTyped] at rest ⊢
    rw [rest]
    simp only [Dict.keys, List.map_cons, List.mem_cons, exists_eq_or_imp]
    tauto

/-- What is stored under a key without a type is a string. -/
theorem pairsToDictTyped_str (fields : Dict Bytes Bytes) {result : SentinelState}
    (strings : ∀ item ∈ result, item.1.isTyped = false → ∃ text, item.2 = .item (.str text)) :
    ∀ item ∈ pairsToDictTyped
        (decodeItems (fields.flatMap fun field => [.bytes field.1, .bytes field.2])) result,
      item.1.isTyped = false → ∃ text, item.2 = .item (.str text) := by
  induction fields generalizing result with
  | nil => simpa [decodeItems, pairsToDictTyped] using strings
  | cons field fields ih =>
    have stored : ∀ item ∈ Dict.set result (.str (decodeReplace field.1))
        (coerced (.str (decodeReplace field.1)) (.str (decodeReplace field.2))),
        item.1.isTyped = false → ∃ text, item.2 = .item (.str text) := by
      intro item member untyped
      rcases Dict.mem_set member with rfl | old
      · refine ⟨decodeReplace field.2, ?_⟩
        unfold coerced
        rw [untyped]
      · exact strings item old untyped
    simpa [decodeItems, pairsToDictTyped, Item.text] using ih stored

/-- Under RESP2 every description gives a complete state. -/
theorem parseSentinelState_flat {required : List String} (description : Description required)
    (plain : ∀ name ∈ required, ∀ c ∈ name.toList, c.toNat < 128)
    (flagged : "flags" ∈ required) :
    ∃ state, parseSentinelState (decodeItems description.flat) = .ok state ∧ Complete required state := by
  have there : ∀ name ∈ required,
      .str name.toList ∈ Dict.keys (pairsToDictTyped (decodeItems description.flat) []) := by
    intro name member
    rw [Description.flat, pairsToDictTyped_flat]
    exact .inr ⟨ascii name, description.complete name member, by rw [decodeReplace_ascii (plain name member)]⟩
  obtain ⟨value, found⟩ := Option.isSome_iff_exists.mp (Dict.isSome_get_iff.mpr (there _ flagged))
  obtain ⟨text, same⟩ : ∃ text, value = .item (.str text) :=
    @pairsToDictTyped_str description.fields [] (by simp) _ (Dict.mem_of_get found)
      (show Item.isTyped (.str "flags".toList) = false by decide)
  subst same
  refine ⟨Dict.update (pairsToDictTyped (decodeItems description.flat) []) (derivedFlags.map fun named =>
    (.str named.1.toList, .bool ((text.splitOn ',').contains named.2.toList))), ?_, ?_⟩
  · have read : SentinelState.field (pairsToDictTyped (decodeItems description.flat) []) "flags" =
        .ok (.item (.str text)) := by
      rw [SentinelState.field, found]
    unfold parseSentinelState
    simp only [read]
    rfl
  · intro name member
    rw [Dict.mem_keys_update]
    rcases List.mem_append.mp member with own | derived
    · exact .inl (there name own)
    · refine .inr ?_
      obtain ⟨named, listed, rfl⟩ := List.mem_map.mp derived
      simp only [Dict.keys, List.map_map]
      exact List.mem_map.mpr ⟨named, listed, rfl⟩

/-- The masters of RESP2 have complete states. -/
def AllComplete (states : Dict FieldValue SentinelState) : Prop :=
  ∀ entry ∈ states, Complete ["name", "ip", "port", "flags", "num-other-sentinels"] entry.2

/-- The loop of `parse_sentinel_masters` succeeds, with complete states. -/
theorem parseSentinelMasters_flat (masters : List MasterDescription)
    {result : Dict FieldValue SentinelState} (complete : AllComplete result) :
    ∃ states, parseSentinelMasters (masters.map Description.flat) result = .ok states ∧
      AllComplete states := by
  induction masters generalizing result with
  | nil => exact ⟨result, rfl, complete⟩
  | cons master masters ih =>
    obtain ⟨state, parsed, whole⟩ := parseSentinelState_flat master (by simp) (by simp)
    obtain ⟨name, found⟩ := Option.isSome_iff_exists.mp
      (Dict.isSome_get_iff.mpr (whole "name" (by simp)))
    have named : state.field "name" = .ok name := by
      rw [SentinelState.field, found]
    have grown : AllComplete (Dict.set result name state) := by
      intro entry member
      rcases Dict.mem_set member with rfl | old
      · exact whole
      · exact complete entry old
    obtain ⟨states, ran, kept⟩ := ih grown
    refine ⟨states, ?_, kept⟩
    rw [List.map_cons, parseSentinelMasters, parsed]
    show (state.field "name" >>= fun name => _) = _
    rw [named]
    exact ran

/-- Fields of complete states are read without an error. -/
theorem Complete.raisesOnly {required : List String} {state : SentinelState} (complete : Complete required state)
    (classes : List ExcClass) {name : String} (known : name ∈ required ++ derivedFlags.map (·.1)) :
    RaisesOnly classes (state.field name) :=
  raisesOnly_field_of_mem classes (complete name known)

/-- With complete states an answer raises a `TypeError` at most, and the state accepted is complete. -/
theorem accepted_complete (config : DiscoveryConfig) {states : Dict FieldValue SentinelState}
    (complete : AllComplete states) :
    RaisesOnly [.typeError] (config.accepted (.dict states)) ∧
      ∀ state, config.accepted (.dict states) = .ok (some state) →
        Complete ["name", "ip", "port", "flags", "num-other-sentinels"] state := by
  rw [config.accepted_dict]
  cases found : Dict.get states (.item config.serviceName) with
  | none => exact ⟨raisesOnly_pure _ _, fun state same => by cases same⟩
  | some state =>
    have whole := complete _ (Dict.mem_of_get found)
    cases state with
    | nil => exact ⟨raisesOnly_pure _ _, fun state same => by cases same⟩
    | cons first others =>
      have checked : RaisesOnly [.typeError] (config.checkMasterState (first :: others)) := by
        refine raisesOnly_checkMasterState config (by simp) fun name member => ?_
        refine whole.raisesOnly _ ?_
        revert name
        simp [derivedFlags]
      refine ⟨checked.bind fun fit => raisesOnly_pure _ _, fun state same => ?_⟩
      cases fit : config.checkMasterState (first :: others) with
      | error e =>
        simp only [fit] at same
        cases same
      | ok accepted =>
        simp only [fit] at same
        cases accepted with
        | true =>
          cases same
          exact whole
        | false => cases same

/-- Under RESP2 a master is found, or is not found, or a number is not one. -/
theorem raisesOnly_askFrom_resp2 (config : DiscoveryConfig) {S : Type} (masters : S → List MasterDescription)
    (sentinels later : List S) (sentinelNo : Nat) :
    RaisesOnly [masterNotFoundError, .typeError]
      (config.askFrom (fun sentinel => mastersResp2 (masters sentinel)) sentinels sentinelNo later).1 := by
  induction later generalizing sentinelNo with
  | nil =>
    intro e raised
    cases raised
    decide
  | cons sentinel later ih =>
    have nothing : AllComplete [] := fun entry member => by cases member
    obtain ⟨states, parsed, complete⟩ := parseSentinelMasters_flat (masters sentinel) nothing
    have answered : mastersResp2 (masters sentinel) = .ok (.dict states) := by
      rw [mastersResp2, parsed]
      rfl
    obtain ⟨raises, whole⟩ := accepted_complete config complete
    rw [askFrom, answered]
    simp only
    cases accepted : config.accepted (.dict states) with
    | error e =>
      intro other same
      cases same
      exact List.mem_cons_of_mem _ (raises e accepted)
    | ok state =>
      cases state with
      | none => exact ih (sentinelNo + 1)
      | some state =>
        refine raisesOnly_addressOf config fun name member => (whole state accepted).raisesOnly _ ?_
        revert name
        simp

/-- Under RESP2 the replicas in good state are found. -/
theorem raisesOnly_filterSlaves {slaves : List SentinelState}
    (complete : ∀ slave ∈ slaves, Complete ["name", "ip", "port", "flags"] slave) :
    RaisesOnly [] (filterSlaves slaves) := by
  induction slaves with
  | nil => exact raisesOnly_pure _ _
  | cons slave slaves ih =>
    have whole := complete slave List.mem_cons_self
    have rest := ih fun other member => complete other (List.mem_cons_of_mem _ member)
    have down : RaisesOnly [] (isDown slave) := by
      refine (whole.raisesOnly _ (by simp [derivedFlags])).bind fun isOdown => .ite (raisesOnly_pure _ _) ?_
      exact (whole.raisesOnly _ (by simp [derivedFlags])).bind fun isSdown => raisesOnly_pure _ _
    refine down.bind fun down => .ite rest ?_
    refine (whole.raisesOnly _ (by simp)).bind fun ip => ?_
    refine (whole.raisesOnly _ (by simp)).bind fun port => ?_
    exact rest.bind fun alive => raisesOnly_pure _ _

/-- Under RESP2 every description of a replica gives a complete state. -/
theorem slavesResp2_complete (replicas : List ReplicaDescription) :
    ∃ states, slavesResp2 replicas = .ok states ∧
      ∀ slave ∈ states, Complete ["name", "ip", "port", "flags"] slave := by
  induction replicas with
  | nil => exact ⟨[], rfl, fun slave member => by cases member⟩
  | cons replica replicas ih =>
    obtain ⟨state, parsed, whole⟩ := parseSentinelState_flat replica (by simp) (by simp)
    obtain ⟨states, ran, complete⟩ := ih
    refine ⟨state :: states, ?_, List.forall_mem_cons.mpr ⟨whole, complete⟩⟩
    unfold slavesResp2 parseSentinelSlavesAndSentinels at ran ⊢
    rw [List.map_cons, List.mapM_cons, parsed, ran]
    rfl

/-- Under RESP2 the discovery of replicas raises nothing. -/
theorem raisesOnly_discoverSlaves_resp2 {S : Type} (replicas : S → List ReplicaDescription)
    (sentinels : List S) :
    RaisesOnly [] (discoverSlaves (fun sentinel => slavesResp2 (replicas sentinel)) sentinels) := by
  induction sentinels with
  | nil => exact raisesOnly_pure _ _
  | cons sentinel later ih =>
    obtain ⟨states, answered, complete⟩ := slavesResp2_complete (replicas sentinel)
    rw [discoverSlaves, answered]
    simp only
    cases filtered : filterSlaves states with
    | error e => exact absurd (raisesOnly_filterSlaves complete e filtered) (by simp)
    | ok slaves =>
      cases slaves with
      | nil => exact ih
      | cons first others => exact raisesOnly_pure _ _

/-! ## What discovery reads under RESP3 -/

/-- The keys of a dictionary of pairs come from the pairs. -/
theorem mem_keys_pairsToDictTyped {key : Item} (items : List Item) (result : SentinelState)
    (stored : key ∈ Dict.keys (pairsToDictTyped items result)) : key ∈ items ∨ key ∈ Dict.keys result := by
  fun_induction pairsToDictTyped items result with
  | case1 first value response result ih =>
    rcases ih stored with listed | old
    · exact .inl (List.mem_cons_of_mem _ (List.mem_cons_of_mem _ listed))
    · rcases Dict.mem_keys_set.mp old with rfl | older
      · exact .inl List.mem_cons_self
      · exact .inr older
  | case2 => exact .inr stored

/-- A map of RESP3 has no key that is a string. -/
theorem str_notMem_map {required : List String} (description : Description required) (name : Text) :
    .str name ∉ Dict.keys description.map := by
  simp [Dict.keys, Description.map]

/-- Under RESP3 the keys of a map are taken for its pairs, and there are no flags. -/
theorem parseSentinelState_map {required : List String} (description : Description required) :
    parseSentinelState (Dict.keys description.map) = .error { cls := .keyError } := by
  have missing : Dict.get (pairsToDictTyped (Dict.keys description.map) []) (.str "flags".toList) = none := by
    by_contra found
    have stored := Dict.isSome_get_iff.mp (Option.isSome_iff_ne_none.mpr found)
    rcases mem_keys_pairsToDictTyped _ _ stored with listed | old
    · exact str_notMem_map description _ listed
    · cases old
  have read : SentinelState.field (pairsToDictTyped (Dict.keys description.map) []) "flags" =
      .error { cls := .keyError } := by
    rw [SentinelState.field, missing]
  unfold parseSentinelState
  simp only [read]
  rfl

/-- Under RESP3 the fields of a map are looked up as strings. -/
theorem parseSentinelStateResp3_map {required : List String} (description : Description required)
    (nonempty : description.fields ≠ []) :
    parseSentinelStateResp3 description.map = .error { cls := .keyError } := by
  obtain ⟨field, fields, same⟩ := List.exists_cons_of_ne_nil nonempty
  have missing (name : Text) : Dict.get description.map (.str name) = none := by
    by_contra found
    exact str_notMem_map description name
      (Dict.isSome_get_iff.mp (Option.isSome_iff_ne_none.mpr found))
  have keys : Dict.keys description.map = .bytes field.1 :: fields.map fun field => .bytes field.1 := by
    simp [Dict.keys, Description.map, same]
  have untyped : (Item.bytes field.1).isTyped = false := by
    simp [Item.isTyped]
  have raised : parseFieldsResp3 description.map (Dict.keys description.map) [] =
      .error { cls := .keyError } := by
    rw [keys, parseFieldsResp3]
    simp only [untyped, missing]
  unfold parseSentinelStateResp3
  rw [raised]
  rfl

/-- Under RESP3 the discovery of a master always raises. -/
theorem discoverMaster_resp3 (config : DiscoveryConfig) {S : Type} (masters : S → List MasterDescription)
    (sentinel : S) (later : List S) :
    ∃ e, (config.discoverMaster (fun sentinel => mastersResp3 (masters sentinel)) (sentinel :: later)).1 =
      .error e ∧ e.cls ∈ [.keyError, .attributeError] := by
  unfold discoverMaster
  rw [askFrom]
  cases described : masters sentinel with
  | nil => exact ⟨{ cls := .attributeError }, rfl, by simp⟩
  | cons master others =>
    have raised : mastersResp3 (master :: others) = .error { cls := .keyError } := by
      unfold mastersResp3 parseSentinelMastersResp3
      rw [List.map_cons, List.mapM_cons, parseSentinelState_map]
      rfl
    rw [raised]
    exact ⟨{ cls := .keyError }, rfl, by simp⟩

/-- Under RESP3 a sentinel that knows replicas makes their discovery raise. -/
theorem discoverSlaves_resp3 {S : Type} (replicas : S → List ReplicaDescription) {sentinels : List S}
    {knowing : S} (member : knowing ∈ sentinels) (some : replicas knowing ≠ []) :
    discoverSlaves (fun sentinel => slavesResp3 (replicas sentinel)) sentinels =
      .error { cls := .keyError } := by
  induction sentinels with
  | nil => cases member
  | cons sentinel later ih =>
    rw [discoverSlaves]
    cases described : replicas sentinel with
    | nil =>
      rcases List.mem_cons.mp member with rfl | behind
      · exact absurd described some
      · exact ih behind
    | cons replica others =>
      have nonempty : replica.fields ≠ [] := by
        intro empty
        have named := replica.complete "name" (by simp)
        rw [empty] at named
        cases named
      have raised : slavesResp3 (replica :: others) = .error { cls := .keyError } := by
        unfold slavesResp3 parseSentinelSlavesAndSentinelsResp3
        rw [List.map_cons, List.mapM_cons, parseSentinelStateResp3_map replica nonempty]
        rfl
      rw [raised]
      rfl

/-- Sentinels that know no replicas give none. -/
theorem discoverSlaves_of_nil {S : Type} {ask : S → Except Exc (List SentinelState)} {sentinels : List S}
    (none : ∀ sentinel ∈ sentinels, ask sentinel = .ok []) : discoverSlaves ask sentinels = .ok [] := by
  induction sentinels with
  | nil => rfl
  | cons sentinel later ih =>
    rw [discoverSlaves, none sentinel List.mem_cons_self]
    exact ih fun other member => none other (List.mem_cons_of_mem _ member)

/-- For all descriptions, both protocols discover the same master if and only if there is no sentinel,
and the same replicas if and only if no sentinel knows a replica. -/
theorem discovery_agrees_iff (config : DiscoveryConfig) {S : Type} (masters : S → List MasterDescription)
    (replicas : S → List ReplicaDescription) (sentinels : List S) :
    ((config.discoverMaster (fun sentinel => mastersResp2 (masters sentinel)) sentinels).1 =
        (config.discoverMaster (fun sentinel => mastersResp3 (masters sentinel)) sentinels).1 ↔
      sentinels = []) ∧
    (discoverSlaves (fun sentinel => slavesResp2 (replicas sentinel)) sentinels =
        discoverSlaves (fun sentinel => slavesResp3 (replicas sentinel)) sentinels ↔
      ∀ sentinel ∈ sentinels, replicas sentinel = []) := by
  constructor
  · constructor
    · intro same
      cases sentinels with
      | nil => rfl
      | cons sentinel later =>
        obtain ⟨e, raised, wrong⟩ := discoverMaster_resp3 config masters sentinel later
        rw [raised] at same
        have right := raisesOnly_askFrom_resp2 config masters _ _ _ e same
        have apart : ∀ cls ∈ [ExcClass.keyError, .attributeError],
            cls ∉ [masterNotFoundError, .typeError] := by
          decide
        exact absurd right (apart e.cls wrong)
    · rintro rfl
      rfl
  · constructor
    · intro same
      by_contra known
      push Not at known
      obtain ⟨sentinel, member, known⟩ := known
      rw [discoverSlaves_resp3 replicas member known] at same
      exact absurd (raisesOnly_discoverSlaves_resp2 replicas sentinels _ same) (by simp)
    · intro none
      rw [discoverSlaves_of_nil fun sentinel member => ?_, discoverSlaves_of_nil fun sentinel member => ?_]
      · rw [none sentinel member]
        rfl
      · rw [none sentinel member]
        rfl

/-- A master in good state. -/
def plainMaster : MasterDescription where
  fields :=
    [(ascii "name", ascii "mymaster"), (ascii "ip", ascii "10.0.0.1"), (ascii "port", ascii "6379"),
      (ascii "flags", ascii "master"), (ascii "num-other-sentinels", ascii "2")]
  unique := by
    unfold Dict.Unique
    decide
  complete := by
    decide

/-- The master that is discovered under RESP2 is an error under RESP3. -/
theorem plainMaster_lost :
    (anyService.discoverMaster (fun _ => mastersResp2 [plainMaster]) [()]).1 =
        .ok { ip := .item (.str "10.0.0.1".toList), port := .int 6379 } ∧
      (anyService.discoverMaster (fun _ => mastersResp2 [plainMaster]) [()]).1 ≠
        (anyService.discoverMaster (fun _ => mastersResp3 [plainMaster]) [()]).1 := by
  have found : (anyService.discoverMaster (fun _ => mastersResp2 [plainMaster]) [()]).1 =
      .ok { ip := .item (.str "10.0.0.1".toList), port := .int 6379 } := by
    decide +kernel
  have raised : (anyService.discoverMaster (fun _ => mastersResp3 [plainMaster]) [()]).1 =
      .error { cls := .keyError } := by
    decide +kernel
  refine ⟨found, ?_⟩
  rw [found, raised]
  exact fun same => by cases same

end RedisPy

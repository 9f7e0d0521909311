import RedisPy.PubSub.PubSub
import RedisPy.Lib.Mirror
import RedisPy.Lib.Runs

/-!
# The bookkeeping agrees with the server

A `PubSub` object on one connection: the server obeys its commands in order, and confirms each
name. Between calls other clients publish, and the confirmations and messages are handled one by
one. For each kind of name the object and the server are a mirror, and every call is a step of it.
-/

namespace RedisPy.Channels

open Contract Runs
open Interruptible (bind_of_ok bind_of_error ok_of_bind)

variable {H : Type}

/-! ## The server -/

/-- The subscriptions of a connection on the server. -/
structure Server where
  held : Kind → List Bytes

/-- The order in which a server lists the names that it lets go all at once. -/
structure ServerOrder where
  list : List Bytes → List Bytes
  perm : ∀ names, (list names).Perm names

/-- A server that lists names as they came. -/
def ServerOrder.oldest : ServerOrder where
  list names := names
  perm _ := .rfl

namespace Server

/-- Other names of a kind. -/
def withKind (server : Server) (kind : Kind) (names : List Bytes) : Server where
  held other := if other = kind then names else server.held other

/-- A name is added. -/
def hold (server : Server) (kind : Kind) (name : Bytes) : Server :=
  server.withKind kind (if name ∈ server.held kind then server.held kind else server.held kind ++ [name])

/-- A name is removed. -/
def letGo (server : Server) (kind : Kind) (name : Bytes) : Server :=
  server.withKind kind ((server.held kind).filter (· ≠ name))

/-- The number that a confirmation tells. -/
def count (server : Server) : Kind → Nat
  | .shard => (server.held .shard).length
  | _ => (server.held .channel).length + (server.held .pattern).length

end Server

/-- A server, and what it sent that has not been read. -/
structure Remote where
  server : Server
  inbox : List (Push Bytes)

namespace Remote

/-- One name is subscribed to. -/
def subscribeOne (kind : Kind) (remote : Remote) (name : Bytes) : Remote :=
  let server := remote.server.hold kind name
  { server, inbox := remote.inbox ++ [.subscribed kind name (server.count kind)] }

/-- One name is unsubscribed from, whether it was subscribed to or not. -/
def unsubscribeOne (kind : Kind) (remote : Remote) (name : Bytes) : Remote :=
  let server := remote.server.letGo kind name
  { server, inbox := remote.inbox ++ [.unsubscribed kind (some name) (server.count kind)] }

/-- A command is obeyed. -/
def serve (order : ServerOrder) (verb : Verb) (names : List Bytes) (remote : Remote) : Remote :=
  match verb.subscribes, names with
  | true, [] => { remote with inbox := remote.inbox ++ [.wrongArity] }
  | true, names => names.foldl (subscribeOne verb.kind) remote
  | false, [] =>
    match order.list (remote.server.held verb.kind) with
    | [] => { remote with
        inbox := remote.inbox ++ [.unsubscribed verb.kind none (remote.server.count verb.kind)] }
    | all => all.foldl (unsubscribeOne verb.kind) remote
  | false, names => names.foldl (unsubscribeOne verb.kind) remote

end Remote

/-! ## Runs -/

/-- What another client publishes. -/
inductive Published where
  | message (channel data : Bytes)
  | pmessage (pattern channel data : Bytes)
  | smessage (channel data : Bytes)

/-- The message of a subscriber. -/
def Published.push : Published → Push Bytes
  | message channel data => .message channel data
  | pmessage pattern channel data => .pmessage pattern channel data
  | smessage channel data => .smessage channel data

/-- A step of a run. -/
inductive Call (H : Type) where
  /-- `subscribe`, `psubscribe` or `ssubscribe`. -/
  | subscribe (kind : Kind) (args : NameArgs) (kwargs : Dict Text (Option H))
  /-- `unsubscribe`, `punsubscribe` or `sunsubscribe`. -/
  | unsubscribe (kind : Kind) (args : NameArgs)
  /-- The next message is read and given to `handle_message`. -/
  | handle (ignoreSubscribeMessages : Bool)
  /-- A message of another client is sent to the connection. -/
  | publish (published : Published)

section Runs

variable (flavor : Flavor) (codec : Codec) (order : ServerOrder)

/-- `execute_command` on a connection that works: the names are encoded and sent. -/
def sendCommand (verb : Verb) (names : List Name) : EStateM Stop (Session H Remote) Unit := do
  let encoded ← Session.lift (names.mapM codec.encode)
  modify fun s => { s with wire := s.wire.serve order verb encoded }

/-- The next message is read, and decoded. -/
def readMessage : EStateM Stop (Session H Remote) (Push Name) := fun s =>
  match s.wire.inbox with
  | [] => .error .blocked s
  | push :: rest =>
    match push.decode codec with
    | .ok response => .ok response { s with wire.inbox := rest }
    | .error e => .error e { s with wire.inbox := rest }

/-- `handle_message`, as a call on the object. -/
def handleResponse (ignoreSubscribeMessages : Bool) (response : Push Name) :
    EStateM Stop (Session H Remote) (Handled H) := fun s =>
  let handled := s.pubsub.handleMessage response ignoreSubscribeMessages
  .ok handled.2 { s with pubsub := handled.1 }

/-- `handle_message(parse_response())`. -/
def handleNext (ignoreSubscribeMessages : Bool) : EStateM Stop (Session H Remote) (Handled H) := do
  let response ← readMessage codec
  handleResponse ignoreSubscribeMessages response

/-- The program of a step. -/
def Call.run : Call H → EStateM Stop (Session H Remote) Unit
  | .subscribe kind args kwargs => subscribeTo flavor codec (sendCommand codec order) kind args kwargs
  | .unsubscribe kind args => unsubscribeFrom flavor codec (sendCommand codec order) kind args
  | .handle ignoreSubscribeMessages => do let _ ← handleNext codec ignoreSubscribeMessages
  | .publish published => modify fun s => { s with wire.inbox := s.wire.inbox ++ [published.push] }

/-- The state after a step, returning or raising. -/
def next (s : Session H Remote) (call : Call H) : Session H Remote :=
  stateAfter (call.run flavor codec order s)

/-- A new object on a new connection. -/
def start : Session H Remote where
  pubsub := .new
  wire := { server := { held := fun _ => [] }, inbox := [] }

end Runs

/-! ## Agreement -/

/-- The keys are the names that the server holds, nothing is pending, and the event is set when
the server holds a name. -/
structure Agrees (codec : Codec) (s : Session H Remote) : Prop where
  names : ∀ kind key, key ∈ (s.pubsub.of kind).names.keys ↔
    ∃ data ∈ s.wire.server.held kind, codec.decode false (.bytes data) = .ok key
  pending : ∀ kind, (s.pubsub.of kind).pending = []
  subscribed : s.pubsub.subscribedEvent = true ↔ ∃ kind, s.wire.server.held kind ≠ []

/-- Octets that a client tells from all others: it keeps them, or their text encodes to them. -/
def Faithful (codec : Codec) (data : Bytes) : Prop :=
  codec.decodeResponses = false ∨
    ∃ text, codec.decodeBytes data = some text ∧ codec.encodeText text = .ok data

/-- The names of a call that can be encoded are told from all others. -/
def FaithfulNames (codec : Codec) (names : List Name) : Prop :=
  ∀ name ∈ names, ∀ data, codec.encode name = .ok data → Faithful codec data

/-- A step that keeps the agreement: a subscription has a name; names are told apart; and a
collection without names, which the server takes for all names, is given to an unsubscription only
when all names are leaving anyway. -/
def Allowed (flavor : Flavor) (codec : Codec) (s : Session H Remote) : Call H → Prop
  | .subscribe kind args kwargs =>
    ∀ names, positional flavor { subscribes := true, kind } args = .ok names →
      newNames names (nameKeywords kind kwargs) ≠ [] ∧
      FaithfulNames codec (newNames names (nameKeywords kind kwargs)).keys
  | .unsubscribe _ none => True
  | .unsubscribe kind (some args) =>
    ∀ names, positional flavor { subscribes := false, kind } (some args) = .ok names →
      FaithfulNames codec names ∧
      (names = [] → ∀ key ∈ (s.pubsub.of kind).names.keys, key ∈ (s.pubsub.of kind).pending)
  | .handle _ => True
  | .publish _ => True

/-! ## What a call does -/

section Calls

variable (flavor : Flavor) (codec : Codec) (order : ServerOrder)

/-- A command is sent when its names can be encoded. -/
theorem sendCommand_cases (verb : Verb) (names : List Name) (s : Session H Remote) :
    (∃ encoded, names.mapM codec.encode = .ok encoded ∧
      sendCommand codec order verb names s =
        .ok () { s with wire := s.wire.serve order verb encoded }) ∨
    ∃ e, names.mapM codec.encode = .error e ∧
      sendCommand codec order verb names s = .error (.raised e) s := by
  unfold sendCommand
  cases names.mapM codec.encode with
  | ok encoded => exact .inl ⟨encoded, rfl, rfl⟩
  | error e => exact .inr ⟨e, rfl, rfl⟩

variable {codec}

/-- Faithful octets decode. -/
theorem Faithful.decode {data : Bytes} (faithful : Faithful codec data) :
    ∃ key, codec.decode false (.bytes data) = .ok key := by
  unfold Codec.decode
  rcases faithful with plain | ⟨text, decodes, -⟩
  · simp [plain]
  · simp only [Bool.or_false, decodes]
    split
    · exact ⟨_, rfl⟩
    · exact ⟨_, rfl⟩

/-- Faithful octets are told from others. -/
theorem Faithful.injective {data other : Bytes} (faithful : Faithful codec data)
    (also : Faithful codec other)
    (same : codec.decode false (.bytes data) = codec.decode false (.bytes other)) : data = other := by
  unfold Codec.decode at same
  by_cases decodes : codec.decodeResponses = true
  · rcases faithful with plain | ⟨text, read, back⟩
    · rw [decodes] at plain
      cases plain
    · rcases also with plain | ⟨others, readOther, backOther⟩
      · rw [decodes] at plain
        cases plain
      · simp only [decodes, Bool.true_or, ↓reduceIte, read, readOther, Except.ok.injEq,
          Name.str.injEq] at same
        rw [same, backOther] at back
        cases back
        rfl
  · simp only [Bool.not_eq_true] at decodes
    simpa [decodes] using same

/-- Names that can be encoded and are faithful have keys. -/
theorem normalize_ok {names : List Name} {encoded : List Bytes}
    (faithful : FaithfulNames codec names) (ran : names.mapM codec.encode = .ok encoded) :
    ∀ name ∈ names, ∃ key, codec.normalize name = .ok key := by
  intro name member
  obtain ⟨data, found⟩ := encode_ok ran name member
  obtain ⟨key, read⟩ := (faithful name member data found).decode
  refine ⟨key, ?_⟩
  unfold Codec.normalize
  rw [found]
  exact read

/-- The keys of names are what their octets decode to. -/
theorem normalize_iff {names : List Name} {encoded : List Bytes}
    (ran : names.mapM codec.encode = .ok encoded) (key : Name) :
    (∃ name ∈ names, codec.normalize name = .ok key) ↔
      ∃ data ∈ encoded, codec.decode false (.bytes data) = .ok key := by
  constructor
  · rintro ⟨name, member, found⟩
    obtain ⟨data, read⟩ := encode_ok ran name member
    unfold Codec.normalize at found
    rw [read] at found
    exact ⟨data, (mem_encoded ran data).mpr ⟨name, member, read⟩, found⟩
  · rintro ⟨data, member, found⟩
    obtain ⟨name, named, read⟩ := (mem_encoded ran data).mp member
    refine ⟨name, named, ?_⟩
    unfold Codec.normalize
    rw [read]
    exact found

variable (codec)

/-- A subscription is refused and changes nothing, or it is sent and noted. -/
theorem subscribeTo_cases (kind : Kind) (args : NameArgs) (kwargs : Dict Text (Option H))
    (s : Session H Remote)
    (faithful : ∀ names, positional flavor { subscribes := true, kind } args = .ok names →
      FaithfulNames codec (newNames names (nameKeywords kind kwargs)).keys) :
    (∃ e, subscribeTo flavor codec (sendCommand codec order) kind args kwargs s = .error e s) ∨
    ∃ names encoded normalized, positional flavor { subscribes := true, kind } args = .ok names ∧
      (newNames names (nameKeywords kind kwargs)).keys.mapM codec.encode = .ok encoded ∧
      normalizeKeys codec (newNames names (nameKeywords kind kwargs)) = .ok normalized ∧
      subscribeTo flavor codec (sendCommand codec order) kind args kwargs s = .ok ()
        { pubsub := s.pubsub.noteSubscribed kind normalized
          wire := s.wire.serve order { subscribes := true, kind } encoded } := by
  unfold subscribeTo
  by_cases reserved : kwargs.contains selfWord = true
  · rw [if_pos reserved]
    exact .inl ⟨_, rfl⟩
  · rw [if_neg reserved]
    cases given : positional flavor { subscribes := true, kind } args with
    | error e => exact .inl ⟨_, rfl⟩
    | ok names =>
      rcases sendCommand_cases codec order { subscribes := true, kind }
        (newNames names (nameKeywords kind kwargs)).keys s with ⟨encoded, read, sent⟩ | ⟨e, -, sent⟩
      · right
        obtain ⟨normalized, keyed⟩ := changeKeys_ok (newNames names (nameKeywords kind kwargs))
          (normalize_ok (faithful names given) read)
        refine ⟨names, encoded, normalized, rfl, read, keyed, ?_⟩
        show (sendCommand codec order { subscribes := true, kind }
          (newNames names (nameKeywords kind kwargs)).keys >>= _) s = _
        rw [bind_of_ok sent]
        unfold normalizeKeys
        rw [keyed]
        rfl
      · left
        refine ⟨.raised e, ?_⟩
        show (sendCommand codec order { subscribes := true, kind }
          (newNames names (nameKeywords kind kwargs)).keys >>= _) s = _
        rw [bind_of_error sent]

/-- An unsubscription from everything is noted and sent. -/
theorem unsubscribeFrom_none (kind : Kind) (s : Session H Remote) :
    unsubscribeFrom flavor codec (sendCommand codec order) kind none s = .ok ()
      { pubsub := s.pubsub.notePending kind (s.pubsub.of kind).names.keys
        wire := s.wire.serve order { subscribes := false, kind } [] } :=
  rfl

/-- An unsubscription from some names is refused and changes nothing, or it is noted and sent. -/
theorem unsubscribeFrom_some (kind : Kind) (args : FirstArg × List Name) (s : Session H Remote) :
    (∃ e, unsubscribeFrom flavor codec (sendCommand codec order) kind (some args) s = .error e s) ∨
    ∃ names encoded normalized, positional flavor { subscribes := false, kind } (some args) = .ok names ∧
      names.mapM codec.encode = .ok encoded ∧
      normalizeKeys codec (Dict.fromKeys names ()) = .ok normalized ∧
      unsubscribeFrom flavor codec (sendCommand codec order) kind (some args) s = .ok ()
        { pubsub := s.pubsub.notePending kind normalized.keys
          wire := s.wire.serve order { subscribes := false, kind } encoded } := by
  rw [unsubscribeFrom]
  cases given : positional flavor { subscribes := false, kind } (some args) with
  | error e => exact .inl ⟨_, rfl⟩
  | ok names =>
    have ran : (Session.lift (.ok names) >>= fun names => do
        let normalized ← Session.lift (normalizeKeys codec (Dict.fromKeys names ()))
        Session.note fun p => p.notePending kind normalized.keys
        sendCommand codec order { subscribes := false, kind } names) s = (do
          let normalized ← Session.lift (normalizeKeys codec (Dict.fromKeys names ()))
          Session.note fun p => p.notePending kind normalized.keys
          sendCommand codec order { subscribes := false, kind } names) s := rfl
    rw [ran]
    cases keyed : normalizeKeys codec (Dict.fromKeys names ()) with
    | error e => exact .inl ⟨_, rfl⟩
    | ok normalized =>
      right
      obtain ⟨encoded, read⟩ := encoded_ok codec names fun name member => by
        obtain ⟨key, found⟩ := change_ok keyed name (Dict.mem_keys_fromKeys.mpr member)
        unfold Codec.normalize at found
        cases read : codec.encode name with
        | ok data => exact ⟨data, rfl⟩
        | error e =>
          rw [read] at found
          cases found
      refine ⟨names, encoded, normalized, rfl, read, keyed, ?_⟩
      show sendCommand codec order { subscribes := false, kind } names
        { s with pubsub := s.pubsub.notePending kind normalized.keys } = _
      unfold sendCommand
      rw [read]
      rfl

end Calls

/-! ## What the server does -/

section Serving

variable (codec : Codec)

/-- The key that a confirmed unsubscription of a kind is about. -/
def removal (kind : Kind) : Push Bytes → Option Name
  | .unsubscribed other (some data) _ =>
    if other = kind then (codec.decode false (.bytes data)).toOption else none
  | _ => none

/-- The confirmed unsubscriptions of a kind that have not been handled. -/
def removals (kind : Kind) (inbox : List (Push Bytes)) : List Name :=
  inbox.filterMap (removal codec kind)

/-- Removals are listed in order. -/
theorem removals_append (kind : Kind) (first second : List (Push Bytes)) :
    removals codec kind (first ++ second) = removals codec kind first ++ removals codec kind second :=
  List.filterMap_append

/-- Names that are subscribed to are held, and nothing is removed. -/
theorem subscribed_names (kind : Kind) (names : List Bytes) (remote : Remote) :
    (∀ other data, data ∈ (names.foldl (Remote.subscribeOne kind) remote).server.held other ↔
      data ∈ remote.server.held other ∨ other = kind ∧ data ∈ names) ∧
    ∀ other, removals codec other (names.foldl (Remote.subscribeOne kind) remote).inbox =
      removals codec other remote.inbox := by
  induction names generalizing remote with
  | nil => simp
  | cons name names ih =>
    obtain ⟨held, inbox⟩ := ih (remote.subscribeOne kind name)
    have one (other : Kind) (data : Bytes) :
        data ∈ (remote.subscribeOne kind name).server.held other ↔
          data ∈ remote.server.held other ∨ other = kind ∧ data = name := by
      unfold Remote.subscribeOne Server.hold Server.withKind
      by_cases here : other = kind
      · subst here
        by_cases already : name ∈ remote.server.held other
        · simp only [already, ↓reduceIte, true_and]
          exact ⟨.inl, fun either => either.elim id fun same => same ▸ already⟩
        · simp [already]
      · simp [here]
    constructor
    · intro other data
      rw [List.foldl_cons, held, one, List.mem_cons]
      tauto
    · intro other
      rw [List.foldl_cons, inbox]
      unfold Remote.subscribeOne
      rw [removals_append]
      simp [removals, removal]

/-- Names that are unsubscribed from are not held, and their removal is confirmed. -/
theorem unsubscribed_names (kind : Kind) (names : List Bytes) (remote : Remote) :
    (∀ other data, data ∈ (names.foldl (Remote.unsubscribeOne kind) remote).server.held other ↔
      data ∈ remote.server.held other ∧ ¬(other = kind ∧ data ∈ names)) ∧
    ∀ other, removals codec other (names.foldl (Remote.unsubscribeOne kind) remote).inbox =
      removals codec other remote.inbox ++
        if kind = other then
          names.filterMap fun data => (codec.decode false (.bytes data)).toOption
        else [] := by
  induction names generalizing remote with
  | nil => simp
  | cons name names ih =>
    obtain ⟨held, inbox⟩ := ih (remote.unsubscribeOne kind name)
    have one (other : Kind) (data : Bytes) :
        data ∈ (remote.unsubscribeOne kind name).server.held other ↔
          data ∈ remote.server.held other ∧ ¬(other = kind ∧ data = name) := by
      unfold Remote.unsubscribeOne Server.letGo Server.withKind
      by_cases here : other = kind
      · subst here
        simp
      · simp [here]
    constructor
    · intro other data
      rw [List.foldl_cons, held, one, List.mem_cons]
      tauto
    · intro other
      rw [List.foldl_cons, inbox]
      unfold Remote.unsubscribeOne
      rw [removals_append, List.append_assoc]
      by_cases here : kind = other
      · simp only [here, ↓reduceIte, removals, removal, List.filterMap_cons, List.filterMap_nil]
        cases (codec.decode false (.bytes name)).toOption <;> rfl
      · simp [here, removals, removal]

variable (order : ServerOrder)

/-- The server obeys a subscription. -/
theorem serve_subscribe (kind : Kind) (names : List Bytes) (remote : Remote) :
    (∀ other data,
      data ∈ (remote.serve order { subscribes := true, kind } names).server.held other ↔
        data ∈ remote.server.held other ∨ other = kind ∧ data ∈ names) ∧
    ∀ other, removals codec other (remote.serve order { subscribes := true, kind } names).inbox =
      removals codec other remote.inbox := by
  cases names with
  | nil =>
    constructor
    · intro other data
      simp [Remote.serve]
    · intro other
      unfold Remote.serve
      rw [removals_append]
      simp [removals, removal]
  | cons name names => exact subscribed_names codec kind (name :: names) remote

/-- The server obeys an unsubscription from some names. -/
theorem serve_unsubscribe (kind : Kind) {names : List Bytes} (some : names ≠ []) (remote : Remote) :
    (∀ other data,
      data ∈ (remote.serve order { subscribes := false, kind } names).server.held other ↔
        data ∈ remote.server.held other ∧ ¬(other = kind ∧ data ∈ names)) ∧
    ∀ other, removals codec other (remote.serve order { subscribes := false, kind } names).inbox =
      removals codec other remote.inbox ++
        if kind = other then
          names.filterMap fun data => (codec.decode false (.bytes data)).toOption
        else [] := by
  cases names with
  | nil => exact absurd rfl some
  | cons name names => exact unsubscribed_names codec kind (name :: names) remote

/-- The server obeys an unsubscription from everything. -/
theorem serve_unsubscribe_all (kind : Kind) (remote : Remote) :
    (∀ other data,
      data ∈ (remote.serve order { subscribes := false, kind } []).server.held other ↔
        data ∈ remote.server.held other ∧ other ≠ kind) ∧
    ∀ other, ∃ new,
      removals codec other (remote.serve order { subscribes := false, kind } []).inbox =
        removals codec other remote.inbox ++ new ∧
      (∀ key, key ∈ new ↔ other = kind ∧ ∃ data ∈ remote.server.held kind,
        codec.decode false (.bytes data) = .ok key) := by
  have listed (data : Bytes) :
      data ∈ order.list (remote.server.held kind) ↔ data ∈ remote.server.held kind :=
    (order.perm (remote.server.held kind)).mem_iff
  unfold Remote.serve
  cases all : order.list (remote.server.held kind) with
  | nil =>
    have none : remote.server.held kind = [] := by
      apply List.eq_nil_iff_forall_not_mem.mpr
      intro data member
      have found := (listed data).mpr member
      rw [all] at found
      cases found
    constructor
    · intro other data
      constructor
      · intro member
        refine ⟨member, fun same => ?_⟩
        rw [same, none] at member
        cases member
      · exact fun member => member.1
    · intro other
      refine ⟨[], ?_, fun key => by simp [none]⟩
      simp only
      rw [removals_append]
      simp [removals, removal]
  | cons name names =>
    rw [all] at listed
    obtain ⟨held, inbox⟩ := unsubscribed_names codec kind (name :: names) remote
    constructor
    · intro other data
      rw [held]
      constructor
      · rintro ⟨member, outside⟩
        refine ⟨member, fun same => outside ⟨same, (listed data).mpr (same ▸ member)⟩⟩
      · rintro ⟨member, differs⟩
        exact ⟨member, fun both => differs both.1⟩
    · intro other
      refine ⟨_, inbox other, fun key => ?_⟩
      by_cases here : kind = other
      · subst here
        simp only [↓reduceIte, List.mem_filterMap, true_and]
        have read (data : Bytes) : (codec.decode false (.bytes data)).toOption = some key ↔
            codec.decode false (.bytes data) = .ok key := by
          cases codec.decode false (.bytes data) <;> simp [Except.toOption]
        simp only [read, listed]
      · have apart : ¬other = kind := fun same => here same.symm
        simp [here, apart]

end Serving

/-! ## The mirrors -/

section Mirrors

variable {codec : Codec}

/-- The names of a kind as a mirror of those that the server holds. -/
def mirror (codec : Codec) (kind : Kind) (s : Session H Remote) : Mirror.State Name where
  kept := {key | key ∈ (s.pubsub.of kind).names.keys}
  leaving := {key | key ∈ (s.pubsub.of kind).pending}
  held := {key | ∃ data ∈ s.wire.server.held kind, codec.decode false (.bytes data) = .ok key}
  removals := removals codec kind s.wire.inbox

/-- What every allowed step preserves. -/
structure InStep (codec : Codec) (s : Session H Remote) : Prop where
  /-- Each kind is mirrored. -/
  mirrored : ∀ kind, Mirror.Sound (mirror codec kind s)
  /-- Dictionaries store no name twice. -/
  unique : ∀ kind, (s.pubsub.of kind).names.Unique
  /-- What is held is told apart. -/
  faithful : ∀ kind, ∀ data ∈ s.wire.server.held kind, Faithful codec data
  /-- The event says that something is subscribed to. -/
  event : s.pubsub.subscribedEvent = s.pubsub.any

/-- A new object is in step with a server that holds nothing. -/
theorem inStep_start : InStep codec (start : Session H Remote) where
  mirrored kind := by
    have empty : mirror codec kind (start : Session H Remote) =
        { kept := ∅, leaving := ∅, held := ∅, removals := [] } := by
      cases kind <;> ext <;> simp [mirror, start, PubSub.new, PubSub.of, Dict.keys, removals]
    rw [empty]
    exact Mirror.sound_empty []
  unique kind := by cases kind <;> exact List.nodup_nil
  faithful _ _ member := by cases member
  event := rfl

/-- A subscription asks for the names of one kind. -/
theorem mirror_subscribed (order : ServerOrder) (s : Session H Remote) (kind other : Kind)
    {encoded : List Bytes} {normalized : Dict Name (Option H)}
    (keyed : ∀ key, key ∈ normalized.keys ↔
      ∃ data ∈ encoded, codec.decode false (.bytes data) = .ok key) :
    Mirror.Step (mirror codec other s) (mirror codec other
      { pubsub := s.pubsub.noteSubscribed kind normalized
        wire := s.wire.serve order { subscribes := true, kind } encoded }) := by
  obtain ⟨held, inbox⟩ := serve_subscribe codec order kind encoded s.wire
  by_cases here : other = kind
  · subst here
    have added : mirror codec other
        { pubsub := s.pubsub.noteSubscribed other normalized
          wire := s.wire.serve order { subscribes := true, kind := other } encoded } =
        { mirror codec other s with
          kept := (mirror codec other s).kept ∪ {key | key ∈ normalized.keys}
          leaving := (mirror codec other s).leaving \ {key | key ∈ normalized.keys}
          held := (mirror codec other s).held ∪ {key | key ∈ normalized.keys} } := by
      ext key
      · simp [mirror, PubSub.of_noteSubscribed, Dict.mem_keys_update]
      · simp [mirror, PubSub.of_noteSubscribed, ← Dict.contains_iff_mem_keys]
      · simp only [mirror, held, Set.mem_ofPred_eq, Set.mem_union, keyed, true_and]
        constructor
        · rintro ⟨data, member | new, read⟩
          · exact .inl ⟨data, member, read⟩
          · exact .inr ⟨data, new, read⟩
        · rintro (⟨data, member, read⟩ | ⟨data, new, read⟩)
          · exact ⟨data, .inl member, read⟩
          · exact ⟨data, .inr new, read⟩
      · simp only [mirror, inbox]
    rw [added]
    exact .add _
  · have same : mirror codec other
        { pubsub := s.pubsub.noteSubscribed kind normalized
          wire := s.wire.serve order { subscribes := true, kind } encoded } = mirror codec other s := by
      ext key
      · simp [mirror, PubSub.of_noteSubscribed, here]
      · simp [mirror, PubSub.of_noteSubscribed, here]
      · simp [mirror, held, here]
      · simp only [mirror, inbox]
    rw [same]
    exact .idle

/-- An unsubscription from some names lets the names of one kind go. -/
theorem mirror_unsubscribed (order : ServerOrder) {s : Session H Remote} (inStep : InStep codec s)
    (kind other : Kind) {encoded : List Bytes} {keys : List Name} (some : encoded ≠ [])
    (faithful : ∀ data ∈ encoded, Faithful codec data)
    (keyed : ∀ key, key ∈ keys ↔ ∃ data ∈ encoded, codec.decode false (.bytes data) = .ok key) :
    Mirror.Step (mirror codec other s) (mirror codec other
      { pubsub := s.pubsub.notePending kind keys
        wire := s.wire.serve order { subscribes := false, kind } encoded }) := by
  obtain ⟨held, inbox⟩ := serve_unsubscribe codec order kind some s.wire
  by_cases here : other = kind
  · subst here
    have removed : mirror codec other
        { pubsub := s.pubsub.notePending other keys
          wire := s.wire.serve order { subscribes := false, kind := other } encoded } =
        { mirror codec other s with
          leaving := (mirror codec other s).leaving ∪ {key | key ∈ keys}
          held := (mirror codec other s).held \ {key | key ∈ keys}
          removals := (mirror codec other s).removals ++
            encoded.filterMap fun data => (codec.decode false (.bytes data)).toOption } := by
      ext key
      · simp [mirror, PubSub.of_notePending]
      · simp [mirror, PubSub.of_notePending]
      · simp only [mirror, held, Set.mem_ofPred_eq, Set.mem_sdiff, keyed, true_and]
        constructor
        · rintro ⟨data, ⟨member, outside⟩, read⟩
          refine ⟨⟨data, member, read⟩, ?_⟩
          rintro ⟨new, inside, also⟩
          have same := (faithful new inside).injective (inStep.faithful other data member)
            (also.trans read.symm)
          exact outside (same ▸ inside)
        · rintro ⟨⟨data, member, read⟩, outside⟩
          exact ⟨data, ⟨member, fun inside => outside ⟨data, inside, read⟩⟩, read⟩
      · simp only [mirror, inbox, ↓reduceIte]
    rw [removed]
    refine .remove _ _ fun key member => .inr ?_
    obtain ⟨data, inside, read⟩ := (keyed key).mp member
    exact List.mem_filterMap.mpr ⟨data, inside, by rw [read]; rfl⟩
  · have apart : ¬kind = other := fun same => here same.symm
    have same : mirror codec other
        { pubsub := s.pubsub.notePending kind keys
          wire := s.wire.serve order { subscribes := false, kind } encoded } =
        mirror codec other s := by
      ext key
      · simp [mirror, PubSub.of_notePending, here]
      · simp [mirror, PubSub.of_notePending, here]
      · simp [mirror, held, here]
      · simp [mirror, inbox, apart]
    rw [same]
    exact .idle

/-- An unsubscription from everything lets all names of one kind go. -/
theorem mirror_unsubscribed_all (order : ServerOrder) {s : Session H Remote}
    (inStep : InStep codec s) (kind other : Kind) {keys : List Name}
    (leaving : ∀ key, key ∈ (s.pubsub.of kind).names.keys →
      key ∈ keys ∨ key ∈ (s.pubsub.of kind).pending)
    (known : ∀ key ∈ keys, key ∈ (s.pubsub.of kind).names.keys) :
    Mirror.Step (mirror codec other s) (mirror codec other
      { pubsub := s.pubsub.notePending kind keys
        wire := s.wire.serve order { subscribes := false, kind } [] }) := by
  obtain ⟨held, inbox⟩ := serve_unsubscribe_all codec order kind s.wire
  obtain ⟨new, grown, members⟩ := inbox other
  by_cases here : other = kind
  · subst here
    have sound := inStep.mirrored other
    have removed : mirror codec other
        { pubsub := s.pubsub.notePending other keys
          wire := s.wire.serve order { subscribes := false, kind := other } [] } =
        { mirror codec other s with
          leaving := (mirror codec other s).leaving ∪ {key | key ∈ keys}
          held := (mirror codec other s).held \ {key | key ∈ keys}
          removals := (mirror codec other s).removals ++ new } := by
      ext key
      · simp [mirror, PubSub.of_notePending]
      · simp [mirror, PubSub.of_notePending]
      · simp only [mirror, held, Set.mem_ofPred_eq, Set.mem_sdiff]
        constructor
        · rintro ⟨data, ⟨-, differs⟩, -⟩
          exact absurd rfl differs
        · rintro ⟨present, outside⟩
          rcases leaving key (sound.held_kept present) with inside | pending
          · exact absurd inside outside
          · exact absurd present (sound.apart key pending)
      · simp only [mirror, grown]
    rw [removed]
    refine .remove _ _ fun key member => ?_
    rcases sound.kept_leaving (known key member) with ⟨data, present, read⟩ | pending
    · exact .inr ((members key).mpr ⟨rfl, data, present, read⟩)
    · exact .inl pending
  · have none : new = [] := by
      apply List.eq_nil_iff_forall_not_mem.mpr
      exact fun key member => here ((members key).mp member).1
    have same : mirror codec other
        { pubsub := s.pubsub.notePending kind keys
          wire := s.wire.serve order { subscribes := false, kind } [] } = mirror codec other s := by
      ext key
      · simp [mirror, PubSub.of_notePending, here]
      · simp [mirror, PubSub.of_notePending, here]
      · simp [mirror, held, here]
      · simp [mirror, grown, none]
    rw [same]
    exact .idle

/-- The name that a decoded confirmation removes from a kind. -/
def removed (kind : Kind) : Push Name → Option Name
  | .unsubscribed other (some name) _ => if other = kind then some name else none
  | _ => none

/-- A push that cannot be decoded removes nothing. -/
theorem removal_of_error {push : Push Bytes} {e : Stop} (read : push.decode codec = .error e)
    (kind : Kind) : removal codec kind push = none := by
  cases push with
  | unsubscribed other name count =>
    cases name with
    | none => rfl
    | some data =>
      simp only [Push.decode, Push.decode.text] at read
      cases found : codec.decode false (.bytes data) with
      | ok key =>
        rw [found] at read
        cases read
      | error e => simp [removal, found, Except.toOption]
  | _ => rfl

/-- A push that is decoded removes the decoded name. -/
theorem removal_of_ok {push : Push Bytes} {response : Push Name}
    (read : push.decode codec = .ok response) (kind : Kind) :
    removal codec kind push = removed kind response := by
  cases push with
  | unsubscribed other name count =>
    cases name with
    | none =>
      cases read
      rfl
    | some data =>
      obtain ⟨key, found, rest⟩ := ok_of_bind read
      cases rest
      unfold Push.decode.text at found
      cases text : codec.decode false (.bytes data) with
      | ok name =>
        rw [text] at found
        cases found
        simp [removal, removed, text, Except.toOption]
      | error e =>
        rw [text] at found
        cases found
  | subscribed other name count =>
    obtain ⟨key, -, rest⟩ := ok_of_bind read
    cases rest
    rfl
  | message channel data =>
    obtain ⟨_, -, rest⟩ := ok_of_bind read
    obtain ⟨_, -, rest⟩ := ok_of_bind rest
    cases rest
    rfl
  | pmessage pattern channel data =>
    obtain ⟨_, -, rest⟩ := ok_of_bind read
    obtain ⟨_, -, rest⟩ := ok_of_bind rest
    obtain ⟨_, -, rest⟩ := ok_of_bind rest
    cases rest
    rfl
  | smessage channel data =>
    obtain ⟨_, -, rest⟩ := ok_of_bind read
    obtain ⟨_, -, rest⟩ := ok_of_bind rest
    cases rest
    rfl
  | pong data =>
    obtain ⟨_, -, rest⟩ := ok_of_bind read
    cases rest
    rfl
  | wrongArity => cases read

/-- A message removes at most one name from one kind. -/
theorem of_noteMessage (p : PubSub H) (response : Push Name) (kind : Kind) :
    (p.noteMessage response).of kind =
      match removed kind response with
      | some name => (p.drop kind name).of kind
      | none => p.of kind := by
  cases response with
  | unsubscribed other name count =>
    cases name with
    | none =>
      unfold PubSub.noteMessage removed
      dsimp only
      split
      · rfl
      · cases kind <;> rfl
    | some name =>
      have kept : (p.noteMessage (.unsubscribed other (some name) count)).of kind =
          (p.drop other name).of kind := by
        unfold PubSub.noteMessage
        dsimp only
        split
        · rfl
        · cases kind <;> rfl
      rw [kept]
      unfold removed
      by_cases here : other = kind
      · simp only [here, ↓reduceIte]
      · have apart : ¬kind = other := fun same => here same.symm
        simp only [here, ↓reduceIte, PubSub.of_drop, apart, false_and]
  | _ => rfl

/-- A message that is handled is a removal that arrives, or nothing. -/
theorem mirror_handled {s : Session H Remote} {push : Push Bytes} {rest : List (Push Bytes)}
    (inStep : InStep codec s) (next : s.wire.inbox = push :: rest) {response : Push Name}
    (read : push.decode codec = .ok response) (kind : Kind) :
    Mirror.Step (mirror codec kind s) (mirror codec kind
      { pubsub := s.pubsub.noteMessage response, wire := { s.wire with inbox := rest } }) := by
  have head : removals codec kind s.wire.inbox =
      (removed kind response).toList ++ removals codec kind rest := by
    rw [next, removals, List.filterMap_cons, removal_of_ok read]
    cases removed kind response <;> rfl
  cases found : removed kind response with
  | none =>
    have same : mirror codec kind
        { pubsub := s.pubsub.noteMessage response, wire := { s.wire with inbox := rest } } =
        mirror codec kind s := by
      rw [found] at head
      ext key
      · simp [mirror, of_noteMessage, found]
      · simp [mirror, of_noteMessage, found]
      · simp [mirror]
      · simp [mirror, head]
    rw [same]
    exact .idle
  | some name =>
    have arrived : mirror codec kind
        { pubsub := s.pubsub.noteMessage response, wire := { s.wire with inbox := rest } } =
        (mirror codec kind s).arrive name (removals codec kind rest) := by
      unfold Mirror.State.arrive
      by_cases pending : name ∈ (s.pubsub.of kind).pending
      · ext key
        · simp only [mirror, of_noteMessage, found, PubSub.of_drop, pending, and_self, ↓reduceIte,
            Set.mem_ofPred_eq, Set.mem_sdiff, Dict.mem_keys_erase (inStep.unique kind)]
          constructor
          · rintro ⟨member, differs⟩
            exact ⟨member, fun dropped => differs dropped.1⟩
          · rintro ⟨member, stays⟩
            refine ⟨member, ?_⟩
            rintro rfl
            exact stays ⟨rfl, pending⟩
        · simp only [mirror, of_noteMessage, found, PubSub.of_drop, pending, and_self, ↓reduceIte,
            Set.mem_ofPred_eq, Set.mem_sdiff, List.mem_filter, decide_eq_true_eq]
          constructor
          · rintro ⟨member, differs⟩
            exact ⟨member, fun dropped => differs dropped.1⟩
          · rintro ⟨member, stays⟩
            exact ⟨member, fun same => stays ⟨same, member⟩⟩
        · rfl
        · rfl
      · have stays (key : Name) : ¬(key = name ∧ key ∈ (s.pubsub.of kind).pending) := by
          rintro ⟨rfl, member⟩
          exact pending member
        ext key
        · simp [mirror, of_noteMessage, found, PubSub.of_drop, pending, stays]
        · simp [mirror, of_noteMessage, found, PubSub.of_drop, pending, stays]
        · rfl
        · rfl
    rw [arrived]
    refine .arrive name (removals codec kind rest) ?_
    rw [found] at head
    exact head

end Mirrors

/-! ## Steps -/

section Steps

variable {flavor : Flavor} {codec : Codec} {order : ServerOrder}

/-- A name that is noted is subscribed to. -/
theorem any_noteSubscribed (p : PubSub H) (kind : Kind) {new : Dict Name (Option H)} {key : Name}
    (member : key ∈ new.keys) : (p.noteSubscribed kind new).any = true := by
  apply (PubSub.any_iff _).mpr
  refine ⟨kind, fun none => ?_⟩
  have stored : key ∈ ((p.noteSubscribed kind new).of kind).names.keys := by
    rw [PubSub.of_noteSubscribed, if_pos rfl]
    exact Dict.mem_keys_update.mpr (.inr member)
  rw [none] at stored
  cases stored

/-- What is pending does not say what is subscribed to. -/
theorem event_notePending (p : PubSub H) (kind : Kind) (names : List Name) :
    (p.notePending kind names).subscribedEvent = p.subscribedEvent ∧
      (p.notePending kind names).any = p.any := by
  cases kind <;> exact ⟨rfl, rfl⟩

/-- What is dropped was subscribed to. -/
theorem any_of_any_drop {p : PubSub H} {kind : Kind} {name : Name} (any : (p.drop kind name).any) :
    p.any = true := by
  obtain ⟨other, some⟩ := (PubSub.any_iff _).mp any
  refine (PubSub.any_iff p).mpr ⟨other, fun none => some ?_⟩
  rw [PubSub.of_drop]
  split
  · rename_i here
    rw [here.1] at none
    show (p.of kind).names.erase name = []
    rw [none]
    rfl
  · exact none

/-- Dropping a name leaves the event alone. -/
theorem subscribedEvent_drop (p : PubSub H) (kind : Kind) (name : Name) :
    (p.drop kind name).subscribedEvent = p.subscribedEvent := by
  unfold PubSub.drop
  split
  · exact PubSub.subscribedEvent_withKind ..
  · rfl

/-- When something is subscribed to after a message, something was before, and the event is left
alone. -/
theorem any_noteMessage {p : PubSub H} {response : Push Name}
    (any : (p.noteMessage response).any = true) :
    p.any = true ∧ (p.noteMessage response).subscribedEvent = p.subscribedEvent := by
  cases response with
  | unsubscribed kind name count =>
    have settled (dropped : PubSub H)
        (any : (if dropped.any then dropped else { dropped with subscribedEvent := false }).any = true) :
        dropped.any = true ∧
          (if dropped.any then dropped else { dropped with subscribedEvent := false }).subscribedEvent =
            dropped.subscribedEvent := by
      by_cases some : dropped.any = true
      · rw [if_pos some]
        exact ⟨some, rfl⟩
      · rw [if_neg some] at any
        exact absurd any some
    unfold PubSub.noteMessage at any ⊢
    cases name with
    | none => exact settled p any
    | some name =>
      obtain ⟨left, same⟩ := settled (p.drop kind name) any
      exact ⟨any_of_any_drop left, same.trans (subscribedEvent_drop p kind name)⟩
  | _ => exact ⟨any, rfl⟩

/-- Handling a message keeps the event. -/
theorem event_noteMessage {p : PubSub H} (event : p.subscribedEvent = p.any) (response : Push Name) :
    (p.noteMessage response).subscribedEvent = (p.noteMessage response).any := by
  cases response with
  | unsubscribed kind name count =>
    have settled (dropped : PubSub H) (set : dropped.any = true → dropped.subscribedEvent = true) :
        (if dropped.any then dropped else { dropped with subscribedEvent := false }).subscribedEvent =
          (if dropped.any then dropped else { dropped with subscribedEvent := false }).any := by
      by_cases some : dropped.any = true
      · rw [if_pos some, some]
        exact set some
      · rw [if_neg some]
        exact (Bool.not_eq_true _ ▸ some : dropped.any = false).symm
    unfold PubSub.noteMessage
    cases name with
    | none => exact settled p fun some => event.trans some
    | some name =>
      refine settled (p.drop kind name) fun some => ?_
      rw [subscribedEvent_drop, event]
      exact any_of_any_drop some
  | _ => exact event

/-- A subscription keeps the object in step. -/
theorem InStep.subscribed {s : Session H Remote} (inStep : InStep codec s) (kind : Kind)
    {new normalized : Dict Name (Option H)} {encoded : List Bytes} (some : new ≠ [])
    (faithful : FaithfulNames codec new.keys) (read : new.keys.mapM codec.encode = .ok encoded)
    (keyed : normalizeKeys codec new = .ok normalized) :
    InStep codec
      { pubsub := s.pubsub.noteSubscribed kind normalized
        wire := s.wire.serve order { subscribes := true, kind } encoded } := by
  have keys (key : Name) : key ∈ normalized.keys ↔
      ∃ data ∈ encoded, codec.decode false (.bytes data) = .ok key :=
    (mem_keys_changeKeys keyed key).trans (normalize_iff read key)
  constructor
  · exact fun other => (inStep.mirrored other).step (mirror_subscribed order s kind other keys)
  · intro other
    rw [PubSub.of_noteSubscribed]
    split
    · exact (inStep.unique kind).update normalized
    · exact inStep.unique other
  · intro other data member
    rcases ((serve_subscribe codec order kind encoded s.wire).1 other data).mp member with
      held | ⟨-, new⟩
    · exact inStep.faithful other data held
    · obtain ⟨name, named, found⟩ := (mem_encoded read data).mp new
      exact faithful name named data found
  · obtain ⟨item, rest, first⟩ := List.exists_cons_of_ne_nil some
    have named : item.1 ∈ new.keys := by
      rw [first]
      exact List.mem_cons_self
    obtain ⟨key, found⟩ := normalize_ok faithful read item.1 named
    have stored : key ∈ normalized.keys := (mem_keys_changeKeys keyed key).mpr ⟨_, named, found⟩
    rw [PubSub.subscribedEvent_noteSubscribed]
    exact (any_noteSubscribed s.pubsub kind stored).symm

/-- An unsubscription keeps the object in step when it is a step of every mirror. -/
theorem InStep.unsubscribed {s : Session H Remote} (inStep : InStep codec s) (kind : Kind)
    {keys : List Name} {wire : Remote}
    (mirrored : ∀ other, Mirror.Step (mirror codec other s)
      (mirror codec other { pubsub := s.pubsub.notePending kind keys, wire }))
    (fewer : ∀ other, ∀ data ∈ wire.server.held other, data ∈ s.wire.server.held other) :
    InStep codec { pubsub := s.pubsub.notePending kind keys, wire } := by
  constructor
  · exact fun other => (inStep.mirrored other).step (mirrored other)
  · intro other
    rw [PubSub.of_notePending]
    split
    · exact inStep.unique kind
    · exact inStep.unique other
  · exact fun other data member => inStep.faithful other data (fewer other data member)
  · obtain ⟨event, any⟩ := event_notePending s.pubsub kind keys
    rw [event, any]
    exact inStep.event

variable (order) in
/-- An unsubscription from some names keeps the object in step. -/
theorem InStep.unsubscribed_some {s : Session H Remote} (inStep : InStep codec s) (kind : Kind)
    {names : List Name} {encoded : List Bytes} {normalized : Dict Name Unit}
    (faithful : FaithfulNames codec names)
    (leaving : names = [] → ∀ key ∈ (s.pubsub.of kind).names.keys, key ∈ (s.pubsub.of kind).pending)
    (read : names.mapM codec.encode = .ok encoded)
    (keyed : normalizeKeys codec (Dict.fromKeys names ()) = .ok normalized) :
    InStep codec
      { pubsub := s.pubsub.notePending kind normalized.keys
        wire := s.wire.serve order { subscribes := false, kind } encoded } := by
  have keys (key : Name) : key ∈ normalized.keys ↔
      ∃ data ∈ encoded, codec.decode false (.bytes data) = .ok key := by
    rw [mem_keys_changeKeys keyed, ← normalize_iff read]
    simp only [Dict.mem_keys_fromKeys]
  cases names with
  | nil =>
    cases read
    have none (key : Name) : key ∉ normalized.keys := by simp [keys key]
    refine inStep.unsubscribed kind (fun other => ?_) fun other data member => ?_
    · exact mirror_unsubscribed_all order inStep kind other
        (fun key member => .inr (leaving rfl key member)) fun key member => absurd member (none key)
    · exact (((serve_unsubscribe_all codec order kind s.wire).1 other data).mp member).1
  | cons name names =>
    have some : encoded ≠ [] := by
      obtain ⟨data, found⟩ := encode_ok read name List.mem_cons_self
      have member := (mem_encoded read data).mpr ⟨name, List.mem_cons_self, found⟩
      exact List.ne_nil_of_mem member
    have known : ∀ data ∈ encoded, Faithful codec data := by
      intro data member
      obtain ⟨given, named, found⟩ := (mem_encoded read data).mp member
      exact faithful given named data found
    refine inStep.unsubscribed kind (fun other => ?_) fun other data member => ?_
    · exact mirror_unsubscribed order inStep kind other some known keys
    · exact (((serve_unsubscribe codec order kind some s.wire).1 other data).mp member).1

/-- A message that cannot be decoded is dropped. -/
theorem readMessage_error {codec : Codec} {s : Session H Remote} {push : Push Bytes} {rest : List (Push Bytes)}
    (inbox : s.wire.inbox = push :: rest) {e : Stop} (undecoded : push.decode codec = .error e) :
    readMessage codec s = .error e { s with wire.inbox := rest } := by
  unfold readMessage
  rw [inbox]
  simp only [undecoded]

/-- A message that can be decoded is read. -/
theorem readMessage_ok {codec : Codec} {s : Session H Remote} {push : Push Bytes} {rest : List (Push Bytes)}
    (inbox : s.wire.inbox = push :: rest) {response : Push Name} (decoded : push.decode codec = .ok response) :
    readMessage codec s = .ok response { s with wire.inbox := rest } := by
  unfold readMessage
  rw [inbox]
  simp only [decoded]

/-- Without a message nothing is handled. -/
theorem handleNext_nil (codec : Codec) (ignoreSubscribeMessages : Bool) {s : Session H Remote}
    (inbox : s.wire.inbox = []) :
    stateAfter (handleNext codec ignoreSubscribeMessages s) = s := by
  have blocked : readMessage codec s = .error .blocked s := by
    unfold readMessage
    rw [inbox]
  unfold handleNext
  rw [bind_of_error blocked]
  rfl

/-- A message that is handled is noted, whatever becomes of it. -/
theorem handleMessage_fst (p : PubSub H) (response : Push Name) (ignoreSubscribeMessages : Bool) :
    (p.handleMessage response ignoreSubscribeMessages).1 = p.noteMessage response := by
  unfold PubSub.handleMessage
  dsimp only
  split
  · rfl
  · rfl
  · split
    · split <;> rfl
    · split <;> rfl
    · rfl

/-- The next message is dropped if it cannot be decoded, and noted otherwise. -/
theorem handleNext_cons (codec : Codec) (ignoreSubscribeMessages : Bool) {s : Session H Remote}
    {push : Push Bytes} {rest : List (Push Bytes)} (inbox : s.wire.inbox = push :: rest) :
    (∃ e, push.decode codec = .error e ∧
      stateAfter (handleNext codec ignoreSubscribeMessages s) = { s with wire.inbox := rest }) ∨
    ∃ response, push.decode codec = .ok response ∧
      stateAfter (handleNext codec ignoreSubscribeMessages s) =
        { pubsub := s.pubsub.noteMessage response, wire := { s.wire with inbox := rest } } := by
  unfold handleNext
  cases read : push.decode codec with
  | error e =>
    left
    rw [bind_of_error (readMessage_error inbox read)]
    exact ⟨e, rfl, rfl⟩
  | ok response =>
    right
    refine ⟨response, rfl, ?_⟩
    rw [bind_of_ok (readMessage_ok inbox read)]
    simp only [handleResponse, stateAfter, handleMessage_fst]

/-- Handling the next message keeps the object in step. -/
theorem InStep.handled {s : Session H Remote} (inStep : InStep codec s)
    (ignoreSubscribeMessages : Bool) :
    InStep codec (stateAfter (handleNext codec ignoreSubscribeMessages s)) := by
  cases inbox : s.wire.inbox with
  | nil =>
    rw [handleNext_nil codec ignoreSubscribeMessages inbox]
    exact inStep
  | cons push rest =>
    rcases handleNext_cons codec ignoreSubscribeMessages inbox with
      ⟨e, read, done⟩ | ⟨response, read, done⟩
    · rw [done]
      have same (kind : Kind) :
          mirror codec kind { s with wire.inbox := rest } = mirror codec kind s := by
        ext key
        · rfl
        · rfl
        · rfl
        · simp [mirror, inbox, removals, removal_of_error read]
      exact {
        mirrored := fun kind => by
          show Mirror.Sound (mirror codec kind { s with wire.inbox := rest })
          rw [same]
          exact inStep.mirrored kind
        unique := inStep.unique
        faithful := inStep.faithful
        event := inStep.event }
    · rw [done]
      constructor
      · exact fun kind => (inStep.mirrored kind).step (mirror_handled inStep inbox read kind)
      · intro kind
        rw [of_noteMessage]
        cases removed kind response with
        | none => exact inStep.unique kind
        | some name =>
          simp only [PubSub.of_drop]
          split
          · exact (inStep.unique kind).erase name
          · exact inStep.unique kind
      · exact inStep.faithful
      · exact event_noteMessage inStep.event response

/-- A step that handles a message ends where handling it does. -/
theorem next_handle (s : Session H Remote) (ignoreSubscribeMessages : Bool) :
    next flavor codec order s (.handle ignoreSubscribeMessages) =
      stateAfter (handleNext codec ignoreSubscribeMessages s) := by
  show stateAfter ((handleNext codec ignoreSubscribeMessages >>= fun _ => pure ()) s) = _
  cases ran : handleNext codec ignoreSubscribeMessages s with
  | ok value t =>
    rw [bind_of_ok ran]
    rfl
  | error e t =>
    rw [bind_of_error ran]
    rfl

variable (flavor order) in
/-- An allowed step keeps the object in step. -/
theorem InStep.next {s : Session H Remote} (inStep : InStep codec s) (call : Call H)
    (allowed : Allowed flavor codec s call) : InStep codec (next flavor codec order s call) := by
  cases call with
  | subscribe kind args kwargs =>
    unfold Channels.next
    have run : (Call.subscribe kind args kwargs).run flavor codec order s =
      subscribeTo flavor codec (sendCommand codec order) kind args kwargs s := rfl
    rw [run]
    rcases subscribeTo_cases flavor codec order kind args kwargs s
      (fun names given => (allowed names given).2) with
      ⟨e, refused⟩ | ⟨names, encoded, normalized, given, read, keyed, sent⟩
    · rw [refused]
      exact inStep
    · obtain ⟨some, faithful⟩ := allowed names given
      rw [sent]
      exact inStep.subscribed kind some faithful read keyed
  | unsubscribe kind args =>
    unfold Channels.next
    have run : (Call.unsubscribe kind args).run flavor codec order s =
      unsubscribeFrom flavor codec (sendCommand codec order) kind args s := rfl
    rw [run]
    cases args with
    | none =>
      rw [unsubscribeFrom_none]
      refine inStep.unsubscribed kind (fun other => ?_) fun other data member => ?_
      · exact mirror_unsubscribed_all order inStep kind other (fun key member => .inl member)
          fun key member => member
      · exact (((serve_unsubscribe_all codec order kind s.wire).1 other data).mp member).1
    | some args =>
      rcases unsubscribeFrom_some flavor codec order kind args s with
        ⟨e, refused⟩ | ⟨names, encoded, normalized, given, read, keyed, sent⟩
      · rw [refused]
        exact inStep
      · obtain ⟨faithful, leaving⟩ := allowed names given
        rw [sent]
        exact inStep.unsubscribed_some order kind faithful leaving read keyed
  | handle ignoreSubscribeMessages =>
    rw [next_handle]
    exact inStep.handled ignoreSubscribeMessages
  | publish published =>
    have nothing (kind : Kind) : removals codec kind [published.push] = [] := by
      cases published <;> rfl
    have same (kind : Kind) :
        mirror codec kind { s with wire.inbox := s.wire.inbox ++ [published.push] } =
          mirror codec kind s := by
      ext key
      · rfl
      · rfl
      · rfl
      · simp only [mirror, removals_append, nothing, List.append_nil]
    exact {
      mirrored := fun kind => by
        show Mirror.Sound (mirror codec kind
          { s with wire.inbox := s.wire.inbox ++ [published.push] })
        rw [same]
        exact inStep.mirrored kind
      unique := inStep.unique
      faithful := inStep.faithful
      event := inStep.event }

/-- An object in step agrees with the server once every confirmation has been handled. -/
theorem InStep.agrees {s : Session H Remote} (inStep : InStep codec s)
    (settled : s.wire.inbox = []) : Agrees codec s := by
  have none (kind : Kind) : (mirror codec kind s).removals = [] := by
    simp [mirror, settled, removals]
  have names (kind : Kind) (key : Name) : key ∈ (s.pubsub.of kind).names.keys ↔
      ∃ data ∈ s.wire.server.held kind, codec.decode false (.bytes data) = .ok key := by
    have kept := (inStep.mirrored kind).kept_settled (none kind)
    exact Set.ext_iff.mp kept key
  refine { names, pending := fun kind => ?_, subscribed := ?_ }
  · have leaving := (inStep.mirrored kind).leaving_settled (none kind)
    apply List.eq_nil_iff_forall_not_mem.mpr
    exact fun key => Set.eq_empty_iff_forall_notMem.mp leaving key
  · rw [inStep.event, PubSub.any_iff]
    constructor
    · rintro ⟨kind, some⟩
      obtain ⟨item, rest, first⟩ := List.exists_cons_of_ne_nil some
      have stored : item.1 ∈ (s.pubsub.of kind).names.keys := by
        rw [first]
        exact List.mem_cons_self
      obtain ⟨data, held, -⟩ := (names kind item.1).mp stored
      exact ⟨kind, List.ne_nil_of_mem held⟩
    · rintro ⟨kind, some⟩
      obtain ⟨data, held⟩ := List.exists_mem_of_ne_nil _ some
      obtain ⟨key, read⟩ := (inStep.faithful kind data held).decode
      refine ⟨kind, fun empty => ?_⟩
      have stored := (names kind key).mpr ⟨data, held, read⟩
      rw [empty] at stored
      cases stored

end Steps

/-! ## Runs of calls -/

/-- After allowed calls in any order, once every confirmation has been handled, the dictionaries
have the names that the server holds, nothing is pending, and the event is set when there is a
subscription. -/
theorem agrees_of_allowed (codec : Codec) (order : ServerOrder) {calls : List (Call H)}
    (each : Each (next .sync codec order) (Allowed .sync codec) start calls)
    (settled : (calls.foldl (next .sync codec order) start).wire.inbox = []) :
    Agrees codec (calls.foldl (next .sync codec order) start) :=
  (inv_of_each (InStep codec) (fun _ call inStep allowed => inStep.next .sync order call allowed) inStep_start
    each).agrees settled

/-- A client that keeps names as octets, with a codec for Latin-1. -/
def octetCodec : Codec where
  decodeResponses := false
  decodeBytes data := some (data.map fun byte => Char.ofNat byte.toNat)
  encodeText text := .ok (text.map fun char => char.toNat.toUInt8)

/-- One name as an argument. -/
def one (name : String) : NameArgs := some (.name (.str name.toList), [])

/-- Subscribed twice, with an unsubscription between the two that is confirmed afterwards. -/
theorem agrees_of_allowed_again :
    Agrees octetCodec
      (([.subscribe .channel (one "a") [], .unsubscribe .channel none,
        .subscribe .channel (one "a") [], .handle false, .handle false, .handle false] : List (Call Unit)).foldl
        (next .sync octetCodec .oldest) start) := by
  have faithful (names : List Name) : FaithfulNames octetCodec names :=
    fun name _ data _ => .inl rfl
  have subscribes (s : Session Unit Remote) :
      Allowed .sync octetCodec s (.subscribe .channel (one "a") []) := by
    intro names given
    cases given
    exact ⟨by decide, faithful _⟩
  apply agrees_of_allowed octetCodec .oldest
  · refine each_cons.mpr ⟨subscribes _, each_cons.mpr ⟨trivial, each_cons.mpr ⟨subscribes _, ?_⟩⟩⟩
    exact each_cons.mpr ⟨trivial, each_cons.mpr ⟨trivial, each_cons.mpr ⟨trivial, each_nil⟩⟩⟩
  · rfl

/-- An unsubscription with a collection of no names unsubscribes from everything, and the object
does not notice. -/
theorem empty_collection_disagrees :
    let calls : List (Call Unit) :=
      [.subscribe .channel (one "a") [], .handle false,
        .unsubscribe .channel (some (.names [], [])), .handle false]
    let s := calls.foldl (next .sync octetCodec .oldest) start
    s.wire.inbox = [] ∧ ¬Agrees octetCodec s := by
  refine ⟨rfl, fun agrees => ?_⟩
  have stored := (agrees.names .channel (.bytes [97])).mp (by decide)
  obtain ⟨data, held, -⟩ := stored
  cases held

end RedisPy.Channels

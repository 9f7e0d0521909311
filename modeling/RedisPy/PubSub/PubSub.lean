import Mathlib.Data.List.Induction
import RedisPy.Parsers.Value
import RedisPy.Lib.Contract

/-!
# Publish and subscribe

`PubSub` of the blocking client and of the asyncio client: the names that are subscribed to, with
their handlers, and those whose unsubscription is pending. What a call does is the same for
channels, patterns and shard channels but for the dictionary and the set it works on. The words
that name the types of messages are read as what they are.
-/

namespace RedisPy.Channels

open Contract

/-! ## Names -/

/-- A channel or pattern name, from an application or as a key of a dictionary. -/
inductive Name where
  | bytes (data : Bytes)
  | str (text : Text)
deriving DecidableEq

/-- An `Encoder` in both directions. -/
structure Codec extends Encoder where
  /-- `value.encode(self.encoding, self.encoding_errors)`. -/
  encodeText : Text → Except Exc Bytes

namespace Codec

variable (codec : Codec)

/-- `Encoder.encode`. -/
def encode : Name → Except Exc Bytes
  | .bytes data => .ok data
  | .str text => codec.encodeText text

/-- `Encoder.decode`, with its parameter `force`. -/
def decode (force : Bool) : Name → Except Exc Name
  | .str text => .ok (.str text)
  | .bytes data =>
    if codec.decodeResponses || force then
      match codec.decodeBytes data with
      | some text => .ok (.str text)
      | none => .error { cls := .unicodeDecodeError }
    else .ok (.bytes data)

/-- The key of a name. -/
def normalize (name : Name) : Except Exc Name := do
  let data ← codec.encode name
  codec.decode false (.bytes data)

end Codec

/-- `{change(k): v for k, v in data.items()}`. -/
def changeKeys {κ ω υ : Type} [BEq ω] (change : κ → Except Exc ω) (data : Dict κ υ) :
    Except Exc (Dict ω υ) :=
  data.foldlM (fun changed item => do
    let key ← change item.1
    pure (changed.set key item.2)) []

/-- `_normalize_keys`. -/
def normalizeKeys {υ : Type} (codec : Codec) : Dict Name υ → Except Exc (Dict Name υ) :=
  changeKeys codec.normalize

/-- The first positional argument of a call. -/
inductive FirstArg where
  | name (name : Name)
  /-- A collection of names. -/
  | names (names : List Name)

/-- `list_or_args`. -/
def listOrArgs : FirstArg → List Name → List Name
  | .name first, rest => first :: rest
  | .names first, rest => first ++ rest

/-- The positional arguments of a call. -/
abbrev NameArgs := Option (FirstArg × List Name)

/-! ## The bookkeeping -/

/-- What is subscribed to. -/
inductive Kind where
  | channel
  | pattern
  | shard
deriving DecidableEq

/-- The two classes. -/
inductive Flavor where
  | sync
  | async
deriving DecidableEq

/-- What a class subscribes to, in the order of `on_connect`. -/
def Flavor.kinds : Flavor → List Kind
  | sync => [.channel, .pattern, .shard]
  | async => [.channel, .pattern]

/-- The subscriptions of one kind, for example `channels` and `pending_unsubscribe_channels`. -/
structure Subscriptions (H : Type) where
  /-- Names with their handlers. -/
  names : Dict Name (Option H)
  /-- Names that are dropped when their unsubscription is confirmed. -/
  pending : List Name

/-- `PubSub`. The asyncio class has no event and no counter, and no shard channels. -/
structure PubSub (H : Type) where
  channels : Subscriptions H
  patterns : Subscriptions H
  shardChannels : Subscriptions H
  /-- `subscribed_event`. -/
  subscribedEvent : Bool
  /-- `health_check_response_counter`. -/
  healthCheckResponseCounter : Int
  /-- `ignore_subscribe_messages`. -/
  ignoreSubscribeMessages : Bool

variable {H τ : Type}

namespace PubSub

/-- A new object. -/
def new : PubSub H where
  channels := { names := [], pending := [] }
  patterns := { names := [], pending := [] }
  shardChannels := { names := [], pending := [] }
  subscribedEvent := false
  healthCheckResponseCounter := 0
  ignoreSubscribeMessages := false

/-- The subscriptions of a kind. -/
def of (p : PubSub H) : Kind → Subscriptions H
  | .channel => p.channels
  | .pattern => p.patterns
  | .shard => p.shardChannels

/-- Other subscriptions of a kind. -/
def withKind (p : PubSub H) (kind : Kind) (subscriptions : Subscriptions H) : PubSub H :=
  match kind with
  | .channel => { p with channels := subscriptions }
  | .pattern => { p with patterns := subscriptions }
  | .shard => { p with shardChannels := subscriptions }

/-- `if self.channels or self.patterns or self.shard_channels`. -/
def any (p : PubSub H) : Bool :=
  !(p.channels.names.isEmpty && p.patterns.names.isEmpty && p.shardChannels.names.isEmpty)

/-- What a subscription notes once the command is sent. -/
def noteSubscribed (p : PubSub H) (kind : Kind) (new : Dict Name (Option H)) : PubSub H :=
  let old := p.of kind
  let noted := p.withKind kind
    { names := old.names.update new
      pending := old.pending.filter fun name => !new.contains name }
  if p.subscribedEvent then noted
  else { noted with subscribedEvent := true, healthCheckResponseCounter := 0 }

/-- What an unsubscription notes before the command is sent. -/
def notePending (p : PubSub H) (kind : Kind) (names : List Name) : PubSub H :=
  p.withKind kind { p.of kind with pending := (p.of kind).pending ++ names }

/-- No unsubscription is pending any more. -/
def clearPending (p : PubSub H) : PubSub H :=
  { p with
    channels := { p.channels with pending := [] }
    patterns := { p.patterns with pending := [] }
    shardChannels := { p.shardChannels with pending := [] } }

/-- What a confirmed unsubscription does to the subscriptions of its kind. -/
def drop (p : PubSub H) (kind : Kind) (name : Name) : PubSub H :=
  if name ∈ (p.of kind).pending then
    p.withKind kind
      { names := (p.of kind).names.erase name
        pending := (p.of kind).pending.filter (· ≠ name) }
  else p

end PubSub

/-! ## Messages -/

/-- What a server pushes to a client that is subscribed. -/
inductive Push (ν : Type) where
  | subscribed (kind : Kind) (name : ν) (count : Nat)
  /-- Without a name there was nothing to unsubscribe from. -/
  | unsubscribed (kind : Kind) (name : Option ν) (count : Nat)
  | message (channel data : ν)
  | pmessage (pattern channel data : ν)
  | smessage (channel data : ν)
  | pong (data : ν)
  /-- An error reply, to a command without names. -/
  | wrongArity

/-- `type` of a message. -/
inductive MessageType where
  | subscribe (kind : Kind)
  | unsubscribe (kind : Kind)
  | message
  | pmessage
  | smessage
  | pong
deriving DecidableEq

/-- `data` of a message. -/
inductive Payload where
  | name (name : Name)
  | count (count : Nat)
deriving DecidableEq

/-- The message that is returned, or passed to a handler. -/
structure Message where
  type : MessageType
  pattern : Option Name
  channel : Option Name
  data : Payload
deriving DecidableEq

/-- What becomes of a message. -/
inductive Handled (H : Type) where
  | ignored
  | returned (message : Message)
  | invoked (handler : H) (message : Message)

/-- The strings of a push are decoded one after the other. -/
def Push.decode (codec : Codec) : Push Bytes → Except Stop (Push Name)
  | .subscribed kind name count => do
    let name ← text name
    pure (.subscribed kind name count)
  | .unsubscribed kind none count => pure (.unsubscribed kind none count)
  | .unsubscribed kind (some name) count => do
    let name ← text name
    pure (.unsubscribed kind (some name) count)
  | .message channel data => do
    let channel ← text channel
    let data ← text data
    pure (.message channel data)
  | .pmessage pattern channel data => do
    let pattern ← text pattern
    let channel ← text channel
    let data ← text data
    pure (.pmessage pattern channel data)
  | .smessage channel data => do
    let channel ← text channel
    let data ← text data
    pure (.smessage channel data)
  | .pong data => do
    let data ← text data
    pure (.pong data)
  | .wrongArity => .error (.ofClass .responseError)
where
  /-- One string. -/
  text (data : Bytes) : Except Stop Name :=
    match codec.decode false (.bytes data) with
    | .ok name => .ok name
    | .error e => .error (.raised e)

/-- The message of a push. -/
def Push.toMessage : Push Name → Option Message
  | .subscribed kind name count =>
    some { type := .subscribe kind, pattern := none, channel := some name, data := .count count }
  | .unsubscribed kind name count =>
    some { type := .unsubscribe kind, pattern := none, channel := name, data := .count count }
  | .message channel data =>
    some { type := .message, pattern := none, channel := some channel, data := .name data }
  | .pmessage pattern channel data =>
    some { type := .pmessage, pattern := some pattern, channel := some channel, data := .name data }
  | .smessage channel data =>
    some { type := .smessage, pattern := none, channel := some channel, data := .name data }
  | .pong data => some { type := .pong, pattern := none, channel := none, data := .name data }
  | .wrongArity => none

namespace PubSub

/-- The effect of a message on the subscriptions. -/
def noteMessage (p : PubSub H) : Push Name → PubSub H
  | .unsubscribed kind name _ =>
    let dropped := match name with
      | some name => p.drop kind name
      | none => p
    if dropped.any then dropped else { dropped with subscribedEvent := false }
  | _ => p

/-- The handler of a published message. -/
def handler (p : PubSub H) : Push Name → Option H
  | .message channel _ => (p.channels.names.get channel).join
  | .pmessage pattern _ _ => (p.patterns.names.get pattern).join
  | .smessage channel _ => (p.shardChannels.names.get channel).join
  | _ => none

/-- `handle_message`. -/
def handleMessage (p : PubSub H) (response : Push Name) (ignoreSubscribeMessages : Bool) :
    PubSub H × Handled H :=
  let noted := p.noteMessage response
  match response.toMessage, noted.handler response with
  | none, _ => (noted, .ignored)
  | some message, some handler => (noted, .invoked handler message)
  | some message, none =>
    match response with
    | .subscribed .. | .unsubscribed .. =>
      if ignoreSubscribeMessages || p.ignoreSubscribeMessages then (noted, .ignored)
      else (noted, .returned message)
    | _ => (noted, .returned message)

end PubSub

/-! ## Calls -/

/-- The command of a call and what it is about. -/
structure Verb where
  /-- Subscribe or unsubscribe. -/
  subscribes : Bool
  kind : Kind

/-- A pubsub object and what its commands are sent over. -/
structure Session (H τ : Type) where
  pubsub : PubSub H
  wire : τ

namespace Session

/-- Change the bookkeeping. -/
def note (change : PubSub H → PubSub H) : EStateM Stop (Session H τ) Unit :=
  modify fun s => { s with pubsub := change s.pubsub }

/-- Raise what a computation raises. -/
def lift {α : Type} : Except Exc α → EStateM Stop (Session H τ) α
  | .ok value => pure value
  | .error e => throw (.raised e)

end Session

/-- `dict.fromkeys(args)` and `update(kwargs)`. -/
def newNames (names : List Name) (kwargs : Dict Text (Option H)) : Dict Name (Option H) :=
  (Dict.fromKeys names none).update (kwargs.map fun item => (.str item.1, item.2))

/-- The parameters of a subscribing method that a keyword argument may name: one cannot be given
twice, and one is no name of a channel. -/
def selfWord : Text := "self".toList

/-- The parameter `target_node`. -/
def targetNode : Text := "target_node".toList

/-- The keyword arguments that are names. -/
def nameKeywords (kind : Kind) (kwargs : Dict Text (Option H)) : Dict Text (Option H) :=
  match kind with
  | .shard => kwargs.erase targetNode
  | _ => kwargs

/-- The positional arguments as a list of names. The asyncio class takes a collection only in
`unsubscribe`. -/
def positional (flavor : Flavor) (verb : Verb) : NameArgs → Except Exc (List Name)
  | none => .ok []
  | some (.name first, rest) => .ok (first :: rest)
  | some (.names first, rest) =>
    match flavor, verb with
    | .sync, _ => .ok (listOrArgs (.names first) rest)
    | .async, { subscribes := false, kind := .channel } => .ok (listOrArgs (.names first) rest)
    | .async, _ => .error { cls := .typeError }

section Methods

variable (flavor : Flavor) (codec : Codec)
  (executeCommand : Verb → List Name → EStateM Stop (Session H τ) Unit)

/-- `subscribe`, `psubscribe` and `ssubscribe`. -/
def subscribeTo (kind : Kind) (args : NameArgs) (kwargs : Dict Text (Option H)) :
    EStateM Stop (Session H τ) Unit := do
  if kwargs.contains selfWord then throw (.ofClass .typeError)
  else
    let names ← Session.lift (positional flavor { subscribes := true, kind } args)
    let new := newNames names (nameKeywords kind kwargs)
    executeCommand { subscribes := true, kind } new.keys
    let new ← Session.lift (normalizeKeys codec new)
    Session.note fun p => p.noteSubscribed kind new

/-- `unsubscribe`, `punsubscribe` and `sunsubscribe`. -/
def unsubscribeFrom (kind : Kind) : NameArgs → EStateM Stop (Session H τ) Unit
  | none => do
    Session.note fun p => p.notePending kind (p.of kind).names.keys
    executeCommand { subscribes := false, kind } []
  | some args => do
    let names ← Session.lift (positional flavor { subscribes := false, kind } (some args))
    let normalized ← Session.lift (normalizeKeys codec (Dict.fromKeys names ()))
    Session.note fun p => p.notePending kind normalized.keys
    executeCommand { subscribes := false, kind } names

/-- `subscribe`. -/
def subscribe := subscribeTo flavor codec executeCommand .channel

/-- `psubscribe`. -/
def psubscribe := subscribeTo flavor codec executeCommand .pattern

/-- `ssubscribe`. -/
def ssubscribe := subscribeTo flavor codec executeCommand .shard

/-- `unsubscribe`. -/
def unsubscribe := unsubscribeFrom (H := H) flavor codec executeCommand .channel

/-- `punsubscribe`. -/
def punsubscribe := unsubscribeFrom (H := H) flavor codec executeCommand .pattern

/-- `sunsubscribe`. -/
def sunsubscribe := unsubscribeFrom (H := H) flavor codec executeCommand .shard

/-- The keyword arguments that `on_connect` makes of stored names. -/
def keywords (names : Dict Name (Option H)) : Except Exc (Dict Text (Option H)) := do
  let texts ← changeKeys (codec.decode true) names
  pure (texts.filterMap fun item =>
    match item.1 with
    | .str text => some (text, item.2)
    | .bytes _ => none)

/-- What `on_connect` does for one kind. -/
def resubscribe (kind : Kind) : EStateM Stop (Session H τ) Unit := do
  let s ← get
  whenever (!(s.pubsub.of kind).names.isEmpty) do
    let kwargs ← Session.lift (keywords codec (s.pubsub.of kind).names)
    subscribeTo flavor codec executeCommand kind none kwargs

/-- `on_connect`. -/
def onConnect : EStateM Stop (Session H τ) Unit := do
  Session.note PubSub.clearPending
  resubscribe flavor codec executeCommand .channel
  resubscribe flavor codec executeCommand .pattern
  whenever (flavor = .sync) (resubscribe flavor codec executeCommand .shard)

end Methods

/-! ## What the pieces do -/

namespace PubSub

/-- Other subscriptions of one kind leave the other kinds alone. -/
@[simp] theorem of_withKind (p : PubSub H) (kind other : Kind) (subscriptions : Subscriptions H) :
    (p.withKind kind subscriptions).of other = if other = kind then subscriptions else p.of other := by
  cases kind <;> cases other <;> rfl

/-- The event is not part of the subscriptions. -/
@[simp] theorem subscribedEvent_withKind (p : PubSub H) (kind : Kind)
    (subscriptions : Subscriptions H) :
    (p.withKind kind subscriptions).subscribedEvent = p.subscribedEvent := by
  cases kind <;> rfl

/-- Something is subscribed to when a dictionary has a name. -/
theorem any_iff (p : PubSub H) : p.any = true ↔ ∃ kind, (p.of kind).names ≠ [] := by
  unfold any
  simp only [Bool.not_eq_true', Bool.and_eq_false_iff, List.isEmpty_eq_false_iff]
  constructor
  · rintro ((channels | patterns) | shards)
    · exact ⟨.channel, channels⟩
    · exact ⟨.pattern, patterns⟩
    · exact ⟨.shard, shards⟩
  · rintro ⟨kind, some⟩
    cases kind with
    | channel => exact .inl (.inl some)
    | pattern => exact .inl (.inr some)
    | shard => exact .inr some

/-- A subscription changes one kind. -/
theorem of_noteSubscribed (p : PubSub H) (kind other : Kind) (new : Dict Name (Option H)) :
    (p.noteSubscribed kind new).of other =
      if other = kind then
        { names := (p.of kind).names.update new
          pending := (p.of kind).pending.filter fun name => !new.contains name }
      else p.of other := by
  rw [← of_withKind]
  unfold noteSubscribed
  dsimp only
  split
  · rfl
  · cases kind <;> cases other <;> rfl

/-- A subscription sets the event. -/
theorem subscribedEvent_noteSubscribed (p : PubSub H) (kind : Kind) (new : Dict Name (Option H)) :
    (p.noteSubscribed kind new).subscribedEvent = true := by
  unfold noteSubscribed
  split
  · rename_i set
    rw [subscribedEvent_withKind]
    exact set
  · rfl

/-- An unsubscription changes what is pending of one kind. -/
theorem of_notePending (p : PubSub H) (kind other : Kind) (names : List Name) :
    (p.notePending kind names).of other =
      if other = kind then { p.of kind with pending := (p.of kind).pending ++ names }
      else p.of other :=
  of_withKind p kind other _

/-- A confirmed unsubscription changes one kind. -/
theorem of_drop (p : PubSub H) (kind other : Kind) (name : Name) :
    (p.drop kind name).of other =
      if other = kind ∧ name ∈ (p.of kind).pending then
        { names := (p.of kind).names.erase name
          pending := (p.of kind).pending.filter (· ≠ name) }
      else p.of other := by
  unfold drop
  by_cases pending : name ∈ (p.of kind).pending
  · rw [if_pos pending, of_withKind]
    simp [pending]
  · rw [if_neg pending]
    simp [pending]

/-- Without pending unsubscriptions. -/
theorem of_clearPending (p : PubSub H) (kind : Kind) :
    p.clearPending.of kind = { p.of kind with pending := [] } := by
  cases kind <;> rfl

end PubSub

/-! ## Keys that are changed -/

section Keys

variable {κ ω υ : Type} [BEq ω] {change : κ → Except Exc ω}

/-- One more item is changed after the others. -/
theorem changeKeys_append (data : Dict κ υ) (item : κ × υ) :
    changeKeys change (data ++ [item]) = (do
      let changed ← changeKeys change data
      let key ← change item.1
      pure (changed.set key item.2)) := by
  simp [changeKeys, List.foldlM_append]

/-- The changed keys are the keys, changed. -/
theorem mem_keys_changeKeys [LawfulBEq ω] {data : Dict κ υ} {changed : Dict ω υ}
    (ran : changeKeys change data = .ok changed) (key : ω) : key ∈ changed.keys ↔ ∃ name ∈ data.keys, change name = .ok key := by
  induction data using List.reverseRecOn generalizing changed with
  | nil =>
    cases ran
    simp [Dict.keys]
  | append_singleton data item ih =>
    rw [changeKeys_append] at ran
    cases before : changeKeys change data with
    | error e =>
      rw [before] at ran
      cases ran
    | ok others =>
      cases new : change item.1 with
      | error e =>
        rw [before, new] at ran
        cases ran
      | ok name =>
        rw [before, new] at ran
        cases ran
        rw [Dict.mem_keys_set, ih before]
        simp only [Dict.keys, List.map_append, List.mem_append, List.map_cons, List.map_nil,
          List.mem_singleton]
        constructor
        · rintro (rfl | ⟨other, member, found⟩)
          · exact ⟨item.1, .inr rfl, new⟩
          · exact ⟨other, .inl member, found⟩
        · rintro ⟨other, member | rfl, found⟩
          · exact .inr ⟨other, member, found⟩
          · rw [new] at found
            cases found
            exact .inl rfl

/-- Keys can be changed when each can. -/
theorem changeKeys_ok (data : Dict κ υ) (each : ∀ name ∈ data.keys, ∃ key, change name = .ok key) :
    ∃ changed, changeKeys change data = .ok changed := by
  induction data using List.reverseRecOn with
  | nil => exact ⟨[], rfl⟩
  | append_singleton data item ih =>
    obtain ⟨others, before⟩ := ih fun name member => each name (by
      simp only [Dict.keys, List.map_append, List.mem_append]
      exact .inl member)
    obtain ⟨key, new⟩ := each item.1 (by simp [Dict.keys])
    refine ⟨others.set key item.2, ?_⟩
    rw [changeKeys_append, before, new]
    rfl

/-- Each key could be changed. -/
theorem change_ok {data : Dict κ υ} {changed : Dict ω υ}
    (ran : changeKeys change data = .ok changed) :
    ∀ name ∈ data.keys, ∃ key, change name = .ok key := by
  induction data using List.reverseRecOn generalizing changed with
  | nil =>
    intro name member
    cases member
  | append_singleton data item ih =>
    rw [changeKeys_append] at ran
    cases before : changeKeys change data with
    | error e =>
      rw [before] at ran
      cases ran
    | ok others =>
      cases new : change item.1 with
      | error e =>
        rw [before, new] at ran
        cases ran
      | ok key =>
        intro name member
        simp only [Dict.keys, List.map_append, List.mem_append, List.map_cons, List.map_nil,
          List.mem_singleton] at member
        rcases member with earlier | rfl
        · exact ih before name earlier
        · exact ⟨key, new⟩

end Keys

/-- The encoded names are the names, encoded. -/
theorem mem_encoded {codec : Codec} {names : List Name} {encoded : List Bytes}
    (ran : names.mapM codec.encode = .ok encoded) (data : Bytes) :
    data ∈ encoded ↔ ∃ name ∈ names, codec.encode name = .ok data := by
  induction names generalizing encoded with
  | nil =>
    cases ran
    simp
  | cons name names ih =>
    rw [List.mapM_cons] at ran
    cases first : codec.encode name with
    | error e =>
      rw [first] at ran
      cases ran
    | ok own =>
      cases rest : names.mapM codec.encode with
      | error e =>
        rw [first, rest] at ran
        cases ran
      | ok others =>
        rw [first, rest] at ran
        cases ran
        rw [List.mem_cons, ih rest]
        constructor
        · rintro (rfl | ⟨other, member, found⟩)
          · exact ⟨name, List.mem_cons_self, first⟩
          · exact ⟨other, List.mem_cons_of_mem _ member, found⟩
        · rintro ⟨other, member, found⟩
          rcases List.mem_cons.mp member with rfl | later
          · rw [first] at found
            cases found
            exact .inl rfl
          · exact .inr ⟨other, later, found⟩

/-- Names are encoded when each can be. -/
theorem encoded_ok (codec : Codec) (names : List Name)
    (each : ∀ name ∈ names, ∃ data, codec.encode name = .ok data) :
    ∃ encoded, names.mapM codec.encode = .ok encoded := by
  induction names with
  | nil => exact ⟨[], rfl⟩
  | cons name names ih =>
    obtain ⟨own, first⟩ := each name List.mem_cons_self
    obtain ⟨others, rest⟩ := ih fun other member => each other (List.mem_cons_of_mem _ member)
    exact ⟨own :: others, by rw [List.mapM_cons, first, rest]; rfl⟩

/-- Each name could be encoded. -/
theorem encode_ok {codec : Codec} {names : List Name} {encoded : List Bytes}
    (ran : names.mapM codec.encode = .ok encoded) :
    ∀ name ∈ names, ∃ data, codec.encode name = .ok data := by
  induction names generalizing encoded with
  | nil =>
    intro name member
    cases member
  | cons first names ih =>
    rw [List.mapM_cons] at ran
    cases own : codec.encode first with
    | error e =>
      rw [own] at ran
      cases ran
    | ok data =>
      cases rest : names.mapM codec.encode with
      | error e =>
        rw [own, rest] at ran
        cases ran
      | ok others =>
        intro name member
        rcases List.mem_cons.mp member with rfl | later
        · exact ⟨data, own⟩
        · exact ih rest name later

end RedisPy.Channels

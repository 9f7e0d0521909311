import RedisPy.PubSub.Bookkeeping
import RedisPy.Cluster.KeySlot
import RedisPy.Python.Table

/-!
# Sharded publish and subscribe

`ClusterPubSub` of the blocking client: a node of the cluster has a `PubSub` of its own for the
channels whose slots it owns. Its owner is looked up in the slot table when a channel is subscribed
to, when it is unsubscribed from, and when the unsubscription is confirmed; messages are polled by
one generator over all the node pubsubs.
-/

namespace RedisPy.Channels

/-- A `ClusterNode`. -/
structure ShardNode where
  name : Text
  /-- `redis_connection is not None`. -/
  connected : Bool
deriving DecidableEq

/-- What the objects depend on. -/
structure ShardConfig where
  codec : Codec
  order : ServerOrder
  /-- How many keys the table of a dictionary has room for when it is built anew. -/
  capacity : Nat → Nat

/-- A `ClusterPubSub` and its cluster. -/
structure ClusterPubSub (H : Type) where
  /-- `cluster.nodes_manager.slots_cache`: the primaries of the slots. -/
  slotsCache : Nat → Option ShardNode
  /-- What is inherited from `PubSub`. -/
  base : PubSub H
  /-- `node_pubsub_mapping`, with the connections of the objects. -/
  nodePubsubMapping : Table Text (Session H Remote)
  /-- `_pubsubs_generator`. -/
  pubsubsGenerator : ValuesGenerator
  /-- History that no method reads: the owner of the slot of a channel at the last call on the channel. -/
  lastOwner : Name → Option Text

/-- How a call ends. -/
inductive ShardOutcome where
  | done
  /-- `ssubscribe` or `sunsubscribe` raises. -/
  | stopped (stop : Stop)
  | returned (message : Option Message)
  /-- `get_message` of a node pubsub raises. -/
  | nodeRaised (stop : Stop)
  /-- The target node has no pubsub. -/
  | noTarget
  /-- The generator raises. -/
  | noValue (reason : NoValue)
  /-- An exception after a message was received. -/
  | noteRaised (e : Exc)

/-- What is seen of a call. -/
structure ShardReport where
  outcome : ShardOutcome
  /-- The names of the node pubsubs that are polled in turn. -/
  polled : List Text
  /-- The node pubsubs that a `SUNSUBSCRIBE` is sent on, with the channels. -/
  cancelled : List (Text × Name)

/-- What polling gives. -/
inductive ShardReceived where
  | message (message : Option Message)
  | nodeRaised (stop : Stop)
  | noTarget
  | noValue (reason : NoValue)

/-- A step of a run. -/
inductive ShardCall (H : Type) where
  | ssubscribe (args : NameArgs) (kwargs : Dict Text (Option H))
  | sunsubscribe (args : NameArgs)
  | getShardedMessage (ignoreSubscribeMessages : Bool) (targetNode : Option Text)
  /-- Slots have moved, and the slot table is another one. -/
  | refresh (slotsCache : Nat → Option ShardNode)
  /-- A message of another client is sent to a node pubsub. -/
  | publish (node : Text) (published : Published)
  /-- A node that gives a slot away ends the subscription to a channel, and says so. -/
  | evict (node : Text) (data : Bytes)

variable {H : Type}

/-! ## The pubsub of a node -/

namespace ShardConfig

variable (config : ShardConfig)

/-- `pubsub.ssubscribe(**{s_channel: handler})` or `pubsub.ssubscribe(s_channel)`. -/
def nodeSsubscribe : Name → Option H → EStateM Stop (Session H Remote) Unit
  | name, none =>
    ssubscribe .sync config.codec (sendCommand config.codec config.order) (some (.name name, [])) []
  | .str text, some handler =>
    ssubscribe .sync config.codec (sendCommand config.codec config.order) none [(text, some handler)]
  | .bytes _, some _ => throw (.ofClass .typeError)

/-- `p.sunsubscribe(s_channel)`. -/
def nodeSunsubscribe (name : Name) : EStateM Stop (Session H Remote) Unit :=
  sunsubscribe .sync config.codec (sendCommand config.codec config.order) (some (.name name, []))

/-- `pubsub.get_message(ignore_subscribe_messages=...)`, with or without a message to read. -/
def getMessage (ignoreSubscribeMessages : Bool) : EStateM Stop (Session H Remote) (Option Message) :=
  fun s =>
    if s.pubsub.subscribedEvent && !s.wire.inbox.isEmpty then
      match handleNext config.codec ignoreSubscribeMessages s with
      | .ok (.returned message) s => .ok (some message) s
      | .ok _ s => .ok none s
      | .error e s => .error e s
    else .ok none s

end ShardConfig

namespace ClusterPubSub

/-- A new object. -/
def new (slotsCache : Nat → Option ShardNode) : ClusterPubSub H where
  slotsCache
  base := .new
  nodePubsubMapping := .empty
  pubsubsGenerator := .unstarted
  lastOwner := fun _ => none

variable (config : ShardConfig)

/-- The node pubsubs under their names. -/
def nodePubsubs (p : ClusterPubSub H) : Dict Text (Session H Remote) := p.nodePubsubMapping.items

/-- `cluster.get_node_from_key(key)`. -/
def getNodeFromKey (p : ClusterPubSub H) (key : Name) : Except Exc ShardNode :=
  match config.codec.encode key with
  | .error e => .error e
  | .ok data =>
    match p.slotsCache (keySlot data redisClusterHashSlots) with
    | none => .error { cls := .slotNotCoveredError }
    | some node => .ok node

/-- A node pubsub has changed. -/
def withPubsub (p : ClusterPubSub H) (name : Text) (pubsub : Session H Remote) : ClusterPubSub H :=
  { p with nodePubsubMapping := p.nodePubsubMapping.replace name pubsub }

/-- `_get_node_pubsub`. -/
def getNodePubsub (p : ClusterPubSub H) (node : ShardNode) :
    Except Exc (Session H Remote × ClusterPubSub H) :=
  match p.nodePubsubs.get node.name with
  | some pubsub => .ok (pubsub, p)
  | none =>
    if node.connected then
      .ok (start, { p with
        nodePubsubMapping := p.nodePubsubMapping.insert config.capacity node.name start })
    else .error { cls := .attributeError }

/-- The history of a call on a channel. -/
def noteOwner (p : ClusterPubSub H) (name : Name) (node : ShardNode) : ClusterPubSub H :=
  match config.codec.normalize name with
  | .ok key => { p with lastOwner := Function.update p.lastOwner key (some node.name) }
  | .error _ => p

/-- What `ssubscribe` notes once a node pubsub is subscribed. -/
def noteSubscribed (p : ClusterPubSub H) (name : Name) (pubsub : Session H Remote) :
    Except Stop Unit × ClusterPubSub H :=
  let shards := p.base.shardChannels
  let names := shards.names.update pubsub.pubsub.shardChannels.names
  match config.codec.normalize name with
  | .error e => (.error (.raised e), { p with base.shardChannels := { shards with names } })
  | .ok key =>
    let base := { p.base with shardChannels := { names, pending := shards.pending.filter (· ≠ key) } }
    if pubsub.pubsub.subscribedEvent && !base.subscribedEvent then
      (.ok (), { p with base := { base with subscribedEvent := true, healthCheckResponseCounter := 0 } })
    else (.ok (), { p with base })

/-- One turn of the loop of `ssubscribe`. -/
def ssubscribeOne (p : ClusterPubSub H) (item : Name × Option H) : Except Stop Unit × ClusterPubSub H :=
  match p.getNodeFromKey config item.1 with
  | .error e => (.error (.raised e), p)
  | .ok node =>
    match p.getNodePubsub config node with
    | .error e => (.error (.raised e), p)
    | .ok (pubsub, p) =>
      let p := p.noteOwner config item.1 node
      match config.nodeSsubscribe item.1 item.2 pubsub with
      | .error e pubsub => (.error e, p.withPubsub node.name pubsub)
      | .ok () pubsub => (p.withPubsub node.name pubsub).noteSubscribed config item.1 pubsub

/-- The loop of `ssubscribe`. -/
def ssubscribeEach : List (Name × Option H) → ClusterPubSub H → Except Stop Unit × ClusterPubSub H
  | [], p => (.ok (), p)
  | item :: items, p =>
    match p.ssubscribeOne config item with
    | (.error e, p) => (.error e, p)
    | (.ok (), p) => ssubscribeEach items p

/-- The channels of a call of `ssubscribe`. -/
def subscribing (args : NameArgs) (kwargs : Dict Text (Option H)) : Except Exc (Dict Name (Option H)) :=
  if kwargs.contains selfWord then .error { cls := .typeError }
  else
    match positional .sync { subscribes := true, kind := .shard } args with
    | .error e => .error e
    | .ok names => .ok (newNames names kwargs)

/-- `ssubscribe`. -/
def ssubscribe (p : ClusterPubSub H) (args : NameArgs) (kwargs : Dict Text (Option H)) :
    Except Stop Unit × ClusterPubSub H :=
  match subscribing args kwargs with
  | .error e => (.error (.raised e), p)
  | .ok items => ssubscribeEach config items p

/-- What `sunsubscribe` notes once a node pubsub has sent the command. -/
def notePending (p : ClusterPubSub H) (pubsub : Session H Remote) : ClusterPubSub H :=
  let shards := p.base.shardChannels
  { p with
    base.shardChannels := { shards with
      pending := shards.pending ++
        pubsub.pubsub.shardChannels.pending.filter (· ∉ shards.pending) } }

/-- One turn of the loop of `sunsubscribe`, with the node pubsub that the command is sent on. -/
def sunsubscribeOne (p : ClusterPubSub H) (name : Name) :
    Except Stop Unit × ClusterPubSub H × List (Text × Name) :=
  match p.getNodeFromKey config name with
  | .error e => (.error (.raised e), p, [])
  | .ok node =>
    match p.getNodePubsub config node with
    | .error e => (.error (.raised e), p, [])
    | .ok (pubsub, p) =>
      let p := p.noteOwner config name node
      match config.nodeSunsubscribe name pubsub with
      | .error e pubsub => (.error e, p.withPubsub node.name pubsub, [])
      | .ok () pubsub => (.ok (), (p.withPubsub node.name pubsub).notePending pubsub, [(node.name, name)])

/-- The loop of `sunsubscribe`. -/
def sunsubscribeEach : List Name → ClusterPubSub H →
    Except Stop Unit × ClusterPubSub H × List (Text × Name)
  | [], p => (.ok (), p, [])
  | name :: names, p =>
    match p.sunsubscribeOne config name with
    | (.error e, p, cancelled) => (.error e, p, cancelled)
    | (.ok (), p, cancelled) =>
      let (outcome, p, others) := sunsubscribeEach names p
      (outcome, p, cancelled ++ others)

/-- The channels of a call of `sunsubscribe`. -/
def cancelling (p : ClusterPubSub H) : NameArgs → List Name
  | none => p.base.shardChannels.names.keys
  | some (first, rest) => listOrArgs first rest

/-- A node pubsub was polled. -/
def afterPoll (p : ClusterPubSub H) (pubsubsGenerator : ValuesGenerator) (name : Text)
    (pubsub : Session H Remote) : ClusterPubSub H :=
  { p with pubsubsGenerator }.withPubsub name pubsub

/-- `_sharded_message_generator`, for the turns of its loop that are left. -/
def shardedMessageGenerator : Nat → ClusterPubSub H → ShardReceived × ClusterPubSub H × List Text
  | 0, p => (.message none, p, [])
  | left + 1, p =>
    match p.nodePubsubMapping.nextValue p.pubsubsGenerator with
    | (.error reason, pubsubsGenerator) => (.noValue reason, { p with pubsubsGenerator }, [])
    | (.ok (name, pubsub), pubsubsGenerator) =>
      match config.getMessage false pubsub with
      | .error e pubsub => (.nodeRaised e, p.afterPoll pubsubsGenerator name pubsub, [name])
      | .ok (some message) pubsub =>
        (.message (some message), p.afterPoll pubsubsGenerator name pubsub, [name])
      | .ok none pubsub =>
        let (received, p, polled) := shardedMessageGenerator left (p.afterPoll pubsubsGenerator name pubsub)
        (received, p, name :: polled)

/-- `self.node_pubsub_mapping[target_node.name].get_message(...)`. -/
def targetedMessage (p : ClusterPubSub H) (ignoreSubscribeMessages : Bool) (targetNode : Text) :
    ShardReceived × ClusterPubSub H :=
  match p.nodePubsubs.get targetNode with
  | none => (.noTarget, p)
  | some pubsub =>
    match config.getMessage ignoreSubscribeMessages pubsub with
    | .error e pubsub => (.nodeRaised e, p.withPubsub targetNode pubsub)
    | .ok message pubsub => (.message message, p.withPubsub targetNode pubsub)

/-- `if self.node_pubsub_mapping[node.name].subscribed is False: self.node_pubsub_mapping.pop(node.name)`. -/
def releasePubsub (p : ClusterPubSub H) (node : ShardNode) : Except Exc Unit × ClusterPubSub H :=
  match p.nodePubsubs.get node.name with
  | none => (.error { cls := .keyError }, p)
  | some pubsub =>
    if pubsub.pubsub.subscribedEvent then (.ok (), p)
    else (.ok (), { p with nodePubsubMapping := p.nodePubsubMapping.pop node.name })

/-- What `get_sharded_message` does about a confirmed unsubscription. -/
def noteMessage (p : ClusterPubSub H) (message : Message) : Except Exc Unit × ClusterPubSub H :=
  match message.type, message.channel with
  | .unsubscribe .shard, some channel =>
    if channel ∈ p.base.shardChannels.pending then
      let p := { p with base := p.base.drop .shard channel }
      match p.getNodeFromKey config channel with
      | .error e => (.error e, p)
      | .ok node => p.releasePubsub node
    else (.ok (), p)
  | _, _ => (.ok (), p)

/-- Without subscriptions the event is cleared. -/
def clearEvent (p : ClusterPubSub H) : ClusterPubSub H :=
  if p.base.any then p else { p with base.subscribedEvent := false }

/-- The rest of `get_sharded_message`. -/
def finishMessage (p : ClusterPubSub H) (ignoreSubscribeMessages : Bool) :
    ShardReceived → ShardOutcome × ClusterPubSub H
  | .nodeRaised stop => (.nodeRaised stop, p)
  | .noTarget => (.noTarget, p)
  | .noValue reason => (.noValue reason, p)
  | .message none => (.returned none, p)
  | .message (some message) =>
    match p.noteMessage config message with
    | (.error e, p) => (.noteRaised e, p)
    | (.ok (), p) =>
      if p.base.ignoreSubscribeMessages || ignoreSubscribeMessages then (.returned none, p.clearEvent)
      else (.returned (some message), p.clearEvent)

/-- `get_sharded_message`. -/
def getShardedMessage (p : ClusterPubSub H) (ignoreSubscribeMessages : Bool) :
    Option Text → ClusterPubSub H × ShardReport
  | none =>
    let (received, p, polled) := shardedMessageGenerator config p.nodePubsubMapping.size p
    let (outcome, p) := p.finishMessage config ignoreSubscribeMessages received
    (p, { outcome, polled, cancelled := [] })
  | some targetNode =>
    let (received, p) := p.targetedMessage config ignoreSubscribeMessages targetNode
    let (outcome, p) := p.finishMessage config ignoreSubscribeMessages received
    (p, { outcome, polled := [], cancelled := [] })

/-- How `ssubscribe` and `sunsubscribe` end. -/
def outcomeOf : Except Stop Unit → ShardOutcome
  | .ok () => .done
  | .error stop => .stopped stop

/-- A step, and what is seen of it. -/
def call (p : ClusterPubSub H) : ShardCall H → ClusterPubSub H × ShardReport
  | .ssubscribe args kwargs =>
    let (result, p) := p.ssubscribe config args kwargs
    (p, { outcome := outcomeOf result, polled := [], cancelled := [] })
  | .sunsubscribe args =>
    let (result, p, cancelled) := sunsubscribeEach config (p.cancelling args) p
    (p, { outcome := outcomeOf result, polled := [], cancelled })
  | .getShardedMessage ignoreSubscribeMessages targetNode =>
    p.getShardedMessage config ignoreSubscribeMessages targetNode
  | .refresh slotsCache => ({ p with slotsCache }, { outcome := .done, polled := [], cancelled := [] })
  | .publish node published =>
    let p := match p.nodePubsubs.get node with
      | none => p
      | some pubsub =>
        p.withPubsub node { pubsub with wire.inbox := pubsub.wire.inbox ++ [published.push] }
    (p, { outcome := .done, polled := [], cancelled := [] })
  | .evict node data =>
    let p := match p.nodePubsubs.get node with
      | none => p
      | some pubsub =>
        if (pubsub.wire.server.held .shard).contains data then
          p.withPubsub node { pubsub with wire := pubsub.wire.unsubscribeOne .shard data }
        else p
    (p, { outcome := .done, polled := [], cancelled := [] })

end ClusterPubSub

/-! ## Reading a message -/

/-- A message that is returned is the one that was read. -/
theorem handleMessage_returned {p : PubSub H} {response : Push Name} {ignoreSubscribeMessages : Bool}
    {message : Message} (returned : (p.handleMessage response ignoreSubscribeMessages).2 = .returned message) :
    response.toMessage = some message := by
  unfold PubSub.handleMessage at returned
  dsimp only at returned
  split at returned
  · cases returned
  · cases returned
  · next shown _ =>
    rw [shown]
    split at returned
    · split at returned <;> cases returned
      rfl
    · split at returned <;> cases returned
      rfl
    · cases returned
      rfl

/-- Nothing is read, or the next message is: it is dropped if it cannot be decoded, and noted otherwise. -/
theorem ShardConfig.getMessage_cases (config : ShardConfig) (ignoreSubscribeMessages : Bool)
    (s : Session H Remote) :
    config.getMessage ignoreSubscribeMessages s = .ok none s ∨
      ∃ push rest, s.wire.inbox = push :: rest ∧
        ((∃ e, push.decode config.codec = .error e ∧
            config.getMessage ignoreSubscribeMessages s = .error e { s with wire.inbox := rest }) ∨
          ∃ response message, push.decode config.codec = .ok response ∧
            config.getMessage ignoreSubscribeMessages s =
              .ok message { pubsub := s.pubsub.noteMessage response, wire := { s.wire with inbox := rest } } ∧
            ∀ shown, message = some shown → response.toMessage = some shown) := by
  unfold getMessage
  by_cases idle : (s.pubsub.subscribedEvent && !s.wire.inbox.isEmpty) = true
  · rw [if_pos idle]
    right
    cases inbox : s.wire.inbox with
    | nil => simp [inbox] at idle
    | cons push rest =>
      refine ⟨push, rest, rfl, ?_⟩
      cases decoded : push.decode config.codec with
      | error e =>
        refine .inl ⟨e, rfl, ?_⟩
        rw [handleNext, Interruptible.bind_of_error (readMessage_error inbox decoded)]
      | ok response =>
        have handled : handleNext config.codec ignoreSubscribeMessages s =
            .ok (s.pubsub.handleMessage response ignoreSubscribeMessages).2
              { pubsub := s.pubsub.noteMessage response, wire := { s.wire with inbox := rest } } := by
          rw [handleNext, Interruptible.bind_of_ok (readMessage_ok inbox decoded), handleResponse, handleMessage_fst]
        rw [handled]
        cases becomes : (s.pubsub.handleMessage response ignoreSubscribeMessages).2 with
        | returned message =>
          refine .inr ⟨response, some message, rfl, rfl, fun shown same => ?_⟩
          cases same
          exact handleMessage_returned becomes
        | ignored =>
          refine .inr ⟨response, none, rfl, rfl, fun shown same => ?_⟩
          cases same
        | invoked handler message =>
          refine .inr ⟨response, none, rfl, rfl, fun shown same => ?_⟩
          cases same
  · rw [if_neg idle]
    exact .inl rfl

end RedisPy.Channels

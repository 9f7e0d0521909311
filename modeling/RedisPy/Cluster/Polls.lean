import RedisPy.Cluster.PubSub

/-!
# Polling

The node pubsubs are polled in turn, as long as the generator goes on. It goes on while no node
pubsub comes or goes in the middle of a round, and the message that it finds is processed when the
owner of the slot has a node pubsub.
-/

namespace RedisPy.Channels

open Runs Turns

variable {H : Type}

/-- `get_sharded_message` raises an exception of its own. -/
def ShardOutcome.Own : ShardOutcome → Prop
  | .noTarget | .noValue _ | .noteRaised _ => True
  | _ => False

namespace ClusterPubSub

variable (config : ShardConfig)

/-- The names in `node_pubsub_mapping`. -/
def names (p : ClusterPubSub H) : List Text := p.nodePubsubs.keys

/-- The state after a step. -/
def step (p : ClusterPubSub H) (call : ShardCall H) : ClusterPubSub H := (p.call config call).1

/-- The node pubsubs that a run polls in turn. -/
def polledIn (p : ClusterPubSub H) (calls : List (ShardCall H)) : List Text :=
  (shown (call config) p calls).flatMap (·.polled)

/-- In a run that keeps the set of node pubsubs, none is polled two times more than another. -/
def Fair (p : ClusterPubSub H) (calls : List (ShardCall H)) : Prop :=
  Always (step config) (fun q => ∀ name, name ∈ q.names ↔ name ∈ p.names) p calls →
    ∀ name ∈ p.names, ∀ other ∈ p.names,
      (p.polledIn config calls).count name ≤ (p.polledIn config calls).count other + 1

/-- No node pubsub came or went in this round of the generator, and when an unsubscription that is
pending comes next, the owner of the slot has a node pubsub. -/
structure Timely (p : ClusterPubSub H) : Prop where
  undisturbed : p.nodePubsubMapping.size = 0 ∨ p.nodePubsubMapping.Undisturbed p.pubsubsGenerator
  owned : ∀ item ∈ p.nodePubsubs, ∀ push ∈ item.2.wire.inbox.head?,
    ∀ key ∈ p.base.shardChannels.pending, removal config.codec .shard push = some key →
      ∃ node, p.getNodeFromKey config key = .ok node ∧ node.name ∈ p.names

/-- A step that is no poll, or a poll at such a time. -/
def TimelyCall (p : ClusterPubSub H) : ShardCall H → Prop
  | .getShardedMessage _ none => p.Timely config
  | _ => True

/-- No node pubsub has a message to read. -/
def Silent (p : ClusterPubSub H) : Prop := ∀ item ∈ p.nodePubsubs, item.2.wire.inbox = []

/-- A poll raises no exception of its own. -/
def FinePoll (p : ClusterPubSub H) : ShardCall H → Prop
  | .getShardedMessage ignoreSubscribeMessages none =>
    ¬(p.call config (.getShardedMessage ignoreSubscribeMessages none)).2.outcome.Own
  | _ => True

variable {config}

/-! ## The turns -/

/-- Node pubsubs were polled in turn. -/
structure Turned (p q : ClusterPubSub H) (polled : List Text) : Prop where
  layout : q.nodePubsubMapping.layout = p.nodePubsubMapping.layout
  inTurn : InTurn p.names (p.nodePubsubMapping.turn p.pubsubsGenerator) polled
  next : q.pubsubsGenerator = .finished ∨
    q.nodePubsubMapping.turn q.pubsubsGenerator % p.names.length =
      (p.nodePubsubMapping.turn p.pubsubsGenerator + polled.length) % p.names.length
  finished : p.pubsubsGenerator = .finished → polled = [] ∧ q.pubsubsGenerator = .finished

/-- Objects whose dictionaries have one layout have the same names. -/
theorem names_congr {p q : ClusterPubSub H}
    (same : p.nodePubsubMapping.layout = q.nodePubsubMapping.layout) : p.names = q.names := by
  unfold names nodePubsubs
  rw [Table.keys_eq, same, Table.keys_eq]

/-- A node pubsub that changes keeps its place. -/
theorem layout_withPubsub (p : ClusterPubSub H) (name : Text) (pubsub : Session H Remote) :
    (p.withPubsub name pubsub).nodePubsubMapping.layout = p.nodePubsubMapping.layout :=
  Table.layout_replace _ _ _

/-- The node pubsubs after one changed. -/
theorem nodePubsubs_withPubsub (p : ClusterPubSub H) (name : Text) (pubsub : Session H Remote) :
    (p.withPubsub name pubsub).nodePubsubs =
      p.nodePubsubs.map fun item => if item.1 = name then (item.1, pubsub) else item :=
  Table.items_replace _ _ _

/-- There are as many names as node pubsubs. -/
theorem size_eq_names (p : ClusterPubSub H) : p.nodePubsubMapping.size = p.names.length := Table.size_eq _

/-- The name at a place. -/
theorem names_getElem {p : ClusterPubSub H} {place : Nat} {item : Text × Session H Remote}
    (there : p.nodePubsubs[place]? = some item) : p.names[place]? = some item.1 := by
  unfold names Dict.keys
  rw [List.getElem?_map, there]
  rfl

/-- Nothing was polled. -/
theorem Turned.none {p q : ClusterPubSub H}
    (layout : q.nodePubsubMapping.layout = p.nodePubsubMapping.layout)
    (generator : q.pubsubsGenerator = p.pubsubsGenerator) : Turned p q [] where
  layout := layout
  inTurn := trivial
  next := .inr (by rw [Table.turn_congr layout, generator]; rfl)
  finished := fun finished => ⟨rfl, generator.trans finished⟩

/-- Node pubsubs were polled, and then others. -/
theorem Turned.trans {p q r : ClusterPubSub H} {first second : List Text} (one : Turned p q first)
    (two : Turned q r second) : Turned p r (first ++ second) where
  layout := two.layout.trans one.layout
  inTurn := by
    refine inTurn_append.mpr ⟨one.inTurn, ?_⟩
    rcases one.next with finished | next
    · rw [(two.finished finished).1]
      trivial
    · rw [← names_congr one.layout] at next ⊢
      exact two.inTurn.congr next
  next := by
    rcases one.next with finished | next
    · exact .inl (two.finished finished).2
    · refine two.next.imp id fun later => ?_
      rw [names_congr one.layout] at later
      rw [later, List.length_append, ← Nat.add_assoc, Nat.add_mod, next, ← Nat.add_mod]
  finished := by
    intro finished
    obtain ⟨none, ended⟩ := one.finished finished
    obtain ⟨nothing, done⟩ := two.finished ended
    exact ⟨by rw [none, nothing]; rfl, done⟩

/-- A node pubsub that is polled keeps its place. -/
theorem layout_afterPoll (p : ClusterPubSub H) (pubsubsGenerator : ValuesGenerator) (name : Text)
    (pubsub : Session H Remote) :
    (p.afterPoll pubsubsGenerator name pubsub).nodePubsubMapping.layout = p.nodePubsubMapping.layout :=
  layout_withPubsub _ name pubsub

/-- The node pubsubs after one was polled. -/
theorem nodePubsubs_afterPoll (p : ClusterPubSub H) (pubsubsGenerator : ValuesGenerator) (name : Text)
    (pubsub : Session H Remote) :
    (p.afterPoll pubsubsGenerator name pubsub).nodePubsubs =
      p.nodePubsubs.map fun item => if item.1 = name then (item.1, pubsub) else item :=
  nodePubsubs_withPubsub _ name pubsub

/-- The generator gave a node pubsub, which was polled. -/
theorem Turned.one {p : ClusterPubSub H} {name : Text} {pubsub after : Session H Remote}
    {pubsubsGenerator : ValuesGenerator}
    (given : p.nodePubsubMapping.nextValue p.pubsubsGenerator = (.ok (name, pubsub), pubsubsGenerator)) :
    Turned p (p.afterPoll pubsubsGenerator name after) [name] := by
  have gives := Table.nextValue_ok given
  have layout := p.layout_afterPoll pubsubsGenerator name after
  have length := p.size_eq_names
  refine ⟨layout, ⟨?_, trivial⟩, .inr ?_, fun finished => ?_⟩
  · rw [← length]
    exact names_getElem (show p.nodePubsubs[_]? = _ from gives.item)
  · rw [Table.turn_congr layout, List.length_singleton]
    show p.nodePubsubMapping.turn pubsubsGenerator % _ = _
    rw [gives.turn, length, Nat.mod_add_mod]
  · rw [finished] at given
    cases given

/-- The generator gave nothing. -/
theorem Turned.over {p : ClusterPubSub H} {reason : NoValue} {pubsubsGenerator : ValuesGenerator}
    (given : p.nodePubsubMapping.nextValue p.pubsubsGenerator = (.error reason, pubsubsGenerator)) :
    Turned p { p with pubsubsGenerator } [] where
  layout := rfl
  inTurn := trivial
  next := .inl (Table.nextValue_error given)
  finished := fun _ => ⟨rfl, Table.nextValue_error given⟩

variable (config) in
/-- The loop polls in turn. -/
theorem turned_shardedMessageGenerator (left : Nat) (p : ClusterPubSub H) :
    Turned p (shardedMessageGenerator config left p).2.1 (shardedMessageGenerator config left p).2.2 := by
  induction left generalizing p with
  | zero => exact Turned.none rfl rfl
  | succ left ih =>
    rw [shardedMessageGenerator]
    split
    · next reason generator given => exact Turned.over given
    · next name pubsub generator given =>
      split
      · exact Turned.one given
      · exact Turned.one given
      · exact (Turned.one given).trans (ih _)

/-! ## The set of node pubsubs -/

/-- Node pubsubs may have come, and the generator is where it was. -/
structure Grown (p q : ClusterPubSub H) : Prop where
  layout : q.nodePubsubMapping.layout = p.nodePubsubMapping.layout ∨ ∃ name ∈ q.names, name ∉ p.names
  kept : ∀ name ∈ p.names, name ∈ q.names
  unique : p.names.Nodup → q.names.Nodup
  generator : q.pubsubsGenerator = p.pubsubsGenerator

/-- The layout and the generator are what they were. -/
theorem Grown.same {p q : ClusterPubSub H}
    (layout : q.nodePubsubMapping.layout = p.nodePubsubMapping.layout)
    (generator : q.pubsubsGenerator = p.pubsubsGenerator) : Grown p q where
  layout := .inl layout
  kept := fun _ member => (names_congr layout) ▸ member
  unique := fun unique => (names_congr layout) ▸ unique
  generator := generator

/-- Node pubsubs come, and then others. -/
theorem Grown.trans {p q r : ClusterPubSub H} (one : Grown p q) (two : Grown q r) : Grown p r where
  layout := by
    rcases one.layout with same | ⟨name, came, new⟩
    · rw [← same, ← names_congr same]
      exact two.layout
    · exact .inr ⟨name, two.kept name came, new⟩
  kept := fun name member => two.kept name (one.kept name member)
  unique := fun unique => two.unique (one.unique unique)
  generator := two.generator.trans one.generator

/-- A node pubsub is there, or is a new one. -/
theorem getNodePubsub_cases {p q : ClusterPubSub H} {node : ShardNode} {pubsub : Session H Remote}
    (given : p.getNodePubsub config node = .ok (pubsub, q)) :
    (p.nodePubsubs.get node.name = some pubsub ∧ q = p) ∨
      (node.name ∉ p.names ∧ pubsub = start ∧
        q = { p with nodePubsubMapping := p.nodePubsubMapping.insert config.capacity node.name start }) := by
  unfold getNodePubsub at given
  split at given
  · next found =>
    cases given
    exact .inl ⟨found, rfl⟩
  · next missing =>
    split at given
    · cases given
      refine .inr ⟨fun member => ?_, rfl, rfl⟩
      have stored := Dict.isSome_get_iff.mpr member
      rw [missing] at stored
      cases stored
    · cases given

/-- Looking up a node pubsub may add it. -/
theorem grown_getNodePubsub {p q : ClusterPubSub H} {node : ShardNode} {pubsub : Session H Remote}
    (given : p.getNodePubsub config node = .ok (pubsub, q)) : Grown p q := by
  rcases getNodePubsub_cases given with ⟨-, rfl⟩ | ⟨new, -, rfl⟩
  · exact Grown.same rfl rfl
  · have grown : (p.nodePubsubMapping.insert config.capacity node.name start).items.keys =
        p.names ++ [node.name] := by
      rw [Table.items_insert, Dict.keys, List.map_append]
      rfl
    refine ⟨.inr ⟨node.name, ?_, new⟩, fun name member => ?_, fun unique => ?_, rfl⟩
    · show node.name ∈ (p.nodePubsubMapping.insert config.capacity node.name start).items.keys
      rw [grown]
      exact List.mem_append_right _ List.mem_cons_self
    · show name ∈ (p.nodePubsubMapping.insert config.capacity node.name start).items.keys
      rw [grown]
      exact List.mem_append_left _ member
    · show (p.nodePubsubMapping.insert config.capacity node.name start).items.keys.Nodup
      rw [grown]
      exact List.nodup_append_comm.mp (List.nodup_cons.mpr ⟨new, unique⟩)

variable (config) in
/-- The history is about nothing else. -/
@[simp] theorem nodePubsubMapping_noteOwner (p : ClusterPubSub H) (name : Name) (node : ShardNode) :
    (p.noteOwner config name node).nodePubsubMapping = p.nodePubsubMapping := by
  unfold noteOwner
  split <;> rfl

variable (config) in
/-- The history is about nothing else. -/
@[simp] theorem pubsubsGenerator_noteOwner (p : ClusterPubSub H) (name : Name) (node : ShardNode) :
    (p.noteOwner config name node).pubsubsGenerator = p.pubsubsGenerator := by
  unfold noteOwner
  split <;> rfl

/-- A node pubsub that changes stays where it is. -/
theorem grown_withPubsub (p : ClusterPubSub H) (name : Text) (pubsub : Session H Remote) :
    Grown p (p.withPubsub name pubsub) := Grown.same (p.layout_withPubsub name pubsub) rfl

variable (config) in
/-- The notes are about nothing else. -/
theorem grown_noteSubscribed (p : ClusterPubSub H) (name : Name) (pubsub : Session H Remote) :
    Grown p (p.noteSubscribed config name pubsub).2 := by
  unfold noteSubscribed
  dsimp only
  split
  · exact Grown.same rfl rfl
  · split
    · exact Grown.same rfl rfl
    · exact Grown.same rfl rfl

variable (config) in
/-- One turn of `ssubscribe`. -/
theorem grown_ssubscribeOne (p : ClusterPubSub H) (item : Name × Option H) :
    Grown p (p.ssubscribeOne config item).2 := by
  unfold ssubscribeOne
  split
  · exact Grown.same rfl rfl
  · next node _ =>
    split
    · exact Grown.same rfl rfl
    · next pubsub q given =>
      have noted : Grown p (q.noteOwner config item.1 node) :=
        (grown_getNodePubsub given).trans (Grown.same (by simp) (by simp))
      dsimp only
      split
      · exact noted.trans (grown_withPubsub _ _ _)
      · exact (noted.trans (grown_withPubsub _ _ _)).trans (grown_noteSubscribed config _ _ _)

variable (config) in
/-- The loop of `ssubscribe`. -/
theorem grown_ssubscribeEach (items : List (Name × Option H)) (p : ClusterPubSub H) :
    Grown p (ssubscribeEach config items p).2 := by
  induction items generalizing p with
  | nil => exact Grown.same rfl rfl
  | cons item items ih =>
    have one := grown_ssubscribeOne config p item
    rw [ssubscribeEach]
    split
    · next ran =>
      rw [ran] at one
      exact one
    · next ran =>
      rw [ran] at one
      exact one.trans (ih _)

variable (config) in
/-- One turn of `sunsubscribe`. -/
theorem grown_sunsubscribeOne (p : ClusterPubSub H) (name : Name) :
    Grown p (p.sunsubscribeOne config name).2.1 := by
  unfold sunsubscribeOne
  split
  · exact Grown.same rfl rfl
  · next node _ =>
    split
    · exact Grown.same rfl rfl
    · next pubsub q given =>
      have noted : Grown p (q.noteOwner config name node) :=
        (grown_getNodePubsub given).trans (Grown.same (by simp) (by simp))
      dsimp only
      split
      · exact noted.trans (grown_withPubsub _ _ _)
      · exact (noted.trans (grown_withPubsub _ _ _)).trans (Grown.same rfl rfl)

variable (config) in
/-- The loop of `sunsubscribe`. -/
theorem grown_sunsubscribeEach (names : List Name) (p : ClusterPubSub H) :
    Grown p (sunsubscribeEach config names p).2.1 := by
  induction names generalizing p with
  | nil => exact Grown.same rfl rfl
  | cons name names ih =>
    have one := grown_sunsubscribeOne config p name
    rw [sunsubscribeEach]
    split
    · next ran =>
      rw [ran] at one
      exact one
    · next ran =>
      rw [ran] at one
      exact one.trans (ih _)

/-- A node pubsub may have gone, and the generator is where it was. -/
structure Shrunk (p q : ClusterPubSub H) : Prop where
  layout : q.nodePubsubMapping.layout = p.nodePubsubMapping.layout ∨ ∃ name ∈ p.names, name ∉ q.names
  unique : p.names.Nodup → q.names.Nodup
  generator : q.pubsubsGenerator = p.pubsubsGenerator

/-- A node pubsub without subscriptions goes. -/
theorem shrunk_releasePubsub (p : ClusterPubSub H) (node : ShardNode) : Shrunk p (p.releasePubsub node).2 := by
  unfold releasePubsub
  split
  · exact ⟨.inl rfl, id, rfl⟩
  · next pubsub found =>
    split
    · exact ⟨.inl rfl, id, rfl⟩
    · have stored : (p.nodePubsubs.get node.name).isSome = true := Option.isSome_iff_exists.mpr ⟨pubsub, found⟩
      have left : (p.nodePubsubMapping.pop node.name).items =
        p.nodePubsubMapping.items.filter fun item => item.1 ≠ node.name := Table.items_pop _ _
      refine ⟨.inr ⟨node.name, Dict.isSome_get_iff.mp stored, fun member => ?_⟩, fun unique => ?_, rfl⟩
      · obtain ⟨item, still, here⟩ := List.mem_map.mp member
        replace still : item ∈ (p.nodePubsubMapping.pop node.name).items := still
        rw [left] at still
        exact of_decide_eq_true (List.mem_filter.mp still).2 here
      · show (p.nodePubsubMapping.pop node.name).items.keys.Nodup
        rw [left]
        exact (List.filter_sublist.map _).nodup unique

variable (config) in
/-- The notes about a message. -/
theorem shrunk_noteMessage (p : ClusterPubSub H) (message : Message) :
    Shrunk p (p.noteMessage config message).2 := by
  have same (base : PubSub H) : Shrunk p { p with base } := ⟨.inl rfl, id, rfl⟩
  unfold noteMessage
  split
  · next channel _ _ =>
    split
    · dsimp only
      split
      · exact same _
      · next node _ =>
        have released := shrunk_releasePubsub { p with base := p.base.drop .shard channel } node
        exact ⟨released.layout, released.unique, released.generator⟩
    · exact same _
  · exact same _

variable (config) in
/-- The rest of `get_sharded_message`. -/
theorem shrunk_finishMessage (p : ClusterPubSub H) (ignoreSubscribeMessages : Bool) (received : ShardReceived) :
    Shrunk p (p.finishMessage config ignoreSubscribeMessages received).2 := by
  unfold finishMessage
  split
  · exact ⟨.inl rfl, id, rfl⟩
  · exact ⟨.inl rfl, id, rfl⟩
  · exact ⟨.inl rfl, id, rfl⟩
  · exact ⟨.inl rfl, id, rfl⟩
  · next message =>
    have noted := shrunk_noteMessage config p message
    split
    · next ran =>
      rw [ran] at noted
      exact noted
    · next q ran =>
      rw [ran] at noted
      have cleared : Shrunk p q.clearEvent := by
        unfold clearEvent
        split
        · exact noted
        · exact ⟨noted.layout, noted.unique, noted.generator⟩
      split <;> exact cleared

variable (config) in
/-- A step polls in turn, and then node pubsubs come or go. -/
theorem call_cases (p : ClusterPubSub H) (call : ShardCall H) :
    ∃ q, Turned p q (p.call config call).2.polled ∧
      (Grown q (p.step config call) ∨ Shrunk q (p.step config call)) := by
  have grown {q : ClusterPubSub H} (grown : Grown p q) :
      ∃ r, Turned p r [] ∧ (Grown r q ∨ Shrunk r q) := ⟨p, Turned.none rfl rfl, .inl grown⟩
  cases call with
  | ssubscribe args kwargs =>
    refine grown ?_
    show Grown p (p.ssubscribe config args kwargs).2
    unfold ssubscribe
    split
    · exact Grown.same rfl rfl
    · exact grown_ssubscribeEach config _ p
  | sunsubscribe args => exact grown (grown_sunsubscribeEach config _ p)
  | getShardedMessage ignoreSubscribeMessages targetNode =>
    cases targetNode with
    | none =>
      exact ⟨_, turned_shardedMessageGenerator config p.nodePubsubMapping.size p,
        .inr (shrunk_finishMessage config _ ignoreSubscribeMessages _)⟩
    | some targetNode =>
      refine ⟨_, ?_, .inr (shrunk_finishMessage config (p.targetedMessage config ignoreSubscribeMessages targetNode).2
        ignoreSubscribeMessages _)⟩
      unfold targetedMessage
      split
      · exact Turned.none rfl rfl
      · split <;> exact Turned.none (p.layout_withPubsub _ _) rfl
  | refresh slotsCache => exact grown (Grown.same rfl rfl)
  | publish node published =>
    refine grown ?_
    unfold step ClusterPubSub.call
    dsimp only
    split
    · exact Grown.same rfl rfl
    · exact grown_withPubsub _ _ _
  | evict node data =>
    refine grown ?_
    unfold step ClusterPubSub.call
    dsimp only
    split
    · exact Grown.same rfl rfl
    · split
      · exact grown_withPubsub _ _ _
      · exact Grown.same rfl rfl

variable (config) in
/-- No name is used twice. -/
theorem nodup_step {p : ClusterPubSub H} (unique : p.names.Nodup) (call : ShardCall H) :
    (p.step config call).names.Nodup := by
  obtain ⟨q, turned, changed⟩ := call_cases config p call
  rw [← names_congr turned.layout] at unique
  rcases changed with grown | shrunk
  · exact grown.unique unique
  · exact shrunk.unique unique

/-- When the same node pubsubs are there after a step, they were polled in turn. -/
theorem turned_call {p : ClusterPubSub H} {call : ShardCall H}
    (same : ∀ name, name ∈ (p.step config call).names ↔ name ∈ p.names) :
    Turned p (p.step config call) (p.call config call).2.polled := by
  obtain ⟨q, turned, changed⟩ := call_cases config p call
  rw [← names_congr turned.layout] at same
  have kept : Turned q (p.step config call) [] := by
    rcases changed with grown | shrunk
    · refine Turned.none ?_ grown.generator
      rcases grown.layout with layout | ⟨name, came, new⟩
      · exact layout
      · exact absurd ((same name).mp came) new
    · refine Turned.none ?_ shrunk.generator
      rcases shrunk.layout with layout | ⟨name, there, gone⟩
      · exact layout
      · exact absurd ((same name).mpr there) gone
  rw [← List.append_nil (p.call config call).2.polled]
  exact turned.trans kept

/-- A run that keeps the set of node pubsubs polls them in turn. -/
theorem inTurn_polledIn {p : ClusterPubSub H} {calls : List (ShardCall H)}
    (same : Always (step config) (fun q => ∀ name, name ∈ q.names ↔ name ∈ p.names) p calls) :
    ∃ q, Turned p q (p.polledIn config calls) := by
  induction calls generalizing p with
  | nil => exact ⟨p, Turned.none rfl rfl⟩
  | cons call calls ih =>
    obtain ⟨-, later⟩ := always_cons.mp same
    have next : ∀ name, name ∈ (p.step config call).names ↔ name ∈ p.names := later [] calls rfl
    have one := turned_call next
    obtain ⟨q, rest⟩ := ih fun earlier others split name =>
      (later earlier others split name).trans (next name).symm
    exact ⟨q, one.trans rest⟩

/-- Polling is fair. -/
theorem fair {p : ClusterPubSub H} (unique : p.names.Nodup) (calls : List (ShardCall H)) :
    p.Fair config calls := by
  intro same name member other also
  obtain ⟨q, turned⟩ := inTurn_polledIn same
  exact turned.inTurn.count_le unique member also

/-! ## Polls without exceptions -/

/-- A message that is returned was the next one to read. -/
theorem getMessage_some {ignoreSubscribeMessages : Bool} {pubsub after : Session H Remote} {message : Message}
    (read : config.getMessage ignoreSubscribeMessages pubsub = .ok (some message) after) :
    ∃ push ∈ pubsub.wire.inbox.head?, ∃ response, push.decode config.codec = .ok response ∧
      response.toMessage = some message := by
  rcases config.getMessage_cases ignoreSubscribeMessages pubsub with
    none | ⟨push, rest, inbox, ⟨e, -, failed⟩ | ⟨response, found, decoded, ran, shown⟩⟩
  · rw [none] at read
    cases read
  · rw [failed] at read
    cases read
  · rw [ran] at read
    cases read
    refine ⟨push, ?_, response, decoded, shown message rfl⟩
    rw [inbox]
    rfl

/-- A confirmed unsubscription is about the channel of its message. -/
theorem removal_of_message {push : Push Bytes} {response : Push Name} {message : Message} {channel : Name}
    (decoded : push.decode config.codec = .ok response) (shown : response.toMessage = some message)
    (type : message.type = .unsubscribe .shard) (about : message.channel = some channel) :
    removal config.codec .shard push = some channel := by
  rw [removal_of_ok decoded]
  cases response with
  | unsubscribed kind name count =>
    cases shown
    cases type
    cases about
    rfl
  | subscribed => cases shown; cases type
  | message => cases shown; cases type
  | pmessage => cases shown; cases type
  | smessage => cases shown; cases type
  | pong => cases shown; cases type
  | wrongArity => cases shown

/-- What polling leaves alone. -/
structure Polled (p q : ClusterPubSub H) : Prop where
  slotsCache : q.slotsCache = p.slotsCache
  base : q.base = p.base
  lastOwner : q.lastOwner = p.lastOwner

variable (config) in
/-- The loop leaves the bookkeeping and the slots alone. -/
theorem polled_shardedMessageGenerator (left : Nat) (p : ClusterPubSub H) :
    Polled p (shardedMessageGenerator config left p).2.1 := by
  induction left generalizing p with
  | zero => exact ⟨rfl, rfl, rfl⟩
  | succ left ih =>
    rw [shardedMessageGenerator]
    split
    · exact ⟨rfl, rfl, rfl⟩
    · split
      · exact ⟨rfl, rfl, rfl⟩
      · exact ⟨rfl, rfl, rfl⟩
      · next name pubsub generator _ _ after _ =>
        have rest := ih (p.afterPoll generator name after)
        exact ⟨rest.slotsCache, rest.base, rest.lastOwner⟩

variable (config) in
/-- The loop has no target. -/
theorem shardedMessageGenerator_noTarget (left : Nat) (p : ClusterPubSub H) :
    (shardedMessageGenerator config left p).1 ≠ .noTarget := by
  induction left generalizing p with
  | zero => nofun
  | succ left ih =>
    rw [shardedMessageGenerator]
    split
    · nofun
    · split
      · nofun
      · nofun
      · exact ih _

variable (config) in
/-- While it is undisturbed, the generator gives a node pubsub in every turn of the loop. -/
theorem shardedMessageGenerator_undisturbed {left : Nat} {p : ClusterPubSub H}
    (undisturbed : left = 0 ∨ p.nodePubsubMapping.size ≠ 0 ∧ p.nodePubsubMapping.Undisturbed p.pubsubsGenerator)
    (reason : NoValue) : (shardedMessageGenerator config left p).1 ≠ .noValue reason := by
  induction left generalizing p with
  | zero => nofun
  | succ left ih =>
    obtain ⟨some, calm⟩ := undisturbed.resolve_left (Nat.succ_ne_zero left)
    obtain ⟨item, generator, given, kept⟩ := Table.nextValue_undisturbed some calm
    rw [shardedMessageGenerator, given]
    dsimp only
    split
    · nofun
    · nofun
    · next after _ =>
      have layout := p.layout_afterPoll generator item.1 after
      refine ih (.inr ⟨?_, (Table.undisturbed_congr layout generator).mpr kept⟩)
      rw [Table.size_eq] at some ⊢
      rwa [Table.keys_eq, layout, ← Table.keys_eq]

/-- Nothing is in two places less than a round apart. -/
theorem mod_add_ne {place ahead length : Nat} (some : 0 < ahead) (short : ahead < length) :
    (place % length + ahead) % length ≠ place % length := by
  have inside := Nat.mod_lt place (show 0 < length by omega)
  rcases Nat.lt_or_ge (place % length + ahead) length with within | beyond
  · rw [Nat.mod_eq_of_lt within]
    omega
  · rw [Nat.mod_eq_sub_mod beyond, Nat.mod_eq_of_lt (by omega)]
    omega

variable (config) in
/-- A message that the loop finds was the next one of a node pubsub. -/
theorem shardedMessageGenerator_message {left : Nat} {p : ClusterPubSub H} (unique : p.names.Nodup)
    (once : left ≤ p.names.length) {message : Message}
    (found : (shardedMessageGenerator config left p).1 = .message (some message)) :
    ∃ turn < left, ∃ name pubsub after,
      p.nodePubsubs[(p.nodePubsubMapping.turn p.pubsubsGenerator + turn) % p.names.length]? = some (name, pubsub) ∧
        config.getMessage false pubsub = .ok (some message) after := by
  induction left generalizing p with
  | zero => cases found
  | succ left ih =>
    rw [shardedMessageGenerator] at found
    cases given : p.nodePubsubMapping.nextValue p.pubsubsGenerator with
    | mk value generator =>
      rw [given] at found
      cases value with
      | error reason => cases found
      | ok item =>
        obtain ⟨name, pubsub⟩ := item
        have gives := Table.nextValue_ok given
        rw [p.size_eq_names] at gives
        dsimp only at found
        split at found
        · cases found
        · next read =>
          cases found
          refine ⟨0, Nat.succ_pos left, name, pubsub, _, gives.item, read⟩
        · next after _ =>
          have layout := p.layout_afterPoll generator name after
          have same := names_congr layout
          obtain ⟨turn, early, other, session, last, there, read⟩ :=
            ih (by rwa [same]) (by rw [same]; omega) found
          -- the other node pubsubs are what they were
          rw [same, Table.turn_congr layout, show (p.afterPoll generator name after).pubsubsGenerator = generator from rfl,
            gives.turn, Nat.add_assoc] at there
          have apart : (p.nodePubsubMapping.turn p.pubsubsGenerator % p.names.length + (1 + turn)) % p.names.length ≠
            p.nodePubsubMapping.turn p.pubsubsGenerator % p.names.length := mod_add_ne (by omega) (by omega)
          refine ⟨turn + 1, by omega, other, session, last, ?_, read⟩
          rw [nodePubsubs_afterPoll, List.getElem?_map] at there
          obtain ⟨item, here, became⟩ := Option.map_eq_some_iff.mp there
          have differs : item.1 ≠ name := by
            intro equal
            have first := names_getElem (show p.nodePubsubs[_]? = _ from gives.item)
            have second := names_getElem here
            rw [equal] at second
            exact apart ((List.getElem?_inj (List.getElem?_eq_some_iff.mp second).1 unique).mp
              (second.trans first.symm))
          rw [if_neg differs] at became
          rw [← became, ← here, ← Nat.mod_add_mod, Nat.add_comm 1 turn]

variable (config) in
/-- The owner of a slot is what the slot table says. -/
theorem getNodeFromKey_congr {p q : ClusterPubSub H} (same : q.slotsCache = p.slotsCache) (key : Name) :
    q.getNodeFromKey config key = p.getNodeFromKey config key := by
  unfold getNodeFromKey
  rw [same]

/-- A node pubsub that is there can be asked for its subscriptions. -/
theorem releasePubsub_ok {p : ClusterPubSub H} {node : ShardNode} (there : node.name ∈ p.names) :
    (p.releasePubsub node).1 = .ok () := by
  obtain ⟨pubsub, found⟩ := Option.isSome_iff_exists.mp (Dict.isSome_get_iff.mpr there)
  unfold releasePubsub
  rw [found]
  dsimp only
  split <;> rfl

/-- A message is noted when the owner of the slot of a pending channel has a node pubsub. -/
theorem noteMessage_ok {p : ClusterPubSub H} {message : Message}
    (owned : ∀ channel ∈ p.base.shardChannels.pending, message.type = .unsubscribe .shard →
      message.channel = some channel → ∃ node, p.getNodeFromKey config channel = .ok node ∧ node.name ∈ p.names) :
    (p.noteMessage config message).1 = .ok () := by
  unfold noteMessage
  split
  · next channel type about =>
    split
    · next pending =>
      obtain ⟨node, owner, there⟩ := owned channel pending type about
      have still : getNodeFromKey config { p with base := p.base.drop .shard channel } channel = .ok node :=
        (getNodeFromKey_congr config rfl channel).trans owner
      dsimp only
      rw [still]
      exact releasePubsub_ok there
    · rfl
  · rfl

/-- After a message was noted, it is returned, or nothing is. -/
theorem finishMessage_noted {p : ClusterPubSub H} {message : Message}
    (noted : (p.noteMessage config message).1 = .ok ()) (ignoreSubscribeMessages : Bool) :
    ∃ shown, (p.finishMessage config ignoreSubscribeMessages (.message (some message))).1 = .returned shown := by
  unfold finishMessage
  dsimp only
  split
  · next ran =>
    rw [ran] at noted
    cases noted
  · split
    · exact ⟨none, rfl⟩
    · exact ⟨some message, rfl⟩

/-- A poll at such a time raises no exception of its own. -/
theorem Timely.finePoll {p : ClusterPubSub H} (timely : p.Timely config) (unique : p.names.Nodup)
    (ignoreSubscribeMessages : Bool) : p.FinePoll config (.getShardedMessage ignoreSubscribeMessages none) := by
  show ¬((shardedMessageGenerator config p.nodePubsubMapping.size p).2.1.finishMessage config
    ignoreSubscribeMessages (shardedMessageGenerator config p.nodePubsubMapping.size p).1).1.Own
  have length := p.size_eq_names
  have polled := polled_shardedMessageGenerator config p.nodePubsubMapping.size p
  have turned := turned_shardedMessageGenerator config p.nodePubsubMapping.size p
  cases received : (shardedMessageGenerator config p.nodePubsubMapping.size p).1 with
  | nodeRaised stop => exact id
  | noTarget => exact absurd received (shardedMessageGenerator_noTarget config _ p)
  | noValue reason =>
    refine absurd received (shardedMessageGenerator_undisturbed config ?_ reason)
    by_cases none : p.nodePubsubMapping.size = 0
    · exact .inl none
    · exact .inr ⟨none, timely.undisturbed.resolve_left none⟩
  | message message =>
    cases message with
    | none => exact id
    | some message =>
      obtain ⟨turn, -, name, pubsub, after, there, read⟩ :=
        shardedMessageGenerator_message config unique (Nat.le_of_eq length) received
      obtain ⟨push, next, response, decoded, shown⟩ := getMessage_some read
      obtain ⟨answer, returned⟩ := finishMessage_noted (noteMessage_ok fun channel pending type about => by
        rw [polled.base] at pending
        rw [getNodeFromKey_congr config polled.slotsCache, names_congr turned.layout]
        exact timely.owned (name, pubsub) (List.mem_of_getElem? there) push next channel pending
          (removal_of_message decoded shown type about)) ignoreSubscribeMessages
      rw [returned]
      exact id

variable (config) in
/-- Nothing is read where there is nothing. -/
theorem getMessage_silent {pubsub : Session H Remote} (silent : pubsub.wire.inbox = [])
    (ignoreSubscribeMessages : Bool) : config.getMessage ignoreSubscribeMessages pubsub = .ok none pubsub := by
  rcases config.getMessage_cases ignoreSubscribeMessages pubsub with none | ⟨push, rest, inbox, -⟩
  · exact none
  · rw [silent] at inbox
    cases inbox

variable (config) in
/-- A disturbed generator raises before a round is over. -/
theorem silent_disturbed {left : Nat} {p : ClusterPubSub H} (silent : p.Silent)
    (disturbed : ¬p.nodePubsubMapping.Undisturbed p.pubsubsGenerator) (some : 0 < left)
    (enough : ∀ it, p.pubsubsGenerator = .suspended it → it.used = p.nodePubsubMapping.size → it.left < left) :
    ∃ reason, (shardedMessageGenerator config left p).1 = .noValue reason := by
  induction left generalizing p with
  | zero => exact absurd some (Nat.lt_irrefl 0)
  | succ left ih =>
    rw [shardedMessageGenerator]
    rcases Table.nextValue_disturbed disturbed with
      ⟨reason, raised⟩ | ⟨it, item, after, suspended, given, fewer, used, still⟩
    · rw [raised]
      exact ⟨reason, rfl⟩
    · have member : item ∈ p.nodePubsubs := List.mem_of_getElem? (Table.nextValue_ok given).item
      have nothing := getMessage_silent config (silent item member) false
      have expected := enough it suspended used
      have layout := p.layout_afterPoll (.suspended after) item.1 item.2
      have size : (p.afterPoll (.suspended after) item.1 item.2).nodePubsubMapping.size =
          p.nodePubsubMapping.size := by
        rw [Table.size_eq, Table.keys_eq, layout, ← Table.keys_eq, ← Table.size_eq]
      rw [given]
      dsimp only
      rw [nothing]
      refine ih (fun other there => ?_) (fun calm => still ((Table.undisturbed_congr layout _).mp calm)) (by omega) ?_
      · rw [nodePubsubs_afterPoll] at there
        obtain ⟨old, listed, rfl⟩ := List.mem_map.mp there
        split
        · exact silent item member
        · exact silent old listed
      · intro next same _
        cases same
        omega

/-- Without messages, a poll raises exactly when it is disturbed. -/
theorem Silent.finePoll_iff {p : ClusterPubSub H} (silent : p.Silent) (unique : p.names.Nodup)
    (ignoreSubscribeMessages : Bool) :
    p.FinePoll config (.getShardedMessage ignoreSubscribeMessages none) ↔
      p.nodePubsubMapping.size = 0 ∨ p.nodePubsubMapping.Undisturbed p.pubsubsGenerator := by
  constructor
  · intro fine
    by_contra disturbed
    rw [not_or] at disturbed
    obtain ⟨reason, raised⟩ := silent_disturbed config silent disturbed.2
      (Nat.pos_of_ne_zero disturbed.1) fun it suspended used => by
        have within := p.nodePubsubMapping.ahead_le it.position
        have more := disturbed.2
        rw [suspended] at more
        by_contra expected
        exact more ⟨used, by omega⟩
    refine fine ?_
    show ((shardedMessageGenerator config p.nodePubsubMapping.size p).2.1.finishMessage config
      ignoreSubscribeMessages (shardedMessageGenerator config p.nodePubsubMapping.size p).1).1.Own
    rw [raised]
    trivial
  · intro undisturbed
    refine Timely.finePoll ⟨undisturbed, fun item member push next => ?_⟩ unique ignoreSubscribeMessages
    rw [silent item member] at next
    cases next

variable (config) in
/-- No name is used twice in a run. -/
theorem nodup_run (slotsCache : Nat → Option ShardNode) (calls : List (ShardCall H)) :
    (calls.foldl (step config) (new slotsCache)).names.Nodup :=
  inv_of_keeps (fun p : ClusterPubSub H => p.names.Nodup) (fun _ call unique => nodup_step config unique call)
    List.nodup_nil

/-- The node pubsubs are polled in turn in every run. A poll raises no exception of its own when it
comes at such a time, and without messages only then. -/
theorem polls_timely (config : ShardConfig) (slotsCache : Nat → Option ShardNode) (calls : List (ShardCall H)) :
    (∀ earlier window later, calls = earlier ++ window ++ later →
        (earlier.foldl (step config) (new slotsCache)).Fair config window) ∧
      (Each (step config) (TimelyCall config) (new slotsCache) calls →
        Each (step config) (FinePoll config) (new slotsCache) calls) ∧
      ((calls.foldl (step config) (new slotsCache)).Silent → ∀ ignoreSubscribeMessages,
        ((calls.foldl (step config) (new slotsCache)).FinePoll config (.getShardedMessage ignoreSubscribeMessages none) ↔
          TimelyCall config (calls.foldl (step config) (new slotsCache))
            (.getShardedMessage ignoreSubscribeMessages none))) := by
  refine ⟨fun earlier window later _ => fair (nodup_run config slotsCache earlier) window, ?_, ?_⟩
  · refine each_of_each (fun p : ClusterPubSub H => p.names.Nodup)
      (fun p call unique timely => ⟨?_, nodup_step config unique call⟩) List.nodup_nil
    cases call with
    | getShardedMessage ignoreSubscribeMessages targetNode =>
      cases targetNode with
      | none => exact Timely.finePoll timely unique ignoreSubscribeMessages
      | some targetNode => trivial
    | _ => trivial
  · intro silent ignoreSubscribeMessages
    rw [silent.finePoll_iff (nodup_run config slotsCache calls)]
    refine ⟨fun undisturbed => ⟨undisturbed, fun item member push next => ?_⟩, fun timely => timely.undisturbed⟩
    rw [silent item member] at next
    cases next

/-- A client that keeps names as octets; the table of a small dictionary has room for five keys. -/
def smallConfig : ShardConfig where
  codec := octetCodec
  order := .oldest
  capacity := fun _ => 5

/-- Two nodes, with half of the slots each. -/
def twoNodes : Nat → Option ShardNode := fun slot =>
  some { name := if slot < 8192 then ['A'] else ['B'], connected := true }

/-- Everything is subscribed to first, and then polled. -/
theorem polls_timely_both :
    Each (step smallConfig) (FinePoll smallConfig) (new twoNodes : ClusterPubSub Unit)
      [.ssubscribe (one "a") [], .ssubscribe (one "b") [], .getShardedMessage false none,
        .getShardedMessage false none, .getShardedMessage false none] := by
  refine (polls_timely smallConfig twoNodes _).2.1 ?_
  have calm (p : ClusterPubSub Unit) (settled : p.base.shardChannels.pending = [])
      (undisturbed : p.nodePubsubMapping.Undisturbed p.pubsubsGenerator) :
      TimelyCall smallConfig p (.getShardedMessage false none) := by
    refine ⟨.inr undisturbed, fun item member push next key pending => ?_⟩
    rw [settled] at pending
    cases pending
  have first := calm ((new twoNodes).step smallConfig (.ssubscribe (one "a") [])
    |>.step smallConfig (.ssubscribe (one "b") [])) rfl trivial
  have second := calm ((new twoNodes).step smallConfig (.ssubscribe (one "a") [])
    |>.step smallConfig (.ssubscribe (one "b") []) |>.step smallConfig (.getShardedMessage false none)) rfl
    ⟨rfl, Nat.le_refl 1⟩
  have third := calm ((new twoNodes).step smallConfig (.ssubscribe (one "a") [])
    |>.step smallConfig (.ssubscribe (one "b") []) |>.step smallConfig (.getShardedMessage false none)
    |>.step smallConfig (.getShardedMessage false none)) rfl ⟨rfl, Nat.le_refl 0⟩
  refine each_cons.mpr ⟨trivial, each_cons.mpr ⟨trivial, each_cons.mpr ⟨first, ?_⟩⟩⟩
  exact each_cons.mpr ⟨second, each_cons.mpr ⟨third, each_nil⟩⟩

/-- A node pubsub that comes in the middle of a round makes this poll raise, and all polls after it. -/
theorem poll_raises :
    let calls : List (ShardCall Unit) :=
      [.ssubscribe (one "a") [], .getShardedMessage true none, .ssubscribe (one "b") [],
        .getShardedMessage true none, .getShardedMessage true none]
    (shown (call smallConfig) (new twoNodes) calls).map (·.outcome) =
        [.done, .returned none, .done, .noValue .runtimeError, .noValue .stopIteration] ∧
      ¬Each (step smallConfig) (FinePoll smallConfig) (new twoNodes) calls := by
  refine ⟨rfl, fun each => ?_⟩
  exact each [.ssubscribe (one "a") [], .getShardedMessage true none, .ssubscribe (one "b") []]
    (.getShardedMessage true none) [.getShardedMessage true none] rfl trivial

end ClusterPubSub

end RedisPy.Channels

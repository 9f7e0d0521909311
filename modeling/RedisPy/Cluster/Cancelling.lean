import RedisPy.Cluster.Polls

/-!
# Subscriptions that are cancelled where they were made

As long as a slot keeps its owner between the calls on a channel, everything that a node pubsub
has to do with the channel is at that owner: its subscription, the unsubscription that is pending,
and the confirmation that has not been read. Then a command goes where the subscription is, and the
confirmation finds the node pubsub that it is about.
-/

namespace RedisPy.Channels

open Runs

variable {H : Type}

/-! ## The pubsub of a node -/

/-- The keys of `shard_channels`. -/
def shardNames (pubsub : PubSub H) : List Name := (pubsub.of .shard).names.keys

/-- No shard channel is stored twice. -/
def ShardUnique (pubsub : PubSub H) : Prop := (pubsub.of .shard).names.Unique

/-- `pending_unsubscribe_shard_channels`. -/
def shardPending (pubsub : PubSub H) : List Name := (pubsub.of .shard).pending

namespace ShardConfig

variable (config : ShardConfig)

/-- The confirmed unsubscriptions from shard channels that a node pubsub has not read. -/
def unread (s : Session H Remote) : List Name := removals config.codec .shard s.wire.inbox

/-- A node pubsub, or its node, has to do with a channel. -/
def Concerns (s : Session H Remote) (key : Name) : Prop :=
  key ∈ shardNames s.pubsub ∨ key ∈ shardPending s.pubsub ∨ key ∈ config.unread s ∨
    ∃ data ∈ s.wire.server.held .shard, config.codec.decode false (.bytes data) = .ok key

/-- What a subscription to a channel does at most. -/
structure Subscribing (name : Name) (s t : Session H Remote) : Prop where
  unique : ShardUnique s.pubsub → ShardUnique t.pubsub
  names : ∀ key, config.codec.normalize name ≠ .ok key →
    (key ∈ shardNames t.pubsub ↔ key ∈ shardNames s.pubsub)
  fewer : ∀ key ∈ shardPending t.pubsub, key ∈ shardPending s.pubsub
  pending : ∀ key, config.codec.normalize name ≠ .ok key → key ∈ shardPending s.pubsub →
    key ∈ shardPending t.pubsub
  unread : config.unread t = config.unread s
  held : ∀ data ∈ t.wire.server.held .shard,
    data ∈ s.wire.server.held .shard ∨ config.codec.encode name = .ok data

/-- What an unsubscription from a channel does. -/
structure Unsubscribing (key : Name) (s t : Session H Remote) : Prop where
  unique : ShardUnique s.pubsub → ShardUnique t.pubsub
  names : shardNames t.pubsub = shardNames s.pubsub
  pending : ∀ other, other ∈ shardPending t.pubsub ↔ other ∈ shardPending s.pubsub ∨ other = key
  unread : config.unread t = config.unread s ++ [key]
  held : ∀ data ∈ t.wire.server.held .shard, data ∈ s.wire.server.held .shard

/-- What reading a message does at most. -/
structure Reading (s t : Session H Remote) : Prop where
  unique : ShardUnique s.pubsub → ShardUnique t.pubsub
  names : ∀ key ∈ shardNames t.pubsub, key ∈ shardNames s.pubsub
  kept : ∀ key ∈ shardNames t.pubsub, key ∈ shardPending s.pubsub → key ∈ shardPending t.pubsub
  pending : ∀ key ∈ shardPending t.pubsub, key ∈ shardPending s.pubsub
  awaited : ∀ key ∈ shardPending t.pubsub, key ∈ config.unread s → key ∈ config.unread t
  unread : ∀ key ∈ config.unread t, key ∈ config.unread s
  held : t.wire.server = s.wire.server

variable {config}

/-- Nothing is subscribed to. -/
theorem Subscribing.refl (name : Name) (s : Session H Remote) : config.Subscribing name s s where
  unique := id
  names := fun _ _ => Iff.rfl
  fewer := fun _ member => member
  pending := fun _ _ member => member
  unread := rfl
  held := fun _ member => .inl member

/-- Nothing is read. -/
theorem Reading.refl (s : Session H Remote) : config.Reading s s where
  unique := id
  names := fun _ member => member
  kept := fun _ _ member => member
  pending := fun _ member => member
  awaited := fun _ _ member => member
  unread := fun _ member => member
  held := rfl

/-- The server obeys a subscription to one channel, or to none. -/
theorem Subscribing.served {name : Name} {new : Dict Name (Option H)} (one : ∀ other ∈ new.keys, other = name)
    {encoded : List Bytes} (read : new.keys.mapM config.codec.encode = .ok encoded) (s : Session H Remote) :
    config.Subscribing name s
      { s with wire := s.wire.serve config.order { subscribes := true, kind := .shard } encoded } := by
  obtain ⟨held, inbox⟩ := serve_subscribe config.codec config.order .shard encoded s.wire
  refine ⟨id, fun _ _ => Iff.rfl, fun _ member => member, fun _ _ member => member, inbox .shard, fun data member => ?_⟩
  refine ((held .shard data).mp member).imp id fun listed => ?_
  obtain ⟨other, named, encodes⟩ := (mem_encoded read data).mp listed.2
  rw [← one other named]
  exact encodes

/-- A subscription to one channel, or to none, is noted. -/
theorem Subscribing.noted {name : Name} {new normalized : Dict Name (Option H)}
    (one : ∀ other ∈ new.keys, other = name) (keyed : normalizeKeys config.codec new = .ok normalized)
    {s t : Session H Remote} (served : config.Subscribing name s t) :
    config.Subscribing name s { t with pubsub := s.pubsub.noteSubscribed .shard normalized } := by
  have only (key : Name) (differs : config.codec.normalize name ≠ .ok key) : key ∉ normalized.keys := by
    intro member
    obtain ⟨other, named, found⟩ := (mem_keys_changeKeys keyed key).mp member
    rw [one other named] at found
    exact differs found
  have after : (s.pubsub.noteSubscribed .shard normalized).of .shard =
      { names := (s.pubsub.of .shard).names.update normalized
        pending := (s.pubsub.of .shard).pending.filter fun name => !normalized.contains name } := by
    rw [PubSub.of_noteSubscribed, if_pos rfl]
  refine ⟨fun unique => ?_, fun key differs => ?_, fun key member => ?_, fun key differs member => ?_,
    served.unread, served.held⟩
  · show Dict.Unique (PubSub.of _ .shard).names
    rw [after]
    exact Dict.Unique.update unique normalized
  · show key ∈ (PubSub.of _ .shard).names.keys ↔ _
    rw [after, Dict.mem_keys_update]
    exact or_iff_left (only key differs)
  · replace member : key ∈ (PubSub.of _ .shard).pending := member
    rw [after] at member
    exact (List.mem_filter.mp member).1
  · show key ∈ (PubSub.of _ .shard).pending
    rw [after]
    refine List.mem_filter.mpr ⟨member, ?_⟩
    cases stored : normalized.contains key with
    | false => rfl
    | true => exact absurd (Dict.contains_iff_mem_keys.mp stored) (only key differs)

/-- A subscription to one channel, or to none, raises before it is noted, or it is noted. -/
theorem ssubscribe_cases {name : Name} {args : NameArgs} {kwargs : Dict Text (Option H)} {names : List Name}
    (given : positional .sync { subscribes := true, kind := .shard } args = .ok names)
    (one : ∀ other ∈ (newNames names (nameKeywords .shard kwargs)).keys, other = name) (s : Session H Remote) :
    (∃ e t, ssubscribe .sync config.codec (sendCommand config.codec config.order) args kwargs s = .error e t ∧
        config.Subscribing name s t ∧ t.pubsub = s.pubsub) ∨
      ∃ t, ssubscribe .sync config.codec (sendCommand config.codec config.order) args kwargs s = .ok () t ∧
        config.Subscribing name s t := by
  unfold ssubscribe subscribeTo
  by_cases reserved : kwargs.contains selfWord = true
  · rw [if_pos reserved]
    exact .inl ⟨_, s, rfl, .refl name s, rfl⟩
  · rw [if_neg reserved, given]
    rcases sendCommand_cases config.codec config.order { subscribes := true, kind := .shard }
      (newNames names (nameKeywords .shard kwargs)).keys s with ⟨encoded, read, sent⟩ | ⟨e, -, sent⟩
    · have served := Subscribing.served one read s
      cases keyed : normalizeKeys config.codec (newNames names (nameKeywords .shard kwargs)) with
      | error e =>
        refine .inl ⟨.raised e, _, ?_, served, rfl⟩
        show (sendCommand config.codec config.order { subscribes := true, kind := .shard }
          (newNames names (nameKeywords .shard kwargs)).keys >>= _) s = _
        rw [Interruptible.bind_of_ok sent, keyed]
        rfl
      | ok normalized =>
        refine .inr ⟨_, ?_, served.noted one keyed⟩
        show (sendCommand config.codec config.order { subscribes := true, kind := .shard }
          (newNames names (nameKeywords .shard kwargs)).keys >>= _) s = _
        rw [Interruptible.bind_of_ok sent, keyed]
        rfl
    · refine .inl ⟨.raised e, s, ?_, .refl name s, rfl⟩
      show (sendCommand config.codec config.order { subscribes := true, kind := .shard }
        (newNames names (nameKeywords .shard kwargs)).keys >>= _) s = _
      rw [Interruptible.bind_of_error sent]

variable (config)

/-- A node pubsub that is told to subscribe raises before it notes that, or it notes it. -/
theorem nodeSsubscribe_cases (name : Name) (handler : Option H) (s : Session H Remote) :
    (∃ e t, config.nodeSsubscribe name handler s = .error e t ∧ config.Subscribing name s t ∧
        t.pubsub = s.pubsub) ∨
      ∃ t, config.nodeSsubscribe name handler s = .ok () t ∧ config.Subscribing name s t := by
  cases handler with
  | none =>
    refine ssubscribe_cases (show positional .sync _ (some (.name name, [])) = .ok [name] from rfl) (fun other member => ?_) s
    rcases Dict.mem_keys_update.mp member with listed | none
    · exact List.mem_singleton.mp (Dict.mem_keys_fromKeys.mp listed)
    · cases none
  | some handler =>
    cases name with
    | bytes data => exact .inl ⟨_, s, rfl, .refl _ s, rfl⟩
    | str text =>
      refine ssubscribe_cases (show positional .sync _ none = .ok [] from rfl) (fun other member => ?_) s
      rcases Dict.mem_keys_update.mp member with none | listed
      · cases none
      · obtain ⟨item, there, rfl⟩ := List.mem_map.mp listed
        obtain ⟨keyword, given, rfl⟩ := List.mem_map.mp there
        have left : keyword ∈ List.eraseP (fun item => item.1 == targetNode) [(text, some handler)] := given
        rw [List.mem_singleton.mp (List.mem_of_mem_eraseP left)]

/-- A node pubsub that is told to unsubscribe refuses, or it notes and sends that. -/
theorem nodeSunsubscribe_cases (name : Name) (s : Session H Remote) :
    (∃ e, config.nodeSunsubscribe name s = .error e s) ∨
      ∃ key t, config.codec.normalize name = .ok key ∧ config.nodeSunsubscribe name s = .ok () t ∧
        config.Unsubscribing key s t := by
  rcases unsubscribeFrom_some .sync config.codec config.order .shard (.name name, []) s with
    refused | ⟨names, encoded, normalized, given, read, keyed, sent⟩
  · exact .inl refused
  · right
    cases given
    obtain ⟨key, found⟩ := change_ok keyed name (Dict.mem_keys_fromKeys.mpr List.mem_cons_self)
    have keys (other : Name) : other ∈ normalized.keys ↔ other = key := by
      rw [mem_keys_changeKeys keyed other]
      constructor
      · rintro ⟨given, listed, same⟩
        rw [List.mem_singleton.mp (Dict.mem_keys_fromKeys.mp listed), found] at same
        exact (Except.ok.inj same).symm
      · rintro rfl
        exact ⟨name, Dict.mem_keys_fromKeys.mpr List.mem_cons_self, found⟩
    obtain ⟨data, encodes, decodes⟩ := Interruptible.ok_of_bind found
    have sole : encoded = [data] := by
      rw [List.mapM_cons, encodes] at read
      cases read
      rfl
    subst sole
    obtain ⟨held, inbox⟩ := serve_unsubscribe config.codec config.order .shard (List.cons_ne_nil data []) s.wire
    have after : (s.pubsub.notePending .shard normalized.keys).of .shard =
        { s.pubsub.of .shard with pending := (s.pubsub.of .shard).pending ++ normalized.keys } := by
      rw [PubSub.of_notePending, if_pos rfl]
    refine ⟨key, _, found, sent, fun unique => ?_, ?_, fun other => ?_, ?_,
      fun data member => ((held .shard data).mp member).1⟩
    · show Dict.Unique (PubSub.of _ .shard).names
      rw [after]
      exact unique
    · unfold shardNames
      rw [after]
    · unfold shardPending
      rw [after, List.mem_append, keys]
    · unfold unread
      rw [inbox .shard, if_pos rfl, List.filterMap_cons, decodes]
      rfl

/-- A message drops the shard channel that it removes when that is pending, and no other one. -/
theorem of_noteMessage_shard (p : PubSub H) (response : Push Name) :
    (∃ name ∈ (p.of .shard).pending, removed .shard response = some name ∧
      (p.noteMessage response).of .shard =
        { names := (p.of .shard).names.erase name
          pending := (p.of .shard).pending.filter (· ≠ name) }) ∨
      (p.noteMessage response).of .shard = p.of .shard ∧
        ∀ name ∈ (p.of .shard).pending, removed .shard response ≠ some name := by
  rw [of_noteMessage]
  cases removes : removed .shard response with
  | none => exact .inr ⟨rfl, nofun⟩
  | some name =>
    simp only [PubSub.of_drop, true_and]
    by_cases pending : name ∈ (p.of .shard).pending
    · exact .inl ⟨name, pending, rfl, if_pos pending⟩
    · refine .inr ⟨if_neg pending, fun other member same => ?_⟩
      cases same
      exact pending member

/-- What is left after a message was there before, and what the message removes is not pending. -/
theorem noteMessage_left {p : PubSub H} (unique : ShardUnique p) (response : Push Name) :
    ShardUnique (p.noteMessage response) ∧
      (∀ key ∈ shardNames (p.noteMessage response), key ∈ shardNames p ∧
        (key ∈ shardPending p → key ∈ shardPending (p.noteMessage response))) ∧
      ∀ key ∈ shardPending (p.noteMessage response), key ∈ shardPending p ∧ removed .shard response ≠ some key := by
  unfold ShardUnique shardNames shardPending at *
  rcases of_noteMessage_shard p response with ⟨name, pending, removes, after⟩ | ⟨after, apart⟩
  · rw [after, removes]
    refine ⟨unique.erase name, fun key member => ?_, fun key member => ?_⟩
    · obtain ⟨stored, differs⟩ := (Dict.mem_keys_erase unique).mp member
      exact ⟨stored, fun listed => List.mem_filter.mpr ⟨listed, decide_eq_true differs⟩⟩
    · obtain ⟨listed, differs⟩ := List.mem_filter.mp member
      exact ⟨listed, fun same => of_decide_eq_true differs (Option.some.inj same).symm⟩
  · rw [after]
    exact ⟨unique, fun key member => ⟨member, id⟩, fun key member => ⟨member, apart key member⟩⟩

/-- A message that is read. -/
theorem getMessage_reading {s : Session H Remote} (unique : ShardUnique s.pubsub) (ignoreSubscribeMessages : Bool) :
    config.Reading s (Contract.stateAfter (config.getMessage ignoreSubscribeMessages s)) := by
  rcases config.getMessage_cases ignoreSubscribeMessages s with
    none | ⟨push, rest, inbox, ⟨e, decoded, failed⟩ | ⟨response, message, decoded, ran, -⟩⟩
  · rw [none]
    exact .refl s
  · have same : config.unread { s with wire.inbox := rest } = config.unread s := by
      unfold unread removals
      rw [inbox, List.filterMap_cons, removal_of_error decoded]
    rw [failed]
    exact ⟨id, fun _ member => member, fun _ _ member => member, fun _ member => member,
      fun _ _ member => same ▸ member, fun _ member => same ▸ member, rfl⟩
  · have waiting : config.unread s = (removed .shard response).toList ++ removals config.codec .shard rest := by
      unfold unread removals
      rw [inbox, List.filterMap_cons, ← removal_of_ok decoded]
      cases removal config.codec .shard push <;> rfl
    obtain ⟨kept, names, pending⟩ := noteMessage_left unique response
    rw [ran]
    refine ⟨fun _ => kept, fun key member => (names key member).1, fun key member => (names key member).2,
      fun key member => (pending key member).1, fun key member later => ?_,
      fun key member => waiting ▸ List.mem_append_right _ member, rfl⟩
    -- a channel that is still pending is not the one that was removed
    rw [waiting] at later
    refine (List.mem_append.mp later).resolve_left fun now => (pending key member).2 ?_
    exact Option.mem_toList.mp now

end ShardConfig

namespace ClusterPubSub

variable (config : ShardConfig)

/-! ## Slots that keep their owners -/

/-- The owner of the slot of a channel is the one of the last call on the channel, or no node pubsub
has to do with the channel. -/
def SteadyName (p : ClusterPubSub H) (name : Name) : Prop :=
  ∀ node key, p.getNodeFromKey config name = .ok node → config.codec.normalize name = .ok key →
    p.lastOwner key = some node.name ∨ ∀ item ∈ p.nodePubsubs, ¬config.Concerns item.2 key

/-- Every turn of the loop of `ssubscribe` finds the owner of the last call. -/
def SteadySubscribing : List (Name × Option H) → ClusterPubSub H → Prop
  | [], _ => True
  | item :: items, p =>
    p.SteadyName config item.1 ∧
      ∀ q, p.ssubscribeOne config item = (.ok (), q) → SteadySubscribing items q

/-- Every turn of the loop of `sunsubscribe` finds the owner of the last call. -/
def SteadyCancelling : List Name → ClusterPubSub H → Prop
  | [], _ => True
  | name :: names, p =>
    p.SteadyName config name ∧
      ∀ q cancelled, p.sunsubscribeOne config name = (.ok (), q, cancelled) → SteadyCancelling names q

/-- When an unsubscription that is pending comes next, the owner of the slot is the one of the last
call on the channel, or has a node pubsub anyway. -/
def SteadyNext (p : ClusterPubSub H) : Prop :=
  ∀ item ∈ p.nodePubsubs, ∀ push ∈ item.2.wire.inbox.head?, ∀ key ∈ p.base.shardChannels.pending,
    removal config.codec .shard push = some key →
      ∃ node, p.getNodeFromKey config key = .ok node ∧
        (p.lastOwner key = some node.name ∨ node.name ∈ p.names)

/-- A step in which a slot that is looked up has kept its owner since the last call on the channel. -/
def SteadyCall (p : ClusterPubSub H) : ShardCall H → Prop
  | .ssubscribe args kwargs => ∀ items, subscribing args kwargs = .ok items → SteadySubscribing config items p
  | .sunsubscribe args => SteadyCancelling config (p.cancelling args) p
  | .getShardedMessage _ _ => p.SteadyNext config
  | _ => True

/-- A command is sent on the node pubsub that is subscribed, the messages that are received are
processed, and once all confirmations are read no node pubsub is subscribed to a channel that the
object does not know. -/
structure CancelledWhereMade (p : ClusterPubSub H) (call : ShardCall H) : Prop where
  sent : ∀ entry ∈ (p.call config call).2.cancelled, ∀ key, config.codec.normalize entry.2 = .ok key →
    ∀ item ∈ p.nodePubsubs, key ∈ shardNames item.2.pubsub → item.1 = entry.1
  processed : ∀ e, (p.call config call).2.outcome ≠ .noteRaised e
  known : (∀ item ∈ (p.step config call).nodePubsubs, config.unread item.2 = []) →
    ∀ item ∈ (p.step config call).nodePubsubs, ∀ key ∈ shardNames item.2.pubsub,
      key ∈ (p.step config call).base.shardChannels.names.keys

/-! ## The invariant -/

/-- A node pubsub fits to the bookkeeping of the object. -/
structure Fits (base : PubSub H) (lastOwner : Name → Option Text) (item : Text × Session H Remote) : Prop where
  unique : ShardUnique item.2.pubsub
  known : ∀ key ∈ shardNames item.2.pubsub, key ∈ shardNames base ∨ key ∈ shardPending item.2.pubsub
  pending : ∀ key ∈ shardPending base, key ∈ shardNames item.2.pubsub → key ∈ shardPending item.2.pubsub
  awaited : ∀ key ∈ shardPending item.2.pubsub, key ∈ config.unread item.2
  placed : ∀ key, config.Concerns item.2 key → lastOwner key = some item.1

/-- All node pubsubs fit. -/
structure Sound (p : ClusterPubSub H) : Prop where
  unique : p.names.Nodup
  fits : ∀ item ∈ p.nodePubsubs, Fits config p.base p.lastOwner item

variable {config}

/-- A new node pubsub fits. -/
theorem fits_start (base : PubSub H) (lastOwner : Name → Option Text) (name : Text) :
    Fits config base lastOwner (name, start) where
  unique := List.nodup_nil
  known := nofun
  pending := nofun
  awaited := nofun
  placed := by
    rintro key (none | none | none | ⟨data, none, -⟩) <;> cases none

/-- The bookkeeping of shard channels is what matters. -/
theorem Fits.congr {base other : PubSub H} {lastOwner : Name → Option Text} {item : Text × Session H Remote}
    (fits : Fits config base lastOwner item) (same : other.of .shard = base.of .shard) :
    Fits config other lastOwner item := by
  have names : shardNames other = shardNames base := by rw [shardNames, same]; rfl
  have pending : shardPending other = shardPending base := by rw [shardPending, same]; rfl
  exact ⟨fits.unique, fun key member => names ▸ fits.known key member,
    fun key member => fits.pending key (pending ▸ member), fits.awaited, fits.placed⟩

/-- A node pubsub that read a message still fits. -/
theorem Fits.reading {base : PubSub H} {lastOwner : Name → Option Text} {name : Text} {s t : Session H Remote}
    (fits : Fits config base lastOwner (name, s)) (reading : config.Reading s t) :
    Fits config base lastOwner (name, t) where
  unique := reading.unique fits.unique
  known := by
    intro key member
    exact (fits.known key (reading.names key member)).imp id (reading.kept key member)
  pending := by
    intro key listed member
    exact reading.kept key member (fits.pending key listed (reading.names key member))
  awaited := by
    intro key member
    exact reading.awaited key member (fits.awaited key (reading.pending key member))
  placed := by
    intro key concerns
    refine fits.placed key ?_
    rcases concerns with member | member | member | ⟨data, member, decodes⟩
    · exact .inl (reading.names key member)
    · exact .inr (.inl (reading.pending key member))
    · exact .inr (.inr (.inl (reading.unread key member)))
    · exact .inr (.inr (.inr ⟨data, reading.held ▸ member, decodes⟩))

/-- What is dropped was pending. -/
theorem Fits.drop {base : PubSub H} {lastOwner : Name → Option Text} {item : Text × Session H Remote}
    (fits : Fits config base lastOwner item) {key : Name} (pending : key ∈ shardPending base) :
    Fits config (base.drop .shard key) lastOwner item := by
  have after : (base.drop .shard key).of .shard =
      { names := (base.of .shard).names.erase key
        pending := (base.of .shard).pending.filter (· ≠ key) } := by
    rw [PubSub.of_drop, if_pos ⟨rfl, pending⟩]
  refine ⟨fits.unique, fun other member => ?_, fun other listed member => ?_, fits.awaited, fits.placed⟩
  · unfold shardNames at *
    rw [after]
    by_cases same : other = key
    · subst same
      exact .inr (fits.pending other pending member)
    · refine (fits.known other member).imp (fun stored => ?_) id
      obtain ⟨entry, there, rfl⟩ := List.mem_map.mp stored
      exact List.mem_map_of_mem ((List.mem_eraseP_of_neg (by simpa using same)).mpr there)
  · unfold shardPending at listed
    rw [after] at listed
    exact fits.pending other (List.mem_filter.mp listed).1 member

/-! ## Calls on a channel -/

/-- A node pubsub is the one that changed, or another one. -/
theorem mem_withPubsub {p : ClusterPubSub H} {name : Text} {t : Session H Remote} {item : Text × Session H Remote}
    (member : item ∈ (p.withPubsub name t).nodePubsubs) :
    item = (name, t) ∨ item ∈ p.nodePubsubs ∧ item.1 ≠ name := by
  rw [nodePubsubs_withPubsub] at member
  obtain ⟨old, there, became⟩ := List.mem_map.mp member
  by_cases same : old.1 = name
  · rw [if_pos same, same] at became
    exact .inl became.symm
  · rw [if_neg same] at became
    exact .inr ⟨became ▸ there, became ▸ same⟩

variable (config) in
/-- The node pubsubs of an object in which one may be new. -/
structure Obtained (p q : ClusterPubSub H) (node : ShardNode) (pubsub : Session H Remote) : Prop where
  sound : Sound config p → Sound config q
  there : (node.name, pubsub) ∈ q.nodePubsubs
  kept : ∀ item ∈ p.nodePubsubs, item ∈ q.nodePubsubs
  items : ∀ item ∈ q.nodePubsubs, item ∈ p.nodePubsubs ∨ item.2 = start
  lastOwner : q.lastOwner = p.lastOwner
  base : q.base = p.base

/-- A node pubsub that is looked up is one of the object. -/
theorem obtained_getNodePubsub {p q : ClusterPubSub H} {node : ShardNode} {pubsub : Session H Remote}
    (given : p.getNodePubsub config node = .ok (pubsub, q)) : Obtained config p q node pubsub := by
  have grown := grown_getNodePubsub given
  rcases getNodePubsub_cases given with ⟨found, rfl⟩ | ⟨new, rfl, rfl⟩
  · exact ⟨id, Dict.mem_of_get found, fun _ member => member, fun _ member => .inl member, rfl, rfl⟩
  · have items : nodePubsubs { p with
        nodePubsubMapping := p.nodePubsubMapping.insert config.capacity node.name start } =
        p.nodePubsubs ++ [(node.name, start)] := Table.items_insert _ _ _ _
    refine ⟨fun sound => ⟨grown.unique sound.unique, fun item member => ?_⟩, ?_, fun item member => ?_,
      fun item member => ?_, rfl, rfl⟩
    · rw [items] at member
      rcases List.mem_append.mp member with old | new
      · exact sound.fits item old
      · rw [List.mem_singleton.mp new]
        exact fits_start _ _ _
    · rw [items]
      exact List.mem_append_right _ List.mem_cons_self
    · rw [items]
      exact List.mem_append_left _ member
    · rw [items] at member
      refine (List.mem_append.mp member).imp id fun new => ?_
      rw [List.mem_singleton.mp new]

/-- A new node pubsub has to do with no channel. -/
theorem not_concerns_start (key : Name) : ¬config.Concerns (start : Session H Remote) key := by
  rintro (none | none | none | ⟨data, none, -⟩) <;> cases none

/-- The history of a steady call keeps the node pubsubs in their places. -/
theorem Sound.noteOwner {p : ClusterPubSub H} (sound : Sound config p) (name : Name) (node : ShardNode)
    (steady : ∀ key, config.codec.normalize name = .ok key →
      p.lastOwner key = some node.name ∨ ∀ item ∈ p.nodePubsubs, ¬config.Concerns item.2 key) :
    Sound config (p.noteOwner config name node) ∧
      ∀ key, config.codec.normalize name = .ok key →
        (p.noteOwner config name node).lastOwner key = some node.name := by
  unfold ClusterPubSub.noteOwner
  cases keyed : config.codec.normalize name with
  | error e => exact ⟨sound, nofun⟩
  | ok key =>
    refine ⟨⟨sound.unique, fun item member => ?_⟩, fun other same => ?_⟩
    · have fits := sound.fits item member
      refine ⟨fits.unique, fits.known, fits.pending, fits.awaited, fun other concerns => ?_⟩
      have placed := fits.placed other concerns
      by_cases same : other = key
      · subst same
        rcases steady other keyed with last | free
        · rw [last] at placed
          exact (Function.update_self _ _ _).trans placed
        · exact absurd concerns (free item member)
      · exact (Function.update_of_ne same _ _).trans placed
    · cases same
      exact Function.update_self _ _ _

/-- A steady call is steady when the node pubsub is there. -/
theorem Obtained.steady {p q : ClusterPubSub H} {node : ShardNode} {pubsub : Session H Remote}
    (obtained : Obtained config p q node pubsub) {name : Name} (steady : p.SteadyName config name)
    (owner : p.getNodeFromKey config name = .ok node) (key : Name) (keyed : config.codec.normalize name = .ok key) :
    q.lastOwner key = some node.name ∨ ∀ item ∈ q.nodePubsubs, ¬config.Concerns item.2 key := by
  rw [obtained.lastOwner]
  refine (steady node key owner keyed).imp id fun free item member => ?_
  rcases obtained.items item member with old | new
  · exact free item old
  · rw [new]
    exact not_concerns_start key

/-- Where a node pubsub is that subscribes. -/
theorem placed_subscribing {base : PubSub H} {lastOwner : Name → Option Text} {place : Text} {s t : Session H Remote}
    (fits : Fits config base lastOwner (place, s)) {name : Name} (subscribing : config.Subscribing name s t)
    (owned : ∀ key, config.codec.normalize name = .ok key → lastOwner key = some place) (key : Name)
    (concerns : config.Concerns t key) : lastOwner key = some place := by
  by_cases same : config.codec.normalize name = .ok key
  · exact owned key same
  · refine fits.placed key ?_
    rcases concerns with member | member | member | ⟨data, member, decodes⟩
    · exact .inl ((subscribing.names key same).mp member)
    · exact .inr (.inl (subscribing.fewer key member))
    · exact .inr (.inr (.inl (subscribing.unread ▸ member)))
    · rcases subscribing.held data member with held | encodes
      · exact .inr (.inr (.inr ⟨data, held, decodes⟩))
      · refine absurd ?_ same
        unfold Codec.normalize
        rw [encodes]
        exact decodes

variable (config) in
/-- What is noted of a subscription. -/
theorem noteSubscribed_cases (p : ClusterPubSub H) (name : Name) (pubsub : Session H Remote) :
    ∃ result base, p.noteSubscribed config name pubsub = (result, { p with base }) ∧
      (∀ key, key ∈ shardNames base ↔ key ∈ shardNames p.base ∨ key ∈ shardNames pubsub.pubsub) ∧
      ∀ key ∈ shardPending base, key ∈ shardPending p.base ∧ config.codec.normalize name ≠ .ok key := by
  unfold noteSubscribed
  cases keyed : config.codec.normalize name with
  | error e => exact ⟨_, _, rfl, fun key => Dict.mem_keys_update, fun key member => ⟨member, nofun⟩⟩
  | ok known =>
    have left (key : Name) (member : key ∈ p.base.shardChannels.pending.filter (· ≠ known)) :
        key ∈ shardPending p.base ∧ (Except.ok known : Except Exc Name) ≠ .ok key := by
      obtain ⟨listed, differs⟩ := List.mem_filter.mp member
      exact ⟨listed, fun same => of_decide_eq_true differs (Except.ok.inj same).symm⟩
    dsimp only
    split
    · exact ⟨_, _, rfl, fun key => Dict.mem_keys_update, left⟩
    · exact ⟨_, _, rfl, fun key => Dict.mem_keys_update, left⟩

/-- A node pubsub that raised before it noted a subscription still fits. -/
theorem Sound.refused {p : ClusterPubSub H} (sound : Sound config p) {place : Text} {s t : Session H Remote}
    (there : (place, s) ∈ p.nodePubsubs) {name : Name} (subscribing : config.Subscribing name s t)
    (owned : ∀ key, config.codec.normalize name = .ok key → p.lastOwner key = some place)
    (same : t.pubsub = s.pubsub) : Sound config (p.withPubsub place t) := by
  refine ⟨(grown_withPubsub p place t).unique sound.unique, fun item member => ?_⟩
  rcases mem_withPubsub member with rfl | ⟨old, -⟩
  · have fits := sound.fits _ there
    refine ⟨?_, ?_, ?_, ?_, placed_subscribing fits subscribing owned⟩
    · rw [same]
      exact fits.unique
    · rw [same]
      exact fits.known
    · rw [same]
      exact fits.pending
    · rw [same]
      intro key member
      rw [subscribing.unread]
      exact fits.awaited key member
  · exact sound.fits item old

/-- A subscription that is noted keeps the object sound. -/
theorem Sound.subscribed {p : ClusterPubSub H} (sound : Sound config p) {place : Text} {s t : Session H Remote}
    (there : (place, s) ∈ p.nodePubsubs) {name : Name} (subscribing : config.Subscribing name s t)
    (owned : ∀ key, config.codec.normalize name = .ok key → p.lastOwner key = some place) :
    Sound config ((p.withPubsub place t).noteSubscribed config name t).2 := by
  obtain ⟨result, base, noted, names, pending⟩ := (p.withPubsub place t).noteSubscribed_cases config name t
  rw [noted]
  refine ⟨(grown_withPubsub p place t).unique sound.unique, fun item member => ?_⟩
  rcases mem_withPubsub (p := p) member with rfl | ⟨old, -⟩
  · have fits := sound.fits _ there
    refine ⟨subscribing.unique fits.unique, fun key member => .inl ((names key).mpr (.inr member)),
      fun key listed member => ?_, fun key member => ?_, placed_subscribing fits subscribing owned⟩
    · obtain ⟨before, differs⟩ := pending key listed
      exact subscribing.pending key differs (fits.pending key before ((subscribing.names key differs).mp member))
    · rw [subscribing.unread]
      exact fits.awaited key (subscribing.fewer key member)
  · have fits := sound.fits item old
    refine ⟨fits.unique, fun key member => (fits.known key member).imp (fun stored => (names key).mpr (.inl stored)) id,
      fun key listed member => fits.pending key (pending key listed).1 member, fits.awaited, fits.placed⟩

variable (config) in
/-- A steady turn of `ssubscribe` keeps the object sound. -/
theorem Sound.ssubscribeOne {p : ClusterPubSub H} (sound : Sound config p) {item : Name × Option H}
    (steady : p.SteadyName config item.1) : Sound config (p.ssubscribeOne config item).2 := by
  unfold ClusterPubSub.ssubscribeOne
  split
  · exact sound
  · next node owner =>
    split
    · exact sound
    · next pubsub q given =>
      have obtained := obtained_getNodePubsub given
      obtain ⟨noted, owned⟩ := (obtained.sound sound).noteOwner item.1 node
        (obtained.steady steady owner)
      have there : (node.name, pubsub) ∈ (q.noteOwner config item.1 node).nodePubsubs := by
        unfold nodePubsubs
        rw [nodePubsubMapping_noteOwner]
        exact obtained.there
      dsimp only
      rcases config.nodeSsubscribe_cases item.1 item.2 pubsub with
        ⟨e, t, raised, subscribing, same⟩ | ⟨t, ran, subscribing⟩
      · rw [raised]
        exact noted.refused there subscribing owned same
      · rw [ran]
        exact noted.subscribed there subscribing owned

variable (config) in
/-- The steady loop of `ssubscribe` keeps the object sound. -/
theorem Sound.ssubscribeEach {items : List (Name × Option H)} {p : ClusterPubSub H} (sound : Sound config p)
    (steady : SteadySubscribing config items p) : Sound config (ssubscribeEach config items p).2 := by
  induction items generalizing p with
  | nil => exact sound
  | cons item items ih =>
    obtain ⟨first, rest⟩ := steady
    have one := sound.ssubscribeOne config first
    rw [ClusterPubSub.ssubscribeEach]
    split
    · next ran =>
      rw [ran] at one
      exact one
    · next q ran =>
      rw [ran] at one
      exact ih one (rest q ran)

/-! ## Unsubscribing -/

/-- An unsubscription that is noted keeps the object sound. -/
theorem Sound.unsubscribed {p : ClusterPubSub H} (sound : Sound config p) {place : Text} {s t : Session H Remote}
    (there : (place, s) ∈ p.nodePubsubs) {key : Name} (unsubscribing : config.Unsubscribing key s t)
    (owned : p.lastOwner key = some place) : Sound config ((p.withPubsub place t).notePending t) := by
  have fits := sound.fits _ there
  have placed (other : Name) (concerns : config.Concerns t other) : p.lastOwner other = some place := by
    by_cases same : other = key
    · rw [same]
      exact owned
    · refine fits.placed other ?_
      rcases concerns with member | member | member | ⟨data, member, decodes⟩
      · exact .inl (unsubscribing.names ▸ member)
      · exact .inr (.inl (((unsubscribing.pending other).mp member).resolve_right same))
      · rw [unsubscribing.unread] at member
        refine .inr (.inr (.inl ((List.mem_append.mp member).resolve_right fun new => same ?_)))
        exact List.mem_singleton.mp new
      · exact .inr (.inr (.inr ⟨data, unsubscribing.held data member, decodes⟩))
  -- what is pending now was pending, or is so at this node pubsub
  have either (other : Name) (listed : other ∈ shardPending ((p.withPubsub place t).notePending t).base) :
      other ∈ shardPending p.base ∨ other ∈ shardPending t.pubsub :=
    (List.mem_append.mp listed).imp id fun new => (List.mem_filter.mp new).1
  refine ⟨(grown_withPubsub p place t).unique sound.unique, fun item member => ?_⟩
  rcases mem_withPubsub (p := p) member with rfl | ⟨old, apart⟩
  · have kept : ∀ other ∈ shardPending s.pubsub, other ∈ shardPending t.pubsub := fun other member =>
      (unsubscribing.pending other).mpr (.inl member)
    refine ⟨unsubscribing.unique fits.unique, fun other member => ?_, fun other listed member => ?_,
      fun other member => ?_, placed⟩
    · exact (fits.known other (unsubscribing.names ▸ member)).imp id (kept other)
    · rcases either other listed with before | now
      · exact kept other (fits.pending other before (unsubscribing.names ▸ member))
      · exact now
    · rw [unsubscribing.unread]
      rcases (unsubscribing.pending other).mp member with before | rfl
      · exact List.mem_append_left _ (fits.awaited other before)
      · exact List.mem_append_right _ List.mem_cons_self
  · have others := sound.fits item old
    refine ⟨others.unique, others.known, fun other listed member => ?_, others.awaited, others.placed⟩
    rcases either other listed with before | now
    · exact others.pending other before member
    · have here := placed other (.inr (.inl now))
      have elsewhere := others.placed other (.inl member)
      rw [here] at elsewhere
      exact absurd (Option.some.inj elsewhere).symm apart

variable (config) in
/-- Channels are cancelled where they are subscribed to. -/
structure Cancels (p q : ClusterPubSub H) (cancelled : List (Text × Name)) : Prop where
  sound : Sound config q
  holders : ∀ item ∈ p.nodePubsubs, ∃ later ∈ q.nodePubsubs,
    later.1 = item.1 ∧ shardNames later.2.pubsub = shardNames item.2.pubsub
  sent : ∀ entry ∈ cancelled, ∀ key, config.codec.normalize entry.2 = .ok key →
    ∀ item ∈ p.nodePubsubs, key ∈ shardNames item.2.pubsub → item.1 = entry.1

/-- Nothing is cancelled. -/
theorem Cancels.refl {p : ClusterPubSub H} (sound : Sound config p) : Cancels config p p [] where
  sound := sound
  holders := fun item member => ⟨item, member, rfl, rfl⟩
  sent := nofun

/-- Some channels are cancelled, and then others. -/
theorem Cancels.trans {p q r : ClusterPubSub H} {first second : List (Text × Name)}
    (one : Cancels config p q first) (two : Cancels config q r second) : Cancels config p r (first ++ second) where
  sound := two.sound
  holders := by
    intro item member
    obtain ⟨later, there, place, names⟩ := one.holders item member
    obtain ⟨last, here, same, kept⟩ := two.holders later there
    exact ⟨last, here, same.trans place, kept.trans names⟩
  sent := by
    intro entry member key keyed item there listed
    rcases List.mem_append.mp member with early | late
    · exact one.sent entry early key keyed item there listed
    · obtain ⟨later, here, place, names⟩ := one.holders item there
      rw [← place]
      exact two.sent entry late key keyed later here (names ▸ listed)

/-- A node pubsub that changes keeps its subscriptions. -/
theorem holders_withPubsub {p : ClusterPubSub H} (unique : p.names.Nodup) {place : Text} {s t : Session H Remote}
    (there : (place, s) ∈ p.nodePubsubs) (same : shardNames t.pubsub = shardNames s.pubsub)
    {item : Text × Session H Remote} (member : item ∈ p.nodePubsubs) :
    ∃ later ∈ (p.withPubsub place t).nodePubsubs,
      later.1 = item.1 ∧ shardNames later.2.pubsub = shardNames item.2.pubsub := by
  rw [nodePubsubs_withPubsub]
  refine ⟨_, List.mem_map_of_mem member, ?_⟩
  by_cases here : item.1 = place
  · obtain ⟨name, session⟩ := item
    cases here
    have first := Dict.Unique.get_of_mem unique there
    rw [Dict.Unique.get_of_mem unique member] at first
    cases first
    rw [if_pos rfl]
    exact ⟨rfl, same⟩
  · rw [if_neg here]
    exact ⟨rfl, rfl⟩

variable (config) in
/-- A steady turn of `sunsubscribe` cancels a channel where it is subscribed to. -/
theorem Sound.sunsubscribeOne {p : ClusterPubSub H} (sound : Sound config p) {name : Name}
    (steady : p.SteadyName config name) :
    Cancels config p (p.sunsubscribeOne config name).2.1 (p.sunsubscribeOne config name).2.2 := by
  unfold ClusterPubSub.sunsubscribeOne
  split
  · exact .refl sound
  · next node owner =>
    split
    · exact .refl sound
    · next pubsub q given =>
      have obtained := obtained_getNodePubsub given
      obtain ⟨noted, owned⟩ := (obtained.sound sound).noteOwner name node (obtained.steady steady owner)
      have same : (q.noteOwner config name node).nodePubsubs = q.nodePubsubs := by
        unfold nodePubsubs
        rw [nodePubsubMapping_noteOwner]
      have there : (node.name, pubsub) ∈ (q.noteOwner config name node).nodePubsubs := same ▸ obtained.there
      have kept : ∀ item ∈ p.nodePubsubs, item ∈ (q.noteOwner config name node).nodePubsubs := fun item member =>
        same ▸ obtained.kept item member
      dsimp only
      rcases config.nodeSunsubscribe_cases name pubsub with ⟨e, refused⟩ | ⟨key, t, keyed, ran, unsubscribing⟩
      · rw [refused]
        refine ⟨⟨(grown_withPubsub _ _ _).unique noted.unique, fun item member => ?_⟩,
          fun item member => holders_withPubsub noted.unique there rfl (kept item member), nofun⟩
        rcases mem_withPubsub member with rfl | ⟨old, -⟩
        · exact noted.fits _ there
        · exact noted.fits item old
      · rw [ran]
        refine ⟨noted.unsubscribed there unsubscribing (owned key keyed),
          fun item member => holders_withPubsub noted.unique there unsubscribing.names (kept item member),
          fun entry member other named item listed subscribed => ?_⟩
        rw [List.mem_singleton.mp member] at named ⊢
        have placed := sound.fits item listed |>.placed other (.inl subscribed)
        rcases steady node other owner named with last | free
        · rw [last] at placed
          exact (Option.some.inj placed).symm
        · exact absurd (.inl subscribed) (free item listed)

variable (config) in
/-- The steady loop of `sunsubscribe` cancels channels where they are subscribed to. -/
theorem Sound.sunsubscribeEach {names : List Name} {p : ClusterPubSub H} (sound : Sound config p)
    (steady : SteadyCancelling config names p) :
    Cancels config p (sunsubscribeEach config names p).2.1 (sunsubscribeEach config names p).2.2 := by
  induction names generalizing p with
  | nil => exact .refl sound
  | cons name names ih =>
    obtain ⟨first, rest⟩ := steady
    have one := sound.sunsubscribeOne config first
    rw [ClusterPubSub.sunsubscribeEach]
    split
    · next ran =>
      rw [ran] at one
      exact one
    · next q cancelled ran =>
      rw [ran] at one
      exact one.trans (ih one.sound (rest q cancelled ran))

/-! ## Reading messages -/

variable (config) in
/-- A node pubsub that reads a message keeps the object sound. -/
theorem Sound.read {p : ClusterPubSub H} (sound : Sound config p) {place : Text} {s t : Session H Remote}
    (there : (place, s) ∈ p.nodePubsubs) (reading : config.Reading s t) : Sound config (p.withPubsub place t) := by
  refine ⟨(grown_withPubsub p place t).unique sound.unique, fun item member => ?_⟩
  rcases mem_withPubsub member with rfl | ⟨old, -⟩
  · exact (sound.fits _ there).reading reading
  · exact sound.fits item old

variable (config) in
/-- Polling keeps the object sound. -/
theorem Sound.shardedMessageGenerator {p : ClusterPubSub H} (sound : Sound config p) (left : Nat) :
    Sound config (shardedMessageGenerator config left p).2.1 := by
  induction left generalizing p with
  | zero => exact sound
  | succ left ih =>
    rw [ClusterPubSub.shardedMessageGenerator]
    split
    · exact ⟨sound.unique, sound.fits⟩
    · next name pubsub generator given =>
      have there : (name, pubsub) ∈ p.nodePubsubs := List.mem_of_getElem? (Table.nextValue_ok given).item
      have reading := config.getMessage_reading (sound.fits _ there).unique false
      have polled : Sound config { p with pubsubsGenerator := generator } := ⟨sound.unique, sound.fits⟩
      have after := polled.read config there reading
      split
      · next ran =>
        rw [ran] at after
        exact after
      · next ran =>
        rw [ran] at after
        exact after
      · next ran =>
        rw [ran] at after
        exact ih after

variable (config) in
/-- Reading from the target keeps the object sound. -/
theorem Sound.targetedMessage {p : ClusterPubSub H} (sound : Sound config p) (ignoreSubscribeMessages : Bool)
    (targetNode : Text) : Sound config (p.targetedMessage config ignoreSubscribeMessages targetNode).2 := by
  unfold ClusterPubSub.targetedMessage
  split
  · exact sound
  · next pubsub found =>
    have there := Dict.mem_of_get found
    have after := sound.read config there
      (config.getMessage_reading (sound.fits _ there).unique ignoreSubscribeMessages)
    split
    · next ran =>
      rw [ran] at after
      exact after
    · next ran =>
      rw [ran] at after
      exact after

/-- A node pubsub that goes leaves the others alone. -/
theorem Sound.releasePubsub {p : ClusterPubSub H} (sound : Sound config p) (node : ShardNode) :
    Sound config (p.releasePubsub node).2 := by
  refine ⟨(shrunk_releasePubsub p node).unique sound.unique, ?_⟩
  unfold ClusterPubSub.releasePubsub
  split
  · exact sound.fits
  · split
    · exact sound.fits
    · intro item member
      have left : (p.nodePubsubMapping.pop node.name).items =
        p.nodePubsubMapping.items.filter fun item => item.1 ≠ node.name := Table.items_pop _ _
      replace member : item ∈ (p.nodePubsubMapping.pop node.name).items := member
      rw [left] at member
      exact sound.fits item (List.mem_filter.mp member).1

variable (config) in
/-- What is noted about a message keeps the object sound. -/
theorem Sound.noteMessage {p : ClusterPubSub H} (sound : Sound config p) (message : Message) :
    Sound config (p.noteMessage config message).2 := by
  unfold ClusterPubSub.noteMessage
  split
  · next channel _ _ =>
    split
    · next pending =>
      have dropped : Sound config { p with base := p.base.drop .shard channel } :=
        ⟨sound.unique, fun item member => (sound.fits item member).drop pending⟩
      dsimp only
      split
      · exact dropped
      · exact dropped.releasePubsub _
    · exact sound
  · exact sound

/-- The event is not about channels. -/
theorem Sound.clearEvent {p : ClusterPubSub H} (sound : Sound config p) : Sound config p.clearEvent := by
  unfold ClusterPubSub.clearEvent
  split
  · exact sound
  · exact ⟨sound.unique, fun item member => (sound.fits item member).congr rfl⟩

variable (config) in
/-- The rest of `get_sharded_message` keeps the object sound. -/
theorem Sound.finishMessage {p : ClusterPubSub H} (sound : Sound config p) (ignoreSubscribeMessages : Bool)
    (received : ShardReceived) : Sound config (p.finishMessage config ignoreSubscribeMessages received).2 := by
  unfold ClusterPubSub.finishMessage
  split
  · exact sound
  · exact sound
  · exact sound
  · exact sound
  · next message =>
    have noted := sound.noteMessage config message
    split
    · next ran =>
      rw [ran] at noted
      exact noted
    · next ran =>
      rw [ran] at noted
      split <;> exact noted.clearEvent

/-- A message that is sent to a node pubsub. -/
theorem Sound.publish {p : ClusterPubSub H} (sound : Sound config p) {place : Text} {s : Session H Remote}
    (there : (place, s) ∈ p.nodePubsubs) (published : Published) :
    Sound config (p.withPubsub place { s with wire.inbox := s.wire.inbox ++ [published.push] }) := by
  have same : config.unread { s with wire.inbox := s.wire.inbox ++ [published.push] } = config.unread s := by
    unfold ShardConfig.unread
    rw [removals_append]
    cases published <;> exact List.append_nil _
  refine sound.read config there ⟨id, fun _ member => member, fun _ _ member => member, fun _ member => member,
    fun _ _ member => same ▸ member, fun _ member => same ▸ member, rfl⟩

/-- A subscription that a node ends. -/
theorem Sound.evict {p : ClusterPubSub H} (sound : Sound config p) {place : Text} {s : Session H Remote}
    (there : (place, s) ∈ p.nodePubsubs) {data : Bytes} (held : data ∈ s.wire.server.held .shard) :
    Sound config (p.withPubsub place { s with wire := s.wire.unsubscribeOne .shard data }) := by
  obtain ⟨left, inbox⟩ := unsubscribed_names config.codec .shard [data] s.wire
  refine ⟨(grown_withPubsub p place _).unique sound.unique, fun item member => ?_⟩
  rcases mem_withPubsub member with rfl | ⟨old, -⟩
  · have fits := sound.fits _ there
    have more : config.unread { s with wire := s.wire.unsubscribeOne .shard data } =
        config.unread s ++ [data].filterMap fun data => (config.codec.decode false (.bytes data)).toOption := by
      unfold ShardConfig.unread
      exact (inbox .shard).trans (by rw [if_pos rfl])
    refine ⟨fits.unique, fits.known, fits.pending, fun key member => ?_, fun key concerns => fits.placed key ?_⟩
    · rw [more]
      exact List.mem_append_left _ (fits.awaited key member)
    · rcases concerns with member | member | member | ⟨other, member, decodes⟩
      · exact .inl member
      · exact .inr (.inl member)
      · rw [more] at member
        rcases List.mem_append.mp member with before | now
        · exact .inr (.inr (.inl before))
        · obtain ⟨known, listed, decodes⟩ := List.mem_filterMap.mp now
          rw [List.mem_singleton.mp listed] at decodes
          refine .inr (.inr (.inr ⟨data, held, ?_⟩))
          cases read : config.codec.decode false (.bytes data) with
          | ok name =>
            rw [read] at decodes
            rw [Option.some.inj decodes]
          | error e =>
            rw [read] at decodes
            cases decodes
      · exact .inr (.inr (.inr ⟨other, ((left .shard other).mp member).1, decodes⟩))
  · exact sound.fits item old

variable (config) in
/-- A steady step keeps the object sound. -/
theorem Sound.step {p : ClusterPubSub H} (sound : Sound config p) {call : ShardCall H}
    (steady : SteadyCall config p call) : Sound config (p.step config call) := by
  cases call with
  | ssubscribe args kwargs =>
    show Sound config (p.ssubscribe config args kwargs).2
    unfold ClusterPubSub.ssubscribe
    split
    · exact sound
    · next items given => exact sound.ssubscribeEach config (steady items given)
  | sunsubscribe args => exact (sound.sunsubscribeEach config steady).sound
  | getShardedMessage ignoreSubscribeMessages targetNode =>
    cases targetNode with
    | none => exact (sound.shardedMessageGenerator config _).finishMessage config _ _
    | some targetNode => exact (sound.targetedMessage config _ _).finishMessage config _ _
  | refresh slotsCache => exact ⟨sound.unique, sound.fits⟩
  | publish node published =>
    unfold ClusterPubSub.step ClusterPubSub.call
    dsimp only
    split
    · exact sound
    · next found => exact sound.publish (Dict.mem_of_get found) published
  | evict node data =>
    unfold ClusterPubSub.step ClusterPubSub.call
    dsimp only
    split
    · exact sound
    · next found =>
      split
      · next held => exact sound.evict (Dict.mem_of_get found) (List.contains_iff_mem.mp held)
      · exact sound

/-! ## Runs -/

/-- The owner of the slot of the next pending channel has a node pubsub. -/
theorem SteadyNext.owned {p : ClusterPubSub H} (steady : p.SteadyNext config) (sound : Sound config p)
    {item : Text × Session H Remote} (there : item ∈ p.nodePubsubs) {push : Push Bytes}
    (next : push ∈ item.2.wire.inbox.head?) {key : Name} (pending : key ∈ p.base.shardChannels.pending)
    (removes : removal config.codec .shard push = some key) :
    ∃ node, p.getNodeFromKey config key = .ok node ∧ node.name ∈ p.names := by
  obtain ⟨node, owner, last | named⟩ := steady item there push next key pending removes
  · refine ⟨node, owner, ?_⟩
    have waiting : key ∈ config.unread item.2 :=
      List.mem_filterMap.mpr ⟨push, List.mem_of_mem_head? next, removes⟩
    have placed := (sound.fits item there).placed key (.inr (.inr (.inl waiting)))
    rw [last] at placed
    rw [Option.some.inj placed]
    exact List.mem_map_of_mem there
  · exact ⟨node, owner, named⟩

/-- The outcome is that of the last part. -/
theorem finishMessage_answered {p : ClusterPubSub H} {received : ShardReceived}
    (noted : ∀ message, received = .message (some message) → (p.noteMessage config message).1 = .ok ())
    (ignoreSubscribeMessages : Bool) (e : Exc) :
    (p.finishMessage config ignoreSubscribeMessages received).1 ≠ .noteRaised e := by
  cases received with
  | message message =>
    cases message with
    | none => nofun
    | some message =>
      obtain ⟨shown, returned⟩ := finishMessage_noted (noted message rfl) ignoreSubscribeMessages
      rw [returned]
      nofun
  | nodeRaised stop => nofun
  | noTarget => nofun
  | noValue reason => nofun

/-- A message of the target was the next one of its pubsub. -/
theorem targetedMessage_message {p : ClusterPubSub H} {ignoreSubscribeMessages : Bool} {targetNode : Text}
    {message : Message}
    (received : (p.targetedMessage config ignoreSubscribeMessages targetNode).1 = .message (some message)) :
    ∃ pubsub after, (targetNode, pubsub) ∈ p.nodePubsubs ∧
      config.getMessage ignoreSubscribeMessages pubsub = .ok (some message) after ∧
      (p.targetedMessage config ignoreSubscribeMessages targetNode).2 = p.withPubsub targetNode after := by
  unfold targetedMessage at received ⊢
  cases found : p.nodePubsubs.get targetNode with
  | none =>
    rw [found] at received
    cases received
  | some pubsub =>
    rw [found] at received
    dsimp only at received ⊢
    cases read : config.getMessage ignoreSubscribeMessages pubsub with
    | error e after =>
      rw [read] at received
      cases received
    | ok got after =>
      rw [read] at received
      cases received
      exact ⟨pubsub, after, Dict.mem_of_get found, read, rfl⟩

/-- The calls about channels end by themselves. -/
theorem outcomeOf_answered (result : Except Stop Unit) (e : Exc) : outcomeOf result ≠ .noteRaised e := by
  cases result <;> nofun

/-- A message that is received in a steady step is processed. -/
theorem Sound.processed {p : ClusterPubSub H} (sound : Sound config p) {call : ShardCall H}
    (steady : SteadyCall config p call) (e : Exc) : (p.call config call).2.outcome ≠ .noteRaised e := by
  cases call with
  | ssubscribe args kwargs => exact outcomeOf_answered _ e
  | sunsubscribe args => exact outcomeOf_answered _ e
  | getShardedMessage ignoreSubscribeMessages targetNode =>
    have next (item : Text × Session H Remote) (there : item ∈ p.nodePubsubs) {message : Message}
        {after : Session H Remote} {ignoring : Bool} (read : config.getMessage ignoring item.2 = .ok (some message) after) :
        ∀ channel ∈ p.base.shardChannels.pending, message.type = .unsubscribe .shard → message.channel = some channel →
          ∃ node, p.getNodeFromKey config channel = .ok node ∧ node.name ∈ p.names := by
      intro channel pending type about
      obtain ⟨push, next, response, decoded, shown⟩ := getMessage_some read
      exact SteadyNext.owned steady sound there next pending (removal_of_message decoded shown type about)
    cases targetNode with
    | none =>
      have polled := polled_shardedMessageGenerator config p.nodePubsubMapping.size p
      have turned := turned_shardedMessageGenerator config p.nodePubsubMapping.size p
      refine finishMessage_answered (fun message received => noteMessage_ok ?_) ignoreSubscribeMessages e
      obtain ⟨turn, -, name, pubsub, after, there, read⟩ :=
        shardedMessageGenerator_message config sound.unique (Nat.le_of_eq p.size_eq_names) received
      rw [polled.base, names_congr turned.layout]
      intro channel pending type about
      rw [getNodeFromKey_congr config polled.slotsCache]
      exact next _ (List.mem_of_getElem? there) read channel pending type about
    | some targetNode =>
      show ((p.targetedMessage config ignoreSubscribeMessages targetNode).2.finishMessage config
        ignoreSubscribeMessages (p.targetedMessage config ignoreSubscribeMessages targetNode).1).1 ≠ _
      refine finishMessage_answered (fun message received => noteMessage_ok ?_) ignoreSubscribeMessages e
      obtain ⟨pubsub, after, there, read, ran⟩ := targetedMessage_message received
      rw [ran, names_congr (p.layout_withPubsub targetNode after)]
      exact next _ there read
  | refresh slotsCache => nofun
  | publish node published => nofun
  | evict node data => nofun

/-- Channels are cancelled where they were subscribed to in a steady step. -/
theorem Sound.cancelledWhereMade {p : ClusterPubSub H} (sound : Sound config p) {call : ShardCall H}
    (steady : SteadyCall config p call) : CancelledWhereMade config p call where
  sent := by
    cases call with
    | sunsubscribe args => exact (sound.sunsubscribeEach config steady).sent
    | ssubscribe args kwargs => nofun
    | getShardedMessage ignoreSubscribeMessages targetNode => cases targetNode <;> nofun
    | refresh slotsCache => nofun
    | publish node published => nofun
    | evict node data => nofun
  processed := sound.processed steady
  known := by
    intro settled item member key subscribed
    have fits := (sound.step config steady).fits item member
    refine (fits.known key subscribed).resolve_right fun pending => ?_
    have waiting := fits.awaited key pending
    rw [settled item member] at waiting
    cases waiting

/-- All slots have moved to one node. -/
def oneNode : Nat → Option ShardNode := fun _ => some { name := ['A'], connected := true }

/-- A slot moves between a subscription and its unsubscription. -/
def movedBetween : List (ShardCall Unit) :=
  [.ssubscribe (one "a") [], .ssubscribe (one "b") [], .refresh oneNode, .sunsubscribe (one "a")]

/-- Then all messages are read. -/
def movedAndRead : List (ShardCall Unit) :=
  movedBetween ++ List.replicate 4 (.getShardedMessage false none)

/-- A slot moves between an unsubscription and its confirmation. -/
def movedBefore : List (ShardCall Unit) :=
  [.ssubscribe (one "a") [], .getShardedMessage false none, .sunsubscribe (one "a"), .refresh oneNode,
    .getShardedMessage false none]

end ClusterPubSub

end RedisPy.Channels

import Mathlib.Data.List.Nodup
import RedisPy.PubSub.Bookkeeping

/-!
# What a reconnection restores

A connection is lost after any calls, with any of their confirmations handled, and `on_connect`
runs on a new one. The names that the application asked for last, with their handlers, are kept
beside the run, and compared with what the new server holds and with the dictionaries once the
new confirmations are handled.
-/

namespace RedisPy.Channels

open Contract Runs
open Interruptible (bind_of_ok ok_bind ok_of_bind pure_ok)

variable {H : Type}

/-! ## What an application asks for -/

/-- The octets of the names whose latest request was a subscription, with their handlers. -/
abbrev Wishes (H : Type) := Kind → Dict Bytes (Option H)

namespace Wishes

/-- Other wishes of a kind. -/
def withKind (wishes : Wishes H) (kind : Kind) (names : Dict Bytes (Option H)) : Wishes H :=
  fun other => if other = kind then names else wishes other

/-- The wishes after a call that returned. -/
def after (flavor : Flavor) (codec : Codec) (wishes : Wishes H) : Call H → Wishes H
  | .subscribe kind args kwargs =>
    match positional flavor { subscribes := true, kind } args with
    | .ok names =>
      match changeKeys codec.encode (newNames names (nameKeywords kind kwargs)) with
      | .ok items => wishes.withKind kind ((wishes kind).update items)
      | .error _ => wishes
    | .error _ => wishes
  | .unsubscribe kind none => wishes.withKind kind []
  | .unsubscribe kind (some args) =>
    match positional flavor { subscribes := false, kind } (some args) with
    | .ok names =>
      match names.mapM codec.encode with
      | .ok [] => wishes.withKind kind []
      | .ok octets => wishes.withKind kind (octets.foldl Dict.erase (wishes kind))
      | .error _ => wishes
    | .error _ => wishes
  | .handle _ => wishes
  | .publish _ => wishes

end Wishes

/-- A session, and what the application asked for. -/
structure App (H : Type) where
  session : Session H Remote
  wishes : Wishes H

section Runs

variable (flavor : Flavor) (codec : Codec) (order : ServerOrder)

/-- The state after a step; a call that raised asked for nothing. -/
def App.next (a : App H) (call : Call H) : App H where
  session := Channels.next flavor codec order a.session call
  wishes :=
    match call.run flavor codec order a.session with
    | .ok _ _ => a.wishes.after flavor codec call
    | .error _ _ => a.wishes

/-- A new object on a new connection. -/
def App.start : App H where
  session := Channels.start
  wishes _ := []

/-- The connection is lost, and `on_connect` runs on a new one. -/
def reconnect (s : Session H Remote) : EStateM.Result Stop (Session H Remote) Unit :=
  onConnect flavor codec (sendCommand codec order)
    { s with wire := { server := { held := fun _ => [] }, inbox := [] } }

/-- As many messages are handled as have arrived. -/
def settle (s : Session H Remote) : Session H Remote :=
  s.wire.inbox.foldl (fun s _ => stateAfter (handleNext codec false s)) s

/-- The new server holds what was asked for, and once the confirmations are handled the
dictionaries have exactly these names, with their handlers. -/
structure Restored (before : App H) (after : Session H Remote) : Prop where
  resubscribed : ∀ kind ∈ flavor.kinds, ∀ data,
    data ∈ after.wire.server.held kind ↔ data ∈ (before.wishes kind).keys
  settled : (settle codec after).wire.inbox = []
  names : ∀ kind ∈ flavor.kinds, ∀ key handler,
    ((settle codec after).pubsub.of kind).names.get key = some handler ↔
      ∃ data, (before.wishes kind).get data = some handler ∧
        codec.decode false (.bytes data) = .ok key

/-- `on_connect` succeeds, and restores what was asked for. -/
def Restores (a : App H) : Prop :=
  ∃ after, reconnect flavor codec order a.session = .ok () after ∧ Restored flavor codec a after

/-- Octets that survive as a keyword argument: their text encodes to them, and no parameter of the
method has it as its name. -/
def Recoverable (kind : Kind) (data : Bytes) : Prop :=
  ∃ text, codec.decodeBytes data = some text ∧ codec.encodeText text = .ok data ∧
    text ≠ selfWord ∧ (kind = .shard → text ≠ targetNode)

/-- A call whose names survive a reconnection. -/
def Survives : Call H → Prop
  | .subscribe kind args kwargs => kind ∈ flavor.kinds ∧
    ∀ names, positional flavor { subscribes := true, kind } args = .ok names →
      ∀ name ∈ (newNames names (nameKeywords kind kwargs)).keys, ∀ data,
        codec.encode name = .ok data → Recoverable codec kind data
  | .unsubscribe kind _ => kind ∈ flavor.kinds
  | .handle _ => True
  | .publish _ => True

/-- A call that keeps the agreement with the server and whose names survive. -/
def Restorable (a : App H) (call : Call H) : Prop :=
  Allowed flavor codec a.session call ∧ Survives flavor codec call

/-- Nothing that is subscribed to is pending. -/
def NothingLeaving (p : PubSub H) : Prop :=
  ∀ kind ∈ flavor.kinds, ∀ key ∈ (p.of kind).names.keys, key ∉ (p.of kind).pending

end Runs

/-! ## What a run remembers -/

section Remembering

variable {flavor : Flavor} {codec : Codec} {order : ServerOrder}

/-- Other wishes of one kind leave the other kinds alone. -/
theorem Wishes.withKind_apply (wishes : Wishes H) (kind other : Kind)
    (names : Dict Bytes (Option H)) :
    wishes.withKind kind names other = if other = kind then names else wishes other := rfl

/-- What every restorable call preserves. -/
structure Remembers (codec : Codec) (a : App H) : Prop where
  /-- The object is in step with the server. -/
  inStep : InStep codec a.session
  /-- The server holds what is asked for. -/
  held : ∀ kind data, data ∈ a.session.wire.server.held kind ↔ data ∈ (a.wishes kind).keys
  /-- No name is asked for twice. -/
  unique : ∀ kind, (a.wishes kind).Unique
  /-- The handlers are the latest ones. -/
  handlers : ∀ kind, ∀ data ∈ (a.wishes kind).keys, ∀ key,
    codec.decode false (.bytes data) = .ok key →
      (a.session.pubsub.of kind).names.get key = (a.wishes kind).get data
  /-- Every name that is subscribed to survives a reconnection. -/
  recoverable : ∀ kind, ∀ key ∈ (a.session.pubsub.of kind).names.keys,
    ∃ data, Recoverable codec kind data ∧ codec.decode false (.bytes data) = .ok key

/-- Recoverable octets are told from all others. -/
theorem Recoverable.faithful {kind : Kind} {data : Bytes} (recoverable : Recoverable codec kind data) :
    Faithful codec data := by
  obtain ⟨text, decodes, encodes, -⟩ := recoverable
  exact .inr ⟨text, decodes, encodes⟩

/-- At the beginning nothing is asked for. -/
theorem remembers_start : Remembers codec (App.start : App H) where
  inStep := inStep_start
  held kind data := by simp [App.start, start, Dict.keys]
  unique _ := List.nodup_nil
  handlers _ _ member := by cases member
  recoverable kind key member := by cases kind <;> cases member

/-- The changed names are stored once each. -/
theorem unique_changeKeys {κ ω υ : Type} [BEq ω] [LawfulBEq ω] {change : κ → Except Exc ω}
    {data : Dict κ υ} {changed : Dict ω υ} (ran : changeKeys change data = .ok changed) :
    changed.Unique := by
  induction data using List.reverseRecOn generalizing changed with
  | nil =>
    cases ran
    exact List.nodup_nil
  | append_singleton data item ih =>
    rw [changeKeys_append] at ran
    obtain ⟨others, before, rest⟩ := ok_of_bind ran
    obtain ⟨key, -, last⟩ := ok_of_bind rest
    cases last
    exact (ih before).set key item.2

/-- The octets of names and the keys of names have the same values. -/
theorem get_changeKeys {υ : Type} {new : Dict Name υ} {items : Dict Bytes υ}
    {normalized : Dict Name υ} (encoded : changeKeys codec.encode new = .ok items)
    (keyed : normalizeKeys codec new = .ok normalized)
    (faithful : ∀ name ∈ new.keys, ∀ data, codec.encode name = .ok data → Faithful codec data)
    {data : Bytes} {key : Name} (own : Faithful codec data)
    (read : codec.decode false (.bytes data) = .ok key) : items.get data = normalized.get key := by
  unfold normalizeKeys at keyed
  induction new using List.reverseRecOn generalizing items normalized with
  | nil =>
    cases encoded
    cases keyed
    rfl
  | append_singleton new item ih =>
    rw [changeKeys_append] at encoded keyed
    obtain ⟨others, beforeItems, rest⟩ := ok_of_bind encoded
    obtain ⟨octets, first, last⟩ := ok_of_bind rest
    cases last
    obtain ⟨otherKeys, beforeKeys, rest⟩ := ok_of_bind keyed
    obtain ⟨name, normal, last⟩ := ok_of_bind rest
    cases last
    have member : item.1 ∈ Dict.keys (new ++ [item]) := by simp [Dict.keys]
    have decoded : codec.decode false (.bytes octets) = .ok name := by
      unfold Codec.normalize at normal
      rw [first] at normal
      exact normal
    have earlier : others.get data = otherKeys.get key :=
      ih beforeItems beforeKeys fun other inside => faithful other (by
        simp only [Dict.keys, List.map_append, List.mem_append]
        exact .inl inside)
    by_cases same : octets = data
    · subst same
      rw [read] at decoded
      cases decoded
      rw [Dict.get_set_self, Dict.get_set_self]
    · have apart : name ≠ key := by
        rintro rfl
        exact same ((faithful item.1 member octets first).injective own (decoded.trans read.symm))
      rw [Dict.get_set_ne others item.2 same, Dict.get_set_ne otherKeys item.2 apart]
      exact earlier

/-- A subscription is remembered. -/
theorem Remembers.subscribed {a : App H} (remembers : Remembers codec a) (kind : Kind)
    {new normalized : Dict Name (Option H)} {encoded : List Bytes} {items : Dict Bytes (Option H)}
    (some : new ≠ [])
    (survives : ∀ name ∈ new.keys, ∀ data, codec.encode name = .ok data →
      Recoverable codec kind data)
    (read : new.keys.mapM codec.encode = .ok encoded)
    (keyed : normalizeKeys codec new = .ok normalized)
    (asked : changeKeys codec.encode new = .ok items) :
    Remembers codec
      { session :=
          { pubsub := a.session.pubsub.noteSubscribed kind normalized
            wire := a.session.wire.serve order { subscribes := true, kind } encoded }
        wishes := a.wishes.withKind kind ((a.wishes kind).update items) } := by
  have faithful : FaithfulNames codec new.keys :=
    fun name member data found => (survives name member data found).faithful
  have octets (data : Bytes) : data ∈ encoded ↔ data ∈ items.keys :=
    (mem_encoded read data).trans (mem_keys_changeKeys asked data).symm
  have served := (serve_subscribe codec order kind encoded a.session.wire).1
  constructor
  · exact remembers.inStep.subscribed kind some faithful read keyed
  · intro other data
    dsimp only
    rw [served, Wishes.withKind_apply]
    by_cases here : other = kind
    · subst here
      rw [if_pos rfl, Dict.mem_keys_update, ← octets, remembers.held]
      simp
    · rw [if_neg here, remembers.held]
      simp [here]
  · intro other
    dsimp only
    rw [Wishes.withKind_apply]
    split
    · exact (remembers.unique kind).update items
    · exact remembers.unique other
  · intro other data member key decoded
    dsimp only at member ⊢
    rw [Wishes.withKind_apply] at member ⊢
    rw [PubSub.of_noteSubscribed]
    by_cases here : other = kind
    · subst here
      rw [if_pos rfl] at member ⊢
      rw [if_pos rfl]
      have own : Faithful codec data := by
        rcases Dict.mem_keys_update.mp member with old | new
        · exact remembers.inStep.faithful other data ((remembers.held other data).mpr old)
        · obtain ⟨name, named, found⟩ := (mem_keys_changeKeys asked data).mp new
          exact faithful name named data found
      have same : items.get data = normalized.get key :=
        get_changeKeys asked keyed faithful own decoded
      show ((a.session.pubsub.of other).names.update normalized).get key = _
      rw [Dict.get_update (unique_changeKeys keyed), Dict.get_update (unique_changeKeys asked), same]
      cases found : normalized.get key with
      | some handler => rfl
      | none =>
        rw [found] at same
        rcases Dict.mem_keys_update.mp member with old | new
        · exact remembers.handlers other data old key decoded
        · have stored := Dict.isSome_get_iff.mpr new
          rw [same] at stored
          cases stored
    · rw [if_neg here] at member ⊢
      rw [if_neg here]
      exact remembers.handlers other data member key decoded
  · intro other key member
    dsimp only at member
    rw [PubSub.of_noteSubscribed] at member
    by_cases here : other = kind
    · subst here
      rw [if_pos rfl] at member
      rcases Dict.mem_keys_update.mp member with old | new
      · exact remembers.recoverable other key old
      · obtain ⟨name, named, normal⟩ := (mem_keys_changeKeys keyed key).mp new
        obtain ⟨data, found, decoded⟩ := ok_of_bind normal
        exact ⟨data, survives name named data found, decoded⟩
    · rw [if_neg here] at member
      exact remembers.recoverable other key member

/-- An unsubscription is remembered. -/
theorem Remembers.unsubscribed {a : App H} (remembers : Remembers codec a) (kind : Kind)
    {keys : List Name} {wire : Remote} {names : Dict Bytes (Option H)}
    (inStep : InStep codec { pubsub := a.session.pubsub.notePending kind keys, wire })
    (held : ∀ other data, data ∈ wire.server.held other ↔
      data ∈ (a.wishes.withKind kind names other).keys)
    (unique : names.Unique)
    (fewer : ∀ data ∈ names.keys, data ∈ (a.wishes kind).keys ∧
      names.get data = (a.wishes kind).get data) :
    Remembers codec
      { session := { pubsub := a.session.pubsub.notePending kind keys, wire }
        wishes := a.wishes.withKind kind names } := by
  have same (other : Kind) : ((a.session.pubsub.notePending kind keys).of other).names =
      (a.session.pubsub.of other).names := by
    rw [PubSub.of_notePending]
    split
    · rename_i here
      rw [here]
    · rfl
  refine { inStep, held, unique := fun other => ?_, handlers := ?_, recoverable := ?_ }
  · show (a.wishes.withKind kind names other).Unique
    rw [Wishes.withKind_apply]
    split
    · exact unique
    · exact remembers.unique other
  · intro other data member key decoded
    dsimp only at member ⊢
    rw [same]
    rw [Wishes.withKind_apply] at member ⊢
    by_cases here : other = kind
    · subst here
      rw [if_pos rfl] at member ⊢
      obtain ⟨old, found⟩ := fewer data member
      rw [found]
      exact remembers.handlers other data old key decoded
    · rw [if_neg here] at member ⊢
      exact remembers.handlers other data member key decoded
  · intro other key member
    dsimp only at member
    rw [same] at member
    exact remembers.recoverable other key member

/-- A handled message is remembered. -/
theorem Remembers.handled {a : App H} (remembers : Remembers codec a)
    (ignoreSubscribeMessages : Bool) :
    Remembers codec { a with
      session := stateAfter (handleNext codec ignoreSubscribeMessages a.session) } := by
  have inStep := remembers.inStep.handled ignoreSubscribeMessages
  cases inbox : a.session.wire.inbox with
  | nil =>
    rw [handleNext_nil codec ignoreSubscribeMessages inbox]
    exact remembers
  | cons push rest =>
    rcases handleNext_cons codec ignoreSubscribeMessages inbox with
      ⟨e, read, done⟩ | ⟨response, read, done⟩
    · rw [done] at inStep ⊢
      exact { remembers with inStep }
    · rw [done] at inStep ⊢
      refine {
        inStep
        held := remembers.held
        unique := remembers.unique
        handlers := ?_
        recoverable := ?_ }
      · intro kind data member key decoded
        have same := remembers.handlers kind data member key decoded
        dsimp only
        rw [of_noteMessage]
        cases removed kind response with
        | none => exact same
        | some name =>
          simp only [PubSub.of_drop, true_and]
          split
          · rename_i pending
            have present : key ∈ (mirror codec kind a.session).held :=
              ⟨data, (remembers.held kind data).mpr member, decoded⟩
            have differs : key ≠ name := by
              rintro rfl
              exact (remembers.inStep.mirrored kind).apart key pending present
            rw [Dict.get_erase_ne _ differs]
            exact same
          · exact same
      · intro kind key member
        dsimp only at member
        rw [of_noteMessage] at member
        cases found : removed kind response with
        | none =>
          rw [found] at member
          exact remembers.recoverable kind key member
        | some name =>
          rw [found] at member
          simp only [PubSub.of_drop, true_and] at member
          split at member
          · exact remembers.recoverable kind key
              ((Dict.mem_keys_erase (remembers.inStep.unique kind)).mp member).1
          · exact remembers.recoverable kind key member

/-- Removing keys one after the other leaves the others. -/
theorem foldl_erase {υ : Type} {names : Dict Bytes υ} (unique : names.Unique) (octets : List Bytes) :
    (octets.foldl Dict.erase names).Unique ∧
    (∀ data, data ∈ (octets.foldl Dict.erase names).keys ↔ data ∈ names.keys ∧ data ∉ octets) ∧
    ∀ data, data ∉ octets → (octets.foldl Dict.erase names).get data = names.get data := by
  induction octets generalizing names with
  | nil => exact ⟨unique, fun data => by simp, fun _ _ => rfl⟩
  | cons first octets ih =>
    obtain ⟨still, keys, values⟩ := ih (unique.erase first)
    refine ⟨still, fun data => ?_, fun data absent => ?_⟩
    · rw [List.foldl_cons, keys, Dict.mem_keys_erase unique, List.mem_cons]
      tauto
    · rw [List.mem_cons, not_or] at absent
      rw [List.foldl_cons, values data absent.2, Dict.get_erase_ne names absent.1]

/-- An unsubscription from everything takes away what is asked for. -/
theorem Remembers.held_unsubscribed_all {a : App H} (remembers : Remembers codec a) (kind other : Kind)
    (data : Bytes) :
    data ∈ (a.session.wire.serve order { subscribes := false, kind } []).server.held other ↔
      data ∈ (a.wishes.withKind kind [] other).keys := by
  have served := (serve_unsubscribe_all codec order kind a.session.wire).1
  rw [served, Wishes.withKind_apply, remembers.held]
  by_cases here : other = kind
  · simp [here, Dict.keys]
  · simp [here]

/-- An unsubscription from some names is remembered. -/
theorem Remembers.unsubscribed_some {a : App H} (remembers : Remembers codec a) (kind : Kind)
    {names : List Name} {encoded : List Bytes} {normalized : Dict Name Unit}
    (faithful : FaithfulNames codec names)
    (leaving : names = [] → ∀ key ∈ (a.session.pubsub.of kind).names.keys,
      key ∈ (a.session.pubsub.of kind).pending)
    (read : names.mapM codec.encode = .ok encoded)
    (keyed : normalizeKeys codec (Dict.fromKeys names ()) = .ok normalized) :
    Remembers codec
      { session :=
          { pubsub := a.session.pubsub.notePending kind normalized.keys
            wire := a.session.wire.serve order { subscribes := false, kind } encoded }
        wishes := a.wishes.withKind kind
          (if encoded = [] then [] else encoded.foldl Dict.erase (a.wishes kind)) } := by
  have inStep := remembers.inStep.unsubscribed_some order kind faithful leaving read keyed
  by_cases none : encoded = []
  · subst none
    rw [if_pos rfl]
    exact remembers.unsubscribed kind inStep (remembers.held_unsubscribed_all kind)
      List.nodup_nil fun data member => by cases member
  · have served := (serve_unsubscribe codec order kind none a.session.wire).1
    obtain ⟨unique, keys, values⟩ := foldl_erase (remembers.unique kind) encoded
    rw [if_neg none]
    refine remembers.unsubscribed kind inStep (fun other data => ?_) unique fun data member => ?_
    · rw [served, Wishes.withKind_apply]
      split
      · rename_i here
        rw [here, keys, remembers.held]
        simp
      · rename_i here
        rw [← remembers.held]
        simp [here]
    · obtain ⟨old, outside⟩ := (keys data).mp member
      exact ⟨old, values data outside⟩

/-- A restorable call is remembered. -/
theorem Remembers.next {a : App H} (remembers : Remembers codec a) (call : Call H)
    (restorable : Restorable flavor codec a call) :
    Remembers codec (a.next flavor codec order call) := by
  obtain ⟨allowed, survives⟩ := restorable
  cases call with
  | subscribe kind args kwargs =>
    obtain ⟨-, survives⟩ := survives
    have run : (Call.subscribe kind args kwargs).run flavor codec order a.session =
      subscribeTo flavor codec (sendCommand codec order) kind args kwargs a.session := rfl
    unfold App.next Channels.next
    rw [run]
    rcases subscribeTo_cases flavor codec order kind args kwargs a.session
      (fun names given => (allowed names given).2) with
      ⟨e, refused⟩ | ⟨names, encoded, normalized, given, read, keyed, sent⟩
    · rw [refused]
      exact remembers
    · obtain ⟨items, asked⟩ := changeKeys_ok (newNames names (nameKeywords kind kwargs))
        (encode_ok read)
      rw [sent]
      have wished : a.wishes.after flavor codec (.subscribe kind args kwargs) =
          a.wishes.withKind kind ((a.wishes kind).update items) := by
        simp only [Wishes.after, given, asked]
      simp only [wished]
      exact remembers.subscribed kind (allowed names given).1 (survives names given) read keyed asked
  | unsubscribe kind args =>
    have run : (Call.unsubscribe kind args).run flavor codec order a.session =
      unsubscribeFrom flavor codec (sendCommand codec order) kind args a.session := rfl
    cases args with
    | none =>
      have inStep := remembers.inStep.next flavor order (.unsubscribe kind none) trivial
      unfold Channels.next at inStep
      unfold App.next Channels.next
      rw [run, unsubscribeFrom_none] at inStep
      rw [run, unsubscribeFrom_none]
      exact remembers.unsubscribed kind inStep (remembers.held_unsubscribed_all kind)
        List.nodup_nil fun data member => by cases member
    | some args =>
      unfold App.next Channels.next
      rw [run]
      rcases unsubscribeFrom_some flavor codec order kind args a.session with
        ⟨e, refused⟩ | ⟨names, encoded, normalized, given, read, keyed, sent⟩
      · rw [refused]
        exact remembers
      · obtain ⟨faithful, leaving⟩ := allowed names given
        rw [sent]
        have wished : a.wishes.after flavor codec (.unsubscribe kind (some args)) =
            a.wishes.withKind kind
              (if encoded = [] then [] else encoded.foldl Dict.erase (a.wishes kind)) := by
          simp only [Wishes.after, given, read]
          cases encoded <;> simp
        simp only [wished]
        exact remembers.unsubscribed_some kind faithful leaving read keyed
  | handle ignoreSubscribeMessages =>
    have same : a.next flavor codec order (.handle ignoreSubscribeMessages) =
        { a with session := stateAfter (handleNext codec ignoreSubscribeMessages a.session) } := by
      unfold App.next
      rw [next_handle]
      cases (Call.handle ignoreSubscribeMessages).run flavor codec order a.session <;> rfl
    rw [same]
    exact remembers.handled ignoreSubscribeMessages
  | publish published =>
    exact { remembers with inStep := remembers.inStep.next flavor order (.publish published) trivial }

end Remembering

/-! ## What `on_connect` does -/

section Resubscribing

variable {flavor : Flavor} (codec : Codec) (order : ServerOrder)

/-- The keyword that `on_connect` makes of a key. -/
def textOf (key : Name) : Text :=
  match codec.decode true key with
  | .ok (.str text) => text
  | _ => []

/-- The octets that are sent for it. -/
def octetsOf (key : Name) : Bytes := (codec.encodeText (textOf codec key)).toOption.getD []

/-- A key that comes back as it was when it has been a keyword. -/
structure ComesBack (kind : Kind) (key : Name) : Prop where
  decodes : codec.decode true key = .ok (.str (textOf codec key))
  encodes : codec.encode (.str (textOf codec key)) = .ok (octetsOf codec key)
  back : codec.decode false (.bytes (octetsOf codec key)) = .ok key
  faithful : Faithful codec (octetsOf codec key)
  unreserved : textOf codec key ≠ selfWord
  untargeted : kind = .shard → textOf codec key ≠ targetNode

variable {codec}

/-- The keys of recoverable octets come back. -/
theorem comesBack_of_recoverable {kind : Kind} {data : Bytes} {key : Name}
    (recoverable : Recoverable codec kind data)
    (read : codec.decode false (.bytes data) = .ok key) : ComesBack codec kind key := by
  have faithful := recoverable.faithful
  obtain ⟨text, decodes, encodes, unreserved, untargeted⟩ := recoverable
  have forced : codec.decode true key = .ok (.str text) := by
    unfold Codec.decode at read
    by_cases decoding : codec.decodeResponses = true
    · simp only [decoding, Bool.true_or, ↓reduceIte, decodes] at read
      cases read
      rfl
    · simp only [Bool.not_eq_true] at decoding
      simp only [decoding, Bool.or_false, Bool.false_eq_true, ↓reduceIte] at read
      cases read
      simp [Codec.decode, decodes]
  have same : textOf codec key = text := by
    unfold textOf
    rw [forced]
  have octets : octetsOf codec key = data := by
    unfold octetsOf
    rw [same, encodes]
    rfl
  constructor
  · rw [same]
    exact forced
  · rw [same, octets]
    exact encodes
  · rw [octets]
    exact read
  · rw [octets]
    exact faithful
  · rw [same]
    exact unreserved
  · rw [same]
    exact untargeted

/-- Different keys have different keywords. -/
theorem ComesBack.injective {kind : Kind} {key other : Name} (back : ComesBack codec kind key)
    (also : ComesBack codec kind other) (same : textOf codec key = textOf codec other) :
    key = other := by
  have octets : octetsOf codec key = octetsOf codec other := by
    unfold octetsOf
    rw [same]
  have read := back.back
  rw [octets, also.back] at read
  exact (Except.ok.inj read).symm

/-- Keys that are changed one by one, to different keys. -/
theorem changeKeys_map {κ γ ω υ : Type} [BEq ω] [LawfulBEq ω] {change : γ → Except Exc ω}
    (given : κ → γ) (made : κ → ω) {data : Dict κ υ}
    (each : ∀ key ∈ data.keys, change (given key) = .ok (made key))
    (distinct : (data.keys.map made).Nodup) :
    changeKeys change (data.map fun item => (given item.1, item.2)) =
      .ok (data.map fun item => (made item.1, item.2)) := by
  induction data using List.reverseRecOn with
  | nil => rfl
  | append_singleton data item ih =>
    have parts : Dict.keys (data ++ [item]) = Dict.keys data ++ [item.1] := by simp [Dict.keys]
    rw [parts, List.map_append, List.nodup_append] at distinct
    have earlier := ih (fun key member => each key (by
      rw [parts]
      exact List.mem_append_left _ member)) distinct.1
    have last := each item.1 (by
      rw [parts]
      exact List.mem_append_right _ List.mem_cons_self)
    have new : made item.1 ∉ Dict.keys (data.map fun item => (made item.1, item.2)) := by
      intro stored
      simp only [Dict.keys, List.map_map, Function.comp_def] at stored
      exact distinct.2.2 (made item.1) (by simpa [Dict.keys, Function.comp_def] using stored)
        (made item.1) (by simp) rfl
    rw [List.map_append, List.map_append, List.map_singleton, List.map_singleton,
      changeKeys_append, earlier]
    simp only [last]
    show Except.ok (Dict.set (data.map fun item => (made item.1, item.2)) (made item.1) item.2) = _
    rw [Dict.set_of_notMem item.2 new]

/-- The names that are made of different keys are different. -/
theorem distinct_texts {kind : Kind} {names : Dict Name (Option H)} (unique : names.Unique)
    (back : ∀ key ∈ names.keys, ComesBack codec kind key) :
    (names.keys.map fun key => Name.str (textOf codec key)).Nodup := by
  refine List.Nodup.map_on (fun key member other also same => ?_) unique
  exact (back key member).injective (back other also) (Name.str.inj same)

/-- `on_connect` makes a keyword of each key. -/
theorem keywords_ok {kind : Kind} {names : Dict Name (Option H)} (unique : names.Unique)
    (back : ∀ key ∈ names.keys, ComesBack codec kind key) :
    keywords codec names = .ok (names.map fun item => (textOf codec item.1, item.2)) := by
  have changed : changeKeys (codec.decode true) names =
      .ok (names.map fun item => (Name.str (textOf codec item.1), item.2)) := by
    have all := changeKeys_map id _ (fun key member => (back key member).decodes)
      (distinct_texts unique back)
    simpa using all
  unfold keywords
  rw [changed]
  simp [ok_bind, List.filterMap_map, pure_ok]

/-- What comes back is noted under the keys it had. -/
theorem normalize_back {kind : Kind} {names : Dict Name (Option H)} (unique : names.Unique)
    (back : ∀ key ∈ names.keys, ComesBack codec kind key) :
    normalizeKeys codec (names.map fun item => (.str (textOf codec item.1), item.2)) = .ok names := by
  have normal (key : Name) (member : key ∈ names.keys) :
      codec.normalize (.str (textOf codec key)) = .ok key := by
    unfold Codec.normalize
    rw [(back key member).encodes]
    exact (back key member).back
  have distinct : (names.keys.map id).Nodup := by
    rw [List.map_id]
    exact unique
  have all := changeKeys_map (fun key => Name.str (textOf codec key)) id normal distinct
  simpa [normalizeKeys] using all

/-- The octets of what comes back. -/
theorem encoded_back {kind : Kind} {keys : List Name}
    (back : ∀ key ∈ keys, ComesBack codec kind key) :
    (keys.map fun key => Name.str (textOf codec key)).mapM codec.encode =
      .ok (keys.map (octetsOf codec)) := by
  induction keys with
  | nil => rfl
  | cons key keys ih =>
    rw [List.map_cons, List.mapM_cons, (back key List.mem_cons_self).encodes,
      ih fun other member => back other (List.mem_cons_of_mem _ member)]
    rfl

/-- No keyword is the name of a parameter. -/
theorem keywords_reserved {names : Dict Name (Option H)} (word : Text)
    (other : ∀ key ∈ names.keys, textOf codec key ≠ word) :
    Dict.contains (names.map fun item => (textOf codec item.1, item.2)) word = false := by
  apply Bool.eq_false_iff.mpr
  intro stored
  have member := Dict.contains_iff_mem_keys.mp stored
  simp only [Dict.keys, List.map_map, Function.comp_def, List.mem_map] at member
  obtain ⟨item, inside, same⟩ := member
  exact other item.1 (List.mem_map_of_mem inside) same

/-- Noting what is noted changes nothing. -/
theorem noteSubscribed_same (p : PubSub H) (kind : Kind) (event : p.subscribedEvent = true)
    (unique : (p.of kind).names.Unique) (none : (p.of kind).pending = []) :
    p.noteSubscribed kind (p.of kind).names = p := by
  have stored : (p.of kind).names.update (p.of kind).names = (p.of kind).names :=
    Dict.update_of_stored fun item member => unique.get_of_mem member
  unfold PubSub.noteSubscribed
  dsimp only
  rw [if_pos event, stored, none]
  cases kind with
  | channel =>
    have same : p.channels = { names := p.channels.names, pending := [] } := by rw [← none]; rfl
    show { p with channels := { names := p.channels.names, pending := [] } } = p
    rw [← same]
  | pattern =>
    have same : p.patterns = { names := p.patterns.names, pending := [] } := by rw [← none]; rfl
    show { p with patterns := { names := p.patterns.names, pending := [] } } = p
    rw [← same]
  | shard =>
    have same : p.shardChannels = { names := p.shardChannels.names, pending := [] } := by
      rw [← none]; rfl
    show { p with shardChannels := { names := p.shardChannels.names, pending := [] } } = p
    rw [← same]

/-- The wire after the names of a kind are subscribed to again. -/
def resubscribed (codec : Codec) (order : ServerOrder) (names : Dict Name (Option H)) (kind : Kind)
    (wire : Remote) : Remote :=
  if names.isEmpty then wire
  else wire.serve order { subscribes := true, kind } (names.keys.map (octetsOf codec))

/-- No keyword is taken for the name of a node. -/
theorem nameKeywords_back {kind : Kind} {names : Dict Name (Option H)}
    (back : ∀ key ∈ names.keys, ComesBack codec kind key) :
    nameKeywords kind (names.map fun item => (textOf codec item.1, item.2)) =
      names.map fun item => (textOf codec item.1, item.2) := by
  unfold nameKeywords
  cases kind with
  | shard =>
    exact Dict.erase_of_contains (keywords_reserved targetNode fun key member =>
      (back key member).untargeted rfl)
  | _ => rfl

/-- The keywords name what they were made of. -/
theorem newNames_back {kind : Kind} {names : Dict Name (Option H)} (unique : names.Unique)
    (back : ∀ key ∈ names.keys, ComesBack codec kind key) :
    newNames [] (names.map fun item => (textOf codec item.1, item.2)) =
      names.map fun item => (Name.str (textOf codec item.1), item.2) := by
  have distinct : Dict.Unique (names.map fun item => (Name.str (textOf codec item.1), item.2)) := by
    have texts := distinct_texts unique back
    simpa [Dict.Unique, Dict.keys, Function.comp_def] using texts
  unfold newNames
  rw [List.map_map]
  exact Dict.update_of_disjoint (d := []) distinct fun key _ => List.not_mem_nil

/-- What comes back is subscribed to, and noted as it is. -/
theorem subscribeTo_back (flavor : Flavor) {kind : Kind} {s : Session H Remote}
    (event : s.pubsub.subscribedEvent = true)
    (unique : (s.pubsub.of kind).names.Unique) (settled : (s.pubsub.of kind).pending = [])
    (back : ∀ key ∈ (s.pubsub.of kind).names.keys, ComesBack codec kind key) :
    subscribeTo flavor codec (sendCommand codec order) kind none
        ((s.pubsub.of kind).names.map fun item => (textOf codec item.1, item.2)) s =
      .ok ()
        { pubsub := s.pubsub
          wire := s.wire.serve order { subscribes := true, kind }
            ((s.pubsub.of kind).names.keys.map (octetsOf codec)) } := by
  have free := keywords_reserved selfWord fun key member => (back key member).unreserved
  have keys : Dict.keys ((s.pubsub.of kind).names.map fun item =>
      (Name.str (textOf codec item.1), item.2)) =
      (s.pubsub.of kind).names.keys.map fun key => Name.str (textOf codec key) := by
    simp [Dict.keys]
  have sent : sendCommand codec order { subscribes := true, kind }
      ((s.pubsub.of kind).names.keys.map fun key => Name.str (textOf codec key)) s =
      .ok ()
        { pubsub := s.pubsub
          wire := s.wire.serve order { subscribes := true, kind }
            ((s.pubsub.of kind).names.keys.map (octetsOf codec)) } := by
    unfold sendCommand
    rw [encoded_back back]
    rfl
  have noted := noteSubscribed_same s.pubsub kind event unique settled
  unfold subscribeTo
  rw [free, nameKeywords_back back]
  show ((do
    sendCommand codec order { subscribes := true, kind } (newNames [] _).keys
    let new ← Session.lift (normalizeKeys codec (newNames [] _))
    Session.note fun p => p.noteSubscribed kind new :
    EStateM Stop (Session H Remote) Unit) s) = _
  rw [newNames_back unique back, keys, bind_of_ok sent, normalize_back unique back]
  show EStateM.Result.ok () (Session.mk (s.pubsub.noteSubscribed kind (s.pubsub.of kind).names) _) = _
  rw [noted]

/-- The names of a kind are subscribed to again, and the bookkeeping stays as it is. -/
theorem resubscribe_ok (flavor : Flavor) {kind : Kind} {s : Session H Remote}
    (event : s.pubsub.subscribedEvent = s.pubsub.any)
    (unique : (s.pubsub.of kind).names.Unique) (settled : (s.pubsub.of kind).pending = [])
    (back : ∀ key ∈ (s.pubsub.of kind).names.keys, ComesBack codec kind key) :
    resubscribe flavor codec (sendCommand codec order) kind s =
      .ok () { s with wire := resubscribed codec order (s.pubsub.of kind).names kind s.wire } := by
  have looked : (get : EStateM Stop (Session H Remote) (Session H Remote)) s = .ok s s := rfl
  unfold resubscribe resubscribed
  rw [bind_of_ok looked]
  by_cases empty : (s.pubsub.of kind).names.isEmpty = true
  · rw [if_pos empty]
    simp only [empty, Bool.not_true, whenever, Bool.false_eq_true, ↓reduceIte]
    rfl
  · have some : (!(s.pubsub.of kind).names.isEmpty) = true := by simpa using empty
    have sets : s.pubsub.subscribedEvent = true := by
      rw [event]
      refine (PubSub.any_iff _).mpr ⟨kind, fun nothing => empty ?_⟩
      rw [nothing]
      rfl
    rw [if_neg empty]
    simp only [some, whenever, ↓reduceIte]
    rw [keywords_ok unique back]
    exact subscribeTo_back order flavor sets unique settled back

/-- The new server holds the octets of the names of a kind. -/
theorem held_resubscribed (names : Dict Name (Option H)) (kind other : Kind) (wire : Remote)
    (data : Bytes) :
    data ∈ (resubscribed codec order names kind wire).server.held other ↔
      data ∈ wire.server.held other ∨ other = kind ∧ ∃ key ∈ names.keys, octetsOf codec key = data := by
  unfold resubscribed
  by_cases empty : names.isEmpty = true
  · rw [if_pos empty, List.isEmpty_iff.mp empty]
    simp [Dict.keys]
  · rw [if_neg empty, (serve_subscribe codec order kind _ wire).1, List.mem_map]

/-- Only confirmed subscriptions are on the way. -/
def OnlySubscribed (inbox : List (Push Bytes)) : Prop :=
  ∀ push ∈ inbox, ∃ kind name count, push = .subscribed kind name count

/-- A new server only confirms subscriptions. -/
theorem onlySubscribed_resubscribed (names : Dict Name (Option H)) (kind : Kind) {wire : Remote}
    (only : OnlySubscribed wire.inbox) :
    OnlySubscribed (resubscribed codec order names kind wire).inbox := by
  have folded (octets : List Bytes) {wire : Remote} (only : OnlySubscribed wire.inbox) :
      OnlySubscribed (octets.foldl (Remote.subscribeOne kind) wire).inbox := by
    induction octets generalizing wire with
    | nil => exact only
    | cons name octets ih =>
      refine ih fun push member => ?_
      rcases List.mem_append.mp member with old | new
      · exact only push old
      · exact ⟨kind, name, _, List.mem_singleton.mp new⟩
  unfold resubscribed
  cases names with
  | nil => exact only
  | cons item names => exact folded _ only

/-- Confirmed subscriptions change nothing when they are handled. -/
theorem settle_of_onlySubscribed (codec : Codec) {s : Session H Remote}
    (only : OnlySubscribed s.wire.inbox) :
    (settle codec s).pubsub = s.pubsub ∧ (settle codec s).wire.inbox = [] := by
  have all (waiting : List (Push Bytes)) {s : Session H Remote} (inbox : s.wire.inbox = waiting)
      (only : OnlySubscribed waiting) :
      (waiting.foldl (fun s _ => stateAfter (handleNext codec false s)) s).pubsub = s.pubsub ∧
        (waiting.foldl (fun s _ => stateAfter (handleNext codec false s)) s).wire.inbox = [] := by
    induction waiting generalizing s with
    | nil => exact ⟨rfl, inbox⟩
    | cons push rest ih =>
      have later : OnlySubscribed rest := fun other member => only other (List.mem_cons_of_mem _ member)
      rw [List.foldl_cons]
      rcases handleNext_cons codec false inbox with ⟨e, -, done⟩ | ⟨response, read, done⟩
      · rw [done]
        exact ih rfl later
      · obtain ⟨kind, name, count, rfl⟩ := only push List.mem_cons_self
        obtain ⟨key, -, last⟩ := ok_of_bind read
        cases last
        rw [done]
        exact ih rfl later
  exact all s.wire.inbox rfl only

/-- `on_connect` succeeds when every name comes back: the new server holds the octets of the keys,
nothing is pending, and the dictionaries stay as they are. -/
theorem reconnect_ok (flavor : Flavor) {s : Session H Remote}
    (event : s.pubsub.subscribedEvent = s.pubsub.any)
    (unique : ∀ kind, (s.pubsub.of kind).names.Unique)
    (back : ∀ kind, ∀ key ∈ (s.pubsub.of kind).names.keys, ComesBack codec kind key) :
    ∃ after, reconnect flavor codec order s = .ok () after ∧
      after.pubsub = s.pubsub.clearPending ∧ OnlySubscribed after.wire.inbox ∧
      ∀ kind ∈ flavor.kinds, ∀ data, data ∈ after.wire.server.held kind ↔
        ∃ key ∈ (s.pubsub.of kind).names.keys, octetsOf codec key = data := by
  let fresh : Remote := { server := { held := fun _ => [] }, inbox := [] }
  let again := fun kind => resubscribed codec order (s.pubsub.of kind).names kind
  have cleared : s.pubsub.clearPending.subscribedEvent = s.pubsub.clearPending.any := event
  have run (kind : Kind) (wire : Remote) :
      resubscribe flavor codec (sendCommand codec order) kind
          { pubsub := s.pubsub.clearPending, wire } =
        .ok () { pubsub := s.pubsub.clearPending, wire := again kind wire } := by
    have same : (s.pubsub.clearPending.of kind).names = (s.pubsub.of kind).names := by
      rw [PubSub.of_clearPending]
    have settled : (s.pubsub.clearPending.of kind).pending = [] := by
      rw [PubSub.of_clearPending]
    have names := unique kind
    have comes := back kind
    rw [← same] at names comes
    have ran : resubscribe flavor codec (sendCommand codec order) kind _ = _ :=
      resubscribe_ok order flavor (s := { pubsub := s.pubsub.clearPending, wire }) cleared names
        settled comes
    rw [ran]
    simp only [same, again]
  have only (kind : Kind) (wire : Remote) : OnlySubscribed wire.inbox →
      OnlySubscribed (again kind wire).inbox := onlySubscribed_resubscribed order _ kind
  have held (kind other : Kind) (wire : Remote) (data : Bytes) :
      data ∈ (again kind wire).server.held other ↔ data ∈ wire.server.held other ∨
        other = kind ∧ ∃ key ∈ (s.pubsub.of kind).names.keys, octetsOf codec key = data :=
    held_resubscribed order (s.pubsub.of kind).names kind other wire data
  have empty : OnlySubscribed fresh.inbox := fun push member => by cases member
  have begun : reconnect flavor codec order s =
      whenever (flavor = .sync) (resubscribe flavor codec (sendCommand codec order) .shard)
        { pubsub := s.pubsub.clearPending, wire := again .pattern (again .channel fresh) } := by
    show (do
      resubscribe flavor codec (sendCommand codec order) .channel
      resubscribe flavor codec (sendCommand codec order) .pattern
      whenever (flavor = .sync) (resubscribe flavor codec (sendCommand codec order) .shard) :
        EStateM Stop (Session H Remote) Unit) { pubsub := s.pubsub.clearPending, wire := fresh } = _
    rw [bind_of_ok (run .channel fresh), bind_of_ok (run .pattern _)]
  rw [begun]
  cases flavor with
  | sync =>
    refine ⟨_, run .shard _, rfl, only _ _ (only _ _ (only _ _ empty)), ?_⟩
    intro kind _ data
    simp only [held]
    cases kind <;> simp [fresh]
  | async =>
    refine ⟨_, rfl, rfl, only _ _ (only _ _ empty), ?_⟩
    intro kind member data
    simp only [held]
    cases kind with
    | shard => simp [Flavor.kinds] at member
    | _ => simp [fresh]

end Resubscribing

/-! ## Runs that lose their connection -/

section Restoring

variable {flavor : Flavor} {codec : Codec} {order : ServerOrder}

/-- Every name that is subscribed to comes back. -/
theorem Remembers.comesBack {a : App H} (remembers : Remembers codec a) (kind : Kind) :
    ∀ key ∈ (a.session.pubsub.of kind).names.keys, ComesBack codec kind key := by
  intro key member
  obtain ⟨data, recoverable, read⟩ := remembers.recoverable kind key member
  exact comesBack_of_recoverable recoverable read

/-- The octets of a key are those that decode to it. -/
theorem ComesBack.octetsOf_eq {kind : Kind} {key : Name} {data : Bytes}
    (back : ComesBack codec kind key) (faithful : Faithful codec data)
    (read : codec.decode false (.bytes data) = .ok key) : octetsOf codec key = data :=
  back.faithful.injective faithful (back.back.trans read.symm)

/-- Where nothing is leaving, the keys are the names that are asked for. -/
theorem Remembers.asked_iff {a : App H} (remembers : Remembers codec a) {kind : Kind}
    (stays : ∀ key ∈ (a.session.pubsub.of kind).names.keys,
      key ∉ (a.session.pubsub.of kind).pending) (key : Name) :
    key ∈ (a.session.pubsub.of kind).names.keys ↔
      ∃ data ∈ (a.wishes kind).keys, codec.decode false (.bytes data) = .ok key := by
  have sound := remembers.inStep.mirrored kind
  constructor
  · intro member
    rcases sound.kept_leaving member with ⟨data, held, read⟩ | leaving
    · exact ⟨data, (remembers.held kind data).mp held, read⟩
    · exact absurd leaving (stays key member)
  · rintro ⟨data, asked, read⟩
    exact sound.held_kept ⟨data, (remembers.held kind data).mpr asked, read⟩

/-- A connection whose loss finds nothing leaving is restored. -/
theorem Remembers.restores {a : App H} (remembers : Remembers codec a)
    (stays : NothingLeaving flavor a.session.pubsub) : Restores flavor codec order a := by
  obtain ⟨after, ran, kept, only, held⟩ := reconnect_ok order flavor remembers.inStep.event
    remembers.inStep.unique remembers.comesBack
  obtain ⟨settled, emptied⟩ := settle_of_onlySubscribed codec only
  have faithful (kind : Kind) (data : Bytes) (asked : data ∈ (a.wishes kind).keys) :
      Faithful codec data :=
    remembers.inStep.faithful kind data ((remembers.held kind data).mpr asked)
  refine ⟨after, ran, ?_, emptied, ?_⟩
  · intro kind own data
    rw [held kind own]
    constructor
    · rintro ⟨key, member, rfl⟩
      obtain ⟨data, asked, read⟩ := (remembers.asked_iff (stays kind own) key).mp member
      rw [(remembers.comesBack kind key member).octetsOf_eq (faithful kind data asked) read]
      exact asked
    · intro asked
      obtain ⟨key, read⟩ := (faithful kind data asked).decode
      have member := (remembers.asked_iff (stays kind own) key).mpr ⟨data, asked, read⟩
      exact ⟨key, member,
        (remembers.comesBack kind key member).octetsOf_eq (faithful kind data asked) read⟩
  · intro kind own key handler
    rw [settled, kept, PubSub.of_clearPending]
    constructor
    · intro found
      have member := Dict.isSome_get_iff.mp (Option.isSome_of_eq_some found)
      obtain ⟨data, asked, read⟩ := (remembers.asked_iff (stays kind own) key).mp member
      rw [remembers.handlers kind data asked key read] at found
      exact ⟨data, found, read⟩
    · rintro ⟨data, wished, read⟩
      have asked := Dict.isSome_get_iff.mp (Option.isSome_of_eq_some wished)
      rw [remembers.handlers kind data asked key read]
      exact wished

/-- A restored connection found nothing leaving: what is leaving would be subscribed to again. -/
theorem Remembers.nothingLeaving {a : App H} (remembers : Remembers codec a)
    (restores : Restores flavor codec order a) : NothingLeaving flavor a.session.pubsub := by
  obtain ⟨after, ran, restored⟩ := restores
  obtain ⟨again, same, kept, only, -⟩ := reconnect_ok order flavor remembers.inStep.event
    remembers.inStep.unique remembers.comesBack
  rw [ran] at same
  cases same
  obtain ⟨settled, -⟩ := settle_of_onlySubscribed codec only
  intro kind own key member leaving
  obtain ⟨handler, found⟩ := Option.isSome_iff_exists.mp (Dict.isSome_get_iff.mpr member)
  have stored : ((settle codec after).pubsub.of kind).names.get key = some handler := by
    rw [settled, kept, PubSub.of_clearPending]
    exact found
  obtain ⟨data, wished, read⟩ := (restored.names kind own key handler).mp stored
  have asked := Dict.isSome_get_iff.mp (Option.isSome_of_eq_some wished)
  have present : key ∈ (mirror codec kind a.session).held :=
    ⟨data, (remembers.held kind data).mpr asked, read⟩
  exact (remembers.inStep.mirrored kind).apart key leaving present

end Restoring

/-- A codec that reads ASCII and nothing else, for a client that keeps octets. -/
def asciiCodec : Codec where
  decodeResponses := false
  decodeBytes data :=
    if data.all (· < 128) then some (data.map fun byte => Char.ofNat byte.toNat) else none
  encodeText text := .ok (text.map fun char => char.toNat.toUInt8)

end RedisPy.Channels

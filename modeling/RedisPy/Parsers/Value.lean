import RedisPy.Parsers.Base
import RedisPy.Python.Dict
import RedisPy.Lib.Interruptible

/-!
# Replies and the values they decode to

A server reply is a tree of the RESP types that the parsers have branches for. Its
wire form is a list of pieces, each ended by CRLF: one header line, then the body of a
bulk type or the pieces of the members. `decoded` is the Python value of a reply, or
the exception that decoding it raises; it is stated on the tree alone and knows
nothing of buffers. Floats are a type with the three operations the parsers use.
-/

namespace RedisPy

open Interruptible

/-- The built-in `float`: conversion from octets and equality. -/
class PyFloat (F : Type) where
  /-- `float(data)`; `none` is `ValueError`. -/
  ofBytes : Bytes → Option F
  /-- `x == y`. -/
  eq : F → F → Bool
  /-- `x == n` for an integer. -/
  eqInt : F → Int → Bool

/-- Runs without floating-point numbers. -/
instance : PyFloat Empty where
  ofBytes _ := none
  eq x _ := x.elim
  eqInt x _ := x.elim

/-- Python values that a reply can decode to. -/
inductive PyVal (F : Type) where
  | none
  | bool (value : Bool)
  | int (value : Int)
  | float (value : F)
  | bytes (value : Bytes)
  | str (value : Text)
  | list (items : List (PyVal F))
  | dict (items : List (PyVal F × PyVal F))
  | exc (error : Exc)

namespace PyVal

variable {F : Type} [PyFloat F]

/-- The integer value of a `bool` or an `int`. -/
def asInt : PyVal F → Option Int
  | bool value => some (if value then 1 else 0)
  | int value => some value
  | _ => .none

/-- Equality of hashable values; two exception objects are never equal. -/
def keyEq : PyVal F → PyVal F → Bool
  | none, none => true
  | bytes a, bytes b => a == b
  | str a, str b => a == b
  | float a, float b => PyFloat.eq a b
  | float a, b => (b.asInt.map (PyFloat.eqInt a)).getD false
  | a, float b => (a.asInt.map (PyFloat.eqInt b)).getD false
  | a, b => match a.asInt, b.asInt with
    | some m, some n => m == n
    | _, _ => false

instance : BEq (PyVal F) := ⟨keyEq⟩

/-- Values that `hash` accepts. -/
def hashable : PyVal F → Bool
  | list _ => false
  | dict _ => false
  | _ => true

end PyVal

/-- `value is None`. -/
def PyVal.isNone {F : Type} : PyVal F → Bool
  | .none => true
  | _ => false

/-- How a reading call ends without a value: an exception, or still waiting for data. -/
inductive Stop where
  | raised (e : Exc)
  | blocked
deriving DecidableEq

/-- An exception with a class and nothing else. -/
abbrev Stop.ofClass (cls : ExcClass) : Stop := .raised { cls }

/-- `Encoder`: the options and the codec of `bytes.decode`. -/
structure Encoder where
  /-- `self.decode_responses`. -/
  decodeResponses : Bool
  /-- `value.decode(self.encoding, self.encoding_errors)`; `none` is `UnicodeDecodeError`. -/
  decodeBytes : Bytes → Option Text

/-- An encoder that leaves octets as they are. -/
def Encoder.raw : Encoder := { decodeResponses := false, decodeBytes := fun _ => none }

variable {F : Type} [PyFloat F]

/-- `Encoder.decode`. -/
def Encoder.decode (encoder : Encoder) : PyVal F → Except Stop (PyVal F)
  | .bytes data =>
    if encoder.decodeResponses then
      match encoder.decodeBytes data with
      | some text => .ok (.str text)
      | none => .error (.ofClass .unicodeDecodeError)
    else .ok (.bytes data)
  | value => .ok value

/-- The flags of one `read_response` call that bear on text. -/
structure Decoding where
  /-- `self.encoder`. -/
  encoder : Encoder
  /-- `disable_decoding`. -/
  disabled : Bool

/-- `read_response()` of a client that keeps octets. -/
def Decoding.raw : Decoding := { encoder := .raw, disabled := false }

/-- `if disable_decoding is False: response = self.encoder.decode(response)`. -/
def Decoding.finish (decoding : Decoding) (value : PyVal F) : Except Stop (PyVal F) :=
  if decoding.disabled then .ok value else decoding.encoder.decode value

/-- Server replies. -/
inductive Reply where
  | simple (text : Bytes)
  | error (text : Bytes)
  | bulkError (text : Bytes)
  | int (value : Int)
  | bigInt (value : Int)
  | null
  | nullBulk
  | nullArray
  | double (text : Bytes)
  | bool (value : Bool)
  | bulk (data : Bytes)
  | verbatim (format data : Bytes)
  | array (items : List Reply)
  | set (items : List Reply)
  | map (entries : List (Reply × Reply))

/-- A stretch of the wire form that is read at once and ends in CRLF. -/
inductive Piece where
  /-- A header line. -/
  | line (text : Bytes)
  /-- The body of a bulk type, whose length is known. -/
  | body (data : Bytes)

/-- The octets of a piece. -/
def Piece.wire : Piece → Bytes
  | .line text => text ++ crlf
  | .body data => data ++ crlf

/-- A piece has at least its CRLF. -/
theorem Piece.wire_length (piece : Piece) : 2 ≤ piece.wire.length := by
  cases piece with
  | line text => simp [wire, crlf]
  | body data => simp [wire, crlf]

/-- The number of octets of pieces. -/
def octets (pieces : List Piece) : Nat := (pieces.flatMap Piece.wire).length

/-- Octets add up. -/
theorem octets_append (first second : List Piece) :
    octets (first ++ second) = octets first + octets second := by
  rw [octets, List.flatMap_append, List.length_append]
  rfl

/-- There are no more pieces than octets. -/
theorem pieces_length_le (pieces : List Piece) :
    pieces.length ≤ (pieces.flatMap Piece.wire).length := by
  induction pieces with
  | nil => simp
  | cons piece pieces ih =>
    have := piece.wire_length
    rw [List.flatMap_cons, List.length_append, List.length_cons]
    omega

/-- The two protocol versions. -/
inductive Protocol where
  | resp2
  | resp3
deriving DecidableEq

namespace Reply

/-- The direct members of an aggregate. -/
def children : Reply → List Reply
  | array items => items
  | set items => items
  | map entries => entries.flatMap fun entry => [entry.1, entry.2]
  | _ => []

/-- A property of a reply and of everything nested in it. -/
inductive All (P : Reply → Prop) : Reply → Prop where
  | intro {reply : Reply} (here : P reply) (within : ∀ child ∈ reply.children, All P child) :
      All P reply

/-- The property holds of the reply itself. -/
theorem All.here {P : Reply → Prop} {reply : Reply} (all : All P reply) : P reply := by
  cases all with
  | intro here _ => exact here

/-- The property holds of every member. -/
theorem All.within {P : Reply → Prop} {reply : Reply} (all : All P reply) :
    ∀ child ∈ reply.children, All P child := by
  cases all with
  | intro _ within => exact within

/-- Two nested properties hold together. -/
theorem All.and {P Q : Reply → Prop} {reply : Reply} (left : All P reply) (right : All Q reply) :
    All (fun r => P r ∧ Q r) reply := by
  induction left with
  | intro here within ih =>
    exact .intro ⟨here, right.here⟩ fun child member => ih child member (right.within child member)

/-- A nested property weakens pointwise. -/
theorem All.mono {P Q : Reply → Prop} (weaker : ∀ r, P r → Q r) {reply : Reply}
    (all : All P reply) : All Q reply := by
  induction all with
  | intro here within ih => exact .intro (weaker _ here) ih

/-- The first line of a reply, without its CRLF. -/
def header : Reply → Bytes
  | simple text => 43 :: text
  | error text => 45 :: text
  | bulkError text => 33 :: decimalNat text.length
  | int value => 58 :: decimal value
  | bigInt value => 40 :: decimal value
  | null => [95]
  | nullBulk => ascii "$-1"
  | nullArray => ascii "*-1"
  | double text => 44 :: text
  | bool value => if value then ascii "#t" else ascii "#f"
  | bulk data => 36 :: decimalNat data.length
  | verbatim format data => 61 :: decimalNat (format ++ 58 :: data).length
  | array items => 42 :: decimalNat items.length
  | set items => 126 :: decimalNat items.length
  | map entries => 37 :: decimalNat entries.length

/-- The octets of a bulk body. -/
def body : Reply → List Bytes
  | bulkError text => [text]
  | bulk data => [data]
  | verbatim format data => [format ++ 58 :: data]
  | _ => []

mutual

/-- The wire form of a reply, piece by piece. -/
def pieces : Reply → List Piece
  | array items => .line (array items).header :: piecesOfList items
  | set items => .line (set items).header :: piecesOfList items
  | map entries => .line (map entries).header :: piecesOfEntries entries
  | reply => .line reply.header :: reply.body.map .body

/-- The pieces of the members of an array or a set. -/
def piecesOfList : List Reply → List Piece
  | [] => []
  | item :: items => pieces item ++ piecesOfList items

/-- The pieces of the entries of a map. -/
def piecesOfEntries : List (Reply × Reply) → List Piece
  | [] => []
  | (key, value) :: entries => pieces key ++ pieces value ++ piecesOfEntries entries

end

/-- The wire form of a reply. -/
def encode (reply : Reply) : Bytes := reply.pieces.flatMap Piece.wire

/-- The pieces of a list are those of its members. -/
theorem piecesOfList_eq (items : List Reply) : piecesOfList items = items.flatMap pieces := by
  induction items with
  | nil => simp [piecesOfList]
  | cons item items ih => simp [piecesOfList, ih]

/-- The pieces of a map are those of its keys and values. -/
theorem piecesOfEntries_eq (entries : List (Reply × Reply)) :
    piecesOfEntries entries = entries.flatMap fun entry => entry.1.pieces ++ entry.2.pieces := by
  induction entries with
  | nil => simp [piecesOfEntries]
  | cons entry entries ih => simp [piecesOfEntries, ih]

/-- Header first, then the body or the members. -/
theorem pieces_eq (reply : Reply) :
    reply.pieces = .line reply.header ::
      (reply.body.map .body ++ reply.children.flatMap pieces) := by
  cases reply with
  | array items => simp [pieces, piecesOfList_eq, body, children]
  | set items => simp [pieces, piecesOfList_eq, body, children]
  | map entries =>
    simp only [pieces, piecesOfEntries_eq, body, children, List.map_nil, List.nil_append,
      List.cons.injEq, true_and]
    induction entries with
    | nil => rfl
    | cons entry entries ih => simp [ih]
  | _ => simp [pieces, children]

/-- A member has fewer pieces than its aggregate. -/
theorem pieces_length_child {reply child : Reply} (member : child ∈ reply.children) :
    child.pieces.length < reply.pieces.length := by
  have part : child.pieces.length ≤ (reply.children.flatMap pieces).length :=
    (List.sublist_flatten_of_mem (List.mem_map_of_mem member)).length_le
  rw [pieces_eq reply, List.length_cons, List.length_append]
  omega

end Reply

/-- The members of a dictionary in wire order, stored one after the other. -/
def storeEntry (entries : List (PyVal F × PyVal F)) (key value : PyVal F) :
    Except Stop (List (PyVal F × PyVal F)) :=
  if key.hashable then .ok (Dict.set entries key value) else .error (.ofClass .typeError)

/-- The value of an error reply: the exception object, raised at once when it is a
`ConnectionError`. -/
def decodedError (text : Bytes) : Except Stop (PyVal F) :=
  match parseError (decodeReplace text) with
  | .ok error => if error.isinstance .connectionError then .error (.raised error) else .ok (.exc error)
  | .error e => .error (.raised e)

variable (refusal : Bytes → Option Exc) (decoding : Decoding)

/-- Some readers refuse a header line; the refusal is raised before anything else. -/
def admitted (line : Bytes) : Except Stop Unit :=
  match refusal line with
  | none => .ok ()
  | some e => .error (.raised e)

mutual

/-- The Python value of a reply, or the exception that decoding it raises. -/
def decoded : Reply → Except Stop (PyVal F)
  | .simple text => do
    admitted refusal (Reply.simple text).header
    decoding.finish (.bytes text)
  | .error text => do
    admitted refusal (Reply.error text).header
    decodedError text
  | .bulkError text => do
    admitted refusal (Reply.bulkError text).header
    decodedError text
  | .int value => do
    admitted refusal (Reply.int value).header
    pure (.int value)
  | .bigInt value => do
    admitted refusal (Reply.bigInt value).header
    pure (.int value)
  | .null => do
    admitted refusal Reply.null.header
    pure .none
  | .nullBulk => do
    admitted refusal Reply.nullBulk.header
    pure .none
  | .nullArray => do
    admitted refusal Reply.nullArray.header
    pure .none
  | .double text => do
    admitted refusal (Reply.double text).header
    match (PyFloat.ofBytes text : Option F) with
    | some value => pure (.float value)
    | none => throw (.ofClass .valueError)
  | .bool value => do
    admitted refusal (Reply.bool value).header
    pure (.bool value)
  | .bulk data => do
    admitted refusal (Reply.bulk data).header
    decoding.finish (.bytes data)
  | .verbatim format data => do
    admitted refusal (Reply.verbatim format data).header
    decoding.finish (.bytes data)
  | .array items => do
    admitted refusal (Reply.array items).header
    let values ← decodedList items
    pure (.list values)
  | .set items => do
    admitted refusal (Reply.set items).header
    let values ← decodedList items
    pure (.list values)
  | .map entries => do
    admitted refusal (Reply.map entries).header
    let items ← decodedEntries entries []
    pure (.dict items)

/-- The values of the members, in order. -/
def decodedList : List Reply → Except Stop (List (PyVal F))
  | [] => .ok []
  | item :: items => do
    let value ← decoded item
    let values ← decodedList items
    pure (value :: values)

/-- The entries of a map stored one after the other; a later equal key replaces the value. -/
def decodedEntries :
    List (Reply × Reply) → List (PyVal F × PyVal F) → Except Stop (List (PyVal F × PyVal F))
  | [], stored => .ok stored
  | (key, value) :: entries, stored => do
    let key ← decoded key
    let value ← decoded value
    let stored ← storeEntry stored key value
    decodedEntries entries stored

end

/-- The values of a list are collected from its members. -/
theorem decodedList_eq (items : List Reply) :
    decodedList (F := F) refusal decoding items = collect (decoded refusal decoding) items := by
  induction items with
  | nil => simp [decodedList, collect]
  | cons item items ih => simp [decodedList, collect, ih]

/-- One entry of a map. -/
def decodedEntry (entry : Reply × Reply) (stored : List (PyVal F × PyVal F)) :
    Except Stop (List (PyVal F × PyVal F)) := do
  let key ← decoded refusal decoding entry.1
  let value ← decoded refusal decoding entry.2
  storeEntry stored key value

/-- The entries of a map are threaded through the dictionary. -/
theorem decodedEntries_eq (entries : List (Reply × Reply)) (stored : List (PyVal F × PyVal F)) :
    decodedEntries refusal decoding entries stored =
      thread (decodedEntry refusal decoding) entries stored := by
  induction entries generalizing stored with
  | nil => simp [decodedEntries, thread]
  | cons entry entries ih =>
    obtain ⟨key, value⟩ := entry
    simp only [decodedEntries, thread, decodedEntry, bind_assoc, ih]

/-! ## Well-formed replies -/

/-- The text of a line-based type. -/
def lineText (text : Bytes) : Prop := 10 ∉ text ∧ 13 ∉ text

/-- The reply is of a type that the parser of the protocol has a branch for, and its own
octets are those of the type. -/
def Reply.Framed : Protocol → Reply → Prop
  | _, .simple text => lineText text
  | _, .error text => lineText text
  | .resp3, .bulkError _ => True
  | _, .int _ => True
  | .resp3, .bigInt _ => True
  | .resp3, .null => True
  | .resp2, .nullBulk => True
  | .resp2, .nullArray => True
  | .resp3, .double text => lineText text
  | .resp3, .bool _ => True
  | _, .bulk _ => True
  | .resp3, .verbatim format _ => format.length = 3
  | _, .array _ => True
  | .resp3, .set _ => True
  | .resp3, .map _ => True
  | _, _ => False

/-- Text that is decoded at all is decoded without an error. -/
def Decoding.Succeeds (data : Bytes) : Prop :=
  decoding.disabled = false → decoding.encoder.decodeResponses = true →
    (decoding.encoder.decodeBytes data).isSome

/-- Arrays, sets and maps decode to values that cannot be hashed. -/
def Reply.aggregate : Reply → Bool
  | .array _ => true
  | .set _ => true
  | .map _ => true
  | _ => false

/-- No connection-class error, text that decodes, a number in a double, hashable map keys. -/
def Reply.Sound (F : Type) [PyFloat F] : Reply → Prop
  | .simple text => decoding.Succeeds text
  | .bulk data => decoding.Succeeds data
  | .verbatim _ data => decoding.Succeeds data
  | .error text => isConnectionErrorText (decodeReplace text) = false
  | .bulkError text => isConnectionErrorText (decodeReplace text) = false
  | .double text => (PyFloat.ofBytes text : Option F).isSome
  | .map entries => ∀ entry ∈ entries, entry.1.aggregate = false
  | _ => True

/-- The text of an error reply that announces a redirection has the form `slot host:port`. -/
def redirectText (text : Bytes) : Prop :=
  isRedirectText (decodeReplace text) = true →
    (parseRedirect (errorClass (decodeReplace text)).2).isSome

/-- The only condition on replies beyond their well-formedness: the reader admits the header
line, and a redirection names an address. -/
def Reply.Readable : Reply → Prop
  | .error text => refusal (Reply.error text).header = none ∧ redirectText text
  | .bulkError text => refusal (Reply.bulkError text).header = none ∧ redirectText text
  | reply => refusal reply.header = none

variable {refusal decoding}

omit [PyFloat F] in
/-- Decodable text gives a hashable value. -/
theorem Decoding.Succeeds.finish {data : Bytes} (succeeds : decoding.Succeeds data) :
    ∃ value : PyVal F, decoding.finish (.bytes data) = .ok value ∧ value.hashable = true := by
  unfold Decoding.finish
  cases disabled : decoding.disabled with
  | true => exact ⟨_, rfl, rfl⟩
  | false =>
    simp only [Bool.false_eq_true, ↓reduceIte, Encoder.decode]
    cases responses : decoding.encoder.decodeResponses with
    | false => exact ⟨_, rfl, rfl⟩
    | true =>
      obtain ⟨text, found⟩ := Option.isSome_iff_exists.mp (succeeds disabled responses)
      simp only [↓reduceIte, found]
      exact ⟨_, rfl, rfl⟩

omit [PyFloat F] in
/-- An error reply outside the connection class decodes exactly when its redirection does. -/
theorem decodedError_ok_iff {text : Bytes}
    (ordinary : isConnectionErrorText (decodeReplace text) = false) :
    (∃ value : PyVal F, decodedError text = .ok value ∧ value.hashable = true) ↔
      redirectText text := by
  rw [redirectText, ← parseError_ok_iff]
  unfold decodedError
  constructor
  · rintro ⟨value, found, -⟩
    cases built : parseError (decodeReplace text) with
    | ok e => exact ⟨e, rfl⟩
    | error e => simp [built] at found
  · rintro ⟨e, built⟩
    have outside : e.isinstance .connectionError = false := by
      rw [Exc.isinstance, parseError_cls built]
      exact ordinary
    simp [built, outside, PyVal.hashable]

/-- Values are collected when every member decodes. -/
theorem collect_ok {α β : Type} {outcome : α → Except Stop β} (items : List α)
    (each : ∀ item ∈ items, ∃ value, outcome item = .ok value) :
    ∃ values, collect outcome items = .ok values := by
  induction items with
  | nil => exact ⟨[], rfl⟩
  | cons item items ih =>
    obtain ⟨value, head⟩ := each item List.mem_cons_self
    obtain ⟨values, tail⟩ := ih fun other member => each other (List.mem_cons_of_mem item member)
    exact ⟨value :: values, by simp [collect, head, tail]⟩

/-- Members decode when their values are collected. -/
theorem ok_of_collect {α β : Type} {outcome : α → Except Stop β} {items : List α} {values : List β}
    (collected : collect outcome items = .ok values) :
    ∀ item ∈ items, ∃ value, outcome item = .ok value := by
  induction items generalizing values with
  | nil => simp
  | cons item items ih =>
    cases head : outcome item with
    | error e => simp [collect, head] at collected
    | ok value =>
      cases tail : collect outcome items with
      | error e => simp [collect, head, tail] at collected
      | ok rest => simpa [head] using ih tail

/-- Entries are threaded when every one can be stored. -/
theorem thread_ok {α β : Type} {outcome : α → β → Except Stop β} (items : List α) (start : β)
    (each : ∀ item ∈ items, ∀ value, ∃ next, outcome item value = .ok next) :
    ∃ last, thread outcome items start = .ok last := by
  induction items generalizing start with
  | nil => exact ⟨start, rfl⟩
  | cons item items ih =>
    obtain ⟨next, head⟩ := each item List.mem_cons_self start
    obtain ⟨last, tail⟩ := ih next fun other member => each other (List.mem_cons_of_mem item member)
    exact ⟨last, by simp [thread, head, tail]⟩

/-- Entries are stored when they are threaded. -/
theorem ok_of_thread {α β : Type} {outcome : α → β → Except Stop β} {items : List α}
    {start last : β} (threaded : thread outcome items start = .ok last) :
    ∀ item ∈ items, ∃ value next, outcome item value = .ok next := by
  induction items generalizing start with
  | nil => simp
  | cons item items ih =>
    cases head : outcome item start with
    | error e => simp [thread, head] at threaded
    | ok next =>
      simp only [thread, head] at threaded
      intro other member
      rcases List.mem_cons.mp member with rfl | member
      · exact ⟨start, next, head⟩
      · exact ih threaded other member

section Unfolded

-- `decoded` is unfolded by every case of the next theorem
attribute [local simp] decoded

/-- A well-formed readable reply decodes, and outside the aggregates to a hashable value. -/
theorem decoded_ok {reply : Reply} (sound : reply.All (Reply.Sound decoding F))
    (readable : reply.All (Reply.Readable refusal)) :
    ∃ value : PyVal F, decoded refusal decoding reply = .ok value ∧
      (reply.aggregate = false → value.hashable = true) := by
  induction sound with
  | @intro reply here within ih =>
    have pass (admits : refusal reply.header = none) :
        admitted refusal reply.header = .ok () := by simp [admitted, admits]
    have members (child : Reply) (member : child ∈ reply.children) :
        ∃ value : PyVal F, decoded refusal decoding child = .ok value ∧
          (child.aggregate = false → value.hashable = true) :=
      ih child member (readable.within child member)
    have top := readable.here
    cases reply with
    | simple text =>
      obtain ⟨value, found, hash⟩ := here.finish (F := F)
      exact ⟨value, by simp [pass top, found], fun _ => hash⟩
    | bulk data =>
      obtain ⟨value, found, hash⟩ := here.finish (F := F)
      exact ⟨value, by simp [pass top, found], fun _ => hash⟩
    | verbatim format data =>
      obtain ⟨value, found, hash⟩ := here.finish (F := F)
      exact ⟨value, by simp [pass top, found], fun _ => hash⟩
    | error text =>
      obtain ⟨value, found, hash⟩ := (decodedError_ok_iff (F := F) here).mpr top.2
      exact ⟨value, by simp [pass top.1, found], fun _ => hash⟩
    | bulkError text =>
      obtain ⟨value, found, hash⟩ := (decodedError_ok_iff (F := F) here).mpr top.2
      exact ⟨value, by simp [pass top.1, found], fun _ => hash⟩
    | double text =>
      obtain ⟨value, found⟩ := Option.isSome_iff_exists.mp here
      exact ⟨.float value, by simp [pass top, found], fun _ => rfl⟩
    | array items =>
      obtain ⟨values, found⟩ := collect_ok items fun child member =>
        (members child member).imp fun _ h => h.1
      exact ⟨.list values, by simp [pass top, decodedList_eq, found],
        fun outside => by simp [Reply.aggregate] at outside⟩
    | set items =>
      obtain ⟨values, found⟩ := collect_ok items fun child member =>
        (members child member).imp fun _ h => h.1
      exact ⟨.list values, by simp [pass top, decodedList_eq, found],
        fun outside => by simp [Reply.aggregate] at outside⟩
    | map entries =>
      have stores (entry : Reply × Reply) (member : entry ∈ entries)
          (stored : List (PyVal F × PyVal F)) :
          ∃ next, decodedEntry refusal decoding entry stored = .ok next := by
        have inside (child : Reply) (part : child = entry.1 ∨ child = entry.2) :
            child ∈ (Reply.map entries).children :=
          List.mem_flatMap.mpr ⟨entry, member, by simpa using part⟩
        obtain ⟨key, keyFound, hash⟩ := members entry.1 (inside _ (.inl rfl))
        obtain ⟨value, valueFound, -⟩ := members entry.2 (inside _ (.inr rfl))
        have usable := hash (here entry member)
        exact ⟨Dict.set stored key value, by
          simp [decodedEntry, keyFound, valueFound, storeEntry, usable]⟩
      obtain ⟨items, found⟩ := thread_ok entries [] stores
      exact ⟨.dict items, by simp [pass top, decodedEntries_eq, found],
        fun outside => by simp [Reply.aggregate] at outside⟩
    | _ => exact ⟨_, by simp [pass top]; rfl, fun _ => rfl⟩

end Unfolded

/-- A reply whose value exists was readable throughout. -/
theorem readable_of_decoded {reply : Reply} (sound : reply.All (Reply.Sound decoding F))
    {value : PyVal F} (found : decoded refusal decoding reply = .ok value) :
    reply.All (Reply.Readable refusal) := by
  induction sound generalizing value with
  | @intro reply here within ih =>
    have pass : refusal reply.header = none := by
      cases refused : refusal reply.header with
      | none => rfl
      | some e => cases reply <;> simp [decoded, admitted, refused] at found
    cases reply with
    | error text =>
      refine .intro ⟨pass, ?_⟩ (by simp [Reply.children])
      simp only [decoded, admitted, pass] at found
      have built : ∃ e, parseError (decodeReplace text) = .ok e := by
        cases parsed : parseError (decodeReplace text) with
        | ok e => exact ⟨e, rfl⟩
        | error e => simp [decodedError, parsed] at found
      exact (parseError_ok_iff _).mp built
    | bulkError text =>
      refine .intro ⟨pass, ?_⟩ (by simp [Reply.children])
      simp only [decoded, admitted, pass] at found
      have built : ∃ e, parseError (decodeReplace text) = .ok e := by
        cases parsed : parseError (decodeReplace text) with
        | ok e => exact ⟨e, rfl⟩
        | error e => simp [decodedError, parsed] at found
      exact (parseError_ok_iff _).mp built
    | array items =>
      simp only [decoded, admitted, pass, decodedList_eq] at found
      refine .intro pass fun child member => ?_
      cases collected : collect (decoded (F := F) refusal decoding) items with
      | error e => simp [collected] at found
      | ok values =>
        obtain ⟨part, partFound⟩ := ok_of_collect collected child member
        exact ih child member partFound
    | set items =>
      simp only [decoded, admitted, pass, decodedList_eq] at found
      refine .intro pass fun child member => ?_
      cases collected : collect (decoded (F := F) refusal decoding) items with
      | error e => simp [collected] at found
      | ok values =>
        obtain ⟨part, partFound⟩ := ok_of_collect collected child member
        exact ih child member partFound
    | map entries =>
      simp only [decoded, admitted, pass, decodedEntries_eq] at found
      refine .intro pass fun child member => ?_
      cases threaded : thread (decodedEntry (F := F) refusal decoding) entries [] with
      | error e => simp [threaded] at found
      | ok items =>
        obtain ⟨entry, listed, part⟩ := List.mem_flatMap.mp member
        obtain ⟨stored, next, stepped⟩ := ok_of_thread threaded entry listed
        cases key : decoded (F := F) refusal decoding entry.1 with
        | error e => simp [decodedEntry, key] at stepped
        | ok keyValue =>
          cases val : decoded (F := F) refusal decoding entry.2 with
          | error e => simp [decodedEntry, key, val] at stepped
          | ok valValue =>
            simp only [List.mem_cons, List.not_mem_nil, or_false] at part
            rcases part with rfl | rfl
            · exact ih _ member key
            · exact ih _ member val
    | _ => exact .intro pass (by simp [Reply.children])

/-- Among well-formed replies, those that decode are the readable ones. -/
theorem decoded_iff_readable {reply : Reply} (sound : reply.All (Reply.Sound decoding F)) :
    (∃ value : PyVal F, decoded refusal decoding reply = .ok value) ↔
      reply.All (Reply.Readable refusal) :=
  ⟨fun ⟨_, found⟩ => readable_of_decoded sound found,
    fun readable => (decoded_ok sound readable).imp fun _ h => h.1⟩

omit [PyFloat F] in
/-- A readable reply has an admitted header. -/
theorem Reply.Readable.admits {reply : Reply} (readable : reply.Readable refusal) :
    refusal reply.header = none := by
  cases reply with
  | error text => exact readable.1
  | bulkError text => exact readable.1
  | _ => exact readable

/-- Equal outcomes are collected equally. -/
theorem collect_congr {α β : Type} {first second : α → Except Stop β} (items : List α)
    (each : ∀ item ∈ items, first item = second item) :
    collect first items = collect second items := by
  induction items with
  | nil => rfl
  | cons item items ih =>
    have rest := ih fun other member => each other (List.mem_cons_of_mem item member)
    rw [collect, collect, each item List.mem_cons_self, rest]

/-- Equal outcomes are threaded equally. -/
theorem thread_congr {α β : Type} {first second : α → β → Except Stop β} (items : List α)
    (start : β) (each : ∀ item ∈ items, ∀ value, first item value = second item value) :
    thread first items start = thread second items start := by
  induction items generalizing start with
  | nil => rfl
  | cons item items ih =>
    have rest (value : β) :=
      ih value fun other member => each other (List.mem_cons_of_mem item member)
    rw [thread, thread, each item List.mem_cons_self]
    simp only [rest]

/-- Where every header is admitted, refusals make no difference. -/
theorem decoded_admitted {reply : Reply} (admits : reply.All fun r => refusal r.header = none) :
    decoded (F := F) refusal decoding reply = decoded (fun _ => none) decoding reply := by
  induction admits with
  | @intro reply here within ih =>
    have same : admitted refusal reply.header = admitted (fun _ => none) reply.header := by
      simp only [admitted, here]
    cases reply with
    | array items =>
      simp only [decoded, decodedList_eq, same, collect_congr items ih]
    | set items =>
      simp only [decoded, decodedList_eq, same, collect_congr items ih]
    | map entries =>
      have each : ∀ entry ∈ entries, ∀ stored : List (PyVal F × PyVal F),
          decodedEntry refusal decoding entry stored =
            decodedEntry (fun _ => none) decoding entry stored := by
        intro entry member stored
        have inside (child : Reply) (part : child = entry.1 ∨ child = entry.2) :
            child ∈ (Reply.map entries).children :=
          List.mem_flatMap.mpr ⟨entry, member, by simpa using part⟩
        rw [decodedEntry, decodedEntry, ih entry.1 (inside _ (.inl rfl)),
          ih entry.2 (inside _ (.inr rfl))]
      simp only [decoded, decodedEntries_eq, same, thread_congr entries [] each]
    | _ => simp only [decoded, same]

/-- A collected failure is the failure of a member. -/
theorem error_of_collect {α β : Type} {outcome : α → Except Stop β} {items : List α} {e : Stop}
    (failed : collect outcome items = .error e) : ∃ item ∈ items, outcome item = .error e := by
  induction items with
  | nil => cases failed
  | cons item items ih =>
    cases head : outcome item with
    | error other =>
      simp only [collect, head, error_bind, Except.error.injEq] at failed
      exact ⟨item, List.mem_cons_self, by rw [head, failed]⟩
    | ok value =>
      cases tail : collect outcome items with
      | error other =>
        simp only [collect, head, tail, ok_bind, error_bind, Except.error.injEq] at failed
        obtain ⟨inner, member, found⟩ := ih (by rw [tail, failed])
        exact ⟨inner, List.mem_cons_of_mem item member, found⟩
      | ok values => simp [collect, head, tail] at failed

/-- A threaded failure is the failure of an entry. -/
theorem error_of_thread {α β : Type} {outcome : α → β → Except Stop β} {items : List α}
    {start : β} {e : Stop} (failed : thread outcome items start = .error e) :
    ∃ item ∈ items, ∃ value, outcome item value = .error e := by
  induction items generalizing start with
  | nil => cases failed
  | cons item items ih =>
    cases head : outcome item start with
    | error other =>
      simp only [thread, head, error_bind, Except.error.injEq] at failed
      exact ⟨item, List.mem_cons_self, start, by rw [head, failed]⟩
    | ok next =>
      simp only [thread, head, ok_bind] at failed
      obtain ⟨inner, member, found⟩ := ih failed
      exact ⟨inner, List.mem_cons_of_mem item member, found⟩

omit [PyFloat F] in
/-- An error text outside the connection class fails only with `ValueError`. -/
theorem decodedError_error {text : Bytes}
    (ordinary : isConnectionErrorText (decodeReplace text) = false) {e : Stop}
    (failed : (decodedError text : Except Stop (PyVal F)) = .error e) : e = .ofClass .valueError := by
  unfold decodedError at failed
  cases parsed : parseError (decodeReplace text) with
  | error raised =>
    rw [parsed, parseError_error parsed] at failed
    exact (Except.error.inj failed).symm
  | ok error =>
    have outside : error.isinstance .connectionError = false := by
      rw [Exc.isinstance, parseError_cls parsed]
      exact ordinary
    simp [parsed, outside] at failed

/-- The value of a well-formed reply that is no aggregate can be a key. -/
theorem hashable_of_decoded {reply : Reply} (sound : reply.All (Reply.Sound decoding F))
    (plain : reply.aggregate = false) {value : PyVal F}
    (found : decoded refusal decoding reply = .ok value) : value.hashable = true := by
  obtain ⟨other, same, hash⟩ := decoded_ok sound (readable_of_decoded sound found)
  rw [found] at same
  cases same
  exact hash plain

/-- A well-formed reply fails only with `ValueError`. -/
theorem decoded_error {reply : Reply} (sound : reply.All (Reply.Sound decoding F))
    (refuses : ∀ line x, refusal line = some x → x = { cls := .valueError }) {e : Stop}
    (failed : decoded (F := F) refusal decoding reply = .error e) : e = .ofClass .valueError := by
  induction sound generalizing e with
  | @intro reply here within ih =>
    cases refused : refusal reply.header with
    | some x =>
      have same := refuses _ x refused
      subst same
      have refused' : admitted refusal reply.header = .error (.ofClass .valueError) := by
        simp only [admitted, refused]
      cases reply <;> simp only [decoded, refused', error_bind, Except.error.injEq] at failed <;>
        exact failed.symm
    | none =>
      have pass : admitted refusal reply.header = .ok () := by simp only [admitted, refused]
      cases reply with
      | simple text =>
        obtain ⟨value, found, -⟩ := here.finish (F := F)
        simp [decoded, pass, found] at failed
      | bulk data =>
        obtain ⟨value, found, -⟩ := here.finish (F := F)
        simp [decoded, pass, found] at failed
      | verbatim format data =>
        obtain ⟨value, found, -⟩ := here.finish (F := F)
        simp [decoded, pass, found] at failed
      | error text =>
        simp only [decoded, pass, ok_bind] at failed
        exact decodedError_error here failed
      | bulkError text =>
        simp only [decoded, pass, ok_bind] at failed
        exact decodedError_error here failed
      | double text =>
        obtain ⟨value, found⟩ := Option.isSome_iff_exists.mp here
        simp [decoded, pass, found] at failed
      | array items =>
        simp only [decoded, pass, ok_bind, decodedList_eq] at failed
        cases collected : collect (decoded (F := F) refusal decoding) items with
        | ok values => simp [collected] at failed
        | error other =>
          simp only [collected, error_bind, Except.error.injEq] at failed
          obtain ⟨child, member, inner⟩ := error_of_collect collected
          rw [← failed]
          exact ih child member inner
      | set items =>
        simp only [decoded, pass, ok_bind, decodedList_eq] at failed
        cases collected : collect (decoded (F := F) refusal decoding) items with
        | ok values => simp [collected] at failed
        | error other =>
          simp only [collected, error_bind, Except.error.injEq] at failed
          obtain ⟨child, member, inner⟩ := error_of_collect collected
          rw [← failed]
          exact ih child member inner
      | map entries =>
        simp only [decoded, pass, ok_bind, decodedEntries_eq] at failed
        cases threaded : thread (decodedEntry (F := F) refusal decoding) entries [] with
        | ok items => simp [threaded] at failed
        | error other =>
          simp only [threaded, error_bind, Except.error.injEq] at failed
          obtain ⟨entry, listed, stored, inner⟩ := error_of_thread threaded
          have inside (child : Reply) (part : child = entry.1 ∨ child = entry.2) :
              child ∈ (Reply.map entries).children :=
            List.mem_flatMap.mpr ⟨entry, listed, by simpa using part⟩
          rw [← failed]
          cases key : decoded (F := F) refusal decoding entry.1 with
          | error raised =>
            simp only [decodedEntry, key, error_bind, Except.error.injEq] at inner
            rw [← inner]
            exact ih entry.1 (inside _ (.inl rfl)) key
          | ok keyValue =>
            have hash := hashable_of_decoded (within entry.1 (inside _ (.inl rfl)))
              (here entry listed) key
            cases val : decoded (F := F) refusal decoding entry.2 with
            | error raised =>
              simp only [decodedEntry, key, val, ok_bind, error_bind, Except.error.injEq] at inner
              rw [← inner]
              exact ih entry.2 (inside _ (.inr rfl)) val
            | ok value => simp [decodedEntry, key, val, storeEntry, hash] at inner
      | _ => simp [decoded, pass] at failed

/-! ## What decoding says about a reply -/

omit [PyFloat F] in
/-- Text that is returned was decoded. -/
theorem Decoding.succeeds_of_finish {data : Bytes} {value : PyVal F}
    (found : decoding.finish (.bytes data) = .ok value) : decoding.Succeeds data := by
  intro enabled responses
  simp only [Decoding.finish, enabled, Encoder.decode, responses, Bool.false_eq_true, ↓reduceIte] at found
  cases decodes : decoding.encoder.decodeBytes data with
  | some text => rfl
  | none => simp [decodes] at found

omit [PyFloat F] in
/-- An error reply that is returned is no connection error. -/
theorem ordinary_of_decodedError {text : Bytes} {value : PyVal F}
    (found : decodedError text = .ok value) : isConnectionErrorText (decodeReplace text) = false := by
  unfold decodedError at found
  cases built : parseError (decodeReplace text) with
  | error e => simp [built] at found
  | ok e =>
    rw [built] at found
    have same : isConnectionErrorText (decodeReplace text) = e.isinstance .connectionError := by
      rw [Exc.isinstance, parseError_cls built]
      rfl
    rw [same]
    cases connection : e.isinstance .connectionError with
    | false => rfl
    | true => simp [connection] at found

/-- Aggregates decode to values that cannot be hashed. -/
theorem plain_of_hashable {reply : Reply} {value : PyVal F}
    (found : decoded refusal decoding reply = .ok value) (hash : value.hashable = true) :
    reply.aggregate = false := by
  cases admits : admitted refusal reply.header with
  | error e => cases reply <;> simp [decoded, admits] at found
  | ok _ =>
    cases reply with
    | array items =>
      simp only [decoded, admits, ok_bind] at found
      cases members : decodedList (F := F) refusal decoding items with
      | error e => simp [members] at found
      | ok values =>
        simp only [members, ok_bind, pure_ok, Except.ok.injEq] at found
        rw [← found] at hash
        cases hash
    | set items =>
      simp only [decoded, admits, ok_bind] at found
      cases members : decodedList (F := F) refusal decoding items with
      | error e => simp [members] at found
      | ok values =>
        simp only [members, ok_bind, pure_ok, Except.ok.injEq] at found
        rw [← found] at hash
        cases hash
    | map entries =>
      simp only [decoded, admits, ok_bind] at found
      cases members : decodedEntries (F := F) refusal decoding entries [] with
      | error e => simp [members] at found
      | ok values =>
        simp only [members, ok_bind, pure_ok, Except.ok.injEq] at found
        rw [← found] at hash
        cases hash
    | _ => rfl

/-- The parts of a stored entry. -/
theorem parts_of_decodedEntry {entry : Reply × Reply} {stored next : List (PyVal F × PyVal F)}
    (found : decodedEntry refusal decoding entry stored = .ok next) :
    (∃ key : PyVal F, decoded refusal decoding entry.1 = .ok key ∧ key.hashable = true) ∧
      ∃ value : PyVal F, decoded refusal decoding entry.2 = .ok value := by
  cases key : decoded (F := F) refusal decoding entry.1 with
  | error e => simp [decodedEntry, key] at found
  | ok keyValue =>
    cases val : decoded (F := F) refusal decoding entry.2 with
    | error e => simp [decodedEntry, key, val] at found
    | ok valValue =>
      simp only [decodedEntry, key, val, ok_bind, storeEntry] at found
      by_cases hash : keyValue.hashable = true
      · exact ⟨⟨keyValue, rfl, hash⟩, valValue, rfl⟩
      · simp [hash] at found

/-- Every member of a reply that decodes does. -/
theorem member_decoded {reply : Reply} {value : PyVal F}
    (found : decoded refusal decoding reply = .ok value) :
    ∀ child ∈ reply.children, ∃ part : PyVal F, decoded refusal decoding child = .ok part := by
  intro child member
  cases admits : admitted refusal reply.header with
  | error e => cases reply <;> simp [decoded, admits] at found
  | ok _ =>
    cases reply with
    | array items =>
      simp only [decoded, admits, ok_bind, decodedList_eq] at found
      cases collected : collect (decoded (F := F) refusal decoding) items with
      | error e => simp [collected] at found
      | ok values => exact ok_of_collect collected child member
    | set items =>
      simp only [decoded, admits, ok_bind, decodedList_eq] at found
      cases collected : collect (decoded (F := F) refusal decoding) items with
      | error e => simp [collected] at found
      | ok values => exact ok_of_collect collected child member
    | map entries =>
      simp only [decoded, admits, ok_bind, decodedEntries_eq] at found
      cases threaded : thread (decodedEntry (F := F) refusal decoding) entries [] with
      | error e => simp [threaded] at found
      | ok items =>
        obtain ⟨entry, listed, part⟩ := List.mem_flatMap.mp member
        obtain ⟨stored, next, stepped⟩ := ok_of_thread threaded entry listed
        obtain ⟨⟨key, keyFound, -⟩, other, valueFound⟩ := parts_of_decodedEntry stepped
        simp only [List.mem_cons, List.not_mem_nil, or_false] at part
        rcases part with rfl | rfl
        · exact ⟨key, keyFound⟩
        · exact ⟨other, valueFound⟩
    | _ => simp [Reply.children] at member

/-- A reply that decodes has nothing in it that raises. -/
theorem sound_of_decoded {protocol : Protocol} {reply : Reply}
    (framed : reply.All (Reply.Framed protocol)) {value : PyVal F}
    (found : decoded refusal decoding reply = .ok value) : reply.All (Reply.Sound decoding F) := by
  induction framed generalizing value with
  | @intro reply here within ih =>
    refine .intro ?_ fun child member => ?_
    · cases admits : admitted refusal reply.header with
      | error e => cases reply <;> simp [decoded, admits] at found
      | ok _ =>
        cases reply with
        | simple text =>
          simp only [decoded, admits, ok_bind] at found
          exact Decoding.succeeds_of_finish found
        | bulk data =>
          simp only [decoded, admits, ok_bind] at found
          exact Decoding.succeeds_of_finish found
        | verbatim format data =>
          simp only [decoded, admits, ok_bind] at found
          exact Decoding.succeeds_of_finish found
        | error text =>
          simp only [decoded, admits, ok_bind] at found
          exact ordinary_of_decodedError found
        | bulkError text =>
          simp only [decoded, admits, ok_bind] at found
          exact ordinary_of_decodedError found
        | double text =>
          simp only [decoded, admits, ok_bind] at found
          show (PyFloat.ofBytes text : Option F).isSome
          cases parsed : (PyFloat.ofBytes text : Option F) with
          | some number => rfl
          | none => simp [parsed] at found
        | map entries =>
          intro entry listed
          simp only [decoded, admits, ok_bind, decodedEntries_eq] at found
          cases threaded : thread (decodedEntry (F := F) refusal decoding) entries [] with
          | error e => simp [threaded] at found
          | ok items =>
            obtain ⟨stored, next, stepped⟩ := ok_of_thread threaded entry listed
            obtain ⟨⟨key, keyFound, hash⟩, -⟩ := parts_of_decodedEntry stepped
            exact plain_of_hashable keyFound hash
        | _ => trivial
    · obtain ⟨part, partFound⟩ := member_decoded found child member
      exact ih child member partFound

/-- What decodes is sound and readable throughout, and the other way around. -/
theorem decoded_iff {protocol : Protocol} {reply : Reply}
    (framed : reply.All (Reply.Framed protocol)) :
    (∃ value : PyVal F, decoded refusal decoding reply = .ok value) ↔
      reply.All (Reply.Sound decoding F) ∧ reply.All (Reply.Readable refusal) := by
  constructor
  · rintro ⟨value, found⟩
    have sound := sound_of_decoded framed found
    exact ⟨sound, readable_of_decoded sound found⟩
  · rintro ⟨sound, readable⟩
    exact (decoded_iff_readable sound).mpr readable

/-- Decoding raises; it never waits. -/
theorem decoded_raises {protocol : Protocol} {reply : Reply}
    (framed : reply.All (Reply.Framed protocol)) {e : Stop}
    (failed : decoded (F := F) refusal decoding reply = .error e) : e ≠ .blocked := by
  have text {data : Bytes} {e : Stop}
      (failed : decoding.finish (F := F) (.bytes data) = .error e) : e ≠ .blocked := by
    rintro rfl
    simp only [Decoding.finish, Encoder.decode] at failed
    split at failed
    · cases failed
    · split at failed
      · split at failed <;> cases failed
      · cases failed
  have message {data : Bytes} {e : Stop}
      (failed : decodedError (F := F) data = .error e) : e ≠ .blocked := by
    rintro rfl
    unfold decodedError at failed
    split at failed
    · split at failed <;> cases failed
    · cases failed
  induction framed generalizing e with
  | @intro reply here within ih =>
    cases refused : refusal reply.header with
    | some x =>
      have stops : admitted refusal reply.header = .error (.raised x) := by
        simp only [admitted, refused]
      cases reply <;> simp only [decoded, stops, error_bind, Except.error.injEq] at failed <;>
        simp [← failed]
    | none =>
      have pass : admitted refusal reply.header = .ok () := by simp only [admitted, refused]
      cases reply with
      | simple data =>
        simp only [decoded, pass, ok_bind] at failed
        exact text failed
      | bulk data =>
        simp only [decoded, pass, ok_bind] at failed
        exact text failed
      | verbatim format data =>
        simp only [decoded, pass, ok_bind] at failed
        exact text failed
      | error data =>
        simp only [decoded, pass, ok_bind] at failed
        exact message failed
      | bulkError data =>
        simp only [decoded, pass, ok_bind] at failed
        exact message failed
      | double data =>
        simp only [decoded, pass, ok_bind] at failed
        cases parsed : (PyFloat.ofBytes data : Option F) with
        | some number => simp [parsed] at failed
        | none =>
          simp only [parsed, throw_error, Except.error.injEq] at failed
          simp [← failed]
      | array items =>
        simp only [decoded, pass, ok_bind, decodedList_eq] at failed
        cases collected : collect (decoded (F := F) refusal decoding) items with
        | ok values => simp [collected] at failed
        | error other =>
          simp only [collected, error_bind, Except.error.injEq] at failed
          obtain ⟨child, member, inner⟩ := error_of_collect collected
          rw [← failed]
          exact ih child member inner
      | set items =>
        simp only [decoded, pass, ok_bind, decodedList_eq] at failed
        cases collected : collect (decoded (F := F) refusal decoding) items with
        | ok values => simp [collected] at failed
        | error other =>
          simp only [collected, error_bind, Except.error.injEq] at failed
          obtain ⟨child, member, inner⟩ := error_of_collect collected
          rw [← failed]
          exact ih child member inner
      | map entries =>
        simp only [decoded, pass, ok_bind, decodedEntries_eq] at failed
        cases threaded : thread (decodedEntry (F := F) refusal decoding) entries [] with
        | ok items => simp [threaded] at failed
        | error other =>
          simp only [threaded, error_bind, Except.error.injEq] at failed
          obtain ⟨entry, listed, stored, inner⟩ := error_of_thread threaded
          have inside (child : Reply) (part : child = entry.1 ∨ child = entry.2) :
              child ∈ (Reply.map entries).children :=
            List.mem_flatMap.mpr ⟨entry, listed, by simpa using part⟩
          rw [← failed]
          cases key : decoded (F := F) refusal decoding entry.1 with
          | error raised =>
            simp only [decodedEntry, key, error_bind, Except.error.injEq] at inner
            rw [← inner]
            exact ih entry.1 (inside _ (.inl rfl)) key
          | ok keyValue =>
            cases val : decoded (F := F) refusal decoding entry.2 with
            | error raised =>
              simp only [decodedEntry, key, val, ok_bind, error_bind, Except.error.injEq] at inner
              rw [← inner]
              exact ih entry.2 (inside _ (.inr rfl)) val
            | ok value =>
              simp only [decodedEntry, key, val, ok_bind, storeEntry] at inner
              split at inner
              · cases inner
              · simp only [Except.error.injEq] at inner
                simp [← inner]
      | _ => simp [decoded, pass] at failed

end RedisPy

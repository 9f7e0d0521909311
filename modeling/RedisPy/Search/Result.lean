import RedisPy.Python.Utf8
import RedisPy.Python.Dict
import RedisPy.Sentinel.Discovery

/-!
# Search results

`Result` cuts the flat reply of a search into documents, whose fields are passed to `Document` as keyword
arguments.
-/

namespace RedisPy

variable {F : Type}

/-- A value of a reply or of a document. -/
inductive SearchValue (F : Type) where
  | none
  | int (value : Int)
  | float (value : F)
  | item (value : Item)
  | list (values : List Item)

/-- `to_string(s, encoding)` of a string. -/
def Item.toStr (decode : Bytes → Text) : Item → Text
  | bytes data => decode data
  | str text => text

/-- `to_string(s)`. -/
def SearchValue.toStr : SearchValue F → SearchValue F
  | item value => .item (.str (value.toStr decodeIgnore))
  | other => other

/-! ## Documents -/

/-- `setattr(self, k, v)` of a document, whose value is a string or a float. -/
def setAttribute (document : Dict Text (SearchValue F)) (field : Text × SearchValue F) :
    Except Exc (Dict Text (SearchValue F)) :=
  if field.1 = "__class__".toList ∨ field.1 = "__dict__".toList then .error { cls := .typeError }
  else if field.1 = "__weakref__".toList then .error { cls := .attributeError }
  else .ok (document.set field.1 field.2)

/-- `Document.__init__`: the attributes of the document. -/
def Document.init (id payload : SearchValue F) (fields : Dict Text (SearchValue F)) :
    Except Exc (Dict Text (SearchValue F)) :=
  fields.foldlM setAttribute [("id".toList, id), ("payload".toList, payload)]

/-- `Document(id, score=score, payload=payload, **fields)`, with no `score` if there is none; a name that
is given twice is a `TypeError`. -/
def callDocument (id : SearchValue F) (score : Option (SearchValue F)) (payload : SearchValue F)
    (fields : Dict Text (SearchValue F)) : Except Exc (Dict Text (SearchValue F)) :=
  if fields.contains "payload".toList || (score.isSome && fields.contains "score".toList) ||
      fields.contains "self".toList || fields.contains "id".toList then
    .error { cls := .typeError }
  else
    match score with
    | some score => Document.init id payload (("score".toList, score) :: fields)
    | none => Document.init id payload fields

/-! ## Results -/

/-- What the query asked for. -/
structure SearchFlags where
  hascontent : Bool
  hasPayload : Bool
  withScores : Bool

/-- `field_encodings`: a codec for a field, or none. -/
abbrev FieldEncodings := Option (Dict Text (Option (Bytes → Text)))

/-- `xs[::2]`. -/
def everySecond {α : Type} : List α → List α
  | [] => []
  | [x] => [x]
  | x :: _ :: rest => x :: everySecond rest

/-- The value of a field, decoded as its encoding says. -/
def fieldValue (fieldEncodings : FieldEncodings) (key : Text) (value : Item) : Item :=
  match fieldEncodings.bind fun encodings => Dict.get encodings key with
  | none => .str (value.toStr decodeIgnore)
  | some none => value
  | some (some decode) => .str (value.toStr decode)

/-- The loop over the names and values of a document. -/
def readFields (fieldEncodings : FieldEncodings) (values : List Item) : Dict Text (SearchValue F) :=
  (((everySecond values).map (Item.toStr decodeIgnore)).zip (everySecond values.tail)).foldl
    (fun fields pair => fields.set pair.1 (.item (fieldValue fieldEncodings pair.1 pair.2))) []

/-- `del fields["id"]`, and `$` becomes `json`. -/
def renameFields (fields : Dict Text (SearchValue F)) : Dict Text (SearchValue F) :=
  let fields := fields.erase "id".toList
  match fields.get "$".toList with
  | some value => (fields.set "json".toList value).erase "$".toList
  | none => fields

/-- `res[i]`. -/
def replyAt (res : List (SearchValue F)) (i : Nat) : Except Exc (SearchValue F) :=
  match res[i]? with
  | some value => .ok value
  | none => .error { cls := .indexError }

/-- The fields of the document at this place; a server sends a list or nothing. -/
def fieldsAt (fieldEncodings : FieldEncodings) (res : List (SearchValue F)) (i : Nat) :
    Except Exc (Dict Text (SearchValue F)) := do
  match ← replyAt res i with
  | .none => pure []
  | .list values => pure (readFields fieldEncodings values)
  | _ => .error { cls := .typeError }

namespace SearchFlags

variable (flags : SearchFlags)

/-- `step`. -/
def step : Nat := 1 + flags.hascontent.toNat + flags.hasPayload.toNat + flags.withScores.toNat

/-- `offset`. -/
def offset : Nat := if flags.withScores then 2 else 1

/-- `fields_offset`. -/
def fieldsOffset : Nat := if flags.hasPayload then flags.offset + 1 else flags.offset

/-- `to_string(res[i + offset]) if has_payload else None`. -/
def payloadAt (res : List (SearchValue F)) (i : Nat) : Except Exc (SearchValue F) :=
  if flags.hasPayload then (replyAt res (i + flags.offset)).map SearchValue.toStr else .ok .none

/-- `float(res[i + 1]) if with_scores else None`. -/
def scoreAt (pyFloat : SearchValue F → Except Exc F) (res : List (SearchValue F)) (i : Nat) :
    Except Exc (Option F) :=
  if flags.withScores then ((replyAt res (i + 1)).bind pyFloat).map some else .ok none

/-- The fields of a document, if they are asked for. -/
def contentAt (fieldEncodings : FieldEncodings) (res : List (SearchValue F)) (i : Nat) :
    Except Exc (Dict Text (SearchValue F)) :=
  if flags.hascontent then fieldsAt fieldEncodings res (i + flags.fieldsOffset) else .ok []

/-- One turn of the loop over the reply. -/
def documentAt (pyFloat : SearchValue F → Except Exc F) (fieldEncodings : FieldEncodings)
    (res : List (SearchValue F)) (i : Nat) : Except Exc (Dict Text (SearchValue F)) := do
  let id ← replyAt res i
  let payload ← flags.payloadAt res i
  let score ← flags.scoreAt pyFloat res i
  let fields ← flags.contentAt fieldEncodings res i
  callDocument id.toStr (score.map .float) payload (renameFields fields)

end SearchFlags

/-- `range(start, stop, step)`. -/
def pyRange (start stop step : Nat) : List Nat := List.range' start ((stop - start + step - 1) / step) step

/-- A `Result`. -/
structure SearchResult (F : Type) where
  total : SearchValue F
  duration : F
  docs : List (Dict Text (SearchValue F))

/-- `Result.__init__`. -/
def SearchResult.init (pyFloat : SearchValue F → Except Exc F) (res : List (SearchValue F))
    (flags : SearchFlags) (duration : F) (fieldEncodings : FieldEncodings) :
    Except Exc (SearchResult F) := do
  let total ← replyAt res 0
  let docs ← (pyRange 1 res.length flags.step).mapM (flags.documentAt pyFloat fieldEncodings res)
  pure { total, duration, docs }

end RedisPy

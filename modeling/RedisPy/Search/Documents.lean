import RedisPy.Lib.Failing
import RedisPy.Search.Result

/-!
# Documents kept

What a server sends for a list of documents, and what a result is to keep of each. The names that collide
with a parameter of `Document` or with an attribute that every object has are the exceptions.
-/

namespace RedisPy

variable {F : Type}

/-- A document that a search finds; the fields are missing if it expired meanwhile. -/
structure FoundDocument (pyFloat : SearchValue F → Except Exc F) where
  id : Item
  score : SearchValue F
  /-- The number that the score is the text of. -/
  scoreValue : F
  scored : pyFloat score = .ok scoreValue
  payload : Option Item
  fields : Option (List (Item × Item))
  /-- The names of the fields differ. -/
  distinct : ∀ pairs ∈ fields, (pairs.map fun pair => pair.1.toStr decodeIgnore).Nodup

variable {pyFloat : SearchValue F → Except Exc F}

/-- The name of a field. -/
def fieldName (pair : Item × Item) : Text := pair.1.toStr decodeIgnore

namespace FoundDocument

variable (flags : SearchFlags) (document : FoundDocument pyFloat)

/-- The payload in the reply. -/
def payloadSent : SearchValue F :=
  match document.payload with
  | some payload => .item payload
  | none => .none

/-- The fields in the reply, names and values by turns. -/
def fieldsSent : SearchValue F :=
  match document.fields with
  | some pairs => .list (pairs.flatMap fun pair => [pair.1, pair.2])
  | none => .none

/-- The document in the reply. -/
def sent : List (SearchValue F) :=
  [.item document.id] ++ (if flags.withScores then [document.score] else []) ++
    (if flags.hasPayload then [document.payloadSent] else []) ++
    (if flags.hascontent then [document.fieldsSent] else [])

/-- The fields that are asked for. -/
def asked : List (Item × Item) := if flags.hascontent then document.fields.getD [] else []

end FoundDocument

/-- The name that a field is read under. -/
def readableName (name : Text) : Text := if name = "$".toList then "json".toList else name

/-- A document of the result keeps what was found. -/
structure KeepsDocument (flags : SearchFlags) (fieldEncodings : FieldEncodings)
    (attributes : Dict Text (SearchValue F)) (document : FoundDocument pyFloat) : Prop where
  id : attributes.get "id".toList = some (.item (.str (document.id.toStr decodeIgnore)))
  payload : flags.hasPayload = true → attributes.get "payload".toList = some document.payloadSent.toStr
  score : flags.withScores = true → attributes.get "score".toList = some (.float document.scoreValue)
  /-- Every field but `id` is readable. -/
  field : ∀ pair ∈ document.asked flags, fieldName pair ≠ "id".toList →
    attributes.get (readableName (fieldName pair)) =
      some (.item (fieldValue fieldEncodings (fieldName pair) pair.2))

/-- The result keeps all documents, in order. -/
def KeepsDocuments (flags : SearchFlags) (fieldEncodings : FieldEncodings)
    (documents : List (FoundDocument pyFloat)) (outcome : Except Exc (SearchResult F)) : Prop :=
  ∃ result, outcome = .ok result ∧ List.Forall₂ (KeepsDocument flags fieldEncodings) result.docs documents

/-- The reply to a search. -/
def searchReply (flags : SearchFlags) (total : Int) (documents : List (FoundDocument pyFloat)) :
    List (SearchValue F) :=
  .int total :: documents.flatMap (FoundDocument.sent flags)

/-- The names that are a parameter of `Document` or an attribute that cannot be set. -/
def reservedNames (withScores : Bool) : List Text :=
  ["payload".toList, "self".toList, "__class__".toList, "__dict__".toList, "__weakref__".toList] ++
    if withScores then ["score".toList] else []

/-- No field that is asked for has a reserved name, and if both `$` and `json` are fields, they have the
same value. -/
def FoundDocument.Nameable (flags : SearchFlags) (fieldEncodings : FieldEncodings)
    (document : FoundDocument pyFloat) : Prop :=
  (∀ pair ∈ document.asked flags, fieldName pair ∉ reservedNames flags.withScores) ∧
    ∀ root ∈ document.asked flags, ∀ pair ∈ document.asked flags,
      fieldName root = "$".toList → fieldName pair = "json".toList →
        fieldValue fieldEncodings "json".toList pair.2 = fieldValue fieldEncodings "$".toList root.2

/-! ## Cutting the reply -/

section Cut

variable (flags : SearchFlags) (fieldEncodings : FieldEncodings)

/-- What one turn of the loop makes of a document. -/
def FoundDocument.built (document : FoundDocument pyFloat) : Except Exc (Dict Text (SearchValue F)) :=
  callDocument (.item (.str (document.id.toStr decodeIgnore)))
    (if flags.withScores then some (.float document.scoreValue) else none)
    (if flags.hasPayload then document.payloadSent.toStr else .none)
    (renameFields (readFields fieldEncodings ((document.asked flags).flatMap fun pair => [pair.1, pair.2])))

/-- A value of the document is found at its place in the reply. -/
theorem replyAt_sent {before after : List (SearchValue F)} {document : FoundDocument pyFloat} {k : Nat}
    {value : SearchValue F} (found : (document.sent flags)[k]? = some value) :
    replyAt (before ++ document.sent flags ++ after) (before.length + k) = .ok value := by
  have inside : k < (document.sent flags).length := (List.getElem?_eq_some_iff.mp found).1
  have there : (before ++ document.sent flags ++ after)[before.length + k]? = some value := by
    rw [List.append_assoc, List.getElem?_append_right (Nat.le_add_right _ _), Nat.add_sub_cancel_left,
      List.getElem?_append_left inside, found]
  rw [replyAt, there]

/-- The places of the values of a document. -/
theorem sent_places (document : FoundDocument pyFloat) :
    (document.sent flags)[0]? = some (.item document.id) ∧
      (flags.withScores = true → (document.sent flags)[1]? = some document.score) ∧
      (flags.hasPayload = true → (document.sent flags)[flags.offset]? = some document.payloadSent) ∧
      (flags.hascontent = true → (document.sent flags)[flags.fieldsOffset]? = some document.fieldsSent) := by
  obtain ⟨content, payload, scores⟩ := flags
  cases content <;> cases payload <;> cases scores <;>
    simp [FoundDocument.sent, SearchFlags.offset, SearchFlags.fieldsOffset]

/-- The stride is the number of values of a document. -/
theorem sent_length (document : FoundDocument pyFloat) : (document.sent flags).length = flags.step := by
  obtain ⟨content, payload, scores⟩ := flags
  cases content <;> cases payload <;> cases scores <;> rfl

/-- The fields are read from the names and values. -/
theorem fieldsAt_sent {res : List (SearchValue F)} {i : Nat} {document : FoundDocument pyFloat}
    (content : flags.hascontent = true) (found : replyAt res i = .ok document.fieldsSent) :
    fieldsAt fieldEncodings res i =
      .ok (readFields fieldEncodings ((document.asked flags).flatMap fun pair => [pair.1, pair.2])) := by
  have asked : document.asked flags = document.fields.getD [] := if_pos content
  rw [fieldsAt, found, asked, FoundDocument.fieldsSent]
  cases document.fields with
  | none => rfl
  | some pairs => rfl

/-- A turn at the place of a document makes the document. -/
theorem documentAt_sent (before after : List (SearchValue F)) (document : FoundDocument pyFloat) :
    flags.documentAt pyFloat fieldEncodings (before ++ document.sent flags ++ after) before.length =
      document.built flags fieldEncodings := by
  obtain ⟨idPlace, scorePlace, payloadPlace, fieldsPlace⟩ := sent_places flags document
  have id : replyAt (before ++ document.sent flags ++ after) before.length = .ok (.item document.id) :=
    replyAt_sent flags idPlace
  have payload : flags.payloadAt (before ++ document.sent flags ++ after) before.length =
      .ok (if flags.hasPayload then document.payloadSent.toStr else .none) := by
    unfold SearchFlags.payloadAt
    by_cases given : flags.hasPayload = true
    · rw [if_pos given, if_pos given, replyAt_sent flags (payloadPlace given)]
      rfl
    · rw [if_neg given, if_neg given]
  have score : flags.scoreAt pyFloat (before ++ document.sent flags ++ after) before.length =
      .ok (if flags.withScores then some document.scoreValue else none) := by
    unfold SearchFlags.scoreAt
    by_cases given : flags.withScores = true
    · rw [if_pos given, if_pos given, replyAt_sent flags (scorePlace given), Except.bind, document.scored]
      rfl
    · rw [if_neg given, if_neg given]
  have fields : flags.contentAt fieldEncodings (before ++ document.sent flags ++ after) before.length =
      .ok (readFields fieldEncodings ((document.asked flags).flatMap fun pair => [pair.1, pair.2])) := by
    unfold SearchFlags.contentAt
    by_cases given : flags.hascontent = true
    · rw [if_pos given, fieldsAt_sent flags fieldEncodings given (replyAt_sent flags (fieldsPlace given))]
    · have nothing : document.asked flags = [] := if_neg given
      rw [if_neg given, nothing]
      rfl
  rw [SearchFlags.documentAt, id, payload, score, fields]
  show callDocument _ _ _ _ = _
  unfold FoundDocument.built
  congr 1
  by_cases given : flags.withScores = true
  · rw [if_pos given, if_pos given]
    rfl
  · rw [if_neg given, if_neg given]
    rfl

/-- The loop makes the documents in order. -/
theorem mapM_documentAt (documents : List (FoundDocument pyFloat)) (before : List (SearchValue F)) :
    (List.range' before.length documents.length flags.step).mapM
        (flags.documentAt pyFloat fieldEncodings
          (before ++ documents.flatMap (FoundDocument.sent flags))) =
      documents.mapM (FoundDocument.built flags fieldEncodings) := by
  induction documents generalizing before with
  | nil => rfl
  | cons document documents ih =>
    have rest := ih (before ++ document.sent flags)
    rw [List.length_append, sent_length, List.append_assoc] at rest
    rw [List.length_cons, List.range'_succ, List.flatMap_cons, List.mapM_cons, List.mapM_cons, rest,
      ← List.append_assoc, documentAt_sent]

/-- The positions of the documents. -/
theorem pyRange_searchReply (total : Int) (documents : List (FoundDocument pyFloat)) :
    pyRange 1 (searchReply flags total documents).length flags.step =
      List.range' 1 documents.length flags.step := by
  have length : (searchReply flags total documents).length = documents.length * flags.step + 1 := by
    rw [searchReply, List.length_cons]
    congr 1
    induction documents with
    | nil => exact (Nat.zero_mul _).symm
    | cons document documents ih =>
      rw [List.flatMap_cons, List.length_append, sent_length, ih, List.length_cons, Nat.add_comm,
        Nat.succ_mul]
  have positive : 0 < flags.step := by
    unfold SearchFlags.step
    omega
  have count : (documents.length * flags.step + 1 - 1 + flags.step - 1) / flags.step = documents.length := by
    rw [Nat.add_sub_cancel, Nat.add_sub_assoc positive, Nat.mul_comm, Nat.mul_add_div positive,
      Nat.div_eq_of_lt (Nat.sub_lt positive Nat.one_pos), Nat.add_zero]
  rw [pyRange, length, count]

/-- A result is built from its documents. -/
theorem init_searchReply (total : Int) (documents : List (FoundDocument pyFloat)) (duration : F) :
    SearchResult.init pyFloat (searchReply flags total documents) flags duration fieldEncodings =
      (documents.mapM (FoundDocument.built flags fieldEncodings)).map fun docs =>
        { total := .int total, duration, docs } := by
  have loop := mapM_documentAt flags fieldEncodings documents [.int total]
  have total' : replyAt (searchReply flags total documents) 0 = .ok (.int total) := rfl
  rw [SearchResult.init, total', pyRange_searchReply]
  show (_ >>= fun docs => _) = _
  rw [show (List.range' 1 documents.length flags.step).mapM
    (flags.documentAt pyFloat fieldEncodings (searchReply flags total documents)) = _ from loop]
  cases documents.mapM (FoundDocument.built flags fieldEncodings) <;> rfl

end Cut

/-! ## One document -/

section Build

variable (fieldEncodings : FieldEncodings)

/-- The names are every second string. -/
theorem everySecond_names (pairs : List (Item × Item)) :
    everySecond (pairs.flatMap fun pair => [pair.1, pair.2]) = pairs.map (·.1) := by
  induction pairs with
  | nil => rfl
  | cons pair pairs ih => exact congrArg (pair.1 :: ·) ih

/-- The values are the others. -/
theorem everySecond_values (pairs : List (Item × Item)) :
    everySecond (pairs.flatMap fun pair => [pair.1, pair.2]).tail = pairs.map (·.2) := by
  induction pairs with
  | nil => rfl
  | cons pair pairs ih =>
    cases pairs with
    | nil => rfl
    | cons next pairs => exact congrArg (pair.2 :: ·) ih

/-- The fields that are read are those that were sent, in order. -/
theorem readFields_flatMap {pairs : List (Item × Item)} (distinct : (pairs.map fieldName).Nodup) :
    (readFields fieldEncodings (pairs.flatMap fun pair => [pair.1, pair.2]) : Dict Text (SearchValue F)) =
      pairs.map fun pair =>
        (fieldName pair, .item (fieldValue fieldEncodings (fieldName pair) pair.2)) := by
  have zipped : ((pairs.map (·.1)).map (Item.toStr decodeIgnore)).zip (pairs.map (·.2)) =
      pairs.map fun pair => (fieldName pair, pair.2) := by
    rw [List.map_map, List.zip_map']
    rfl
  rw [readFields, everySecond_names, everySecond_values, zipped, List.foldl_map]
  have unique : Dict.Unique (pairs.map fun pair =>
      (fieldName pair, (.item (fieldValue fieldEncodings (fieldName pair) pair.2) : SearchValue F))) := by
    rw [Dict.Unique, Dict.keys, List.map_map]
    exact distinct
  have stored := Dict.update_of_disjoint (d := []) unique fun _ _ member => absurd member List.not_mem_nil
  rw [List.nil_append] at stored
  rw [← stored, Dict.update, List.foldl_map]

/-- What is found once `id` and `$` are renamed. -/
theorem get_renameFields {fields : Dict Text (SearchValue F)} (unique : fields.Unique) (name : Text) :
    (renameFields fields).get name =
      if name = "id".toList ∨ name = "$".toList then none
      else if name = "json".toList then (fields.get "$".toList).or (fields.get "json".toList)
      else fields.get name := by
  have withoutId := unique.erase "id".toList
  have root : (fields.erase "id".toList).get "$".toList = fields.get "$".toList :=
    Dict.get_erase_ne _ (by decide)
  unfold renameFields
  dsimp only
  rw [root]
  by_cases gone : name = "id".toList ∨ name = "$".toList
  · rw [if_pos gone]
    rcases gone with rfl | rfl
    · split
      · rw [Dict.get_erase_ne _ (by decide), Dict.get_set_ne _ _ (by decide), unique.get_erase_self]
      · exact unique.get_erase_self _
    · split
      · exact (withoutId.set _ _).get_erase_self _
      · next missing => rw [root, missing]
  · obtain ⟨notId, notRoot⟩ := not_or.mp gone
    rw [if_neg gone]
    by_cases json : name = "json".toList
    · subst json
      rw [if_pos rfl]
      split
      · next value found => rw [Dict.get_erase_ne _ notRoot, Dict.get_set_self, found, Option.some_or]
      · next missing => rw [Dict.get_erase_ne _ notId, missing, Option.none_or]
    · rw [if_neg json]
      split
      · rw [Dict.get_erase_ne _ notRoot, Dict.get_set_ne _ _ (Ne.symm json), Dict.get_erase_ne _ notId]
      · exact Dict.get_erase_ne _ notId

/-- Renaming stores no name twice. -/
theorem unique_renameFields {fields : Dict Text (SearchValue F)} (unique : fields.Unique) :
    (renameFields fields).Unique := by
  unfold renameFields
  dsimp only
  split
  · exact ((unique.erase _).set _ _).erase _
  · exact unique.erase _

end Build

/-! ## Keyword arguments -/

/-- The attributes that cannot be set to a string or a float. -/
def fixedAttributes : List Text := ["__class__".toList, "__dict__".toList, "__weakref__".toList]

/-- Other attributes are set. -/
theorem setAttribute_ok {field : Text × SearchValue F} (free : field.1 ∉ fixedAttributes)
    (document : Dict Text (SearchValue F)) : setAttribute document field = .ok (document.set field.1 field.2) := by
  simp only [fixedAttributes, List.mem_cons, List.not_mem_nil, or_false, not_or] at free
  rw [setAttribute, if_neg (not_or.mpr ⟨free.1, free.2.1⟩), if_neg free.2.2]

/-- These raise. -/
theorem setAttribute_error {field : Text × SearchValue F} (fixed : field.1 ∈ fixedAttributes)
    (document : Dict Text (SearchValue F)) : ∃ e, setAttribute document field = .error e := by
  simp only [fixedAttributes, List.mem_cons, List.not_mem_nil, or_false] at fixed
  unfold setAttribute
  rcases fixed with same | same | same
  · exact ⟨_, if_pos (.inl same)⟩
  · exact ⟨_, if_pos (.inr same)⟩
  · rw [if_neg (by rw [same]; decide), if_pos same]
    exact ⟨_, rfl⟩

/-- The attributes are `id`, `payload` and the fields. -/
theorem init_ok {fields : Dict Text (SearchValue F)} (free : ∀ name ∈ fields.keys, name ∉ fixedAttributes)
    (id payload : SearchValue F) :
    Document.init id payload fields =
      .ok (Dict.update [("id".toList, id), ("payload".toList, payload)] fields) := by
  have runs (fields document : Dict Text (SearchValue F)) (free : ∀ name ∈ fields.keys, name ∉ fixedAttributes) :
      fields.foldlM setAttribute document = .ok (document.update fields) := by
    induction fields generalizing document with
    | nil => rfl
    | cons field fields ih =>
      rw [List.foldlM_cons, setAttribute_ok (free field.1 List.mem_cons_self)]
      exact ih _ fun name member => free name (List.mem_cons_of_mem _ member)
  exact runs fields _ free

/-- One of the others raises. -/
theorem init_error {fields : Dict Text (SearchValue F)} {name : Text} (member : name ∈ fields.keys)
    (fixed : name ∈ fixedAttributes) (id payload : SearchValue F) :
    ∃ e, Document.init id payload fields = .error e := by
  obtain ⟨field, stored, rfl⟩ := List.mem_map.mp member
  exact Failing.foldlM_error stored (setAttribute_error fixed) _

/-- The keyword arguments but for the payload. -/
def keywords (score : Option (SearchValue F)) (fields : Dict Text (SearchValue F)) :
    Dict Text (SearchValue F) :=
  score.toList.map (fun score => ("score".toList, score)) ++ fields

/-- The score is found under its name, and the fields under theirs. -/
theorem get_keywords (score : Option (SearchValue F)) (fields : Dict Text (SearchValue F)) (name : Text) :
    (keywords score fields).get name = (if name = "score".toList then score else none).or (fields.get name) := by
  cases score with
  | none => rw [ite_self, Option.none_or]; rfl
  | some score =>
    by_cases same : name = "score".toList
    · subst same
      rw [if_pos rfl, Option.some_or]
      rfl
    · have apart : ("score".toList == name) = false := beq_eq_false_iff_ne.mpr (Ne.symm same)
      rw [if_neg same, Option.none_or, keywords, Option.toList_some, List.map_singleton, List.singleton_append,
        Dict.get, List.find?_cons, apart]
      rfl

/-- No keyword is given twice if the fields have no reserved name. -/
theorem unique_keywords {score : Option (SearchValue F)} {fields : Dict Text (SearchValue F)}
    (unique : fields.Unique) (free : ∀ name ∈ fields.keys, name ∉ reservedNames score.isSome) :
    (keywords score fields).Unique := by
  cases score with
  | none => exact unique
  | some score =>
    have reserved : "score".toList ∈ reservedNames true := by decide
    exact List.nodup_cons.mpr ⟨fun member => free _ member reserved, unique⟩

/-- Names that are free are passed on. -/
theorem callDocument_ok {fields : Dict Text (SearchValue F)} {score : Option (SearchValue F)}
    (free : ∀ name ∈ fields.keys, name ∉ reservedNames score.isSome) (noId : "id".toList ∉ fields.keys)
    (id payload : SearchValue F) :
    callDocument id score payload fields =
      .ok (Dict.update [("id".toList, id), ("payload".toList, payload)] (keywords score fields)) := by
  have absent {name : Text} (reserved : name ∈ reservedNames score.isSome) : fields.contains name = false := by
    rw [← Bool.not_eq_true, Dict.contains_iff_mem_keys]
    exact fun member => free name member reserved
  have noId' : fields.contains "id".toList = false := by
    rw [← Bool.not_eq_true, Dict.contains_iff_mem_keys]
    exact noId
  have settable : ∀ name ∈ fields.keys, name ∉ fixedAttributes := by
    intro name member fixed
    refine free name member (List.mem_append_left _ ?_)
    simp only [fixedAttributes, List.mem_cons, List.not_mem_nil, or_false] at fixed
    rcases fixed with rfl | rfl | rfl <;> decide
  have payload' := absent (List.mem_append_left _ (by decide : "payload".toList ∈ _))
  have self' := absent (List.mem_append_left _ (by decide : "self".toList ∈ _))
  unfold callDocument
  cases score with
  | none =>
    rw [payload', self', noId']
    exact init_ok settable id payload
  | some score =>
    have score' := absent (List.mem_append_right _ (by decide : "score".toList ∈ ["score".toList]))
    rw [payload', self', noId', score']
    refine init_ok (fun name member => ?_) id payload
    rcases List.mem_cons.mp member with rfl | member
    · show "score".toList ∉ fixedAttributes
      decide
    · exact settable name member

/-- A reserved name raises. -/
theorem callDocument_error {fields : Dict Text (SearchValue F)} {score : Option (SearchValue F)} {name : Text}
    (member : name ∈ fields.keys) (reserved : name ∈ reservedNames score.isSome) (id payload : SearchValue F) :
    ∃ e, callDocument id score payload fields = .error e := by
  have stored : fields.contains name = true := Dict.contains_iff_mem_keys.mpr member
  unfold callDocument
  by_cases collides : (fields.contains "payload".toList || (score.isSome && fields.contains "score".toList) ||
      fields.contains "self".toList || fields.contains "id".toList) = true
  · exact ⟨_, if_pos collides⟩
  · rw [if_neg collides]
    simp only [Bool.or_eq_true, Bool.and_eq_true, not_or, not_and] at collides
    have fixed : name ∈ fixedAttributes := by
      rcases List.mem_append.mp reserved with early | late
      · simp only [List.mem_cons, List.not_mem_nil, or_false] at early
        rcases early with rfl | rfl | rfl | rfl | rfl
        · exact absurd stored collides.1.1.1
        · exact absurd stored collides.1.2
        · decide
        · decide
        · decide
      · cases score with
        | none => exact absurd late List.not_mem_nil
        | some score =>
          have same : name = "score".toList := List.mem_singleton.mp late
          subst same
          exact absurd stored (collides.1.1.2 rfl)
    cases score with
    | none => exact init_error member fixed id payload
    | some score => exact init_error (List.mem_cons_of_mem _ member) fixed id payload

/-! ## Documents -/

section Keep

variable (flags : SearchFlags) (fieldEncodings : FieldEncodings) (document : FoundDocument pyFloat)

/-- The fields that are asked for have different names. -/
theorem FoundDocument.distinct_asked : ((document.asked flags).map fieldName).Nodup := by
  unfold FoundDocument.asked
  split
  · cases sent : document.fields with
    | none => exact List.nodup_nil
    | some pairs => exact document.distinct pairs sent
  · exact List.nodup_nil

/-- The fields that are passed to `Document`. -/
def FoundDocument.passed : Dict Text (SearchValue F) :=
  renameFields (readFields fieldEncodings ((document.asked flags).flatMap fun pair => [pair.1, pair.2]))

/-- The fields as they were sent. -/
def FoundDocument.named : Dict Text (SearchValue F) :=
  (document.asked flags).map fun pair =>
    (fieldName pair, .item (fieldValue fieldEncodings (fieldName pair) pair.2))

/-- The names that were sent. -/
theorem FoundDocument.keys_named :
    (document.named flags fieldEncodings).keys = (document.asked flags).map fieldName := by
  rw [named, Dict.keys, List.map_map]
  rfl

/-- Different names. -/
theorem FoundDocument.unique_named : (document.named flags fieldEncodings).Unique := by
  rw [Dict.Unique, keys_named]
  exact document.distinct_asked flags

/-- A field that was sent. -/
theorem FoundDocument.get_named {pair : Item × Item} (member : pair ∈ document.asked flags) :
    (document.named flags fieldEncodings).get (fieldName pair) =
      some (.item (fieldValue fieldEncodings (fieldName pair) pair.2)) :=
  (document.unique_named flags fieldEncodings).get_of_mem (List.mem_map.mpr ⟨pair, member, rfl⟩)

/-- What is passed of them. -/
theorem FoundDocument.get_passed (name : Text) :
    (document.passed flags fieldEncodings).get name =
      if name = "id".toList ∨ name = "$".toList then none
      else if name = "json".toList then
        ((document.named flags fieldEncodings).get "$".toList).or
          ((document.named flags fieldEncodings).get "json".toList)
      else (document.named flags fieldEncodings).get name := by
  rw [passed, readFields_flatMap fieldEncodings (document.distinct_asked flags)]
  exact get_renameFields (document.unique_named flags fieldEncodings) name

/-- A name that is passed is `json` or was sent, and is not `id`. -/
theorem FoundDocument.mem_keys_passed {name : Text} (member : name ∈ (document.passed flags fieldEncodings).keys) :
    name ≠ "id".toList ∧ (name = "json".toList ∨ ∃ pair ∈ document.asked flags, fieldName pair = name) := by
  have found := Dict.isSome_get_iff.mpr member
  rw [get_passed] at found
  by_cases gone : name = "id".toList ∨ name = "$".toList
  · rw [if_pos gone] at found
    cases found
  · rw [if_neg gone] at found
    refine ⟨(not_or.mp gone).1, ?_⟩
    by_cases json : name = "json".toList
    · exact .inl json
    · rw [if_neg json] at found
      have sent := Dict.isSome_get_iff.mp found
      rw [keys_named] at sent
      exact .inr (List.mem_map.mp sent)

/-- A reserved name that was sent is passed. -/
theorem FoundDocument.passed_of_reserved {pair : Item × Item} (member : pair ∈ document.asked flags)
    (reserved : fieldName pair ∈ reservedNames flags.withScores) :
    fieldName pair ∈ (document.passed flags fieldEncodings).keys := by
  have other : ∀ name ∈ reservedNames flags.withScores,
      ¬(name = "id".toList ∨ name = "$".toList) ∧ name ≠ "json".toList := by
    cases flags.withScores <;> decide
  rw [← Dict.isSome_get_iff, get_passed, if_neg (other _ reserved).1, if_neg (other _ reserved).2,
    document.get_named flags fieldEncodings member]
  rfl

/-- The score that is passed. -/
def FoundDocument.scorePassed : Option (SearchValue F) :=
  if flags.withScores then some (.float document.scoreValue) else none

/-- There is one if scores are asked for. -/
theorem FoundDocument.isSome_scorePassed : (document.scorePassed flags).isSome = flags.withScores := by
  unfold scorePassed
  cases flags.withScores <;> rfl

/-- A document that is kept has fields that can be named. -/
theorem nameable_of_keeps {attributes : Dict Text (SearchValue F)}
    (run : document.built flags fieldEncodings = .ok attributes)
    (keeps : KeepsDocument flags fieldEncodings attributes document) :
    document.Nameable flags fieldEncodings := by
  refine ⟨fun pair member reserved => ?_, fun root rootThere pair pairThere isRoot isJson => ?_⟩
  · have collides := document.passed_of_reserved flags fieldEncodings member reserved
    rw [← document.isSome_scorePassed flags] at reserved
    obtain ⟨e, failed⟩ := callDocument_error collides reserved
      (.item (.str (document.id.toStr decodeIgnore)))
      (if flags.hasPayload then document.payloadSent.toStr else .none)
    have built : document.built flags fieldEncodings = .error e := failed
    rw [run] at built
    cases built
  · have byRoot := keeps.field root rootThere (by rw [isRoot]; decide)
    have byJson := keeps.field pair pairThere (by rw [isJson]; decide)
    rw [isRoot, show readableName "$".toList = "json".toList from rfl] at byRoot
    rw [isJson, show readableName "json".toList = "json".toList from rfl, byRoot] at byJson
    injection byJson with same
    injection same with same
    exact same.symm

/-- A field is passed under the name that it is read under. -/
theorem FoundDocument.get_passed_readable (nameable : document.Nameable flags fieldEncodings)
    {pair : Item × Item} (sent : pair ∈ document.asked flags) (notId : fieldName pair ≠ "id".toList) :
    (document.passed flags fieldEncodings).get (readableName (fieldName pair)) =
      some (.item (fieldValue fieldEncodings (fieldName pair) pair.2)) := by
  have here := document.get_named flags fieldEncodings sent
  by_cases isRoot : fieldName pair = "$".toList
  · have isJson : readableName "$".toList = "json".toList := rfl
    rw [isRoot] at here ⊢
    rw [get_passed, isJson, if_neg (by decide), if_pos rfl, here, Option.some_or]
  · have same : readableName (fieldName pair) = fieldName pair := if_neg isRoot
    rw [same, get_passed, if_neg (not_or.mpr ⟨notId, isRoot⟩)]
    by_cases isJson : fieldName pair = "json".toList
    · rw [if_pos isJson]
      rw [isJson] at here ⊢
      cases root : (document.named flags fieldEncodings).get "$".toList with
      | none => rw [Option.none_or, here]
      | some value =>
        -- `$` takes the place of `json`, with the same value
        have stored : "$".toList ∈ (document.named flags fieldEncodings).keys :=
          Dict.isSome_get_iff.mp (by rw [root]; rfl)
        rw [keys_named] at stored
        obtain ⟨other, otherSent, isOther⟩ := List.mem_map.mp stored
        have there := document.get_named flags fieldEncodings otherSent
        rw [isOther, root] at there
        rw [Option.some_or, there, nameable.2 other otherSent pair sent isOther isJson]
    · rw [if_neg isJson, here]

/-- A document whose fields can be named is kept. -/
theorem keeps_of_nameable (nameable : document.Nameable flags fieldEncodings) :
    ∃ attributes, document.built flags fieldEncodings = .ok attributes ∧
      KeepsDocument flags fieldEncodings attributes document := by
  have free : ∀ name ∈ (document.passed flags fieldEncodings).keys,
      name ∉ reservedNames (document.scorePassed flags).isSome := by
    intro name member
    rw [document.isSome_scorePassed]
    obtain ⟨-, rfl | ⟨pair, sent, rfl⟩⟩ := document.mem_keys_passed flags fieldEncodings member
    · cases flags.withScores <;> decide
    · exact nameable.1 pair sent
  have noId : "id".toList ∉ (document.passed flags fieldEncodings).keys := fun member =>
    (document.mem_keys_passed flags fieldEncodings member).1 rfl
  have run := callDocument_ok free noId (.item (.str (document.id.toStr decodeIgnore)))
    (if flags.hasPayload then document.payloadSent.toStr else .none)
  refine ⟨_, run, ?_⟩
  have unique : (document.passed flags fieldEncodings).Unique := by
    rw [FoundDocument.passed, readFields_flatMap fieldEncodings (document.distinct_asked flags)]
    exact unique_renameFields (document.unique_named flags fieldEncodings)
  have reads (name : Text) := Dict.get_update (d := [("id".toList, .item (.str (document.id.toStr decodeIgnore))),
    ("payload".toList, if flags.hasPayload then document.payloadSent.toStr else .none)])
    (unique_keywords unique free) name
  have missing {name : Text} (reserved : name ∈ reservedNames (document.scorePassed flags).isSome) :
      (document.passed flags fieldEncodings).get name = none :=
    Dict.get_of_notMem fun member => free name member reserved
  refine ⟨?_, fun asks => ?_, fun asks => ?_, fun pair sent notId => ?_⟩
  · rw [reads, get_keywords, if_neg (by decide), Dict.get_of_notMem noId]
    rfl
  · rw [reads, get_keywords, if_neg (by decide), missing (List.mem_append_left _ (by decide)), if_pos asks]
    rfl
  · have score : document.scorePassed flags = some (.float document.scoreValue) := if_pos asks
    rw [reads, get_keywords, if_pos rfl, score]
    rfl
  · have found := document.get_passed_readable flags fieldEncodings nameable sent notId
    have noScore : (if readableName (fieldName pair) = "score".toList then document.scorePassed flags
        else none) = none := by
      by_cases same : readableName (fieldName pair) = "score".toList
      · have name : fieldName pair = "score".toList := by
          unfold readableName at same
          split at same
          · exact absurd same (by decide)
          · exact same
        rw [if_pos same]
        refine if_neg fun asks => nameable.1 pair sent ?_
        rw [name, asks]
        decide
      · exact if_neg same
    rw [reads, get_keywords, noScore, Option.none_or, found, Option.some_or]

/-- A document is kept exactly if its fields can be named. -/
theorem built_keeps_iff :
    (∃ attributes, document.built flags fieldEncodings = .ok attributes ∧
        KeepsDocument flags fieldEncodings attributes document) ↔
      document.Nameable flags fieldEncodings :=
  ⟨fun ⟨_, run, keeps⟩ => nameable_of_keeps flags fieldEncodings document run keeps,
    keeps_of_nameable flags fieldEncodings document⟩

end Keep

/-- All documents are kept exactly if the fields of each can be named. -/
theorem init_keepsDocuments_iff (flags : SearchFlags) (fieldEncodings : FieldEncodings) (total : Int)
    (duration : F) (documents : List (FoundDocument pyFloat)) :
    KeepsDocuments flags fieldEncodings documents
        (SearchResult.init pyFloat (searchReply flags total documents) flags duration fieldEncodings) ↔
      ∀ document ∈ documents, document.Nameable flags fieldEncodings := by
  have each : (∀ document ∈ documents, document.Nameable flags fieldEncodings) ↔
      ∀ document ∈ documents, ∃ attributes, document.built flags fieldEncodings = .ok attributes ∧
        KeepsDocument flags fieldEncodings attributes document :=
    forall₂_congr fun document _ => (built_keeps_iff flags fieldEncodings document).symm
  rw [each, ← Failing.mapM_forall₂_iff, init_searchReply, KeepsDocuments]
  cases documents.mapM (FoundDocument.built flags fieldEncodings) with
  | error e =>
    refine iff_of_false ?_ ?_
    · rintro ⟨_, missing, -⟩
      cases missing
    · rintro ⟨_, missing, -⟩
      cases missing
  | ok docs =>
    constructor
    · rintro ⟨_, ⟨⟩, kept⟩
      exact ⟨docs, rfl, kept⟩
    · rintro ⟨_, ⟨⟩, kept⟩
      exact ⟨_, rfl, kept⟩

/-- A document with a field of the name `payload` makes the whole result raise `TypeError`. -/
theorem payload_field_raises :
    let flags : SearchFlags := { hascontent := true, hasPayload := false, withScores := false }
    let document : FoundDocument (fun _ : SearchValue Nat => .ok 0) :=
      { id := .str "doc:1".toList, score := .none, scoreValue := 0, scored := rfl, payload := none
        fields := some [(.str "title".toList, .str "Redis".toList), (.str "payload".toList, .str "42".toList)]
        distinct := by
          rintro _ ⟨⟩
          decide }
    let outcome := SearchResult.init (fun _ => .ok 0) (searchReply flags 1 [document]) flags 0 none
    outcome = .error { cls := .typeError } ∧ ¬KeepsDocuments flags none [document] outcome := by
  intro flags document outcome
  have raised : outcome = .error { cls := .typeError } := by
    have turn : document.built flags none = .error { cls := .typeError } := rfl
    rw [show outcome = _ from init_searchReply flags none 1 [document] 0, List.mapM_cons, turn]
    rfl
  refine ⟨raised, ?_⟩
  rw [raised]
  rintro ⟨_, missing, -⟩
  cases missing

end RedisPy

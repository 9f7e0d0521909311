import RedisPy.Lib.Failing
import RedisPy.Python.Splitting
import RedisPy.Python.Dict
import RedisPy.Client.Packing
import RedisPy.Sentinel.Discovery

/-!
# Client descriptions

`parse_client_list` and `parse_client_info` read the same format, the one with values as they are and the
other with some of them as integers.
-/

namespace RedisPy

/-- A value of a client description. -/
inductive Attribute where
  | int (value : Int)
  | text (value : Text)
deriving DecidableEq

/-- The fields that are integers in the server. -/
def integerKeys : List Text :=
  ["id", "age", "idle", "db", "sub", "psub", "multi", "qbuf", "qbuf-free", "obl", "argv-mem", "oll", "omem",
    "tot-mem"].map String.toList

/-- `pair.split("=", 1)` as an item of `dict`. -/
def pairOf (pair : Text) : Except Exc (Text × Text) :=
  match splitOnce '=' pair with
  | [key, value] => .ok (key, value)
  | _ => .error { cls := .valueError }

/-- `dict(pair.split("=", 1) for pair in c.split(" "))`. -/
def clientOf (c : Text) : Except Exc (Dict Text Text) :=
  ((c.splitOn ' ').mapM pairOf).map (Dict.update [])

/-- `parse_client_list`. -/
def parseClientList (response : Item) : Except Exc (List (Dict Text Text)) :=
  (splitlines response.text).mapM clientOf

/-- `key, value = info.split("=")` and `client_info[key] = value`. -/
def addInfo (clientInfo : Dict Text Attribute) (info : Text) : Except Exc (Dict Text Attribute) :=
  match info.splitOn '=' with
  | [key, value] => .ok (clientInfo.set key (.text value))
  | _ => .error { cls := .valueError }

/-- `client_info[int_key] = int(client_info[int_key])`. -/
def toInteger (clientInfo : Dict Text Attribute) (intKey : Text) : Except Exc (Dict Text Attribute) :=
  match clientInfo.get intKey with
  | none => .error { cls := .keyError }
  | some (.int value) => .ok (clientInfo.set intKey (.int value))
  | some (.text value) =>
    match intOfText value with
    | none => .error { cls := .valueError }
    | some value => .ok (clientInfo.set intKey (.int value))

/-- `parse_client_info`; the integer keys are a set, which gives them in some order. -/
def parseClientInfo (order : List Text) (value : Item) : Except Exc (Dict Text Attribute) := do
  let clientInfo ← (splitText (stripText value.text)).foldlM addInfo []
  order.foldlM toInteger clientInfo

/-! ## Descriptions -/

/-- The value as the server writes it. -/
def Attribute.rendered : Attribute → Text
  | int value => decimalText value
  | text value => value

/-- The attributes of a client, the integers among them. -/
structure ClientDescription where
  attributes : Dict Text Attribute
  unique : attributes.Unique
  /-- Names have neither `=` nor a space. -/
  named : ∀ name ∈ attributes.keys, '=' ∉ name ∧ ' ' ∉ name
  /-- Values are of printable ASCII characters other than space. -/
  printable : ∀ name value, (name, .text value) ∈ attributes → ∀ c ∈ value, 33 ≤ c.toNat ∧ c.toNat ≤ 126
  /-- The integer attributes are there, and are the only integers. -/
  integers : ∀ name, name ∈ integerKeys ↔ ∃ value, (name, .int value) ∈ attributes

namespace ClientDescription

/-- `name=value`. -/
def pair (item : Text × Attribute) : Text := item.1 ++ '=' :: item.2.rendered

/-- `name=value name=value`. -/
def line (client : ClientDescription) : Text := [' '].intercalate (client.attributes.map pair)

/-- No value has `=`, and no name has a blank. -/
def Splittable (client : ClientDescription) : Prop :=
  (∀ name value, (name, .text value) ∈ client.attributes → '=' ∉ value) ∧
    ∀ name ∈ client.attributes.keys, ∀ c ∈ name, isUnicodeSpace c = false

end ClientDescription

/-- The reply is this text, decoded or not. -/
def Item.Renders (reply : Item) (text : Text) : Prop := reply = .str text ∨ reply = .bytes (utf8 text)

/-- The parsers recover the clients from their lines, and accept the same ones. -/
structure ParsedUniformly (order : List Text) (clients : List ClientDescription) : Prop where
  /-- `parse_client_info` recovers each client, integers as integers. -/
  info : ∀ client ∈ clients, ∀ reply : Item,
    reply.Renders client.line ∨ reply.Renders (client.line ++ ['\n']) →
    ∃ parsed, parseClientInfo order reply = .ok parsed ∧ ∀ name, parsed.get name = client.attributes.get name
  /-- `parse_client_list` recovers all of them, with texts as values. -/
  list : ∀ reply : Item, reply.Renders (clients.flatMap (·.line ++ ['\n'])) →
    ∃ parsed, parseClientList reply = .ok parsed ∧
      List.Forall₂ (fun found client => ∀ name,
        Dict.get found name = (client.attributes.get name).map Attribute.rendered) parsed clients
  /-- They accept the same lines. -/
  same : ∀ client ∈ clients, ∀ reply : Item, reply.Renders (client.line ++ ['\n']) →
    ((∃ parsed, parseClientInfo order reply = .ok parsed) ↔ ∃ parsed, parseClientList reply = .ok parsed)

/-! ## Pairs -/

/-- A rendered text reads as itself. -/
theorem Item.Renders.text {reply : Item} {text : Text} (renders : reply.Renders text) : reply.text = text := by
  rcases renders with rfl | rfl
  · rfl
  · exact decodeReplace_utf8 text

namespace ClientDescription

variable (client : ClientDescription)

/-- Rendered values are printable. -/
theorem rendered_printable {item : Text × Attribute} (member : item ∈ client.attributes) :
    ∀ c ∈ item.2.rendered, 33 ≤ c.toNat ∧ c.toNat ≤ 126 := by
  obtain ⟨name, value⟩ := item
  cases value with
  | text value => exact client.printable name value member
  | int value =>
    intro c inside
    have range := decimalText_range value c inside
    omega

/-- No rendered value has `=` if no text has. -/
theorem rendered_plain {item : Text × Attribute} (splittable : client.Splittable)
    (member : item ∈ client.attributes) : '=' ∉ item.2.rendered := by
  obtain ⟨name, value⟩ := item
  cases value with
  | text value => exact splittable.1 name value member
  | int value =>
    intro inside
    exact absurd (decimalText_range value '=' inside) (by decide)

/-- The name of an item. -/
theorem mem_keys {item : Text × Attribute} (member : item ∈ client.attributes) :
    item.1 ∈ client.attributes.keys := List.mem_map_of_mem member

/-- The pairs have no space, and no blank if the names have none. -/
theorem pair_solid {item : Text × Attribute} (member : item ∈ client.attributes)
    (solid : ∀ c ∈ item.1, isUnicodeSpace c = false) : ∀ c ∈ pair item, isUnicodeSpace c = false := by
  intro c inside
  rcases List.mem_append.mp inside with early | late
  · exact solid c early
  · rcases List.mem_cons.mp late with rfl | late
    · decide
    · exact isUnicodeSpace_of_printable (client.rendered_printable member c late)

/-- The words of a line are its pairs if the names have no blank. -/
theorem splitText_line (solid : ∀ name ∈ client.attributes.keys, ∀ c ∈ name, isUnicodeSpace c = false) :
    splitText client.line = client.attributes.map pair := by
  refine splitText_intercalate ?_ ?_
  · intro word member
    obtain ⟨item, -, rfl⟩ := List.mem_map.mp member
    exact List.append_ne_nil_of_right_ne_nil _ (List.cons_ne_nil _ _)
  · intro word member
    obtain ⟨item, stored, rfl⟩ := List.mem_map.mp member
    exact client.pair_solid stored (solid _ (client.mem_keys stored))

/-- Pairs are split at spaces again. -/
theorem splitOn_line : client.line.splitOn ' ' = client.attributes.map pair := by
  refine List.splitOn_intercalate ' ' ?_ ?_
  · intro word member
    obtain ⟨item, stored, rfl⟩ := List.mem_map.mp member
    intro inside
    rcases List.mem_append.mp inside with early | late
    · exact (client.named _ (client.mem_keys stored)).2 early
    · rcases List.mem_cons.mp late with same | late
      · exact absurd same (by decide)
      · exact absurd (client.rendered_printable stored ' ' late) (by decide)
  · intro empty
    -- the integer attributes are always there
    obtain ⟨value, stored⟩ := (client.integers "id".toList).mp (by decide)
    rw [List.map_eq_nil_iff.mp empty] at stored
    cases stored

/-! ## The list -/

/-- A pair gives the name and the value as it is rendered. -/
theorem pairOf_pair {item : Text × Attribute} (member : item ∈ client.attributes) :
    pairOf (pair item) = .ok (item.1, item.2.rendered) := by
  rw [pairOf, pair, splitOnce_append (client.named _ (client.mem_keys member)).1]

/-- The attributes as texts. -/
def texts : Dict Text Text := client.attributes.mapValues Attribute.rendered

/-- A line gives the attributes as texts. -/
theorem clientOf_line : clientOf client.line = .ok client.texts := by
  have pairs : (client.attributes.map pair).mapM pairOf = .ok client.texts := by
    rw [List.mapM_map]
    exact Failing.mapM_eq_ok fun item member => client.pairOf_pair member
  have unique : client.texts.Unique := by
    have keys : Dict.keys client.texts = client.attributes.keys := by
      rw [texts, Dict.keys, Dict.mapValues, List.map_map]
      rfl
    rw [Dict.Unique, keys]
    exact client.unique
  rw [clientOf, client.splitOn_line, pairs]
  show Except.ok (Dict.update [] client.texts) = _
  rw [Dict.update_of_disjoint unique fun _ _ member => by cases member]
  rfl

/-- No line of a client whose names have no blank is broken. -/
theorem line_unbroken (solid : ∀ name ∈ client.attributes.keys, ∀ c ∈ name, isUnicodeSpace c = false) :
    ∀ c ∈ client.line, isLineBoundary c = false := by
  intro c inside
  rcases mem_intercalate_singleton inside with rfl | ⟨word, member, here⟩
  · decide
  · obtain ⟨item, stored, rfl⟩ := List.mem_map.mp member
    have solidPair := client.pair_solid stored (solid _ (client.mem_keys stored)) c here
    rw [← Bool.not_eq_true] at solidPair ⊢
    exact fun boundary => solidPair (isUnicodeSpace_of_isLineBoundary boundary)

/-- The lines of clients whose names have no blank give the clients as texts. -/
theorem parseClientList_lines {clients : List ClientDescription} {reply : Item}
    (renders : reply.Renders (clients.flatMap (·.line ++ ['\n'])))
    (solid : ∀ client ∈ clients, ∀ name ∈ client.attributes.keys, ∀ c ∈ name, isUnicodeSpace c = false) :
    parseClientList reply = .ok (clients.map texts) := by
  have lines : splitlines reply.text = clients.map line := by
    have joined : clients.flatMap (fun client => client.line ++ ['\n']) =
        (clients.map line).flatMap (· ++ ['\n']) := by rw [List.flatMap_map]
    rw [renders.text, joined]
    refine splitlines_flatMap fun text member => ?_
    obtain ⟨client, known, rfl⟩ := List.mem_map.mp member
    exact client.line_unbroken (solid client known)
  rw [parseClientList, lines, List.mapM_map]
  exact Failing.mapM_eq_ok fun client _ => client.clientOf_line

/-! ## The information -/

/-- The attributes before any is an integer. -/
def unread : Dict Text Attribute := client.attributes.mapValues fun value => .text value.rendered

/-- A pair whose value has no `=` is stored. -/
theorem addInfo_pair {item : Text × Attribute} (member : item ∈ client.attributes)
    (plain : '=' ∉ item.2.rendered) (clientInfo : Dict Text Attribute) :
    addInfo clientInfo (pair item) = .ok (clientInfo.set item.1 (.text item.2.rendered)) := by
  have parts : (pair item).splitOn '=' = [item.1, item.2.rendered] := by
    rw [pair, List.splitOn_append_cons_self_of_not_mem (client.named _ (client.mem_keys member)).1,
      List.splitOn_eq_singleton plain]
  rw [addInfo, parts]

/-- A pair whose value has `=` cannot be unpacked. -/
theorem addInfo_pair_error {item : Text × Attribute} (member : item ∈ client.attributes)
    (splits : '=' ∈ item.2.rendered) (clientInfo : Dict Text Attribute) :
    addInfo clientInfo (pair item) = .error { cls := .valueError } := by
  obtain ⟨before, after, shape⟩ := List.append_of_mem splits
  have parts : (pair item).splitOn '=' = item.1 :: (before.splitOn '=' ++ after.splitOn '=') := by
    rw [pair, List.splitOn_append_cons_self_of_not_mem (client.named _ (client.mem_keys member)).1, shape,
      List.splitOn_append_cons_self]
  obtain ⟨second, more, first⟩ := List.exists_cons_of_ne_nil (List.splitOn_ne_nil '=' before)
  obtain ⟨third, others, last⟩ := List.exists_cons_of_ne_nil (List.splitOn_ne_nil '=' after)
  rw [addInfo, parts, first, last]
  cases more <;> rfl

/-- The pairs of a client that can be split are stored in order. -/
theorem foldlM_addInfo (splittable : client.Splittable) :
    (client.attributes.map pair).foldlM addInfo [] = .ok client.unread := by
  have runs (items : Dict Text Attribute) (stored : ∀ item ∈ items, item ∈ client.attributes)
      (clientInfo : Dict Text Attribute) : (items.map pair).foldlM addInfo clientInfo =
        .ok (clientInfo.update (Dict.mapValues (fun value => .text value.rendered) items)) := by
    induction items generalizing clientInfo with
    | nil => rfl
    | cons item items ih =>
      have here := stored item List.mem_cons_self
      rw [List.map_cons, List.foldlM_cons, client.addInfo_pair here (client.rendered_plain splittable here)]
      exact ih (fun other later => stored other (List.mem_cons_of_mem item later)) _
  have unique : client.unread.Unique := by
    have keys : Dict.keys client.unread = client.attributes.keys := by
      rw [unread, Dict.keys, Dict.mapValues, List.map_map]
      rfl
    rw [Dict.Unique, keys]
    exact client.unique
  rw [runs _ fun _ member => member]
  show Except.ok (Dict.update [] client.unread) = _
  rw [Dict.update_of_disjoint unique fun _ _ member => by cases member]
  rfl

/-- The integers up to here are read, and nothing else has changed. -/
def ReadTo (read : List Text) (clientInfo : Dict Text Attribute) : Prop :=
  ∀ name, clientInfo.get name =
    if name ∈ read then client.attributes.get name else client.unread.get name

/-- One more integer is read. -/
theorem toInteger_readTo {read : List Text} {clientInfo : Dict Text Attribute}
    (soFar : client.ReadTo read clientInfo) {intKey : Text} (known : intKey ∈ integerKeys)
    (new : intKey ∉ read) :
    ∃ next, toInteger clientInfo intKey = .ok next ∧ client.ReadTo (read ++ [intKey]) next := by
  obtain ⟨value, stored⟩ := (client.integers intKey).mp known
  have there : client.attributes.get intKey = some (.int value) := client.unique.get_of_mem stored
  have found : clientInfo.get intKey = some (.text (decimalText value)) := by
    rw [soFar intKey, if_neg new, unread, Dict.get_mapValues, there]
    rfl
  refine ⟨clientInfo.set intKey (.int value), ?_, ?_⟩
  · unfold toInteger
    rw [found]
    dsimp only
    rw [intOfText_decimalText]
  · intro name
    by_cases same : intKey = name
    · subst same
      rw [Dict.get_set_self, if_pos (List.mem_append_right _ List.mem_cons_self), there]
    · have within : name ∈ read ++ [intKey] ↔ name ∈ read := by
        rw [List.mem_append, List.mem_singleton, or_iff_left fun other => same other.symm]
      rw [Dict.get_set_ne _ _ same, soFar name]
      simp only [within]

/-- All integers are read. -/
theorem foldlM_toInteger {order : List Text} (known : ∀ intKey ∈ order, intKey ∈ integerKeys)
    (distinct : order.Nodup) :
    ∃ parsed, order.foldlM toInteger client.unread = .ok parsed ∧ client.ReadTo order parsed := by
  have runs (order read : List Text) (clientInfo : Dict Text Attribute)
      (known : ∀ intKey ∈ order, intKey ∈ integerKeys) (distinct : (read ++ order).Nodup)
      (soFar : client.ReadTo read clientInfo) :
      ∃ parsed, order.foldlM toInteger clientInfo = .ok parsed ∧ client.ReadTo (read ++ order) parsed := by
    induction order generalizing read clientInfo with
    | nil => exact ⟨clientInfo, rfl, by rwa [List.append_nil]⟩
    | cons intKey order ih =>
      have new : intKey ∉ read := fun member =>
        (List.nodup_append.mp distinct).2.2 intKey member intKey List.mem_cons_self rfl
      obtain ⟨next, turn, further⟩ := client.toInteger_readTo soFar (known intKey List.mem_cons_self) new
      have regroup : read ++ intKey :: order = read ++ [intKey] ++ order := by
        rw [List.append_assoc, List.singleton_append]
      rw [List.foldlM_cons, turn, regroup]
      exact ih (read ++ [intKey]) next (fun other member => known other (List.mem_cons_of_mem _ member))
        (regroup ▸ distinct) further
  obtain ⟨parsed, run, readAll⟩ := runs order [] client.unread known (by rwa [List.nil_append]) fun name => by
    rw [if_neg List.not_mem_nil]
  exact ⟨parsed, run, by rwa [List.nil_append] at readAll⟩

/-- With all integers read, the client is recovered. -/
theorem ReadTo.recovered {order : List Text} (all : order.Perm integerKeys) {parsed : Dict Text Attribute}
    (readAll : client.ReadTo order parsed) (name : Text) : parsed.get name = client.attributes.get name := by
  rw [readAll name]
  by_cases integer : name ∈ order
  · rw [if_pos integer]
  · rw [if_neg integer, unread, Dict.get_mapValues]
    cases found : client.attributes.get name with
    | none => rfl
    | some value =>
      cases value with
      | text value => rfl
      | int value =>
        have stored := Dict.mem_of_get found
        exact absurd (all.mem_iff.mpr ((client.integers name).mpr ⟨value, stored⟩)) integer

/-- The line of a client that can be split gives the client. -/
theorem parseClientInfo_line {order : List Text} (all : order.Perm integerKeys)
    (splittable : client.Splittable) {reply : Item} {text : Text} (renders : reply.Renders text)
    (words : splitText text = splitText client.line) :
    ∃ parsed, parseClientInfo order reply = .ok parsed ∧
      ∀ name, parsed.get name = client.attributes.get name := by
  have distinct : order.Nodup := all.nodup_iff.mpr (by decide)
  obtain ⟨parsed, run, readAll⟩ := client.foldlM_toInteger (fun _ member => all.mem_iff.mp member) distinct
  refine ⟨parsed, ?_, readAll.recovered client all⟩
  rw [parseClientInfo, renders.text, splitText_stripText, words, client.splitText_line splittable.2,
    client.foldlM_addInfo splittable]
  exact run

end ClientDescription

/-! ## Names with blanks, values with `=` -/

/-- The keys have no blank. -/
def SolidKeys (clientInfo : Dict Text Attribute) : Prop :=
  ∀ name ∈ clientInfo.keys, ∀ c ∈ name, isUnicodeSpace c = false

/-- A word with no blank adds a key with none. -/
theorem SolidKeys.addInfo {clientInfo next : Dict Text Attribute} {info : Text} (solid : SolidKeys clientInfo)
    (word : ∀ c ∈ info, isUnicodeSpace c = false) (run : addInfo clientInfo info = .ok next) :
    SolidKeys next := by
  unfold RedisPy.addInfo at run
  split at run
  · next key value parts =>
    cases run
    have whole : info = key ++ '=' :: value := by
      have joined : ['='].intercalate (info.splitOn '=') = info := List.intercalate_splitOn '='
      rw [parts, List.intercalate_cons_cons, List.intercalate_singleton, List.append_assoc] at joined
      exact joined.symm
    intro name stored c inside
    rcases Dict.mem_keys_set.mp stored with rfl | old
    · exact word c (by rw [whole]; exact List.mem_append_left _ inside)
    · exact solid name old c inside
  · cases run

/-- Reading an integer adds no key. -/
theorem SolidKeys.toInteger {clientInfo next : Dict Text Attribute} {intKey : Text}
    (solid : SolidKeys clientInfo) (run : toInteger clientInfo intKey = .ok next) : SolidKeys next := by
  have kept {value : Attribute} (there : (clientInfo.get intKey).isSome = true) :
      SolidKeys (clientInfo.set intKey value) := by
    intro name stored
    rcases Dict.mem_keys_set.mp stored with rfl | old
    · exact solid _ (Dict.isSome_get_iff.mp there)
    · exact solid name old
  unfold RedisPy.toInteger at run
  split at run
  · cases run
  · next found =>
    cases run
    exact kept (by rw [found]; rfl)
  · next found =>
    split at run
    · cases run
    · cases run
      exact kept (by rw [found]; rfl)

/-- No key that is read has a blank. -/
theorem parseClientInfo_keys {order : List Text} {reply : Item} {parsed : Dict Text Attribute}
    (run : parseClientInfo order reply = .ok parsed) : SolidKeys parsed := by
  unfold parseClientInfo at run
  cases added : (splitText (stripText reply.text)).foldlM addInfo [] with
  | error e =>
    rw [added] at run
    cases run
  | ok clientInfo =>
    rw [added] at run
    have start : SolidKeys [] := fun _ member => absurd member List.not_mem_nil
    have solid : SolidKeys clientInfo :=
      Failing.foldlM_invariant SolidKeys (fun _ member _ _ before turn =>
        before.addInfo (not_space_of_mem_splitText member) turn) start added
    exact Failing.foldlM_invariant SolidKeys (fun _ _ _ _ before turn => before.toInteger turn) solid run

/-- A client whose line gives the client has no blank in a name and no `=` in a value. -/
theorem ClientDescription.splittable_of_recovered {client : ClientDescription} {order : List Text}
    {parsed : Dict Text Attribute} (run : parseClientInfo order (.str client.line) = .ok parsed)
    (same : ∀ name, parsed.get name = client.attributes.get name) : client.Splittable := by
  have solid : ∀ name ∈ client.attributes.keys, ∀ c ∈ name, isUnicodeSpace c = false := by
    intro name member
    refine parseClientInfo_keys run name (Dict.isSome_get_iff.mp ?_)
    rw [same name]
    exact Dict.isSome_get_iff.mpr member
  refine ⟨fun name value stored splits => ?_, solid⟩
  -- the words of the line are its pairs, and this one cannot be unpacked
  have words : splitText (stripText client.line) = client.attributes.map pair := by
    rw [splitText_stripText, client.splitText_line solid]
  obtain ⟨e, failed⟩ := Failing.foldlM_error (List.mem_map_of_mem (f := pair) stored)
    (fun clientInfo => ⟨_, client.addInfo_pair_error stored splits clientInfo⟩) []
  rw [parseClientInfo, Item.text, words, failed] at run
  cases run

/-- The two parsers recover the clients exactly if no value has `=` and no name has a blank. -/
theorem parsedUniformly_iff {order : List Text} (all : order.Perm integerKeys)
    (clients : List ClientDescription) :
    ParsedUniformly order clients ↔ ∀ client ∈ clients, client.Splittable := by
  constructor
  · intro uniform client known
    obtain ⟨parsed, run, same⟩ := uniform.info client known (.str client.line) (.inl (.inl rfl))
    exact ClientDescription.splittable_of_recovered run same
  · intro splittable
    have ended (client : ClientDescription) : splitText (client.line ++ ['\n']) = splitText client.line :=
      splitText_append_space (by decide) _
    refine ⟨?_, ?_, ?_⟩
    · rintro client known reply (renders | renders)
      · exact client.parseClientInfo_line all (splittable client known) renders rfl
      · exact client.parseClientInfo_line all (splittable client known) renders (ended client)
    · intro reply renders
      refine ⟨_, ClientDescription.parseClientList_lines renders fun client known =>
        (splittable client known).2, ?_⟩
      rw [List.forall₂_map_left_iff]
      exact List.forall₂_same.mpr fun client _ name => Dict.get_mapValues _ _ _
    · intro client known reply renders
      obtain ⟨parsed, run, -⟩ :=
        client.parseClientInfo_line all (splittable client known) renders (ended client)
      have single : reply.Renders ([client].flatMap (·.line ++ ['\n'])) := by
        rwa [List.flatMap_singleton]
      have listed := ClientDescription.parseClientList_lines single fun other member =>
        List.mem_singleton.mp member ▸ (splittable client known).2
      exact iff_of_true ⟨parsed, run⟩ ⟨_, listed⟩

/-! ## A client with a name -/

/-- A client that an application gave a name. -/
def namedClient (name : Text) (printable : (name.all fun c => 33 ≤ c.toNat && c.toNat ≤ 126) = true) :
    ClientDescription where
  attributes := ("name".toList, .text name) :: integerKeys.map fun key => (key, .int 0)
  unique := show ("name".toList :: integerKeys).Nodup by decide
  named := show ∀ name ∈ "name".toList :: integerKeys, '=' ∉ name ∧ ' ' ∉ name by decide
  printable other value stored := by
    rcases List.mem_cons.mp stored with same | later
    · cases same
      intro c member
      have range := List.all_eq_true.mp printable c member
      rwa [Bool.and_eq_true, decide_eq_true_iff, decide_eq_true_iff] at range
    · obtain ⟨key, -, same⟩ := List.mem_map.mp later
      cases same
  integers other := by
    constructor
    · exact fun integer => ⟨0, List.mem_cons_of_mem _ (List.mem_map_of_mem integer)⟩
    · rintro ⟨value, stored⟩
      rcases List.mem_cons.mp stored with same | later
      · cases same
      · obtain ⟨key, integer, same⟩ := List.mem_map.mp later
        cases same
        exact integer

/-- No name of an attribute has a blank. -/
theorem namedClient_solid {name : Text} {printable : (name.all fun c => 33 ≤ c.toNat && c.toNat ≤ 126) = true} :
    ∀ key ∈ (namedClient name printable).attributes.keys, ∀ c ∈ key, isUnicodeSpace c = false := by
  have solid : (("name".toList :: integerKeys).all fun key => key.all fun c => !isUnicodeSpace c) = true := by
    decide
  intro key known c member
  have keyIs : key ∈ "name".toList :: integerKeys := known
  exact (Bool.not_eq_true' _).mp (List.all_eq_true.mp (List.all_eq_true.mp solid key keyIs) c member)

/-- The client is split exactly at its pairs if its name has no `=`. -/
theorem namedClient_splittable {name : Text}
    {printable : (name.all fun c => 33 ≤ c.toNat && c.toNat ≤ 126) = true} :
    (namedClient name printable).Splittable ↔ '=' ∉ name := by
  constructor
  · exact fun splittable => splittable.1 _ _ List.mem_cons_self
  · refine fun plain => ⟨fun other value stored => ?_, namedClient_solid⟩
    rcases List.mem_cons.mp stored with same | later
    · cases same
      exact plain
    · obtain ⟨key, -, same⟩ := List.mem_map.mp later
      cases same

/-- A plain name is recovered. -/
theorem parsedUniformly_plain : ParsedUniformly integerKeys [namedClient "worker".toList (by decide)] :=
  (parsedUniformly_iff (List.Perm.refl integerKeys) _).mpr fun client known => by
    rw [List.mem_singleton.mp known, namedClient_splittable]
    decide

/-- A name with `=` is read by `parse_client_list`, while `parse_client_info` raises `ValueError`. -/
theorem name_with_equals :
    let client := namedClient "a=b".toList (by decide)
    parseClientInfo integerKeys (.str client.line) = .error { cls := .valueError } ∧
      parseClientList (.str (client.line ++ ['\n'])) = .ok [client.texts] ∧
      ¬ParsedUniformly integerKeys [client] := by
  intro client
  have raised : parseClientInfo integerKeys (.str client.line) = .error { cls := .valueError } := by
    have words : splitText (stripText client.line) = client.attributes.map ClientDescription.pair := by
      rw [splitText_stripText, client.splitText_line namedClient_solid]
    have first := client.addInfo_pair_error List.mem_cons_self (by decide) []
    rw [parseClientInfo, Item.text, words, show client.attributes = _ :: _ from rfl, List.map_cons,
      List.foldlM_cons, first]
    rfl
  have single : (Item.str (client.line ++ ['\n'])).Renders ([client].flatMap (·.line ++ ['\n'])) := by
    rw [List.flatMap_singleton]
    exact .inl rfl
  refine ⟨raised, ?_, fun uniform => ?_⟩
  · exact ClientDescription.parseClientList_lines single fun other member =>
      List.mem_singleton.mp member ▸ namedClient_solid
  · obtain ⟨parsed, run, -⟩ := uniform.info client List.mem_cons_self (.str client.line) (.inl (.inl rfl))
    rw [raised] at run
    cases run

end RedisPy

import RedisPy.Lib.Failing
import RedisPy.Parsers.ClientInfo

/-!
# Descriptions of cluster nodes

`parse_cluster_nodes` reads the reply to `CLUSTER NODES`, one node a line, into a dictionary whose keys are
the addresses of the nodes.
-/

namespace RedisPy

/-- `bytes.splitlines()`. -/
def splitlinesBytes : Bytes → List Bytes
  | [] => []
  | 13 :: 10 :: rest => [] :: splitlinesBytes rest
  | byte :: rest =>
    if byte = 10 ∨ byte = 13 then [] :: splitlinesBytes rest
    else
      match splitlinesBytes rest with
      | [] => [[byte]]
      | line :: lines => (byte :: line) :: lines

/-- `text.split(sep, 1)` for a longer separator; `none` if it does not occur. -/
def splitInfix (sep : Text) : Text → Option (Text × Text)
  | [] => if sep = [] then some ([], []) else none
  | c :: rest =>
    if sep.isPrefixOf (c :: rest) then some ([], (c :: rest).drop sep.length)
    else (splitInfix sep rest).map fun (before, after) => (c :: before, after)

/-- The direction of a slot that moves. -/
inductive MigrationState where
  | migrating
  | importing
deriving DecidableEq

/-- An item of `migrations`. -/
structure Migration where
  slot : Text
  nodeId : Text
  state : MigrationState
deriving DecidableEq

/-- A value of the dictionary that is returned. -/
structure NodeEntry where
  nodeId : Text
  hostname : Text
  flags : Text
  masterId : Text
  lastPingSent : Text
  lastPongRcvd : Text
  epoch : Text
  slots : List (List Text)
  migrations : List Migration
  connected : Bool
deriving DecidableEq

/-- `s_range[1:-1].split(arrow, 1)` unpacked. -/
def migrationOf (arrow : String) (state : MigrationState) (sRange : Text) : Except Exc Migration :=
  match splitInfix arrow.toList (sRange.drop 1).dropLast with
  | some (slot, nodeId) => .ok { slot, nodeId, state }
  | none => .error { cls := .valueError }

/-- One turn of the loop of `_parse_slots`. -/
def addSlots (found : List (List Text) × List Migration) (sRange : Text) :
    Except Exc (List (List Text) × List Migration) :=
  if (splitInfix "->-".toList sRange).isSome then
    (migrationOf "->-" .migrating sRange).map fun migration => (found.1, found.2 ++ [migration])
  else if (splitInfix "-<-".toList sRange).isSome then
    (migrationOf "-<-" .importing sRange).map fun migration => (found.1, found.2 ++ [migration])
  else .ok (found.1 ++ [sRange.splitOn '-'], found.2)

/-- `_parse_slots`. -/
def parseSlots (slotRanges : List Text) : Except Exc (List (List Text) × List Migration) :=
  slotRanges.foldlM addSlots ([], [])

/-- `addr.split("@")[1].split(",")[1] if "@" in addr and "," in addr else ""`. -/
def hostnameOf (addr : Text) : Except Exc Text :=
  if '@' ∈ addr ∧ ',' ∈ addr then
    match (((addr.splitOn '@')[1]?).getD []).splitOn ',' with
    | _ :: hostname :: _ => .ok hostname
    | _ => .error { cls := .indexError }
  else .ok []

/-- `_parse_node_line`. -/
def parseNodeLine (line : Text) : Except Exc (Text × NodeEntry) :=
  match line.splitOn ' ' with
  | nodeId :: addr :: flags :: masterId :: lastPingSent :: lastPongRcvd :: epoch :: connected :: slotRanges => do
    let ip := ((addr.splitOn '@').head?).getD []
    let hostname ← hostnameOf addr
    let (slots, migrations) ← if slotRanges = [] then .ok ([], []) else parseSlots slotRanges
    .ok (ip, { nodeId, hostname, flags, masterId, lastPingSent, lastPongRcvd, epoch, slots, migrations,
               connected := connected = "connected".toList })
  | _ => .error { cls := .valueError }

/-- A reply that describes nodes. -/
inductive NodesReply where
  | text (reply : Item)
  | lines (items : List Item)

/-- `response.splitlines()` of a string, and a list as it is. -/
def NodesReply.nodes : NodesReply → List Item
  | text (.str reply) => (splitlines reply).map .str
  | text (.bytes reply) => (splitlinesBytes reply).map .bytes
  | lines items => items

/-- `parse_cluster_nodes`. -/
def parseClusterNodes (response : NodesReply) : Except Exc (Dict Text NodeEntry) :=
  (response.nodes.mapM fun node => parseNodeLine node.text).map (Dict.update [])

/-! ## Descriptions -/

/-- What a node says of slots. -/
inductive SlotItem where
  | single (slot : Nat)
  | range (first last : Nat)
  | migrating (slot : Nat) (nodeId : Text)
  | importing (slot : Nat) (nodeId : Text)

namespace SlotItem

/-- The item as the server writes it. -/
def text : SlotItem → Text
  | single slot => decimalText slot
  | range first last => decimalText first ++ '-' :: decimalText last
  | migrating slot nodeId => '[' :: decimalText slot ++ "->-".toList ++ nodeId ++ [']']
  | importing slot nodeId => '[' :: decimalText slot ++ "-<-".toList ++ nodeId ++ [']']

/-- The slots of the item. -/
def slots : SlotItem → List (List Text)
  | single slot => [[decimalText slot]]
  | range first last => [[decimalText first, decimalText last]]
  | migrating _ _ => []
  | importing _ _ => []

/-- The migrations of the item. -/
def migrations : SlotItem → List Migration
  | single _ => []
  | range _ _ => []
  | migrating slot nodeId => [{ slot := decimalText slot, nodeId, state := .migrating }]
  | importing slot nodeId => [{ slot := decimalText slot, nodeId, state := .importing }]

/-- The other node has a name of letters and digits. -/
def WellFormed : SlotItem → Prop
  | single _ => True
  | range _ _ => True
  | migrating _ nodeId => (nodeId.all Char.isAlphanum) = true
  | importing _ nodeId => (nodeId.all Char.isAlphanum) = true

end SlotItem

/-- A text of printable ASCII characters other than space. -/
def isWord (text : Text) : Bool := text.all fun c => 33 ≤ c.toNat && c.toNat ≤ 126

/-- A node as the server describes it. -/
structure NodeDescription where
  nodeId : Text
  /-- `ip:port`. -/
  address : Text
  /-- The port of the cluster bus. -/
  bus : Option Nat
  hostname : Text
  /-- Further parts after the hostname. -/
  metadata : List Text
  flags : Text
  masterId : Text
  ping : Nat
  pong : Nat
  epoch : Nat
  connected : Bool
  items : List SlotItem
  nodeId_word : isWord nodeId = true
  flags_word : isWord flags = true
  masterId_word : isWord masterId = true
  address_plain : isWord address = true ∧ '@' ∉ address ∧ ',' ∉ address
  hostname_plain : isWord hostname = true ∧ '@' ∉ hostname ∧ ',' ∉ hostname
  metadata_plain : ∀ part ∈ metadata, isWord part = true ∧ '@' ∉ part ∧ ',' ∉ part
  /-- Only after the port of the bus there is more. -/
  nothing : bus = none → hostname = [] ∧ metadata = []
  items_wellFormed : ∀ item ∈ items, item.WellFormed

namespace NodeDescription

variable (node : NodeDescription)

/-- `ip:port@cport,hostname,name=value`. -/
def addr : Text :=
  node.address ++ (node.bus.map fun (cport : Nat) => '@' :: decimalText cport ++
    if node.hostname = [] ∧ node.metadata = [] then []
    else (node.hostname :: node.metadata).flatMap (',' :: ·)).getD []

/-- The line of the node. -/
def line : Text :=
  [' '].intercalate ([node.nodeId, node.addr, node.flags, node.masterId, decimalText node.ping,
    decimalText node.pong, decimalText node.epoch,
    if node.connected then "connected".toList else "disconnected".toList] ++ node.items.map SlotItem.text)

/-- What is to be known of the node. -/
def entry : NodeEntry where
  nodeId := node.nodeId
  hostname := node.hostname
  flags := node.flags
  masterId := node.masterId
  lastPingSent := decimalText node.ping
  lastPongRcvd := decimalText node.pong
  epoch := decimalText node.epoch
  slots := node.items.flatMap SlotItem.slots
  migrations := node.items.flatMap SlotItem.migrations
  connected := node.connected

end NodeDescription

/-- The reply describes the nodes: a text with a line for each, or a list of lines, decoded or not. -/
def NodesReply.Describes (reply : NodesReply) (nodes : List NodeDescription) : Prop :=
  (∃ item : Item, reply = .text item ∧ item.Renders (nodes.flatMap (·.line ++ ['\n']))) ∨
    ∃ items, reply = .lines items ∧ List.Forall₂ (fun (item : Item) node => item.Renders node.line) items nodes

/-- There is one entry for each node, from which the node is recovered. -/
def NodesRecovered (nodes : List NodeDescription) : Prop :=
  ∀ reply : NodesReply, reply.Describes nodes →
    ∃ parsed, parseClusterNodes reply = .ok parsed ∧
      (parsed.map (·.2)).Perm (nodes.map NodeDescription.entry)

/-! ## Words -/

/-- The characters of a word. -/
theorem isWord_iff {text : Text} : isWord text = true ↔ ∀ c ∈ text, 33 ≤ c.toNat ∧ c.toNat ≤ 126 := by
  rw [isWord, List.all_eq_true]
  simp only [Bool.and_eq_true, decide_eq_true_eq]

/-- The empty text. -/
@[simp] theorem isWord_nil : isWord [] = true := rfl

/-- Two texts make a word if both are words. -/
@[simp] theorem isWord_append (left right : Text) : isWord (left ++ right) = (isWord left && isWord right) :=
  List.all_append

/-- One more character of a word. -/
@[simp] theorem isWord_cons (c : Char) (text : Text) :
    isWord (c :: text) = ((33 ≤ c.toNat && c.toNat ≤ 126) && isWord text) := List.all_cons

/-- A number is a word. -/
@[simp] theorem isWord_decimalText (n : Int) : isWord (decimalText n) = true := by
  refine isWord_iff.mpr fun c member => ?_
  have range := decimalText_range n c member
  omega

/-- Letters and digits are a word. -/
theorem isWord_of_isAlphanum {text : Text} (alnum : text.all Char.isAlphanum = true) : isWord text = true := by
  refine isWord_iff.mpr fun c member => ?_
  have range := isAlphanum_range (List.all_eq_true.mp alnum c member)
  omega

/-! ## Separators -/

/-- A separator with a character that the text lacks does not occur. -/
theorem splitInfix_none {sep text : Text} {c : Char} (inSep : c ∈ sep) (missing : c ∉ text) :
    splitInfix sep text = none := by
  induction text with
  | nil =>
    rw [splitInfix, if_neg]
    rintro rfl
    cases inSep
  | cons d rest ih =>
    have other : sep.isPrefixOf (d :: rest) = false := by
      rw [← Bool.not_eq_true, List.isPrefixOf_iff_prefix]
      exact fun starts => missing (starts.subset inSep)
    rw [splitInfix, other, ih fun inside => missing (List.mem_cons_of_mem d inside)]
    rfl

/-- The separator splits if its first character does not occur before it. -/
theorem splitInfix_append {c : Char} {sep before : Text} (plain : c ∉ before) (after : Text) :
    splitInfix (c :: sep) (before ++ (c :: sep ++ after)) = some (before, after) := by
  induction before with
  | nil =>
    have starts : (c :: sep).isPrefixOf (c :: (sep ++ after)) = true :=
      List.isPrefixOf_iff_prefix.mpr (List.prefix_append (c :: sep) after)
    rw [List.nil_append, List.cons_append, splitInfix, if_pos starts, ← List.cons_append,
      List.drop_left]
  | cons d before ih =>
    have other : (c :: sep).isPrefixOf (d :: (before ++ (c :: sep ++ after))) = false := by
      rw [← Bool.not_eq_true, List.isPrefixOf_iff_prefix]
      intro starts
      exact plain ((List.cons_prefix_cons.mp starts).1 ▸ List.mem_cons_self)
    rw [List.cons_append, splitInfix, other, ih fun inside => plain (List.mem_cons_of_mem d inside)]
    rfl

/-- A text without the separator stays whole. -/
theorem splitOn_plain {sep : Char} {text : Text} (plain : sep ∉ text) : text.splitOn sep = [text] := by
  have single : ∀ part ∈ [text], sep ∉ part := fun part member => List.mem_singleton.mp member ▸ plain
  have whole := List.splitOn_intercalate sep single (List.cons_ne_nil _ _)
  rwa [List.intercalate_singleton] at whole

/-- Two texts without the separator are split. -/
theorem splitOn_pair {sep : Char} {left right : Text} (first : sep ∉ left) (second : sep ∉ right) :
    (left ++ sep :: right).splitOn sep = [left, right] := by
  have plain : ∀ part ∈ [left, right], sep ∉ part := by
    intro part member
    rcases List.mem_cons.mp member with rfl | later
    · exact first
    · rw [List.mem_singleton.mp later]
      exact second
  have whole := List.splitOn_intercalate sep plain (List.cons_ne_nil _ _)
  rwa [List.intercalate_cons_cons, List.intercalate_singleton, List.append_assoc] at whole

/-! ## Slots -/

/-- A number has no hyphen. -/
theorem hyphen_notMem (n : Nat) : '-' ∉ decimalText n := fun inside =>
  absurd (decimalText_isDigit inside) (by decide)

/-- The arrow of a migration is found. -/
theorem splitInfix_migration {arrow : String} {sep : Text} (hyphen : arrow.toList = '-' :: sep) (slot : Nat)
    (nodeId : Text) :
    (splitInfix arrow.toList ('[' :: decimalText slot ++ arrow.toList ++ nodeId ++ [']'])).isSome = true := by
  have plain : '-' ∉ '[' :: decimalText slot := by
    intro inside
    rcases List.mem_cons.mp inside with bracket | digit
    · exact absurd bracket (by decide)
    · exact hyphen_notMem slot digit
  rw [List.append_assoc, List.append_assoc, hyphen, splitInfix_append plain]
  rfl

/-- A migration is read. -/
theorem migrationOf_text {arrow : String} {sep : Text} (hyphen : arrow.toList = '-' :: sep)
    (state : MigrationState) (slot : Nat) (nodeId : Text) :
    migrationOf arrow state ('[' :: decimalText slot ++ arrow.toList ++ nodeId ++ [']']) =
      .ok { slot := decimalText slot, nodeId, state } := by
  have inner : (('[' :: decimalText slot ++ arrow.toList ++ nodeId ++ [']']).drop 1).dropLast =
      decimalText slot ++ (arrow.toList ++ nodeId) := by
    rw [← List.append_assoc]
    exact List.dropLast_concat
  rw [migrationOf, inner, hyphen, splitInfix_append (hyphen_notMem slot)]

/-- A character that no number, no bracket and no letter is. -/
theorem migration_notMem {arrow : Text} {c : Char} (strange : c.isAlphanum = false ∧ c ∉ arrow ∧ c ≠ '[' ∧ c ≠ ']')
    (slot : Nat) {nodeId : Text} (alnum : nodeId.all Char.isAlphanum = true) :
    c ∉ '[' :: decimalText slot ++ arrow ++ nodeId ++ [']'] := by
  obtain ⟨other, apart, opening, closing⟩ := strange
  have digitless : c ∉ decimalText slot := by
    intro inside
    have digit := decimalText_isDigit inside
    rw [Char.isAlphanum, digit, Bool.or_true] at other
    cases other
  have letterless : c ∉ nodeId := by
    intro inside
    have letter := List.all_eq_true.mp alnum c inside
    exact absurd (other.symm.trans letter) (by decide)
  simp only [List.mem_append, List.mem_cons, List.not_mem_nil, or_false, not_or]
  exact ⟨⟨⟨⟨opening, digitless⟩, apart⟩, letterless⟩, closing⟩

/-- A number has no part of an arrow. -/
theorem arrow_notMem {c : Char} (strange : c.isDigit = false) (n : Nat) : c ∉ decimalText n := fun inside =>
  absurd (strange.symm.trans (decimalText_isDigit inside)) (by decide)

/-- One item is read. -/
theorem addSlots_text {item : SlotItem} (wellFormed : item.WellFormed)
    (found : List (List Text) × List Migration) :
    addSlots found item.text = .ok (found.1 ++ item.slots, found.2 ++ item.migrations) := by
  -- the arrows of the source, each by a character that nothing else in an item has
  have right : '>' ∈ "->-".toList := by decide
  have left : '<' ∈ "-<-".toList := by decide
  cases item with
  | single slot =>
    have noRight := splitInfix_none right (arrow_notMem (by decide) slot)
    have noLeft := splitInfix_none left (arrow_notMem (by decide) slot)
    rw [SlotItem.text, addSlots, noRight, noLeft, splitOn_plain (hyphen_notMem slot), SlotItem.migrations,
      List.append_nil]
    rfl
  | range first last =>
    have plain {c : Char} (strange : c.isDigit = false) (other : c ≠ '-') :
        c ∉ decimalText first ++ '-' :: decimalText last := by
      rw [List.mem_append, List.mem_cons, not_or, not_or]
      exact ⟨arrow_notMem strange first, other, arrow_notMem strange last⟩
    have noRight := splitInfix_none right (plain (by decide) (by decide))
    have noLeft := splitInfix_none left (plain (by decide) (by decide))
    rw [SlotItem.text, addSlots, noRight, noLeft, splitOn_pair (hyphen_notMem first) (hyphen_notMem last),
      SlotItem.migrations, List.append_nil]
    rfl
  | migrating slot nodeId =>
    rw [SlotItem.text, addSlots, splitInfix_migration rfl, migrationOf_text rfl, SlotItem.slots, List.append_nil]
    rfl
  | importing slot nodeId =>
    have noRight := splitInfix_none right
      (migration_notMem (show _ ∧ '>' ∉ "-<-".toList ∧ _ by decide) slot wellFormed)
    rw [SlotItem.text, addSlots, noRight, splitInfix_migration rfl, migrationOf_text rfl, SlotItem.slots,
      List.append_nil]
    rfl

/-- All items are read, in order. -/
theorem parseSlots_text {items : List SlotItem} (wellFormed : ∀ item ∈ items, item.WellFormed) :
    parseSlots (items.map SlotItem.text) =
      .ok (items.flatMap SlotItem.slots, items.flatMap SlotItem.migrations) := by
  have runs (found : List (List Text) × List Migration) : (items.map SlotItem.text).foldlM addSlots found =
      .ok (found.1 ++ items.flatMap SlotItem.slots, found.2 ++ items.flatMap SlotItem.migrations) := by
    induction items generalizing found with
    | nil =>
      rw [List.flatMap_nil, List.flatMap_nil, List.append_nil, List.append_nil]
      rfl
    | cons item items ih =>
      rw [List.map_cons, List.foldlM_cons, addSlots_text (wellFormed item List.mem_cons_self)]
      show (items.map SlotItem.text).foldlM addSlots _ = _
      rw [ih fun other member => wellFormed other (List.mem_cons_of_mem item member), List.flatMap_cons,
        List.flatMap_cons, List.append_assoc, List.append_assoc]
  exact runs ([], [])

/-- Every item is a word. -/
theorem isWord_text {item : SlotItem} (wellFormed : item.WellFormed) : isWord item.text = true := by
  cases item with
  | single slot => exact isWord_decimalText slot
  | range first last => simp [SlotItem.text]
  | migrating slot nodeId => simp [SlotItem.text, isWord_of_isAlphanum wellFormed]
  | importing slot nodeId => simp [SlotItem.text, isWord_of_isAlphanum wellFormed]

namespace NodeDescription

variable (node : NodeDescription)

/-- The parts after the port of the bus. -/
def extras : Text :=
  if node.hostname = [] ∧ node.metadata = [] then [] else (node.hostname :: node.metadata).flatMap (',' :: ·)

/-- The address is the first part. -/
theorem addr_cases : node.addr = node.address ∧ node.hostname = [] ∨
    ∃ cport : Nat, node.addr = node.address ++ '@' :: (decimalText cport ++ node.extras) := by
  unfold addr
  cases bus : node.bus with
  | none => exact .inl ⟨List.append_nil _, (node.nothing bus).1⟩
  | some cport => exact .inr ⟨cport, rfl⟩

/-- The parts are words without an at sign. -/
theorem extras_plain : isWord node.extras = true ∧ '@' ∉ node.extras := by
  rw [extras]
  split
  · exact ⟨rfl, List.not_mem_nil⟩
  · have plain : ∀ part ∈ node.hostname :: node.metadata, isWord part = true ∧ '@' ∉ part := by
      intro part member
      rcases List.mem_cons.mp member with rfl | later
      · exact ⟨node.hostname_plain.1, node.hostname_plain.2.1⟩
      · exact ⟨(node.metadata_plain part later).1, (node.metadata_plain part later).2.1⟩
    refine ⟨isWord_iff.mpr fun c member => ?_, fun member => ?_⟩
    · obtain ⟨part, known, inside⟩ := List.mem_flatMap.mp member
      rcases List.mem_cons.mp inside with rfl | within
      · decide
      · exact isWord_iff.mp (plain part known).1 c within
    · obtain ⟨part, known, inside⟩ := List.mem_flatMap.mp member
      rcases List.mem_cons.mp inside with comma | within
      · exact absurd comma (by decide)
      · exact (plain part known).2 within

/-- The address is found. -/
theorem splitOn_addr : ((node.addr.splitOn '@').head?).getD [] = node.address := by
  rcases node.addr_cases with ⟨whole, -⟩ | ⟨cport, whole⟩
  · rw [whole, splitOn_plain node.address_plain.2.1]
    rfl
  · have after : '@' ∉ decimalText cport ++ node.extras := by
      rw [List.mem_append, not_or]
      exact ⟨arrow_notMem (by decide) cport, node.extras_plain.2⟩
    rw [whole, splitOn_pair node.address_plain.2.1 after]
    rfl

/-- The hostname is found. -/
theorem hostnameOf_addr : hostnameOf node.addr = .ok node.hostname := by
  rcases node.addr_cases with ⟨whole, none⟩ | ⟨cport, whole⟩
  · rw [whole, hostnameOf, if_neg fun both => node.address_plain.2.1 both.1, none]
  · have after : '@' ∉ decimalText cport ++ node.extras := by
      rw [List.mem_append, not_or]
      exact ⟨arrow_notMem (by decide) cport, node.extras_plain.2⟩
    have parts : node.addr.splitOn '@' = [node.address, decimalText cport ++ node.extras] := by
      rw [whole, splitOn_pair node.address_plain.2.1 after]
    by_cases bare : node.hostname = [] ∧ node.metadata = []
    · have short : node.addr = node.address ++ '@' :: decimalText cport := by
        rw [whole, extras, if_pos bare, List.append_nil]
      have comma : ',' ∉ node.addr := by
        rw [short, List.mem_append, List.mem_cons, not_or, not_or]
        exact ⟨node.address_plain.2.2, by decide, arrow_notMem (by decide) cport⟩
      rw [hostnameOf, if_neg fun both => comma both.2, bare.1]
    · have joined : decimalText cport ++ node.extras =
          [','].intercalate (decimalText cport :: node.hostname :: node.metadata) := by
        rw [extras, if_neg bare, intercalate_cons_eq_flatMap]
      have plain : ∀ part ∈ decimalText cport :: node.hostname :: node.metadata, ',' ∉ part := by
        intro part member
        rcases List.mem_cons.mp member with rfl | later
        · exact arrow_notMem (by decide) cport
        · rcases List.mem_cons.mp later with rfl | further
          · exact node.hostname_plain.2.2
          · exact (node.metadata_plain part further).2.2
      have present : '@' ∈ node.addr ∧ ',' ∈ node.addr := by
        have comma : ',' ∈ node.extras := by
          rw [extras, if_neg bare]
          exact List.mem_cons_self
        rw [whole]
        exact ⟨List.mem_append_right _ List.mem_cons_self,
          List.mem_append_right _ (List.mem_cons_of_mem _ (List.mem_append_right _ comma))⟩
      have read : (((node.addr.splitOn '@')[1]?).getD []).splitOn ',' =
          decimalText cport :: node.hostname :: node.metadata := by
        rw [parts, List.getElem?_cons_succ, List.getElem?_cons_zero, Option.getD_some, joined]
        exact List.splitOn_intercalate ',' plain (List.cons_ne_nil _ _)
      rw [hostnameOf, if_pos present, read]

/-- The parts of the line. -/
def words : List Text :=
  [node.nodeId, node.addr, node.flags, node.masterId, decimalText node.ping, decimalText node.pong,
    decimalText node.epoch, if node.connected then "connected".toList else "disconnected".toList] ++
    node.items.map SlotItem.text

/-- Every part of the line is a word. -/
theorem isWord_words : ∀ word ∈ node.words, isWord word = true := by
  have addr : isWord node.addr = true := by
    rcases node.addr_cases with ⟨whole, -⟩ | ⟨cport, whole⟩
    · rw [whole]
      exact node.address_plain.1
    · rw [whole]
      simp [node.address_plain.1, node.extras_plain.1]
  intro word member
  rcases List.mem_append.mp member with fixed | further
  · simp only [List.mem_cons, List.not_mem_nil, or_false] at fixed
    rcases fixed with rfl | rfl | rfl | rfl | rfl | rfl | rfl | rfl
    · exact node.nodeId_word
    · exact addr
    · exact node.flags_word
    · exact node.masterId_word
    · exact isWord_decimalText _
    · exact isWord_decimalText _
    · exact isWord_decimalText _
    · cases node.connected <;> decide
  · obtain ⟨item, known, rfl⟩ := List.mem_map.mp further
    exact isWord_text (node.items_wellFormed item known)

/-- The line is read as the node. -/
theorem parseNodeLine_line : parseNodeLine node.line = .ok (node.address, node.entry) := by
  have spaceless : ∀ word ∈ node.words, ' ' ∉ word := fun word member inside =>
    absurd (isWord_iff.mp (node.isWord_words word member) ' ' inside) (by decide)
  have split : node.line.splitOn ' ' = node.words := List.splitOn_intercalate ' ' spaceless (List.cons_ne_nil _ _)
  have link : decide ((if node.connected then "connected".toList else "disconnected".toList) = "connected".toList) =
      node.connected := by
    cases node.connected <;> decide
  rw [parseNodeLine, split, words]
  simp only [List.cons_append, List.nil_append, splitOn_addr, hostnameOf_addr, bind, Except.bind, link]
  split
  · next none =>
    rw [entry, List.map_eq_nil_iff.mp none]
    rfl
  · rw [parseSlots_text node.items_wellFormed]
    rfl

/-- A line ends at its line feed only. -/
theorem line_narrow : ∀ c ∈ node.line, 32 ≤ c.toNat ∧ c.toNat ≤ 126 := by
  intro c member
  rcases mem_intercalate_singleton member with rfl | ⟨word, known, inside⟩
  · decide
  · have range := isWord_iff.mp (node.isWord_words word known) c inside
    omega

end NodeDescription

/-! ## Lines of a reply -/

/-- A line of octets ends at its line feed. -/
theorem splitlinesBytes_append {line : Bytes} (plain : ∀ byte ∈ line, byte ≠ 10 ∧ byte ≠ 13) (rest : Bytes) :
    splitlinesBytes (line ++ 10 :: rest) = line :: splitlinesBytes rest := by
  induction line with
  | nil => rfl
  | cons byte line ih =>
    obtain ⟨feed, turn⟩ := plain byte List.mem_cons_self
    have inner := ih fun other member => plain other (List.mem_cons_of_mem byte member)
    rw [List.cons_append, splitlinesBytes.eq_3 _ _ (fun _ same _ => turn same),
      if_neg (by rintro (same | same); exacts [feed same, turn same]), inner]

/-- The octets of printable ASCII characters. -/
theorem utf8_narrow {line : Text} (narrow : ∀ c ∈ line, 32 ≤ c.toNat ∧ c.toNat ≤ 126) :
    ∀ byte ∈ utf8 line, byte ≠ 10 ∧ byte ≠ 13 := by
  intro byte member
  obtain ⟨c, inside, encoded⟩ := List.mem_flatMap.mp member
  obtain ⟨low, high⟩ := narrow c inside
  have one : String.utf8EncodeChar c = [UInt8.ofNat c.toNat] := by
    have ascii : c.val.toNat ≤ 0x7f := Nat.le_trans high (by decide)
    unfold String.utf8EncodeChar
    dsimp only
    rw [if_pos ascii]
    rfl
  rw [one, List.mem_singleton] at encoded
  have octet : byte.toNat = c.toNat := by rw [encoded, toNat_octet (by omega)]
  constructor
  · rintro rfl
    exact absurd (octet.symm ▸ low) (by decide)
  · rintro rfl
    exact absurd (octet.symm ▸ low) (by decide)

/-- Printable ASCII characters end no line. -/
theorem isLineBoundary_narrow {c : Char} (narrow : 32 ≤ c.toNat ∧ c.toNat ≤ 126) : isLineBoundary c = false := by
  have wide : [0x85, 0x2028, 0x2029].contains c.toNat = false := by
    rw [← Bool.not_eq_true, List.contains_iff_mem]
    intro member
    simp only [List.mem_cons, List.not_mem_nil, or_false] at member
    omega
  unfold isLineBoundary
  simp only [wide, Bool.or_false, Bool.or_eq_false_iff, Bool.and_eq_false_iff, decide_eq_false_iff_not]
  omega

/-- Lines of octets that each end with a line feed are split again. -/
theorem splitlinesBytes_utf8 {lines : List Text}
    (narrow : ∀ line ∈ lines, ∀ c ∈ line, 32 ≤ c.toNat ∧ c.toNat ≤ 126) :
    splitlinesBytes (utf8 (lines.flatMap (· ++ ['\n']))) = lines.map utf8 := by
  induction lines with
  | nil => rfl
  | cons line lines ih =>
    have octets : utf8 ((line :: lines).flatMap (· ++ ['\n'])) =
        utf8 line ++ 10 :: utf8 (lines.flatMap (· ++ ['\n'])) := by
      rw [List.flatMap_cons, List.append_assoc, utf8, List.flatMap_append]
      rfl
    rw [octets, splitlinesBytes_append (utf8_narrow (narrow line List.mem_cons_self)),
      ih fun other member => narrow other (List.mem_cons_of_mem line member)]
    rfl

/-- The lines of a reply are those of its nodes. -/
theorem NodesReply.Describes.nodes {reply : NodesReply} {nodes : List NodeDescription}
    (describes : reply.Describes nodes) :
    List.Forall₂ (fun (item : Item) node => item.Renders node.line) reply.nodes nodes := by
  have narrow : ∀ line ∈ nodes.map (·.line), ∀ c ∈ line, 32 ≤ c.toNat ∧ c.toNat ≤ 126 := by
    intro line member
    obtain ⟨node, -, rfl⟩ := List.mem_map.mp member
    exact node.line_narrow
  have joined : nodes.flatMap (·.line ++ ['\n']) = (nodes.map (·.line)).flatMap (· ++ ['\n']) :=
    (List.flatMap_map (·.line) (· ++ ['\n']) nodes).symm
  rcases describes with ⟨item, rfl, renders⟩ | ⟨items, rfl, each⟩
  · rw [joined] at renders
    rcases renders with rfl | rfl
    · have whole : ∀ line ∈ nodes.map (·.line), ∀ c ∈ line, isLineBoundary c = false :=
        fun line member c inside => isLineBoundary_narrow (narrow line member c inside)
      rw [NodesReply.nodes, splitlines_flatMap whole, List.map_map, List.forall₂_map_left_iff]
      exact List.forall₂_same.mpr fun node _ => .inl rfl
    · rw [NodesReply.nodes, splitlinesBytes_utf8 narrow, List.map_map, List.map_map, List.forall₂_map_left_iff]
      exact List.forall₂_same.mpr fun node _ => .inr rfl
  · exact each

/-- What `parse_cluster_nodes` returns. -/
theorem parseClusterNodes_describes {reply : NodesReply} {nodes : List NodeDescription}
    (describes : reply.Describes nodes) :
    parseClusterNodes reply = .ok (Dict.update [] (nodes.map fun node => (node.address, node.entry))) := by
  have all : reply.nodes.mapM (fun node => parseNodeLine node.text) =
      .ok (nodes.map fun node => (node.address, node.entry)) := by
    have each := describes.nodes
    clear describes
    generalize reply.nodes = items at each
    induction each with
    | nil => rfl
    | @cons item node items nodes first rest ih =>
      have turn : parseNodeLine item.text = .ok (node.address, node.entry) := by
        rw [Item.Renders.text first, node.parseNodeLine_line]
      rw [List.mapM_cons, turn, ih]
      rfl
  rw [parseClusterNodes, all]
  rfl

/-- Every node is recovered exactly if no two nodes have one address. -/
theorem nodesRecovered_iff (nodes : List NodeDescription) :
    NodesRecovered nodes ↔ (nodes.map (·.address)).Nodup := by
  have keys : Dict.keys (nodes.map fun node => (node.address, node.entry)) = nodes.map (·.address) := by
    rw [Dict.keys, List.map_map]
    rfl
  constructor
  · intro recovered
    have describes : (NodesReply.text (.str (nodes.flatMap (·.line ++ ['\n'])))).Describes nodes :=
      .inl ⟨_, rfl, .inl rfl⟩
    obtain ⟨parsed, run, all⟩ := recovered _ describes
    cases run.symm.trans (parseClusterNodes_describes describes)
    have length := all.length_eq
    rw [List.length_map, List.length_map] at length
    rw [← keys]
    exact Dict.unique_of_length_update (by rw [length, List.length_map])
  · intro apart reply describes
    have unique : Dict.Unique (nodes.map fun node => (node.address, node.entry)) := by
      rw [Dict.Unique, keys]
      exact apart
    refine ⟨_, parseClusterNodes_describes describes, ?_⟩
    have stored : Dict.update [] (nodes.map fun node => (node.address, node.entry)) =
        nodes.map fun node => (node.address, node.entry) :=
      Dict.update_of_disjoint unique fun _ _ => List.not_mem_nil
    rw [stored, List.map_map]
    exact List.Perm.refl _

/-! ## Unreachable nodes -/

/-- A node that cannot be reached, so that its address is not known. -/
def lostNode (nodeId : Text) (word : isWord nodeId = true) : NodeDescription where
  nodeId
  address := ":0".toList
  bus := some 0
  hostname := []
  metadata := []
  flags := "slave,fail,noaddr".toList
  masterId := "aa90da731f673a99617dfe930306549a09f83a6b".toList
  ping := 1447829446956
  pong := 1447829444948
  epoch := 1
  connected := false
  items := []
  nodeId_word := word
  flags_word := by decide
  masterId_word := by decide
  address_plain := by decide
  hostname_plain := by decide
  metadata_plain := fun _ member => by cases member
  nothing none := by cases none
  items_wellFormed := fun _ member => by cases member

/-- Of two nodes without an address, the first one is lost. -/
theorem unreachable_node_lost :
    let first := lostNode "c8253bae761cb1ecb2b61857d85dfe455a0fec8b".toList (by decide)
    let second := lostNode "9bd595fe4821a0e8d6b99d70faa660638a7612b3".toList (by decide)
    let response : NodesReply := .text (.str (first.line ++ ['\n'] ++ (second.line ++ ['\n'])))
    parseClusterNodes response = .ok [(":0".toList, second.entry)] ∧ ¬NodesRecovered [first, second] := by
  intro first second response
  have describes : response.Describes [first, second] := by
    refine .inl ⟨_, rfl, .inl ?_⟩
    rw [List.flatMap_cons, List.flatMap_singleton]
  have read := parseClusterNodes_describes describes
  refine ⟨read, fun recovered => ?_⟩
  obtain ⟨parsed, run, all⟩ := recovered response describes
  cases run.symm.trans read
  exact absurd all.length_eq (by decide)

end RedisPy

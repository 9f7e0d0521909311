import Mathlib.Data.List.Sort
import Mathlib.Tactic.Ring
import RedisPy.Lib.Interruptible
import RedisPy.Parsers.Commands

/-!
# The specified keys

What `get_keys` is to return for a command of the table: the arguments at the positions that the
command or its subcommand gives, once the name is split into words. And when it does.
-/

namespace RedisPy

variable {F : Type}

/-! ## Words -/

/-- A word contains no blank. -/
theorem no_blank_of_mem_splitText {text word : Text} (member : word ∈ splitText text) :
    word.any isUnicodeSpace = false := by
  have piece : word ∈ text.splitOnP isUnicodeSpace := (List.mem_filter.mp member).1
  rw [List.any_eq_false]
  intro c among
  rw [not_mem_splitOnP piece c among]
  exact Bool.false_ne_true

/-- A text without blanks is one word. -/
theorem splitText_of_no_blank {text : Text} (some : text ≠ []) (solid : text.any isUnicodeSpace = false) :
    splitText text = [text] := by
  have pieces : text.splitOnP isUnicodeSpace = [text] :=
    List.splitOnP_eq_singleton fun c among => by simpa using List.any_eq_false.mp solid c among
  rw [splitText, pieces]
  simp [some]

/-- If the lower-case text is one word, so is the text. -/
theorem Casing.splitText_of_lower (casing : Casing) {text : Text}
    (single : splitText (casing.lower text) = [casing.lower text]) : splitText text = [text] := by
  have word : casing.lower text ∈ splitText (casing.lower text) := by
    rw [single]
    exact List.mem_singleton_self _
  have solid : text.any isUnicodeSpace = false := by
    rw [← casing.any_lower]
    exact no_blank_of_mem_splitText word
  refine splitText_of_no_blank ?_ solid
  rintro rfl
  rw [casing.split_lower] at single
  cases single

/-! ## What is specified -/

/-- The words of a command's name. -/
def Arg.nameWords : Arg F → List (Arg F)
  | .str text => (splitText text).map .str
  | .bytes data => (splitBlanks data).map .bytes
  | arg => [arg]

/-- The text that a server reads in an argument. -/
def Arg.spelled (encoder : ArgEncoder F) : Arg F → Text
  | .str text => text
  | .bytes data => decodeReplace data
  | .memoryview data => decodeReplace data
  | .int value => decimalText value
  | .float value => decodeReplace (encoder.reprFloat value)

/-- The arguments with the name split into words. -/
def commandWords : List (Arg F) → List (Arg F)
  | [] => []
  | name :: rest => name.nameWords ++ rest

/-- The last position of a key among so many words. -/
def KeySpec.lastPosition (spec : KeySpec) (length : Nat) : Int :=
  if spec.lastKeyPos < 0 then length + spec.lastKeyPos else spec.lastKeyPos

/-- The first position, then one more step as long as the last position is not passed. -/
def KeySpec.positions (spec : KeySpec) (length : Nat) : List Nat :=
  (List.range (spec.lastPosition length + 1).toNat).filter fun pos =>
    spec.firstKeyPos ≤ pos ∧ spec.stepCount ∣ pos - spec.firstKeyPos

namespace CommandsParser

section Specification

variable (casing : Casing) (encoder : ArgEncoder F)

/-- The table's entry for a command. -/
def commandOf (table : CommandTable) : List (Arg F) → Option (Text × CommandInfo)
  | [] => none
  | name :: _ =>
    name.nameWords.head?.bind fun word =>
      (Dict.get table (casing.lower (word.spelled encoder))).map fun info =>
        (casing.lower (word.spelled encoder), info)

/-- The key positions of the command or of the subcommand that the second word selects, if it has
keys. -/
def keySpec (cmdName : Text) (info : CommandInfo) (words : List (Arg F)) : Option KeySpec :=
  if info.hasKeys then some info.toKeySpec
  else
    ((words[1]?).bind fun word =>
      namedSubcommand (info.subcommands.getD [])
        (cmdName ++ '|' :: casing.lower (word.spelled encoder))).filter (·.hasKeys)

/-- The words at the key positions, or nothing without keys. -/
def specifiedKeys (cmdName : Text) (info : CommandInfo) (args : List (Arg F)) :
    Option (List (Option (Arg F))) :=
  (keySpec casing encoder cmdName info (commandWords args)).map fun spec =>
    (spec.positions (commandWords args).length).map fun pos => (commandWords args)[pos]?

/-- `get_keys` returns what is specified, and reads the table only. -/
def ReturnsSpecified (server : CommandServer F) (kind : ParserKind) (table : CommandTable)
    (cmdName : Text) (info : CommandInfo) (args : List (Arg F)) : Prop :=
  ∃ keys : Option (List (Arg F)), getKeys casing server kind table args = (.ok keys, table) ∧
    keys.map (List.map some) = specifiedKeys casing encoder cmdName info args

/-- The keys of the command are given by positions. -/
def Plain (info : CommandInfo) : Prop :=
  "movablekeys".toList ∉ info.flags ∧ "pubsub".toList ∉ info.flags ∧ info.name ≠ "pubsub".toList

/-- The names of a table are words, those of subcommands without quotes. -/
structure Names (table : CommandTable) : Prop where
  words : ∀ name ∈ Dict.keys table, splitText name = [name]
  unquoted : ∀ item ∈ table, ∀ subcommands, item.2.subcommands = some subcommands →
    ∀ subcmd ∈ subcommands, '\'' ∉ subcmd.name ∧ '"' ∉ subcmd.name

/-- The second word names no subcommand, and is of a type that can name one. -/
def NoSubcommand (cmdName : Text) (info : CommandInfo) (words : List (Arg F)) : Prop :=
  ∀ subcommands, info.subcommands = some subcommands →
    (∃ data, words[1]? = some (.bytes data)) ∨
      ∃ text, words[1]? = some (.str text) ∧
        ∀ subcmd ∈ subcommands, subcmd.name ≠ cmdName ++ '|' :: casing.lower text

/-- The subcommand is selected by text, the step is not zero, the positions lie among the words, and
none lies on a word of the name that is written otherwise than in the table. -/
def Reads (table : CommandTable) (info : CommandInfo) (name : Text) (words : List (Arg F))
    (spec : KeySpec) : Prop :=
  (info.hasKeys = false → ∃ text, words[1]? = some (.str text)) ∧ spec.stepCount ≠ 0 ∧
    ∀ pos ∈ spec.positions words.length, pos < words.length ∧
      ∀ word, (splitText name)[pos]? = some word →
        casing.lower word = word ∨ Dict.contains table (casing.lower name) = true

/-- The key positions of the command can be read, or it has none and nothing looks like one. -/
def Fits (table : CommandTable) (cmdName : Text) (info : CommandInfo) (name : Text)
    (words : List (Arg F)) : Option KeySpec → Prop
  | none => NoSubcommand casing cmdName info words
  | some spec => Reads casing table info name words spec

/-- When `get_keys` is right: a name alone has no keys, and before arguments it is text. -/
def Allows (table : CommandTable) (cmdName : Text) (info : CommandInfo) (args : List (Arg F)) :
    Prop :=
  (args.length < 2 ∧ keySpec casing encoder cmdName info (commandWords args) = none) ∨
    (2 ≤ args.length ∧ ∃ name, args.head? = some (.str name) ∧
      Fits casing table cmdName info name (commandWords args)
        (keySpec casing encoder cmdName info (commandWords args)))

end Specification

/-! ## Positions -/

/-- A range goes on as long as its last position is not passed. -/
theorem mem_range_iff {step : Nat} (positive : 0 < step) (first : Nat) (last : Int) (i : Nat) :
    i < ((last + 1 - first + step - 1) / step).toNat ↔ ((first + step * i : Nat) : Int) ≤ last := by
  have step' : (0 : Int) < step := by omega
  have quotient : ((i : Int) + 1 ≤ (last + 1 - first + step - 1) / step) ↔
      ((i : Int) + 1) * step ≤ last + 1 - first + step - 1 := Int.le_ediv_iff_mul_le step'
  have product : ((i : Int) + 1) * step = step * i + step := by ring
  push_cast
  rw [product] at quotient
  generalize (last + 1 - first + step - 1) / (step : Int) = count at quotient ⊢
  omega

/-- The positions that are asked for are the specified ones. -/
theorem pyRange_eq_positions (spec : KeySpec) (step : spec.stepCount ≠ 0) (length : Nat) :
    pyRange spec.firstKeyPos (lastPos spec length + 1) spec.stepCount = spec.positions length := by
  have last : lastPos spec length = spec.lastPosition length := by
    unfold lastPos KeySpec.lastPosition
    by_cases negative : spec.lastKeyPos < 0
    · rw [if_pos negative, if_pos negative]
      omega
    · rw [if_neg negative, if_neg negative]
  have positive : 0 < spec.stepCount := Nat.pos_of_ne_zero step
  rw [last]
  unfold pyRange KeySpec.positions
  have ascending : (spec.positions length).Pairwise (· < ·) := List.pairwise_lt_range.filter _
  refine (List.pairwise_lt_range' _ positive).eq_of_mem_iff ascending fun pos => ?_
  rw [List.mem_range', List.mem_filter, List.mem_range, decide_eq_true_eq]
  have inside := mem_range_iff positive spec.firstKeyPos (spec.lastPosition length)
  constructor
  · rintro ⟨i, below, rfl⟩
    have within := (inside i).mp below
    refine ⟨by omega, Nat.le_add_right _ _, ?_⟩
    rw [Nat.add_sub_cancel_left]
    exact Nat.dvd_mul_right _ _
  · rintro ⟨below, above, i, distance⟩
    have place : pos = spec.firstKeyPos + spec.stepCount * i := by omega
    refine ⟨i, (inside i).mpr ?_, place⟩
    rw [← place]
    omega

/-- Arguments are read one after the other as long as there are any. -/
theorem mapM_argAt {args : List (Arg F)} {positions : List Nat} {keys : List (Arg F)} :
    positions.mapM (argAt args) = .ok keys ↔ keys.map some = positions.map fun pos => args[pos]? := by
  induction positions generalizing keys with
  | nil =>
    rw [List.mapM_nil, List.map_nil, List.map_eq_nil_iff]
    constructor
    · intro read
      cases read
      rfl
    · rintro rfl
      rfl
  | cons pos positions ih =>
    rw [List.mapM_cons, List.map_cons]
    cases found : args[pos]? with
    | none =>
      have failed : argAt args pos = .error { cls := .indexError } := by rw [argAt, found]
      rw [failed]
      constructor
      · intro read
        cases read
      · intro same
        cases keys with
        | nil => cases same
        | cons key keys => cases (List.cons.inj same).1
    | some arg =>
      have read : argAt args pos = .ok arg := by rw [argAt, found]
      rw [read]
      constructor
      · intro whole
        obtain ⟨first, one, whole⟩ := Interruptible.ok_of_bind whole
        cases one
        obtain ⟨rest, later, built⟩ := Interruptible.ok_of_bind whole
        cases built
        rw [List.map_cons, ih.mp later]
      · intro same
        cases keys with
        | nil => cases same
        | cons key keys =>
          obtain ⟨first, rest⟩ := List.cons.inj same
          cases first
          show (positions.mapM (argAt args) >>= fun rest => pure (arg :: rest)) = .ok (arg :: keys)
          rw [ih.mpr rest]
          rfl

/-- The keys are read if the step is not zero and every position is one of an argument. -/
theorem keysAt_eq_ok {spec : KeySpec} {args keys : List (Arg F)} :
    keysAt spec args = .ok keys ↔ spec.stepCount ≠ 0 ∧
      keys.map some = (spec.positions args.length).map fun pos => args[pos]? := by
  unfold keysAt
  by_cases step : spec.stepCount = 0
  · rw [if_pos step]
    constructor
    · intro read
      cases read
    · rintro ⟨moves, -⟩
      exact absurd step moves
  · rw [if_neg step, pyRange_eq_positions spec step, mapM_argAt]
    exact ⟨fun same => ⟨step, same⟩, fun both => both.2⟩

/-! ## The name -/

variable {casing : Casing} {encoder : ArgEncoder F} {server : CommandServer F} {kind : ParserKind}
variable {table : CommandTable} {info : CommandInfo} {cmdName name : Text} {rest : List (Arg F)}

/-- Lower case only differs in case, and is the same for a name that is its own entry. -/
structure SameWords (casing : Casing) (table : CommandTable) (name : Text) (args words : List (Arg F)) :
    Prop where
  length : args.length = words.length
  keeps : ∀ pos : Nat, args[pos]? = words[pos]? ↔
    ∀ word, (splitText name)[pos]? = some word →
      casing.lower word = word ∨ Dict.contains table (casing.lower name) = true
  asked : ∀ pos : Nat, (args[pos]?).map (subcommandText casing) =
    (words[pos]?).map (subcommandText casing)

/-- Words in lower case before the same arguments. -/
theorem sameWords_lower {words : List Text} (split : splitText name = words)
    (apart : ¬Dict.contains table (casing.lower name) = true) :
    SameWords casing table name ((words.map casing.lower).map .str ++ rest) (words.map .str ++ rest) := by
  have inner (pos : Nat) (inside : pos < words.length) :
      (words.map Arg.str ++ rest)[pos]? = some (.str words[pos]) ∧
        ((words.map casing.lower).map Arg.str ++ rest)[pos]? =
          some (.str (casing.lower words[pos])) := by
    rw [List.getElem?_append_left (by simpa using inside),
      List.getElem?_append_left (by simpa using inside), List.getElem?_map, List.getElem?_map,
      List.getElem?_map, List.getElem?_eq_getElem inside]
    exact ⟨rfl, rfl⟩
  have outer (pos : Nat) (outside : words.length ≤ pos) :
      ((words.map casing.lower).map Arg.str ++ rest)[pos]? = (words.map Arg.str ++ rest)[pos]? := by
    rw [List.getElem?_append_right (by simpa using outside),
      List.getElem?_append_right (by simpa using outside)]
    simp
  constructor
  · simp
  · intro pos
    rw [split]
    by_cases inside : pos < words.length
    · rw [(inner pos inside).1, (inner pos inside).2, List.getElem?_eq_getElem inside]
      simp [apart]
    · rw [outer pos (Nat.not_lt.mp inside), List.getElem?_eq_none (Nat.not_lt.mp inside)]
      simp
  · intro pos
    by_cases inside : pos < words.length
    · rw [(inner pos inside).1, (inner pos inside).2]
      simp only [Option.map_some, subcommandText, casing.lower_lower]
    · rw [outer pos (Nat.not_lt.mp inside)]

/-- A name of the table is found, whether it stands alone or before other words. -/
theorem findName_of_commandOf (server : CommandServer F) (kind : ParserKind) (names : Names table)
    (found : commandOf casing encoder table (.str name :: rest) = some (cmdName, info)) :
    ∃ args, findName casing server kind table (.str name) rest = (.ok (cmdName, args), table) ∧
      Dict.get table cmdName = some info ∧
      SameWords casing table name args (commandWords (.str name :: rest)) := by
  simp only [commandOf, Arg.nameWords, List.head?_map] at found
  cases words : splitText name with
  | nil =>
    rw [words] at found
    cases found
  | cons word others =>
    rw [words] at found
    obtain ⟨entry, stored, pair⟩ := Option.map_eq_some_iff.mp found
    cases pair
    change Dict.get table (casing.lower word) = some info at stored
    show ∃ args, _ ∧ Dict.get table (casing.lower word) = some info ∧ _
    have contained : Dict.contains table (casing.lower word) = true := by
      rw [Dict.contains_eq_isSome_get, stored]
      rfl
    by_cases direct : Dict.contains table (casing.lower name) = true
    · have single : splitText name = [name] :=
        casing.splitText_of_lower (names.words _ (Dict.contains_iff_mem_keys.mp direct))
      rw [single] at words
      cases words
      refine ⟨.str name :: rest, by rw [findName, if_pos direct]; rfl, stored, ?_⟩
      have same : commandWords (.str name :: rest) = .str name :: rest := by
        simp only [commandWords, Arg.nameWords, single]
        rfl
      rw [same]
      exact ⟨rfl, fun pos => by simp [direct], fun pos => rfl⟩
    · have lowered : splitText (casing.lower name) = casing.lower word :: others.map casing.lower := by
        rw [casing.split_lower, words]
        rfl
      have shape : commandWords (.str name :: rest) = (word :: others).map Arg.str ++ rest := by
        simp only [commandWords, Arg.nameWords, words]
      refine ⟨((word :: others).map casing.lower).map .str ++ rest, ?_, stored, ?_⟩
      · rw [findName, if_neg direct, lowered]
        simp only [if_pos contained]
        rfl
      · rw [shape]
        exact sameWords_lower words direct

/-! ## The subcommand -/

/-- The `repr` of a `bytes` value is quoted. -/
theorem quoted_reprBytes (data : Bytes) : '\'' ∈ reprBytes data ∨ '"' ∈ reprBytes data := by
  unfold reprBytes
  by_cases double : 39 ∈ data ∧ 34 ∉ data
  · simp only [if_pos double]
    exact .inr (by simp)
  · simp only [if_neg double]
    exact .inl (by simp)

/-- No subcommand is selected if none has the name. -/
theorem namedSubcommand_eq_none {subcommands : List Subcommand} {asked : Text} :
    namedSubcommand subcommands asked = none ↔ ∀ subcmd ∈ subcommands, subcmd.name ≠ asked := by
  rw [namedSubcommand, Option.map_eq_none_iff, List.getLast?_eq_none_iff, List.filter_eq_nil_iff]
  simp

/-- Octets select no subcommand. -/
theorem namedSubcommand_bytes (names : Names table) (stored : Dict.get table cmdName = some info)
    {subcommands : List Subcommand} (some' : info.subcommands = some subcommands) (data : Bytes) :
    namedSubcommand subcommands (cmdName ++ '|' :: reprBytes data) = none := by
  refine namedSubcommand_eq_none.mpr fun subcmd member same => ?_
  obtain ⟨single, double⟩ :=
    names.unquoted _ (Dict.mem_of_get stored) subcommands some' subcmd member
  rw [same] at single double
  rcases quoted_reprBytes data with quote | quote
  · exact single (List.mem_append_right _ (List.mem_cons_of_mem _ quote))
  · exact double (List.mem_append_right _ (List.mem_cons_of_mem _ quote))

/-! ## Reading the keys -/

variable {args words : List (Arg F)}

/-- Positions inside the words can be read. -/
theorem exists_words {positions : List Nat} (inside : ∀ pos ∈ positions, pos < words.length) :
    ∃ keys : List (Arg F), keys.map some = positions.map fun pos => words[pos]? := by
  induction positions with
  | nil => exact ⟨[], rfl⟩
  | cons pos positions ih =>
    obtain ⟨keys, rest⟩ := ih fun other member => inside other (List.mem_cons_of_mem _ member)
    have here := inside pos List.mem_cons_self
    exact ⟨words[pos] :: keys, by rw [List.map_cons, List.map_cons, rest, List.getElem?_eq_getElem here]⟩

/-- The keys are the specified words if the step is not zero, the positions lie among the words and
the words there are those of the table. -/
theorem keysAt_specified (same : SameWords casing table name args words) (spec : KeySpec) :
    (∃ keys, keysAt spec args = .ok keys ∧
        keys.map some = (spec.positions words.length).map fun pos => words[pos]?) ↔
      spec.stepCount ≠ 0 ∧ ∀ pos ∈ spec.positions words.length, pos < words.length ∧
        ∀ word, (splitText name)[pos]? = some word →
          casing.lower word = word ∨ Dict.contains table (casing.lower name) = true := by
  constructor
  · rintro ⟨keys, read, specified⟩
    obtain ⟨step, found⟩ := keysAt_eq_ok.mp read
    rw [same.length, specified] at found
    refine ⟨step, fun pos member => ⟨?_, ?_⟩⟩
    · have some' : words[pos]? ∈ keys.map some := by
        rw [specified]
        exact List.mem_map_of_mem member
      obtain ⟨key, -, here⟩ := List.mem_map.mp some'
      exact (List.getElem?_eq_some_iff.mp here.symm).1
    · exact (same.keeps pos).mp (List.map_inj_left.mp found pos member).symm
  · rintro ⟨step, fits⟩
    obtain ⟨keys, specified⟩ := exists_words fun pos member => (fits pos member).1
    refine ⟨keys, keysAt_eq_ok.mpr ⟨step, ?_⟩, specified⟩
    rw [same.length, specified]
    exact List.map_congr_left fun pos member => ((same.keeps pos).mpr (fits pos member).2).symm

/-- A command whose keys are given by positions. -/
theorem keysOf_plain (plain : Plain info) : keysOf casing server kind cmdName info args =
    (selectSpec casing cmdName info args).bind (keysFor args) := by
  obtain ⟨fixed, ordinary, named⟩ := plain
  rw [keysOf, if_neg fixed, if_neg (not_or.mpr ⟨ordinary, named⟩)]

/-- What selects the subcommand is the same in both lists. -/
theorem selectSpec_eq (same : SameWords casing table name args words) {word : Arg F}
    (second : words[1]? = some word) {subcommands : List Subcommand}
    (keyless : info.hasKeys = false) (subs : info.subcommands = some subcommands) :
    selectSpec casing cmdName info args = (subcommandText casing word).map fun text =>
      namedSubcommand subcommands (cmdName ++ '|' :: text) := by
  have asked := same.asked 1
  rw [second, Option.map_some] at asked
  obtain ⟨arg, found, text⟩ := Option.map_eq_some_iff.mp asked
  simp only [selectSpec, keyless, Bool.false_eq_true, ↓reduceIte, subs, found, text]

/-- The same, as what is returned for the positions. -/
theorem keysFor_specified (same : SameWords casing table name args words) (spec : KeySpec) :
    (∃ keys, keysFor args (some spec) = .ok keys ∧
        keys.map (List.map some) = some ((spec.positions words.length).map fun pos => words[pos]?)) ↔
      spec.stepCount ≠ 0 ∧ ∀ pos ∈ spec.positions words.length, pos < words.length ∧
        ∀ word, (splitText name)[pos]? = some word →
          casing.lower word = word ∨ Dict.contains table (casing.lower name) = true := by
  rw [← keysAt_specified same spec]
  constructor
  · rintro ⟨keys, read, specified⟩
    cases found : keysAt spec args with
    | error e =>
      rw [keysFor, found] at read
      cases read
    | ok list =>
      rw [keysFor, found] at read
      cases read
      exact ⟨list, rfl, Option.some.inj specified⟩
  · rintro ⟨keys, read, specified⟩
    refine ⟨some keys, ?_, congrArg some specified⟩
    rw [keysFor, read]
    rfl

/-- No keys come from an argument that cannot name a subcommand. -/
theorem not_fits_of_unnamed {word : Arg F} (second : words[1]? = some word)
    (keyless : info.hasKeys = false) {subcommands : List Subcommand}
    (subs : info.subcommands = some subcommands) (noBytes : ∀ data, word ≠ .bytes data)
    (noText : ∀ text, word ≠ .str text) (spec : Option KeySpec) :
    ¬Fits casing table cmdName info name words spec := by
  have other : ¬∃ text, words[1]? = some (.str text) := by
    rintro ⟨text, found⟩
    rw [second] at found
    exact noText text (Option.some.inj found)
  cases spec with
  | none =>
    intro silent
    rcases silent subcommands subs with ⟨data, found⟩ | ⟨text, found, -⟩
    · rw [second] at found
      exact noBytes data (Option.some.inj found)
    · exact other ⟨text, found⟩
  | some spec => exact fun reads => other (reads.1 keyless)

/-- What the second word selects among the subcommands. -/
theorem keysFor_subcommand (names : Names table) (stored : Dict.get table cmdName = some info)
    (same : SameWords casing table name args words) {word : Arg F} (second : words[1]? = some word)
    (keyless : info.hasKeys = false) {subcommands : List Subcommand}
    (subs : info.subcommands = some subcommands) :
    (∃ keys, ((subcommandText casing word).map fun text =>
          namedSubcommand subcommands (cmdName ++ '|' :: text)).bind (keysFor args) = .ok keys ∧
        keys.map (List.map some) = (keySpec casing encoder cmdName info words).map fun spec =>
          (spec.positions words.length).map fun pos => words[pos]?) ↔
      Fits casing table cmdName info name words (keySpec casing encoder cmdName info words) := by
  have spec : keySpec casing encoder cmdName info words =
      (namedSubcommand subcommands
        (cmdName ++ '|' :: casing.lower (word.spelled encoder))).filter (·.hasKeys) := by
    rw [keySpec, if_neg (by simp [keyless]), second, Option.bind_some, subs, Option.getD_some]
  have unnamed (noBytes : ∀ data, word ≠ .bytes data) (noText : ∀ text, word ≠ .str text)
      (failed : subcommandText casing word = .error { cls := .attributeError }) :
      (∃ keys, ((subcommandText casing word).map fun text =>
            namedSubcommand subcommands (cmdName ++ '|' :: text)).bind (keysFor args) = .ok keys ∧
          keys.map (List.map some) = (keySpec casing encoder cmdName info words).map fun spec =>
            (spec.positions words.length).map fun pos => words[pos]?) ↔
        Fits casing table cmdName info name words (keySpec casing encoder cmdName info words) := by
    refine iff_of_false ?_ (not_fits_of_unnamed second keyless subs noBytes noText _)
    rintro ⟨keys, read, -⟩
    rw [failed] at read
    cases read
  cases word with
  | str text =>
    change keySpec casing encoder cmdName info words =
      (namedSubcommand subcommands (cmdName ++ '|' :: casing.lower text)).filter (·.hasKeys) at spec
    show (∃ keys, keysFor args (namedSubcommand subcommands
      (cmdName ++ '|' :: casing.lower text)) = .ok keys ∧ _) ↔ _
    cases chosen : namedSubcommand subcommands (cmdName ++ '|' :: casing.lower text) with
    | none =>
      rw [chosen] at spec
      rw [spec]
      refine iff_of_true ⟨none, rfl, rfl⟩ fun others known => .inr ⟨text, second, ?_⟩
      rw [subs] at known
      exact Option.some.inj known ▸ namedSubcommand_eq_none.mp chosen
    | some subcmd =>
      rw [chosen] at spec
      by_cases keyed : subcmd.hasKeys = true
      · rw [Option.filter_some_pos keyed] at spec
        rw [spec]
        exact (keysFor_specified same subcmd).trans
          ⟨fun read => ⟨fun _ => ⟨text, second⟩, read⟩, fun reads => reads.2⟩
      · rw [Option.filter_some_neg (by simpa using keyed)] at spec
        rw [spec]
        refine iff_of_false ?_ fun silent => ?_
        · rintro ⟨keys, read, -⟩
          have still : subcmd.stepCount = 0 := by
            simp only [KeySpec.hasKeys, Bool.not_eq_true, Bool.not_eq_false', Bool.and_eq_true,
              beq_iff_eq] at keyed
            exact keyed.1.1
          rw [keysFor, keysAt, if_pos still] at read
          cases read
        · rcases silent subcommands subs with ⟨data, found⟩ | ⟨other, found, unknown⟩
          · rw [second] at found
            cases found
          · rw [second] at found
            cases found
            rw [namedSubcommand_eq_none.mpr unknown] at chosen
            cases chosen
  | bytes data =>
    show (∃ keys, keysFor args (namedSubcommand subcommands
      (cmdName ++ '|' :: reprBytes (lowerBytes data))) = .ok keys ∧ _) ↔ _
    rw [namedSubcommand_bytes names stored subs]
    cases specified : keySpec casing encoder cmdName info words with
    | none => exact iff_of_true ⟨none, rfl, rfl⟩ fun others known => .inl ⟨data, second⟩
    | some spec =>
      refine iff_of_false ?_ fun reads => ?_
      · rintro ⟨keys, read, same⟩
        cases read
        cases same
      · obtain ⟨text, found⟩ := reads.1 keyless
        rw [second] at found
        cases found
  | int value => exact unnamed (by simp) (by simp) rfl
  | float value => exact unnamed (by simp) (by simp) rfl
  | memoryview data => exact unnamed (by simp) (by simp) rfl

/-- Once a command is found, its keys are the specified ones exactly when they can be read. -/
theorem keysOf_specified (encoder : ArgEncoder F) (server : CommandServer F) (kind : ParserKind)
    (names : Names table) (stored : Dict.get table cmdName = some info)
    (plain : Plain info) (same : SameWords casing table name args words) {word : Arg F}
    (second : words[1]? = some word) :
    (∃ keys, keysOf casing server kind cmdName info args = .ok keys ∧
        keys.map (List.map some) = (keySpec casing encoder cmdName info words).map fun spec =>
          (spec.positions words.length).map fun pos => words[pos]?) ↔
      Fits casing table cmdName info name words (keySpec casing encoder cmdName info words) := by
  rw [keysOf_plain plain]
  by_cases keyed : info.hasKeys = true
  · have spec : keySpec casing encoder cmdName info words = some info.toKeySpec := by
      rw [keySpec, if_pos keyed]
    have selected : selectSpec casing cmdName info args = .ok (some info.toKeySpec) := by
      rw [selectSpec, if_pos keyed]
    rw [spec, selected]
    exact (keysFor_specified same info.toKeySpec).trans
      ⟨fun read => ⟨fun none => by simp [keyed] at none, read⟩, fun reads => reads.2⟩
  · have keyless : info.hasKeys = false := by simpa using keyed
    have spec : keySpec casing encoder cmdName info words =
        (namedSubcommand (info.subcommands.getD [])
          (cmdName ++ '|' :: casing.lower (word.spelled encoder))).filter (·.hasKeys) := by
      rw [keySpec, if_neg keyed, second, Option.bind_some]
    cases subs : info.subcommands with
    | none =>
      have selected : selectSpec casing cmdName info args = .ok none := by
        simp only [selectSpec, keyless, Bool.false_eq_true, ↓reduceIte, subs]
      have nothing : keySpec casing encoder cmdName info words = none := by
        rw [spec, subs]
        rfl
      rw [nothing, selected]
      refine iff_of_true ⟨none, rfl, rfl⟩ fun subcommands known => ?_
      rw [subs] at known
      cases known
    | some subcommands =>
      rw [selectSpec_eq same second keyless subs]
      exact keysFor_subcommand names stored same second keyless subs

/-- A name that is not text is not found. -/
theorem findName_raises (casing : Casing) (server : CommandServer F) (kind : ParserKind)
    (table : CommandTable) (rest : List (Arg F)) {name : Arg F} (noText : ∀ text, name ≠ .str text) :
    ∃ e after, findName casing server kind table name rest = (.error e, after) := by
  cases name with
  | str text => exact absurd rfl (noText text)
  | bytes data =>
    rw [findName]
    cases splitBlanks (lowerBytes data) with
    | nil => exact ⟨_, _, rfl⟩
    | cons first others =>
      cases initializeCommands casing server kind with
      | error e => exact ⟨_, _, rfl⟩
      | ok fresh => exact ⟨_, _, rfl⟩
  | int value => exact ⟨_, _, rfl⟩
  | float value => exact ⟨_, _, rfl⟩
  | memoryview data => exact ⟨_, _, rfl⟩

/-- One parser returns the specified keys of a command in its table exactly when it can read them. -/
theorem returnsSpecified_iff (names : Names table) {args : List (Arg F)}
    (found : commandOf casing encoder table args = some (cmdName, info)) (plain : Plain info) :
    ReturnsSpecified casing encoder server kind table cmdName info args ↔
      Allows casing encoder table cmdName info args := by
  unfold ReturnsSpecified Allows specifiedKeys
  cases args with
  | nil => cases found
  | cons first rest =>
    cases rest with
    | nil =>
      have alone : getKeys casing server kind table [first] = (.ok none, table) := rfl
      rw [alone]
      constructor
      · rintro ⟨keys, read, specified⟩
        cases read
        exact .inl ⟨by simp, Option.map_eq_none_iff.mp specified.symm⟩
      · rintro (⟨-, nothing⟩ | ⟨two, -⟩)
        · exact ⟨none, rfl, by rw [nothing]; rfl⟩
        · exact absurd two (by simp)
    | cons second rest =>
      have two : 2 ≤ (first :: second :: rest).length := by simp
      have text (reads : Prop) : ((first :: second :: rest).length < 2 ∧
          keySpec casing encoder cmdName info (commandWords (first :: second :: rest)) = none ∨
            2 ≤ (first :: second :: rest).length ∧ reads) ↔ reads := by
        simp
      rw [text]
      by_cases named : ∃ name, first = .str name
      · obtain ⟨name, rfl⟩ := named
        obtain ⟨args, looked, stored, same⟩ :=
          findName_of_commandOf server kind names found
        have nonempty : (Arg.nameWords (.str name : Arg F)) ≠ [] := by
          intro none
          simp only [commandOf, none] at found
          cases found
        have long : 1 < (commandWords (.str name :: second :: rest)).length := by
          have some' := List.length_pos_of_ne_nil nonempty
          simp only [commandWords, List.length_append, List.length_cons]
          omega
        have here := List.getElem?_eq_getElem long
        have keys := keysOf_specified encoder server kind names stored plain same here
        have result : getKeys casing server kind table (.str name :: second :: rest) =
            (keysOf casing server kind cmdName info args, table) := by
          simp only [getKeys, looked, stored]
        rw [result]
        simp only [Prod.mk.injEq, and_true, List.head?_cons, Option.some.injEq, Arg.str.injEq,
          exists_eq_left']
        exact keys
      · have noText : ∀ text, first ≠ .str text := fun text same => named ⟨text, same⟩
        obtain ⟨e, after, failed⟩ := findName_raises casing server kind table (second :: rest) noText
        have result : getKeys casing server kind table (first :: second :: rest) =
            (.error e, after) := by
          simp only [getKeys, failed]
        rw [result]
        refine iff_of_false ?_ ?_
        · rintro ⟨keys, read, -⟩
          cases read
        · rintro ⟨name, head, -⟩
          exact noText name (Option.some.inj head)

/-- The entry of a container with one subcommand. -/
def container (name sub : Text) (positions : KeySpec) : CommandInfo where
  firstKeyPos := 0
  lastKeyPos := 0
  stepCount := 0
  name := name
  flags := []
  subcommands := some [⟨positions, name ++ '|' :: sub⟩]

/-- A table with `MEMORY USAGE` and `CONFIG GET`. -/
def twoContainers : CommandTable :=
  [("memory".toList, container "memory".toList "usage".toList ⟨2, 2, 1⟩),
    ("config".toList, container "config".toList "get".toList ⟨0, 0, 0⟩)]

/-- A codec, which the keys of these commands do not ask. -/
def someEncoder : ArgEncoder Nat where
  encodeText text := .ok (utf8 text)
  reprFloat := decimalNat

/-- A server with these containers. -/
def someServer : CommandServer Nat where
  command := .ok twoContainers
  commandGetkeys _ := .ok []

/-- The names of the containers are words. -/
theorem names_twoContainers : Names twoContainers := by
  constructor
  · intro name member
    refine splitText_of_no_blank ?_ ?_
    · revert name
      decide
    · revert name
      decide
  · have each : ∀ item ∈ twoContainers, ∀ subcmd ∈ item.2.subcommands.getD [],
        '\'' ∉ subcmd.name ∧ '"' ∉ subcmd.name := by decide
    intro item member subcommands known subcmd among
    refine each item member subcmd ?_
    rw [known]
    exact among

/-- A name of two words is split between them. -/
theorem splitText_two {first second : Text} (some' : first ≠ []) (more : second ≠ [])
    (solid : first.any isUnicodeSpace = false) (solid' : second.any isUnicodeSpace = false) :
    splitText (first ++ ' ' :: second) = [first, second] := by
  have plain (text : Text) (whole : text.any isUnicodeSpace = false) :
      ∀ c ∈ text, isUnicodeSpace c = false :=
    fun c member => by simpa using List.any_eq_false.mp whole c member
  have pieces : (first ++ ' ' :: second).splitOnP isUnicodeSpace = [first, second] := by
    rw [List.splitOnP_append_cons_of_forall_mem (plain first solid) ' ' (by decide),
      List.splitOnP_eq_singleton (plain second solid')]
  rw [splitText, pieces]
  simp [some', more]

end CommandsParser

end RedisPy

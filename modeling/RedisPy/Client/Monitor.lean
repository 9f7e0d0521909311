import RedisPy.Parsers.Value
import RedisPy.Python.Double
import RedisPy.Python.Splitting
import RedisPy.Sentinel.Discovery

/-!
# Monitor lines

`Monitor.next_command` takes the line that a server prints for a command apart with two regular
expressions. The second one finds the quoted arguments: a quote ends an argument unless a backslash stands
right before it.
-/

namespace RedisPy

variable {F : Type}

/-- `encoder.decode(response, force=True)` of a string. -/
def Encoder.forceDecode (encoder : Encoder) : Item → Except Exc Text
  | .str text => .ok text
  | .bytes data =>
    match encoder.decodeBytes data with
    | some text => .ok text
    | none => .error { cls := .unicodeDecodeError }

namespace Monitor

/-- `\d`. -/
def isDecimalDigit (c : Char) : Bool := (toAsciiDigit c).isDigit

/-- `(.*?)\] `, with as little as possible before the bracket. -/
def beforeBracket : Text → Option (Text × Text)
  | [] => none
  | c :: rest =>
    if c = ']' ∧ rest.head? = some ' ' then some ([], rest.tail)
    else if c = '\n' then none
    else (beforeBracket rest).map fun (group, after) => (c :: group, after)

/-- The groups of `monitor_re.match(command_data)`, for `\[(\d+) (.*?)\] (.*)`. -/
def monitorMatch (commandData : Text) : Option (Text × Text × Text) :=
  match commandData with
  | '[' :: rest =>
    match rest.span isDecimalDigit with
    | (digit :: digits, ' ' :: rest) => do
      let (clientInfo, rest) ← beforeBracket rest
      some (digit :: digits, clientInfo, rest.takeWhile (· ≠ '\n'))
    | _ => none
  | _ => none

/-- `(.*?)(?<!\\)"` after the character `previous`, with as little as possible before the quote. -/
def beforeQuote : Char → Text → Option (Text × Text)
  | _, [] => none
  | previous, c :: rest =>
    if c = '"' ∧ previous ≠ '\\' then some ([], rest)
    else if c = '\n' then none
    else (beforeQuote c rest).map fun (group, after) => (c :: group, after)

/-- The text after a quote is shorter. -/
theorem beforeQuote_length {previous : Char} {text group after : Text}
    (found : beforeQuote previous text = some (group, after)) : after.length < text.length := by
  induction text generalizing previous group with
  | nil => cases found
  | cons c rest ih =>
    rw [beforeQuote] at found
    split at found
    · cases found
      exact Nat.lt_succ_self _
    · split at found
      · cases found
      · obtain ⟨⟨inner, left⟩, earlier, same⟩ := Option.map_eq_some_iff.mp found
        cases same
        exact Nat.lt_succ_of_lt (ih earlier)

/-- `command_re.findall(command)`, for `"(.*?)(?<!\\)"`. -/
def findQuoted : Text → List Text
  | [] => []
  | c :: rest =>
    if c = '"' then
      match _ : beforeQuote c rest with
      | some (group, after) => group :: findQuoted after
      | none => findQuoted rest
    else findQuoted rest
termination_by text => text.length
decreasing_by
  · exact Nat.lt_succ_of_lt (beforeQuote_length ‹_›)
  · exact Nat.lt_succ_self _
  · exact Nat.lt_succ_self _

/-- `command.replace('\\"', '"')`. -/
def unescapeQuotes : Text → Text
  | '\\' :: '"' :: rest => '"' :: unescapeQuotes rest
  | c :: rest => c :: unescapeQuotes rest
  | [] => []

/-- The address, the port and the type of a client. -/
def clientFields (clientInfo : Text) : Except Exc (Text × Text × Text) :=
  if clientInfo = "lua".toList then .ok ("lua".toList, [], "lua".toList)
  else if "unix".toList.isPrefixOf clientInfo then .ok ("unix".toList, clientInfo.drop 5, "unix".toList)
  else
    match rsplitColon clientInfo with
    | some (clientAddress, clientPort) => .ok (clientAddress, clientPort, "tcp".toList)
    | none => .error { cls := .valueError }

/-- What `next_command` returns. -/
structure MonitorCommand (F : Type) where
  time : F
  db : Int
  clientAddress : Text
  clientPort : Text
  clientType : Text
  command : Text

/-- `Monitor.next_command`, after the response was read. -/
def nextCommand (encoder : Encoder) (pyFloat : Text → Except Exc F) (response : Item) :
    Except Exc (MonitorCommand F) := do
  let response ← encoder.forceDecode response
  match splitOnce ' ' response with
  | [commandTime, commandData] =>
    match monitorMatch commandData with
    | none => .error { cls := .attributeError }
    | some (dbId, clientInfo, command) =>
      let command := unescapeQuotes ([' '].intercalate (findQuoted command))
      let (clientAddress, clientPort, clientType) ← clientFields clientInfo
      let time ← pyFloat commandTime
      match intOfText dbId with
      | none => .error { cls := .valueError }
      | some db => .ok { time, db, clientAddress, clientPort, clientType, command }
  | _ => .error { cls := .valueError }

/-! ## Lines of a server -/

/-- The client that sent a command. -/
inductive ClientAddress where
  | lua
  | unix (path : Text)
  | tcp (host : Text) (port : Nat) (plain : ∀ c ∈ host, c ≠ ' ' ∧ c ≠ '\n')

/-- The address as the server writes it. -/
def ClientAddress.text : ClientAddress → Text
  | lua => "lua".toList
  | unix path => "unix:".toList ++ path
  | tcp host port _ => host ++ ':' :: decimalText port

/-- An address without a line feed, and with no quote after a bracket that a space follows. -/
def ClientAddress.Quiet (address : ClientAddress) : Prop :=
  '\n' ∉ address.text ∧ ∀ before after, address.text = before ++ ']' :: ' ' :: after → '"' ∉ after

/-- An argument with a backslash before each double quote and each backslash. -/
def escape (arg : Text) : Text := arg.flatMap fun c => if c = '"' ∨ c = '\\' then ['\\', c] else [c]

/-- An escaped argument in double quotes. -/
def quoted (arg : Text) : Text := '"' :: escape arg ++ ['"']

/-- An escaped argument whose double quotes have no backslash any more. -/
def shown (arg : Text) : Text := arg.flatMap fun c => if c = '\\' then ['\\', c] else [c]

/-- A line that the server prints for a command. -/
structure MonitorLine (pyFloat : Text → Except Exc F) where
  time : Text
  /-- The timestamp is a number. -/
  number : ∃ value, pyFloat time = .ok value
  spaceless : ' ' ∉ time
  db : Nat
  address : ClientAddress
  args : List Text
  printable : ∀ arg ∈ args, ∀ c ∈ arg, 32 ≤ c.toNat ∧ c.toNat ≤ 126

namespace MonitorLine

variable {pyFloat : Text → Except Exc F}

/-- The arguments, each in double quotes. -/
def command (line : MonitorLine pyFloat) : Text := [' '].intercalate (line.args.map quoted)

/-- `time [db address] "arg" "arg"`. -/
def text (line : MonitorLine pyFloat) : Text :=
  line.time ++ ' ' :: '[' :: decimalText line.db ++ ' ' :: line.address.text ++ ']' :: ' ' :: line.command

/-- The line is parsed, and its command is the arguments without their quotes. -/
def ParsedBack (encoder : Encoder) (line : MonitorLine pyFloat) : Prop :=
  ∀ response, encoder.forceDecode response = .ok line.text →
    ∃ parsed, nextCommand encoder pyFloat response = .ok parsed ∧
      parsed.command = [' '].intercalate (line.args.map shown)

end MonitorLine

/-! ## Escaping -/

/-- An empty argument stays empty. -/
@[simp] theorem escape_nil : escape [] = [] := rfl

/-- A double quote is escaped. -/
@[simp] theorem escape_quote (arg : Text) : escape ('"' :: arg) = '\\' :: '"' :: escape arg := rfl

/-- A backslash is escaped. -/
@[simp] theorem escape_backslash (arg : Text) : escape ('\\' :: arg) = '\\' :: '\\' :: escape arg := rfl

/-- Every other character stays. -/
theorem escape_plain {c : Char} (other : c ≠ '"' ∧ c ≠ '\\') (arg : Text) :
    escape (c :: arg) = c :: escape arg := by
  rw [escape, List.flatMap_cons, if_neg (by rintro (same | same); exacts [other.1 same, other.2 same])]
  rfl

/-- Escaping goes from character to character. -/
theorem escape_append (left right : Text) : escape (left ++ right) = escape left ++ escape right :=
  List.flatMap_append

/-- A text that starts with another character. -/
theorem head?_cons_ne {c d : Char} (other : c ≠ d) (rest : Text) : (c :: rest).head? ≠ some d :=
  fun same => other (Option.some.inj same)

/-- No escaped argument starts with a double quote. -/
theorem escape_head_cons (c : Char) (arg rest : Text) : (escape (c :: arg) ++ rest).head? ≠ some '"' := by
  by_cases quote : c = '"'
  · subst quote
    exact head?_cons_ne (by decide) _
  · by_cases backslash : c = '\\'
    · subst backslash
      exact head?_cons_ne (by decide) _
    · rw [escape_plain ⟨quote, backslash⟩]
      exact head?_cons_ne quote _

/-- A backslash before anything but a double quote stays. -/
theorem unescapeQuotes_backslash {rest : Text} (next : rest.head? ≠ some '"') :
    unescapeQuotes ('\\' :: rest) = '\\' :: unescapeQuotes rest :=
  unescapeQuotes.eq_2 '\\' rest fun tail _ same => next (by rw [same]; rfl)

/-- Every other character stays. -/
theorem unescapeQuotes_plain {c : Char} (other : c ≠ '\\') (rest : Text) :
    unescapeQuotes (c :: rest) = c :: unescapeQuotes rest :=
  unescapeQuotes.eq_2 c rest fun _ same _ => other same

/-- An escaped argument is shown, unless it ends with a backslash that a double quote follows. -/
theorem unescapeQuotes_escape (arg rest : Text)
    (parted : arg.getLast? = some '\\' → rest.head? ≠ some '"') :
    unescapeQuotes (escape arg ++ rest) = shown arg ++ unescapeQuotes rest := by
  induction arg with
  | nil => rfl
  | cons c arg ih =>
    have inner : arg.getLast? = some '\\' → rest.head? ≠ some '"' := by
      intro last
      refine parted ?_
      rw [List.getLast?_cons, last]
      rfl
    have tail := ih inner
    by_cases backslash : c = '\\'
    · subst backslash
      have next : (escape arg ++ rest).head? ≠ some '"' := by
        cases arg with
        | nil => exact parted rfl
        | cons d arg => exact escape_head_cons d arg rest
      rw [escape_backslash, List.cons_append, List.cons_append,
        unescapeQuotes_backslash (head?_cons_ne (by decide) _),
        unescapeQuotes_backslash next, tail]
      rfl
    · by_cases quote : c = '"'
      · subst quote
        rw [escape_quote, List.cons_append, List.cons_append, unescapeQuotes, tail]
        rfl
      · rw [escape_plain ⟨quote, backslash⟩, List.cons_append, unescapeQuotes_plain backslash, tail, shown,
          shown, List.flatMap_cons, if_neg backslash]
        rfl

/-- Texts that were joined by spaces. -/
theorem intercalate_map (f : Text → Text) (arg next : Text) (args : List Text) :
    [' '].intercalate ((arg :: next :: args).map f) = f arg ++ ' ' :: [' '].intercalate ((next :: args).map f) := by
  rw [List.map_cons, List.map_cons, List.intercalate_cons_cons, List.append_assoc, List.singleton_append]

/-- Shown arguments that were joined by spaces. -/
theorem unescapeQuotes_intercalate (args : List Text) :
    unescapeQuotes ([' '].intercalate (args.map escape)) = [' '].intercalate (args.map shown) := by
  induction args with
  | nil => rfl
  | cons arg args ih =>
    cases args with
    | nil =>
      have whole := unescapeQuotes_escape arg [] fun _ same => absurd same (by decide)
      rw [List.append_nil, unescapeQuotes, List.append_nil] at whole
      rw [List.map_singleton, List.map_singleton, List.intercalate_singleton, List.intercalate_singleton, whole]
    | cons next args =>
      rw [intercalate_map, intercalate_map, unescapeQuotes_escape arg _ (fun _ => head?_cons_ne (by decide) _),
        unescapeQuotes_plain (by decide), ih]

/-! ## Quotes -/

/-- A character is passed if it neither ends the argument nor the line. -/
theorem beforeQuote_pass {previous c : Char} (quote : c = '"' → previous = '\\') (single : c ≠ '\n')
    (rest : Text) :
    beforeQuote previous (c :: rest) = (beforeQuote c rest).map fun (group, after) => (c :: group, after) := by
  rw [beforeQuote, if_neg fun ends => ends.2 (quote ends.1), if_neg single]

/-- No escaped argument without a line feed ends at one of its own double quotes. -/
theorem beforeQuote_escape {arg : Text} (single : '\n' ∉ arg) (previous : Char) (rest : Text) :
    beforeQuote previous (escape arg ++ rest) =
      (beforeQuote (arg.getLast?.getD previous) rest).map fun (group, after) => (escape arg ++ group, after) := by
  induction arg generalizing previous with
  | nil =>
    rw [escape_nil, List.nil_append, List.getLast?_nil, Option.getD_none]
    cases beforeQuote previous rest <;> rfl
  | cons c arg ih =>
    have further := ih (fun inside => single (List.mem_cons_of_mem c inside)) c
    have last : (c :: arg).getLast?.getD previous = arg.getLast?.getD c := by
      rw [List.getLast?_cons, Option.getD_some]
    by_cases special : c = '"' ∨ c = '\\'
    · have escaped : escape (c :: arg) = '\\' :: c :: escape arg := by
        rw [escape, List.flatMap_cons, if_pos special]
        rfl
      have plain : c ≠ '\n' := fun same => single (same ▸ List.mem_cons_self)
      rw [escaped, List.cons_append, List.cons_append,
        beforeQuote_pass (fun same => absurd same (by decide)) (by decide),
        beforeQuote_pass (fun _ => rfl) plain, further, last, Option.map_map, Option.map_map]
      rfl
    · obtain ⟨quote, backslash⟩ := not_or.mp special
      have plain : c ≠ '\n' := fun same => single (same ▸ List.mem_cons_self)
      rw [escape_plain ⟨quote, backslash⟩, List.cons_append, beforeQuote_pass (fun same => absurd same quote) plain,
        further, last, Option.map_map]
      rfl

/-- The first double quote of an argument that does not end with a backslash ends it. -/
theorem beforeQuote_closed {arg : Text} (single : '\n' ∉ arg) (closed : arg.getLast? ≠ some '\\') (rest : Text) :
    beforeQuote '"' (escape arg ++ '"' :: rest) = some (escape arg, rest) := by
  have last : arg.getLast?.getD '"' ≠ '\\' := by
    cases found : arg.getLast? with
    | none => decide
    | some c => exact fun same => closed (by rw [found, ← same]; rfl)
  rw [beforeQuote_escape single, beforeQuote, if_pos ⟨rfl, last⟩, Option.map_some]
  simp only [List.append_nil]

/-- The double quote after an argument that ends with a backslash is passed. -/
theorem beforeQuote_open {arg : Text} (single : '\n' ∉ arg) (ends : arg.getLast? = some '\\')
    (previous : Char) (rest : Text) :
    beforeQuote previous (escape arg ++ '"' :: rest) =
      (beforeQuote '"' rest).map fun (group, after) => (escape arg ++ '"' :: group, after) := by
  rw [beforeQuote_escape single, ends, Option.getD_some, beforeQuote_pass (fun _ => rfl) (by decide),
    Option.map_map]
  rfl

/-- A character other than a double quote is skipped. -/
theorem findQuoted_cons {c : Char} (other : c ≠ '"') (rest : Text) : findQuoted (c :: rest) = findQuoted rest := by
  rw [findQuoted, if_neg other]

/-- Text before the first double quote is skipped. -/
theorem findQuoted_skip {before : Text} (plain : '"' ∉ before) (rest : Text) :
    findQuoted (before ++ rest) = findQuoted rest := by
  induction before with
  | nil => rfl
  | cons c before ih =>
    rw [List.cons_append, findQuoted_cons fun same => plain (same ▸ List.mem_cons_self)]
    exact ih fun inside => plain (List.mem_cons_of_mem c inside)

/-- A double quote that is closed gives one piece. -/
theorem findQuoted_some {rest group after : Text} (found : beforeQuote '"' rest = some (group, after)) :
    findQuoted ('"' :: rest) = group :: findQuoted after := by
  rw [findQuoted, if_pos rfl]
  split
  · next same =>
    rw [found] at same
    cases same
    rfl
  · next none =>
    rw [found] at none
    cases none

/-- A double quote that is not closed is skipped. -/
theorem findQuoted_none {rest : Text} (open' : beforeQuote '"' rest = none) :
    findQuoted ('"' :: rest) = findQuoted rest := by
  rw [findQuoted, if_pos rfl]
  split
  · next same =>
    rw [open'] at same
    cases same
  · rfl

/-- An argument that does not end with a backslash is found. -/
theorem findQuoted_closed {arg : Text} (single : '\n' ∉ arg) (closed : arg.getLast? ≠ some '\\') (rest : Text) :
    findQuoted (quoted arg ++ rest) = escape arg :: findQuoted rest := by
  rw [quoted, List.append_assoc]
  exact findQuoted_some (beforeQuote_closed single closed rest)

/-- Nothing is found in a last argument that ends with a backslash. -/
theorem findQuoted_open {arg : Text} (single : '\n' ∉ arg) (ends : arg = [] ∨ arg.getLast? = some '\\') :
    findQuoted (escape arg ++ ['"']) = [] := by
  induction arg with
  | nil => rw [escape_nil, List.nil_append, findQuoted_none (beforeQuote.eq_1 '"'), findQuoted]
  | cons c arg ih =>
    have inner : '\n' ∉ arg := fun inside => single (List.mem_cons_of_mem c inside)
    have later : arg = [] ∨ arg.getLast? = some '\\' := by
      rcases arg with _ | ⟨d, arg⟩
      · exact .inl rfl
      · rw [List.getLast?_cons_cons] at ends
        exact .inr (ends.resolve_left (List.cons_ne_nil _ _))
    have rest := ih inner later
    by_cases quote : c = '"'
    · subst quote
      have tail : arg.getLast? = some '\\' := by
        refine later.resolve_left ?_
        rintro rfl
        exact absurd ends (by decide)
      have unclosed : beforeQuote '"' (escape arg ++ ['"']) = none := by
        rw [beforeQuote_open inner tail]
        rfl
      rw [escape_quote, List.cons_append, List.cons_append, findQuoted_cons (by decide),
        findQuoted_none unclosed, rest]
    · by_cases backslash : c = '\\'
      · subst backslash
        rw [escape_backslash, List.cons_append, List.cons_append, findQuoted_cons (by decide),
          findQuoted_cons (by decide), rest]
      · rw [escape_plain ⟨quote, backslash⟩, List.cons_append, findQuoted_cons quote, rest]

/-! ## Commands -/

/-- Arguments that do not end with a backslash are found before the others. -/
theorem findQuoted_append {closed : List Text} (single : ∀ arg ∈ closed, '\n' ∉ arg)
    (ends : ∀ arg ∈ closed, arg.getLast? ≠ some '\\') (args : List Text) :
    findQuoted ([' '].intercalate ((closed ++ args).map quoted)) =
      closed.map escape ++ findQuoted ([' '].intercalate (args.map quoted)) := by
  induction closed with
  | nil => rfl
  | cons arg closed ih =>
    have rest := ih (fun other member => single other (List.mem_cons_of_mem arg member))
      fun other member => ends other (List.mem_cons_of_mem arg member)
    have here := findQuoted_closed (single arg List.mem_cons_self) (ends arg List.mem_cons_self)
    rw [List.map_cons, List.cons_append, List.cons_append, ← rest]
    cases closed ++ args with
    | nil =>
      have last := here []
      rw [List.append_nil] at last
      rw [List.map_singleton, List.intercalate_singleton, last]
      rfl
    | cons next later => rw [intercalate_map, here, findQuoted_cons (by decide)]

/-- The command of arguments that do not end with a backslash. -/
theorem command_closed {args : List Text} (single : ∀ arg ∈ args, '\n' ∉ arg)
    (ends : ∀ arg ∈ args, arg.getLast? ≠ some '\\') :
    unescapeQuotes ([' '].intercalate (findQuoted ([' '].intercalate (args.map quoted)))) =
      [' '].intercalate (args.map shown) := by
  have found := findQuoted_append single ends []
  rw [List.append_nil, List.map_nil, List.intercalate_nil, findQuoted, List.append_nil] at found
  rw [found, unescapeQuotes_intercalate]

/-- The texts before the last ones each have a space after them. -/
theorem intercalate_append (texts : List Text) {more : List Text} (some' : more ≠ []) :
    [' '].intercalate (texts ++ more) = texts.flatMap (· ++ [' ']) ++ [' '].intercalate more := by
  induction texts with
  | nil => rfl
  | cons text texts ih =>
    rw [List.cons_append, List.intercalate_cons_of_ne_nil (List.append_ne_nil_of_right_ne_nil _ some'), ih,
      List.flatMap_cons, List.append_assoc, List.append_assoc, List.append_assoc]

/-- Joined texts start with the first one. -/
theorem intercalate_cons (text : Text) (texts : List Text) :
    ∃ after, [' '].intercalate (text :: texts) = text ++ after := by
  cases texts with
  | nil => exact ⟨[], by rw [List.intercalate_singleton, List.append_nil]⟩
  | cons next texts => exact ⟨_, by rw [List.intercalate_cons_cons, List.append_assoc]⟩

/-- Joined texts are no longer than with a space after each. -/
theorem intercalate_length (texts : List Text) :
    ([' '].intercalate texts).length ≤ (texts.flatMap (· ++ [' '])).length := by
  rcases List.eq_nil_or_concat texts with rfl | ⟨front, last, rfl⟩
  · exact Nat.le_refl _
  · rw [List.concat_eq_append, intercalate_append front (List.cons_ne_nil _ _), List.intercalate_singleton,
      List.flatMap_append, List.flatMap_singleton, List.length_append, List.length_append, List.length_append]
    omega

/-- Escaped arguments with a space after each are shown. -/
theorem unescapeQuotes_flatMap (args : List Text) (rest : Text) :
    unescapeQuotes ((args.map escape).flatMap (· ++ [' ']) ++ rest) =
      (args.map shown).flatMap (· ++ [' ']) ++ unescapeQuotes rest := by
  induction args with
  | nil => rfl
  | cons arg args ih =>
    rw [List.map_cons, List.map_cons, List.flatMap_cons, List.flatMap_cons, List.append_assoc, List.append_assoc,
      List.append_assoc, List.append_assoc, List.singleton_append, List.singleton_append,
      unescapeQuotes_escape arg _ (fun _ => head?_cons_ne (by decide) _), unescapeQuotes_plain (by decide), ih]

/-- A last argument that ends with a backslash is not found. -/
theorem findQuoted_last {last : Text} (single : '\n' ∉ last) (opens : last.getLast? = some '\\') :
    findQuoted (quoted last) = [] := by
  have unclosed : beforeQuote '"' (escape last ++ ['"']) = none := by
    rw [beforeQuote_open single opens]
    rfl
  rw [quoted, List.cons_append, findQuoted_none unclosed, findQuoted_open single (.inr opens)]

/-- The command is another one if a last argument ends with a backslash. -/
theorem command_last {closed : List Text} {last : Text} (single : ∀ arg ∈ closed ++ [last], '\n' ∉ arg)
    (ends : ∀ arg ∈ closed, arg.getLast? ≠ some '\\') (opens : last.getLast? = some '\\') :
    unescapeQuotes ([' '].intercalate (findQuoted ([' '].intercalate ((closed ++ [last]).map quoted)))) ≠
      [' '].intercalate ((closed ++ [last]).map shown) := by
  have plain := single last (List.mem_append_right _ List.mem_cons_self)
  have nothing := findQuoted_last plain opens
  have nonempty : 0 < (shown last).length := by
    obtain ⟨front, rfl⟩ := List.getLast?_eq_some_iff.mp opens
    rw [shown, List.flatMap_append, List.length_append]
    exact Nat.lt_add_left _ (by decide)
  rw [findQuoted_append (fun arg member => single arg (List.mem_append_left _ member)) ends,
    List.map_singleton, List.intercalate_singleton, nothing, List.append_nil, unescapeQuotes_intercalate,
    List.map_append, List.map_singleton, intercalate_append _ (List.cons_ne_nil _ _), List.intercalate_singleton]
  intro same
  have short := intercalate_length (closed.map shown)
  rw [same, List.length_append] at short
  omega

/-- The command is another one if an argument before others ends with a backslash. -/
theorem command_earlier {closed later : List Text} {last next : Text}
    (single : ∀ arg ∈ closed ++ last :: next :: later, '\n' ∉ arg)
    (ends : ∀ arg ∈ closed, arg.getLast? ≠ some '\\') (opens : last.getLast? = some '\\') :
    unescapeQuotes ([' '].intercalate (findQuoted ([' '].intercalate
      ((closed ++ last :: next :: later).map quoted)))) ≠
      [' '].intercalate ((closed ++ last :: next :: later).map shown) := by
  have plain := single last (List.mem_append_right _ List.mem_cons_self)
  -- the quote that opens the next argument closes this one
  obtain ⟨after, opened⟩ : ∃ after, [' '].intercalate ((next :: later).map quoted) = '"' :: after := by
    obtain ⟨after, whole⟩ := intercalate_cons (quoted next) (later.map quoted)
    exact ⟨_, whole⟩
  have found : findQuoted ([' '].intercalate ((last :: next :: later).map quoted)) =
      (escape last ++ '"' :: [' ']) :: findQuoted after := by
    have here : beforeQuote '"' (escape last ++ '"' :: ' ' :: '"' :: after) =
        some (escape last ++ '"' :: [' '], after) := by
      rw [beforeQuote_open plain opens]
      rfl
    rw [intercalate_map, opened, quoted, List.append_assoc, List.cons_append]
    exact findQuoted_some here
  obtain ⟨front, rfl⟩ := List.getLast?_eq_some_iff.mp opens
  obtain ⟨read, readIs⟩ := intercalate_cons (escape (front ++ ['\\']) ++ '"' :: [' ']) (findQuoted after)
  obtain ⟨expected, expectedIs⟩ := intercalate_cons (shown (front ++ ['\\'])) ((next :: later).map shown)
  have escaped : escape (front ++ ['\\']) ++ '"' :: [' '] ++ read =
      escape front ++ '\\' :: '\\' :: '"' :: ' ' :: read := by
    rw [escape_append, List.append_assoc, List.append_assoc]
    rfl
  have shownIs : shown (front ++ ['\\']) ++ expected = shown front ++ '\\' :: '\\' :: expected := by
    rw [shown, List.flatMap_append, List.append_assoc]
    rfl
  rw [findQuoted_append (fun arg member => single arg (List.mem_append_left _ member)) ends, found,
    intercalate_append _ (List.cons_ne_nil _ _), readIs, escaped, unescapeQuotes_flatMap,
    unescapeQuotes_escape _ _ (fun _ => head?_cons_ne (by decide) _),
    unescapeQuotes_backslash (head?_cons_ne (by decide) _), unescapeQuotes,
    List.map_append, List.map_cons, intercalate_append _ (List.cons_ne_nil _ _), expectedIs, shownIs]
  intro same
  have rest := List.append_cancel_left (List.append_cancel_left same)
  exact absurd (List.cons.inj (List.cons.inj rest).2).1 (by decide)

/-- The command is the arguments without their quotes exactly if none of them ends with a backslash. -/
theorem command_iff {args : List Text} (single : ∀ arg ∈ args, '\n' ∉ arg) :
    unescapeQuotes ([' '].intercalate (findQuoted ([' '].intercalate (args.map quoted)))) =
      [' '].intercalate (args.map shown) ↔ ∀ arg ∈ args, arg.getLast? ≠ some '\\' := by
  refine ⟨fun same => ?_, command_closed single⟩
  cases first : args.find? fun arg => arg.getLast? == some '\\' with
  | none =>
    intro arg member ends
    exact List.find?_eq_none.mp first arg member (beq_iff_eq.mpr ends)
  | some last =>
    obtain ⟨opens, closed, later, rfl, earlier⟩ := List.find?_eq_some_iff_append.mp first
    have ends : ∀ arg ∈ closed, arg.getLast? ≠ some '\\' := by
      intro arg member backslash
      have other := earlier arg member
      rw [backslash] at other
      exact absurd other (by decide)
    cases later with
    | nil => exact absurd same (command_last single ends (beq_iff_eq.mp opens))
    | cons next later => exact absurd same (command_earlier single ends (beq_iff_eq.mp opens))

/-! ## Addresses -/

/-- Text without a closing bracket is passed. -/
theorem beforeBracket_plain {before : Text} (plain : ']' ∉ before ∧ '\n' ∉ before) (rest : Text) :
    beforeBracket (before ++ rest) =
      (beforeBracket rest).map fun (group, after) => (before ++ group, after) := by
  induction before with
  | nil => cases found : beforeBracket rest <;> rw [List.nil_append, found] <;> rfl
  | cons c before ih =>
    have inner := ih ⟨fun inside => plain.1 (List.mem_cons_of_mem c inside),
      fun inside => plain.2 (List.mem_cons_of_mem c inside)⟩
    have bracket : c ≠ ']' := fun same => plain.1 (same ▸ List.mem_cons_self)
    have single : c ≠ '\n' := fun same => plain.2 (same ▸ List.mem_cons_self)
    rw [List.cons_append, beforeBracket, if_neg fun closes => bracket closes.1, if_neg single, inner,
      Option.map_map]
    rfl

/-- The first closing bracket with a space after it ends the address, which may have one itself. -/
theorem beforeBracket_line {address : Text} (single : '\n' ∉ address) (rest : Text) :
    ∃ clientInfo left, beforeBracket (address ++ ']' :: ' ' :: rest) = some (clientInfo, left ++ rest) ∧
      (clientInfo = address ∧ left = [] ∨
        ∃ after, address = clientInfo ++ ']' :: ' ' :: after ∧ left = after ++ [']', ' ']) := by
  induction address with
  | nil => exact ⟨[], [], rfl, .inl ⟨rfl, rfl⟩⟩
  | cons c address ih =>
    by_cases closes : c = ']' ∧ address.head? = some ' '
    · obtain ⟨rfl, space⟩ := closes
      obtain ⟨after, rfl⟩ : ∃ after, address = ' ' :: after := List.head?_eq_some_iff.mp space
      refine ⟨[], after ++ [']', ' '], ?_, .inr ⟨after, rfl, rfl⟩⟩
      rw [List.cons_append, beforeBracket, if_pos ⟨rfl, rfl⟩, List.append_assoc]
      rfl
    · obtain ⟨clientInfo, left, found, shape⟩ := ih fun inside => single (List.mem_cons_of_mem c inside)
      have passes : ¬(c = ']' ∧ (address ++ ']' :: ' ' :: rest).head? = some ' ') := by
        rintro ⟨bracket, space⟩
        cases address with
        | nil => exact head?_cons_ne (by decide) _ space
        | cons d address => exact closes ⟨bracket, space⟩
      refine ⟨c :: clientInfo, left, ?_, ?_⟩
      · have plain : c ≠ '\n' := fun same => single (same ▸ List.mem_cons_self)
        rw [List.cons_append, beforeBracket, if_neg passes, if_neg plain, found]
        rfl
      · rcases shape with ⟨rfl, rfl⟩ | ⟨after, rfl, rfl⟩
        · exact .inl ⟨rfl, rfl⟩
        · exact .inr ⟨after, rfl, rfl⟩

/-- The address of a TCP connection has no space. -/
theorem tcp_spaceless (host : Text) (port : Nat) (plain : ∀ c ∈ host, c ≠ ' ' ∧ c ≠ '\n') :
    ' ' ∉ (ClientAddress.tcp host port plain).text := by
  intro inside
  rcases List.mem_append.mp inside with early | late
  · exact (plain ' ' early).1 rfl
  · rcases List.mem_cons.mp late with colon | digit
    · exact absurd colon (by decide)
    · exact absurd (decimalText_range port ' ' digit) (by decide)

/-- The address of a TCP connection is quiet. -/
theorem tcp_quiet (host : Text) (port : Nat) (plain : ∀ c ∈ host, c ≠ ' ' ∧ c ≠ '\n') :
    (ClientAddress.tcp host port plain).Quiet := by
  refine ⟨fun inside => ?_, fun before after whole => ?_⟩
  · rcases List.mem_append.mp inside with early | late
    · exact (plain '\n' early).2 rfl
    · rcases List.mem_cons.mp late with colon | digit
      · exact absurd colon (by decide)
      · exact absurd (decimalText_range port '\n' digit) (by decide)
  · refine absurd ?_ (tcp_spaceless host port plain)
    rw [whole]
    exact List.mem_append_right _ (List.mem_cons_of_mem _ List.mem_cons_self)

/-- The address of a client is read, and nothing quoted is left of it. -/
theorem address_read {address : ClientAddress} (quiet : address.Quiet) (rest : Text) :
    ∃ clientInfo left fields,
      beforeBracket (address.text ++ ']' :: ' ' :: rest) = some (clientInfo, left ++ rest) ∧
        clientFields clientInfo = .ok fields ∧ '"' ∉ left ∧ '\n' ∉ left := by
  obtain ⟨single, quoteless⟩ := quiet
  cases address with
  | lua =>
    refine ⟨"lua".toList, [], _, ?_, rfl, List.not_mem_nil, List.not_mem_nil⟩
    show beforeBracket ("lua".toList ++ ']' :: ' ' :: rest) = _
    rw [beforeBracket_plain (by decide)]
    rfl
  | unix path =>
    have within : '\n' ∉ path := fun inside => single (List.mem_append_right _ inside)
    obtain ⟨clientInfo, left, found, shape⟩ := beforeBracket_line within rest
    refine ⟨"unix:".toList ++ clientInfo, left, ("unix".toList, clientInfo, "unix".toList), ?_, rfl, ?_⟩
    · show beforeBracket ("unix:".toList ++ path ++ ']' :: ' ' :: rest) = _
      rw [List.append_assoc, beforeBracket_plain (by decide), found]
      rfl
    · rcases shape with ⟨-, rfl⟩ | ⟨after, rfl, rfl⟩
      · exact ⟨List.not_mem_nil, List.not_mem_nil⟩
      · have noQuote : '"' ∉ after := quoteless ("unix:".toList ++ clientInfo) after (List.append_assoc _ _ _).symm
        have noLine : '\n' ∉ after := fun inside =>
          within (List.mem_append_right _ (List.mem_cons_of_mem _ (List.mem_cons_of_mem _ inside)))
        exact ⟨by simp [noQuote], by simp [noLine]⟩
  | tcp host port plain =>
    obtain ⟨clientInfo, left, found, shape⟩ := beforeBracket_line single rest
    rcases shape with ⟨rfl, rfl⟩ | ⟨after, whole, -⟩
    · have fields : ∃ fields, clientFields (ClientAddress.tcp host port plain).text = .ok fields := by
        have parts : rsplitColon (ClientAddress.tcp host port plain).text = some (host, decimalText port) :=
          rsplitColon_append (decimalText_no_colon port) host
        unfold clientFields
        rw [parts]
        split
        · exact ⟨_, rfl⟩
        · split <;> exact ⟨_, rfl⟩
      obtain ⟨fields, read⟩ := fields
      exact ⟨_, [], fields, found, read, List.not_mem_nil, List.not_mem_nil⟩
    · refine absurd ?_ (tcp_spaceless host port plain)
      rw [whole]
      exact List.mem_append_right _ (List.mem_cons_of_mem _ List.mem_cons_self)

/-- The number of a database is found. -/
theorem monitorMatch_digits (db : Nat) (rest : Text) :
    monitorMatch ('[' :: decimalText db ++ ' ' :: rest) = (beforeBracket rest).map fun (clientInfo, rest) =>
      (decimalText db, clientInfo, rest.takeWhile (· ≠ '\n')) := by
  have digits : ∀ c ∈ decimalText db, isDecimalDigit c = true := by
    intro c member
    have small := decimalText_range db c member
    rw [isDecimalDigit, toAsciiDigit, if_pos (by omega), decimalText_isDigit member]
  have cut : (decimalText db ++ ' ' :: rest).span isDecimalDigit = _ := span_append digits (by decide) rest
  obtain ⟨digit, more, shape⟩ := List.exists_cons_of_ne_nil (decimalText_nat_ne_nil db)
  rw [shape] at cut ⊢
  rw [List.cons_append, monitorMatch, cut]
  show (beforeBracket rest).bind _ = _
  cases beforeBracket rest <;> rfl

namespace MonitorLine

variable {pyFloat : Text → Except Exc F}

/-- No argument has a line feed. -/
theorem single (line : MonitorLine pyFloat) : ∀ arg ∈ line.args, '\n' ∉ arg :=
  fun arg member inside => absurd (line.printable arg member '\n' inside).1 (by decide)

/-- No command has a line feed. -/
theorem command_single (line : MonitorLine pyFloat) : '\n' ∉ line.command := by
  intro inside
  rcases mem_intercalate_singleton inside with space | ⟨text, member, there⟩
  · exact absurd space (by decide)
  · obtain ⟨arg, known, rfl⟩ := List.mem_map.mp member
    rw [quoted, List.cons_append, List.mem_cons, List.mem_append, List.mem_singleton] at there
    rcases there with quote | escaped | quote
    · exact absurd quote (by decide)
    · obtain ⟨c, among, this⟩ := List.mem_flatMap.mp escaped
      have other : c ≠ '\n' := fun same => line.single arg known (same ▸ among)
      split at this
      · rcases List.mem_cons.mp this with backslash | same
        · exact absurd backslash (by decide)
        · exact other (List.mem_singleton.mp same).symm
      · exact other (List.mem_singleton.mp this).symm
    · exact absurd quote (by decide)

/-- A line with a quiet address is parsed, and its command is what the quotes enclose. -/
theorem nextCommand_text {encoder : Encoder} {line : MonitorLine pyFloat} (quiet : line.address.Quiet)
    {response : Item} (read : encoder.forceDecode response = .ok line.text) :
    ∃ parsed, nextCommand encoder pyFloat response = .ok parsed ∧
      parsed.command = unescapeQuotes ([' '].intercalate (findQuoted line.command)) := by
  obtain ⟨clientInfo, left, fields, found, known, quoteless, single⟩ := address_read quiet line.command
  obtain ⟨time, number⟩ := line.number
  have layout : line.text = line.time ++ ' ' :: ('[' :: decimalText line.db ++ ' ' ::
      (line.address.text ++ ']' :: ' ' :: line.command)) := by
    simp only [text, List.append_assoc, List.cons_append]
  have parts := splitOnce_append line.spaceless ('[' :: decimalText line.db ++ ' ' ::
    (line.address.text ++ ']' :: ' ' :: line.command))
  have whole : (left ++ line.command).takeWhile (· ≠ '\n') = left ++ line.command := by
    rw [List.takeWhile_eq_self_iff]
    intro c inside
    rw [decide_eq_true_eq]
    rintro rfl
    exact (List.mem_append.mp inside).elim single line.command_single
  have groups : monitorMatch ('[' :: decimalText line.db ++ ' ' ::
      (line.address.text ++ ']' :: ' ' :: line.command)) =
      some (decimalText line.db, clientInfo, left ++ line.command) := by
    rw [monitorMatch_digits, found, Option.map_some]
    dsimp only
    rw [whole]
  refine ⟨⟨time, line.db, fields.1, fields.2.1, fields.2.2,
    unescapeQuotes ([' '].intercalate (findQuoted line.command))⟩, ?_, rfl⟩
  rw [nextCommand, read, layout]
  simp only [bind, Except.bind, parts, groups, known, number, intOfText_decimalText, findQuoted_skip quoteless]

/-- With a quiet address, a line is parsed back exactly if no argument ends with a backslash. -/
theorem parsedBack_iff {encoder : Encoder} {line : MonitorLine pyFloat} (quiet : line.address.Quiet) :
    line.ParsedBack encoder ↔ ∀ arg ∈ line.args, arg.getLast? ≠ some '\\' := by
  rw [← command_iff line.single]
  constructor
  · intro back
    obtain ⟨parsed, run, expected⟩ := back (.str line.text) rfl
    have read : encoder.forceDecode (.str line.text) = .ok line.text := rfl
    obtain ⟨same, again, command⟩ := nextCommand_text quiet read
    cases run.symm.trans again
    exact command.symm.trans expected
  · intro same response read
    obtain ⟨parsed, run, command⟩ := nextCommand_text quiet read
    exact ⟨parsed, run, command.trans same⟩

end MonitorLine

/-! ## Lines of a TCP client -/

/-- `float(text)` for digits around a point. -/
def timestampFloat (text : Text) : Except Exc ℚ :=
  match splitOnce '.' text with
  | [seconds, fraction] =>
    match intOfText seconds, intOfText fraction with
    | some whole, some part => .ok (Double.nearest (whole + part / 10 ^ fraction.length))
    | _, _ => .error { cls := .valueError }
  | _ => .error { cls := .valueError }

/-- Digits around a point are a number. -/
theorem timestampFloat_digits {text seconds fraction : Text} {whole part : Int}
    (parts : splitOnce '.' text = [seconds, fraction]) (first : intOfText seconds = some whole)
    (second : intOfText fraction = some part) : ∃ value, timestampFloat text = .ok value := by
  unfold timestampFloat
  rw [parts]
  dsimp only
  rw [first, second]
  exact ⟨_, rfl⟩

/-- A line for a command of a client on the same host. -/
def localLine (args : List Text)
    (printable : (args.all fun arg => arg.all fun c => 32 ≤ c.toNat && c.toNat ≤ 126) = true) :
    MonitorLine timestampFloat where
  time := "1339518083.107412".toList
  number := by
    have first : intOfText "1339518083".toList = some 1339518083 := by decide +kernel
    have second : intOfText "107412".toList = some 107412 := by decide +kernel
    exact timestampFloat_digits rfl first second
  spaceless := by decide
  db := 0
  address := .tcp "127.0.0.1".toList 60866 fun c member => by
    have plain : ("127.0.0.1".toList.all fun c => c ≠ ' ' ∧ c ≠ '\n') = true := by decide
    exact of_decide_eq_true (List.all_eq_true.mp plain c member)
  args
  printable arg known c member := by
    have range := List.all_eq_true.mp (List.all_eq_true.mp printable arg known) c member
    rwa [Bool.and_eq_true, decide_eq_true_iff, decide_eq_true_iff] at range

/-- Double quotes and inner backslashes are parsed back. -/
theorem parsedBack_quotes :
    (localLine ["set".toList, "a\\b".toList, "say \"hi\"".toList] (by decide)).ParsedBack .raw :=
  (MonitorLine.parsedBack_iff (tcp_quiet _ _ _)).mpr (by decide)

/-- The line `"set" "path" "C:\\"` is read as `set path`: the last argument is lost. -/
theorem backslash_at_end :
    let line := localLine ["set".toList, "path".toList, "C:\\".toList] (by decide)
    (∃ parsed, nextCommand .raw timestampFloat (.str line.text) = .ok parsed ∧
      parsed.command = "set path".toList) ∧ ¬line.ParsedBack .raw := by
  intro line
  have read : Encoder.raw.forceDecode (.str line.text) = .ok line.text := rfl
  obtain ⟨parsed, run, command⟩ := MonitorLine.nextCommand_text (tcp_quiet _ _ _) read
  have pieces : findQuoted line.command = ["set".toList, "path".toList] := by
    have single : ∀ arg ∈ ["set".toList, "path".toList], '\n' ∉ arg := by decide
    have ends : ∀ arg ∈ ["set".toList, "path".toList], arg.getLast? ≠ some '\\' := by decide
    have found := findQuoted_append single ends ["C:\\".toList]
    rw [List.map_singleton, List.intercalate_singleton, findQuoted_last (by decide) (by decide)] at found
    exact found
  have lost : parsed.command = "set path".toList := by
    rw [command, pieces]
    rfl
  refine ⟨⟨parsed, run, lost⟩, fun back => ?_⟩
  obtain ⟨same, again, expected⟩ := back (.str line.text) rfl
  cases run.symm.trans again
  exact absurd (lost.symm.trans expected) (by decide)

end Monitor

end RedisPy

import RedisPy.Python.Text

/-!
# The query grammar

A query is read in two steps, both one item at a time: characters into tokens, and tokens into what the query
says of a document. A modifier (`-`, `~` or `@field:`) belongs to the one operand after it, which is a term, a
bracketed value, a group in parentheses, or such an operand with modifiers of its own.
-/

namespace RedisPy

namespace QueryString

/-! ## Tokens -/

inductive Token where
  | word (text : Text)
  | value (text : Text)
  | field (name : Text)
  | opening
  | closing
  | bar
  | negation
  | option
deriving DecidableEq

/-- A character that belongs to a term without a backslash before it. -/
def isTermChar (c : Char) : Bool :=
  !(['\\', '(', ')', '|', '-', '~', '@', ':', '[', ']', '{', '}', '"', ' ', '\t', '\n', '\r'].contains c)

/-- What is being read: terms, a field name, or a value up to its closing bracket. -/
inductive LexMode where
  | term
  | name
  | bracket (close : Char)
deriving DecidableEq

/-- Whether a character belongs to what is being read. -/
def LexMode.plain : LexMode → Char → Bool
  | term, c => isTermChar c
  | name, c => isTermChar c
  | bracket close, c => c != close && c != '\\'

/-- The state of the lexer: the characters held so far, and whether a backslash came just before. -/
structure LexState where
  mode : LexMode
  held : Text
  escaped : Bool
deriving DecidableEq

namespace LexState

/-- Between two tokens. -/
def start : LexState := { mode := .term, held := [], escaped := false }

/-- The term that was held, if there is one. -/
def words (held : Text) : List Token := if held = [] then [] else [.word held]

/-- A character between two tokens that belongs to no term. -/
def punctuation (c : Char) : Option (LexState × List Token) :=
  match c with
  | ' ' | '\t' | '\n' | '\r' => some (start, [])
  | '(' => some (start, [.opening])
  | ')' => some (start, [.closing])
  | '|' => some (start, [.bar])
  | '-' => some (start, [.negation])
  | '~' => some (start, [.option])
  | '@' => some ({ mode := .name, held := [], escaped := false }, [])
  | '[' => some ({ mode := .bracket ']', held := ['['], escaped := false }, [])
  | '{' => some ({ mode := .bracket '}', held := ['{'], escaped := false }, [])
  | _ => none

/-- A character that does not belong to what is being read. -/
def stop (state : LexState) (c : Char) : Option (LexState × List Token) :=
  match state.mode with
  | .term => (punctuation c).map fun (next, tokens) => (next, words state.held ++ tokens)
  | .name => if c = ':' then some (start, [.field state.held]) else none
  | .bracket _ => some (start, [.value (state.held ++ [c])])

/-- The next character. -/
def step (state : LexState) (c : Char) : Option (LexState × List Token) :=
  if state.escaped then some ({ state with held := state.held ++ [c], escaped := false }, [])
  else if c = '\\' then some ({ state with held := state.held ++ [c], escaped := true }, [])
  else if state.mode.plain c then some ({ state with held := state.held ++ [c] }, [])
  else state.stop c

end LexState

/-- The tokens of a text. -/
def lexFrom : LexState → Text → Option (List Token)
  | state, [] => if state.mode = .term ∧ !state.escaped then some (LexState.words state.held) else none
  | state, c :: rest => do
    let (state, tokens) ← state.step c
    (lexFrom state rest).map (tokens ++ ·)

/-! ## Clauses -/

/-- A term or a value, and the field that it is looked up in; `none` stands for any field. -/
abbrev Atom := Option Text × Text

/-- A document: what it matches. -/
abbrev Document := Atom → Bool

/-- What a clause says of a document, read for a field. -/
abbrev Clause := Option Text → Bool

/-- What stands before an operand. -/
inductive Modifier where
  | negated
  | optional
  | within (name : Text)
deriving DecidableEq

/-- Whether a modifier is the name of a field. -/
def Modifier.names : Modifier → Bool
  | negated => false
  | optional => false
  | within _ => true

/-- A clause with a modifier. -/
def Modifier.apply : Modifier → Clause → Clause
  | negated, clause => fun field => !clause field
  | optional, _ => fun _ => true
  | within name, clause => fun _ => clause (some name)

/-- A term or a value by itself. -/
def Document.term (document : Document) (text : Text) : Clause := fun field => document (field, text)

/-- A group: some alternative, of which every clause holds. -/
def group (alternatives : List (List Clause)) : Clause :=
  fun field => alternatives.any fun clauses => clauses.all fun clause => clause field

/-- An open group: the alternatives that ended, the clauses of the one being read, and the modifiers that wait
for their operand. -/
structure Frame where
  alternatives : List (List Clause)
  clauses : List Clause
  modifiers : List Modifier

namespace Frame

/-- A group that was just opened. -/
def empty : Frame := { alternatives := [], clauses := [], modifiers := [] }

/-- One more modifier before the next operand. -/
def await (frame : Frame) (modifier : Modifier) : Frame :=
  { frame with modifiers := frame.modifiers ++ [modifier] }

/-- An operand takes the modifiers that waited for it. -/
def deliver (frame : Frame) (clause : Clause) : Frame :=
  { frame with clauses := frame.clauses ++ [frame.modifiers.foldr Modifier.apply clause], modifiers := [] }

/-- The alternatives, when the one being read ends; it has at least one clause. -/
def ended (frame : Frame) : Option (List (List Clause)) :=
  if frame.modifiers.isEmpty && !frame.clauses.isEmpty then some (frame.alternatives ++ [frame.clauses]) else none

/-- Whether the operand stands directly after a field name. -/
def inField (frame : Frame) : Bool := frame.modifiers.getLast?.any Modifier.names

end Frame

/-- The innermost open group, and those around it. -/
abbrev ParseState := Frame × List Frame

/-- The next token. -/
def parseStep (document : Document) (state : ParseState) (token : Token) : Option ParseState :=
  match token, state with
  | .word text, (frame, outer) => some (frame.deliver (document.term text), outer)
  | .value text, (frame, outer) =>
    if frame.inField then some (frame.deliver (document.term text), outer) else none
  | .field name, (frame, outer) => some (frame.await (.within name), outer)
  | .negation, (frame, outer) => some (frame.await .negated, outer)
  | .option, (frame, outer) => some (frame.await .optional, outer)
  | .opening, (frame, outer) => some (.empty, frame :: outer)
  | .closing, (frame, around :: outer) =>
    frame.ended.map fun alternatives => (around.deliver (group alternatives), outer)
  | .closing, (_, []) => none
  | .bar, (frame, outer) =>
    frame.ended.map fun alternatives => ({ alternatives, clauses := [], modifiers := [] }, outer)

/-- What the whole query says of a document, when every group is closed. -/
def finish : ParseState → Option Bool
  | (frame, []) => frame.ended.map fun alternatives => group alternatives none
  | (_, _ :: _) => none

/-- What a query says of a document; `none` if the text is no query. -/
def evaluate (document : Document) (text : Text) : Option Bool := do
  let tokens ← lexFrom .start text
  let state ← tokens.foldlM (parseStep document) (.empty, [])
  finish state

end QueryString

end RedisPy

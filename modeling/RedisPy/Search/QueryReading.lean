import RedisPy.Search.QueryGrammar
import RedisPy.Search.QueryString

/-!
# What a rendered query reads as

Every text that a tree renders is read back to one operand, or not at all, whatever stands before and after it.
A node with a prefix and several parameters is read with the prefix on the first of them.
-/

namespace RedisPy

namespace QueryString

/-! ## Texts that the lexer keeps whole -/

/-- A text whose characters are plain, or have a backslash before them; the flag says that one came already. -/
def isRun (plain : Char → Bool) : Bool → Text → Bool
  | escaped, [] => !escaped
  | escaped, c :: rest =>
    if escaped then isRun plain false rest
    else if c = '\\' then isRun plain true rest
    else plain c && isRun plain false rest

/-- An atomic term, which can also be the name of a field. -/
def isTerm (text : Text) : Bool := text ≠ [] && isRun isTermChar false text

/-- A value that is a term, or whose inner text does not close its bracket. -/
def FieldValue.isAtomic (value : FieldValue) : Bool :=
  match value with
  | scalar v => isTerm v
  | range .. => isRun (LexMode.bracket ']').plain false value.inner
  | tag _ => isRun (LexMode.bracket '}').plain false value.inner
  | geo .. => isRun (LexMode.bracket ']').plain false value.inner

/-- A run is held as a whole. -/
theorem lexFrom_run {mode : LexMode} {escaped : Bool} {text : Text} (run : isRun mode.plain escaped text = true)
    (held rest : Text) :
    lexFrom ⟨mode, held, escaped⟩ (text ++ rest) = lexFrom ⟨mode, held ++ text, false⟩ rest := by
  induction text generalizing escaped held with
  | nil =>
    have closed : escaped = false := by simpa [isRun] using run
    rw [closed, List.nil_append, List.append_nil]
  | cons c text later =>
    have next (flag : Bool) (left : isRun mode.plain flag text = true)
        (stepped : LexState.step ⟨mode, held, escaped⟩ c = some (⟨mode, held ++ [c], flag⟩, [])) :
        lexFrom ⟨mode, held, escaped⟩ (c :: text ++ rest) = lexFrom ⟨mode, held ++ c :: text, false⟩ rest := by
      have whole : held ++ c :: text = held ++ [c] ++ text := by rw [List.append_assoc, List.singleton_append]
      rw [List.cons_append, lexFrom, stepped, whole, ← later left (held ++ [c])]
      exact Option.map_id'
    rw [isRun] at run
    cases escaped with
    | true => exact next false run rfl
    | false =>
      rw [if_neg Bool.false_ne_true] at run
      by_cases backslash : c = '\\'
      · rw [if_pos backslash] at run
        refine next true run ?_
        rw [LexState.step, if_neg Bool.false_ne_true, if_pos backslash]
      · rw [if_neg backslash, Bool.and_eq_true] at run
        refine next false run.2 ?_
        rw [LexState.step, if_neg Bool.false_ne_true, if_neg backslash, if_pos run.1]

/-- What follows a parameter ends a term. -/
def Boundary (rest : Text) : Prop := ∀ c ∈ rest.head?, c = ' ' ∨ c = '|' ∨ c = ')'

/-- A term that was held is a token of its own when it ends. -/
theorem lexFrom_boundary {rest : Text} (boundary : Boundary rest) (held : Text) :
    lexFrom ⟨.term, held, false⟩ rest = (lexFrom .start rest).map (LexState.words held ++ ·) := by
  have next (c : Char) (rest : Text) (tokens : List Token)
      (stepped : ∀ held, LexState.step ⟨.term, held, false⟩ c = some (.start, LexState.words held ++ tokens)) :
      lexFrom ⟨.term, held, false⟩ (c :: rest) = (lexFrom .start (c :: rest)).map (LexState.words held ++ ·) := by
    have first : lexFrom ⟨.term, held, false⟩ (c :: rest) =
        (lexFrom .start rest).map (LexState.words held ++ tokens ++ ·) := by
      rw [lexFrom, stepped]
      rfl
    have second : lexFrom .start (c :: rest) = (lexFrom .start rest).map (tokens ++ ·) := by
      rw [LexState.start, lexFrom, stepped]
      rfl
    rw [first, second, Option.map_map]
    congr 1
    funext later
    exact List.append_assoc ..
  cases rest with
  | nil => exact congrArg some (List.append_nil _).symm
  | cons c rest =>
    rcases boundary c rfl with rfl | rfl | rfl
    · exact next _ rest [] fun _ => rfl
    · exact next _ rest [.bar] fun _ => rfl
    · exact next _ rest [.closing] fun _ => rfl

/-! ## Reading on -/

section Reading

variable (document : Document)

/-- The text is read on, from between two tokens. -/
def readFrom (text : Text) (state : ParseState) : Option ParseState := do
  let tokens ← lexFrom .start text
  tokens.foldlM (parseStep document) state

/-- A token is read before the rest. -/
theorem readFrom_token {text rest : Text} {token : Token}
    (lexed : lexFrom .start text = (lexFrom .start rest).map (token :: ·)) (state : ParseState) :
    readFrom document text state = (parseStep document state token).bind (readFrom document rest) := by
  rw [readFrom, lexed]
  cases later : lexFrom .start rest with
  | none =>
    cases parseStep document state token with
    | none => rfl
    | some next =>
      change none = readFrom document rest next
      rw [readFrom, later]
      rfl
  | some tokens =>
    change (token :: tokens).foldlM (parseStep document) state = _
    rw [List.foldlM_cons]
    cases parseStep document state token with
    | none => rfl
    | some next =>
      change _ = readFrom document rest next
      rw [readFrom, later]
      rfl

/-- A blank is passed over. -/
theorem readFrom_space (rest : Text) (state : ParseState) :
    readFrom document (' ' :: rest) state = readFrom document rest state := by
  have lexed : lexFrom .start (' ' :: rest) = lexFrom .start rest := by
    change (lexFrom .start rest).map ([] ++ ·) = _
    exact Option.map_id'
  rw [readFrom, lexed, readFrom]

/-- A character that is a token. -/
theorem readFrom_punctuation {c : Char} {token : Token}
    (stepped : LexState.start.step c = some (.start, [token])) (rest : Text) (state : ParseState) :
    readFrom document (c :: rest) state = (parseStep document state token).bind (readFrom document rest) := by
  refine readFrom_token document ?_ state
  rw [lexFrom, stepped]
  rfl

/-- A term is an operand. -/
theorem readFrom_term {text rest : Text} (term : isTerm text = true) (boundary : Boundary rest) (frame : Frame)
    (outer : List Frame) :
    readFrom document (text ++ rest) (frame, outer) =
      readFrom document rest (frame.deliver (document.term text), outer) := by
  rw [isTerm, Bool.and_eq_true, decide_eq_true_eq] at term
  have run : isRun LexMode.term.plain false text = true := term.2
  have lexed : lexFrom .start (text ++ rest) = (lexFrom .start rest).map (Token.word text :: ·) := by
    rw [LexState.start, lexFrom_run run, List.nil_append, lexFrom_boundary boundary, LexState.words, if_neg term.1]
    rfl
  rw [readFrom_token document lexed]
  rfl

/-- The name of a field waits for its operand. -/
theorem readFrom_field {name : Text} (term : isTerm name = true) (rest : Text) (frame : Frame)
    (outer : List Frame) :
    readFrom document ('@' :: name ++ ':' :: rest) (frame, outer) =
      readFrom document rest (frame.await (.within name), outer) := by
  rw [isTerm, Bool.and_eq_true, decide_eq_true_eq] at term
  have run : isRun LexMode.name.plain false name = true := term.2
  have lexed : lexFrom .start ('@' :: name ++ ':' :: rest) =
      (lexFrom .start rest).map (Token.field name :: ·) := by
    have opened : lexFrom .start ('@' :: name ++ ':' :: rest) =
        (lexFrom ⟨.name, [], false⟩ (name ++ ':' :: rest)).map ([] ++ ·) := rfl
    rw [opened, lexFrom_run run, List.nil_append]
    exact Option.map_id'
  rw [readFrom_token document lexed]
  rfl

/-- A text in brackets is one token. -/
theorem readFrom_bracket {c close : Char} {inner : Text}
    (stepped : LexState.start.step c = some (⟨.bracket close, [c], false⟩, []))
    (run : isRun (LexMode.bracket close).plain false inner = true)
    (ends : close ≠ '\\') (rest : Text) (frame : Frame) (outer : List Frame) :
    readFrom document (c :: inner ++ [close] ++ rest) (frame, outer) =
      if frame.inField then
        readFrom document rest (frame.deliver (document.term (c :: inner ++ [close])), outer)
      else none := by
  have closed : LexState.step ⟨.bracket close, [c] ++ inner, false⟩ close =
      some (.start, [.value (c :: inner ++ [close])]) := by
    have special : (LexMode.bracket close).plain close = false := by
      rw [LexMode.plain, bne_self_eq_false, Bool.false_and]
    rw [LexState.step, if_neg Bool.false_ne_true, if_neg ends, if_neg (by rw [special]; exact Bool.false_ne_true)]
    rfl
  have lexed : lexFrom .start (c :: inner ++ [close] ++ rest) =
      (lexFrom .start rest).map (Token.value (c :: inner ++ [close]) :: ·) := by
    rw [List.append_assoc, List.cons_append, lexFrom, stepped]
    change (lexFrom ⟨.bracket close, [c], false⟩ (inner ++ ([close] ++ rest))).map ([] ++ ·) = _
    rw [lexFrom_run run, List.singleton_append (x := close), lexFrom, closed]
    exact Option.map_id'
  rw [readFrom_token document lexed, parseStep]
  split <;> rfl

end Reading

/-! ## Operands -/

/-- The modifier that a node puts before its first parameter. -/
def NodeKind.mark : NodeKind → Option Modifier
  | intersect => none
  | union => none
  | disjunct => some .negated
  | disjunctUnion => some .negated
  | optional => some .optional

/-- The text of that modifier. -/
def NodeKind.markText : NodeKind → Text
  | intersect => []
  | union => []
  | disjunct => ['-']
  | disjunctUnion => ['-']
  | optional => ['~']

/-- The alternatives that clauses are read as when they are joined. -/
def NodeKind.alternatives (kind : NodeKind) (clauses : List Clause) : List (List Clause) :=
  match kind with
  | union => clauses.map fun clause => [clause]
  | disjunctUnion => clauses.map fun clause => [clause]
  | _ => [clauses]

/-- A parameter of a node: its text, whether that can be read, and what it is read as. -/
structure Part where
  text : Text
  readable : Bool
  clause : Clause

/-- A parameter with the mark of a node before it. -/
def NodeKind.marked (kind : NodeKind) (part : Part) : Part where
  text := kind.markText ++ part.text
  readable := part.readable
  clause := kind.mark.elim part.clause fun modifier => modifier.apply part.clause

/-- The parameters of a node, with its mark before the first. -/
def NodeKind.markFirst (kind : NodeKind) : List Part → List Part
  | [] => []
  | part :: parts => kind.marked part :: parts

/-- The parameters in parentheses. -/
def NodeKind.grouped (kind : NodeKind) (parts : List Part) : Part where
  text := '(' :: kind.joinStr.intercalate (parts.map Part.text) ++ [')']
  readable := parts.all Part.readable
  clause := group (kind.alternatives (parts.map Part.clause))

section Operands

variable (document : Document)

/-- A text is read as one operand, or not at all, before whatever follows a parameter. -/
def Part.Reads (part : Part) : Prop :=
  ∀ frame outer rest, frame.inField = false → Boundary rest →
    readFrom document (part.text ++ rest) (frame, outer) =
      if part.readable then readFrom document rest (frame.deliver part.clause, outer) else none

/-- A text is read as one operand, or not at all, after a field name as well and before anything. -/
def Part.ReadsAnywhere (part : Part) : Prop :=
  ∀ frame outer rest,
    readFrom document (part.text ++ rest) (frame, outer) =
      if part.readable then readFrom document rest (frame.deliver part.clause, outer) else none

variable {document}

/-- What follows the first of the parameters that are joined. -/
theorem boundary_flatMap {sep : Char} (known : sep = ' ' ∨ sep = '|') (texts : List Text) (rest : Text) :
    Boundary (texts.flatMap (sep :: ·) ++ ')' :: rest) := by
  cases texts with
  | nil =>
    intro c first
    cases first
    exact .inr (.inr rfl)
  | cons text texts =>
    intro c first
    cases first
    exact known.elim .inl fun bar => .inr (.inl bar)

/-- An alternative ends when it has a clause and no modifier waits. -/
theorem Frame.ended_eq {frame : Frame} (free : frame.modifiers = []) (filled : frame.clauses ≠ []) :
    frame.ended = some (frame.alternatives ++ [frame.clauses]) := by
  rw [Frame.ended, free, List.isEmpty_nil, Bool.true_and, if_pos]
  rw [Bool.not_eq_true', List.isEmpty_eq_false_iff]
  exact filled

/-- Without modifiers a clause is added as it is. -/
theorem Frame.deliver_eq {frame : Frame} (free : frame.modifiers = []) (clause : Clause) :
    frame.deliver clause =
      { alternatives := frame.alternatives, clauses := frame.clauses ++ [clause], modifiers := [] } := by
  rw [Frame.deliver, free]
  rfl

/-- A group is delivered to the one around it when its parenthesis closes. -/
theorem readFrom_closing {frame : Frame} (free : frame.modifiers = []) (filled : frame.clauses ≠ [])
    (around : Frame) (outer : List Frame) (rest : Text) :
    readFrom document (')' :: rest) (frame, around :: outer) =
      readFrom document rest (around.deliver (group (frame.alternatives ++ [frame.clauses])), outer) := by
  have closed : readFrom document (')' :: rest) (frame, around :: outer) =
      (parseStep document (frame, around :: outer) .closing).bind (readFrom document rest) :=
    readFrom_punctuation document rfl rest _
  rw [closed, parseStep, Frame.ended_eq free filled]
  rfl

/-- Clauses that are joined by blanks are read into one alternative. -/
theorem readFrom_blanks {parts : List Part} (reads : ∀ part ∈ parts, part.Reads document) (frame : Frame)
    (free : frame.modifiers = []) (filled : frame.clauses ≠ []) (around : Frame) (outer : List Frame)
    (rest : Text) :
    readFrom document ((parts.map Part.text).flatMap (' ' :: ·) ++ ')' :: rest) (frame, around :: outer) =
      if parts.all Part.readable then
        readFrom document rest
          (around.deliver (group (frame.alternatives ++ [frame.clauses ++ parts.map Part.clause])), outer)
      else none := by
  induction parts generalizing frame with
  | nil =>
    rw [List.map_nil, List.flatMap_nil, List.nil_append, readFrom_closing free filled, List.map_nil, List.append_nil]
    rfl
  | cons part parts later =>
    have follows := boundary_flatMap (.inl rfl) (parts.map Part.text) rest
    have outside : frame.inField = false := by rw [Frame.inField, free]; rfl
    have here := reads part List.mem_cons_self frame (around :: outer) _ outside follows
    have start : (((part :: parts).map Part.text).flatMap (' ' :: ·) ++ ')' :: rest) =
        ' ' :: (part.text ++ ((parts.map Part.text).flatMap (' ' :: ·) ++ ')' :: rest)) := by
      rw [List.map_cons, List.flatMap_cons, List.cons_append, List.cons_append, List.append_assoc]
    rw [start, readFrom_space, here, List.all_cons, Frame.deliver_eq free]
    cases part.readable with
    | false => rfl
    | true =>
      have left := later (fun other member => reads other (List.mem_cons_of_mem _ member))
        ⟨frame.alternatives, frame.clauses ++ [part.clause], []⟩ rfl (List.concat_ne_nil _ _)
      rw [if_pos rfl, left, Bool.true_and, List.map_cons, List.append_assoc, List.singleton_append]

/-- Clauses that are joined by bars are read into alternatives. -/
theorem readFrom_bars {parts : List Part} (reads : ∀ part ∈ parts, part.Reads document) (frame : Frame)
    (free : frame.modifiers = []) (filled : frame.clauses ≠ []) (around : Frame) (outer : List Frame)
    (rest : Text) :
    readFrom document ((parts.map Part.text).flatMap ('|' :: ·) ++ ')' :: rest) (frame, around :: outer) =
      if parts.all Part.readable then
        readFrom document rest
          (around.deliver (group (frame.alternatives ++ [frame.clauses] ++
            (parts.map Part.clause).map fun clause => [clause])), outer)
      else none := by
  induction parts generalizing frame with
  | nil =>
    rw [List.map_nil, List.flatMap_nil, List.nil_append, readFrom_closing free filled, List.map_nil, List.map_nil,
      List.append_nil]
    rfl
  | cons part parts later =>
    have follows := boundary_flatMap (.inr rfl) (parts.map Part.text) rest
    have here := reads part List.mem_cons_self ⟨frame.alternatives ++ [frame.clauses], [], []⟩ (around :: outer) _
      rfl follows
    have start : (((part :: parts).map Part.text).flatMap ('|' :: ·) ++ ')' :: rest) =
        '|' :: (part.text ++ ((parts.map Part.text).flatMap ('|' :: ·) ++ ')' :: rest)) := by
      rw [List.map_cons, List.flatMap_cons, List.cons_append, List.cons_append, List.append_assoc]
    have split (text : Text) : readFrom document ('|' :: text) (frame, around :: outer) =
        readFrom document text (⟨frame.alternatives ++ [frame.clauses], [], []⟩, around :: outer) := by
      have barred : readFrom document ('|' :: text) (frame, around :: outer) =
          (parseStep document (frame, around :: outer) .bar).bind (readFrom document text) :=
        readFrom_punctuation document rfl text _
      rw [barred, parseStep, Frame.ended_eq free filled]
      rfl
    rw [start, split, here, List.all_cons, Frame.deliver_eq rfl]
    cases part.readable with
    | false => rfl
    | true =>
      have left := later (fun other member => reads other (List.mem_cons_of_mem _ member))
        ⟨frame.alternatives ++ [frame.clauses], [] ++ [part.clause], []⟩ rfl (List.concat_ne_nil _ _)
      rw [if_pos rfl, left, Bool.true_and, List.map_cons, List.map_cons, List.append_assoc _ [[] ++ [part.clause]]]
      rfl

/-- Two ways to join: by blanks, or by bars. -/
theorem NodeKind.joined_cases (kind : NodeKind) :
    (kind.joinStr = [' '] ∧ ∀ clauses, kind.alternatives clauses = [clauses]) ∨
      (kind.joinStr = ['|'] ∧ ∀ clauses, kind.alternatives clauses = clauses.map fun clause => [clause]) := by
  cases kind with
  | intersect => exact .inl ⟨rfl, fun _ => rfl⟩
  | union => exact .inr ⟨rfl, fun _ => rfl⟩
  | disjunct => exact .inl ⟨rfl, fun _ => rfl⟩
  | disjunctUnion => exact .inr ⟨rfl, fun _ => rfl⟩
  | optional => exact .inl ⟨rfl, fun _ => rfl⟩

/-- Parameters in parentheses are one operand. -/
theorem readsAnywhere_grouped (kind : NodeKind) {part : Part} {parts : List Part}
    (reads : ∀ other ∈ part :: parts, other.Reads document) :
    (kind.grouped (part :: parts)).ReadsAnywhere document := by
  intro frame outer rest
  have opening : LexState.start.step '(' = some (.start, [.opening]) := rfl
  have opened (text : Text) : readFrom document ('(' :: text) (frame, outer) =
      readFrom document text (.empty, frame :: outer) := readFrom_punctuation document opening text _
  have others : ∀ other ∈ parts, other.Reads document := fun other member =>
    reads other (List.mem_cons_of_mem _ member)
  have here (sep : Char) (known : sep = ' ' ∨ sep = '|') :=
    reads part List.mem_cons_self .empty (frame :: outer) _ rfl (boundary_flatMap known (parts.map Part.text) rest)
  have whole (sep : Char) (joined : kind.joinStr = [sep]) : (kind.grouped (part :: parts)).text ++ rest =
      '(' :: (part.text ++ ((parts.map Part.text).flatMap (sep :: ·) ++ ')' :: rest)) := by
    rw [NodeKind.grouped, joined, List.map_cons, intercalate_cons_eq_flatMap, List.append_assoc, List.cons_append,
      List.append_assoc, List.singleton_append]
  rcases kind.joined_cases with ⟨joined, alternatives⟩ | ⟨joined, alternatives⟩
  · rw [whole ' ' joined, opened, here ' ' (.inl rfl), NodeKind.grouped, alternatives, List.all_cons]
    cases part.readable with
    | false => rfl
    | true =>
      exact readFrom_blanks others (Frame.empty.deliver part.clause) rfl (List.concat_ne_nil _ _) frame outer rest
  · rw [whole '|' joined, opened, here '|' (.inr rfl), NodeKind.grouped, alternatives, List.all_cons]
    cases part.readable with
    | false => rfl
    | true =>
      exact readFrom_bars others (Frame.empty.deliver part.clause) rfl (List.concat_ne_nil _ _) frame outer rest

/-- An operand takes a modifier that was put before it. -/
theorem Frame.deliver_await (frame : Frame) (modifier : Modifier) (clause : Clause) :
    (frame.await modifier).deliver clause = frame.deliver (modifier.apply clause) := by
  rw [Frame.deliver, Frame.deliver, Frame.await, List.foldr_append]
  rfl

/-- The mark of a node is read into the modifiers of its first parameter. -/
theorem reads_marked (kind : NodeKind) {part : Part} (reads : part.Reads document) :
    (kind.marked part).Reads document := by
  have modified (c : Char) (modifier : Modifier) (token : Token)
      (stepped : LexState.start.step c = some (.start, [token]))
      (awaits : ∀ frame outer, parseStep document (frame, outer) token = some (frame.await modifier, outer))
      (unnamed : modifier.names = false) :
      (Part.mk (c :: part.text) part.readable (modifier.apply part.clause)).Reads document := by
    intro frame outer rest _ boundary
    have outside : (frame.await modifier).inField = false := by
      rw [Frame.inField, Frame.await, List.getLast?_concat]
      exact unnamed
    rw [List.cons_append, readFrom_punctuation document stepped, awaits, Option.bind_some,
      reads _ outer rest outside boundary, frame.deliver_await]
  cases kind with
  | intersect => exact reads
  | union => exact reads
  | disjunct => exact modified '-' .negated .negation rfl (fun _ _ => rfl) rfl
  | disjunctUnion => exact modified '-' .negated .negation rfl (fun _ _ => rfl) rfl
  | optional => exact modified '~' .optional .option rfl (fun _ _ => rfl) rfl

/-- The rendering of a node, from those of its parameters. -/
def NodeKind.nodePart (kind : NodeKind) (parts : List Part) : Part where
  text := kind.toText (parts.map Part.text) none
  readable := parts.all Part.readable
  clause := group (kind.alternatives ((kind.markFirst parts).map Part.clause))

/-- A clause alone is a group. -/
theorem group_alternatives_singleton (kind : NodeKind) (clause : Clause) :
    group (kind.alternatives [clause]) = clause := by
  funext field
  have alone : group [[clause]] field = clause field := by
    rw [group, List.any_cons, List.any_nil, List.all_cons, List.all_nil, Bool.or_false, Bool.and_true]
  rcases kind.joined_cases with ⟨_, alternatives⟩ | ⟨_, alternatives⟩
  · rw [alternatives, alone]
  · rw [alternatives, List.map_singleton, alone]

/-- A node with one parameter puts its mark before it. -/
theorem nodePart_singleton (kind : NodeKind) (part : Part) : kind.nodePart [part] = kind.marked part := by
  have alone (kind : NodeKind) (withParens : Option Bool)
      (bare : NodeKind.shouldUseParen [part.text] withParens = false) :
      kind.nodeText [part.text] withParens = part.text := by
    rw [NodeKind.nodeText, bare, List.intercalate_singleton]
    exact List.append_nil _
  have text : kind.toText [part.text] none = kind.markText ++ part.text := by
    cases kind with
    | intersect => exact alone _ none rfl
    | union => exact alone _ none rfl
    | disjunct => exact congrArg ('-' :: ·) (alone _ (some false) rfl)
    | disjunctUnion => exact congrArg ('-' :: ·) (alone _ (some false) rfl)
    | optional => exact congrArg ('~' :: ·) (alone _ (some false) rfl)
  have clause : group (kind.alternatives ((kind.markFirst [part]).map Part.clause)) = (kind.marked part).clause := by
    rw [NodeKind.markFirst, List.map_singleton, group_alternatives_singleton]
  rw [NodeKind.nodePart, List.map_singleton, text, clause, List.all_cons, List.all_nil, Bool.and_true]
  rfl

/-- A node with several parameters puts its mark after the parenthesis, before the first parameter. -/
theorem nodePart_several (kind : NodeKind) (part next : Part) (parts : List Part) :
    kind.nodePart (part :: next :: parts) = kind.grouped (kind.markFirst (part :: next :: parts)) := by
  have first (sep c : Char) (text : Text) (texts : List Text) :
      [sep].intercalate ((c :: text) :: texts) = c :: [sep].intercalate (text :: texts) := by
    rw [intercalate_cons_eq_flatMap, intercalate_cons_eq_flatMap, List.cons_append]
  have text : kind.toText ((part :: next :: parts).map Part.text) none =
      (kind.grouped (kind.markFirst (part :: next :: parts))).text := by
    have several : NodeKind.shouldUseParen ((part :: next :: parts).map Part.text) none = true := by
      rw [NodeKind.shouldUseParen, Option.getD_none, decide_eq_true_eq, List.length_map]
      exact Nat.succ_lt_succ (Nat.succ_pos _)
    have bare (kind : NodeKind) : kind.nodeText ((part :: next :: parts).map Part.text) (some false) =
        kind.joinStr.intercalate ((part :: next :: parts).map Part.text) := List.append_nil _
    cases kind with
    | intersect =>
      rw [NodeKind.toText, NodeKind.nodeText, several]
      rfl
    | union =>
      rw [NodeKind.toText, NodeKind.nodeText, several]
      rfl
    | disjunct =>
      rw [NodeKind.toText, NodeKind.prefixedText, several, if_pos rfl, bare]
      exact congrArg ('(' :: · ++ [')']) (first ' ' '-' part.text _).symm
    | disjunctUnion =>
      rw [NodeKind.toText, NodeKind.prefixedText, several, if_pos rfl, bare]
      exact congrArg ('(' :: · ++ [')']) (first '|' '-' part.text _).symm
    | optional =>
      rw [NodeKind.toText, NodeKind.prefixedText, several, if_pos rfl, bare]
      exact congrArg ('(' :: · ++ [')']) (first ' ' '~' part.text _).symm
  rw [NodeKind.nodePart, text]
  rfl

/-- The rendering of a node is read as one operand. -/
theorem reads_nodePart (kind : NodeKind) {parts : List Part} (nonempty : parts ≠ [])
    (reads : ∀ part ∈ parts, part.Reads document) : (kind.nodePart parts).Reads document := by
  cases parts with
  | nil => exact absurd rfl nonempty
  | cons part parts =>
    have first := reads_marked kind (reads part List.mem_cons_self)
    cases parts with
    | nil => rwa [nodePart_singleton]
    | cons next parts =>
      have each : ∀ other ∈ kind.marked part :: next :: parts, other.Reads document := by
        intro other member
        rcases List.mem_cons.mp member with rfl | later
        · exact first
        · exact reads other (List.mem_cons_of_mem part later)
      rw [nodePart_several]
      exact fun frame outer rest _ _ => readsAnywhere_grouped kind each frame outer rest

/-! ## Fields -/

/-- A value in a frame that waits for the operand of a field name. -/
theorem readFrom_value {value : FieldValue} (atomic : value.isAtomic = true) {frame : Frame} (outer : List Frame)
    {rest : Text} (boundary : Boundary rest) :
    readFrom document (value.toText ++ rest) (frame, outer) =
      if value.combinable || frame.inField then
        readFrom document rest (frame.deliver (document.term value.toText), outer)
      else none := by
  cases value with
  | scalar v => exact readFrom_term document atomic boundary frame outer
  | range a b inclusiveMin inclusiveMax => exact readFrom_bracket document rfl atomic (by decide) rest frame outer
  | tag tags => exact readFrom_bracket document rfl atomic (by decide) rest frame outer
  | geo lon lat radius unit => exact readFrom_bracket document rfl atomic (by decide) rest frame outer

end Operands

section Fields

variable (document : Document)

/-- A value with the name of its field. -/
def valuePart (key : Text) (value : FieldValue) : Part where
  text := '@' :: key ++ ':' :: value.toText
  readable := true
  clause := Modifier.apply (.within key) (document.term value.toText)

/-- A value among others in parentheses. -/
def itemPart (value : FieldValue) : Part where
  text := value.toText
  readable := value.combinable
  clause := document.term value.toText

/-- The values of a field in parentheses, after the name of the field. -/
def combinedPart (kind : NodeKind) (param : FieldParam) : Part :=
  let items := kind.grouped (param.vals.map (itemPart document))
  { text := '@' :: param.key ++ ':' :: items.text
    readable := items.readable
    clause := Modifier.apply (.within param.key) items.clause }

/-- The base nodes of `join_fields`. -/
def fieldParts (kind : NodeKind) (param : FieldParam) : List Part :=
  if param.rest = [] then [valuePart document param.key param.first]
  else if !param.first.combinable then param.vals.map (valuePart document param.key)
  else [combinedPart document kind param]

/-- The texts of the parts are those of `join_fields`. -/
theorem fieldParts_text (kind : NodeKind) (param : FieldParam) :
    (fieldParts document kind param).map Part.text = kind.joinFields param := by
  have items : (param.vals.map (itemPart document)).map Part.text = param.vals.map FieldValue.toText := List.map_map
  rw [fieldParts, NodeKind.joinFields]
  split
  · rfl
  · split
    · exact List.map_map
    · rw [List.map_singleton, List.append_assoc, ← items]
      rfl

/-- A name that is a term, and values that are atomic. -/
def FieldParam.formed (param : FieldParam) : Bool := isTerm param.key && param.vals.all FieldValue.isAtomic

variable {document}

/-- A value is read for its field. -/
theorem reads_valuePart {key : Text} (term : isTerm key = true) {value : FieldValue}
    (atomic : value.isAtomic = true) : (valuePart document key value).Reads document := by
  intro frame outer rest _ boundary
  have named : (frame.await (.within key)).inField = true := by
    rw [Frame.inField, Frame.await, List.getLast?_concat]
    rfl
  have start : (valuePart document key value).text ++ rest = '@' :: key ++ ':' :: (value.toText ++ rest) :=
    List.append_assoc ..
  rw [start, readFrom_field document term, readFrom_value atomic outer boundary, named, Bool.or_true,
    Frame.deliver_await]
  rfl

/-- A value in parentheses is read if it is a term. -/
theorem reads_itemPart {value : FieldValue} (atomic : value.isAtomic = true) :
    (itemPart document value).Reads document := by
  intro frame outer rest outside boundary
  rw [itemPart, readFrom_value atomic outer boundary, outside, Bool.or_false]

/-- Values in parentheses are read for their field. -/
theorem reads_combinedPart (kind : NodeKind) {param : FieldParam} (formed : param.formed = true) :
    (combinedPart document kind param).Reads document := by
  intro frame outer rest _ _
  rw [FieldParam.formed, Bool.and_eq_true, List.all_eq_true] at formed
  have each : ∀ part ∈ itemPart document param.first :: param.rest.map (itemPart document),
      part.Reads document := by
    intro part member
    obtain ⟨value, inside, rfl⟩ := List.mem_map.mp (show part ∈ param.vals.map (itemPart document) from member)
    exact reads_itemPart (formed.2 value inside)
  have items := readsAnywhere_grouped kind each (frame.await (.within param.key)) outer rest
  have start : (combinedPart document kind param).text ++ rest =
      '@' :: param.key ++ ':' :: ((kind.grouped (param.vals.map (itemPart document))).text ++ rest) :=
    List.append_assoc ..
  rw [start, readFrom_field document formed.1]
  refine items.trans ?_
  rw [Frame.deliver_await]
  rfl

/-- Each base node of a field is read. -/
theorem reads_fieldParts (kind : NodeKind) {param : FieldParam} (formed : param.formed = true) :
    ∀ part ∈ fieldParts document kind param, part.Reads document := by
  intro part member
  have split := formed
  rw [FieldParam.formed, Bool.and_eq_true, List.all_eq_true] at split
  rw [fieldParts] at member
  split at member
  · rw [List.mem_singleton.mp member]
    exact reads_valuePart split.1 (split.2 param.first List.mem_cons_self)
  · split at member
    · obtain ⟨value, inside, rfl⟩ := List.mem_map.mp member
      exact reads_valuePart split.1 (split.2 value inside)
    · rw [List.mem_singleton.mp member]
      exact reads_combinedPart kind formed

end Fields

/-! ## Trees -/

namespace QueryNode

/-- A tree over atomic terms, whose nodes have one or more sub-conditions. -/
def formed : QueryNode → Bool :=
  recursion isTerm fun _ children formed fields =>
    (!children.isEmpty || !fields.isEmpty) && formed.all id && fields.all FieldParam.formed

/-- The parameters of a node: the children come first, then the fields. -/
def paramParts (document : Document) (kind : NodeKind) (children : List Part) (fields : List FieldParam) :
    List Part :=
  children ++ fields.flatMap (fieldParts document kind)

/-- The rendering of a tree, with what it is read as. -/
def part (document : Document) : QueryNode → Part :=
  recursion (fun s => { text := s, readable := true, clause := document.term s }) fun kind _ children fields =>
    kind.nodePart (paramParts document kind children fields)

/-- The part of a node. -/
theorem part_node (document : Document) (kind : NodeKind) (children : List QueryNode) (fields : List FieldParam) :
    part document (node kind children fields) =
      kind.nodePart (paramParts document kind (children.map (part document)) fields) :=
  recursion_node ..

/-- The text of a tree is what it renders. -/
theorem part_text (document : Document) (tree : QueryNode) : (tree.part document).text = tree.toText := by
  induction tree using induct with
  | atBase s => rfl
  | atNode kind children fields each =>
    have texts : (children.map (part document)).map Part.text = children.map toText := by
      rw [List.map_map]
      exact List.map_congr_left each
    have named : (fields.flatMap (fieldParts document kind)).map Part.text = fields.flatMap kind.joinFields := by
      rw [List.map_flatMap]
      exact List.flatMap_congr fun param _ => fieldParts_text document kind param
    rw [part_node, toText_node, NodeKind.nodePart, paramParts, paramTexts, List.map_append, texts, named]

/-- What it takes for a node to be formed. -/
theorem formed_node {kind : NodeKind} {children : List QueryNode} {fields : List FieldParam}
    (whole : formed (node kind children fields) = true) :
    (children ≠ [] ∨ fields ≠ []) ∧ (∀ child ∈ children, child.formed = true) ∧
      ∀ param ∈ fields, param.formed = true := by
  rw [formed, recursion_node, Bool.and_eq_true, Bool.and_eq_true, List.all_map, List.all_eq_true, List.all_eq_true,
    Bool.or_eq_true] at whole
  obtain ⟨⟨some, children⟩, fields⟩ := whole
  refine ⟨some.imp ?_ ?_, children, fields⟩
  · rintro empty rfl
    cases empty
  · rintro empty rfl
    cases empty

/-- A field has a base node. -/
theorem fieldParts_ne_nil (document : Document) (kind : NodeKind) (param : FieldParam) :
    fieldParts document kind param ≠ [] := by
  rw [fieldParts]
  split
  · exact List.cons_ne_nil _ _
  · split
    · exact List.cons_ne_nil _ _
    · exact List.cons_ne_nil _ _

/-- The rendering of a tree is read as one operand. -/
theorem reads_part (document : Document) {tree : QueryNode} (whole : tree.formed = true) :
    (tree.part document).Reads document := by
  induction tree using induct with
  | atBase s => exact fun frame outer rest _ boundary => readFrom_term document whole boundary frame outer
  | atNode kind children fields each =>
    obtain ⟨some, childrenFormed, fieldsFormed⟩ := formed_node whole
    rw [part_node]
    refine reads_nodePart kind ?_ ?_
    · intro none
      rw [paramParts, List.append_eq_nil_iff, List.map_eq_nil_iff, List.flatMap_eq_nil_iff] at none
      refine some.elim (fun children => children none.1) fun filled => ?_
      obtain ⟨param, member⟩ := List.exists_mem_of_ne_nil fields filled
      exact fieldParts_ne_nil document kind param (none.2 param member)
    · intro part member
      rcases List.mem_append.mp member with child | field
      · obtain ⟨tree, inside, rfl⟩ := List.mem_map.mp child
        exact each tree inside (childrenFormed tree inside)
      · obtain ⟨param, inside, among⟩ := List.mem_flatMap.mp field
        exact reads_fieldParts kind (fieldsFormed param inside) part among

/-- What the rendering of a tree says of a document. -/
theorem evaluate_toText (document : Document) {tree : QueryNode} (whole : tree.formed = true) :
    evaluate document tree.toText =
      if (tree.part document).readable then some ((tree.part document).clause none) else none := by
  have read := reads_part document whole .empty [] [] rfl fun c absent => by cases absent
  rw [List.append_nil, part_text] at read
  have evaluated : evaluate document tree.toText =
      (readFrom document tree.toText (.empty, [])).bind finish := (Option.bind_assoc ..).symm
  rw [evaluated, read]
  cases (tree.part document).readable with
  | false => rfl
  | true =>
    change some (group ([] ++ [[] ++ [(tree.part document).clause]]) none) = _
    exact congrArg (fun clause : Clause => some (clause none)) (group_alternatives_singleton .intersect _)

end QueryNode

end QueryString

end RedisPy

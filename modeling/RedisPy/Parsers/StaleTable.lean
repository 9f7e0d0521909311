import RedisPy.Parsers.KeyPositions

/-!
# A stale command table

A command that is not in the table makes `get_keys` read the table anew, in the middle of the
look-up. The name is then found under its first word, but the arguments are not split.
-/

namespace RedisPy

variable {F : Type}

namespace CommandsParser

variable {casing : Casing} {server : CommandServer F} {kind : ParserKind}
variable {stale fresh table : CommandTable} {info : CommandInfo} {name first second : Text}
variable {more : List Text} {rest : List (Arg F)}

/-- What is sent to `COMMAND GETKEYS`, before the arguments, for a name that is not split. -/
def unsplitPieces (kind : ParserKind) (name : Text) : List (Arg F) :=
  match kind with
  | .sync => (splitText name).map .str
  | .async => [.str name]

/-- What the answer to `COMMAND GETKEYS` is taken for. -/
def answeredKeys (server : CommandServer F) (pieces : List (Arg F)) :
    Except Exc (Option (List (Arg F))) :=
  match server.commandGetkeys pieces with
  | .ok keys => .ok (some keys)
  | .error e => if saysNoKeys e then .ok none else .error e

/-- A publish-subscribe command has channels among its arguments. -/
def HasChannels (casing : Casing) (command type : Text) : Prop :=
  (casing.upper command = "PUBSUB".toList ∧ casing.upper type ∈ pubsubTypes) ∨
    casing.upper command ∈ subscribing ∨ casing.upper command ∈ ["PUBLISH".toList, "SPUBLISH".toList]

/-- Nothing is read at the positions of the command, in a list of any length. -/
def ReadsNothing (info : CommandInfo) : Prop :=
  if info.hasKeys = true then
    info.stepCount = 0 ∨ 0 ≤ info.lastKeyPos ∧ info.lastKeyPos < info.firstKeyPos
  else info.subcommands = none

/-- The keys of the command do not depend on how its name is split. -/
def Insensitive (casing : Casing) (server : CommandServer F) (kind : ParserKind) (info : CommandInfo)
    (name : Text) (words : List Text) : Prop :=
  if "movablekeys".toList ∈ info.flags then
    ∀ second (rest : List (Arg F)), answeredKeys server (unsplitPieces kind name ++ second :: rest) =
      answeredKeys server (words.map .str ++ second :: rest)
  else if "pubsub".toList ∈ info.flags ∨ info.name = "pubsub".toList then
    ∀ command type, words[0]? = some command → words[1]? = some type → ¬HasChannels casing command type
  else ReadsNothing info

/-! ## The look-up -/

/-- A name of several words is no name of a table. -/
theorem not_contains_of_words (names : Names table) (words : splitText name = first :: second :: more) :
    ¬Dict.contains table (casing.lower name) = true := by
  intro direct
  have single := names.words _ (Dict.contains_iff_mem_keys.mp direct)
  rw [casing.split_lower, words] at single
  exact absurd (congrArg List.length single) (by simp)

/-- A name of several words is looked up under its first word. -/
theorem findName_split (words : splitText name = first :: second :: more)
    (apart : ¬Dict.contains table (casing.lower name) = true)
    (known : Dict.contains table (casing.lower first) = true) :
    findName casing server kind table (.str name) rest =
      (.ok (casing.lower first, ((first :: second :: more).map casing.lower).map .str ++ rest),
        table) := by
  have lowered : splitText (casing.lower name) =
      casing.lower first :: (second :: more).map casing.lower := by
    rw [casing.split_lower, words]
    rfl
  rw [findName, if_neg apart, lowered]
  simp only [if_pos known]
  rfl

/-- After the table was read anew the arguments are as they were. -/
theorem findName_unsplit (words : splitText name = first :: more)
    (apart : ¬Dict.contains stale (casing.lower name) = true)
    (missing : ¬Dict.contains stale (casing.lower first) = true)
    (read : initializeCommands casing server kind = .ok fresh)
    (known : Dict.contains fresh (casing.lower first) = true) :
    findName casing server kind stale (.str name) rest =
      (.ok (casing.lower first, .str name :: rest), fresh) := by
  have lowered : splitText (casing.lower name) = casing.lower first :: more.map casing.lower := by
    rw [casing.split_lower, words]
    rfl
  rw [findName, if_neg apart, lowered]
  simp only [if_neg missing, read, if_pos known]

/-- `get_keys` with the entry that was found. -/
theorem getKeys_of_findName {args : List (Arg F)} {arg : Arg F} {cmdName : Text}
    (looked : findName casing server kind stale (.str name) (arg :: rest) = (.ok (cmdName, args), table))
    (stored : Dict.get table cmdName = some info) :
    (getKeys casing server kind stale (.str name :: arg :: rest)).1 =
      keysOf casing server kind cmdName info args := by
  simp only [getKeys, looked, stored]

/-- A name of several words has blanks. -/
theorem any_of_words (words : splitText name = first :: second :: more) :
    name.any isUnicodeSpace = true := by
  by_contra solid
  have some' : name ≠ [] := by
    rintro rfl
    cases words
  rw [splitText_of_no_blank some' (by simpa using solid)] at words
  cases words

/-! ## Positions in lists of different length -/

/-- The first position comes first. -/
theorem positions_cons (spec : KeySpec) (step : spec.stepCount ≠ 0) {length : Nat}
    (reached : (spec.firstKeyPos : Int) ≤ spec.lastPosition length) :
    ∃ others, spec.positions length = spec.firstKeyPos :: others := by
  have positive : 0 < spec.stepCount := Nat.pos_of_ne_zero step
  have here : spec.firstKeyPos ∈ spec.positions length := by
    rw [KeySpec.positions, List.mem_filter, List.mem_range, decide_eq_true_eq, Nat.sub_self]
    exact ⟨by omega, Nat.le_refl _, Nat.dvd_zero _⟩
  rw [← pyRange_eq_positions spec step] at here ⊢
  unfold pyRange at here ⊢
  generalize ((lastPos spec length + 1 - spec.firstKeyPos + spec.stepCount - 1) /
    (spec.stepCount : Int)).toNat = count at here ⊢
  cases count with
  | zero => cases here
  | succ count => exact ⟨_, List.range'_succ⟩

/-- No position is reached if the last one lies before the first. -/
theorem positions_nil {spec : KeySpec} (natural : 0 ≤ spec.lastKeyPos)
    (before : spec.lastKeyPos < spec.firstKeyPos) (length : Nat) : spec.positions length = [] := by
  rw [KeySpec.positions, List.filter_eq_nil_iff]
  intro pos member
  have last : spec.lastPosition length = spec.lastKeyPos := by
    rw [KeySpec.lastPosition, if_neg (by omega)]
  rw [List.mem_range, last] at member
  rw [decide_eq_true_eq]
  omega

/-- Numbered arguments. -/
def numbered (n : Nat) : List (Arg F) := (List.range n).map fun i : Nat => .int (i : Int)

/-- The keys of a long list begin with the argument at the first position. -/
theorem keysAt_long (spec : KeySpec) (step : spec.stepCount ≠ 0)
    (reaches : ¬(0 ≤ spec.lastKeyPos ∧ spec.lastKeyPos < spec.firstKeyPos)) {args : List (Arg F)}
    (long : spec.firstKeyPos + spec.lastKeyPos.natAbs < args.length) :
    ∃ key keys, keysAt spec args = .ok (key :: keys) ∧ args[spec.firstKeyPos]? = some key := by
  have reached : (spec.firstKeyPos : Int) ≤ spec.lastPosition args.length := by
    unfold KeySpec.lastPosition
    by_cases negative : spec.lastKeyPos < 0
    · rw [if_pos negative]
      omega
    · rw [if_neg negative]
      omega
  have inside : ∀ pos ∈ spec.positions args.length, pos < args.length := by
    intro pos member
    have below := List.mem_range.mp (List.mem_filter.mp member).1
    unfold KeySpec.lastPosition at below
    by_cases negative : spec.lastKeyPos < 0
    · rw [if_pos negative] at below
      omega
    · rw [if_neg negative] at below
      omega
  obtain ⟨others, shape⟩ := positions_cons spec step reached
  obtain ⟨found, read⟩ := exists_words inside
  have whole := keysAt_eq_ok.mpr ⟨step, read⟩
  cases found with
  | nil =>
    rw [shape] at read
    cases read
  | cons key keys =>
    rw [shape] at read
    exact ⟨key, keys, whole, (List.cons.inj read).1.symm⟩

/-- An argument of the unsplit list lies elsewhere in the split one. -/
theorem getElem_ne (words : splitText name = first :: second :: more) {casing : Casing} (n pos : Nat)
    {key : Arg F} (unsplit : (.str name :: numbered n : List (Arg F))[pos]? = some key) :
    (((first :: second :: more).map casing.lower).map Arg.str ++ numbered n)[pos]? ≠ some key := by
  have item (i : Nat) {key : Arg F} (found : (numbered n : List (Arg F))[i]? = some key) :
      key = .int i := by
    rw [numbered, List.getElem?_map] at found
    obtain ⟨j, here, rfl⟩ := Option.map_eq_some_iff.mp found
    rw [List.getElem?_range (by
      by_contra outside
      rw [List.getElem?_eq_none (by simpa using outside)] at here
      cases here)] at here
    rw [Option.some.inj here]
  cases pos with
  | zero =>
    cases unsplit
    intro same
    have lowered : casing.lower first = name := by
      simpa using same
    have blank : (casing.lower first).any isUnicodeSpace = true := lowered ▸ any_of_words words
    have word : first ∈ splitText name := by
      rw [words]
      exact List.mem_cons_self
    rw [casing.any_lower, no_blank_of_mem_splitText word] at blank
    cases blank
  | succ pos =>
    rw [List.getElem?_cons_succ] at unsplit
    have number := item pos unsplit
    intro same
    by_cases inside : pos + 1 < ((first :: second :: more).map casing.lower).length
    · rw [List.getElem?_append_left (by simpa using inside), List.getElem?_map,
        List.getElem?_eq_getElem inside] at same
      rw [number] at same
      cases same
    · have outside : (((first :: second :: more).map casing.lower).map (Arg.str : Text → Arg F)).length ≤
          pos + 1 := by simpa using inside
      rw [List.getElem?_append_right outside] at same
      have other := item _ same
      rw [number] at other
      simp only [Arg.int.injEq, List.length_map, List.length_cons] at other outside
      omega

/-! ## What depends on the split -/

/-- Reading positions fails for the step or for a position. -/
theorem keysAt_error {spec : KeySpec} {args : List (Arg F)} {e : Exc}
    (failed : keysAt spec args = .error e) : e.cls = .valueError ∨ e.cls = .indexError := by
  have each {positions : List Nat} {e : Exc} (failed : positions.mapM (argAt args) = .error e) :
      e.cls = .indexError := by
    induction positions with
    | nil => cases failed
    | cons pos positions ih =>
      rw [List.mapM_cons] at failed
      cases found : args[pos]? with
      | none =>
        have here : argAt args pos = .error { cls := .indexError } := by rw [argAt, found]
        rw [here] at failed
        cases failed
        rfl
      | some arg =>
        have here : argAt args pos = .ok arg := by rw [argAt, found]
        rw [here] at failed
        cases later : positions.mapM (argAt args) with
        | error other =>
          rw [later] at failed
          cases failed
          exact ih later
        | ok keys =>
          rw [later] at failed
          cases failed
  unfold keysAt at failed
  by_cases step : spec.stepCount = 0
  · rw [if_pos step] at failed
    cases failed
    exact .inl rfl
  · rw [if_neg step] at failed
    exact .inr (each failed)

/-- A publish-subscribe command has keys in the split list if it has channels, none in the other. -/
theorem getPubsubKeys_split (words : splitText name = first :: second :: more) (arg : Arg F) :
    getPubsubKeys casing (.str name :: arg :: rest) = .ok none ∧
      (getPubsubKeys casing
          (((first :: second :: more).map casing.lower).map .str ++ arg :: rest) = .ok none ↔
        ¬HasChannels casing (casing.lower first) (casing.lower second)) := by
  have blank : (casing.upper name).any isUnicodeSpace = true := by
    rw [casing.any_upper]
    exact any_of_words words
  have other (text : Text) (solid : text.any isUnicodeSpace = false) : casing.upper name ≠ text := by
    intro same
    rw [same, solid] at blank
    cases blank
  have list (texts : List Text) (solid : ∀ text ∈ texts, text.any isUnicodeSpace = false) :
      casing.upper name ∉ texts := fun member => other _ (solid _ member) rfl
  constructor
  · simp only [getPubsubKeys, List.map_cons, Arg.strIfBytes,
      if_neg (other "PUBSUB".toList (by decide)), if_neg (list subscribing (by decide)),
      if_neg (list ["PUBLISH".toList, "SPUBLISH".toList] (by decide))]
  · simp only [List.map_cons, List.cons_append, getPubsubKeys, Arg.strIfBytes, HasChannels]
    by_cases pubsub : casing.upper (casing.lower first) = "PUBSUB".toList
    · have noOther : casing.upper (casing.lower first) ∉ subscribing ∧
          casing.upper (casing.lower first) ∉ ["PUBLISH".toList, "SPUBLISH".toList] := by
        rw [pubsub]
        decide
      rw [if_pos pubsub]
      by_cases channels : casing.upper (casing.lower second) ∈ pubsubTypes
      · rw [if_pos channels]
        exact iff_of_false (by simp) (not_not.mpr (.inl ⟨pubsub, channels⟩))
      · rw [if_neg channels]
        refine iff_of_true rfl ?_
        rintro (⟨-, type⟩ | subscribes | publishes)
        · exact channels type
        · exact noOther.1 subscribes
        · exact noOther.2 publishes
    · rw [if_neg pubsub]
      by_cases subscribes : casing.upper (casing.lower first) ∈ subscribing
      · rw [if_pos subscribes]
        exact iff_of_false (by simp) (not_not.mpr (.inr (.inl subscribes)))
      · rw [if_neg subscribes]
        by_cases publishes : casing.upper (casing.lower first) ∈ ["PUBLISH".toList, "SPUBLISH".toList]
        · rw [if_pos publishes]
          exact iff_of_false (by simp) (not_not.mpr (.inr (.inr publishes)))
        · rw [if_neg publishes]
          refine iff_of_true rfl ?_
          rintro (⟨named, -⟩ | other | other)
          · exact pubsub named
          · exact subscribes other
          · exact publishes other

/-- A list of this length has all positions of a command. -/
def reach (spec : KeySpec) : Nat := spec.firstKeyPos + spec.lastKeyPos.natAbs + 1

/-- The keys of a command with positions are the same in both lists exactly if none is read. -/
theorem keysAt_split (words : splitText name = first :: second :: more) (casing : Casing)
    (spec : KeySpec) :
    (∀ (arg : Arg F) (rest : List (Arg F)), keysAt spec (.str name :: arg :: rest) =
        keysAt spec (((first :: second :: more).map casing.lower).map .str ++ arg :: rest)) ↔
      spec.stepCount = 0 ∨ 0 ≤ spec.lastKeyPos ∧ spec.lastKeyPos < spec.firstKeyPos := by
  constructor
  · intro same
    by_contra sensitive
    obtain ⟨step, reaches⟩ := not_or.mp sensitive
    have shape : (numbered (reach spec) : List (Arg F)) =
        .int 0 :: (numbered (reach spec)).tail := by
      unfold numbered reach
      rw [List.range_succ_eq_map]
      rfl
    have length : (numbered (reach spec) : List (Arg F)).length = reach spec := by
      rw [numbered, List.length_map, List.length_range]
    have both := same (.int 0) (numbered (reach spec)).tail
    rw [← shape] at both
    have short : spec.firstKeyPos + spec.lastKeyPos.natAbs <
        (.str name :: numbered (reach spec) : List (Arg F)).length := by
      rw [List.length_cons, length, reach]
      omega
    have long : spec.firstKeyPos + spec.lastKeyPos.natAbs <
        (((first :: second :: more).map casing.lower).map Arg.str ++ numbered (reach spec) :
          List (Arg F)).length := by
      rw [List.length_append, length, reach]
      omega
    obtain ⟨key, keys, read, here⟩ := keysAt_long spec step reaches short
    obtain ⟨other, others, read', there⟩ := keysAt_long spec step reaches long
    rw [read, read'] at both
    cases both
    exact getElem_ne words (reach spec) spec.firstKeyPos here there
  · rintro (still | ⟨natural, before⟩) arg rest
    · rw [keysAt, keysAt, if_pos still, if_pos still]
    · by_cases still : spec.stepCount = 0
      · rw [keysAt, keysAt, if_pos still, if_pos still]
      · have none (args : List (Arg F)) : keysAt spec args = .ok [] := by
          rw [keysAt_eq_ok, positions_nil natural before]
          exact ⟨still, rfl⟩
        rw [none, none]

/-- Nothing is lost when a list of keys becomes what is returned. -/
theorem map_some_injective {keys others : Except Exc (List (Arg F))}
    (same : keys.map some = others.map some) : keys = others := by
  cases keys with
  | error e =>
    cases others with
    | error other =>
      cases same
      rfl
    | ok others => cases same
  | ok keys =>
    cases others with
    | error other => cases same
    | ok others =>
      cases same
      rfl

/-- Positions are no attributes. -/
theorem keysFor_ne_attributeError (args : List (Arg F)) (spec : Option KeySpec) :
    keysFor args spec ≠ .error { cls := .attributeError } := by
  intro failed
  cases spec with
  | none => cases failed
  | some spec =>
    cases read : keysAt spec args with
    | ok keys =>
      rw [keysFor, read] at failed
      cases failed
    | error e =>
      rw [keysFor, read] at failed
      cases failed
      rcases keysAt_error read with value | index
      · cases value
      · cases index

/-- The subcommand is not selected by the second argument of the unsplit list. -/
theorem selectSpec_split (words : splitText name = first :: second :: more)
    (cmdName : Text) (info : CommandInfo) :
    (∀ (arg : Arg F) (rest : List (Arg F)),
        (selectSpec casing cmdName info (.str name :: arg :: rest)).bind
            (keysFor (.str name :: arg :: rest)) =
          (selectSpec casing cmdName info
              (((first :: second :: more).map casing.lower).map .str ++ arg :: rest)).bind
            (keysFor (((first :: second :: more).map casing.lower).map .str ++ arg :: rest))) ↔
      ReadsNothing info := by
  unfold ReadsNothing
  by_cases keyed : info.hasKeys = true
  · have selected (args : List (Arg F)) :
        (selectSpec casing cmdName info args).bind (keysFor args) =
          (keysAt info.toKeySpec args).map some := by
      rw [selectSpec, if_pos keyed]
      rfl
    rw [if_pos keyed, ← keysAt_split (F := F) words casing info.toKeySpec]
    constructor
    · intro same arg rest
      have both := same arg rest
      rw [selected, selected] at both
      exact map_some_injective both
    · intro same arg rest
      rw [selected, selected, same arg rest]
  · rw [if_neg keyed]
    cases subs : info.subcommands with
    | none =>
      refine iff_of_true (fun arg rest => ?_) rfl
      have selected (args : List (Arg F)) : selectSpec casing cmdName info args = .ok none := by
        rw [selectSpec, if_neg keyed, subs]
      rw [selected, selected]
      rfl
    | some subcommands =>
      refine iff_of_false (fun same => ?_) (Option.some_ne_none _)
      have unsplit : (selectSpec casing cmdName info [.str name, (.int 0 : Arg F)]).bind
          (keysFor [.str name, (.int 0 : Arg F)]) = .error { cls := .attributeError } := by
        rw [selectSpec, if_neg keyed, subs]
        rfl
      have split : selectSpec casing cmdName info
          (((first :: second :: more).map casing.lower).map .str ++ [(.int 0 : Arg F)]) =
            .ok (namedSubcommand subcommands
              (cmdName ++ '|' :: casing.lower (casing.lower second))) := by
        rw [selectSpec, if_neg keyed, subs]
        rfl
      have both := same (.int 0) []
      rw [unsplit, split] at both
      exact keysFor_ne_attributeError _ _ both.symm

/-- Whether the keys of a command depend on how its name is split. -/
theorem keysOf_split (words : splitText name = first :: second :: more) (names : Names fresh)
    (stored : Dict.get fresh (casing.lower first) = some info) (server : CommandServer F)
    (kind : ParserKind) :
    (∀ (arg : Arg F) (rest : List (Arg F)),
        keysOf casing server kind (casing.lower first) info (.str name :: arg :: rest) =
          keysOf casing server kind (casing.lower first) info
            (((first :: second :: more).map casing.lower).map .str ++ arg :: rest)) ↔
      Insensitive casing server kind info name ((first :: second :: more).map casing.lower) := by
  unfold Insensitive
  by_cases movable : "movablekeys".toList ∈ info.flags
  · have one : splitText (casing.lower first) = [casing.lower first] := by
      refine names.words _ (Dict.contains_iff_mem_keys.mp ?_)
      rw [Dict.contains_eq_isSome_get, stored]
      rfl
    have unsplit (arg : Arg F) (rest : List (Arg F)) :
        keysOf casing server kind (casing.lower first) info (.str name :: arg :: rest) =
          answeredKeys server (unsplitPieces kind name ++ arg :: rest) := by
      rw [keysOf, if_pos movable]
      cases kind with
      | sync => rfl
      | async => rfl
    have split (arg : Arg F) (rest : List (Arg F)) :
        keysOf casing server kind (casing.lower first) info
            (((first :: second :: more).map casing.lower).map .str ++ arg :: rest) =
          answeredKeys server
            (((first :: second :: more).map casing.lower).map .str ++ arg :: rest) := by
      rw [keysOf, if_pos movable]
      cases kind with
      | sync =>
        simp only [List.map_cons, List.cons_append, getMoveableKeys, one]
        rfl
      | async => rfl
    rw [if_pos movable]
    simp only [unsplit, split]
  · rw [if_neg movable]
    by_cases channels : "pubsub".toList ∈ info.flags ∨ info.name = "pubsub".toList
    · have asked (args : List (Arg F)) : keysOf casing server kind (casing.lower first) info args =
          getPubsubKeys casing args := by
        rw [keysOf, if_neg movable, if_pos channels]
      rw [if_pos channels]
      simp only [asked, List.map_cons, List.getElem?_cons_zero, List.getElem?_cons_succ,
        Option.some.injEq]
      constructor
      · rintro same command type rfl rfl
        have both := same (.int 0) []
        rw [(getPubsubKeys_split words (.int 0)).1] at both
        exact (getPubsubKeys_split words (.int 0)).2.mp both.symm
      · intro none arg rest
        rw [(getPubsubKeys_split words arg).1]
        exact ((getPubsubKeys_split words arg).2.mpr (none _ _ rfl rfl)).symm
    · have asked (args : List (Arg F)) : keysOf casing server kind (casing.lower first) info args =
          (selectSpec casing (casing.lower first) info args).bind (keysFor args) := by
        rw [keysOf, if_neg movable, if_neg channels]
      rw [if_neg channels]
      simp only [asked]
      exact selectSpec_split words (casing.lower first) info

/-- A command of an older table is one of the fresh table. -/
theorem contains_of_older
    (older : ∀ cmd info, Dict.get stale cmd = some info → Dict.get fresh cmd = some info) {cmd : Text}
    (held : Dict.contains stale cmd = true) : Dict.contains fresh cmd = true := by
  rw [Dict.contains_eq_isSome_get] at held ⊢
  obtain ⟨info, found⟩ := Option.isSome_iff_exists.mp held
  rw [older cmd info found]
  rfl

/-- An older table has the entry of the fresh one, if it has the command. -/
theorem get_of_older
    (older : ∀ cmd info, Dict.get stale cmd = some info → Dict.get fresh cmd = some info) {cmd : Text}
    (stored : Dict.get fresh cmd = some info) (present : Dict.contains stale cmd = true) :
    Dict.get stale cmd = some info := by
  rw [Dict.contains_eq_isSome_get] at present
  obtain ⟨entry, found⟩ := Option.isSome_iff_exists.mp present
  rw [found, ← older cmd entry found, stored]

/-- A name of one word is looked up as it is, before or after the table is read. -/
theorem getKeys_single (read : initializeCommands casing server kind = .ok fresh)
    (older : ∀ cmd info, Dict.get stale cmd = some info → Dict.get fresh cmd = some info)
    (single : splitText name = [name]) (stored : Dict.get fresh (casing.lower name) = some info)
    (rest : List (Arg F)) :
    (getKeys casing server kind stale (.str name :: rest)).1 =
      (getKeys casing server kind fresh (.str name :: rest)).1 := by
  have known : Dict.contains fresh (casing.lower name) = true := by
    rw [Dict.contains_eq_isSome_get, stored]
    rfl
  cases rest with
  | nil => rfl
  | cons arg rest =>
    have direct : findName casing server kind fresh (.str name) (arg :: rest) =
        (.ok (casing.lower name, .str name :: arg :: rest), fresh) := by
      rw [findName, if_pos known]
    by_cases present : Dict.contains stale (casing.lower name) = true
    · have before : findName casing server kind stale (.str name) (arg :: rest) =
          (.ok (casing.lower name, .str name :: arg :: rest), stale) := by
        rw [findName, if_pos present]
      rw [getKeys_of_findName direct stored,
        getKeys_of_findName before (get_of_older older stored present)]
    · have before : findName casing server kind stale (.str name) (arg :: rest) =
          (.ok (casing.lower name, .str name :: arg :: rest), fresh) :=
        findName_unsplit single present present read known
      rw [getKeys_of_findName direct stored, getKeys_of_findName before stored]

/-- A stale table gives the same keys as the fresh one for every argument list after a name exactly if
the name is one word, its first word is in the stale table, or the keys do not depend on the split. -/
theorem stale_iff (names : Names fresh) (read : initializeCommands casing server kind = .ok fresh)
    (older : ∀ cmd info, Dict.get stale cmd = some info → Dict.get fresh cmd = some info)
    (words : splitText name = first :: more)
    (stored : Dict.get fresh (casing.lower first) = some info)
    (form : splitText name = [name] ∨ 2 ≤ (splitText name).length) :
    (∀ rest : List (Arg F), (getKeys casing server kind stale (.str name :: rest)).1 =
        (getKeys casing server kind fresh (.str name :: rest)).1) ↔
      splitText name = [name] ∨ Dict.contains stale (casing.lower first) = true ∨
        Insensitive casing server kind info name ((splitText name).map casing.lower) := by
  have known : Dict.contains fresh (casing.lower first) = true := by
    rw [Dict.contains_eq_isSome_get, stored]
    rfl
  rcases form with single | several
  · have same : first = name := by
      rw [single] at words
      exact (List.cons.inj words).1.symm
    rw [same] at stored
    exact iff_of_true (getKeys_single read older single stored) (.inl single)
  · obtain ⟨second, others, rfl⟩ : ∃ second others, more = second :: others := by
      cases more with
      | nil =>
        rw [words] at several
        exact absurd several (by simp)
      | cons second others => exact ⟨second, others, rfl⟩
    have notOne : splitText name ≠ [name] := by
      intro one
      rw [one] at several
      exact absurd several (by simp)
    have whole : ¬Dict.contains fresh (casing.lower name) = true := not_contains_of_words names words
    have absent : ¬Dict.contains stale (casing.lower name) = true :=
      fun direct => whole (contains_of_older older direct)
    have split (arg : Arg F) (rest : List (Arg F)) :
        (getKeys casing server kind fresh (.str name :: arg :: rest)).1 =
          keysOf casing server kind (casing.lower first) info
            (((first :: second :: others).map casing.lower).map .str ++ arg :: rest) :=
      getKeys_of_findName (findName_split words whole known) stored
    by_cases present : Dict.contains stale (casing.lower first) = true
    · refine iff_of_true (fun rest => ?_) (.inr (.inl present))
      cases rest with
      | nil => rfl
      | cons arg rest =>
        have before : findName casing server kind stale (.str name) (arg :: rest) =
            (.ok (casing.lower first,
              ((first :: second :: others).map casing.lower).map .str ++ arg :: rest), stale) :=
          findName_split words absent present
        rw [split, getKeys_of_findName before (get_of_older older stored present)]
    · have unsplit (arg : Arg F) (rest : List (Arg F)) :
          (getKeys casing server kind stale (.str name :: arg :: rest)).1 =
            keysOf casing server kind (casing.lower first) info (.str name :: arg :: rest) :=
        getKeys_of_findName (findName_unsplit words absent present read known) stored
      have depends := keysOf_split words names stored server kind
      rw [words]
      constructor
      · intro same
        refine .inr (.inr (depends.mp fun arg rest => ?_))
        rw [← unsplit, ← split]
        exact same (arg :: rest)
      · rintro (one | held | insensitive) rest
        · exact absurd (words.trans one) notOne
        · exact absurd held present
        · cases rest with
          | nil => rfl
          | cons arg rest =>
            rw [unsplit, split]
            exact depends.mpr insensitive arg rest

/-- A table from before `CONFIG`. -/
def withoutConfig : CommandTable := twoContainers.take 1

/-- The two words of a name. -/
theorem splitText_memory_usage :
    splitText "memory usage".toList = ["memory".toList, "usage".toList] := by
  show splitText ("memory".toList ++ ' ' :: "usage".toList) = _
  exact splitText_two (by decide) (by decide) (by decide) (by decide)

/-- Reading the table gives the table. -/
theorem initializeCommands_someServer (kind : ParserKind) :
    initializeCommands Casing.ofAscii someServer kind = .ok twoContainers := by
  cases kind with
  | sync => rfl
  | async => rfl

/-- A command that an older table has keeps its keys. -/
theorem memory_usage_known :
    (getKeys Casing.ofAscii someServer .async withoutConfig
        [.str "memory usage".toList, .str "foo".toList]).1 =
      (getKeys Casing.ofAscii someServer .async twoContainers
        [.str "memory usage".toList, .str "foo".toList]).1 := by
  have older : ∀ cmd info, Dict.get withoutConfig cmd = some info →
      Dict.get twoContainers cmd = some info := by
    intro cmd info found
    have member : (cmd, info) ∈ withoutConfig := Dict.mem_of_get found
    have unique : Dict.Unique twoContainers := by
      unfold Dict.Unique
      decide
    exact unique.get_of_mem (List.mem_of_mem_take member)
  have form : splitText "memory usage".toList = ["memory usage".toList] ∨
      2 ≤ (splitText "memory usage".toList).length := by
    rw [splitText_memory_usage]
    exact .inr (by decide)
  have same := (stale_iff names_twoContainers (initializeCommands_someServer .async) older
    splitText_memory_usage rfl form).mpr (.inr (.inl (by decide)))
  exact same [.str "foo".toList]

/-- Before its first command is known, the key of `MEMORY USAGE` is not found. -/
theorem memory_usage_unknown :
    ¬∀ (casing : Casing) (server : CommandServer Nat) (kind : ParserKind) (stale fresh : CommandTable)
      (name : Text) (rest : List (Arg Nat)), Names fresh →
      initializeCommands casing server kind = .ok fresh →
      (∀ cmd info, Dict.get stale cmd = some info → Dict.get fresh cmd = some info) →
      (∃ first more, splitText name = first :: more ∧
        Dict.contains fresh (casing.lower first) = true) →
        (getKeys casing server kind stale (.str name :: rest)).1 =
          (getKeys casing server kind fresh (.str name :: rest)).1 := by
  intro all
  have same := all Casing.ofAscii someServer .sync [] twoContainers "memory usage".toList
    [.str "foo".toList] names_twoContainers (initializeCommands_someServer .sync)
    (fun cmd info found => by cases found) ⟨_, _, splitText_memory_usage, by decide⟩
  have unsplit : findName Casing.ofAscii someServer .sync [] (.str "memory usage".toList)
      [.str "foo".toList] =
        (.ok ("memory".toList, [.str "memory usage".toList, .str "foo".toList]), twoContainers) :=
    findName_unsplit splitText_memory_usage (by decide) (by decide)
      (initializeCommands_someServer .sync) (by decide)
  have split : findName Casing.ofAscii someServer .sync twoContainers (.str "memory usage".toList)
      [.str "foo".toList] =
        (.ok ("memory".toList, [.str "memory".toList, .str "usage".toList, .str "foo".toList]),
          twoContainers) :=
    findName_split splitText_memory_usage (by decide) (by decide)
  rw [getKeys_of_findName unsplit rfl, getKeys_of_findName split rfl] at same
  cases same

end CommandsParser

end RedisPy

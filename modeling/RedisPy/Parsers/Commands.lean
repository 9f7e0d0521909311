import RedisPy.Python.Dict
import RedisPy.Python.Splitting
import RedisPy.Client.Packing
import Mathlib.Data.List.Infix

/-!
# Where the keys of a command are

`CommandsParser` and `AsyncCommandsParser`: the key positions that `COMMAND` reports, the table of
them, and `get_keys`. The two classes differ in how they fill the table and in what they send to
`COMMAND GETKEYS`.
-/

namespace RedisPy

variable {F : Type}

/-! ## Names -/

/-- `str.lower`, `str.upper` and `str.isupper` of a character. -/
structure Casing where
  lower : Text → Text
  upper : Text → Text
  isUpper : Char → Bool
  split_lower : ∀ text, splitText (lower text) = (splitText text).map lower
  any_lower : ∀ text, (lower text).any isUnicodeSpace = text.any isUnicodeSpace
  any_upper : ∀ text, (upper text).any isUnicodeSpace = text.any isUnicodeSpace
  lower_lower : ∀ text, lower (lower text) = lower text

/-! ## Case in ASCII -/

/-- Splitting commutes with what keeps blanks and makes none. -/
theorem splitText_map {f : Char → Char} (same : ∀ c, isUnicodeSpace (f c) = isUnicodeSpace c)
    (text : Text) : splitText (text.map f) = (splitText text).map (List.map f) := by
  have pieces : (text.map f).splitOnP isUnicodeSpace =
      (text.splitOnP isUnicodeSpace).map (List.map f) := by
    induction text with
    | nil => simp
    | cons c text ih =>
      rw [List.map_cons, List.splitOnP_cons_eq_if_modifyHead, List.splitOnP_cons_eq_if_modifyHead, same, ih]
      by_cases blank : isUnicodeSpace c = true
      · simp [blank]
      · simp only [blank, Bool.false_eq_true, ↓reduceIte]
        cases text.splitOnP isUnicodeSpace with
        | nil => rfl
        | cons first others => rfl
  rw [splitText, pieces, splitText, List.filter_map]
  congr 1
  refine List.filter_congr fun piece _ => ?_
  simp

/-- The number of a character in lower case. -/
theorem toNat_toLower (c : Char) :
    c.toLower.toNat = if 65 ≤ c.toNat ∧ c.toNat ≤ 90 then c.toNat + 32 else c.toNat := by
  have small : c.toNat < 4294967296 := c.val.toNat_lt
  unfold Char.toLower
  simp only [UInt32.le_iff_toNat_le, ge_iff_le]
  split
  · next between =>
    have range : 65 ≤ c.toNat ∧ c.toNat ≤ 90 := between
    rw [if_pos range]
    show (c.val + 32).toNat = _
    rw [UInt32.toNat_add]
    show (c.toNat + 32) % 4294967296 = _
    omega
  · next apart =>
    have range : ¬(65 ≤ c.toNat ∧ c.toNat ≤ 90) := apart
    rw [if_neg range]

/-- The number of a character in upper case. -/
theorem toNat_toUpper (c : Char) :
    c.toUpper.toNat = if 97 ≤ c.toNat ∧ c.toNat ≤ 122 then c.toNat - 32 else c.toNat := by
  have small : c.toNat < 4294967296 := c.val.toNat_lt
  unfold Char.toUpper
  simp only [UInt32.le_iff_toNat_le]
  split
  · next between =>
    have range : 97 ≤ c.toNat ∧ c.toNat ≤ 122 := between
    rw [if_pos range]
    show (c.val + 4294967264).toNat = _
    rw [UInt32.toNat_add]
    show (c.toNat + 4294967264) % 4294967296 = _
    omega
  · next apart =>
    have range : ¬(97 ≤ c.toNat ∧ c.toNat ≤ 122) := apart
    rw [if_neg range]

/-- Lower case keeps blanks and makes none. -/
theorem isUnicodeSpace_toLower (c : Char) : isUnicodeSpace c.toLower = isUnicodeSpace c := by
  have number := toNat_toLower c
  by_cases letter : 65 ≤ c.toNat ∧ c.toNat ≤ 90
  · rw [if_pos letter] at number
    rw [isUnicodeSpace_of_printable ⟨by omega, by omega⟩, isUnicodeSpace_of_printable ⟨by omega, by omega⟩]
  · rw [if_neg letter] at number
    rw [Char.toNat_inj.mp number]

/-- Upper case keeps blanks and makes none. -/
theorem isUnicodeSpace_toUpper (c : Char) : isUnicodeSpace c.toUpper = isUnicodeSpace c := by
  have number := toNat_toUpper c
  by_cases letter : 97 ≤ c.toNat ∧ c.toNat ≤ 122
  · rw [if_pos letter] at number
    rw [isUnicodeSpace_of_printable ⟨by omega, by omega⟩, isUnicodeSpace_of_printable ⟨by omega, by omega⟩]
  · rw [if_neg letter] at number
    rw [Char.toNat_inj.mp number]

/-- A lower-case character is its own lower case. -/
theorem toLower_toLower (c : Char) : c.toLower.toLower = c.toLower := by
  have first := toNat_toLower c
  have second := toNat_toLower c.toLower
  have same : c.toLower.toLower.toNat = c.toLower.toNat := by
    by_cases letter : 65 ≤ c.toNat ∧ c.toNat ≤ 90
    · rw [if_pos letter] at first
      rw [second, if_neg (by omega)]
    · rw [if_neg letter] at first
      rw [second, if_neg (by omega)]
  exact Char.toNat_inj.mp same

/-- The mappings of ASCII letters, which leave all other characters alone. -/
def Casing.ofAscii : Casing where
  lower text := text.map Char.toLower
  upper text := text.map Char.toUpper
  isUpper := Char.isUpper
  split_lower := splitText_map isUnicodeSpace_toLower
  any_lower text := by
    rw [List.any_map]
    exact congrArg text.any (funext isUnicodeSpace_toLower)
  any_upper text := by
    rw [List.any_map]
    exact congrArg text.any (funext isUnicodeSpace_toUpper)
  lower_lower text := by
    rw [List.map_map]
    exact List.map_congr_left fun c _ => toLower_toLower c

/-! ## Octets -/

/-- `bytes.lower`. -/
def lowerBytes (data : Bytes) : Bytes := data.map fun b => if 65 ≤ b ∧ b ≤ 90 then b + 32 else b

/-- `bytes.upper`. -/
def upperBytes (data : Bytes) : Bytes := data.map fun b => if 97 ≤ b ∧ b ≤ 122 then b - 32 else b

/-- One octet in the `repr` of a `bytes` value with the given quote. -/
def reprOctet (quote b : UInt8) : Text :=
  if b = quote ∨ b = 92 then ['\\', Char.ofNat b.toNat]
  else if b = 9 then "\\t".toList
  else if b = 10 then "\\n".toList
  else if b = 13 then "\\r".toList
  else if b < 32 ∨ 127 ≤ b then
    '\\' :: 'x' :: [Nat.digitChar (b.toNat / 16), Nat.digitChar (b.toNat % 16)]
  else [Char.ofNat b.toNat]

/-- `repr` of a `bytes` value, which is also its `str`. -/
def reprBytes (data : Bytes) : Text :=
  let quote : UInt8 := if 39 ∈ data ∧ 34 ∉ data then 34 else 39
  'b' :: Char.ofNat quote.toNat :: data.flatMap (reprOctet quote) ++ [Char.ofNat quote.toNat]

/-- `str_if_bytes`. -/
def Arg.strIfBytes : Arg F → Arg F
  | .bytes data => .str (decodeReplace data)
  | arg => arg

/-! ## The table -/

/-- The key positions of a command or a subcommand. -/
structure KeySpec where
  /-- `first_key_pos`. -/
  firstKeyPos : Nat
  /-- `last_key_pos`, from the end if negative. -/
  lastKeyPos : Int
  /-- `step_count`. -/
  stepCount : Nat
deriving DecidableEq

/-- The position of a key is given. -/
def KeySpec.hasKeys (spec : KeySpec) : Bool :=
  !(spec.stepCount == 0 && spec.firstKeyPos == 0 && spec.lastKeyPos == 0)

/-- What `parse_subcommand` reads, as far as it is used. -/
structure Subcommand extends KeySpec where
  /-- `name`, that of the container included. -/
  name : Text
deriving DecidableEq

/-- An entry of the parsed `COMMAND` reply, as far as it is used. -/
structure CommandInfo extends KeySpec where
  /-- `name`. -/
  name : Text
  /-- `flags`. -/
  flags : List Text
  /-- `subcommands`, which servers before 7.0 do not send. -/
  subcommands : Option (List Subcommand)
deriving DecidableEq

/-- `self.commands`. -/
abbrev CommandTable := Dict Text CommandInfo

/-- What a server answers. -/
structure CommandServer (F : Type) where
  /-- The parsed reply of `COMMAND`. -/
  command : Except Exc CommandTable
  /-- The reply of `COMMAND GETKEYS`. -/
  commandGetkeys : List (Arg F) → Except Exc (List (Arg F))

/-- The two parsers. -/
inductive ParserKind where
  /-- `CommandsParser`. -/
  | sync
  /-- `AsyncCommandsParser`. -/
  | async
deriving DecidableEq

namespace CommandsParser

section Calls

variable (casing : Casing) (server : CommandServer F)

/-- `commands[cmd.lower()] = commands.pop(cmd)`. -/
def lowerName (commands : CommandTable) (cmd : Text) : CommandTable :=
  match Dict.get commands cmd with
  | some info => Dict.set (Dict.erase commands cmd) (casing.lower cmd) info
  | none => commands

/-- `initialize`: the table that it stores. -/
def initializeCommands (kind : ParserKind) : Except Exc CommandTable :=
  match server.command with
  | .error e => .error e
  | .ok commands =>
    match kind with
    | .sync =>
      .ok (((Dict.keys commands).filter fun cmd => cmd.any casing.isUpper).foldl
        (lowerName casing) commands)
    | .async =>
      .ok (commands.foldl (fun table item => Dict.set table (casing.lower item.1) item.2) [])

/-- The error for a name that the server does not report. -/
def doesNotExist (name : Text) : Exc :=
  { cls := .redisError, args := [name ++ " command doesn't exist in Redis commands".toList] }

/-- `get_keys` up to the look-up of the command: the name to look up and the arguments from there
on, and the table. -/
def findName (kind : ParserKind) (table : CommandTable) :
    Arg F → List (Arg F) → Except Exc (Text × List (Arg F)) × CommandTable
  | .str text, rest =>
    if Dict.contains table (casing.lower text) then
      (.ok (casing.lower text, .str text :: rest), table)
    else
      match splitText (casing.lower text) with
      | [] => (.error { cls := .indexError }, table)
      | first :: words =>
        if Dict.contains table first then
          (.ok (first, (first :: words).map .str ++ rest), table)
        else
          -- the arguments stay as they are from here on
          match initializeCommands casing server kind with
          | .error e => (.error e, table)
          | .ok fresh =>
            if Dict.contains fresh first then (.ok (first, .str text :: rest), fresh)
            else (.error (doesNotExist (casing.upper first)), fresh)
  | .bytes data, _ =>
    -- no name of the table is equal to a `bytes` value
    match splitBlanks (lowerBytes data) with
    | [] => (.error { cls := .indexError }, table)
    | first :: _ =>
      match initializeCommands casing server kind with
      | .error e => (.error e, table)
      | .ok fresh => (.error (doesNotExist (reprBytes (upperBytes first))), fresh)
  | _, _ => (.error { cls := .attributeError }, table)

/-- The subcommands in the replies to a `PUBSUB` command. -/
def pubsubTypes : List Text :=
  ["CHANNELS".toList, "NUMSUB".toList, "SHARDCHANNELS".toList, "SHARDNUMSUB".toList]

/-- The commands with channels from the first argument on. -/
def subscribing : List Text :=
  ["SUBSCRIBE".toList, "PSUBSCRIBE".toList, "UNSUBSCRIBE".toList, "PUNSUBSCRIBE".toList]

/-- `_get_pubsub_keys`. -/
def getPubsubKeys (args : List (Arg F)) : Except Exc (Option (List (Arg F))) :=
  match args.map Arg.strIfBytes with
  | .str name :: kind :: more =>
    if casing.upper name = "PUBSUB".toList then
      match kind with
      | .str kind => .ok (if casing.upper kind ∈ pubsubTypes then some more else none)
      | _ => .error { cls := .attributeError }
    else if casing.upper name ∈ subscribing then .ok (some (kind :: more))
    else if casing.upper name ∈ ["PUBLISH".toList, "SPUBLISH".toList] then .ok (some [kind])
    else .ok none
  | _ :: _ :: _ => .error { cls := .attributeError }
  | _ => .ok none

/-- The texts of an answer that there are no keys. -/
def noKeysTexts : List Text :=
  ["Invalid arguments".toList, "The command has no key arguments".toList]

/-- The error says that there are no keys. -/
def saysNoKeys (e : Exc) : Bool :=
  e.isinstance .responseError && e.args.any fun message => noKeysTexts.any (· <:+: message)

/-- `_get_moveable_keys`. -/
def getMoveableKeys (kind : ParserKind) (args : List (Arg F)) :
    Except Exc (Option (List (Arg F))) :=
  let pieces : List (Arg F) :=
    match kind, args with
    | .sync, .str name :: rest => (splitText name).map .str ++ rest
    | _, args => args
  match server.commandGetkeys pieces with
  | .ok keys => .ok (some keys)
  | .error e => if saysNoKeys e then .ok none else .error e

/-- `args[1].lower()` in the name of a subcommand. -/
def subcommandText : Arg F → Except Exc Text
  | .str text => .ok (casing.lower text)
  | .bytes data => .ok (reprBytes (lowerBytes data))
  | _ => .error { cls := .attributeError }

/-- The last subcommand of this name. -/
def namedSubcommand (subcommands : List Subcommand) (name : Text) : Option KeySpec :=
  (subcommands.filter fun subcmd => subcmd.name = name).getLast?.map (·.toKeySpec)

/-- The key positions of the command or its subcommand, if it has keys. -/
def selectSpec (cmdName : Text) (command : CommandInfo) (args : List (Arg F)) :
    Except Exc (Option KeySpec) :=
  if command.hasKeys then .ok (some command.toKeySpec)
  else
    match command.subcommands with
    | none => .ok none
    | some subcommands =>
      match args[1]? with
      | none => .error { cls := .indexError }
      | some arg =>
        (subcommandText casing arg).map fun text =>
          namedSubcommand subcommands (cmdName ++ '|' :: text)

/-- `range(start, stop, step)` for a positive step. -/
def pyRange (start : Nat) (stop : Int) (step : Nat) : List Nat :=
  List.range' start ((stop - start + step - 1) / step).toNat step

/-- `args[pos]`. -/
def argAt (args : List (Arg F)) (pos : Nat) : Except Exc (Arg F) :=
  match args[pos]? with
  | some arg => .ok arg
  | none => .error { cls := .indexError }

/-- `last_key_pos` in arguments of this number. -/
def lastPos (spec : KeySpec) (length : Nat) : Int :=
  if spec.lastKeyPos < 0 then length - spec.lastKeyPos.natAbs else spec.lastKeyPos

/-- The arguments at the key positions. -/
def keysAt (spec : KeySpec) (args : List (Arg F)) : Except Exc (List (Arg F)) :=
  if spec.stepCount = 0 then .error { cls := .valueError }
  else
    (pyRange spec.firstKeyPos (lastPos spec args.length + 1) spec.stepCount).mapM (argAt args)

/-- What is returned for the key positions, which a command without keys has none of. -/
def keysFor (args : List (Arg F)) : Option KeySpec → Except Exc (Option (List (Arg F)))
  | none => .ok none
  | some spec => (keysAt spec args).map some

/-- `get_keys` from the look-up of the command on. -/
def keysOf (kind : ParserKind) (cmdName : Text) (command : CommandInfo) (args : List (Arg F)) :
    Except Exc (Option (List (Arg F))) :=
  if "movablekeys".toList ∈ command.flags then getMoveableKeys server kind args
  else if "pubsub".toList ∈ command.flags ∨ command.name = "pubsub".toList then
    getPubsubKeys casing args
  else
    (selectSpec casing cmdName command args).bind (keysFor args)

/-- `get_keys`: its result and the table afterwards. -/
def getKeys (kind : ParserKind) (table : CommandTable) (args : List (Arg F)) :
    Except Exc (Option (List (Arg F))) × CommandTable :=
  match args with
  | name :: second :: rest =>
    match findName casing server kind table name (second :: rest) with
    | (.error e, table) => (.error e, table)
    | (.ok (cmdName, args), table) =>
      match Dict.get table cmdName with
      | some command => (keysOf casing server kind cmdName command args, table)
      | none => (.error { cls := .typeError }, table)
  | _ => (.ok none, table)

end Calls

end CommandsParser

end RedisPy

import Mathlib.Data.List.Dedup
import RedisPy.Parsers.Commands

/-!
# Slots of keys and of commands

`key_slot`, and `determine_slot` of the blocking client. The first one is compared with the rule of
the cluster specification for hash tags, the second one with the slots of the keys of a command.
-/

namespace RedisPy

/-! ## CRC16 -/

/-- One bit of the division by `x^16 + x^12 + x^5 + 1`. -/
def crcShift (crc : BitVec 16) : BitVec 16 :=
  if crc.msb then (crc <<< 1) ^^^ 0x1021#16 else crc <<< 1

/-- One octet. -/
def crcOctet (crc : BitVec 16) (octet : UInt8) : BitVec 16 :=
  crcShift^[8] (crc ^^^ (octet.toBitVec.setWidth 16 <<< 8))

/-- `crc_hqx`. -/
def crcHqx (data : Bytes) (crc : BitVec 16) : BitVec 16 := data.foldl crcOctet crc

/-- CRC16-XMODEM. -/
def crc16Xmodem (data : Bytes) : Nat := (crcHqx data 0).toNat

/-- The check value of CRC16-XMODEM. -/
example : crc16Xmodem (ascii "123456789") = 0x31C3 := by
  decide +kernel

/-! ## Slots of keys -/

/-- `REDIS_CLUSTER_HASH_SLOTS`. -/
def redisClusterHashSlots : Nat := 16384

/-- `data.find(byte, start)`. -/
def findOctet (data : Bytes) (octet : UInt8) (start : Nat) : Option Nat :=
  ((data.drop start).idxOf? octet).map (start + ·)

/-- `key_slot`. -/
def keySlot (key : Bytes) (bucket : Nat) : Nat :=
  let key :=
    match findOctet key 123 0 with
    | none => key
    | some start =>
      match findOctet key 125 (start + 1) with
      | none => key
      | some stop => if stop ≠ start + 1 then (key.take stop).drop (start + 1) else key
  crc16Xmodem key % bucket

/-- Between the first `\x7b` of the key and the first `\x7d` behind it there is a tag, not empty. -/
def HashTag (key tag : Bytes) : Prop :=
  ∃ before behind, key = before ++ 123 :: (tag ++ 125 :: behind) ∧ 123 ∉ before ∧ 125 ∉ tag ∧ tag ≠ []

/-- The part of a key that is hashed. -/
def HashedPart (key part : Bytes) : Prop :=
  HashTag key part ∨ (¬∃ tag, HashTag key tag) ∧ part = key

/-- The slot of a key in the specification of the cluster. -/
def HashesTo (key : Bytes) (slot : Nat) : Prop :=
  ∃ part, HashedPart key part ∧ slot = crc16Xmodem part % 16384

/-- The first octet that was looked for. -/
theorem findOctet_append {before : Bytes} {octet : UInt8} (first : octet ∉ before) (behind : Bytes)
    (passed : Bytes) :
    findOctet (passed ++ (before ++ octet :: behind)) octet passed.length =
      some (passed.length + before.length) := by
  have found : (before ++ octet :: behind).idxOf? octet = some before.length := by
    induction before with
    | nil => simp [List.idxOf?_cons]
    | cons other before ih =>
      have apart : other ≠ octet := fun same => first (same ▸ List.mem_cons_self)
      have later : octet ∉ before := fun member => first (List.mem_cons_of_mem _ member)
      simp [List.idxOf?_cons, apart, ih later]
  rw [findOctet, List.drop_left, found]
  rfl

/-- An octet that is not there. -/
theorem findOctet_notMem {octet : UInt8} {data : Bytes} (missing : octet ∉ data) (passed : Bytes) :
    findOctet (passed ++ data) octet passed.length = none := by
  rw [findOctet, List.drop_left, List.idxOf?_eq_none_iff.mpr missing]
  rfl

/-- The tag of a key is what is hashed. -/
theorem keySlot_of_tag {key tag : Bytes} (tagged : HashTag key tag) (bucket : Nat) :
    keySlot key bucket = crc16Xmodem tag % bucket := by
  obtain ⟨before, behind, rfl, unopened, unclosed, nonempty⟩ := tagged
  have opens : findOctet (before ++ 123 :: (tag ++ 125 :: behind)) 123 0 = some before.length := by
    have found := findOctet_append unopened (tag ++ 125 :: behind) []
    rwa [List.nil_append, List.length_nil, Nat.zero_add] at found
  have split : before ++ 123 :: (tag ++ 125 :: behind) = (before ++ [123]) ++ (tag ++ 125 :: behind) := by
    simp
  have closes : findOctet (before ++ 123 :: (tag ++ 125 :: behind)) 125 (before.length + 1) =
      some (before.length + 1 + tag.length) := by
    have found := findOctet_append unclosed behind (before ++ [123])
    rwa [← split, List.length_append, List.length_singleton] at found
  have positive : 0 < tag.length := List.length_pos_of_ne_nil nonempty
  have cut : ((before ++ 123 :: (tag ++ 125 :: behind)).take (before.length + 1 + tag.length)).drop
      (before.length + 1) = tag := by
    have size : (before ++ [123]).length = before.length + 1 := by simp
    rw [split, ← size, List.take_length_add_append, List.take_left, List.drop_left]
  have apart : before.length + 1 + tag.length ≠ before.length + 1 := by omega
  unfold keySlot
  simp only [opens, closes, cut, if_pos apart]

/-- A key without a tag is hashed as a whole. -/
theorem keySlot_of_untagged {key : Bytes} (untagged : ¬∃ tag, HashTag key tag) (bucket : Nat) :
    keySlot key bucket = crc16Xmodem key % bucket := by
  unfold keySlot
  by_cases opened : 123 ∈ key
  · obtain ⟨before, rest, rfl, unopened⟩ := List.eq_append_cons_of_mem opened
    have opens : findOctet (before ++ 123 :: rest) 123 0 = some before.length := by
      have found := findOctet_append unopened rest []
      rwa [List.nil_append, List.length_nil, Nat.zero_add] at found
    have split : before ++ 123 :: rest = (before ++ [123]) ++ rest := by
      simp
    have size : (before ++ [123]).length = before.length + 1 := by simp
    simp only [opens]
    by_cases closed : 125 ∈ rest
    · obtain ⟨tag, behind, rfl, unclosed⟩ := List.eq_append_cons_of_mem closed
      have empty : tag = [] := by
        by_contra nonempty
        exact untagged ⟨tag, before, behind, rfl, unopened, unclosed, nonempty⟩
      have closes := findOctet_append unclosed behind (before ++ [123])
      rw [← split, size, empty, List.length_nil, Nat.add_zero] at closes
      rw [empty]
      simp only [closes]
      simp
    · have missing := findOctet_notMem closed (before ++ [123])
      rw [← split, size] at missing
      simp only [missing]
  · have missing : findOctet key 123 0 = none := findOctet_notMem opened []
    simp only [missing]

/-- `key_slot` is the slot of the specification. -/
theorem hashesTo_iff (key : Bytes) (slot : Nat) : HashesTo key slot ↔ slot = keySlot key redisClusterHashSlots := by
  constructor
  · rintro ⟨part, tagged | ⟨untagged, rfl⟩, rfl⟩
    · exact (keySlot_of_tag tagged _).symm
    · exact (keySlot_of_untagged untagged _).symm
  · rintro rfl
    by_cases tagged : ∃ tag, HashTag key tag
    · obtain ⟨tag, tagged⟩ := tagged
      exact ⟨tag, .inl tagged, keySlot_of_tag tagged _⟩
    · exact ⟨key, .inr ⟨tagged, rfl⟩, keySlot_of_untagged tagged _⟩

/-! ## Slots of commands -/

variable {F : Type}

/-- What `determine_slot` depends on, beside the table of commands. -/
structure SlotConfig (F : Type) where
  casing : Casing
  /-- The default node, which is asked for keys. -/
  server : CommandServer F
  /-- There is a default node. -/
  defaultNode : Bool
  encoder : ArgEncoder F
  /-- `int(value)` of a float. -/
  truncate : F → Except Exc Int
  /-- `str.encode` raises nothing else. -/
  codec : ∀ text e, encoder.encodeText text = .error e → e.cls = .unicodeEncodeError

/-- What `determine_slot` returns. -/
inductive SlotAnswer (F : Type) where
  /-- The argument of a command that contains its slot. -/
  | given (arg : Arg F)
  | slot (slot : Nat)

/-- The commands with the flag `SLOT_ID`. -/
def slotIdCommands : List String :=
  ["CLUSTER COUNTKEYSINSLOT", "CLUSTER DELSLOTS", "CLUSTER DELSLOTSRANGE", "CLUSTER GETKEYSINSLOT",
    "CLUSTER SETSLOT"]

/-- `self.command_flags.get(command) == SLOT_ID`. -/
def Arg.isSlotId : Arg F → Bool
  | .str text => (slotIdCommands.map String.toList).contains text
  | _ => false

namespace SlotConfig

variable (config : SlotConfig F)

/-- `command.upper() in names`. -/
def isNamed (names : List String) : Arg F → Except Exc Bool
  | .str text => .ok ((names.map String.toList).contains (config.casing.upper text))
  | .bytes _ => .ok false
  | _ => .error { cls := .attributeError }

/-- `int(value)`. -/
def toInt : Arg F → Except Exc Int
  | .str text =>
    match intOfText text with
    | some n => .ok n
    | none => .error { cls := .valueError }
  | .bytes data | .memoryview data =>
    match intOfBytes data with
    | some n => .ok n
    | none => .error { cls := .valueError }
  | .int n => .ok n
  | .float x => config.truncate x

/-- `keyslot`; a memoryview has no `find`. -/
def keyslot (key : Arg F) : Except Exc Nat :=
  match config.encoder.encode key with
  | .error e => .error e
  | .ok (.bytes data) => .ok (keySlot data redisClusterHashSlots)
  | .ok (.memoryview _) => .error { cls := .attributeError }

/-- `slots.pop()`, if the set has one element. -/
def popSlot (slots : List Nat) : Except Exc Nat :=
  match slots.dedup with
  | [slot] => .ok slot
  | _ => .error { cls := .redisClusterException }

/-- The end of `determine_slot`. -/
def slotOfKeys (keys : List (Arg F)) : Except Exc Nat :=
  match keys with
  | [key] => config.keyslot key
  | keys => do
    let slots ← keys.mapM config.keyslot
    popSlot slots

/-- `determine_slot`, with the table of commands afterwards. -/
def determineSlot (table : CommandTable) (random : Nat) (args : List (Arg F)) :
    Except Exc (SlotAnswer F) × CommandTable :=
  match args with
  | [] => (.error { cls := .indexError }, table)
  | command :: rest =>
    if command.isSlotId then
      match rest with
      | [] => (.error { cls := .indexError }, table)
      | arg :: _ => (.ok (.given arg), table)
    else
      match config.isNamed ["EVAL", "EVALSHA"] command with
      | .error e => (.error e, table)
      | .ok true =>
        match args[2]? with
        | none => (.error { cls := .redisClusterException }, table)
        | some number =>
          match config.toInt number with
          | .error e => (.error e, table)
          | .ok numActualKeys =>
            match (args.take (sliceIndex args.length (3 + numActualKeys))).drop 3 with
            | [] => (.ok (.slot (random % redisClusterHashSlots)), table)
            | evalKeys => ((config.slotOfKeys evalKeys).map .slot, table)
      | .ok false =>
        if config.defaultNode = false then (.error { cls := .attributeError }, table)
        else
          match CommandsParser.getKeys config.casing config.server .sync table args with
          | (.error e, table) => (.error e, table)
          | (.ok keys, table) =>
            match keys.getD [], config.isNamed ["FCALL", "FCALL_RO"] command with
            | [], .ok true => (.ok (.slot (random % redisClusterHashSlots)), table)
            | [], .ok false => (.error { cls := .redisClusterException }, table)
            | [], .error e => (.error e, table)
            | keys, _ => ((config.slotOfKeys keys).map .slot, table)

/-! ## The slot of all keys -/

/-- The keys of a command: those that `numkeys` names for `EVAL` and `EVALSHA`, and otherwise those that
`get_keys` reports. -/
def commandKeys (table : CommandTable) (args : List (Arg F)) : Except Exc (List (Arg F)) :=
  match args with
  | [] => .error { cls := .indexError }
  | command :: _ =>
    match config.isNamed ["EVAL", "EVALSHA"] command with
    | .error e => .error e
    | .ok true =>
      match args[2]? with
      | none => .ok []
      | some number => (config.toInt number).map fun numkeys => (args.drop 3).take numkeys.toNat
    | .ok false =>
      if config.defaultNode = false then .error { cls := .attributeError }
      else (CommandsParser.getKeys config.casing config.server .sync table args).1.map (·.getD [])

/-- A command of these forms runs anywhere. -/
def Keyless (table : CommandTable) (args : List (Arg F)) : Prop :=
  config.commandKeys table args = .ok [] ∧ ∃ command rest, args = command :: rest ∧
    (config.isNamed ["EVAL", "EVALSHA"] command = .ok true ∧ 2 < args.length ∨
      config.isNamed ["FCALL", "FCALL_RO"] command = .ok true)

/-- The slot of a key in the specification. -/
def SlotOf (key : Arg F) (slot : Nat) : Prop :=
  ∃ chunk, config.encoder.encode key = .ok chunk ∧ HashesTo chunk.data slot

/-- Slots follow the specification: those of keys, with or without a tag, and those of a command. -/
structure FollowsSpecification (table : CommandTable) (random : Nat) (args : List (Arg F)) : Prop where
  slots : ∀ key, HashesTo key (keySlot key redisClusterHashSlots)
  shared : ∀ key other tag, HashTag key tag → HashTag other tag →
    keySlot key redisClusterHashSlots = keySlot other redisClusterHashSlots
  raised : ∀ e, config.commandKeys table args = .error e →
    (config.determineSlot table random args).1 = .error e
  returned : ∀ keys, config.commandKeys table args = .ok keys → ∀ slot,
    (config.determineSlot table random args).1 = .ok (.slot slot) ↔
      keys ≠ [] ∧ slot < 16384 ∧ ∀ key ∈ keys, config.SlotOf key slot
  refused : ∀ keys, config.commandKeys table args = .ok keys →
    ((∃ e, (config.determineSlot table random args).1 = .error e ∧ e.cls = .redisClusterException) ↔
      keys = [] ∨ ¬∃ slot, ∀ key ∈ keys, config.SlotOf key slot)

/-- The keys that a positive `numkeys` names are a slice. -/
theorem take_sliceIndex {α : Type} (args : List α) {numkeys : Int} (positive : 0 ≤ numkeys) :
    (args.take (sliceIndex args.length (3 + numkeys))).drop 3 = (args.drop 3).take numkeys.toNat := by
  have natural : ¬3 + numkeys < 0 := by omega
  have stop : (3 + numkeys).toNat = numkeys.toNat + 3 := by omega
  rw [sliceIndex, if_neg natural, stop, List.drop_take]
  by_cases inside : numkeys.toNat + 3 ≤ args.length
  · rw [Nat.min_eq_left inside, Nat.add_sub_cancel]
  · rw [Nat.min_eq_right (by omega), List.take_of_length_le (by simp),
      List.take_of_length_le (by rw [List.length_drop]; omega)]

/-- `numkeys` names the keys that are reduced, where there are any. -/
theorem determineSlot_eval {table : CommandTable} {command : Arg F} {rest : List (Arg F)} (random : Nat)
    (plain : command.isSlotId = false) (named : config.isNamed ["EVAL", "EVALSHA"] command = .ok true)
    (keyed : ¬config.Keyless table (command :: rest)) :
    (config.determineSlot table random (command :: rest)).1 =
      match config.commandKeys table (command :: rest) with
      | .error e => .error e
      | .ok [] => .error { cls := .redisClusterException }
      | .ok keys => (config.slotOfKeys keys).map .slot := by
  unfold determineSlot commandKeys
  simp only [plain, Bool.false_eq_true, ↓reduceIte, named]
  cases numbered : (command :: rest)[2]? with
  | none => simp only
  | some number =>
    simp only
    cases read : config.toInt number with
    | error e => rfl
    | ok numkeys =>
      have long : 2 < (command :: rest).length := (List.getElem?_eq_some_iff.mp numbered).1
      have keys : config.commandKeys table (command :: rest) =
          .ok (((command :: rest).drop 3).take numkeys.toNat) := by
        unfold commandKeys
        simp only [named, numbered, read]
        rfl
      have some : ((command :: rest).drop 3).take numkeys.toNat ≠ [] := by
        intro empty
        rw [empty] at keys
        exact keyed ⟨keys, command, rest, rfl, .inl ⟨named, long⟩⟩
      have positive : 0 ≤ numkeys := by
        by_contra negative
        refine some ?_
        rw [Int.toNat_of_nonpos (by omega), List.take_zero]
      simp only [take_sliceIndex _ positive, Except.map]

/-- The keys that `get_keys` reports are reduced, where there are any. -/
theorem determineSlot_reported {table : CommandTable} {command : Arg F} {rest : List (Arg F)} (random : Nat)
    (plain : command.isSlotId = false) (named : config.isNamed ["EVAL", "EVALSHA"] command = .ok false)
    (keyed : ¬config.Keyless table (command :: rest)) :
    (config.determineSlot table random (command :: rest)).1 =
      match config.commandKeys table (command :: rest) with
      | .error e => .error e
      | .ok [] => .error { cls := .redisClusterException }
      | .ok keys => (config.slotOfKeys keys).map .slot := by
  unfold determineSlot commandKeys
  simp only [plain, Bool.false_eq_true, ↓reduceIte, named]
  by_cases known : config.defaultNode = false
  · simp only [known, ↓reduceIte]
  · simp only [known]
    cases reported : CommandsParser.getKeys config.casing config.server .sync table (command :: rest) with
    | mk result after =>
      cases result with
      | error e => rfl
      | ok keys =>
        simp only [Except.map]
        cases found : keys.getD [] with
        | cons first others => rfl
        | nil =>
          have keys : config.commandKeys table (command :: rest) = .ok [] := by
            unfold commandKeys
            simp only [named]
            rw [if_neg known, reported]
            show Except.ok (keys.getD []) = _
            rw [found]
          cases fcall : config.isNamed ["FCALL", "FCALL_RO"] command with
          | ok function =>
            cases function with
            | true => exact absurd ⟨keys, command, rest, rfl, .inr fcall⟩ keyed
            | false => rfl
          | error e =>
            unfold isNamed at named fcall
            cases command <;> simp_all

/-- Apart from the forms without keys, `determine_slot` reduces the keys of the command. -/
theorem determineSlot_eq {table : CommandTable} {args : List (Arg F)} (random : Nat)
    (ordinary : ∀ command ∈ args.head?, command.isSlotId = false)
    (keyed : ¬config.Keyless table args) :
    (config.determineSlot table random args).1 =
      match config.commandKeys table args with
      | .error e => .error e
      | .ok [] => .error { cls := .redisClusterException }
      | .ok keys => (config.slotOfKeys keys).map .slot := by
  cases args with
  | nil => rfl
  | cons command rest =>
    have plain : command.isSlotId = false := ordinary command rfl
    cases named : config.isNamed ["EVAL", "EVALSHA"] command with
    | error e =>
      unfold determineSlot commandKeys
      simp only [plain, Bool.false_eq_true, ↓reduceIte, named]
    | ok eval =>
      cases eval with
      | true => exact determineSlot_eval config random plain named keyed
      | false => exact determineSlot_reported config random plain named keyed

/-- A key that is encoded to `bytes`. -/
def Hashable (key : Arg F) : Prop := ∃ data, config.encoder.encode key = .ok (.bytes data)

/-- A key has a slot in the specification exactly when it can be encoded. -/
theorem slotOf_unique {key : Arg F} {slot other : Nat} (first : config.SlotOf key slot)
    (second : config.SlotOf key other) : slot = other := by
  obtain ⟨chunk, encoded, hashes⟩ := first
  obtain ⟨chunk', encoded', hashes'⟩ := second
  rw [encoded] at encoded'
  cases encoded'
  rw [(hashesTo_iff _ _).mp hashes, (hashesTo_iff _ _).mp hashes']

/-- The slot of a key that can be hashed. -/
theorem Hashable.keyslot {config : SlotConfig F} {key : Arg F} (hashable : config.Hashable key) :
    ∃ slot, config.keyslot key = .ok slot ∧ config.SlotOf key slot ∧ slot < 16384 := by
  obtain ⟨data, encoded⟩ := hashable
  refine ⟨keySlot data redisClusterHashSlots, ?_, ⟨.bytes data, encoded, ?_⟩, Nat.mod_lt _ (by decide)⟩
  · rw [SlotConfig.keyslot, encoded]
  · exact (hashesTo_iff _ _).mpr rfl

/-- A key that cannot be hashed raises, but no `RedisClusterException`. -/
theorem keyslot_of_not_hashable {key : Arg F} (unhashable : ¬config.Hashable key) :
    ∃ e, config.keyslot key = .error e ∧ e.cls ≠ .redisClusterException := by
  unfold SlotConfig.keyslot
  cases encoded : config.encoder.encode key with
  | error e =>
    refine ⟨e, rfl, ?_⟩
    cases key with
    | str text =>
      cases ran : config.encoder.encodeText text with
      | error other =>
        have same : other = e := by simpa [ArgEncoder.encode, ran, Except.map] using encoded
        rw [← same, config.codec text other ran]
        decide
      | ok data => simp [ArgEncoder.encode, ran, Except.map] at encoded
    | _ => cases encoded
  | ok chunk =>
    cases chunk with
    | bytes data => exact absurd ⟨data, encoded⟩ unhashable
    | memoryview data => exact ⟨_, rfl, by decide⟩

/-- The slots of several keys, or the error of the first one that cannot be hashed. -/
theorem mapM_keyslot (keys : List (Arg F)) :
    ((∀ key ∈ keys, config.Hashable key) ∧ ∃ slots, keys.mapM config.keyslot = .ok slots ∧
        List.Forall₂ config.SlotOf keys slots ∧ ∀ slot ∈ slots, slot < 16384) ∨
      (∃ key ∈ keys, ¬config.Hashable key) ∧
        ∃ e, keys.mapM config.keyslot = .error e ∧ e.cls ≠ .redisClusterException := by
  induction keys with
  | nil => exact .inl ⟨by simp, [], rfl, .nil, fun slot member => by cases member⟩
  | cons key keys ih =>
    rw [List.mapM_cons]
    by_cases hashable : config.Hashable key
    · obtain ⟨slot, read, hashes, small⟩ := hashable.keyslot
      rw [read]
      rcases ih with ⟨fine, slots, ran, all, bounds⟩ | ⟨⟨other, member, fails⟩, e, ran, foreign⟩
      · exact .inl ⟨List.forall_mem_cons.mpr ⟨hashable, fine⟩, slot :: slots, by rw [ran]; rfl,
          .cons hashes all, List.forall_mem_cons.mpr ⟨small, bounds⟩⟩
      · exact .inr ⟨⟨other, List.mem_cons_of_mem _ member, fails⟩, e, by rw [ran]; rfl, foreign⟩
    · obtain ⟨e, raised, foreign⟩ := config.keyslot_of_not_hashable hashable
      exact .inr ⟨⟨key, List.mem_cons_self, hashable⟩, e, by rw [raised]; rfl, foreign⟩

/-- Only one value is in a list. -/
theorem dedup_eq_singleton_iff {slots : List Nat} {slot : Nat} :
    slots.dedup = [slot] ↔ slots ≠ [] ∧ ∀ other ∈ slots, other = slot := by
  constructor
  · intro single
    have members (other : Nat) : other ∈ slots ↔ other = slot := by
      rw [← List.mem_dedup, single, List.mem_singleton]
    refine ⟨fun empty => ?_, fun other => (members other).mp⟩
    have there := (members slot).mpr rfl
    rw [empty] at there
    cases there
  · rintro ⟨some, same⟩
    rw [List.eq_replicate_of_mem same]
    exact List.replicate_dedup (by simpa using some)

/-- There is one slot to pop, or there is a `RedisClusterException`. -/
theorem popSlot_spec {slots : List Nat} (some : slots ≠ []) :
    (∃ slot, popSlot slots = .ok slot ∧ ∀ other ∈ slots, other = slot) ∨
      popSlot slots = .error { cls := .redisClusterException } ∧ ¬∃ slot, ∀ other ∈ slots, other = slot := by
  by_cases one : ∃ slot, ∀ other ∈ slots, other = slot
  · obtain ⟨slot, same⟩ := one
    refine .inl ⟨slot, ?_, same⟩
    rw [popSlot, dedup_eq_singleton_iff.mpr ⟨some, same⟩]
  · refine .inr ⟨?_, one⟩
    unfold popSlot
    split
    · next slot single => exact absurd ⟨slot, (dedup_eq_singleton_iff.mp single).2⟩ one
    · rfl

/-- What the end of `determine_slot` gives for keys: their one slot, or an error. -/
theorem slotOfKeys_spec {keys : List (Arg F)} (some : keys ≠ []) :
    ((∀ key ∈ keys, config.Hashable key) ∧ ∃ slots, List.Forall₂ config.SlotOf keys slots ∧
        (∀ slot ∈ slots, slot < 16384) ∧ config.slotOfKeys keys = popSlot slots) ∨
      (∃ key ∈ keys, ¬config.Hashable key) ∧
        ∃ e, config.slotOfKeys keys = .error e ∧ e.cls ≠ .redisClusterException := by
  have unfolded : config.slotOfKeys keys = keys.mapM config.keyslot >>= popSlot := by
    match keys with
    | [] => exact absurd rfl some
    | [key] =>
      rw [List.mapM_cons, List.mapM_nil]
      show config.keyslot key = _
      cases config.keyslot key with
      | error e => rfl
      | ok slot =>
        show _ = popSlot [slot]
        simp [popSlot]
    | first :: second :: others => rfl
  rw [unfolded]
  rcases config.mapM_keyslot keys with ⟨fine, slots, ran, all, bounds⟩ | ⟨fails, e, ran, foreign⟩
  · exact .inl ⟨fine, slots, all, bounds, by rw [ran]; rfl⟩
  · exact .inr ⟨fails, e, by rw [ran]; rfl, foreign⟩

/-- Slots of keys are all one slot exactly when the keys hash to it. -/
theorem forall_slotOf_iff {keys : List (Arg F)} {slots : List Nat}
    (hashes : List.Forall₂ config.SlotOf keys slots) (slot : Nat) :
    (∀ key ∈ keys, config.SlotOf key slot) ↔ ∀ other ∈ slots, other = slot := by
  induction hashes with
  | nil => simp
  | @cons key other keys slots first rest ih =>
    rw [List.forall_mem_cons, List.forall_mem_cons, ih]
    constructor
    · rintro ⟨here, later⟩
      exact ⟨config.slotOf_unique first here, later⟩
    · rintro ⟨rfl, later⟩
      exact ⟨first, later⟩

/-- Keys that can be hashed have one slot, which is returned, or they are refused. -/
theorem determineSlot_of_hashable {table : CommandTable} {args : List (Arg F)} (random : Nat)
    (ordinary : ∀ command ∈ args.head?, command.isSlotId = false)
    (keyed : ¬config.Keyless table args) {keys : List (Arg F)}
    (extracted : config.commandKeys table args = .ok keys)
    (hashable : ∀ key ∈ keys, config.Hashable key) :
    (∃ slot, (config.determineSlot table random args).1 = .ok (.slot slot) ∧ keys ≠ [] ∧ slot < 16384 ∧
        ∀ key ∈ keys, config.SlotOf key slot) ∨
      (config.determineSlot table random args).1 = .error { cls := .redisClusterException } ∧
        (keys = [] ∨ ¬∃ slot, ∀ key ∈ keys, config.SlotOf key slot) := by
  have reduced := config.determineSlot_eq random ordinary keyed
  rw [extracted] at reduced
  cases keys with
  | nil => exact .inr ⟨reduced, .inl rfl⟩
  | cons first others =>
    simp only at reduced
    rcases config.slotOfKeys_spec (List.cons_ne_nil first others) with
      ⟨-, slots, hashes, bounds, ran⟩ | ⟨⟨key, member, fails⟩, -⟩
    · have some : slots ≠ [] := by
        rintro rfl
        cases hashes
      rcases popSlot_spec some with ⟨slot, popped, same⟩ | ⟨popped, several⟩
      · refine .inl ⟨slot, by rw [reduced, ran, popped]; rfl, by simp, ?_,
          (config.forall_slotOf_iff hashes slot).mpr same⟩
        obtain ⟨other, rest, rfl⟩ := List.exists_cons_of_ne_nil some
        rw [← same other List.mem_cons_self]
        exact bounds other List.mem_cons_self
      · refine .inr ⟨by rw [reduced, ran, popped]; rfl, .inr ?_⟩
        rintro ⟨slot, all⟩
        exact several ⟨slot, (config.forall_slotOf_iff hashes slot).mp all⟩
    · exact absurd (hashable key member) fails

/-- For every table, all answers of the server and all arguments, slots follow the specification if and
only if every key can be encoded to `bytes`. -/
theorem followsSpecification_iff (table : CommandTable) (random : Nat) {args : List (Arg F)}
    (ordinary : ∀ command ∈ args.head?, command.isSlotId = false)
    (keyed : ¬config.Keyless table args) :
    config.FollowsSpecification table random args ↔
      ∀ keys, config.commandKeys table args = .ok keys → ∀ key ∈ keys, config.Hashable key := by
  have reduced := config.determineSlot_eq random ordinary keyed
  constructor
  · intro follows keys extracted key member
    by_contra unhashable
    have some : keys ≠ [] := List.ne_nil_of_mem member
    rcases config.slotOfKeys_spec some with ⟨fine, -⟩ | ⟨-, e, ran, foreign⟩
    · exact unhashable (fine key member)
    · have raised : (config.determineSlot table random args).1 = .error e := by
        obtain ⟨first, others, rfl⟩ := List.exists_cons_of_ne_nil some
        rw [reduced, extracted]
        simp only [ran]
        rfl
      by_cases hashes : ∃ slot, ∀ key ∈ keys, config.SlotOf key slot
      · obtain ⟨slot, all⟩ := hashes
        have small : slot < 16384 := by
          obtain ⟨chunk, -, part, -, rfl⟩ := all key member
          exact Nat.mod_lt _ (by decide)
        have returned := (follows.returned keys extracted slot).mpr ⟨some, small, all⟩
        rw [raised] at returned
        cases returned
      · obtain ⟨other, same, refused⟩ := (follows.refused keys extracted).mpr (.inr hashes)
        rw [raised] at same
        cases same
        exact foreign refused
  · intro hashable
    refine ⟨fun key => (hashesTo_iff key _).mpr rfl, fun key other tag one two => ?_,
      fun e failed => ?_, fun keys extracted slot => ?_, fun keys extracted => ?_⟩
    · rw [keySlot_of_tag one, keySlot_of_tag two]
    · rw [reduced, failed]
    · rcases config.determineSlot_of_hashable random ordinary keyed extracted (hashable keys extracted) with
        ⟨found, returned, some, small, all⟩ | ⟨refused, apart⟩
      · rw [returned]
        constructor
        · intro same
          cases same
          exact ⟨some, small, all⟩
        · rintro ⟨-, -, other⟩
          obtain ⟨key, rest, rfl⟩ := List.exists_cons_of_ne_nil some
          rw [config.slotOf_unique (all key List.mem_cons_self) (other key List.mem_cons_self)]
      · rw [refused]
        refine iff_of_false (fun same => by cases same) ?_
        rintro ⟨some, -, all⟩
        exact apart.elim some fun none => none ⟨slot, all⟩
    · rcases config.determineSlot_of_hashable random ordinary keyed extracted (hashable keys extracted) with
        ⟨found, returned, some, small, all⟩ | ⟨refused, apart⟩
      · rw [returned]
        refine iff_of_false (fun ⟨e, same, _⟩ => by cases same) ?_
        rintro (none | none)
        · exact some none
        · exact none ⟨found, all⟩
      · exact iff_of_true ⟨_, refused, rfl⟩ apart

/-- The table of a server with one command. -/
def getTable : CommandTable :=
  [("get".toList,
    { firstKeyPos := 1
      lastKeyPos := 1
      stepCount := 1
      name := "get".toList
      flags := []
      subcommands := none })]

/-- A client of this server. -/
def plainClient : SlotConfig Empty where
  casing := .ofAscii
  server := { command := .ok getTable, commandGetkeys := fun _ => .error { cls := .responseError } }
  defaultNode := true
  encoder := { encodeText := fun text => .ok (utf8 text), reprFloat := nofun }
  truncate := nofun
  codec := nofun

/-- The key of a `GET` is hashed. -/
theorem followsSpecification_get :
    plainClient.FollowsSpecification getTable 0 [.str "GET".toList, .str "a".toList] := by
  have extracted : plainClient.commandKeys getTable [.str "GET".toList, .str "a".toList] =
      .ok [.str "a".toList] := rfl
  refine (plainClient.followsSpecification_iff getTable 0 ?_ ?_).mpr ?_
  · rintro command ⟨⟩
    decide
  · rintro ⟨none, -⟩
    rw [extracted] at none
    cases none
  · intro keys same key member
    rw [extracted] at same
    cases same
    cases List.mem_singleton.mp member
    exact ⟨utf8 "a".toList, rfl⟩

/-- A key that is a memoryview raises an `AttributeError`. -/
theorem memoryview_key_raises :
    ¬plainClient.FollowsSpecification getTable 0 [.str "GET".toList, .memoryview (ascii "a")] := by
  intro follows
  have extracted : plainClient.commandKeys getTable [.str "GET".toList, .memoryview (ascii "a")] =
      .ok [.memoryview (ascii "a")] := rfl
  have raised : (plainClient.determineSlot getTable 0 [.str "GET".toList, .memoryview (ascii "a")]).1 =
      .error { cls := .attributeError } := rfl
  have returned := (follows.returned _ extracted (keySlot (ascii "a") redisClusterHashSlots)).mpr
    ⟨by simp, Nat.mod_lt _ (by decide), fun key member => by
      cases List.mem_singleton.mp member
      exact ⟨.memoryview (ascii "a"), rfl, (hashesTo_iff _ _).mpr rfl⟩⟩
  rw [raised] at returned
  cases returned

end SlotConfig

end RedisPy

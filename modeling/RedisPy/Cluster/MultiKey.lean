import Mathlib.Algebra.GroupWithZero.Nat
import RedisPy.Cluster.KeySlot
import RedisPy.Python.Grouping

/-!
# Commands of many keys

`ClusterMultiKeyCommands`, blocking or asyncio: the keys are partitioned by their slots, one command a
slot goes through a pipeline, and the responses are put together. It is compared with the one command
for all keys on the union of the stores.
-/

namespace RedisPy

/-! ## The server -/

/-- The value of a key. -/
inductive Stored where
  | string (data : Bytes)
  /-- A list, a set, a hash and so on. -/
  | other
deriving DecidableEq

/-- What a node, or all of them, store. -/
abbrev Store := Bytes → Option Stored

/-- The commands that are split. -/
inductive MultiKeyCommand where
  | mget
  | mset
  | exist
  | del
  | touch
  | unlink
deriving DecidableEq

/-- `command in READ_COMMANDS`. -/
def MultiKeyCommand.isRead : MultiKeyCommand → Bool
  | mget | exist => true
  | _ => false

/-- What a server replies. -/
inductive MultiKeyReply where
  | values (values : List (Option Bytes))
  | ok
  | count (n : Nat)
deriving DecidableEq

/-- The value that `MGET` gives. -/
def stringOf : Option Stored → Option Bytes
  | some (.string data) => some data
  | _ => none

/-- The keys are removed, one after another, and those that existed are counted. -/
def removeEach : List Bytes → Store → Nat × Store
  | [], store => (0, store)
  | key :: keys, store =>
    let (removed, rest) := removeEach keys (Function.update store key none)
    (removed + (if (store key).isSome then 1 else 0), rest)

/-- The values are stored, one after another. -/
def setEach : List Bytes → Store → Store
  | key :: value :: args, store => setEach args (Function.update store key (some (.string value)))
  | _, store => store

/-- A server runs a command; the number of arguments may be wrong. -/
def serve (command : MultiKeyCommand) (args : List Bytes) (store : Store) :
    Except Exc MultiKeyReply × Store :=
  if args = [] then (.error { cls := .responseError }, store)
  else
    match command with
    | .mget => (.ok (.values (args.map fun key => stringOf (store key))), store)
    | .mset =>
      if args.length % 2 = 1 then (.error { cls := .responseError }, store)
      else (.ok .ok, setEach args store)
    | .exist | .touch => (.ok (.count (args.countP fun key => (store key).isSome)), store)
    | .del | .unlink =>
      let (removed, store) := removeEach args store
      (.ok (.count removed), store)

/-- The keys among keys and values. -/
def everyOther : List Bytes → List Bytes
  | key :: _ :: args => key :: everyOther args
  | _ => []

/-- The keys among the arguments. -/
def MultiKeyCommand.keysOf : MultiKeyCommand → List Bytes → List Bytes
  | mset, args => everyOther args
  | _, args => args

/-- Two stores agree on keys. -/
def SameUnder (keys : Bytes → Prop) (store other : Store) : Prop := ∀ key, keys key → store key = other key

/-- Stores that agree still agree after the same change. -/
theorem SameUnder.update {keys : Bytes → Prop} {store other : Store} (agree : SameUnder keys store other)
    (key : Bytes) (value : Option Stored) :
    SameUnder keys (Function.update store key value) (Function.update other key value) := by
  intro known member
  by_cases same : known = key
  · subst same
    rw [Function.update_self, Function.update_self]
  · rw [Function.update_of_ne same, Function.update_of_ne same]
    exact agree known member

/-- Removing keys depends on them only, and changes nothing else. -/
theorem removeEach_sameUnder {keys : Bytes → Prop} {args : List Bytes} (within : ∀ key ∈ args, keys key)
    {store other : Store} (agree : SameUnder keys store other) :
    (removeEach args store).1 = (removeEach args other).1 ∧
      SameUnder keys (removeEach args store).2 (removeEach args other).2 := by
  induction args generalizing store other with
  | nil => exact ⟨rfl, agree⟩
  | cons key args ih =>
    obtain ⟨count, after⟩ := ih (fun known member => within known (List.mem_cons_of_mem _ member))
      (agree.update key none)
    refine ⟨?_, after⟩
    simp only [removeEach, count, agree key (within key List.mem_cons_self)]

/-- What is left after removing keys. -/
theorem removeEach_apply (args : List Bytes) (store : Store) (key : Bytes) :
    (removeEach args store).2 key = if key ∈ args then none else store key := by
  induction args generalizing store with
  | nil => simp [removeEach]
  | cons first args ih =>
    rw [removeEach]
    simp only [ih, List.mem_cons]
    by_cases same : key = first
    · subst same
      simp
    · simp [same]

/-- Storing pairs keeps the agreement. -/
theorem setEach_sameUnder {keys : Bytes → Prop} (args : List Bytes) {store other : Store}
    (agree : SameUnder keys store other) : SameUnder keys (setEach args store) (setEach args other) := by
  fun_induction setEach args store generalizing other with
  | case1 key value args store ih =>
    rw [setEach]
    exact ih (agree.update key _)
  | case2 args store short =>
    rw [setEach.eq_def]
    split
    · next key value rest => exact absurd rfl (short key value rest)
    · exact agree

/-- Storing pairs changes nothing under other keys. -/
theorem setEach_frame (args : List Bytes) (store : Store) {key : Bytes} (other : key ∉ everyOther args) :
    setEach args store key = store key := by
  fun_induction setEach args store with
  | case1 first value args store ih =>
    simp only [everyOther, List.mem_cons, not_or] at other
    rw [ih other.2, Function.update_of_ne other.1]
  | case2 => rfl

/-- A command depends on its keys only. -/
theorem serve_sameUnder {keys : Bytes → Prop} (command : MultiKeyCommand) {args : List Bytes}
    (within : ∀ key ∈ command.keysOf args, keys key) {store other : Store} (agree : SameUnder keys store other) :
    (serve command args store).1 = (serve command args other).1 ∧
      SameUnder keys (serve command args store).2 (serve command args other).2 := by
  unfold serve
  by_cases empty : args = []
  · simp only [if_pos empty]
    exact ⟨trivial, agree⟩
  · simp only [if_neg empty]
    have counted (known : ∀ key ∈ args, keys key) :
        args.countP (fun key => (store key).isSome) = args.countP fun key => (other key).isSome :=
      List.countP_congr fun key member => by rw [agree key (known key member)]
    cases command with
    | mget =>
      have read : args.map (fun key => stringOf (store key)) = args.map fun key => stringOf (other key) :=
        List.map_congr_left fun key member => by rw [agree key (within key member)]
      simp only [read]
      exact ⟨trivial, agree⟩
    | mset =>
      simp only
      split
      · exact ⟨rfl, agree⟩
      · exact ⟨rfl, setEach_sameUnder args agree⟩
    | exist => exact ⟨by simp only [counted within], agree⟩
    | touch => exact ⟨by simp only [counted within], agree⟩
    | del =>
      obtain ⟨count, after⟩ := removeEach_sameUnder (show ∀ key ∈ args, keys key from within) agree
      exact ⟨by simp only [count], after⟩
    | unlink =>
      obtain ⟨count, after⟩ := removeEach_sameUnder (show ∀ key ∈ args, keys key from within) agree
      exact ⟨by simp only [count], after⟩

/-- A command changes nothing under other keys. -/
theorem serve_frame (command : MultiKeyCommand) (args : List Bytes) (store : Store) {key : Bytes}
    (other : key ∉ command.keysOf args) : (serve command args store).2 key = store key := by
  unfold serve
  by_cases empty : args = []
  · simp only [if_pos empty]
  · simp only [if_neg empty]
    cases command with
    | mget => rfl
    | mset =>
      simp only
      split
      · rfl
      · exact setEach_frame args store other
    | exist => rfl
    | touch => rfl
    | del => exact (removeEach_apply args store key).trans (if_neg other)
    | unlink => exact (removeEach_apply args store key).trans (if_neg other)

/-- A command that reads changes nothing. -/
theorem serve_of_isRead {command : MultiKeyCommand} (reads : command.isRead = true) (args : List Bytes)
    (store : Store) : (serve command args store).2 = store := by
  unfold serve
  split
  · rfl
  · cases command with
    | mget => rfl
    | exist => rfl
    | _ => cases reads

/-- Removing keys, and then others. -/
theorem removeEach_append (keys others : List Bytes) (store : Store) :
    removeEach (keys ++ others) store =
      ((removeEach keys store).1 + (removeEach others (removeEach keys store).2).1,
        (removeEach others (removeEach keys store).2).2) := by
  induction keys generalizing store with
  | nil => simp [removeEach]
  | cons key keys ih =>
    simp only [List.cons_append, removeEach, ih]
    congr 1
    omega

/-- How many keys are removed does not depend on their order. -/
theorem removeEach_perm {keys others : List Bytes} (perm : keys.Perm others) (store : Store) :
    (removeEach keys store).1 = (removeEach others store).1 := by
  induction perm generalizing store with
  | nil => rfl
  | cons key _ ih => simp only [removeEach, ih]
  | swap first second keys =>
    simp only [removeEach]
    by_cases same : first = second
    · subst same
      rfl
    · rw [Function.update_comm same, Function.update_of_ne same, Function.update_of_ne (Ne.symm same)]
      omega
  | trans _ _ one two => exact (one store).trans (two store)

/-- What is stored under a key after pairs were stored: the value of its last pair. -/
theorem setEach_apply (pairs : List (Bytes × Bytes)) (store : Store) (key : Bytes) :
    setEach (pairs.flatMap fun pair => [pair.1, pair.2]) store key =
      match (pairs.filter fun pair => pair.1 = key).getLast? with
      | some pair => some (.string pair.2)
      | none => store key := by
  induction pairs generalizing store with
  | nil => rfl
  | cons pair pairs ih =>
    have unfolded : setEach ((pair :: pairs).flatMap fun pair => [pair.1, pair.2]) store =
        setEach (pairs.flatMap fun pair => [pair.1, pair.2])
          (Function.update store pair.1 (some (.string pair.2))) := rfl
    rw [unfolded, ih]
    by_cases same : pair.1 = key
    · rw [List.filter_cons_of_pos (by simpa using same), List.getLast?_cons]
      cases (pairs.filter fun pair => pair.1 = key).getLast? with
      | some last => rfl
      | none =>
        simp only [Option.getD_none]
        rw [← same, Function.update_self]
    · rw [List.filter_cons_of_neg (by simpa using same), Function.update_of_ne (Ne.symm same)]

/-- The keys of pairs. -/
theorem everyOther_flatMap (pairs : List (Bytes × Bytes)) :
    everyOther (pairs.flatMap fun pair => [pair.1, pair.2]) = pairs.map (·.1) := by
  induction pairs with
  | nil => rfl
  | cons pair pairs ih => simpa [everyOther] using ih

/-! ## The client -/

/-- A key or a value as it is given. -/
inductive KeyArg where
  | bytes (data : Bytes)
  | str (text : Text)
deriving DecidableEq

/-- A cluster whose slots are served, and what the client knows of it. -/
structure MultiKeyCluster (N : Type) where
  /-- `value.encode(self.encoding, self.encoding_errors)`. -/
  encodeText : Text → Except Exc Bytes
  /-- `read_from_replicas`. -/
  readFromReplicas : Bool
  /-- `get_node_from_slot(slot, False)`. -/
  primary : Nat → N
  /-- `get_node_from_slot(slot, True)`. -/
  reader : Nat → N
  /-- What the nodes store. -/
  stores : N → Store
  /-- The nodes of a slot store the same under its keys. -/
  synced : ∀ key, stores (reader (keySlot key redisClusterHashSlots)) key =
    stores (primary (keySlot key redisClusterHashSlots)) key

/-- A command in a pipeline. -/
structure SlotCommand (N : Type) where
  position : Nat
  slot : Nat
  node : N
  args : List KeyArg

/-- In which order the commands of a pipeline reach the nodes. -/
structure Arrangement (N : Type) where
  order : List (SlotCommand N) → List (SlotCommand N)
  perm : ∀ stack, (order stack).Perm stack

namespace MultiKeyCluster

variable {N : Type} [DecidableEq N] (cluster : MultiKeyCluster N)

/-- `self.encoder.encode(key)`. -/
def encode : KeyArg → Except Exc Bytes
  | .bytes data => .ok data
  | .str text => cluster.encodeText text

/-- `_partition_keys_by_slot` and `_partition_pairs_by_slot`: each key comes with what is put into the
list of its slot. -/
def partitionBySlot : List (KeyArg × List KeyArg) → Dict Nat (List KeyArg) →
    Except Exc (Dict Nat (List KeyArg))
  | [], slots => .ok slots
  | (key, args) :: items, slots =>
    match cluster.encode key with
    | .error e => .error e
    | .ok data => partitionBySlot items (slots.extendAt (keySlot data redisClusterHashSlots) args)

/-- `_partition_keys_by_slot`. -/
def partitionKeysBySlot (keys : List KeyArg) : Except Exc (Dict Nat (List KeyArg)) :=
  cluster.partitionBySlot (keys.map fun key => (key, [key])) []

/-- `_partition_pairs_by_slot`. -/
def partitionPairsBySlot (mapping : Dict KeyArg Bytes) : Except Exc (Dict Nat (List KeyArg)) :=
  cluster.partitionBySlot (mapping.map fun pair => (pair.1, [pair.1, .bytes pair.2])) []

/-- The target node of the command for a slot. -/
def nodeFor (command : MultiKeyCommand) (slot : Nat) : N :=
  if cluster.readFromReplicas && command.isRead then cluster.reader slot else cluster.primary slot

/-- The command stack of the pipeline. -/
def stack (command : MultiKeyCommand) (slotsToArgs : Dict Nat (List KeyArg)) : List (SlotCommand N) :=
  slotsToArgs.zipIdx.map fun entry =>
    { position := entry.2
      slot := entry.1.1
      node := cluster.nodeFor command entry.1.1
      args := entry.1.2 }

/-- The nodes run the commands; the results are kept by position. -/
def runCommands (command : MultiKeyCommand) : List (SlotCommand N) → (N → Store) →
    Except Exc (Dict Nat (Except Exc MultiKeyReply)) × (N → Store)
  | [], stores => (.ok [], stores)
  | queued :: rest, stores =>
    match queued.args.mapM cluster.encode with
    | .error e => (.error e, stores)
    | .ok args =>
      let (reply, store) := serve command args (stores queued.node)
      match runCommands command rest (Function.update stores queued.node store) with
      | (.error e, stores) => (.error e, stores)
      | (.ok results, stores) => (.ok ((queued.position, reply) :: results), stores)

/-- `c.result`. -/
def resultOf (results : Dict Nat (Except Exc MultiKeyReply)) (queued : SlotCommand N) :
    Except Exc MultiKeyReply :=
  match results.get queued.position with
  | some reply => reply
  | none => .error { cls := .keyError }

/-- `_execute_pipeline_by_slot`: the responses, and what the nodes store afterwards. -/
def executePipelineBySlot (arrangement : Arrangement N) (command : MultiKeyCommand)
    (slotsToArgs : Dict Nat (List KeyArg)) : Except Exc (List MultiKeyReply) × (N → Store) :=
  let stack := cluster.stack command slotsToArgs
  match cluster.runCommands command (arrangement.order stack) cluster.stores with
  | (.error e, stores) => (.error e, stores)
  | (.ok results, stores) => (stack.mapM (resultOf results), stores)

/-- The values of a reply to `MGET`. -/
def valuesOf : MultiKeyReply → List (Option Bytes)
  | .values values => values
  | _ => []

/-- The number in a reply. -/
def countOf : MultiKeyReply → Nat
  | .count n => n
  | _ => 0

/-- `_reorder_keys_by_command`. -/
def reorderKeysByCommand (keys : List KeyArg) (slotsToArgs : Dict Nat (List KeyArg))
    (responses : List MultiKeyReply) : Except Exc (List (Option Bytes)) :=
  let results : Dict KeyArg (Option Bytes) :=
    Dict.update [] ((slotsToArgs.zip responses).flatMap fun part => part.1.2.zip (valuesOf part.2))
  keys.mapM fun key =>
    match Dict.get results key with
    | some value => .ok value
    | none => .error { cls := .keyError }

/-- `mget_nonatomic`. -/
def mgetNonatomic (arrangement : Arrangement N) (keys : List KeyArg) :
    Except Exc (List (Option Bytes)) × (N → Store) :=
  match cluster.partitionKeysBySlot keys with
  | .error e => (.error e, cluster.stores)
  | .ok slotsToKeys =>
    match cluster.executePipelineBySlot arrangement .mget slotsToKeys with
    | (.error e, stores) => (.error e, stores)
    | (.ok res, stores) => (reorderKeysByCommand keys slotsToKeys res, stores)

/-- `mset_nonatomic`. -/
def msetNonatomic (arrangement : Arrangement N) (mapping : Dict KeyArg Bytes) :
    Except Exc (List MultiKeyReply) × (N → Store) :=
  match cluster.partitionPairsBySlot mapping with
  | .error e => (.error e, cluster.stores)
  | .ok slotsToPairs => cluster.executePipelineBySlot arrangement .mset slotsToPairs

/-- `_split_command_across_slots`: `exists`, `delete`, `touch` and `unlink`. -/
def splitCommandAcrossSlots (arrangement : Arrangement N) (command : MultiKeyCommand) (keys : List KeyArg) :
    Except Exc Nat × (N → Store) :=
  match cluster.partitionKeysBySlot keys with
  | .error e => (.error e, cluster.stores)
  | .ok slotsToKeys =>
    match cluster.executePipelineBySlot arrangement command slotsToKeys with
    | (.error e, stores) => (.error e, stores)
    | (.ok res, stores) => (.ok (res.map countOf).sum, stores)

/-! ## One command on the union of the stores -/

/-- The union of the stores: every key is where its slot is. -/
def union (stores : N → Store) : Store := fun key =>
  stores (cluster.primary (keySlot key redisClusterHashSlots)) key

/-- The command is not split, and runs on the union of the stores. -/
def unsplit (command : MultiKeyCommand) (args : List KeyArg) : Except Exc MultiKeyReply × Store :=
  match args.mapM cluster.encode with
  | .error e => (.error e, cluster.union cluster.stores)
  | .ok data => serve command data (cluster.union cluster.stores)

/-- The commands that are split give and do what the commands that are not split do. -/
structure SplitsAsOne (arrangement : Arrangement N) (keys : List KeyArg) (mapping : Dict KeyArg Bytes) :
    Prop where
  mget : (cluster.mgetNonatomic arrangement keys).1.map .values = (cluster.unsplit .mget keys).1
  counts : ∀ command ∈ [.exist, .del, .touch, .unlink],
    (cluster.splitCommandAcrossSlots arrangement command keys).1.map .count =
      (cluster.unsplit command keys).1
  removed : ∀ command ∈ [.exist, .del, .touch, .unlink],
    cluster.union (cluster.splitCommandAcrossSlots arrangement command keys).2 =
      (cluster.unsplit command keys).2
  mset : cluster.union (cluster.msetNonatomic arrangement mapping).2 =
    (cluster.unsplit .mset (mapping.flatMap fun pair => [pair.1, .bytes pair.2])).2
  partition : ∀ slotsToKeys, cluster.partitionKeysBySlot keys = .ok slotsToKeys →
    (slotsToKeys.flatMap (·.2)).Perm keys

/-! ## The pipeline -/

/-- The octets of an argument. -/
def data (arg : KeyArg) : Bytes := (cluster.encode arg).toOption.getD []

/-- Arguments that can be encoded. -/
def Encodable (args : List KeyArg) : Prop := ∀ arg ∈ args, cluster.encode arg = .ok (cluster.data arg)

/-- A command whose keys are in its slot, at a node of the slot. -/
structure Ready (command : MultiKeyCommand) (queued : SlotCommand N) : Prop where
  encodable : cluster.Encodable queued.args
  keys : ∀ key ∈ command.keysOf (queued.args.map cluster.data),
    keySlot key redisClusterHashSlots = queued.slot
  node : queued.node = cluster.nodeFor command queued.slot

/-- A command runs where the keys of its slot are. -/
def Located (stores : N → Store) (queued : SlotCommand N) : Prop :=
  SameUnder (fun key => keySlot key redisClusterHashSlots = queued.slot) (stores queued.node)
    (cluster.union stores)

variable {cluster}

omit [DecidableEq N] in
/-- Arguments are encoded one by one. -/
theorem Encodable.mapM {args : List KeyArg} (encodable : cluster.Encodable args) :
    args.mapM cluster.encode = .ok (args.map cluster.data) := by
  induction args with
  | nil => rfl
  | cons arg args ih =>
    rw [List.mapM_cons, encodable arg List.mem_cons_self,
      ih fun other member => encodable other (List.mem_cons_of_mem _ member)]
    rfl

/-- A command on the node of its slot is a command on the union of the stores. -/
theorem Ready.serve {command : MultiKeyCommand} {queued : SlotCommand N}
    (ready : cluster.Ready command queued) {stores : N → Store} (located : cluster.Located stores queued) :
    (serve command (queued.args.map cluster.data) (stores queued.node)).1 =
        (serve command (queued.args.map cluster.data) (cluster.union stores)).1 ∧
      cluster.union (Function.update stores queued.node
          (RedisPy.serve command (queued.args.map cluster.data) (stores queued.node)).2) =
        (RedisPy.serve command (queued.args.map cluster.data) (cluster.union stores)).2 := by
  obtain ⟨replies, agree⟩ := serve_sameUnder command ready.keys located
  refine ⟨replies, ?_⟩
  by_cases reads : command.isRead = true
  · rw [serve_of_isRead reads, serve_of_isRead reads, Function.update_eq_self]
  · have writes : queued.node = cluster.primary queued.slot := by
      rw [ready.node, nodeFor]
      simp [reads]
    funext key
    by_cases inside : keySlot key redisClusterHashSlots = queued.slot
    · rw [← agree key inside]
      unfold union
      rw [inside, ← writes, Function.update_self]
    · have apart : key ∉ command.keysOf (queued.args.map cluster.data) := fun member =>
        inside (ready.keys key member)
      rw [serve_frame command _ _ apart]
      unfold union
      by_cases same : cluster.primary (keySlot key redisClusterHashSlots) = queued.node
      · rw [same, Function.update_self, serve_frame command _ _ apart]
      · rw [Function.update_of_ne same]

/-- After a command, the others still run where their keys are. -/
theorem Located.update {command : MultiKeyCommand} {other : SlotCommand N}
    (ready : cluster.Ready command other) {stores : N → Store} (located : cluster.Located stores other)
    (queued : SlotCommand N) (args : List Bytes) :
    cluster.Located (Function.update stores queued.node
      (RedisPy.serve command args (stores queued.node)).2) other := by
  by_cases reads : command.isRead = true
  · rw [serve_of_isRead reads, Function.update_eq_self]
    exact located
  · have writes : other.node = cluster.primary other.slot := by
      rw [ready.node, nodeFor]
      simp [reads]
    intro key inside
    have there : keySlot key redisClusterHashSlots = other.slot := inside
    unfold union
    rw [there, writes]

/-- Commands for distinct slots do as if each of them ran on the union of the stores alone. -/
theorem runCommands_spec {command : MultiKeyCommand} {stack : List (SlotCommand N)}
    (distinct : (stack.map (·.slot)).Nodup) (ready : ∀ queued ∈ stack, cluster.Ready command queued)
    {stores : N → Store} (located : ∀ queued ∈ stack, cluster.Located stores queued) :
    ∃ after, cluster.runCommands command stack stores =
        (.ok (stack.map fun queued => (queued.position,
          (RedisPy.serve command (queued.args.map cluster.data) (cluster.union stores)).1)), after) ∧
      (∀ queued ∈ stack, SameUnder (fun key => keySlot key redisClusterHashSlots = queued.slot)
        (cluster.union after)
        (RedisPy.serve command (queued.args.map cluster.data) (cluster.union stores)).2) ∧
      SameUnder (fun key => ∀ queued ∈ stack, keySlot key redisClusterHashSlots ≠ queued.slot)
        (cluster.union after) (cluster.union stores) := by
  induction stack generalizing stores with
  | nil =>
    refine ⟨stores, rfl, fun queued member => ?_, fun key _ => rfl⟩
    cases member
  | cons queued rest ih =>
    have apart := List.nodup_cons.mp distinct
    have first := ready queued List.mem_cons_self
    obtain ⟨replied, stored⟩ := first.serve (located queued List.mem_cons_self)
    obtain ⟨after, ran, done, kept⟩ := ih apart.2 (fun other member => ready other (List.mem_cons_of_mem _ member))
      fun other member => Located.update (ready other (List.mem_cons_of_mem _ member))
        (located other (List.mem_cons_of_mem _ member)) queued (queued.args.map cluster.data)
    have others (other : SlotCommand N) (member : other ∈ rest) : other.slot ≠ queued.slot := fun same =>
      apart.1 (List.mem_map.mpr ⟨other, member, same⟩)
    -- what the first command did is invisible in the other slots
    have unseen (other : SlotCommand N) (member : other ∈ rest) :
        SameUnder (fun key => keySlot key redisClusterHashSlots = other.slot)
          (RedisPy.serve command (queued.args.map cluster.data) (cluster.union stores)).2
          (cluster.union stores) := by
      intro key inside
      refine serve_frame command _ _ fun there => others other member ?_
      rw [← inside, first.keys key there]
    rw [stored] at ran done kept
    refine ⟨after, ?_, ?_, ?_⟩
    · rw [runCommands, first.encodable.mapM]
      simp only [ran, replied, List.map_cons]
      congr 3
      refine List.map_congr_left fun other member => ?_
      rw [(serve_sameUnder command (ready other (List.mem_cons_of_mem _ member)).keys (unseen other member)).1]
    · rw [List.forall_mem_cons]
      refine ⟨fun key inside => ?_, fun other member key inside => ?_⟩
      · exact kept key fun other member same => others other member (same.symm.trans inside)
      · rw [done other member key inside]
        exact (serve_sameUnder command (ready other (List.mem_cons_of_mem _ member)).keys
          (unseen other member)).2 key inside
    · intro key outside
      obtain ⟨here, later⟩ := List.forall_mem_cons.mp outside
      rw [kept key later]
      exact serve_frame command _ _ fun there => here (first.keys key there)

omit [DecidableEq N] in
/-- Computations that agree on the elements agree on the list. -/
theorem mapM_congr_left {α β : Type} {f g : α → Except Exc β} {xs : List α}
    (same : ∀ x ∈ xs, f x = g x) : xs.mapM f = xs.mapM g := by
  induction xs with
  | nil => rfl
  | cons x xs ih =>
    rw [List.mapM_cons, List.mapM_cons, same x List.mem_cons_self,
      ih fun y member => same y (List.mem_cons_of_mem _ member)]

/-- The arguments for the slots can be encoded, and their keys are in their slots. -/
structure Slotted (cluster : MultiKeyCluster N) (command : MultiKeyCommand)
    (slotsToArgs : Dict Nat (List KeyArg)) : Prop where
  unique : slotsToArgs.Unique
  encodable : ∀ entry ∈ slotsToArgs, cluster.Encodable entry.2
  keys : ∀ entry ∈ slotsToArgs, ∀ key ∈ command.keysOf (entry.2.map cluster.data),
    keySlot key redisClusterHashSlots = entry.1

omit [DecidableEq N] in
/-- The node of a slot has its keys. -/
theorem located_stores {command : MultiKeyCommand} {queued : SlotCommand N}
    (ready : cluster.Ready command queued) : cluster.Located cluster.stores queued := by
  intro key inside
  have there : keySlot key redisClusterHashSlots = queued.slot := inside
  rw [ready.node, nodeFor, ← there]
  split
  · exact cluster.synced key
  · rfl

/-- The pipeline does as if the command of each slot ran on the union of the stores alone. -/
theorem executePipelineBySlot_spec (arrangement : Arrangement N) {command : MultiKeyCommand}
    {slotsToArgs : Dict Nat (List KeyArg)} (slotted : cluster.Slotted command slotsToArgs) :
    ∃ after, cluster.executePipelineBySlot arrangement command slotsToArgs =
        (slotsToArgs.mapM fun entry =>
          (RedisPy.serve command (entry.2.map cluster.data) (cluster.union cluster.stores)).1, after) ∧
      (∀ entry ∈ slotsToArgs, SameUnder (fun key => keySlot key redisClusterHashSlots = entry.1)
        (cluster.union after)
        (RedisPy.serve command (entry.2.map cluster.data) (cluster.union cluster.stores)).2) ∧
      SameUnder (fun key => ∀ entry ∈ slotsToArgs, keySlot key redisClusterHashSlots ≠ entry.1)
        (cluster.union after) (cluster.union cluster.stores) := by
  have entries : (cluster.stack command slotsToArgs).map (fun queued => (queued.slot, queued.args)) =
      slotsToArgs := by
    simp only [stack, List.map_map]
    exact List.zipIdx_map_fst 0 slotsToArgs
  have places : ((cluster.stack command slotsToArgs).map (·.position)).Nodup := by
    simp only [stack, List.map_map]
    rw [show (SlotCommand.position ∘ fun entry : (Nat × List KeyArg) × Nat => _) = Prod.snd from rfl,
      List.zipIdx_map_snd]
    exact List.nodup_range'
  have slots : ((cluster.stack command slotsToArgs).map (·.slot)).Nodup := by
    have names := slotted.unique
    unfold Dict.Unique Dict.keys at names
    rw [← entries, List.map_map] at names
    exact names
  have member (queued : SlotCommand N) (there : queued ∈ cluster.stack command slotsToArgs) :
      (queued.slot, queued.args) ∈ slotsToArgs := by
    rw [← entries]
    exact List.mem_map.mpr ⟨queued, there, rfl⟩
  have ready : ∀ queued ∈ cluster.stack command slotsToArgs, cluster.Ready command queued := by
    intro queued there
    refine ⟨slotted.encodable _ (member queued there), slotted.keys _ (member queued there), ?_⟩
    obtain ⟨entry, -, rfl⟩ := List.mem_map.mp there
    rfl
  have arranged := arrangement.perm (cluster.stack command slotsToArgs)
  obtain ⟨after, ran, done, kept⟩ := runCommands_spec
    ((arranged.map _).nodup_iff.mpr slots) (fun queued there => ready queued (arranged.mem_iff.mp there))
    fun queued there => located_stores (ready queued (arranged.mem_iff.mp there))
  refine ⟨after, ?_, fun entry there => ?_, fun key outside => kept key fun queued there =>
    outside _ (member queued (arranged.mem_iff.mp there))⟩
  · have results : (cluster.stack command slotsToArgs).mapM (resultOf
        ((arrangement.order (cluster.stack command slotsToArgs)).map fun queued => (queued.position,
          (RedisPy.serve command (queued.args.map cluster.data) (cluster.union cluster.stores)).1))) =
        (cluster.stack command slotsToArgs).mapM fun queued =>
          (RedisPy.serve command (queued.args.map cluster.data) (cluster.union cluster.stores)).1 := by
      refine mapM_congr_left fun queued there => ?_
      have unique : Dict.Unique ((arrangement.order (cluster.stack command slotsToArgs)).map fun queued =>
          (queued.position,
            (RedisPy.serve command (queued.args.map cluster.data) (cluster.union cluster.stores)).1)) := by
        unfold Dict.Unique Dict.keys
        rw [List.map_map]
        exact (arranged.map _).nodup_iff.mpr places
      rw [resultOf, unique.get_of_mem (List.mem_map.mpr ⟨queued, arranged.mem_iff.mpr there, rfl⟩)]
    unfold executePipelineBySlot
    simp only [ran, results]
    conv_rhs => rw [← entries, List.mapM_map]
    rfl
  · rw [← entries] at there
    obtain ⟨queued, listed, rfl⟩ := List.mem_map.mp there
    exact done queued (arranged.mem_iff.mpr listed)

/-! ## The partition -/

/-- The slot of a key that can be encoded. -/
def slotOf (cluster : MultiKeyCluster N) (key : KeyArg) : Nat := keySlot (cluster.data key) redisClusterHashSlots

omit [DecidableEq N] in
/-- Keys that can be encoded are grouped by their slots. -/
theorem partitionBySlot_of_encodable {items : List (KeyArg × List KeyArg)}
    (encodable : cluster.Encodable (items.map (·.1))) (slots : Dict Nat (List KeyArg)) :
    cluster.partitionBySlot items slots =
      .ok (slots.groupInto (items.map fun item => (cluster.slotOf item.1, item.2))) := by
  induction items generalizing slots with
  | nil => rfl
  | cons item items ih =>
    rw [partitionBySlot, encodable item.1 List.mem_cons_self]
    exact ih (fun other member => encodable other (List.mem_cons_of_mem _ member)) _

omit [DecidableEq N] in
/-- The first key that cannot be encoded raises. -/
theorem partitionBySlot_of_error {items : List (KeyArg × List KeyArg)} {e : Exc}
    (raised : (items.map (·.1)).mapM cluster.encode = .error e) (slots : Dict Nat (List KeyArg)) :
    cluster.partitionBySlot items slots = .error e := by
  induction items generalizing slots with
  | nil => cases raised
  | cons item items ih =>
    rw [List.map_cons, List.mapM_cons] at raised
    rw [partitionBySlot]
    cases encoded : cluster.encode item.1 with
    | error other =>
      rw [encoded] at raised
      cases raised
      rfl
    | ok data =>
      rw [encoded] at raised
      refine ih ?_ _
      cases rest : (items.map (·.1)).mapM cluster.encode with
      | error other =>
        rw [rest] at raised
        cases raised
        rfl
      | ok others =>
        rw [rest] at raised
        cases raised

variable (cluster) in
omit [DecidableEq N] in
/-- Either all arguments can be encoded, or encoding them raises. -/
theorem encodable_or_error (args : List KeyArg) :
    cluster.Encodable args ∨ ∃ e, args.mapM cluster.encode = .error e := by
  induction args with
  | nil => exact .inl fun arg member => by cases member
  | cons arg args ih =>
    cases encoded : cluster.encode arg with
    | error e => exact .inr ⟨e, by rw [List.mapM_cons, encoded]; rfl⟩
    | ok data =>
      rcases ih with encodable | ⟨e, raised⟩
      · refine .inl (List.forall_mem_cons.mpr ⟨?_, encodable⟩)
        rw [encoded, MultiKeyCluster.data, encoded]
        rfl
      · exact .inr ⟨e, by rw [List.mapM_cons, encoded, raised]; rfl⟩

/-- The items of a key list. -/
def keyItems (cluster : MultiKeyCluster N) (keys : List KeyArg) : List (Nat × List KeyArg) :=
  keys.map fun key => (cluster.slotOf key, [key])

omit [DecidableEq N] in
/-- An entry of the partition has the keys of its slot, in order, and at least one. -/
theorem mem_group_keyItems {keys : List KeyArg} {entry : Nat × List KeyArg}
    (member : entry ∈ Dict.group (cluster.keyItems keys)) :
    entry.2 = (keys.filter fun key => cluster.slotOf key = entry.1) ∧ entry.2 ≠ [] := by
  have values := Dict.mem_group member
  have split : entry.2 = keys.filter fun key => cluster.slotOf key = entry.1 := by
    rw [values, keyItems, List.filter_map, List.flatMap_map]
    simp [Function.comp_def]
  refine ⟨split, fun empty => ?_⟩
  have stored : entry.1 ∈ (Dict.group (cluster.keyItems keys)).keys := List.mem_map_of_mem member
  rcases Dict.mem_keys_groupInto.mp stored with none | ⟨item, listed, same⟩
  · cases none
  · obtain ⟨key, there, rfl⟩ := List.mem_map.mp listed
    have found : key ∈ keys.filter fun key => cluster.slotOf key = entry.1 :=
      List.mem_filter.mpr ⟨there, by simpa using same⟩
    rw [← split, empty] at found
    cases found

omit [DecidableEq N] in
/-- Keys that can be encoded are partitioned into commands for their slots. -/
theorem slotted_keyItems {keys : List KeyArg} (encodable : cluster.Encodable keys) {command : MultiKeyCommand}
    (whole : ∀ args, command.keysOf args = args) :
    cluster.Slotted command (Dict.group (cluster.keyItems keys)) := by
  have empty : Dict.Unique ([] : Dict Nat (List KeyArg)) := List.nodup_nil
  refine ⟨empty.groupInto _, fun entry member => ?_, fun entry member key there => ?_⟩
  · rw [(mem_group_keyItems member).1]
    exact fun arg listed => encodable arg (List.mem_filter.mp listed).1
  · rw [whole, (mem_group_keyItems member).1] at there
    obtain ⟨arg, listed, rfl⟩ := List.mem_map.mp there
    have inside : cluster.slotOf arg = entry.1 := by simpa using (List.mem_filter.mp listed).2
    exact inside

variable (cluster) in
omit [DecidableEq N] in
/-- The partition keeps all keys. -/
theorem group_keyItems_perm (keys : List KeyArg) :
    ((Dict.group (cluster.keyItems keys)).flatMap (·.2)).Perm keys := by
  have kept := Dict.groupInto_perm (cluster.keyItems keys) []
  have flat : (cluster.keyItems keys).flatMap (·.2) = keys := by
    simp [keyItems, List.flatMap_map]
  rwa [flat, List.flatMap_nil, List.nil_append] at kept

omit [DecidableEq N] in
/-- The removals of the slots are those of all keys. -/
theorem sum_removeEach {groups : Dict Nat (List KeyArg)} (unique : groups.Unique)
    (keys : ∀ entry ∈ groups, ∀ key ∈ entry.2.map cluster.data,
      keySlot key redisClusterHashSlots = entry.1) (store : Store) :
    (groups.map fun entry => (removeEach (entry.2.map cluster.data) store).1).sum =
      (removeEach (groups.flatMap fun entry => entry.2.map cluster.data) store).1 := by
  induction groups with
  | nil => rfl
  | cons entry groups ih =>
    have apart : entry.1 ∉ Dict.keys groups ∧ (Dict.keys groups).Nodup := List.nodup_cons.mp unique
    have rest := ih apart.2 fun other member => keys other (List.mem_cons_of_mem _ member)
    -- the other slots do not see the removals of this one
    have unseen : SameUnder (fun key => ∃ other ∈ groups, keySlot key redisClusterHashSlots = other.1) store
        (removeEach (entry.2.map cluster.data) store).2 := by
      rintro key ⟨other, member, inside⟩
      rw [removeEach_apply, if_neg]
      intro there
      have same := keys entry List.mem_cons_self key there
      rw [inside] at same
      exact apart.1 (same ▸ List.mem_map_of_mem member)
    have counted := (removeEach_sameUnder (fun key there => by
      obtain ⟨other, member, listed⟩ := List.mem_flatMap.mp there
      exact ⟨other, member, keys other (List.mem_cons_of_mem _ member) key listed⟩) unseen).1
    rw [List.map_cons, List.sum_cons, rest, List.flatMap_cons, removeEach_append, counted]

omit [DecidableEq N] in
/-- A command that does the same under the keys of each slot does the same as one for all keys. -/
theorem union_eq {command : MultiKeyCommand} {groups : Dict Nat (List KeyArg)} {after : N → Store}
    {all : List Bytes} {store : Store}
    (done : ∀ entry ∈ groups, SameUnder (fun key => keySlot key redisClusterHashSlots = entry.1)
      (cluster.union after) (RedisPy.serve command (entry.2.map cluster.data) store).2)
    (kept : SameUnder (fun key => ∀ entry ∈ groups, keySlot key redisClusterHashSlots ≠ entry.1)
      (cluster.union after) store)
    (same : ∀ entry ∈ groups, SameUnder (fun key => keySlot key redisClusterHashSlots = entry.1)
      (RedisPy.serve command (entry.2.map cluster.data) store).2 (RedisPy.serve command all store).2)
    (known : ∀ key ∈ command.keysOf all, ∃ entry ∈ groups, keySlot key redisClusterHashSlots = entry.1) :
    cluster.union after = (RedisPy.serve command all store).2 := by
  funext key
  by_cases inside : ∃ entry ∈ groups, keySlot key redisClusterHashSlots = entry.1
  · obtain ⟨entry, member, inside⟩ := inside
    rw [done entry member key inside, same entry member key inside]
  · push Not at inside
    rw [kept key inside, serve_frame]
    intro there
    obtain ⟨entry, member, found⟩ := known key there
    exact inside entry member found

variable (cluster) in
omit [DecidableEq N] in
/-- Every key has an entry in the partition. -/
theorem exists_entry {keys : List KeyArg} {key : KeyArg} (member : key ∈ keys) :
    ∃ entry ∈ Dict.group (cluster.keyItems keys), cluster.slotOf key = entry.1 := by
  have stored : cluster.slotOf key ∈ (Dict.group (cluster.keyItems keys)).keys :=
    Dict.mem_keys_groupInto.mpr (.inr ⟨_, List.mem_map_of_mem member, rfl⟩)
  obtain ⟨entry, there, same⟩ := List.mem_map.mp stored
  exact ⟨entry, there, same.symm⟩

/-! ## The commands -/

/-- What the commands that count reply. -/
def countBy : MultiKeyCommand → List Bytes → Store → Nat
  | .exist, args, store | .touch, args, store => args.countP fun key => (store key).isSome
  | .del, args, store | .unlink, args, store => (removeEach args store).1
  | _, _, _ => 0

/-- The commands that count. -/
def counting : List MultiKeyCommand := [.exist, .del, .touch, .unlink]

/-- A command that counts replies with a number. -/
theorem serve_counting {command : MultiKeyCommand} (counts : command ∈ counting) {args : List Bytes}
    (some : args ≠ []) (store : Store) :
    (RedisPy.serve command args store).1 = .ok (.count (countBy command args store)) := by
  unfold RedisPy.serve
  rw [if_neg some]
  cases command with
  | mget => exact absurd counts (by decide)
  | mset => exact absurd counts (by decide)
  | _ => rfl

/-- All arguments of a command that counts are keys. -/
theorem keysOf_counting {command : MultiKeyCommand} (counts : command ∈ counting) (args : List Bytes) :
    command.keysOf args = args := by
  cases command with
  | mset => exact absurd counts (by decide)
  | _ => rfl

/-- Results that are all there are a list. -/
theorem mapM_ok {α β : Type} (f : α → β) (xs : List α) :
    xs.mapM (fun x => (.ok (f x) : Except Exc β)) = .ok (xs.map f) := by
  induction xs with
  | nil => rfl
  | cons x xs ih =>
    rw [List.mapM_cons, ih]
    rfl

variable (cluster) in
omit [DecidableEq N] in
/-- The data of all keys are the data of the partition. -/
theorem data_perm (keys : List KeyArg) :
    ((Dict.group (cluster.keyItems keys)).flatMap fun entry => entry.2.map cluster.data).Perm
      (keys.map cluster.data) := by
  have mapped := (cluster.group_keyItems_perm keys).map cluster.data
  rwa [List.map_flatMap] at mapped

omit [DecidableEq N] in
/-- The numbers of the slots add up. -/
theorem sum_countBy {keys : List KeyArg} (encodable : cluster.Encodable keys) {command : MultiKeyCommand}
    (counts : command ∈ counting) (store : Store) :
    ((Dict.group (cluster.keyItems keys)).map fun entry =>
        countBy command (entry.2.map cluster.data) store).sum =
      countBy command (keys.map cluster.data) store := by
  have perm := cluster.data_perm keys
  have slotted := slotted_keyItems encodable (keysOf_counting counts)
  have counted (p : Bytes → Bool) :
      ((Dict.group (cluster.keyItems keys)).map fun entry => (entry.2.map cluster.data).countP p).sum =
        (keys.map cluster.data).countP p := by
    rw [← perm.countP_eq p, List.countP_flatMap]
    rfl
  have removed : ((Dict.group (cluster.keyItems keys)).map fun entry =>
      (removeEach (entry.2.map cluster.data) store).1).sum = (removeEach (keys.map cluster.data) store).1 := by
    rw [← removeEach_perm perm store]
    refine sum_removeEach slotted.unique (fun entry member key there => ?_) store
    exact slotted.keys entry member key (by rwa [keysOf_counting counts])
  cases command with
  | mget => exact absurd counts (by decide)
  | mset => exact absurd counts (by decide)
  | exist => exact counted _
  | touch => exact counted _
  | del => exact removed
  | unlink => exact removed

omit [DecidableEq N] in
/-- Under the keys of a slot, a command for the slot does what one for all keys does. -/
theorem serve_counting_same {keys : List KeyArg} {command : MultiKeyCommand} (counts : command ∈ counting)
    (store : Store) {entry : Nat × List KeyArg} (member : entry ∈ Dict.group (cluster.keyItems keys)) :
    SameUnder (fun key => keySlot key redisClusterHashSlots = entry.1)
      (RedisPy.serve command (entry.2.map cluster.data) store).2
      (RedisPy.serve command (keys.map cluster.data) store).2 := by
  intro key inside
  obtain ⟨split, some⟩ := mem_group_keyItems member
  have listed : key ∈ entry.2.map cluster.data ↔ key ∈ keys.map cluster.data := by
    rw [split, List.mem_map, List.mem_map]
    constructor
    · rintro ⟨arg, there, rfl⟩
      exact ⟨arg, (List.mem_filter.mp there).1, rfl⟩
    · rintro ⟨arg, there, rfl⟩
      exact ⟨arg, List.mem_filter.mpr ⟨there, decide_eq_true inside⟩, rfl⟩
  have removed : (removeEach (entry.2.map cluster.data) store).2 key =
      (removeEach (keys.map cluster.data) store).2 key := by
    rw [removeEach_apply, removeEach_apply]
    simp only [listed]
  have args : keys.map cluster.data ≠ [] := by
    intro empty
    rw [List.map_eq_nil_iff] at empty
    rw [empty] at split
    exact some split
  unfold RedisPy.serve
  rw [if_neg (by simpa using some), if_neg args]
  cases command with
  | mget => exact absurd counts (by decide)
  | mset => exact absurd counts (by decide)
  | exist => rfl
  | touch => rfl
  | del => exact removed
  | unlink => exact removed

omit [DecidableEq N] in
/-- The partition of keys that can be encoded. -/
theorem partitionKeysBySlot_of_encodable {keys : List KeyArg} (encodable : cluster.Encodable keys) :
    cluster.partitionKeysBySlot keys = .ok (Dict.group (cluster.keyItems keys)) := by
  have names : (keys.map fun key => (key, [key])).map (·.1) = keys := by simp [Function.comp_def]
  rw [partitionKeysBySlot, partitionBySlot_of_encodable (by rwa [names]), List.map_map]
  rfl

omit [DecidableEq N] in
/-- The partition of keys that cannot be encoded. -/
theorem partitionKeysBySlot_of_error {keys : List KeyArg} {e : Exc}
    (raised : keys.mapM cluster.encode = .error e) : cluster.partitionKeysBySlot keys = .error e :=
  partitionBySlot_of_error (by simpa [Function.comp_def] using raised) []

/-- A command that counts, split by slots, is the command on the union of the stores. -/
theorem splitCommandAcrossSlots_spec (arrangement : Arrangement N) {keys : List KeyArg} (some : keys ≠ [])
    {command : MultiKeyCommand} (counts : command ∈ counting) :
    (cluster.splitCommandAcrossSlots arrangement command keys).1.map .count =
        (cluster.unsplit command keys).1 ∧
      cluster.union (cluster.splitCommandAcrossSlots arrangement command keys).2 =
        (cluster.unsplit command keys).2 := by
  rcases cluster.encodable_or_error keys with encodable | ⟨e, raised⟩
  · have slotted := slotted_keyItems encodable (keysOf_counting counts)
    obtain ⟨after, ran, done, kept⟩ := executePipelineBySlot_spec arrangement slotted
    have args : keys.map cluster.data ≠ [] := by simpa using some
    have replies : (Dict.group (cluster.keyItems keys)).mapM (fun entry =>
        (RedisPy.serve command (entry.2.map cluster.data) (cluster.union cluster.stores)).1) =
        .ok ((Dict.group (cluster.keyItems keys)).map fun entry =>
          .count (countBy command (entry.2.map cluster.data) (cluster.union cluster.stores))) := by
      rw [← mapM_ok]
      refine mapM_congr_left fun entry member => serve_counting counts ?_ _
      simpa using (mem_group_keyItems member).2
    have split : cluster.splitCommandAcrossSlots arrangement command keys =
        (.ok (countBy command (keys.map cluster.data) (cluster.union cluster.stores)), after) := by
      unfold splitCommandAcrossSlots
      rw [partitionKeysBySlot_of_encodable encodable]
      simp only [ran, replies]
      rw [List.map_map, ← sum_countBy encodable counts]
      rfl
    have one : cluster.unsplit command keys =
        RedisPy.serve command (keys.map cluster.data) (cluster.union cluster.stores) := by
      rw [unsplit, encodable.mapM]
    rw [split, one, serve_counting counts args]
    refine ⟨rfl, union_eq done kept (fun entry member => serve_counting_same counts _ member) fun key there => ?_⟩
    rw [keysOf_counting counts] at there
    obtain ⟨arg, listed, rfl⟩ := List.mem_map.mp there
    exact cluster.exists_entry listed
  · rw [splitCommandAcrossSlots, partitionKeysBySlot_of_error raised, unsplit, raised]
    exact ⟨rfl, rfl⟩

/-- A dictionary of values of a function. -/
theorem get_update_of_values {κ υ : Type} [DecidableEq κ] (value : κ → υ) {items : List (κ × υ)}
    (values : ∀ item ∈ items, item.2 = value item.1) {d : Dict κ υ} {key : κ}
    (known : key ∈ items.map (·.1) ∨ d.get key = some (value key)) :
    (d.update items).get key = some (value key) := by
  induction items generalizing d with
  | nil =>
    rcases known with none | stored
    · cases none
    · exact stored
  | cons item items ih =>
    have later := fun other member => values other (List.mem_cons_of_mem item member)
    show ((d.set item.1 item.2).update items).get key = _
    refine ih later ?_
    by_cases same : item.1 = key
    · subst same
      rw [Dict.get_set_self, values item List.mem_cons_self]
      exact .inr rfl
    · rw [Dict.get_set_ne _ _ same]
      exact known.imp (fun member => (List.mem_cons.mp member).resolve_left (Ne.symm same)) id

omit [DecidableEq N] in
/-- The values of the slots are put back under their keys. -/
theorem reorderKeysByCommand_spec (keys : List KeyArg) (store : Store) :
    reorderKeysByCommand keys (Dict.group (cluster.keyItems keys))
        ((Dict.group (cluster.keyItems keys)).map fun entry =>
          .values ((entry.2.map cluster.data).map fun key => stringOf (store key))) =
      .ok (keys.map fun key => stringOf (store (cluster.data key))) := by
  have items : ((Dict.group (cluster.keyItems keys)).zip
      ((Dict.group (cluster.keyItems keys)).map fun entry =>
        .values ((entry.2.map cluster.data).map fun key => stringOf (store key)))).flatMap
      (fun part => part.1.2.zip (valuesOf part.2)) =
      (Dict.group (cluster.keyItems keys)).flatMap fun entry => entry.2.map fun key =>
        (key, stringOf (store (cluster.data key))) := by
    rw [← List.map_prod_left_eq_zip, List.flatMap_map]
    refine List.flatMap_congr fun entry _ => ?_
    simp only [valuesOf, List.map_map]
    rw [← List.map_prod_left_eq_zip]
    rfl
  rw [← mapM_ok]
  unfold reorderKeysByCommand
  rw [items]
  refine mapM_congr_left fun key member => ?_
  rw [get_update_of_values (fun key => stringOf (store (cluster.data key)))]
  · intro item there
    obtain ⟨entry, -, listed⟩ := List.mem_flatMap.mp there
    obtain ⟨arg, -, rfl⟩ := List.mem_map.mp listed
    rfl
  · refine .inl ?_
    obtain ⟨entry, there, inside⟩ := cluster.exists_entry member
    refine List.mem_map.mpr ⟨(key, stringOf (store (cluster.data key))), List.mem_flatMap.mpr ⟨entry, there, ?_⟩, rfl⟩
    refine List.mem_map.mpr ⟨key, ?_, rfl⟩
    rw [(mem_group_keyItems there).1]
    exact List.mem_filter.mpr ⟨member, decide_eq_true inside⟩

/-- `mget_nonatomic` is `MGET` on the union of the stores. -/
theorem mgetNonatomic_spec (arrangement : Arrangement N) {keys : List KeyArg} (some : keys ≠ []) :
    (cluster.mgetNonatomic arrangement keys).1.map .values = (cluster.unsplit .mget keys).1 := by
  rcases cluster.encodable_or_error keys with encodable | ⟨e, raised⟩
  · have slotted : cluster.Slotted .mget (Dict.group (cluster.keyItems keys)) :=
      slotted_keyItems encodable fun args => rfl
    obtain ⟨after, ran, -, -⟩ := executePipelineBySlot_spec arrangement slotted
    have args : keys.map cluster.data ≠ [] := by simpa using some
    have replies : (Dict.group (cluster.keyItems keys)).mapM (fun entry =>
        (RedisPy.serve .mget (entry.2.map cluster.data) (cluster.union cluster.stores)).1) =
        .ok ((Dict.group (cluster.keyItems keys)).map fun entry =>
          .values ((entry.2.map cluster.data).map fun key => stringOf (cluster.union cluster.stores key))) := by
      rw [← mapM_ok]
      refine mapM_congr_left fun entry member => ?_
      rw [RedisPy.serve, if_neg (by simpa using (mem_group_keyItems member).2)]
    unfold mgetNonatomic
    rw [partitionKeysBySlot_of_encodable encodable]
    simp only [ran, replies]
    rw [reorderKeysByCommand_spec, unsplit, encodable.mapM]
    simp only [RedisPy.serve, if_neg args, List.map_map]
    rfl
  · rw [mgetNonatomic, partitionKeysBySlot_of_error raised, unsplit, raised]
    rfl

/-! ## Pairs -/

/-- The octets of pairs. -/
def pairData (cluster : MultiKeyCluster N) (mapping : Dict KeyArg Bytes) : List (Bytes × Bytes) :=
  mapping.map fun pair => (cluster.data pair.1, pair.2)

/-- The arguments of pairs. -/
def pairArgs (mapping : Dict KeyArg Bytes) : List KeyArg := mapping.flatMap fun pair => [pair.1, .bytes pair.2]

/-- The items of pairs. -/
def pairItems (cluster : MultiKeyCluster N) (mapping : Dict KeyArg Bytes) : List (Nat × List KeyArg) :=
  mapping.map fun pair => (cluster.slotOf pair.1, [pair.1, .bytes pair.2])

omit [DecidableEq N] in
/-- The octets of the arguments of pairs. -/
theorem map_data_pairArgs (mapping : Dict KeyArg Bytes) :
    (pairArgs mapping).map cluster.data = (cluster.pairData mapping).flatMap fun pair => [pair.1, pair.2] := by
  rw [pairArgs, pairData, List.map_flatMap, List.flatMap_map]
  rfl

omit [DecidableEq N] in
/-- Pairs can be encoded when their keys can. -/
theorem encodable_pairArgs {mapping : Dict KeyArg Bytes}
    (encodable : cluster.Encodable (mapping.map (·.1))) : cluster.Encodable (pairArgs mapping) := by
  intro arg member
  obtain ⟨pair, listed, there⟩ := List.mem_flatMap.mp member
  simp only [List.mem_cons, List.not_mem_nil, or_false] at there
  rcases there with rfl | rfl
  · exact encodable _ (List.mem_map_of_mem listed)
  · rfl

omit [DecidableEq N] in
/-- The key that cannot be encoded raises in the arguments too. -/
theorem mapM_pairArgs_of_error {mapping : Dict KeyArg Bytes} {e : Exc}
    (raised : (mapping.map (·.1)).mapM cluster.encode = .error e) :
    (pairArgs mapping).mapM cluster.encode = .error e := by
  induction mapping with
  | nil => cases raised
  | cons pair mapping ih =>
    rw [List.map_cons, List.mapM_cons] at raised
    rw [pairArgs, List.flatMap_cons, List.cons_append, List.mapM_cons]
    cases encoded : cluster.encode pair.1 with
    | error other =>
      rw [encoded] at raised
      cases raised
      rfl
    | ok data =>
      rw [encoded] at raised
      cases rest : (mapping.map (·.1)).mapM cluster.encode with
      | error other =>
        rw [rest] at raised
        cases raised
        have later := ih rest
        rw [List.singleton_append, List.mapM_cons, show (mapping.flatMap fun pair => [pair.1, .bytes pair.2]) =
          pairArgs mapping from rfl, later]
        rfl
      | ok others =>
        rw [rest] at raised
        cases raised

omit [DecidableEq N] in
/-- An entry of the partition has the pairs of its slot, in order, and at least one. -/
theorem mem_group_pairItems {mapping : Dict KeyArg Bytes} {entry : Nat × List KeyArg}
    (member : entry ∈ Dict.group (cluster.pairItems mapping)) :
    entry.2 = pairArgs (mapping.filter fun pair => cluster.slotOf pair.1 = entry.1) := by
  rw [Dict.mem_group member, pairItems, List.filter_map, List.flatMap_map]
  rfl

omit [DecidableEq N] in
/-- Pairs whose keys can be encoded are partitioned into commands for their slots. -/
theorem slotted_pairItems {mapping : Dict KeyArg Bytes}
    (encodable : cluster.Encodable (mapping.map (·.1))) :
    cluster.Slotted .mset (Dict.group (cluster.pairItems mapping)) := by
  have empty : Dict.Unique ([] : Dict Nat (List KeyArg)) := List.nodup_nil
  refine ⟨empty.groupInto _, fun entry member => ?_, fun entry member key there => ?_⟩
  · rw [mem_group_pairItems member]
    refine encodable_pairArgs fun arg listed => ?_
    obtain ⟨pair, kept, rfl⟩ := List.mem_map.mp listed
    exact encodable _ (List.mem_map_of_mem (List.mem_filter.mp kept).1)
  · replace there : key ∈ everyOther (entry.2.map cluster.data) := there
    rw [mem_group_pairItems member, map_data_pairArgs, everyOther_flatMap, pairData, List.map_map] at there
    obtain ⟨pair, kept, rfl⟩ := List.mem_map.mp there
    have inside : cluster.slotOf pair.1 = entry.1 := by simpa using (List.mem_filter.mp kept).2
    exact inside

/-- What `MSET` stores. -/
theorem serve_mset (pairs : List (Bytes × Bytes)) (store : Store) :
    (RedisPy.serve .mset (pairs.flatMap fun pair => [pair.1, pair.2]) store).2 =
      setEach (pairs.flatMap fun pair => [pair.1, pair.2]) store := by
  have even : (pairs.flatMap fun pair => [pair.1, pair.2]).length % 2 ≠ 1 := by
    induction pairs with
    | nil => decide
    | cons pair pairs ih =>
      rw [List.flatMap_cons, List.length_append, List.length_cons, List.length_cons, List.length_nil]
      omega
  unfold RedisPy.serve
  by_cases none : (pairs.flatMap fun pair => [pair.1, pair.2]) = []
  · rw [if_pos none, none]
    rfl
  · simp only [if_neg none, if_neg even]

omit [DecidableEq N] in
/-- The pairs of a key are among the pairs of its slot. -/
theorem pairData_filter (mapping : Dict KeyArg Bytes) (key : Bytes) :
    (cluster.pairData (mapping.filter fun pair =>
        cluster.slotOf pair.1 = keySlot key redisClusterHashSlots)).filter (fun pair => pair.1 = key) =
      (cluster.pairData mapping).filter fun pair => pair.1 = key := by
  simp only [pairData, List.filter_map, List.filter_filter]
  congr 1
  refine List.filter_congr fun pair _ => ?_
  by_cases same : cluster.data pair.1 = key
  · subst same
    simp [slotOf]
  · simp [same]

omit [DecidableEq N] in
/-- Under the keys of a slot, `MSET` for the slot does what `MSET` for all pairs does. -/
theorem serve_mset_same {mapping : Dict KeyArg Bytes} (store : Store) {entry : Nat × List KeyArg}
    (member : entry ∈ Dict.group (cluster.pairItems mapping)) :
    SameUnder (fun key => keySlot key redisClusterHashSlots = entry.1)
      (RedisPy.serve .mset (entry.2.map cluster.data) store).2
      (RedisPy.serve .mset ((pairArgs mapping).map cluster.data) store).2 := by
  intro key inside
  rw [mem_group_pairItems member, map_data_pairArgs, map_data_pairArgs, serve_mset, serve_mset,
    setEach_apply, setEach_apply, ← inside, pairData_filter]

omit [DecidableEq N] in
/-- The partition of pairs whose keys can be encoded. -/
theorem partitionPairsBySlot_of_encodable {mapping : Dict KeyArg Bytes}
    (encodable : cluster.Encodable (mapping.map (·.1))) :
    cluster.partitionPairsBySlot mapping = .ok (Dict.group (cluster.pairItems mapping)) := by
  have names : (mapping.map fun pair => (pair.1, [pair.1, KeyArg.bytes pair.2])).map (·.1) =
      mapping.map (·.1) := by simp [Function.comp_def]
  rw [partitionPairsBySlot, partitionBySlot_of_encodable (by rwa [names]), List.map_map]
  rfl

omit [DecidableEq N] in
/-- The partition of pairs one of whose keys cannot be encoded. -/
theorem partitionPairsBySlot_of_error {mapping : Dict KeyArg Bytes} {e : Exc}
    (raised : (mapping.map (·.1)).mapM cluster.encode = .error e) :
    cluster.partitionPairsBySlot mapping = .error e :=
  partitionBySlot_of_error (by simpa [Function.comp_def] using raised) []

/-- `mset_nonatomic` stores what `MSET` stores. -/
theorem msetNonatomic_spec (arrangement : Arrangement N) (mapping : Dict KeyArg Bytes) :
    cluster.union (cluster.msetNonatomic arrangement mapping).2 =
      (cluster.unsplit .mset (pairArgs mapping)).2 := by
  rcases cluster.encodable_or_error (mapping.map (·.1)) with encodable | ⟨e, raised⟩
  · obtain ⟨after, ran, done, kept⟩ := executePipelineBySlot_spec arrangement (slotted_pairItems encodable)
    rw [msetNonatomic, partitionPairsBySlot_of_encodable encodable, unsplit,
      (encodable_pairArgs encodable).mapM]
    simp only [ran]
    refine union_eq done kept (fun entry member => serve_mset_same _ member) fun key there => ?_
    replace there : key ∈ everyOther ((pairArgs mapping).map cluster.data) := there
    rw [map_data_pairArgs, everyOther_flatMap, pairData, List.map_map] at there
    obtain ⟨pair, listed, rfl⟩ := List.mem_map.mp there
    have stored : cluster.slotOf pair.1 ∈ (Dict.group (cluster.pairItems mapping)).keys :=
      Dict.mem_keys_groupInto.mpr (.inr ⟨_, List.mem_map_of_mem listed, rfl⟩)
    obtain ⟨entry, member, same⟩ := List.mem_map.mp stored
    exact ⟨entry, member, same.symm⟩
  · rw [msetNonatomic, partitionPairsBySlot_of_error raised, unsplit, mapM_pairArgs_of_error raised]

/-- Two nodes, with the even slots and with the odd slots. -/
def ofTwo : MultiKeyCluster Bool where
  encodeText := fun text => .ok (utf8 text)
  readFromReplicas := false
  primary := fun slot => slot % 2 = 0
  reader := fun slot => slot % 2 = 0
  stores := fun _ _ => none
  synced := fun _ => rfl

/-- The commands of a pipeline reach the nodes in their order. -/
def inOrder : Arrangement Bool := ⟨id, fun _ => List.Perm.refl _⟩

end MultiKeyCluster

end RedisPy

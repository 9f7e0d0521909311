import Mathlib.Algebra.Order.BigOperators.Group.List
import Mathlib.Algebra.Order.Group.Nat
import RedisPy.Exceptions
import RedisPy.Python.Dict

/-!
# Scanning a cluster

`scan_iter` of a cluster client, blocking or asyncio: one scan of all primaries, and then rounds of
scans of single nodes until every cursor is zero. Each primary has a sequence of replies; what is asked
is recorded.
-/

namespace RedisPy

variable {N K : Type} [DecidableEq N]

/-! ## The nodes -/

/-- The nodes of a client, by their names, and what the primaries reply to a scan. -/
structure ScanCluster (N K : Type) where
  /-- `nodes_cache`. -/
  nodesCache : List N
  /-- `get_primaries()`. -/
  primaries : List N
  distinct : primaries.Nodup
  nonempty : primaries ≠ []
  cached : ∀ name ∈ primaries, name ∈ nodesCache
  /-- Cursors and batches. -/
  replies : N → List (Nat × List K)
  /-- The cursor is zero in the last reply, and only there. -/
  ends : ∀ name ∈ primaries, ∃ earlier batch, replies name = earlier ++ [(0, batch)] ∧
    ∀ reply ∈ earlier, reply.1 ≠ 0

/-- How far the scans of the nodes are, and what was asked. -/
structure ScanState (N : Type) where
  /-- The number of replies that a node has given. -/
  turn : N → Nat
  /-- Nodes and cursors of the requests. -/
  asked : List (N × Nat)

/-- Nothing was asked. -/
def ScanState.start : ScanState N := { turn := fun _ => 0, asked := [] }

/-- The cursors that were sent to a node. -/
def ScanState.sentTo (s : ScanState N) (name : N) : List Nat :=
  (s.asked.filter fun request => request.1 = name).map (·.2)

namespace ScanCluster

section Scan

variable (cluster : ScanCluster N K)

/-- The next reply of a node; a scan that has ended gives nothing more. -/
def answer (name : N) (cursor : Nat) (s : ScanState N) : (Nat × List K) × ScanState N :=
  ((cluster.replies name)[s.turn name]?.getD (0, []),
    { turn := Function.update s.turn name (s.turn name + 1), asked := s.asked ++ [(name, cursor)] })

/-- `execute_command("SCAN", cursor)` on nodes, into the dictionary of their responses. -/
def executeOn (cursor : Nat) : List N → Dict N (Nat × List K) → ScanState N →
    Dict N (Nat × List K) × ScanState N
  | [], res, s => (res, s)
  | name :: names, res, s =>
    let (response, s) := cluster.answer name cursor s
    executeOn cursor names (res.set name response) s

/-- `parse_scan_result`, into its dictionary and its list. -/
def parseScanResult : Dict N (Nat × List K) → Dict N Nat → List K → Dict N Nat × List K
  | [], cursors, ret => (cursors, ret)
  | (nodeName, cursor, r) :: res, cursors, ret =>
    parseScanResult res (cursors.set nodeName cursor) (ret ++ r)

/-- `scan(cursor=cursor, target_nodes=target)`. -/
def scan (cursor : Nat) (target : Option N) (s : ScanState N) :
    Except Exc (Dict N Nat × List K) × ScanState N :=
  let targetNodes := match target with
    | some name => [name]
    | none => cluster.primaries
  match targetNodes with
  | [] => (.error { cls := .redisClusterException }, s)
  | targetNodes =>
    let (res, s) := cluster.executeOn cursor targetNodes [] s
    (.ok (parseScanResult res [] []), s)

/-- `get_node(node_name=name)`. -/
def getNode (name : N) : Option N := if name ∈ cluster.nodesCache then some name else none

/-- The cursors that are not zero. -/
def active (cursors : Dict N Nat) : Dict N Nat := cursors.filter fun item => item.2 ≠ 0

/-- The inner loop of `scan_iter` over the names that are left, with what was yielded. -/
def scanRound (nodes : Dict N (Option N)) : List N → Dict N Nat → List K → ScanState N →
    Except Exc (Dict N Nat × List K) × ScanState N
  | [], cursors, yielded, s => (.ok (cursors, yielded), s)
  | name :: names, cursors, yielded, s =>
    match cursors.get name, nodes.get name with
    | some cursor, some node =>
      match cluster.scan cursor node s with
      | (.error e, s) => (.error e, s)
      | (.ok (cur, data), s) =>
        match cur.get name with
        | some next => scanRound nodes names (cursors.set name next) (yielded ++ data) s
        | none => (.error { cls := .keyError }, s)
    | _, _ => (.error { cls := .keyError }, s)

/-- The outer loop of `scan_iter`, for so many rounds at most. -/
def scanLoop (nodes : Dict N (Option N)) : Nat → Dict N Nat → List K → ScanState N →
    Option (Except Exc (List K) × ScanState N)
  | _, [], yielded, s => some (.ok yielded, s)
  | 0, _ :: _, _, _ => none
  | rounds + 1, cursors, yielded, s =>
    match cluster.scanRound nodes cursors.keys cursors yielded s with
    | (.error e, s) => some (.error e, s)
    | (.ok (cursors, yielded), s) => scanLoop nodes rounds (active cursors) yielded s

/-- `scan_iter`, for so many rounds at most. -/
def scanIter (rounds : Nat) : Option (Except Exc (List K) × ScanState N) :=
  match cluster.scan 0 none .start with
  | (.error e, s) => some (.error e, s)
  | (.ok (cursors, data), s) =>
    let cursors := active cursors
    cluster.scanLoop (cursors.keys.map fun name => (name, cluster.getNode name)) rounds cursors data s

end Scan

/-! ## What is visited -/

variable (cluster : ScanCluster N K)

/-- The cursors that a node gives. -/
def given (name : N) : List Nat := (cluster.replies name).map (·.1)

/-- All batches were yielded, once; every primary was sent zero and then each of its own cursors but the
last one, which is zero; and no other node was asked. -/
structure VisitsAll (yielded : List K) (s : ScanState N) : Prop where
  complete : yielded.Perm (cluster.primaries.flatMap fun name => (cluster.replies name).flatMap (·.2))
  own : ∀ name ∈ cluster.primaries, s.sentTo name = (0 :: cluster.given name).dropLast
  others : ∀ request ∈ s.asked, request.1 ∈ cluster.primaries

/-- How far a scan is. -/
structure Visited (yielded : List K) (s : ScanState N) : Prop where
  sent : ∀ name ∈ cluster.primaries, s.sentTo name = (0 :: cluster.given name).take (s.turn name)
  within : ∀ name ∈ cluster.primaries, s.turn name ≤ (cluster.replies name).length
  others : ∀ request ∈ s.asked, request.1 ∈ cluster.primaries
  data : yielded.Perm (cluster.primaries.flatMap fun name =>
    ((cluster.replies name).take (s.turn name)).flatMap (·.2))

/-- The cursors are those that the nodes gave last; nodes without one are finished. -/
structure Tracks (cursors : Dict N Nat) (s : ScanState N) : Prop where
  unique : cursors.Unique
  known : ∀ name ∈ cursors.keys, name ∈ cluster.primaries
  last : ∀ name cursor, cursors.get name = some cursor →
    0 < s.turn name ∧ (0 :: cluster.given name)[s.turn name]? = some cursor
  finished : ∀ name ∈ cluster.primaries, cursors.get name = none →
    s.turn name = (cluster.replies name).length

/-- More for one name is more for the whole. -/
theorem flatMap_update_perm {names : List N} (distinct : names.Nodup) {name : N} (member : name ∈ names)
    (f : N → List K) (more : List K) :
    (names.flatMap f ++ more).Perm (names.flatMap (Function.update f name (f name ++ more))) := by
  obtain ⟨before, behind, rfl⟩ := List.append_of_mem member
  have apart := List.nodup_append.mp distinct
  have first : before.flatMap (Function.update f name (f name ++ more)) = before.flatMap f := by
    refine List.flatMap_congr fun other there => Function.update_of_ne ?_ _ _
    rintro rfl
    exact apart.2.2 other there other List.mem_cons_self rfl
  have last : behind.flatMap (Function.update f name (f name ++ more)) = behind.flatMap f := by
    refine List.flatMap_congr fun other there => Function.update_of_ne ?_ _ _
    rintro rfl
    exact (List.nodup_cons.mp apart.2.1).1 there
  rw [List.flatMap_append, List.flatMap_append, List.flatMap_cons, List.flatMap_cons, first, last,
    Function.update_self, List.append_assoc, List.append_assoc, List.append_assoc]
  exact (List.Perm.append_left _ (List.Perm.append_left _ List.perm_append_comm))

variable {cluster}

/-- One request of a cursor that the node gave last takes its scan one reply further. -/
theorem Visited.answer {yielded : List K} {s : ScanState N} (visited : cluster.Visited yielded s) {name : N}
    (member : name ∈ cluster.primaries) {reply : Nat × List K}
    (next : (cluster.replies name)[s.turn name]? = some reply) {cursor : Nat}
    (last : (0 :: cluster.given name)[s.turn name]? = some cursor) :
    (cluster.answer name cursor s).1 = reply ∧
      cluster.Visited (yielded ++ reply.2) (cluster.answer name cursor s).2 := by
  refine ⟨by simp [ScanCluster.answer, next], fun other there => ?_, fun other there => ?_,
    fun request asked => ?_, ?_⟩
  · by_cases same : other = name
    · subst same
      have before := visited.sent other there
      unfold ScanState.sentTo at before ⊢
      simp only [ScanCluster.answer, List.filter_append, List.map_append, before, Function.update_self,
        List.take_add_one, last]
      simp
    · have before := visited.sent other there
      unfold ScanState.sentTo at before ⊢
      simp only [ScanCluster.answer, List.filter_append, List.map_append, before,
        Function.update_of_ne same]
      simp [Ne.symm same]
  · by_cases same : other = name
    · subst same
      simp only [ScanCluster.answer, Function.update_self]
      exact (List.getElem?_eq_some_iff.mp next).1
    · simpa [ScanCluster.answer, Function.update_of_ne same] using visited.within other there
  · simp only [ScanCluster.answer, List.mem_append, List.mem_singleton] at asked
    rcases asked with old | rfl
    · exact visited.others request old
    · exact member
  · have grown : (fun other => ((cluster.replies other).take
        ((cluster.answer name cursor s).2.turn other)).flatMap (·.2)) =
        Function.update (fun other => ((cluster.replies other).take (s.turn other)).flatMap (·.2)) name
          (((cluster.replies name).take (s.turn name)).flatMap (·.2) ++ reply.2) := by
      funext other
      by_cases same : other = name
      · subst same
        simp [ScanCluster.answer, List.take_add_one, next]
      · simp [ScanCluster.answer, Function.update_of_ne same]
    rw [grown]
    exact (visited.data.append_right reply.2).trans
      (flatMap_update_perm cluster.distinct member _ reply.2)

omit [DecidableEq N] in
/-- The cursor that a node gave last is zero exactly when it has given all its replies. -/
theorem zero_iff_finished {name : N} (member : name ∈ cluster.primaries) {turn cursor : Nat}
    (started : 0 < turn) (last : (0 :: cluster.given name)[turn]? = some cursor) :
    cursor = 0 ↔ turn = (cluster.replies name).length := by
  obtain ⟨earlier, batch, same, others⟩ := cluster.ends name member
  obtain ⟨turn, rfl⟩ := Nat.exists_eq_succ_of_ne_zero (by omega : turn ≠ 0)
  simp only [given, same, List.map_append, List.map_cons, List.map_nil, Nat.succ_eq_add_one,
    List.getElem?_cons_succ, List.length_append, List.length_singleton] at last ⊢
  by_cases inside : turn < earlier.length
  · rw [List.getElem?_append_left (by simpa using inside), List.getElem?_map,
      List.getElem?_eq_getElem inside] at last
    have differs := others _ (List.getElem_mem inside)
    simp only [Option.map_some, Option.some.injEq] at last
    omega
  · rw [List.getElem?_append_right (by simpa using inside)] at last
    obtain ⟨first, value⟩ := List.getElem?_eq_some_iff.mp last
    simp only [List.length_map, List.length_singleton] at first value
    simp only [List.getElem_singleton] at value
    omega

/-- The first reply of a node. -/
def first (cluster : ScanCluster N K) (name : N) : Nat × List K := (cluster.replies name)[0]?.getD (0, [])

omit [DecidableEq N] in
/-- Every primary has a first reply. -/
theorem first_spec {name : N} (member : name ∈ cluster.primaries) :
    (cluster.replies name)[0]? = some (cluster.first name) := by
  obtain ⟨earlier, batch, same, -⟩ := cluster.ends name member
  unfold first
  rw [same]
  cases earlier <;> rfl

/-- The first scan asks each primary for its first reply. -/
theorem executeOn_first {names : List N} (distinct : names.Nodup)
    (primary : ∀ name ∈ names, name ∈ cluster.primaries) {s : ScanState N}
    (fresh : ∀ name ∈ names, s.turn name = 0) {res : Dict N (Nat × List K)}
    (new : ∀ name ∈ names, name ∉ res.keys) {yielded : List K} (visited : cluster.Visited yielded s) :
    (cluster.executeOn 0 names res s).1 = res ++ names.map (fun name => (name, cluster.first name)) ∧
      cluster.Visited (yielded ++ names.flatMap fun name => (cluster.first name).2)
        (cluster.executeOn 0 names res s).2 ∧
      ∀ name, (cluster.executeOn 0 names res s).2.turn name =
        if name ∈ names then 1 else s.turn name := by
  induction names generalizing s res yielded with
  | nil =>
    refine ⟨(List.append_nil res).symm, ?_, fun name => by simp [executeOn]⟩
    rw [List.flatMap_nil, List.append_nil]
    exact visited
  | cons name names ih =>
    have apart := List.nodup_cons.mp distinct
    have turned := fresh name List.mem_cons_self
    have here : (cluster.replies name)[s.turn name]? = some (cluster.first name) := by
      rw [turned]
      exact first_spec (primary name List.mem_cons_self)
    have zero : (0 :: cluster.given name)[s.turn name]? = some 0 := by
      rw [turned]
      rfl
    obtain ⟨replied, grown⟩ := visited.answer (primary name List.mem_cons_self) here zero
    have others (other : N) (member : other ∈ names) : other ≠ name := fun same => apart.1 (same ▸ member)
    have stored : res.set name (cluster.first name) = res ++ [(name, cluster.first name)] :=
      Dict.set_of_notMem _ (new name List.mem_cons_self)
    have unasked : ∀ other ∈ names, (cluster.answer name 0 s).2.turn other = 0 := by
      intro other member
      simpa [answer, Function.update_of_ne (others other member)] using
        fresh other (List.mem_cons_of_mem _ member)
    have absent : ∀ other ∈ names, other ∉ (res.set name (cluster.first name)).keys := by
      intro other member stored
      rcases Dict.mem_keys_set.mp stored with same | old
      · exact others other member same
      · exact new other (List.mem_cons_of_mem _ member) old
    obtain ⟨responses, done, turns⟩ := ih apart.2
      (fun other member => primary other (List.mem_cons_of_mem _ member)) unasked absent grown
    have unfolded : cluster.executeOn 0 (name :: names) res s =
        cluster.executeOn 0 names (res.set name (cluster.first name)) (cluster.answer name 0 s).2 := by
      rw [executeOn, ← replied]
    rw [unfolded]
    refine ⟨?_, ?_, fun other => ?_⟩
    · rw [responses, stored, List.map_cons, List.append_assoc, List.singleton_append]
    · rw [List.flatMap_cons, ← List.append_assoc]
      exact done
    · rw [turns other]
      by_cases same : other = name
      · subst same
        simp [answer, turned, apart.1]
      · simp [answer, same]

/-- The result of a scan has a cursor for each node, and all batches. -/
theorem parseScanResult_eq {res : Dict N (Nat × List K)} (unique : res.Unique) {cursors : Dict N Nat}
    (new : ∀ name ∈ res.keys, name ∉ cursors.keys) (ret : List K) :
    parseScanResult res cursors ret =
      (cursors ++ res.map (fun item => (item.1, item.2.1)), ret ++ res.flatMap fun item => item.2.2) := by
  induction res generalizing cursors ret with
  | nil => simp [parseScanResult]
  | cons item res ih =>
    obtain ⟨name, cursor, batch⟩ := item
    have apart : name ∉ Dict.keys res ∧ (Dict.keys res).Nodup := List.nodup_cons.mp unique
    rw [parseScanResult, Dict.set_of_notMem cursor (new name List.mem_cons_self), ih apart.2 ?_]
    · simp
    · intro other member stored
      simp only [Dict.keys, List.map_append, List.map_cons, List.map_nil, List.mem_append,
        List.mem_singleton] at stored
      rcases stored with old | rfl
      · exact new other (List.mem_cons_of_mem _ member) old
      · exact apart.1 member

/-- A scan of one node gives its reply. -/
theorem scan_one (cursor : Nat) (name : N) (s : ScanState N) :
    cluster.scan cursor (some name) s =
      (.ok ([(name, (cluster.answer name cursor s).1.1)], (cluster.answer name cursor s).1.2),
        (cluster.answer name cursor s).2) :=
  rfl

/-- An answer leaves the other nodes where they were. -/
theorem turn_answer_ne {name other : N} (differs : other ≠ name) (cursor : Nat) (s : ScanState N) :
    (cluster.answer name cursor s).2.turn other = s.turn other := by
  simp [answer, Function.update_of_ne differs]

/-- An answer takes its node one reply further. -/
theorem turn_answer_self (name : N) (cursor : Nat) (s : ScanState N) :
    (cluster.answer name cursor s).2.turn name = s.turn name + 1 := by
  simp [answer]

/-- The cursor of an answer is that of its node. -/
theorem Tracks.answer {cursors : Dict N Nat} {s : ScanState N} (tracks : cluster.Tracks cursors s) {name : N}
    (stored : name ∈ cursors.keys) {reply : Nat × List K}
    (next : (cluster.replies name)[s.turn name]? = some reply) (cursor : Nat) :
    cluster.Tracks (cursors.set name reply.1) (cluster.answer name cursor s).2 := by
  refine ⟨tracks.unique.set _ _, fun other there => ?_, fun other value there => ?_, fun other there none => ?_⟩
  · rcases Dict.mem_keys_set.mp there with rfl | old
    · exact tracks.known _ stored
    · exact tracks.known other old
  · by_cases same : other = name
    · subst same
      rw [Dict.get_set_self, Option.some.injEq] at there
      rw [turn_answer_self, ← there]
      refine ⟨by omega, ?_⟩
      rw [List.getElem?_cons_succ, given, List.getElem?_map, next]
      rfl
    · rw [Dict.get_set_ne _ _ (Ne.symm same)] at there
      rw [turn_answer_ne same]
      exact tracks.last other value there
  · by_cases same : other = name
    · subst same
      rw [Dict.get_set_self] at none
      cases none
    · rw [Dict.get_set_ne _ _ (Ne.symm same)] at none
      rw [turn_answer_ne same]
      exact tracks.finished other there none

/-- One round goes one reply further at each of its nodes. -/
theorem scanRound_spec {nodes : Dict N (Option N)} {names : List N} (distinct : names.Nodup)
    (located : ∀ name ∈ names, nodes.get name = some (some name)) {cursors : Dict N Nat}
    (open' : ∀ name ∈ names, ∃ cursor, cursors.get name = some cursor ∧ cursor ≠ 0)
    {s : ScanState N} (tracks : cluster.Tracks cursors s) {yielded : List K}
    (visited : cluster.Visited yielded s) :
    ∃ cursors' yielded' s', cluster.scanRound nodes names cursors yielded s = (.ok (cursors', yielded'), s') ∧
      cluster.Tracks cursors' s' ∧ cluster.Visited yielded' s' ∧
      (∀ name, name ∈ cursors'.keys ↔ name ∈ cursors.keys) ∧
      ∀ name, s'.turn name = if name ∈ names then s.turn name + 1 else s.turn name := by
  induction names generalizing cursors s yielded with
  | nil => exact ⟨cursors, yielded, s, rfl, tracks, visited, fun _ => .rfl, fun name => by simp⟩
  | cons name names ih =>
    have apart := List.nodup_cons.mp distinct
    obtain ⟨cursor, found, running⟩ := open' name List.mem_cons_self
    have stored : name ∈ cursors.keys := Dict.isSome_get_iff.mp (by rw [found]; rfl)
    have member := tracks.known name stored
    obtain ⟨started, last⟩ := tracks.last name cursor found
    have more : s.turn name < (cluster.replies name).length := by
      have whole := visited.within name member
      have unfinished := mt (zero_iff_finished member started last).mpr running
      omega
    obtain ⟨reply, next⟩ : ∃ reply, (cluster.replies name)[s.turn name]? = some reply :=
      ⟨_, List.getElem?_eq_getElem more⟩
    obtain ⟨replied, grown⟩ := visited.answer member next last
    obtain ⟨cursors', yielded', s', ran, tracks', visited', keys, turns⟩ := ih apart.2
      (fun other there => located other (List.mem_cons_of_mem _ there))
      (fun other there => by
        have differs : name ≠ other := fun same => apart.1 (same ▸ there)
        rw [Dict.get_set_ne _ _ differs]
        exact open' other (List.mem_cons_of_mem _ there)) (tracks.answer stored next cursor) grown
    refine ⟨cursors', yielded', s', ?_, tracks', visited', fun other => ?_, fun other => ?_⟩
    · rw [scanRound, found, located name List.mem_cons_self]
      simp only [scan_one, replied]
      rw [show Dict.get [(name, reply.1)] name = some reply.1 by simp [Dict.get]]
      exact ran
    · rw [keys other, Dict.mem_keys_set]
      exact ⟨fun there => there.elim (fun same => same ▸ stored) id, .inr⟩
    · rw [turns other]
      by_cases same : other = name
      · subst same
        simp [apart.1, turn_answer_self]
      · simp [turn_answer_ne same, same]

/-- The cursors that are not zero are kept. -/
theorem get_active {cursors : Dict N Nat} (unique : cursors.Unique) (name : N) (cursor : Nat) :
    (active cursors).get name = some cursor ↔ cursors.get name = some cursor ∧ cursor ≠ 0 := by
  have kept : (active cursors).Unique := (List.filter_sublist.map _).nodup unique
  constructor
  · intro found
    obtain ⟨stored, running⟩ := List.mem_filter.mp (Dict.mem_of_get found)
    exact ⟨unique.get_of_mem stored, by simpa using running⟩
  · rintro ⟨found, running⟩
    exact kept.get_of_mem (List.mem_filter.mpr ⟨Dict.mem_of_get found, by simpa using running⟩)

/-- The nodes whose cursor is zero are finished. -/
theorem Tracks.active {cursors : Dict N Nat} {s : ScanState N} (tracks : cluster.Tracks cursors s) :
    cluster.Tracks (active cursors) s := by
  refine ⟨(List.filter_sublist.map _).nodup tracks.unique, fun name there => ?_, fun name cursor found => ?_,
    fun name member none => ?_⟩
  · exact tracks.known name ((List.filter_sublist.map _).subset there)
  · exact tracks.last name cursor ((get_active tracks.unique name cursor).mp found).1
  · cases found : cursors.get name with
    | none => exact tracks.finished name member found
    | some cursor =>
      obtain ⟨started, last⟩ := tracks.last name cursor found
      refine (zero_iff_finished member started last).mp ?_
      by_contra running
      rw [(get_active tracks.unique name cursor).mpr ⟨found, running⟩] at none
      cases none

/-- When all nodes are finished, all was visited. -/
theorem Visited.all {yielded : List K} {s : ScanState N} (visited : cluster.Visited yielded s)
    (finished : ∀ name ∈ cluster.primaries, s.turn name = (cluster.replies name).length) :
    cluster.VisitsAll yielded s := by
  refine ⟨?_, fun name member => ?_, visited.others⟩
  · have whole := visited.data
    rw [List.flatMap_congr fun name member => by rw [finished name member, List.take_length]] at whole
    exact whole
  · rw [visited.sent name member, finished name member, List.dropLast_eq_take]
    simp [given]

/-- Rounds follow until all nodes are finished. -/
theorem scanLoop_visits {nodes : Dict N (Option N)} {cursors : Dict N Nat}
    (located : ∀ name ∈ cursors.keys, nodes.get name = some (some name)) {s : ScanState N}
    (tracks : cluster.Tracks cursors s) (running : ∀ item ∈ cursors, item.2 ≠ 0) {yielded : List K}
    (visited : cluster.Visited yielded s) (rounds : Nat)
    (enough : ∀ name ∈ cursors.keys, (cluster.replies name).length ≤ s.turn name + rounds) :
    ∃ yielded' s', cluster.VisitsAll yielded' s' ∧
      ∀ more, rounds ≤ more → cluster.scanLoop nodes more cursors yielded s = some (.ok yielded', s') := by
  induction rounds generalizing cursors s yielded with
  | zero =>
    cases cursors with
    | nil =>
      refine ⟨yielded, s, visited.all fun name member => tracks.finished name member rfl, fun more _ => ?_⟩
      cases more <;> rfl
    | cons item cursors =>
      have stored : item.1 ∈ Dict.keys (item :: cursors) := List.mem_cons_self
      have member := tracks.known _ stored
      obtain ⟨started, last⟩ := tracks.last item.1 item.2 (by simp [Dict.get])
      have unfinished := mt (zero_iff_finished member started last).mpr (running item List.mem_cons_self)
      have whole := visited.within _ member
      have bound := enough _ stored
      omega
  | succ rounds ih =>
    cases cursors with
    | nil =>
      refine ⟨yielded, s, visited.all fun name member => tracks.finished name member rfl, fun more _ => ?_⟩
      cases more <;> rfl
    | cons item cursors =>
      obtain ⟨cursors', yielded', s', ran, tracks', visited', keys, turns⟩ :=
        scanRound_spec tracks.unique located (fun name there => by
          obtain ⟨cursor, found⟩ := Option.isSome_iff_exists.mp (Dict.isSome_get_iff.mpr there)
          exact ⟨cursor, found, running _ (Dict.mem_of_get found)⟩) tracks visited
      have kept (name : N) (there : name ∈ (ScanCluster.active cursors').keys) :
          name ∈ Dict.keys (item :: cursors) :=
        (keys name).mp ((List.filter_sublist.map _).subset there)
      have open' : ∀ item ∈ ScanCluster.active cursors', item.2 ≠ 0 := fun item there => by
        simpa using (List.mem_filter.mp there).2
      obtain ⟨all, last, done, ends⟩ := ih (fun name there => located name (kept name there)) tracks'.active
        open' visited' fun name there => by
          have bound := enough name (kept name there)
          rw [turns name, if_pos (kept name there)]
          omega
      refine ⟨all, last, done, fun more large => ?_⟩
      obtain ⟨more, rfl⟩ := Nat.exists_eq_add_one_of_ne_zero (by omega : more ≠ 0)
      rw [scanLoop, ran]
      · exact ends more (by omega)
      · simp

/-- What is stored under names is found. -/
theorem get_map_of_mem {υ : Type} (value : N → υ) {names : List N} {name : N} (member : name ∈ names) :
    Dict.get (names.map fun name => (name, value name)) name = some (value name) := by
  induction names with
  | nil => cases member
  | cons other names ih =>
    by_cases same : other = name
    · subst same
      simp [Dict.get]
    · have later := ih ((List.mem_cons.mp member).resolve_left (Ne.symm same))
      have apart : (other == name) = false := beq_eq_false_iff_ne.mpr same
      simpa [Dict.get, apart] using later

/-- At first nothing is visited. -/
theorem visited_start : cluster.Visited [] .start := by
  refine ⟨fun name _ => rfl, fun name _ => Nat.zero_le _, fun request asked => ?_, ?_⟩
  · cases asked
  · simp [ScanState.start]

variable (cluster)

/-- The first scan of `scan_iter`. -/
theorem scan_first : ∃ s,
    cluster.scan 0 none .start =
      (.ok (cluster.primaries.map (fun name => (name, (cluster.first name).1)),
        cluster.primaries.flatMap fun name => (cluster.first name).2), s) ∧
      cluster.Visited (cluster.primaries.flatMap fun name => (cluster.first name).2) s ∧
      ∀ name ∈ cluster.primaries, s.turn name = 1 := by
  have fresh : ∀ name ∈ cluster.primaries, (ScanState.start : ScanState N).turn name = 0 := fun name _ => rfl
  have new : ∀ name ∈ cluster.primaries, name ∉ Dict.keys ([] : Dict N (Nat × List K)) :=
    fun name _ stored => by cases stored
  obtain ⟨responses, visited, turns⟩ := executeOn_first cluster.distinct (fun name member => member) fresh new
    visited_start
  refine ⟨_, ?_, visited, fun name member => by rw [turns name, if_pos member]⟩
  have unique : Dict.Unique (cluster.primaries.map fun name => (name, cluster.first name)) := by
    have names : Dict.keys (cluster.primaries.map fun name => (name, cluster.first name)) =
        cluster.primaries := by
      simp [Dict.keys, Function.comp_def]
    unfold Dict.Unique
    rw [names]
    exact cluster.distinct
  obtain ⟨name, names, same⟩ := List.exists_cons_of_ne_nil cluster.nonempty
  have unfolded : cluster.scan 0 none .start =
      (.ok (parseScanResult (cluster.executeOn 0 cluster.primaries [] .start).1 [] []),
        (cluster.executeOn 0 cluster.primaries [] .start).2) := by
    unfold scan
    simp only [same]
  rw [unfolded, responses, List.nil_append, parseScanResult_eq unique (fun name _ stored => by cases stored)]
  simp [List.flatMap_map, Function.comp_def]

end ScanCluster

end RedisPy

import RedisPy.Lib.Lru
import RedisPy.Lib.Runs
import RedisPy.Cache.Invalidation

/-!
# The least recently used entry

A run of calls on a cache, beside the same calls on the map that dates its entries. The ordered
dictionary is the list of that map: using an entry moves it to the end, and the one that is evicted
stands first.
-/

namespace RedisPy

variable {F O : Type}

/-- A call on a cache. -/
inductive CacheCall (F O : Type) where
  | set (entry : CacheEntry F O)
  | get (key : CacheKey)
  | deleteByCacheKeys (keys : List CacheKey)
  | deleteByRedisKeys (names : List RedisKey)
  | flush

/-- What a call returns. -/
inductive CacheResult (F O : Type) where
  | stored (done : Bool)
  | found (entry : Option (CacheEntry F O))
  | deleted (response : List Bool)
  | flushed (count : Nat)
  | raised (e : Exc)

namespace CacheResult

/-- The outcome of `delete_by_redis_keys`. -/
def ofResponse : Except Exc (List Bool) → CacheResult F O
  | .ok response => .deleted response
  | .error e => .raised e

end CacheResult

namespace DefaultCache

/-- One call. -/
def call (config : CacheConfig) (entries : Entries F O) :
    CacheCall F O → Entries F O × CacheResult F O
  | .set entry => ((set config entry entries).2, .stored (set config entry entries).1)
  | .get key => ((get key entries).2, .found (get key entries).1)
  | .deleteByCacheKeys keys =>
    ((deleteByCacheKeys keys entries).2, .deleted (deleteByCacheKeys keys entries).1)
  | .deleteByRedisKeys names =>
    ((deleteByRedisKeys names entries).2, .ofResponse (deleteByRedisKeys names entries).1)
  | .flush => ((flush entries).2, .flushed (flush entries).1)

end DefaultCache

namespace LruCache

/-- The entries under some keys are forgotten, one after the other. -/
noncomputable def deleteByCacheKeys :
    List CacheKey → Lru CacheKey (CacheEntry F O) → List Bool × Lru CacheKey (CacheEntry F O)
  | [], m => ([], m)
  | key :: keys, m =>
    ((m.value key).isSome :: (deleteByCacheKeys keys (m.forget {key})).1,
      (deleteByCacheKeys keys (m.forget {key})).2)

/-- The keys of entries that depend on one of the names. -/
def dependents (names : List RedisKey) : Set CacheKey :=
  {key | key.DependsOn (names.map RedisKey.octets)}

open Classical in
/-- One call. -/
noncomputable def call (config : CacheConfig) (m : Lru CacheKey (CacheEntry F O)) :
    CacheCall F O → Lru CacheKey (CacheEntry F O) × CacheResult F O
  | .set entry =>
    if config.isAllowedToCache entry.cacheKey.command then
      ((m.put entry.cacheKey entry).bounded config.maxSize, .stored true)
    else (m, .stored false)
  | .get key => (m.use key, .found (m.value key))
  | .deleteByCacheKeys keys =>
    ((deleteByCacheKeys keys m).2, .deleted (deleteByCacheKeys keys m).1)
  | .deleteByRedisKeys names =>
    if ∀ name ∈ names, name.Readable then
      (m.forget (dependents names),
        .deleted (List.replicate (m.keys ∩ dependents names).ncard true))
    else (m, .raised { cls := .unicodeDecodeError })
  | .flush => (m.forget Set.univ, .flushed m.keys.ncard)

end LruCache

namespace DefaultCache

/-- The keys of stored entries are text; the names of an invalidation are text or octets, distinct, and
each entry depends on one of them at most. -/
def Proper (entries : Entries F O) : CacheCall F O → Prop
  | .set entry => ∀ key ∈ entry.cacheKey.redisKeys, ∃ text, key = .str text
  | .deleteByRedisKeys names =>
    (∀ value, .int value ∉ names) ∧ names.Nodup ∧
      ∀ item ∈ entries, ∀ name ∈ names, ∀ other ∈ names,
        item.1.DependsOn [name.octets] → item.1.DependsOn [other.octets] → name = other
  | _ => True

/-- The cache holds what the map holds, in the order of use, under text keys and within its bound. -/
structure Follows (config : CacheConfig) (entries : Entries F O)
    (m : Lru CacheKey (CacheEntry F O)) : Prop where
  listed : Lru.Listed entries m
  text : ∀ item ∈ entries, ∀ key ∈ item.1.redisKeys, ∃ text, key = .str text
  bounded : (entries.length : Int) ≤ config.maxSize

variable {config : CacheConfig} {entries : Entries F O} {m : Lru CacheKey (CacheEntry F O)}

/-! ## Looking up and using -/

/-- What is found is what the map has. -/
theorem get_eq_value (listed : Lru.Listed entries m) (key : CacheKey) :
    Dict.get entries key = m.value key := by
  cases found : m.value key with
  | some entry => exact Dict.Unique.get_of_mem listed.unique ((listed.holds key entry).mp found)
  | none =>
    cases stored : Dict.get entries key with
    | none => rfl
    | some entry =>
      have known := (listed.holds key entry).mpr (Dict.mem_of_get stored)
      rw [found] at known
      cases known

/-- Using an entry moves it to the end. -/
theorem touch_eq (unique : entries.Unique) {key : CacheKey} {entry : CacheEntry F O}
    (found : Dict.get entries key = some entry) :
    touch key entries = entries.filter (fun item => item.1 ≠ key) ++ [(key, entry)] := by
  unfold touch Dict.moveToEnd
  obtain ⟨item, first, value⟩ := Option.map_eq_some_iff.mp found
  have same : item.1 = key := by simpa using List.find?_some first
  have whole : item = (key, entry) := Prod.ext same value
  have others : (entries.filter fun item => !(item.1 == key)) =
      entries.filter fun item => item.1 ≠ key := by
    refine List.filter_congr fun other _ => ?_
    simp [BEq.beq]
  rw [first, Dict.Unique.erase_eq_filter unique, whole]
  exact congrArg (· ++ [(key, entry)]) others

/-- Storing under a key leaves the other items in order. -/
theorem filter_set (entries : Entries F O) (key : CacheKey) (entry : CacheEntry F O) :
    (Dict.set entries key entry).filter (fun item => item.1 ≠ key) =
      entries.filter fun item => item.1 ≠ key := by
  induction entries with
  | nil => simp [Dict.set]
  | cons item rest ih =>
    by_cases same : item.1 = key
    · simp [Dict.set, same]
    · simp only [Dict.set, beq_eq_false_iff_ne.mpr same, Bool.false_eq_true, ↓reduceIte,
        List.filter_cons, ih]

/-- Storing an entry puts it at the end. -/
theorem touch_set (unique : entries.Unique) (key : CacheKey) (entry : CacheEntry F O) :
    touch key (Dict.set entries key entry) =
      entries.filter (fun item => item.1 ≠ key) ++ [(key, entry)] := by
  rw [touch_eq (unique.set key entry) (Dict.get_set_self entries key entry), filter_set]

/-! ## The calls -/

/-- `get` uses the entry that it finds. -/
theorem follows_get (follows : Follows config entries m) (key : CacheKey) :
    (get key entries).1 = m.value key ∧ Follows config (get key entries).2 (m.use key) := by
  have seen := get_eq_value follows.listed key
  unfold get
  cases found : Dict.get entries key with
  | none =>
    have unused : m.use key = m := by
      rw [Lru.use, ← seen, found]
    refine ⟨by rw [← seen, found], ?_⟩
    rw [unused]
    exact follows
  | some entry =>
    have stored : m.value key = some entry := by rw [← seen, found]
    have moved := touch_eq follows.listed.unique found
    have used : Lru.Listed (touch key entries) (m.use key) := moved ▸ follows.listed.use stored
    have size : (touch key entries).length = entries.length := by
      rw [used.length_eq, Lru.keys_use, ← follows.listed.length_eq]
    refine ⟨stored.symm, used, fun item member => follows.text item (mem_touch member), ?_⟩
    rw [size]
    exact follows.bounded

/-- `set` stores the entry as the last one used and evicts the first one above the bound. -/
theorem follows_set (follows : Follows config entries m) {entry : CacheEntry F O}
    (proper : Proper entries (.set entry)) :
    (call config entries (.set entry)).2 = (LruCache.call config m (.set entry)).2 ∧
      Follows config (call config entries (.set entry)).1 (LruCache.call config m (.set entry)).1 := by
  have text : ∀ item ∈ (set config entry entries).2, ∀ key ∈ item.1.redisKeys,
      ∃ text, key = .str text := by
    intro item member
    rcases mem_set member with new | old
    · rw [new]
      exact proper
    · exact follows.text item old
  by_cases allowed : config.isAllowedToCache entry.cacheKey.command = true
  · have stored := touch_set follows.listed.unique entry.cacheKey entry
    have put := follows.listed.put entry.cacheKey entry
    have size : ((entries.filter fun item => item.1 ≠ entry.cacheKey) ++
        [(entry.cacheKey, entry)]).length ≤ entries.length + 1 := by
      rw [List.length_append, List.length_singleton]
      exact Nat.succ_le_succ (List.length_filter_le _ _)
    have within := follows.bounded
    simp only [call, LruCache.call, set, allowed, ↓reduceIte, stored] at text ⊢
    refine ⟨trivial, put.bounded config.maxSize, text, ?_⟩
    by_cases full : (((entries.filter fun item => item.1 ≠ entry.cacheKey) ++
        [(entry.cacheKey, entry)]).length : Int) > config.maxSize
    · rw [if_pos full, evictNext, List.length_drop]
      omega
    · rw [if_neg full]
      omega
  · simp only [call, LruCache.call, set, allowed, Bool.false_eq_true, ↓reduceIte]
    exact ⟨trivial, follows⟩

/-- A key that is deleted after its entry was looked up. -/
theorem erase_get (follows : Follows config entries m) {key : CacheKey} {entry : CacheEntry F O}
    (found : Dict.get entries key = some entry) :
    Dict.erase (touch key entries) key = entries.filter fun item => item.1 ≠ key := by
  have used : Lru.Listed (touch key entries) (m.use key) := by
    rw [touch_eq follows.listed.unique found]
    exact follows.listed.use (by rw [← get_eq_value follows.listed, found])
  have unique : Dict.Unique (touch key entries) := used.unique
  rw [Dict.Unique.erase_eq_filter unique, touch_eq follows.listed.unique found, List.filter_append,
    List.filter_filter]
  simp [BEq.beq]

/-- Dropping entries forgets them. -/
theorem Follows.forget (follows : Follows config entries m) {gone : Set CacheKey}
    {kept : CacheKey → Bool} (decides : ∀ key, kept key = true ↔ key ∉ gone) :
    Follows config (entries.filter fun item => kept item.1) (m.forget gone) := by
  refine ⟨follows.listed.forget decides, fun item member => ?_, ?_⟩
  · exact follows.text item (List.mem_filter.mp member).1
  · have fewer := List.length_filter_le (fun item => kept item.1) entries
    have within := follows.bounded
    omega

/-- `delete_by_cache_keys` forgets the entries one after the other. -/
theorem follows_deleteByCacheKeys (follows : Follows config entries m) (keys : List CacheKey) :
    (deleteByCacheKeys keys entries).1 = (LruCache.deleteByCacheKeys keys m).1 ∧
      Follows config (deleteByCacheKeys keys entries).2 (LruCache.deleteByCacheKeys keys m).2 := by
  induction keys generalizing entries m with
  | nil => exact ⟨rfl, follows⟩
  | cons key keys ih =>
    have seen := get_eq_value follows.listed key
    have decides : ∀ other, decide (other ≠ key) = true ↔ other ∉ ({key} : Set CacheKey) := by
      intro other
      rw [Set.mem_singleton_iff, decide_eq_true_eq]
    have dropped := follows.forget decides
    rw [deleteByCacheKeys, LruCache.deleteByCacheKeys]
    unfold get
    cases found : Dict.get entries key with
    | none =>
      have absent : (entries.filter fun item => decide (item.1 ≠ key)) = entries := by
        refine List.filter_eq_self.mpr fun item member => decide_eq_true fun same => ?_
        have whole : (item.1, item.2) ∈ entries := member
        have stored := Dict.Unique.get_of_mem follows.listed.unique whole
        rw [same, found] at stored
        cases stored
      rw [absent] at dropped
      obtain ⟨response, rest⟩ := ih dropped
      simp only [← seen, found, Option.isSome_none, response]
      exact ⟨trivial, rest⟩
    | some entry =>
      rw [← erase_get follows found] at dropped
      obtain ⟨response, rest⟩ := ih dropped
      simp only [← seen, found, Option.isSome_some, response]
      exact ⟨trivial, rest⟩

/-- Of distinct names of which one at most is good, one at most is counted. -/
theorem countP_le_one {α : Type} {good : α → Bool} {names : List α} (distinct : names.Nodup)
    (one : ∀ name ∈ names, ∀ other ∈ names, good name = true → good other = true → name = other) :
    names.countP good ≤ 1 := by
  induction names with
  | nil => exact Nat.zero_le 1
  | cons name names ih =>
    obtain ⟨new, rest⟩ := List.nodup_cons.mp distinct
    have later := ih rest fun a first b second =>
      one a (List.mem_cons_of_mem _ first) b (List.mem_cons_of_mem _ second)
    by_cases found : good name = true
    · have none : names.countP good = 0 := by
        rw [List.countP_eq_zero]
        intro other member again
        have same := one name List.mem_cons_self other (List.mem_cons_of_mem _ member) found again
        exact new (same ▸ member)
      rw [List.countP_cons_of_pos found, none]
    · rw [List.countP_cons_of_neg found]
      exact later

/-- Under text keys an entry is found by the names that it depends on. -/
theorem mem_textNames_iff {key : CacheKey} (text : ∀ redisKey ∈ key.redisKeys, ∃ text, redisKey = .str text)
    {names : List Bytes} : (∃ name ∈ names, name ∈ key.textNames) ↔ key.DependsOn names := by
  constructor
  · rintro ⟨name, named, found⟩
    exact dependsOn_of_textNames named found
  · rintro ⟨redisKey, member, sent⟩
    obtain ⟨read, rfl⟩ := text redisKey member
    exact ⟨utf8 read, sent, CacheKey.mem_textNames.mpr member⟩

/-- `delete_by_redis_keys` forgets what depends on the names, or raises and forgets nothing. -/
theorem follows_deleteByRedisKeys (follows : Follows config entries m) {names : List RedisKey}
    (proper : Proper entries (.deleteByRedisKeys names)) :
    (call config entries (.deleteByRedisKeys names)).2 =
        (LruCache.call config m (.deleteByRedisKeys names)).2 ∧
      Follows config (call config entries (.deleteByRedisKeys names)).1
        (LruCache.call config m (.deleteByRedisKeys names)).1 := by
  obtain ⟨named, distinct, one⟩ := proper
  have unique : entries.Unique := follows.listed.unique
  by_cases readable : ∀ name ∈ names, name.Readable
  · obtain ⟨texts, octets, read⟩ := mapM_decodeName_readable named readable
    have once : ∀ item ∈ entries,
        (texts.map RedisKey.str).countP (item.1.redisKeys.contains ·) ≤ 1 := by
      intro item member
      have found (name : RedisKey) : decide (name.octets ∈ item.1.textNames) = true ↔
          item.1.DependsOn [name.octets] := by
        rw [decide_eq_true_eq, ← mem_textNames_iff (follows.text item member)]
        simp
      rw [countP_texts, octets, List.countP_map]
      refine countP_le_one distinct fun name first other second here there => ?_
      exact one item member name first other second ((found name).mp here) ((found other).mp there)
    have any (item : CacheKey × CacheEntry F O) (member : item ∈ entries) :
        (texts.map RedisKey.str).any (item.1.redisKeys.contains ·) = true ↔
          item.1 ∈ LruCache.dependents names := by
      rw [any_texts, octets]
      exact mem_textNames_iff (follows.text item member)
    have removed := deleteByRedisKeys_of_once unique read once
    have kept : (entries.filter fun item =>
          !(texts.map RedisKey.str).any (item.1.redisKeys.contains ·)) =
        entries.filter fun item => decide ¬item.1.DependsOn (names.map RedisKey.octets) := by
      refine List.filter_congr fun item member => ?_
      rw [Bool.eq_iff_iff, Bool.not_eq_true', ← Bool.not_eq_true, any item member, decide_eq_true_eq]
      rfl
    have count : ((texts.map RedisKey.str).flatMap (foundBy entries)).length =
        (m.keys ∩ LruCache.dependents names).ncard := by
      have same : m.keys ∩ LruCache.dependents names =
          (((texts.map RedisKey.str).flatMap (foundBy entries)).toFinset : Set CacheKey) := by
        ext key
        rw [Set.mem_inter_iff, follows.listed.mem_keys, Finset.mem_coe, List.mem_toFinset]
        constructor
        · rintro ⟨stored, depends⟩
          obtain ⟨item, member, rfl⟩ := List.mem_map.mp stored
          exact (mem_found member).mpr ((any item member).mpr depends)
        · intro found
          have stored := stored_of_found found
          obtain ⟨item, member, rfl⟩ := List.mem_map.mp stored
          exact ⟨stored, (any item member).mp ((mem_found member).mp found)⟩
      rw [same, Set.ncard_coe_finset,
        List.toFinset_card_of_nodup ((nodup_found_iff unique).mpr once)]
    simp only [call, LruCache.call, if_pos readable, removed, kept, CacheResult.ofResponse,
      List.map_const', count]
    have decides : ∀ key : CacheKey, decide (¬key.DependsOn (names.map RedisKey.octets)) = true ↔
        key ∉ LruCache.dependents names := fun key => decide_eq_true_iff
    exact ⟨trivial, follows.forget decides⟩
  · have failed : ∃ name ∈ names, ¬name.Readable := by
      by_contra all
      exact readable fun name member => by_contra fun bad => all ⟨name, member, bad⟩
    obtain ⟨name, member, bad⟩ := failed
    have raised : deleteByRedisKeys names entries = (.error { cls := .unicodeDecodeError }, entries) :=
      deleteByRedisKeys_of_undecoded (mapM_decodeName_unreadable member bad)
    simp only [call, LruCache.call, if_neg readable, raised, CacheResult.ofResponse]
    exact ⟨trivial, follows⟩

/-- Every proper call returns what it returns on the map, and the cache goes on following the map. -/
theorem follows_call (follows : Follows config entries m) {c : CacheCall F O}
    (proper : Proper entries c) :
    (call config entries c).2 = (LruCache.call config m c).2 ∧
      Follows config (call config entries c).1 (LruCache.call config m c).1 := by
  cases c with
  | set entry => exact follows_set follows proper
  | get key =>
    obtain ⟨found, used⟩ := follows_get follows key
    exact ⟨congrArg CacheResult.found found, used⟩
  | deleteByCacheKeys keys =>
    obtain ⟨response, rest⟩ := follows_deleteByCacheKeys follows keys
    exact ⟨congrArg CacheResult.deleted response, rest⟩
  | deleteByRedisKeys names => exact follows_deleteByRedisKeys follows proper
  | flush =>
    have none : (entries.filter fun _ => false) = [] := by simp
    have decides : ∀ key : CacheKey, (fun _ => false) key = true ↔ key ∉ (Set.univ : Set CacheKey) := by
      simp
    have emptied := follows.forget decides
    rw [none] at emptied
    exact ⟨congrArg CacheResult.flushed follows.listed.length_eq, emptied⟩

/-- A cache is a map of bounded size that forgets what was used longest ago: in every run of proper
calls it returns what the map returns, and after each call it holds what the map holds, within its
bound. -/
theorem shown_eq_lru (nonneg : 0 ≤ config.maxSize) {calls : List (CacheCall F O)}
    (proper : Runs.Each (fun entries c => (call config entries c).1) Proper [] calls) :
    Runs.shown (call config) [] calls = Runs.shown (LruCache.call config) Lru.empty calls ∧
      ∀ earlier later, calls = earlier ++ later →
        ((Runs.final (call config) [] earlier).length : Int) ≤ config.maxSize ∧
          ∀ key, Dict.get (Runs.final (call config) [] earlier) key =
            (Runs.final (LruCache.call config) Lru.empty earlier).value key := by
  have start : Follows config ([] : Entries F O) Lru.empty :=
    ⟨Lru.Listed.empty, fun item member => (List.not_mem_nil member).elim, nonneg⟩
  have kept (entries : Entries F O) (m : Lru CacheKey (CacheEntry F O)) (c : CacheCall F O)
      (follows : Follows config entries m) (fit : Proper entries c) := follows_call follows fit
  refine ⟨(Runs.shown_eq_of_each kept start proper).1, fun earlier later split => ?_⟩
  subst split
  have follows := (Runs.shown_eq_of_each kept start proper.left).2
  exact ⟨follows.bounded, get_eq_value follows.listed⟩

/-- An entry of one key. -/
def entryOf (key : String) : CacheEntry Nat Nat :=
  ⟨⟨"GET".toList, [.str key.toList]⟩, .str key.toList, .valid, 0, none⟩

/-- A cache of two entries, one of which was looked up, evicts the other. -/
def oneTooMany : List (CacheCall Nat Nat) :=
  [.set (entryOf "a"), .set (entryOf "b"), .get (entryOf "a").cacheKey, .set (entryOf "c"),
    .get (entryOf "b").cacheKey]

/-- The run of too many entries is a run of the map. -/
theorem shown_oneTooMany :
    Runs.shown (call ⟨2, fun _ => true⟩) [] oneTooMany =
        Runs.shown (LruCache.call ⟨2, fun _ => true⟩) Lru.empty oneTooMany ∧
      (Runs.final (call ⟨2, fun _ => true⟩) [] oneTooMany).map (·.1) =
        [(entryOf "a").cacheKey, (entryOf "c").cacheKey] := by
  have text (key : String) : Proper ([] : Entries Nat Nat) (.set (entryOf key)) := by
    intro redisKey member
    exact ⟨key.toList, List.mem_singleton.mp member⟩
  have proper : Runs.Each (fun entries c => (call ⟨2, fun _ => true⟩ entries c).1) Proper []
      oneTooMany :=
    Runs.each_cons.mpr ⟨text "a", Runs.each_cons.mpr ⟨text "b", Runs.each_cons.mpr ⟨trivial,
      Runs.each_cons.mpr ⟨text "c", Runs.each_cons.mpr ⟨trivial, Runs.each_nil⟩⟩⟩⟩⟩
  exact ⟨(shown_eq_lru (by decide) proper).1, by decide⟩

end DefaultCache

end RedisPy

import Mathlib.Data.List.Nodup
import RedisPy.Cache.DefaultCache

/-!
# Invalidation

What `delete_by_redis_keys` removes. The names come as octets, the keys of the entries are kept as
the application gave them, and an entry is popped once for every name that it is found by.
-/

namespace RedisPy

variable {F O : Type}

/-- The octets of a key in a command. -/
def RedisKey.octets : RedisKey → Bytes
  | str text => utf8 text
  | bytes data => data
  | int value => decimal value

/-- The octets of a key that was given as text. -/
def RedisKey.textOctets : RedisKey → Option Bytes
  | str text => some (utf8 text)
  | _ => none

/-- The names of the keys that were given as text. -/
def CacheKey.textNames (key : CacheKey) : List Bytes := key.redisKeys.filterMap RedisKey.textOctets

/-- The name is text, or octets of a text. -/
def RedisKey.Readable (name : RedisKey) : Prop := ∀ data, name = .bytes data → ∃ text, utf8 text = data

/-- A key of the entry is among the names. -/
def CacheKey.DependsOn (key : CacheKey) (names : List Bytes) : Prop :=
  ∃ redisKey ∈ key.redisKeys, redisKey.octets ∈ names

instance (key : CacheKey) (names : List Bytes) : Decidable (key.DependsOn names) :=
  inferInstanceAs (Decidable (∃ redisKey ∈ key.redisKeys, redisKey.octets ∈ names))

/-- Different texts have different octets. -/
theorem utf8_injective {text other : Text} (same : utf8 text = utf8 other) : text = other := by
  rw [← decodeReplace_utf8 text, same, decodeReplace_utf8]

/-- A text is among the keys when its octets are among the text names. -/
theorem CacheKey.mem_textNames {key : CacheKey} {text : Text} :
    utf8 text ∈ key.textNames ↔ .str text ∈ key.redisKeys := by
  unfold textNames
  rw [List.mem_filterMap]
  constructor
  · rintro ⟨redisKey, member, octets⟩
    cases redisKey with
    | str other =>
      have same : other = text := utf8_injective (Option.some.inj octets)
      exact same ▸ member
    | bytes data => cases octets
    | int value => cases octets
  · intro member
    exact ⟨.str text, member, rfl⟩

namespace DefaultCache

/-! ## Popping -/

/-- Keys are popped without an exception when each is stored and named once. -/
theorem popEach_eq {keys : List CacheKey} {entries : Entries F O} (unique : entries.Unique)
    (once : keys.Nodup) (stored : ∀ key ∈ keys, key ∈ entries.keys) :
    popEach keys entries = (none, entries.filter fun item => item.1 ∉ keys) := by
  induction keys generalizing entries with
  | nil => simp [popEach]
  | cons key keys ih =>
    obtain ⟨new, rest⟩ := List.nodup_cons.mp once
    have present : Dict.contains entries key = true :=
      Dict.contains_iff_mem_keys.mpr (stored key List.mem_cons_self)
    have later : ∀ other ∈ keys, other ∈ Dict.keys (Dict.erase entries key) := by
      intro other member
      have differs : other ≠ key := fun same => new (same ▸ member)
      exact (Dict.mem_keys_erase unique).mpr ⟨stored other (List.mem_cons_of_mem key member), differs⟩
    rw [popEach, if_pos present, ih (unique.erase key) rest later, Dict.Unique.erase_eq_filter unique,
      List.filter_filter]
    congr 1
    refine List.filter_congr fun item _ => ?_
    simp [Bool.and_comm, BEq.beq]

/-- A key that is named twice is not stored any more when it is popped again. -/
theorem popEach_raises {keys : List CacheKey} {entries : Entries F O} (unique : entries.Unique)
    (twice : ¬keys.Nodup) : (popEach keys entries).1 ≠ none := by
  have missing {keys : List CacheKey} {entries : Entries F O} (unique : entries.Unique)
      {key : CacheKey} (named : key ∈ keys) (gone : key ∉ entries.keys) :
      (popEach keys entries).1 ≠ none := by
    induction keys generalizing entries with
    | nil => cases named
    | cons first keys ih =>
      rw [popEach]
      by_cases stored : Dict.contains entries first = true
      · rw [if_pos stored]
        rcases List.mem_cons.mp named with here | later
        · exact absurd (Dict.contains_iff_mem_keys.mp stored) (here ▸ gone)
        · exact ih (unique.erase first) later fun still =>
            gone ((Dict.mem_keys_erase unique).mp still).1
      · rw [if_neg stored]
        exact Option.some_ne_none _
  induction keys generalizing entries with
  | nil => exact absurd List.nodup_nil twice
  | cons key keys ih =>
    rw [popEach]
    by_cases stored : Dict.contains entries key = true
    · rw [if_pos stored]
      by_cases again : key ∈ keys
      · exact missing (unique.erase key) again fun still =>
          ((Dict.mem_keys_erase unique).mp still).2 rfl
      · exact ih (unique.erase key) fun once => twice (List.nodup_cons.mpr ⟨again, once⟩)
    · rw [if_neg stored]
      exact Option.some_ne_none _

/-! ## Finding the entries -/

/-- The keys of the entries that one decoded name is found in. -/
def foundBy (entries : Entries F O) (name : RedisKey) : List CacheKey :=
  (entries.filter fun item => item.1.redisKeys.contains name).map (·.1)

/-- Every decoded name collects the entries that it is found in. -/
theorem dependents_of_decoded {entries : Entries F O} {names decoded : List RedisKey}
    (read : names.mapM decodeName = .ok decoded) :
    dependents entries names = .ok (decoded.flatMap (foundBy entries)) := by
  induction names generalizing decoded with
  | nil =>
    cases read
    rfl
  | cons name names ih =>
    rw [List.mapM_cons] at read
    obtain ⟨first, named, read⟩ := Interruptible.ok_of_bind read
    obtain ⟨others, rest, read⟩ := Interruptible.ok_of_bind read
    cases read
    simp only [dependents, named, ih rest]
    rfl

/-- A name that cannot be decoded ends the call. -/
theorem dependents_of_undecoded {entries : Entries F O} {names : List RedisKey} {e : Exc}
    (failed : names.mapM decodeName = .error e) : dependents entries names = .error e := by
  induction names with
  | nil => cases failed
  | cons name names ih =>
    rw [List.mapM_cons] at failed
    cases named : decodeName name with
    | error other =>
      rw [named] at failed
      cases failed
      simp only [dependents, named]
    | ok first =>
      cases rest : names.mapM decodeName with
      | error other =>
        rw [named, rest] at failed
        cases failed
        simp only [dependents, named, ih rest]
      | ok others =>
        rw [named, rest] at failed
        cases failed

/-- An entry is collected once for every name that it is found by. -/
theorem count_foundBy {entries : Entries F O} (unique : entries.Unique) (decoded : List RedisKey)
    {key : CacheKey} (stored : key ∈ entries.keys) :
    (decoded.flatMap (foundBy entries)).count key = decoded.countP (key.redisKeys.contains ·) := by
  have one (name : RedisKey) :
      (foundBy entries name).count key = if key.redisKeys.contains name then 1 else 0 := by
    have once : (foundBy entries name).Nodup := (List.filter_sublist.map _).nodup unique
    by_cases found : key.redisKeys.contains name = true
    · obtain ⟨item, member, rfl⟩ := List.mem_map.mp stored
      have among : item.1 ∈ foundBy entries name :=
        List.mem_map_of_mem (List.mem_filter.mpr ⟨member, found⟩)
      rw [if_pos found, List.count_eq_one_of_mem once among]
    · have missing : key ∉ foundBy entries name := by
        intro among
        obtain ⟨item, kept, rfl⟩ := List.mem_map.mp among
        exact found (List.mem_filter.mp kept).2
      rw [if_neg found, List.count_eq_zero_of_not_mem missing]
  induction decoded with
  | nil => rfl
  | cons name decoded ih =>
    rw [List.flatMap_cons, List.count_append, one, ih, List.countP_cons, Nat.add_comm]

/-- Only stored entries are collected. -/
theorem stored_of_found {entries : Entries F O} {decoded : List RedisKey} {key : CacheKey}
    (found : key ∈ decoded.flatMap (foundBy entries)) : key ∈ entries.keys := by
  obtain ⟨name, -, among⟩ := List.mem_flatMap.mp found
  obtain ⟨item, kept, rfl⟩ := List.mem_map.mp among
  exact List.mem_map_of_mem (List.mem_filter.mp kept).1

/-- What is collected of the stored entries. -/
theorem mem_found {entries : Entries F O} {decoded : List RedisKey}
    {item : CacheKey × CacheEntry F O} (stored : item ∈ entries) :
    item.1 ∈ decoded.flatMap (foundBy entries) ↔
      decoded.any (item.1.redisKeys.contains ·) = true := by
  rw [List.mem_flatMap, List.any_eq_true]
  constructor
  · rintro ⟨name, named, among⟩
    obtain ⟨other, kept, same⟩ := List.mem_map.mp among
    have found := (List.mem_filter.mp kept).2
    rw [same] at found
    exact ⟨name, named, found⟩
  · rintro ⟨name, named, found⟩
    exact ⟨name, named, List.mem_map_of_mem (List.mem_filter.mpr ⟨stored, found⟩)⟩

/-- No entry is collected twice exactly if each is found by one name at most. -/
theorem nodup_found_iff {entries : Entries F O} (unique : entries.Unique) {decoded : List RedisKey} :
    (decoded.flatMap (foundBy entries)).Nodup ↔
      ∀ item ∈ entries, decoded.countP (item.1.redisKeys.contains ·) ≤ 1 := by
  rw [List.nodup_iff_count_le_one]
  constructor
  · intro once item member
    have stored : item.1 ∈ entries.keys := List.mem_map_of_mem member
    rw [← count_foundBy unique decoded stored]
    exact once item.1
  · intro once key
    by_cases found : key ∈ decoded.flatMap (foundBy entries)
    · have stored := stored_of_found found
      obtain ⟨item, member, rfl⟩ := List.mem_map.mp stored
      rw [count_foundBy unique decoded stored]
      exact once item member
    · rw [List.count_eq_zero_of_not_mem found]
      exact Nat.zero_le 1

/-! ## The whole call -/

variable {entries : Entries F O} {names decoded : List RedisKey}

/-- If each entry is found by one name at most, the call removes the entries that are found. -/
theorem deleteByRedisKeys_of_once (unique : entries.Unique)
    (read : names.mapM decodeName = .ok decoded)
    (once : ∀ item ∈ entries, decoded.countP (item.1.redisKeys.contains ·) ≤ 1) :
    deleteByRedisKeys names entries =
      (.ok ((decoded.flatMap (foundBy entries)).map fun _ => true),
        entries.filter fun item => !decoded.any (item.1.redisKeys.contains ·)) := by
  have popped := popEach_eq unique ((nodup_found_iff unique).mpr once) fun key => stored_of_found
  have kept : (entries.filter fun item => item.1 ∉ decoded.flatMap (foundBy entries)) =
      entries.filter fun item => !decoded.any (item.1.redisKeys.contains ·) := by
    refine List.filter_congr fun item member => ?_
    rw [Bool.eq_iff_iff, decide_eq_true_eq, mem_found member, Bool.not_eq_true, Bool.not_eq_true']
  simp only [deleteByRedisKeys, dependents_of_decoded read, popped, kept]

/-- If an entry is found by two names, the call raises. -/
theorem deleteByRedisKeys_of_twice (unique : entries.Unique)
    (read : names.mapM decodeName = .ok decoded)
    (twice : ¬∀ item ∈ entries, decoded.countP (item.1.redisKeys.contains ·) ≤ 1) :
    (deleteByRedisKeys names entries).1.isOk = false := by
  have raised := popEach_raises unique fun once => twice ((nodup_found_iff unique).mp once)
  simp only [deleteByRedisKeys, dependents_of_decoded read]
  rcases popped : popEach (decoded.flatMap (foundBy entries)) entries with ⟨failure, rest⟩
  rw [popped] at raised
  cases failure with
  | none => exact absurd rfl raised
  | some e => rfl

/-- If a name cannot be decoded, the call raises and changes nothing. -/
theorem deleteByRedisKeys_of_undecoded {e : Exc} (failed : names.mapM decodeName = .error e) :
    deleteByRedisKeys names entries = (.error e, entries) := by
  simp only [deleteByRedisKeys, dependents_of_undecoded failed]

/-! ## Names from a server -/

/-- Names that can be read are decoded to the texts that they encode. -/
theorem mapM_decodeName_readable {names : List RedisKey} (named : ∀ value, .int value ∉ names)
    (readable : ∀ name ∈ names, name.Readable) :
    ∃ texts : List Text, texts.map utf8 = names.map RedisKey.octets ∧
      names.mapM decodeName = .ok (texts.map .str) := by
  induction names with
  | nil => exact ⟨[], rfl, rfl⟩
  | cons name names ih =>
    have first : ∃ text, utf8 text = name.octets ∧ decodeName name = .ok (.str text) := by
      cases name with
      | str text => exact ⟨text, rfl, rfl⟩
      | bytes data =>
        obtain ⟨text, same⟩ := readable (.bytes data) List.mem_cons_self data rfl
        have decoded := decodeStrict_eq_some.mpr same
        exact ⟨text, same, by simp only [decodeName, decoded]⟩
      | int value => exact absurd List.mem_cons_self (named value)
    obtain ⟨text, octets, decoded⟩ := first
    obtain ⟨texts, rest, read⟩ := ih (fun value member => named value (List.mem_cons_of_mem _ member))
      fun other member => readable other (List.mem_cons_of_mem _ member)
    refine ⟨text :: texts, by rw [List.map_cons, List.map_cons, octets, rest], ?_⟩
    rw [List.mapM_cons, decoded, read]
    rfl

/-- A name that cannot be read fails to be decoded. -/
theorem mapM_decodeName_unreadable {names : List RedisKey} {name : RedisKey} (named : name ∈ names)
    (unreadable : ¬name.Readable) : names.mapM decodeName = .error { cls := .unicodeDecodeError } := by
  have kind (key : RedisKey) (e : Exc) (failed : decodeName key = .error e) :
      e = { cls := .unicodeDecodeError } := by
    cases key with
    | str text => cases failed
    | bytes data =>
      cases decoded : decodeStrict data with
      | none =>
        simp only [decodeName, decoded] at failed
        exact (Except.error.inj failed).symm
      | some text =>
        simp only [decodeName, decoded] at failed
        cases failed
    | int value => cases failed
  induction names with
  | nil => cases named
  | cons first names ih =>
    rw [List.mapM_cons]
    cases decoded : decodeName first with
    | error e =>
      rw [kind first e decoded]
      rfl
    | ok read =>
      have later : name ∈ names := by
        rcases List.mem_cons.mp named with here | later
        · refine absurd (fun data octets => ?_) unreadable
          rw [← here, octets] at decoded
          cases strict : decodeStrict data with
          | none =>
            simp only [decodeName, strict] at decoded
            cases decoded
          | some text => exact ⟨text, decodeStrict_eq_some.mp strict⟩
        · exact later
      rw [ih later]
      rfl

/-- How many of the texts an entry is found by. -/
theorem countP_texts (key : CacheKey) (texts : List Text) :
    (texts.map RedisKey.str).countP (key.redisKeys.contains ·) =
      (texts.map utf8).countP (· ∈ key.textNames) := by
  rw [List.countP_map, List.countP_map]
  refine List.countP_congr fun text _ => ?_
  simp [CacheKey.mem_textNames]

/-- Whether an entry is found by one of the texts. -/
theorem any_texts (key : CacheKey) (texts : List Text) :
    (texts.map RedisKey.str).any (key.redisKeys.contains ·) = true ↔
      ∃ name ∈ texts.map utf8, name ∈ key.textNames := by
  simp [CacheKey.mem_textNames]

/-- An entry with one of the names as text depends on the names. -/
theorem dependsOn_of_textNames {key : CacheKey} {names : List Bytes} {name : Bytes}
    (named : name ∈ names) (found : name ∈ key.textNames) : key.DependsOn names := by
  obtain ⟨redisKey, member, octets⟩ := List.mem_filterMap.mp found
  cases redisKey with
  | str text =>
    have same : utf8 text = name := Option.some.inj octets
    have sent : (RedisKey.str text).octets ∈ names := by
      rw [RedisKey.octets, same]
      exact named
    exact ⟨.str text, member, sent⟩
  | bytes data => cases octets
  | int value => cases octets

/-- An invalidation removes the entries that depend on the names and no others. -/
def Invalidates (names : List Bytes) (entries : Entries F O) : Prop :=
  (deleteByRedisKeys (names.map .bytes) entries).1.isOk = true ∧
    (deleteByRedisKeys (names.map .bytes) entries).2 =
      entries.filter fun item => ¬item.1.DependsOn names

/-- The names are UTF-8, no entry is found by two of them, and what depends on one of them has a key
given as text for one of them. -/
structure Invalidable (names : List Bytes) (entries : Entries F O) : Prop where
  decodable : ∀ name ∈ names, ∃ text, utf8 text = name
  once : ∀ item ∈ entries, names.countP (· ∈ item.1.textNames) ≤ 1
  asText : ∀ item ∈ entries, item.1.DependsOn names → ∃ name ∈ names, name ∈ item.1.textNames

/-- An invalidation is exact if and only if its names and the entries allow it. -/
theorem invalidates_iff (unique : entries.Unique) (names : List Bytes) :
    Invalidates names entries ↔ Invalidable names entries := by
  unfold Invalidates
  by_cases decodable : ∀ name ∈ names, ∃ text, utf8 text = name
  · have readable : ∀ name ∈ names.map RedisKey.bytes, name.Readable := by
      intro name member data octets
      obtain ⟨sent, named, rfl⟩ := List.mem_map.mp member
      exact RedisKey.bytes.inj octets ▸ decodable sent named
    obtain ⟨texts, octets, read⟩ := mapM_decodeName_readable (by simp) readable
    have same : (names.map RedisKey.bytes).map RedisKey.octets = names := by
      rw [List.map_map]
      exact List.map_id names
    rw [same] at octets
    subst octets
    have sameCount (item : CacheKey × CacheEntry F O) := countP_texts item.1 texts
    by_cases once : ∀ item ∈ entries, (texts.map utf8).countP (· ∈ item.1.textNames) ≤ 1
    · have removed := deleteByRedisKeys_of_once unique read fun item member => by
        rw [sameCount item]
        exact once item member
      rw [removed]
      constructor
      · rintro ⟨-, exact'⟩
        refine ⟨decodable, once, fun item member depends => ?_⟩
        by_contra unfound
        have kept : item ∈ entries.filter fun item => ¬item.1.DependsOn (texts.map utf8) := by
          rw [← exact', List.mem_filter, Bool.not_eq_true', ← Bool.not_eq_true, any_texts]
          exact ⟨member, unfound⟩
        have independent := (List.mem_filter.mp kept).2
        exact of_decide_eq_true independent depends
      · intro able
        refine ⟨rfl, List.filter_congr fun item member => ?_⟩
        rw [Bool.eq_iff_iff, Bool.not_eq_true', ← Bool.not_eq_true, any_texts, decide_eq_true_eq,
          not_iff_not]
        constructor
        · rintro ⟨name, named, found⟩
          exact dependsOn_of_textNames named found
        · exact able.asText item member
    · have raised := deleteByRedisKeys_of_twice unique read fun all => once fun item member => by
        rw [← sameCount item]
        exact all item member
      constructor
      · rintro ⟨fine, -⟩
        rw [raised] at fine
        cases fine
      · intro able
        exact absurd able.once once
  · have failed : ∃ name ∈ names, ¬∃ text, utf8 text = name := by
      by_contra all
      exact decodable fun name member => by_contra fun bad => all ⟨name, member, bad⟩
    obtain ⟨name, named, bad⟩ := failed
    have sent : RedisKey.bytes name ∈ names.map RedisKey.bytes := List.mem_map_of_mem named
    have failing := mapM_decodeName_unreadable sent fun readable => bad (readable name rfl)
    rw [deleteByRedisKeys_of_undecoded failing]
    constructor
    · rintro ⟨fine, -⟩
      cases fine
    · intro able
      exact absurd able.decodable decodable

/-- One entry under a text. -/
def cachedGet (key : RedisKey) : CacheKey × CacheEntry Nat Nat :=
  (⟨"GET".toList, [key]⟩, ⟨⟨"GET".toList, [key]⟩, .none, .valid, 0, none⟩)

/-- A text key is invalidated by its octets. -/
theorem invalidates_text :
    Invalidates [ascii "foo"] [cachedGet (.str "foo".toList)] ∧
      Invalidable [ascii "foo"] [cachedGet (.str "foo".toList)] := by
  have unique : Dict.Unique [cachedGet (.str "foo".toList)] := List.nodup_singleton _
  have done : Invalidates [ascii "foo"] [cachedGet (.str "foo".toList)] := ⟨by decide, rfl⟩
  exact ⟨done, (invalidates_iff unique _).mp done⟩

/-- A key that was given as octets stays in the cache when it is invalidated. -/
theorem octets_stay :
    ¬∀ (names : List Bytes) (entries : Entries Nat Nat), entries.Unique → Invalidates names entries := by
  intro all
  have done := all [ascii "foo"] [cachedGet (.bytes (ascii "foo"))] (List.nodup_singleton _)
  have left := congrArg List.length done.2
  exact absurd left (by decide)

end DefaultCache

end RedisPy

import RedisPy.Python.Dict
import RedisPy.Python.Utf8
import RedisPy.Client.Packing
import RedisPy.Parsers.Value

/-!
# The client-side cache

`DefaultCache` with its `LRUPolicy`: entries under the name of a command and the keys that it was
given, in the order of their latest use. An entry also carries where its value was read, which
the code does not keep.
-/

namespace RedisPy

variable {F O : Type}

/-- A key as an application or a server names it. -/
inductive RedisKey where
  | str (text : Text)
  | bytes (data : Bytes)
  | int (value : Int)
deriving DecidableEq

/-- `bytes.decode()`: the text with this encoding. -/
def decodeStrict (data : Bytes) : Option Text :=
  if utf8 (decodeReplace data) = data then some (decodeReplace data) else none

/-- A name decodes to the text that it encodes. -/
theorem decodeStrict_eq_some {data : Bytes} {text : Text} :
    decodeStrict data = some text ↔ utf8 text = data := by
  unfold decodeStrict
  constructor
  · intro decoded
    by_cases valid : utf8 (decodeReplace data) = data
    · rw [if_pos valid, Option.some.injEq] at decoded
      rw [← decoded, valid]
    · rw [if_neg valid] at decoded
      cases decoded
  · rintro rfl
    rw [decodeReplace_utf8, if_pos rfl]

/-- `CacheKey`. -/
structure CacheKey where
  /-- `command`. -/
  command : Text
  /-- `redis_keys`. -/
  redisKeys : List RedisKey
deriving DecidableEq

/-- `CacheEntryStatus`. -/
inductive CacheEntryStatus where
  | valid
  | inProgress
deriving DecidableEq

/-- `CacheEntry`. -/
structure CacheEntry (F O : Type) where
  /-- `cache_key`. -/
  cacheKey : CacheKey
  /-- `cache_value`. -/
  cacheValue : PyVal F
  /-- `status`. -/
  status : CacheEntryStatus
  /-- `connection_ref`, as the number of the connection. -/
  connectionRef : Nat
  /-- Where the value was read. -/
  origin : Option O

/-- `CacheConfig`, as far as the cache asks it. -/
structure CacheConfig where
  /-- `_max_size`. -/
  maxSize : Int
  /-- `is_allowed_to_cache`. -/
  isAllowedToCache : Text → Bool

/-- The entries of a cache, the least recently used first. -/
abbrev Entries (F O : Type) := Dict CacheKey (CacheEntry F O)

namespace DefaultCache

/-- `LRUPolicy.touch`, for a stored key. -/
def touch (key : CacheKey) (entries : Entries F O) : Entries F O := entries.moveToEnd key

/-- `LRUPolicy.evict_next`, for a cache with an entry. -/
def evictNext (entries : Entries F O) : Entries F O := entries.drop 1

/-- `get`: what is found, and the entries afterwards. -/
def get (key : CacheKey) (entries : Entries F O) : Option (CacheEntry F O) × Entries F O :=
  match Dict.get entries key with
  | some entry => (some entry, touch key entries)
  | none => (none, entries)

/-- `set`. -/
def set (config : CacheConfig) (entry : CacheEntry F O) (entries : Entries F O) :
    Bool × Entries F O :=
  if config.isAllowedToCache entry.cacheKey.command then
    let stored := touch entry.cacheKey (Dict.set entries entry.cacheKey entry)
    (true, if (stored.length : Int) > config.maxSize then evictNext stored else stored)
  else (false, entries)

/-- `delete_by_cache_keys`. -/
def deleteByCacheKeys : List CacheKey → Entries F O → List Bool × Entries F O
  | [], entries => ([], entries)
  | key :: keys, entries =>
    match get key entries with
    | (some _, found) =>
      let (response, rest) := deleteByCacheKeys keys (Dict.erase found key)
      (true :: response, rest)
    | (none, _) =>
      let (response, rest) := deleteByCacheKeys keys entries
      (false :: response, rest)

/-- A name as the keys of entries are compared with it. -/
def decodeName : RedisKey → Except Exc RedisKey
  | .bytes data =>
    match decodeStrict data with
    | some text => .ok (.str text)
    | none => .error { cls := .unicodeDecodeError }
  | name => .ok name

/-- The keys of the entries that depend on some names, in the order in which they are found. -/
def dependents (entries : Entries F O) : List RedisKey → Except Exc (List CacheKey)
  | [] => .ok []
  | name :: names =>
    match decodeName name with
    | .error e => .error e
    | .ok name =>
      match dependents entries names with
      | .error e => .error e
      | .ok later =>
        .ok ((entries.filter fun item => item.1.redisKeys.contains name).map (·.1) ++ later)

/-- `self._cache.pop(key)` for each key; a key that is not stored is a `KeyError`. -/
def popEach : List CacheKey → Entries F O → Option Exc × Entries F O
  | [], entries => (none, entries)
  | key :: keys, entries =>
    if Dict.contains entries key then popEach keys (Dict.erase entries key)
    else (some { cls := .keyError }, entries)

/-- `delete_by_redis_keys`: its response or its exception, and the entries afterwards. -/
def deleteByRedisKeys (names : List RedisKey) (entries : Entries F O) :
    Except Exc (List Bool) × Entries F O :=
  match dependents entries names with
  | .error e => (.error e, entries)
  | .ok keys =>
    match popEach keys entries with
    | (some e, rest) => (.error e, rest)
    | (none, rest) => (.ok (keys.map fun _ => true), rest)

/-- `flush`. -/
def flush (entries : Entries F O) : Nat × Entries F O := (entries.length, [])

/-! ## What stays in the cache -/

/-- Using an entry adds none. -/
theorem mem_touch {key : CacheKey} {entries : Entries F O} {item : CacheKey × CacheEntry F O}
    (member : item ∈ touch key entries) : item ∈ entries := by
  unfold touch Dict.moveToEnd at member
  cases found : entries.find? fun item => item.1 == key with
  | none =>
    rw [found] at member
    exact member
  | some first =>
    rw [found] at member
    rcases List.mem_append.mp member with kept | last
    · exact List.mem_of_mem_eraseP kept
    · rw [List.mem_singleton.mp last]
      exact List.mem_of_find?_eq_some found

/-- Storing an entry adds it alone. -/
theorem mem_set {config : CacheConfig} {entry : CacheEntry F O} {entries : Entries F O}
    {item : CacheKey × CacheEntry F O} (member : item ∈ (set config entry entries).2) :
    item = (entry.cacheKey, entry) ∨ item ∈ entries := by
  unfold set at member
  by_cases allowed : config.isAllowedToCache entry.cacheKey.command = true
  · rw [if_pos allowed] at member
    simp only at member
    have stored : item ∈ touch entry.cacheKey (Dict.set entries entry.cacheKey entry) →
        item = (entry.cacheKey, entry) ∨ item ∈ entries := fun among =>
      Dict.mem_set (mem_touch among)
    refine stored ?_
    by_cases full : ((touch entry.cacheKey (Dict.set entries entry.cacheKey entry)).length : Int) >
        config.maxSize
    · rw [if_pos full] at member
      exact List.mem_of_mem_drop member
    · rw [if_neg full] at member
      exact member
  · rw [if_neg allowed] at member
    exact .inr member

/-- Asking for an entry adds none. -/
theorem mem_get {key : CacheKey} {entries : Entries F O} {item : CacheKey × CacheEntry F O}
    (member : item ∈ (get key entries).2) : item ∈ entries := by
  unfold get at member
  cases found : Dict.get entries key with
  | none =>
    rw [found] at member
    exact member
  | some entry =>
    rw [found] at member
    exact mem_touch member

/-- What is found is stored. -/
theorem mem_of_get {key : CacheKey} {entries : Entries F O} {entry : CacheEntry F O}
    (found : (get key entries).1 = some entry) : (key, entry) ∈ entries := by
  unfold get at found
  cases stored : Dict.get entries key with
  | none =>
    rw [stored] at found
    cases found
  | some other =>
    rw [stored] at found
    cases found
    exact Dict.mem_of_get stored

/-- Deleting by cache keys adds no entry. -/
theorem mem_deleteByCacheKeys {keys : List CacheKey} {entries : Entries F O}
    {item : CacheKey × CacheEntry F O} (member : item ∈ (deleteByCacheKeys keys entries).2) :
    item ∈ entries := by
  induction keys generalizing entries with
  | nil => exact member
  | cons key keys ih =>
    rw [deleteByCacheKeys] at member
    rcases asked : get key entries with ⟨found, rest⟩
    rw [asked] at member
    cases found with
    | none => exact ih member
    | some entry =>
      have kept : item ∈ rest := List.mem_of_mem_eraseP (ih member)
      have all : item ∈ (get key entries).2 := by
        rw [asked]
        exact kept
      exact mem_get all

/-- Popping adds no entry. -/
theorem mem_popEach {keys : List CacheKey} {entries : Entries F O} {item : CacheKey × CacheEntry F O}
    (member : item ∈ (popEach keys entries).2) : item ∈ entries := by
  induction keys generalizing entries with
  | nil => exact member
  | cons key keys ih =>
    rw [popEach] at member
    by_cases stored : Dict.contains entries key = true
    · rw [if_pos stored] at member
      exact List.mem_of_mem_eraseP (ih member)
    · rw [if_neg stored] at member
      exact member

/-- An invalidation adds no entry. -/
theorem mem_deleteByRedisKeys {names : List RedisKey} {entries : Entries F O}
    {item : CacheKey × CacheEntry F O} (member : item ∈ (deleteByRedisKeys names entries).2) :
    item ∈ entries := by
  unfold deleteByRedisKeys at member
  cases found : dependents entries names with
  | error e =>
    rw [found] at member
    exact member
  | ok keys =>
    rw [found] at member
    simp only at member
    rcases popped : popEach keys entries with ⟨failure, rest⟩
    rw [popped] at member
    have kept : item ∈ rest := by
      cases failure <;> exact member
    have all : item ∈ (popEach keys entries).2 := by
      rw [popped]
      exact kept
    exact mem_popEach all

end DefaultCache

end RedisPy

import Mathlib.Data.Set.Card
import Mathlib.Data.List.Nodup

/-!
# A map that forgets what was used longest ago

The reference for a cache of bounded size. It dates every entry by its last use, and when there
are too many entries it forgets the oldest. A list represents the map when it holds the entries
in the order of their dates; each operation on the map has its operation on the list.
-/

/-- Entries dated by their last use. -/
structure Lru (κ υ : Type) where
  /-- The date of the next use. -/
  now : Nat
  /-- What is stored under a key, and when it was used last. -/
  stored : κ → Option (υ × Nat)

namespace Lru

variable {κ υ : Type} {m : Lru κ υ} {key : κ} {v : υ}

/-- A map without entries. -/
def empty : Lru κ υ := { now := 0, stored := fun _ => none }

/-- The value under a key. -/
def value (m : Lru κ υ) (key : κ) : Option υ := (m.stored key).map (·.1)

/-- When the entry under a key was used last. -/
def used (m : Lru κ υ) (key : κ) : Nat := ((m.stored key).map (·.2)).getD 0

/-- The keys with an entry. -/
def keys (m : Lru κ υ) : Set κ := {key | (m.value key).isSome}

section Operations

variable [DecidableEq κ]

/-- An entry is stored, and by that used. -/
def put (m : Lru κ υ) (key : κ) (value : υ) : Lru κ υ :=
  { now := m.now + 1, stored := Function.update m.stored key (some (value, m.now)) }

/-- An entry is used, if there is one. -/
def use (m : Lru κ υ) (key : κ) : Lru κ υ :=
  match m.value key with
  | some value => m.put key value
  | none => m

end Operations

open Classical in
/-- Entries are forgotten. -/
noncomputable def forget (m : Lru κ υ) (gone : Set κ) : Lru κ υ :=
  { m with stored := fun key => if key ∈ gone then none else m.stored key }

/-- The entries that no entry was used before. -/
def oldest (m : Lru κ υ) : Set κ := {key | key ∈ m.keys ∧ ∀ other ∈ m.keys, m.used key ≤ m.used other}

/-- With more entries than the limit allows the oldest is forgotten. -/
noncomputable def bounded (limit : Int) (m : Lru κ υ) : Lru κ υ :=
  if (m.keys.ncard : Int) > limit then m.forget m.oldest else m

/-! ## Looking at a changed map -/

@[simp] theorem value_empty (key : κ) : (empty : Lru κ υ).value key = none := rfl

section Put

variable [DecidableEq κ]

@[simp] theorem value_put_self : (m.put key v).value key = some v := by
  simp [Lru.value, put]

@[simp] theorem value_put_ne {other : κ} (ne : other ≠ key) :
    (m.put key v).value other = m.value other := by
  simp [Lru.value, put, Function.update_of_ne ne]

@[simp] theorem used_put_self : (m.put key v).used key = m.now := by
  simp [used, put]

@[simp] theorem used_put_ne {other : κ} (ne : other ≠ key) :
    (m.put key v).used other = m.used other := by
  simp [used, put, Function.update_of_ne ne]

/-- Using an entry stores and forgets none. -/
theorem keys_use (m : Lru κ υ) (key : κ) : (m.use key).keys = m.keys := by
  unfold Lru.use
  cases found : m.value key with
  | none => rfl
  | some v =>
    ext other
    by_cases same : other = key
    · subst same
      simp [keys, found]
    · simp [keys, same]

end Put

@[simp] theorem value_forget_mem {gone : Set κ} (member : key ∈ gone) :
    (m.forget gone).value key = none := by
  simp [Lru.value, forget, member]

@[simp] theorem value_forget_notMem {gone : Set κ} (kept : key ∉ gone) :
    (m.forget gone).value key = m.value key := by
  simp [Lru.value, forget, kept]

@[simp] theorem used_forget_notMem {gone : Set κ} (kept : key ∉ gone) :
    (m.forget gone).used key = m.used key := by
  simp [used, forget, kept]

/-! ## Lists in the order of use -/

/-- A list holds the entries of a map, the one used longest ago first. -/
structure Listed (items : List (κ × υ)) (m : Lru κ υ) : Prop where
  unique : (items.map (·.1)).Nodup
  holds : ∀ key value, m.value key = some value ↔ (key, value) ∈ items
  ordered : items.Pairwise fun a b => m.used a.1 < m.used b.1
  past : ∀ item ∈ items, m.used item.1 < m.now

variable {items : List (κ × υ)}

/-- The empty list is the empty map. -/
theorem Listed.empty : Listed [] (empty : Lru κ υ) :=
  ⟨List.nodup_nil, by simp, List.Pairwise.nil, by simp⟩

/-- The keys of the list are the keys of the map. -/
theorem Listed.mem_keys (listed : Listed items m) : key ∈ m.keys ↔ key ∈ items.map (·.1) := by
  constructor
  · intro stored
    obtain ⟨value, found⟩ := Option.isSome_iff_exists.mp stored
    exact List.mem_map_of_mem ((listed.holds key value).mp found)
  · intro member
    obtain ⟨item, among, rfl⟩ := List.mem_map.mp member
    exact Option.isSome_iff_exists.mpr ⟨item.2, (listed.holds item.1 item.2).mpr among⟩

/-- The list is as long as the map is large. -/
theorem Listed.length_eq (listed : Listed items m) : items.length = m.keys.ncard := by
  classical
  have same : m.keys = ((items.map (·.1)).toFinset : Set κ) := by
    ext key
    rw [listed.mem_keys, Finset.mem_coe, List.mem_toFinset]
  rw [same, Set.ncard_coe_finset, List.toFinset_card_of_nodup listed.unique, List.length_map]

/-- Forgetting entries is dropping them from the list. -/
theorem Listed.forget (listed : Listed items m) {gone : Set κ} {kept : κ → Bool}
    (decides : ∀ key, kept key = true ↔ key ∉ gone) :
    Listed (items.filter fun item => kept item.1) (m.forget gone) := by
  have sublist : (items.filter fun item => kept item.1).Sublist items := List.filter_sublist
  have same {item : κ × υ} (member : item ∈ items.filter fun item => kept item.1) :
      (m.forget gone).used item.1 = m.used item.1 :=
    used_forget_notMem ((decides item.1).mp (List.mem_filter.mp member).2)
  constructor
  · exact (sublist.map _).nodup listed.unique
  · intro key value
    rw [List.mem_filter]
    by_cases member : key ∈ gone
    · have dropped : ¬kept key = true := fun stays => (decides key).mp stays member
      simp [member, dropped]
    · have stays := (decides key).mpr member
      rw [value_forget_notMem member, listed.holds]
      simp [stays]
  · refine (listed.ordered.sublist sublist).imp_of_mem fun {a b} first second earlier => ?_
    rw [same first, same second]
    exact earlier
  · intro item member
    rw [same member]
    exact listed.past item (sublist.subset member)

/-- Storing an entry moves it to the end of the list. -/
theorem Listed.put [DecidableEq κ] (listed : Listed items m) (key : κ) (value : υ) :
    Listed (items.filter (fun item => item.1 ≠ key) ++ [(key, value)]) (m.put key value) := by
  have sublist : (items.filter fun item => item.1 ≠ key).Sublist items := List.filter_sublist
  have other {item : κ × υ} (member : item ∈ items.filter fun item => item.1 ≠ key) :
      item ∈ items ∧ item.1 ≠ key := by
    obtain ⟨among, differs⟩ := List.mem_filter.mp member
    exact ⟨among, of_decide_eq_true differs⟩
  constructor
  · rw [List.map_append, List.map_singleton, List.nodup_append]
    refine ⟨(sublist.map _).nodup listed.unique, List.nodup_singleton _, ?_⟩
    intro a first b last
    obtain ⟨item, member, rfl⟩ := List.mem_map.mp first
    rw [List.mem_singleton.mp last]
    exact (other member).2
  · intro k v
    rw [List.mem_append, List.mem_filter, List.mem_singleton]
    by_cases same : k = key
    · subst same
      simp [eq_comm]
    · rw [value_put_ne same, listed.holds]
      simp [same]
  · rw [List.pairwise_append]
    refine ⟨?_, List.pairwise_singleton _ _, ?_⟩
    · refine (listed.ordered.sublist sublist).imp_of_mem fun {a b} first second earlier => ?_
      rw [used_put_ne (other first).2, used_put_ne (other second).2]
      exact earlier
    · intro a first b last
      rw [List.mem_singleton.mp last, used_put_ne (other first).2, used_put_self]
      exact listed.past a (other first).1
  · intro item member
    rcases List.mem_append.mp member with among | last
    · rw [used_put_ne (other among).2]
      exact Nat.lt_succ_of_lt (listed.past item (other among).1)
    · rw [List.mem_singleton.mp last, used_put_self]
      exact Nat.lt_succ_self m.now

/-- Using a stored entry moves it to the end of the list. -/
theorem Listed.use [DecidableEq κ] (listed : Listed items m) (found : m.value key = some v) :
    Listed (items.filter (fun item => item.1 ≠ key) ++ [(key, v)]) (m.use key) := by
  rw [Lru.use, found]
  exact listed.put key v

/-- The head of the list is the one oldest entry. -/
theorem Listed.oldest_cons {item : κ × υ} (listed : Listed (item :: items) m) :
    m.oldest = {item.1} := by
  obtain ⟨before, -⟩ := List.pairwise_cons.mp listed.ordered
  have head : item.1 ∈ m.keys := listed.mem_keys.mpr List.mem_cons_self
  have later {key : κ} (stored : key ∈ m.keys) (differs : key ≠ item.1) :
      m.used item.1 < m.used key := by
    obtain ⟨other, among, rfl⟩ := List.mem_map.mp (listed.mem_keys.mp stored)
    rcases List.mem_cons.mp among with here | rest
    · exact absurd (congrArg Prod.fst here) differs
    · exact before other rest
  ext key
  rw [Set.mem_singleton_iff]
  constructor
  · rintro ⟨stored, least⟩
    by_contra differs
    exact absurd (least item.1 head) (Nat.not_le.mpr (later stored differs))
  · rintro rfl
    refine ⟨head, fun other stored => ?_⟩
    by_cases same : other = item.1
    · rw [same]
    · exact Nat.le_of_lt (later stored same)

/-- Forgetting the oldest entry drops the head of the list. -/
theorem Listed.evict (listed : Listed items m) : Listed (items.drop 1) (m.forget m.oldest) := by
  classical
  cases items with
  | nil =>
    have none : m.oldest = ∅ := by
      ext key
      simp [oldest, listed.mem_keys]
    rw [none]
    have decides : ∀ key : κ, (fun _ => true) key = true ↔ key ∉ (∅ : Set κ) := by simp
    simpa using listed.forget decides
  | cons item rest =>
    have unused : ∀ other ∈ rest, decide (other.1 ≠ item.1) = true := by
      intro other member
      have new : item.1 ∉ rest.map (·.1) := (List.nodup_cons.mp listed.unique).1
      have stored : other.1 ∈ rest.map (·.1) := List.mem_map_of_mem member
      exact decide_eq_true fun same => new (same ▸ stored)
    have dropped : (item :: rest).filter (fun other => decide (other.1 ≠ item.1)) = rest := by
      rw [List.filter_cons_of_neg (by simp), List.filter_eq_self.mpr unused]
    have decides : ∀ key, decide (key ≠ item.1) = true ↔ key ∉ m.oldest := by
      intro key
      rw [listed.oldest_cons, Set.mem_singleton_iff, decide_eq_true_eq]
    have forgotten := listed.forget decides
    rwa [dropped] at forgotten

/-- A list that is too long loses its head. -/
theorem Listed.bounded (listed : Listed items m) (limit : Int) :
    Listed (if (items.length : Int) > limit then items.drop 1 else items) (m.bounded limit) := by
  unfold Lru.bounded
  rw [← listed.length_eq]
  by_cases full : (items.length : Int) > limit
  · rw [if_pos full, if_pos full]
    exact listed.evict
  · rw [if_neg full, if_neg full]
    exact listed

end Lru

import Mathlib.Data.List.Basic
import Mathlib.Data.List.Perm.Subperm

/-!
# Python dictionaries

A `dict` keeps the order in which its keys were first stored. Storing under an equal
key replaces the value and keeps the stored key and its place; `OrderedDict` adds a
move to the end. Keys are compared by a Boolean equality, as Python compares them.
-/

namespace RedisPy

/-- A dictionary as its items in order. -/
abbrev Dict (κ υ : Type) := List (κ × υ)

namespace Dict

variable {κ υ : Type} [BEq κ]

/-- `d.get(key)`. -/
def get (d : Dict κ υ) (key : κ) : Option υ :=
  (d.find? fun item => item.1 == key).map (·.2)

/-- `d[key] = value`. -/
def set : Dict κ υ → κ → υ → Dict κ υ
  | [], key, value => [(key, value)]
  | (stored, old) :: rest, key, value =>
    if stored == key then (stored, value) :: rest else (stored, old) :: set rest key value

/-- `d.pop(key)` for a stored key; without one the dictionary is unchanged. -/
def erase (d : Dict κ υ) (key : κ) : Dict κ υ := d.eraseP fun item => item.1 == key

/-- `OrderedDict.move_to_end(key)` for a stored key. -/
def moveToEnd (d : Dict κ υ) (key : κ) : Dict κ υ :=
  match d.find? fun item => item.1 == key with
  | some item => d.erase key ++ [item]
  | none => d

/-- `key in d`. -/
def contains (d : Dict κ υ) (key : κ) : Bool := d.any fun item => item.1 == key

/-- `d.keys()`. -/
def keys (d : Dict κ υ) : List κ := d.map (·.1)

/-- `d.update(other)`. -/
def update (d other : Dict κ υ) : Dict κ υ := other.foldl (fun d item => d.set item.1 item.2) d

/-- `dict.fromkeys(names, value)`. -/
def fromKeys (names : List κ) (value : υ) : Dict κ υ :=
  names.foldl (fun d name => d.set name value) []

/-- Another value under each key. -/
def mapValues {ω : Type} (change : υ → ω) (d : Dict κ υ) : Dict κ ω :=
  d.map fun item => (item.1, change item.2)

/-- Look-ups see the changed values. -/
@[simp] theorem get_mapValues {ω : Type} (change : υ → ω) (d : Dict κ υ) (key : κ) :
    (d.mapValues change).get key = (d.get key).map change := by
  induction d with
  | nil => rfl
  | cons item rest ih =>
    have tail : get (mapValues change rest) key = (get rest key).map change := ih
    by_cases same : (item.1 == key) = true
    · simp [mapValues, get, same]
    · simpa [mapValues, get, same] using tail

/-- Storing and changing commute. -/
theorem mapValues_set {ω : Type} (change : υ → ω) (d : Dict κ υ) (key : κ) (value : υ) :
    (d.set key value).mapValues change = (d.mapValues change).set key (change value) := by
  induction d with
  | nil => rfl
  | cons item rest ih =>
    have tail :
        mapValues change (set rest key value) = set (mapValues change rest) key (change value) := ih
    by_cases same : (item.1 == key) = true
    · simp [mapValues, set, same]
    · simpa [mapValues, set, same] using tail

/-- Changed values stay under their keys. -/
@[simp] theorem contains_mapValues {ω : Type} (change : υ → ω) (d : Dict κ υ) (key : κ) :
    (d.mapValues change).contains key = d.contains key := by
  simp [mapValues, contains, Function.comp_def]

omit [BEq κ] in
/-- Only the stored values matter. -/
theorem mapValues_congr {ω : Type} {change other : υ → ω} {d : Dict κ υ}
    (same : ∀ item ∈ d, change item.2 = other item.2) : d.mapValues change = d.mapValues other :=
  List.map_congr_left fun item member => by rw [same item member]

/-- A key is stored when something is found under it. -/
theorem contains_eq_isSome_get (d : Dict κ υ) (key : κ) : d.contains key = (d.get key).isSome := by
  simp [contains, get, Option.isSome_map, List.isSome_find?]

/-- Updating goes on from part to part. -/
theorem update_append (d e f : Dict κ υ) : d.update (e ++ f) = (d.update e).update f := List.foldl_append

variable [LawfulBEq κ]

/-- A stored value is found under its key. -/
theorem get_set_self (d : Dict κ υ) (key : κ) (value : υ) : (d.set key value).get key = some value := by
  induction d with
  | nil => simp [set, get]
  | cons item rest ih =>
    obtain ⟨stored, old⟩ := item
    by_cases same : (stored == key) = true
    · simp [set, get, same]
    · simp only [Bool.not_eq_true] at same
      simp only [set, same, Bool.false_eq_true, ↓reduceIte]
      simpa [get, same] using ih

/-- Storing under one key leaves the others alone. -/
theorem get_set_ne (d : Dict κ υ) {key other : κ} (value : υ) (ne : key ≠ other) :
    (d.set key value).get other = d.get other := by
  have differ : (key == other) = false := beq_eq_false_iff_ne.mpr ne
  induction d with
  | nil => simp [set, get, differ]
  | cons item rest ih =>
    obtain ⟨stored, old⟩ := item
    by_cases same : stored = key
    · subst same
      simp [set, get, differ]
    · have apart : (stored == key) = false := beq_eq_false_iff_ne.mpr same
      simp only [set, apart, Bool.false_eq_true, ↓reduceIte]
      by_cases found : stored = other
      · simp [get, found]
      · have missed : (stored == other) = false := beq_eq_false_iff_ne.mpr found
        simpa [get, missed] using ih

/-- What is found is stored. -/
theorem mem_of_get {d : Dict κ υ} {key : κ} {value : υ} (found : d.get key = some value) :
    (key, value) ∈ d := by
  unfold get at found
  cases first : d.find? fun item => item.1 == key with
  | none => simp [first] at found
  | some item =>
    rw [first] at found
    have same : item.1 = key := by simpa using List.find?_some first
    have stored : item.2 = value := Option.some.inj found
    rw [← same, ← stored]
    exact List.mem_of_find?_eq_some first

/-- Storing what is stored changes nothing. -/
theorem set_of_get {d : Dict κ υ} {key : κ} {value : υ} (found : d.get key = some value) :
    d.set key value = d := by
  induction d with
  | nil => cases found
  | cons item rest ih =>
    obtain ⟨stored, old⟩ := item
    by_cases same : stored = key
    · subst same
      have here : old = value := by simpa [get] using found
      simp [set, here]
    · have apart : (stored == key) = false := beq_eq_false_iff_ne.mpr same
      have later : get rest key = some value := by simpa [get, apart] using found
      simp [set, apart, ih later]

/-- A stored key is found. -/
theorem contains_of_mem {d : Dict κ υ} {key : κ} {value : υ} (member : (key, value) ∈ d) :
    d.contains key = true :=
  List.any_eq_true.mpr ⟨(key, value), member, beq_self_eq_true key⟩

/-- Storing adds one item at most. -/
theorem mem_set {d : Dict κ υ} {key : κ} {value : υ} {item : κ × υ} (member : item ∈ d.set key value) :
    item = (key, value) ∨ item ∈ d := by
  induction d with
  | nil => exact .inl (List.mem_singleton.mp member)
  | cons first rest ih =>
    obtain ⟨stored, old⟩ := first
    by_cases same : stored = key
    · subst same
      simp only [set, BEq.rfl, ↓reduceIte, List.mem_cons] at member
      rcases member with new | member
      · exact .inl new
      · exact .inr (List.mem_cons_of_mem _ member)
    · have apart : (stored == key) = false := beq_eq_false_iff_ne.mpr same
      simp only [set, apart, Bool.false_eq_true, ↓reduceIte, List.mem_cons] at member
      rcases member with rfl | member
      · exact .inr List.mem_cons_self
      · exact (ih member).imp id (List.mem_cons_of_mem _)

/-- The keys are what is stored. -/
theorem contains_iff_mem_keys {d : Dict κ υ} {key : κ} : d.contains key = true ↔ key ∈ d.keys := by
  simp [contains, keys]

/-- Storing adds the key, if it is not there. -/
theorem mem_keys_set {d : Dict κ υ} {key other : κ} {value : υ} :
    other ∈ (d.set key value).keys ↔ other = key ∨ other ∈ d.keys := by
  induction d with
  | nil => simp [set, keys]
  | cons item rest ih =>
    obtain ⟨stored, old⟩ := item
    by_cases same : stored = key
    · subst same
      simp [set, keys]
    · have apart : (stored == key) = false := beq_eq_false_iff_ne.mpr same
      have tail : other ∈ keys (set rest key value) ↔ other = key ∨ other ∈ keys rest := ih
      simp only [set, apart, Bool.false_eq_true, ↓reduceIte, keys, List.map_cons, List.mem_cons]
      rw [show (other ∈ (set rest key value).map (·.1)) = (other ∈ keys (set rest key value)) from rfl,
        tail]
      simp only [keys]
      tauto

/-- Updating adds the keys. -/
theorem mem_keys_update {d e : Dict κ υ} {key : κ} :
    key ∈ (d.update e).keys ↔ key ∈ d.keys ∨ key ∈ e.keys := by
  induction e generalizing d with
  | nil => simp [update, keys]
  | cons item e ih =>
    have rest : key ∈ (update (d.set item.1 item.2) e).keys ↔
      key ∈ (d.set item.1 item.2).keys ∨ key ∈ keys e := ih
    rw [show update d (item :: e) = update (d.set item.1 item.2) e from rfl, rest, mem_keys_set]
    simp only [keys, List.map_cons, List.mem_cons]
    tauto

/-- The keys of a new dictionary are its names. -/
theorem mem_keys_fromKeys {names : List κ} {key : κ} {value : υ} :
    key ∈ (fromKeys names value).keys ↔ key ∈ names := by
  have grown (d : Dict κ υ) :
      key ∈ (names.foldl (fun d name => d.set name value) d).keys ↔ key ∈ d.keys ∨ key ∈ names := by
    induction names generalizing d with
    | nil => simp
    | cons name names ih =>
      rw [List.foldl_cons, ih, mem_keys_set, List.mem_cons]
      tauto
  unfold fromKeys
  rw [grown]
  simp [keys]

/-- No key is stored twice. -/
def Unique (d : Dict κ υ) : Prop := d.keys.Nodup

/-- Storing stores no key twice. -/
theorem Unique.set {d : Dict κ υ} (unique : d.Unique) (key : κ) (value : υ) :
    (d.set key value).Unique := by
  induction d with
  | nil => simp [Unique, Dict.set, keys]
  | cons item rest ih =>
    obtain ⟨stored, old⟩ := item
    have parts : stored ∉ keys rest ∧ (keys rest).Nodup := List.nodup_cons.mp unique
    by_cases same : stored = key
    · subst same
      simpa [Unique, Dict.set, keys] using parts
    · have apart : (stored == key) = false := beq_eq_false_iff_ne.mpr same
      have new : stored ∉ keys (Dict.set rest key value) := by
        rw [mem_keys_set]
        rintro (here | later)
        · exact same here
        · exact parts.1 later
      simp only [Unique, Dict.set, apart, Bool.false_eq_true, ↓reduceIte, keys, List.map_cons]
      exact List.nodup_cons.mpr ⟨new, ih parts.2⟩

/-- Updating stores no key twice. -/
theorem Unique.update {d : Dict κ υ} (unique : d.Unique) (e : Dict κ υ) : (d.update e).Unique := by
  induction e generalizing d with
  | nil => exact unique
  | cons item e ih => exact ih (unique.set item.1 item.2)

/-- Removing a key leaves the others. -/
theorem mem_keys_erase {d : Dict κ υ} (unique : d.Unique) {key other : κ} :
    other ∈ (d.erase key).keys ↔ other ∈ d.keys ∧ other ≠ key := by
  induction d with
  | nil => simp [erase, keys]
  | cons item rest ih =>
    obtain ⟨stored, old⟩ := item
    have parts : stored ∉ keys rest ∧ (keys rest).Nodup := List.nodup_cons.mp unique
    by_cases same : stored = key
    · subst same
      have gone : other ∈ keys rest → other ≠ stored := fun member equal => parts.1 (equal ▸ member)
      simp only [erase, BEq.rfl, List.eraseP_cons_of_pos, keys, List.map_cons, List.mem_cons]
      constructor
      · exact fun member => ⟨.inr member, gone member⟩
      · rintro ⟨here | later, differs⟩
        · exact absurd here differs
        · exact later
    · have apart : ¬(stored == key) = true := by simpa using same
      have tail : other ∈ (erase rest key).keys ↔ other ∈ keys rest ∧ other ≠ key := ih parts.2
      rw [show erase ((stored, old) :: rest) key = (stored, old) :: erase rest key from
        List.eraseP_cons_of_neg apart]
      simp only [keys, List.map_cons, List.mem_cons] at tail ⊢
      rw [tail]
      constructor
      · rintro (rfl | ⟨later, differs⟩)
        · exact ⟨.inl rfl, same⟩
        · exact ⟨.inr later, differs⟩
      · rintro ⟨rfl | later, differs⟩
        · exact .inl rfl
        · exact .inr ⟨later, differs⟩

omit [LawfulBEq κ] in
/-- Removing a key stores no key twice. -/
theorem Unique.erase {d : Dict κ υ} (unique : d.Unique) (key : κ) : (d.erase key).Unique :=
  (List.eraseP_sublist.map _).nodup unique

/-- Something is found under the stored keys. -/
theorem isSome_get_iff {d : Dict κ υ} {key : κ} : (d.get key).isSome = true ↔ key ∈ d.keys := by
  rw [← contains_eq_isSome_get]
  exact contains_iff_mem_keys

/-- Nothing is found under another key. -/
theorem get_of_notMem {d : Dict κ υ} {key : κ} (missing : key ∉ d.keys) : d.get key = none := by
  cases found : d.get key with
  | none => rfl
  | some value => exact absurd (isSome_get_iff.mp (by rw [found]; rfl)) missing

/-- What is removed is not found. -/
theorem Unique.get_erase_self {d : Dict κ υ} (unique : d.Unique) (key : κ) : (d.erase key).get key = none :=
  get_of_notMem fun member => ((mem_keys_erase unique).mp member).2 rfl

/-- What is stored is found. -/
theorem Unique.get_of_mem {d : Dict κ υ} (unique : d.Unique) {key : κ} {value : υ}
    (member : (key, value) ∈ d) : d.get key = some value := by
  induction d with
  | nil => cases member
  | cons item rest ih =>
    have parts : item.1 ∉ keys rest ∧ (keys rest).Nodup := List.nodup_cons.mp unique
    rcases List.mem_cons.mp member with here | later
    · subst here
      simp [get]
    · have stored : key ∈ keys rest := List.mem_map_of_mem later
      have apart : (item.1 == key) = false :=
        beq_eq_false_iff_ne.mpr fun same => parts.1 (same ▸ stored)
      have found := ih parts.2 later
      simpa [get, apart] using found

/-- A new key is stored at the end. -/
theorem set_of_notMem {d : Dict κ υ} {key : κ} (value : υ) (new : key ∉ d.keys) :
    d.set key value = d ++ [(key, value)] := by
  induction d with
  | nil => rfl
  | cons item rest ih =>
    obtain ⟨stored, old⟩ := item
    have parts : key ≠ stored ∧ key ∉ keys rest := by
      simpa [keys, not_or] using new
    have apart : (stored == key) = false := beq_eq_false_iff_ne.mpr parts.1.symm
    simp only [set, apart, Bool.false_eq_true, ↓reduceIte, ih parts.2, List.cons_append]

/-- New keys are stored at the end, in order. -/
theorem update_of_disjoint {d e : Dict κ υ} (unique : e.Unique)
    (new : ∀ key ∈ e.keys, key ∉ d.keys) : d.update e = d ++ e := by
  induction e generalizing d with
  | nil => simp [update]
  | cons item rest ih =>
    have parts : item.1 ∉ keys rest ∧ (keys rest).Nodup := List.nodup_cons.mp unique
    have first : d.set item.1 item.2 = d ++ [item] := set_of_notMem item.2 (new item.1 List.mem_cons_self)
    have later : ∀ key ∈ keys rest, key ∉ keys (d ++ [item]) := by
      intro key member stored
      simp only [keys, List.map_append, List.mem_append, List.map_cons, List.map_nil,
        List.mem_singleton] at stored
      rcases stored with old | rfl
      · exact new key (List.mem_cons_of_mem _ member) old
      · exact parts.1 member
    calc
      d.update (item :: rest) = (d.set item.1 item.2).update rest := rfl
      _ = (d ++ [item]).update rest := by rw [first]
      _ = d ++ [item] ++ rest := ih parts.2 later
      _ = d ++ item :: rest := by rw [List.append_assoc, List.singleton_append]

/-- If nothing is lost, no key was given twice. -/
theorem unique_of_length_update {items : Dict κ υ} (kept : items.length ≤ (update [] items).length) :
    items.Unique := by
  have empty : Unique ([] : Dict κ υ) := List.nodup_nil
  have unique : (update [] items).Unique := empty.update items
  have within : keys (update [] items) ⊆ keys items := by
    intro key member
    rcases mem_keys_update.mp member with none | given
    · cases none
    · exact given
  have all : (keys items).length ≤ (keys (update [] items)).length := by
    rw [keys, keys, List.length_map, List.length_map]
    exact kept
  exact ((List.subperm_of_subset unique within).perm_of_length_le all).nodup_iff.mp unique

/-- Storing what is stored changes nothing. -/
theorem update_of_stored {d e : Dict κ υ} (stored : ∀ item ∈ e, d.get item.1 = some item.2) :
    d.update e = d := by
  induction e with
  | nil => rfl
  | cons item rest ih =>
    have first : d.set item.1 item.2 = d := set_of_get (stored item List.mem_cons_self)
    show (d.set item.1 item.2).update rest = d
    rw [first]
    exact ih fun other member => stored other (List.mem_cons_of_mem _ member)

omit [LawfulBEq κ] in
/-- A key that is not stored cannot be removed. -/
theorem erase_of_contains {d : Dict κ υ} {key : κ} (missing : d.contains key = false) :
    d.erase key = d := by
  apply List.eraseP_of_forall_not
  intro item member
  unfold contains at missing
  simpa using List.any_eq_false.mp missing item member

/-- Removing a key keeps the other items in order. -/
theorem Unique.erase_eq_filter {d : Dict κ υ} (unique : d.Unique) {key : κ} :
    d.erase key = d.filter fun item => !(item.1 == key) := by
  induction d with
  | nil => rfl
  | cons item rest ih =>
    have parts : item.1 ∉ keys rest ∧ (keys rest).Nodup := List.nodup_cons.mp unique
    by_cases same : item.1 == key
    · have others : ∀ other ∈ rest, (!(other.1 == key)) = true := by
        intro other member
        have stored : other.1 ∈ keys rest := List.mem_map_of_mem member
        have differs : other.1 ≠ item.1 := fun equal => parts.1 (equal ▸ stored)
        simpa [← eq_of_beq same] using differs
      rw [show Dict.erase (item :: rest) key = rest from List.eraseP_cons_of_pos same,
        List.filter_cons_of_neg (by simp [same]), List.filter_eq_self.mpr others]
    · rw [show Dict.erase (item :: rest) key = item :: Dict.erase rest key from List.eraseP_cons_of_neg same,
        List.filter_cons_of_pos (by simp [same]), ih parts.2]

/-- Removing one key leaves the others alone. -/
theorem get_erase_ne (d : Dict κ υ) {key other : κ} (ne : other ≠ key) :
    (d.erase key).get other = d.get other := by
  induction d with
  | nil => rfl
  | cons item rest ih =>
    obtain ⟨stored, old⟩ := item
    by_cases same : stored = key
    · subst same
      have apart : (stored == other) = false := beq_eq_false_iff_ne.mpr ne.symm
      simp [erase, get, apart]
    · have differs : ¬(stored == key) = true := by simpa using same
      rw [show erase ((stored, old) :: rest) key = (stored, old) :: erase rest key from
        List.eraseP_cons_of_neg differs]
      by_cases found : stored = other
      · simp [get, found]
      · have missed : (stored == other) = false := beq_eq_false_iff_ne.mpr found
        have tail : get (erase rest key) other = get rest other := ih
        simpa [get, missed] using tail

/-- The newer value is found. -/
theorem get_update {d e : Dict κ υ} (unique : e.Unique) (key : κ) :
    (d.update e).get key = (e.get key).or (d.get key) := by
  induction e generalizing d with
  | nil => rfl
  | cons item rest ih =>
    have parts : item.1 ∉ keys rest ∧ (keys rest).Nodup := List.nodup_cons.mp unique
    have later : (d.update (item :: rest)).get key = (get rest key).or ((d.set item.1 item.2).get key) :=
      ih parts.2
    rw [later]
    by_cases same : item.1 = key
    · subst same
      have absent : get rest item.1 = none := by
        cases found : get rest item.1 with
        | none => rfl
        | some value => exact absurd (isSome_get_iff.mp (by rw [found]; rfl)) parts.1
      rw [absent, get_set_self]
      simp [get]
    · have apart : (item.1 == key) = false := beq_eq_false_iff_ne.mpr same
      have tail : get (item :: rest) key = get rest key := by simp [get, apart]
      rw [get_set_ne d item.2 same, tail]

end Dict

end RedisPy

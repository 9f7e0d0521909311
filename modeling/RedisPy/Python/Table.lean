import Mathlib.Data.List.ReduceOption
import RedisPy.Python.Dict
import RedisPy.Lib.Turns

/-!
# Dictionaries that change while they are iterated

The table of a dictionary has its entries in the order of insertion. A key that is removed leaves a hole, and
the holes are closed when a new key finds the table full. An iterator keeps a position in the
table; it notices that the size has changed, or that there are more entries than there were.
-/

namespace RedisPy

/-- The table of a dictionary. -/
structure Table (κ υ : Type) where
  /-- Entries and holes. -/
  entries : List (Option (κ × υ))
  /-- The number of keys that can be inserted before the table is built anew. -/
  usable : Nat

/-- An iterator over the values of a dictionary. -/
structure TableIterator where
  /-- The size of the dictionary at the start. -/
  used : Nat
  position : Nat
  /-- The number of values that are expected. -/
  left : Nat
deriving DecidableEq

/-- What an iterator gives. -/
inductive Advanced (α : Type) where
  | item (item : α) (iterator : TableIterator)
  | exhausted
  /-- `RuntimeError`: the size or the keys of the dictionary changed during the iteration. -/
  | changed

/-- A generator that runs `while True: yield from d.values()`. -/
inductive ValuesGenerator where
  | unstarted
  | suspended (iterator : TableIterator)
  | finished
deriving DecidableEq

/-- Why `next` gives no value. -/
inductive NoValue where
  | runtimeError
  | stopIteration
  /-- The loop goes on for ever: the dictionary is empty. -/
  | endless
deriving DecidableEq

namespace Table

variable {κ υ : Type} [DecidableEq κ]

/-- `{}`. -/
def empty : Table κ υ := { entries := [], usable := 0 }

/-- The items of the dictionary. -/
def items (t : Table κ υ) : Dict κ υ := t.entries.reduceOption

/-- `len(d)`. -/
def size (t : Table κ υ) : Nat := t.items.length

/-- `d[key] = value` for a stored key. -/
def replace (t : Table κ υ) (key : κ) (value : υ) : Table κ υ :=
  { t with
    entries := t.entries.map (Option.map fun item => if item.1 = key then (item.1, value) else item) }

/-- `d[key] = value` for a new key. The capacity of a table that is built anew depends on its size. -/
def insert (capacity : Nat → Nat) (t : Table κ υ) (key : κ) (value : υ) : Table κ υ :=
  if t.usable = 0 then
    { entries := t.items.map some ++ [some (key, value)], usable := capacity t.size - 1 }
  else { entries := t.entries ++ [some (key, value)], usable := t.usable - 1 }

/-- `d.pop(key)`. -/
def pop (t : Table κ υ) (key : κ) : Table κ υ :=
  { t with entries := t.entries.map (Option.filter fun item => item.1 ≠ key) }

/-- `iter(d.values())`. -/
def iterator (t : Table κ υ) : TableIterator := { used := t.size, position := 0, left := t.size }

/-- The first entry, and the number of holes in front of it. -/
def firstEntry {α : Type} : List (Option α) → Option (Nat × α)
  | [] => none
  | some item :: _ => some (0, item)
  | none :: entries => (firstEntry entries).map fun found => (found.1 + 1, found.2)

/-- `next(iterator)`. -/
def advance (t : Table κ υ) (it : TableIterator) : Advanced (κ × υ) :=
  if it.used ≠ t.size then .changed
  else
    match firstEntry (t.entries.drop it.position) with
    | none => .exhausted
    | some (skipped, item) =>
      if it.left = 0 then .changed
      else .item item { it with position := it.position + skipped + 1, left := it.left - 1 }

/-- The generator begins with the first value again. -/
def restart (t : Table κ υ) : Except NoValue (κ × υ) × ValuesGenerator :=
  match t.advance t.iterator with
  | .item item it => (.ok item, .suspended it)
  | .exhausted => (.error .endless, .finished)
  | .changed => (.error .runtimeError, .finished)

/-- `next(generator)`. -/
def nextValue (t : Table κ υ) : ValuesGenerator → Except NoValue (κ × υ) × ValuesGenerator
  | .unstarted => t.restart
  | .finished => (.error .stopIteration, .finished)
  | .suspended it =>
    match t.advance it with
    | .item item it => (.ok item, .suspended it)
    | .exhausted => t.restart
    | .changed => (.error .runtimeError, .finished)

/-! ## The items -/

/-- Without holes. -/
theorem reduceOption_map_some {α : Type} (items : List α) : (items.map some).reduceOption = items := by
  rw [List.reduceOption, List.filterMap_map]
  exact List.filterMap_some

/-- With more holes. -/
theorem reduceOption_map_filter {α : Type} (p : α → Bool) (entries : List (Option α)) :
    (entries.map (Option.filter p)).reduceOption = entries.reduceOption.filter p := by
  induction entries with
  | nil => rfl
  | cons entry entries ih =>
    cases entry with
    | none => exact ih
    | some item =>
      by_cases kept : p item = true
      · rw [List.map_cons, Option.filter_some, if_pos kept, List.reduceOption_cons_of_some, ih,
          List.reduceOption_cons_of_some, List.filter_cons_of_pos kept]
      · rw [List.map_cons, Option.filter_some, if_neg kept, List.reduceOption_cons_of_none, ih,
          List.reduceOption_cons_of_some, List.filter_cons_of_neg kept]

/-- A value is replaced. -/
@[simp] theorem items_replace (t : Table κ υ) (key : κ) (value : υ) :
    (t.replace key value).items = t.items.map fun item => if item.1 = key then (item.1, value) else item :=
  List.reduceOption_map

omit [DecidableEq κ] in
/-- A new item is the last one. -/
@[simp] theorem items_insert (capacity : Nat → Nat) (t : Table κ υ) (key : κ) (value : υ) :
    (t.insert capacity key value).items = t.items ++ [(key, value)] := by
  unfold insert
  split
  · show (t.items.map some ++ [some (key, value)]).reduceOption = _
    rw [List.reduceOption_append, reduceOption_map_some]
    rfl
  · show (t.entries ++ [some (key, value)]).reduceOption = _
    rw [List.reduceOption_append]
    rfl

/-- An item is removed. -/
@[simp] theorem items_pop (t : Table κ υ) (key : κ) :
    (t.pop key).items = t.items.filter fun item => item.1 ≠ key :=
  reduceOption_map_filter _ _

/-- The keys of the entries, and the holes. -/
def layout (t : Table κ υ) : List (Option κ) := t.entries.map (Option.map (·.1))

omit [DecidableEq κ] in
/-- The keys in their order. -/
theorem keys_eq (t : Table κ υ) : t.items.keys = t.layout.reduceOption := List.reduceOption_map.symm

/-- Replacing a value keeps the layout. -/
@[simp] theorem layout_replace (t : Table κ υ) (key : κ) (value : υ) : (t.replace key value).layout = t.layout := by
  unfold layout replace
  rw [List.map_map]
  refine List.map_congr_left fun entry _ => ?_
  cases entry with
  | none => rfl
  | some item =>
    by_cases same : item.1 = key
    · simp [same]
    · simp [same]

omit [DecidableEq κ] in
/-- The size is the number of keys. -/
theorem size_eq (t : Table κ υ) : t.size = t.items.keys.length := (List.length_map _).symm

/-! ## The order of iteration -/

/-- The number of items in front of a position. -/
def before (t : Table κ υ) (position : Nat) : Nat := (t.entries.take position).reduceOption.length

/-- The place of the item that comes next. -/
def turn (t : Table κ υ) : ValuesGenerator → Nat
  | .suspended it => t.before it.position
  | _ => 0

omit [DecidableEq κ] in
/-- Places depend on the layout. -/
theorem before_eq (t : Table κ υ) (position : Nat) :
    t.before position = (t.layout.take position).reduceOption.length := by
  rw [layout, ← List.map_take, List.reduceOption_map, List.length_map]
  rfl

omit [DecidableEq κ] in
/-- Whose turn it is depends on the layout. -/
theorem turn_congr {t other : Table κ υ} (same : t.layout = other.layout) (generator : ValuesGenerator) :
    t.turn generator = other.turn generator := by
  cases generator with
  | suspended it => rw [turn, turn, before_eq, before_eq, same]
  | unstarted => rfl
  | finished => rfl

/-- The first entry is where it was found. -/
theorem firstEntry_eq_some {α : Type} {entries : List (Option α)} {skipped : Nat} {item : α}
    (found : firstEntry entries = some (skipped, item)) :
    ∃ later, entries = List.replicate skipped none ++ some item :: later := by
  induction entries generalizing skipped with
  | nil => cases found
  | cons entry entries ih =>
    cases entry with
    | some first =>
      cases found
      exact ⟨entries, rfl⟩
    | none =>
      obtain ⟨⟨fewer, other⟩, inner, same⟩ := Option.map_eq_some_iff.mp found
      cases same
      obtain ⟨later, split⟩ := ih inner
      exact ⟨later, by rw [split]; rfl⟩

/-- Where no entry is found there are holes only. -/
theorem firstEntry_eq_none {α : Type} {entries : List (Option α)} (missing : firstEntry entries = none) :
    entries.reduceOption = [] := by
  induction entries with
  | nil => rfl
  | cons entry entries ih =>
    cases entry with
    | some first => cases missing
    | none => exact ih (Option.map_eq_none_iff.mp missing)

omit [DecidableEq κ] in
/-- The items in front of a position and those behind it. -/
theorem items_eq (t : Table κ υ) (position : Nat) :
    t.items = (t.entries.take position).reduceOption ++ (t.entries.drop position).reduceOption := by
  rw [← List.reduceOption_append, List.take_append_drop]
  rfl

omit [DecidableEq κ] in
/-- An entry that is found at a position is the item of that place, and the items behind it come next. -/
theorem found_at {t : Table κ υ} {position skipped : Nat} {item : κ × υ}
    (found : firstEntry (t.entries.drop position) = some (skipped, item)) :
    t.items[t.before position]? = some item ∧ t.before (position + skipped + 1) = t.before position + 1 ∧
      (t.entries.drop position).reduceOption = item :: (t.entries.drop (position + skipped + 1)).reduceOption := by
  obtain ⟨later, split⟩ := firstEntry_eq_some found
  have behind : (t.entries.drop position).reduceOption = item :: later.reduceOption := by
    rw [split, List.reduceOption_append, List.reduceOption_replicate_none, List.nil_append,
      List.reduceOption_cons_of_some]
  have rest : t.entries.drop (position + skipped + 1) = later := by
    rw [Nat.add_assoc, ← List.drop_drop, split, List.drop_append]
    simp
  have front : (t.entries.take (position + skipped + 1)).reduceOption =
      (t.entries.take position).reduceOption ++ [item] := by
    rw [Nat.add_assoc, List.take_add, split, List.reduceOption_append]
    congr 1
    rw [List.take_append]
    simp [List.reduceOption_append, List.reduceOption_cons_of_some]
  refine ⟨?_, ?_, by rw [behind, rest]⟩
  · rw [t.items_eq position, behind]
    unfold before
    rw [List.getElem?_append_right (Nat.le_refl _), Nat.sub_self]
    rfl
  · unfold before
    rw [front, List.length_append, List.length_singleton]

omit [DecidableEq κ] in
/-- Behind the last item there are all in front. -/
theorem before_of_none {t : Table κ υ} {position : Nat}
    (missing : firstEntry (t.entries.drop position) = none) : t.before position = t.size := by
  unfold size
  rw [t.items_eq position, firstEntry_eq_none missing, List.append_nil]
  rfl

/-- A generator has begun when it gave a value. -/
structure Gives (t : Table κ υ) (place : Nat) (item : κ × υ) (generator : ValuesGenerator) : Prop where
  item : t.items[place]? = some item
  turn : t.turn generator = place + 1
  suspended : generator ≠ .finished

omit [DecidableEq κ] in
/-- What an iterator gives. -/
theorem advance_item {t : Table κ υ} {it after : TableIterator} {item : κ × υ}
    (advanced : t.advance it = .item item after) : t.Gives (t.before it.position) item (.suspended after) := by
  unfold advance at advanced
  split at advanced
  · cases advanced
  · split at advanced
    · cases advanced
    · next skipped found located =>
      split at advanced
      · cases advanced
      · cases advanced
        obtain ⟨here, next, -⟩ := found_at located
        exact ⟨here, next, by simp⟩

omit [DecidableEq κ] in
/-- An exhausted iterator is behind the last item. -/
theorem advance_exhausted {t : Table κ υ} {it : TableIterator} (advanced : t.advance it = .exhausted) :
    t.before it.position = t.size := by
  unfold advance at advanced
  split at advanced
  · cases advanced
  · split at advanced
    · next missing => exact before_of_none missing
    · next skipped found located =>
      split at advanced <;> cases advanced

omit [DecidableEq κ] in
/-- A generator that begins again gives the first item. -/
theorem restart_ok {t : Table κ υ} {item : κ × υ} {after : ValuesGenerator}
    (given : t.restart = (.ok item, after)) : t.Gives 0 item after := by
  unfold restart at given
  cases advanced : t.advance t.iterator with
  | item found it =>
    rw [advanced] at given
    cases given
    exact advance_item advanced
  | exhausted =>
    rw [advanced] at given
    cases given
  | changed =>
    rw [advanced] at given
    cases given

omit [DecidableEq κ] in
/-- A generator gives the item whose turn it is. -/
theorem nextValue_ok {t : Table κ υ} {generator after : ValuesGenerator} {item : κ × υ}
    (given : t.nextValue generator = (.ok item, after)) : t.Gives (t.turn generator % t.size) item after := by
  cases generator with
  | unstarted =>
    rw [show t.turn .unstarted = 0 from rfl, Nat.zero_mod]
    exact restart_ok given
  | finished => cases given
  | suspended it =>
    simp only [nextValue] at given
    cases advanced : t.advance it with
    | item found it =>
      rw [advanced] at given
      cases given
      have gives := advance_item advanced
      have inside : t.before _ < t.size := (List.getElem?_eq_some_iff.mp gives.item).1
      rw [turn, Nat.mod_eq_of_lt inside]
      exact gives
    | exhausted =>
      rw [advanced] at given
      rw [turn, advance_exhausted advanced, Nat.mod_self]
      exact restart_ok given
    | changed =>
      rw [advanced] at given
      cases given

omit [DecidableEq κ] in
/-- A generator that gives no value does not go on. -/
theorem nextValue_error {t : Table κ υ} {generator after : ValuesGenerator} {reason : NoValue}
    (given : t.nextValue generator = (.error reason, after)) : after = .finished := by
  have again {after : ValuesGenerator} (given : t.restart = (.error reason, after)) : after = .finished := by
    unfold restart at given
    split at given
    · cases given
    · cases given
      rfl
    · cases given
      rfl
  cases generator with
  | unstarted => exact again given
  | finished =>
    cases given
    rfl
  | suspended it =>
    simp only [nextValue] at given
    split at given
    · cases given
    · exact again given
    · cases given
      rfl

/-! ## Iteration without errors -/

/-- What is expected is what is there, or the generator has not begun. -/
def Undisturbed (t : Table κ υ) : ValuesGenerator → Prop
  | .unstarted => True
  | .finished => False
  | .suspended it => it.used = t.size ∧ (t.entries.drop it.position).reduceOption.length ≤ it.left

omit [DecidableEq κ] in
/-- Whether something is disturbed depends on the layout. -/
theorem undisturbed_congr {t other : Table κ υ} (same : t.layout = other.layout) (generator : ValuesGenerator) :
    t.Undisturbed generator ↔ other.Undisturbed generator := by
  have ahead (t : Table κ υ) (position : Nat) :
      (t.entries.drop position).reduceOption.length = (t.layout.drop position).reduceOption.length := by
    rw [layout, ← List.map_drop, List.reduceOption_map, List.length_map]
  cases generator with
  | suspended it =>
    rw [Undisturbed, Undisturbed, ahead, ahead, same, size_eq, size_eq, keys_eq, keys_eq, same]
  | unstarted => rfl
  | finished => rfl

omit [DecidableEq κ] in
/-- An undisturbed iterator gives an item or is exhausted. -/
theorem advance_undisturbed {t : Table κ υ} {it : TableIterator} (undisturbed : t.Undisturbed (.suspended it)) :
    t.advance it = .exhausted ∨ ∃ item after, t.advance it = .item item after ∧ t.Undisturbed (.suspended after) := by
  obtain ⟨used, enough⟩ := undisturbed
  unfold advance
  rw [if_neg (not_not_intro used)]
  cases found : firstEntry (t.entries.drop it.position) with
  | none => exact .inl rfl
  | some entry =>
    obtain ⟨skipped, item⟩ := entry
    obtain ⟨-, -, behind⟩ := found_at found
    rw [behind, List.length_cons] at enough
    refine .inr ⟨item, _, if_neg (by omega), used, ?_⟩
    show (t.entries.drop (it.position + skipped + 1)).reduceOption.length ≤ it.left - 1
    omega

omit [DecidableEq κ] in
/-- A new iterator is undisturbed. -/
theorem undisturbed_iterator (t : Table κ υ) : t.Undisturbed (.suspended t.iterator) :=
  ⟨rfl, Nat.le_refl _⟩

omit [DecidableEq κ] in
/-- A generator that begins again gives an item, when there is one. -/
theorem restart_undisturbed {t : Table κ υ} (some : t.size ≠ 0) :
    ∃ item after, t.restart = (.ok item, after) ∧ t.Undisturbed after := by
  unfold restart
  rcases advance_undisturbed t.undisturbed_iterator with none | ⟨item, after, advanced, undisturbed⟩
  · exact absurd (advance_exhausted none).symm some
  · rw [advanced]
    exact ⟨item, _, rfl, undisturbed⟩

omit [DecidableEq κ] in
/-- An undisturbed generator gives an item, when there is one, and stays undisturbed. -/
theorem nextValue_undisturbed {t : Table κ υ} (some : t.size ≠ 0) {generator : ValuesGenerator}
    (undisturbed : t.Undisturbed generator) :
    ∃ item after, t.nextValue generator = (.ok item, after) ∧ t.Undisturbed after := by
  cases generator with
  | unstarted => exact restart_undisturbed some
  | finished => exact undisturbed.elim
  | suspended it =>
    simp only [nextValue]
    rcases advance_undisturbed undisturbed with none | ⟨item, after, advanced, kept⟩
    · rw [none]
      exact restart_undisturbed some
    · rw [advanced]
      exact ⟨item, _, rfl, kept⟩

omit [DecidableEq κ] in
/-- A disturbed generator raises, or it goes on and expects still less than there is. -/
theorem nextValue_disturbed {t : Table κ υ} {generator : ValuesGenerator} (disturbed : ¬t.Undisturbed generator) :
    (∃ reason, t.nextValue generator = (.error reason, .finished)) ∨
      ∃ it item after, generator = .suspended it ∧ t.nextValue generator = (.ok item, .suspended after) ∧
        after.left + 1 = it.left ∧ it.used = t.size ∧ ¬t.Undisturbed (.suspended after) := by
  cases generator with
  | unstarted => exact absurd trivial disturbed
  | finished => exact .inl ⟨.stopIteration, rfl⟩
  | suspended it =>
    by_cases used : it.used = t.size
    · have more : it.left < (t.entries.drop it.position).reduceOption.length := by
        by_contra enough
        exact disturbed ⟨used, Nat.le_of_not_lt enough⟩
      simp only [nextValue, advance, if_neg (not_not_intro used)]
      cases found : firstEntry (t.entries.drop it.position) with
      | none =>
        rw [firstEntry_eq_none found] at more
        exact absurd more (Nat.not_lt_zero _)
      | some entry =>
        obtain ⟨skipped, item⟩ := entry
        by_cases none : it.left = 0
        · left
          simp [none]
        · right
          obtain ⟨-, -, behind⟩ := found_at found
          rw [behind, List.length_cons] at more
          refine ⟨it, item, { it with position := it.position + skipped + 1, left := it.left - 1 }, rfl, ?_, ?_, used, ?_⟩
          · simp [none]
          · show it.left - 1 + 1 = it.left
            omega
          · rintro ⟨-, enough⟩
            replace enough : (t.entries.drop (it.position + skipped + 1)).reduceOption.length ≤ it.left - 1 := enough
            omega
    · left
      simp only [nextValue, advance, if_pos used]
      exact ⟨_, rfl⟩

omit [DecidableEq κ] in
/-- No more items come than there are. -/
theorem ahead_le (t : Table κ υ) (position : Nat) : (t.entries.drop position).reduceOption.length ≤ t.size := by
  unfold size
  rw [t.items_eq position, List.length_append]
  omega

end Table

end RedisPy

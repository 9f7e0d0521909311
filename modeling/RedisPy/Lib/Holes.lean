import Mathlib.Data.List.Basic

/-!
# Lists with holes

A list of which some items are known beforehand, and values for the others. Putting the known
items into the list of values one after the other, each at its own position and from the front,
fills the holes in order.
-/

namespace Holes

variable {α : Type}

/-- `items.insert(index, value)`. -/
def insertAt (items : List α) (index : Nat) (value : α) : List α :=
  items.take index ++ value :: items.drop index

/-- The known items with their positions, from position `i` on. -/
def known : Nat → List (Option α) → List (Nat × α)
  | _, [] => []
  | i, some item :: holes => (i, item) :: known (i + 1) holes
  | i, none :: holes => known (i + 1) holes

/-- The number of holes. -/
def gaps (holes : List (Option α)) : Nat := holes.countP Option.isNone

/-- The holes filled with values. -/
def fill : List (Option α) → List α → List α
  | some item :: holes, values => item :: fill holes values
  | none :: holes, value :: values => value :: fill holes values
  | _, _ => []

/-- A known item is no gap. -/
@[simp] theorem gaps_some (item : α) (holes : List (Option α)) :
    gaps (some item :: holes) = gaps holes := by simp [gaps]

/-- A hole is one. -/
@[simp] theorem gaps_none (holes : List (Option α)) : gaps (none :: holes) = gaps holes + 1 := by
  simp [gaps]

/-- An item goes in behind those in front of its position. -/
theorem insertAt_length (front items : List α) (value : α) :
    insertAt (front ++ items) front.length value = front ++ [value] ++ items := by
  simp [insertAt]

/-- Inserting the known items in order fills the holes. -/
theorem foldl_insertAt {holes : List (Option α)} {values : List α}
    (enough : values.length = gaps holes) (front : List α) :
    (known front.length holes).foldl (fun items item => insertAt items item.1 item.2)
      (front ++ values) = front ++ fill holes values := by
  induction holes generalizing values front with
  | nil =>
    have none : values = [] := List.eq_nil_of_length_eq_zero enough
    simp [known, fill, none]
  | cons hole holes ih =>
    cases hole with
    | some item =>
      have rest := ih (by simpa using enough) (front ++ [item])
      rw [List.length_append, List.length_singleton] at rest
      rw [known, List.foldl_cons, insertAt_length, rest, fill, List.append_assoc]
      rfl
    | none =>
      cases values with
      | nil => simp at enough
      | cons value values =>
        have rest := ih (by simpa using enough) (front ++ [value])
        rw [List.length_append, List.length_singleton, List.append_assoc, List.append_assoc] at rest
        exact rest

/-- Every position is filled. -/
theorem length_fill {holes : List (Option α)} {values : List α}
    (enough : values.length = gaps holes) : (fill holes values).length = holes.length := by
  induction holes generalizing values with
  | nil => rfl
  | cons hole holes ih =>
    cases hole with
    | some item =>
      have rest := ih (by simpa using enough)
      rw [fill, List.length_cons, List.length_cons, rest]
    | none =>
      cases values with
      | nil => simp at enough
      | cons value values =>
        have rest := ih (by simpa using enough)
        rw [fill, List.length_cons, List.length_cons, rest]

/-- A known item stands where it was. -/
theorem fill_known {holes : List (Option α)} {values : List α}
    (enough : values.length = gaps holes) {i : Nat} {item : α} (here : holes[i]? = some (some item)) :
    (fill holes values)[i]? = some item := by
  induction holes generalizing values i with
  | nil => simp at here
  | cons hole holes ih =>
    cases i with
    | zero =>
      have first : hole = some item := by simpa using here
      rw [first, fill]
      rfl
    | succ i =>
      have later : holes[i]? = some (some item) := by simpa using here
      cases hole with
      | some other => exact ih (by simpa using enough) later
      | none =>
        cases values with
        | nil => simp at enough
        | cons value values => exact ih (by simpa using enough) later

/-- In a hole stands the value with as many values before it as there are holes before the hole. -/
theorem fill_hole {holes : List (Option α)} {values : List α}
    (enough : values.length = gaps holes) {i : Nat} (here : holes[i]? = some none) :
    (fill holes values)[i]? = values[gaps (holes.take i)]? := by
  induction holes generalizing values i with
  | nil => simp at here
  | cons hole holes ih =>
    cases i with
    | zero =>
      have first : hole = none := by simpa using here
      cases values with
      | nil => simp [first] at enough
      | cons value values =>
        rw [first, fill]
        rfl
    | succ i =>
      have later : holes[i]? = some none := by simpa using here
      cases hole with
      | some other =>
        have rest := ih (by simpa using enough) later
        simpa [fill] using rest
      | none =>
        cases values with
        | nil => simp at enough
        | cons value values =>
          have rest := ih (by simpa using enough) later
          simpa [fill] using rest

/-- A partial change of all items succeeds if it leaves no hole. -/
theorem mapM_eq_some_iff {β : Type} {change : α → Option β} {items : List α} {values : List β} :
    items.mapM change = some values ↔ items.map change = values.map some := by
  induction items generalizing values with
  | nil => cases values <;> simp
  | cons item items ih =>
    rw [List.mapM_cons, List.map_cons]
    cases first : change item with
    | none => cases values <;> simp
    | some value =>
      cases values with
      | nil => cases items.mapM change <;> simp
      | cons head tail =>
        rw [List.map_cons, List.cons.injEq, ← ih]
        cases items.mapM change <;> simp

/-- A change of all items that may fail leaves each changed item in its place. -/
theorem getElem?_of_mapM {β ε : Type} {change : α → Except ε β} {items : List α} {values : List β}
    (changed : items.mapM change = .ok values) {i : Nat} {item : α} (here : items[i]? = some item) :
    ∃ value, values[i]? = some value ∧ change item = .ok value := by
  induction items generalizing values i with
  | nil => cases here
  | cons head items ih =>
    rw [List.mapM_cons] at changed
    cases first : change head with
    | error e =>
      rw [first] at changed
      cases changed
    | ok value =>
      rw [first] at changed
      cases rest : items.mapM change with
      | error e =>
        rw [rest] at changed
        cases changed
      | ok others =>
        rw [rest] at changed
        cases changed
        cases i with
        | zero =>
          cases here
          exact ⟨value, rfl, first⟩
        | succ i => exact ih rest here

end Holes

import RedisPy.Python.Dict

/-!
# Grouping in a dictionary

`d.setdefault(key, []).extend(values)`, for one item after another: every key keeps the values of its
items in their order.
-/

namespace RedisPy

namespace Dict

variable {κ α : Type} [BEq κ]

/-- `d.get(key, [])`. -/
def getList (d : Dict κ (List α)) (key : κ) : List α := (d.get key).getD []

/-- `d.setdefault(key, []).extend(values)`. -/
def extendAt (d : Dict κ (List α)) (key : κ) (values : List α) : Dict κ (List α) :=
  d.set key (d.getList key ++ values)

/-- The items are grouped by their keys, into a dictionary. -/
def groupInto (d : Dict κ (List α)) (items : List (κ × List α)) : Dict κ (List α) :=
  items.foldl (fun d item => d.extendAt item.1 item.2) d

/-- The items are grouped by their keys. -/
def group (items : List (κ × List α)) : Dict κ (List α) := groupInto [] items

variable [LawfulBEq κ]

/-- The values under the key that is extended. -/
theorem getList_extendAt_self (d : Dict κ (List α)) (key : κ) (values : List α) :
    (d.extendAt key values).getList key = d.getList key ++ values := by
  rw [extendAt, getList, get_set_self, Option.getD_some]

/-- The values under the other keys. -/
theorem getList_extendAt_ne (d : Dict κ (List α)) {key other : κ} (values : List α) (ne : key ≠ other) :
    (d.extendAt key values).getList other = d.getList other := by
  rw [extendAt, getList, get_set_ne _ _ ne]
  rfl

/-- A key has the values of its items, in order. -/
theorem getList_groupInto [DecidableEq κ] (items : List (κ × List α)) (d : Dict κ (List α)) (key : κ) :
    (groupInto d items).getList key =
      d.getList key ++ (items.filter fun item => item.1 = key).flatMap (·.2) := by
  induction items generalizing d with
  | nil => simp [groupInto]
  | cons item items ih =>
    have rest := ih (d.extendAt item.1 item.2)
    rw [show groupInto d (item :: items) = groupInto (d.extendAt item.1 item.2) items from rfl, rest]
    by_cases same : item.1 = key
    · subst same
      simp [getList_extendAt_self]
    · simp [getList_extendAt_ne _ _ same, same]

/-- No key is stored twice. -/
theorem Unique.groupInto {d : Dict κ (List α)} (unique : d.Unique) (items : List (κ × List α)) :
    (groupInto d items).Unique := by
  induction items generalizing d with
  | nil => exact unique
  | cons item items ih => exact ih (unique.set _ _)

/-- The keys are those of the items. -/
theorem mem_keys_groupInto {items : List (κ × List α)} {d : Dict κ (List α)} {key : κ} :
    key ∈ (groupInto d items).keys ↔ key ∈ d.keys ∨ ∃ item ∈ items, item.1 = key := by
  induction items generalizing d with
  | nil => simp [groupInto]
  | cons item items ih =>
    rw [show groupInto d (item :: items) = groupInto (d.extendAt item.1 item.2) items from rfl, ih,
      extendAt, mem_keys_set, List.exists_mem_cons_iff]
    constructor
    · rintro ((rfl | old) | new)
      · exact .inr (.inl rfl)
      · exact .inl old
      · exact .inr (.inr new)
    · rintro (old | rfl | new)
      · exact .inl (.inr old)
      · exact .inl (.inl rfl)
      · exact .inr new

/-- Extending adds the values. -/
theorem extendAt_perm (d : Dict κ (List α)) (key : κ) (values : List α) :
    ((d.extendAt key values).flatMap (·.2)).Perm (d.flatMap (·.2) ++ values) := by
  induction d with
  | nil => simp [extendAt, getList, get, set]
  | cons item d ih =>
    obtain ⟨stored, old⟩ := item
    by_cases same : stored = key
    · subst same
      simp only [extendAt, getList, get, set, BEq.rfl, ↓reduceIte, List.find?_cons_of_pos, Option.map_some,
        Option.getD_some, List.flatMap_cons, List.append_assoc]
      exact (List.perm_append_comm).append_left old
    · have apart : (stored == key) = false := beq_eq_false_iff_ne.mpr same
      have later : extendAt ((stored, old) :: d) key values = (stored, old) :: extendAt d key values := by
        simp [extendAt, getList, get, set, apart]
      rw [later, List.flatMap_cons, List.flatMap_cons, List.append_assoc]
      exact ih.append_left old

/-- Grouping keeps all values. -/
theorem groupInto_perm (items : List (κ × List α)) (d : Dict κ (List α)) :
    ((groupInto d items).flatMap (·.2)).Perm (d.flatMap (·.2) ++ items.flatMap (·.2)) := by
  induction items generalizing d with
  | nil => simp [groupInto]
  | cons item items ih =>
    have rest := ih (d.extendAt item.1 item.2)
    refine rest.trans ?_
    rw [List.flatMap_cons, ← List.append_assoc]
    exact (extendAt_perm d item.1 item.2).append_right _

/-- An entry has the values of its items. -/
theorem mem_group [DecidableEq κ] {items : List (κ × List α)} {entry : κ × List α}
    (member : entry ∈ group items) :
    entry.2 = (items.filter fun item => item.1 = entry.1).flatMap (·.2) := by
  have empty : Unique ([] : Dict κ (List α)) := List.nodup_nil
  have unique : (group items).Unique := empty.groupInto items
  have found : (group items).getList entry.1 = entry.2 := by
    rw [getList, unique.get_of_mem member, Option.getD_some]
  rw [← found, group, getList_groupInto]
  rfl

end Dict

end RedisPy

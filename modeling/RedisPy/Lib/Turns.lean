import Mathlib.Data.Int.CardIntervalMod
import Mathlib.Data.List.Rotate

/-!
# Taking turns

Keys are taken from a list in their order, again and again, starting anywhere. However long this
goes on, no key is taken two times more than another.
-/

namespace Turns

variable {κ : Type}

/-- The keys are taken in turn, and the first one is the one at a position. -/
def InTurn (keys : List κ) : Nat → List κ → Prop
  | _, [] => True
  | turn, key :: taken => keys[turn % keys.length]? = some key ∧ InTurn keys (turn + 1) taken

variable {keys : List κ}

/-- Only the position in the list matters. -/
theorem InTurn.congr {turn other : Nat} (same : turn % keys.length = other % keys.length) {taken : List κ}
    (inTurn : InTurn keys turn taken) : InTurn keys other taken := by
  induction taken generalizing turn other with
  | nil => trivial
  | cons key taken ih =>
    obtain ⟨first, rest⟩ := inTurn
    refine ⟨same ▸ first, ih ?_ rest⟩
    rw [Nat.add_mod, same, ← Nat.add_mod]

/-- What is taken later is taken from where the turns are then. -/
theorem inTurn_append {turn : Nat} {first second : List κ} :
    InTurn keys turn (first ++ second) ↔ InTurn keys turn first ∧ InTurn keys (turn + first.length) second := by
  induction first generalizing turn with
  | nil => simp [InTurn]
  | cons key first ih =>
    rw [List.cons_append, InTurn, InTurn, ih, List.length_cons, and_assoc,
      show turn + 1 + first.length = turn + (first.length + 1) by omega]

/-- What is taken at a turn is at its position. -/
theorem InTurn.getElem? {turn : Nat} {taken : List κ} (inTurn : InTurn keys turn taken) {i : Nat}
    (inside : i < taken.length) : taken[i]? = keys[(turn + i) % keys.length]? := by
  induction taken generalizing turn i with
  | nil => cases inside
  | cons key taken ih =>
    obtain ⟨first, rest⟩ := inTurn
    cases i with
    | zero => exact first.symm
    | succ i =>
      rw [List.getElem?_cons_succ, ih rest (Nat.lt_of_succ_lt_succ inside),
        show turn + 1 + i = turn + (i + 1) by omega]

/-- A full round takes the keys in their order, from one of them on. -/
theorem InTurn.rotate {turn : Nat} {taken : List κ} (inTurn : InTurn keys turn taken)
    (round : taken.length = keys.length) : taken = keys.rotate turn := by
  refine List.ext_getElem? fun i => ?_
  by_cases inside : i < taken.length
  · rw [inTurn.getElem? inside, List.getElem?_rotate (round ▸ inside), Nat.add_comm]
  · rw [List.getElem?_eq_none (by omega), List.getElem?_eq_none (by rw [List.length_rotate]; omega)]

/-- Wherever it starts, a full round takes each key once. -/
theorem InTurn.window {turn : Nat} {taken window : List κ} (inTurn : InTurn keys turn taken)
    (within : window <:+: taken) (round : window.length = keys.length) : window.Perm keys := by
  obtain ⟨before, after, rfl⟩ := within
  have fromHere := (inTurn_append.mp (inTurn_append.mp inTurn).1).2
  rw [fromHere.rotate round]
  exact List.rotate_perm _ _

variable [BEq κ] [LawfulBEq κ]

/-- A key is taken at the turns of its position. -/
theorem InTurn.count (unique : keys.Nodup) {position : Nat} {key : κ} (there : keys[position]? = some key)
    {turn : Nat} {taken : List κ} (inTurn : InTurn keys turn taken) :
    taken.count key + Nat.count (· ≡ position [MOD keys.length]) turn =
      Nat.count (· ≡ position [MOD keys.length]) (turn + taken.length) := by
  induction taken generalizing turn with
  | nil => simp
  | cons first taken ih =>
    obtain ⟨here, rest⟩ := inTurn
    have later := ih rest
    have inside : position < keys.length := (List.getElem?_eq_some_iff.mp there).1
    have turned : first = key ↔ turn ≡ position [MOD keys.length] := by
      rw [Nat.ModEq, Nat.mod_eq_of_lt inside]
      constructor
      · rintro rfl
        exact ((List.getElem?_inj inside unique).mp (there.trans here.symm)).symm
      · intro same
        rw [same, there] at here
        exact (Option.some.inj here).symm
    rw [Nat.count_succ] at later
    rw [List.count_cons, List.length_cons, show turn + (taken.length + 1) = turn + 1 + taken.length by omega, ← later]
    simp only [beq_iff_eq, turned]
    omega

/-- No key is taken two times more than another. -/
theorem InTurn.count_le (unique : keys.Nodup) {key other : κ} (member : key ∈ keys) (also : other ∈ keys)
    {turn : Nat} {taken : List κ} (inTurn : InTurn keys turn taken) :
    taken.count key ≤ taken.count other + 1 := by
  obtain ⟨first, there⟩ := List.getElem?_of_mem member
  obtain ⟨second, also⟩ := List.getElem?_of_mem also
  have inside : first < keys.length := (List.getElem?_eq_some_iff.mp there).1
  have within : second < keys.length := (List.getElem?_eq_some_iff.mp also).1
  have one := inTurn.count unique there
  have two := inTurn.count unique also
  have some : 0 < keys.length := by omega
  simp only [Nat.count_modEq_card _ some, Nat.mod_eq_of_lt inside, Nat.mod_eq_of_lt within] at one two
  -- whole rounds count the same, and the parts of rounds at both ends are shorter than one
  split_ifs at one two <;> omega

end Turns

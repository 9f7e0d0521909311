import Mathlib.Data.List.Basic

/-!
# Decoders of concatenated encodings

A decoder reads one value off the front of a stream. It recovers an encoder when it reads
every encoded value back and leaves what follows it alone; then values that are encoded one
behind the other are read back in order, counted or up to the end of the stream.
-/

namespace Wire

variable {α β ι : Type}

/-- A decoder of one value at the front of a stream. -/
abbrev Decoder (ι α : Type) := List ι → Option (α × List ι)

/-- Every encoded value is read back, whatever follows it. -/
def Recovers (decode : Decoder ι α) (encode : α → List ι) : Prop :=
  ∀ value rest, decode (encode value ++ rest) = some (value, rest)

/-- Read a value, and then one that may depend on it. -/
def andThen (first : Decoder ι α) (second : α → Decoder ι β) : Decoder ι β := fun stream =>
  match first stream with
  | some (value, rest) => second value rest
  | none => none

/-- What was encoded first is read first. -/
theorem andThen_append {first : Decoder ι α} {encode : α → List ι} (recovers : Recovers first encode)
    (second : α → Decoder ι β) (value : α) (rest : List ι) :
    andThen first second (encode value ++ rest) = second value rest := by
  rw [andThen, recovers]

/-- Read a number of values. -/
def counted (decode : Decoder ι α) : Nat → Decoder ι (List α)
  | 0, stream => some ([], stream)
  | count + 1, stream =>
    match decode stream with
    | some (value, rest) => (counted decode count rest).map fun read => (value :: read.1, read.2)
    | none => none

/-- As many values as were encoded are read back. -/
theorem counted_flatMap {decode : Decoder ι α} {encode : α → List ι}
    (recovers : Recovers decode encode) (values : List α) (rest : List ι) :
    counted decode values.length (values.flatMap encode ++ rest) = some (values, rest) := by
  induction values with
  | nil => rfl
  | cons value values ih =>
    have first := recovers value (values.flatMap encode ++ rest)
    rw [List.flatMap_cons, List.append_assoc, List.length_cons, counted, first]
    simp only [ih, Option.map_some]

/-- Read values up to the end of the stream; the fuel bounds their number. -/
def untilEnd (decode : Decoder ι α) : Nat → List ι → Option (List α)
  | _, [] => some []
  | 0, _ :: _ => none
  | fuel + 1, stream =>
    match decode stream with
    | some (value, rest) => (untilEnd decode fuel rest).map (value :: ·)
    | none => none

/-- All values that were encoded are read back, when none is encoded by nothing. -/
theorem untilEnd_flatMap {decode : Decoder ι α} {encode : α → List ι}
    (recovers : Recovers decode encode) (some : ∀ value, encode value ≠ []) (values : List α)
    {fuel : Nat} (enough : values.length ≤ fuel) :
    untilEnd decode fuel (values.flatMap encode) = .some values := by
  induction values generalizing fuel with
  | nil =>
    cases fuel <;> rfl
  | cons value values ih =>
    obtain ⟨fuel, rfl⟩ : ∃ less, fuel = less + 1 :=
      Nat.exists_eq_succ_of_ne_zero (by rw [List.length_cons] at enough; omega)
    have within : values.length ≤ fuel := by
      rw [List.length_cons] at enough
      omega
    have first := recovers value (values.flatMap encode)
    obtain ⟨head, tail, cons⟩ := List.exists_cons_of_ne_nil (some value)
    rw [List.flatMap_cons, cons, List.cons_append, untilEnd, ← List.cons_append, ← cons, first]
    simp only [ih within, Option.map_some]
    simp

/-- There are no more values than letters. -/
theorem length_le_flatMap {encode : α → List ι} (some : ∀ value, encode value ≠ [])
    (values : List α) : values.length ≤ (values.flatMap encode).length := by
  induction values with
  | nil => exact Nat.zero_le _
  | cons value values ih =>
    have one : 0 < (encode value).length := List.length_pos_of_ne_nil (some value)
    rw [List.flatMap_cons, List.length_append, List.length_cons]
    omega

end Wire

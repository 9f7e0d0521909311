import RedisPy.Python.Text
import Mathlib.Data.List.TakeDrop

/-!
# Splitting text

The splitting methods of `str`, and what they make of a text that was joined from parts.
-/

namespace RedisPy

/-- A blank of `str.split()`. -/
def isUnicodeSpace (c : Char) : Bool :=
  isSpace c || (28 ≤ c.toNat && c.toNat ≤ 31) || wideSpaces.contains c.toNat

/-- `text.split()`. -/
def splitText (text : Text) : List Text := (text.splitOnP isUnicodeSpace).filter (· ≠ [])

/-- `text.strip()`. -/
def stripText (text : Text) : Text :=
  ((text.dropWhile isUnicodeSpace).reverse.dropWhile isUnicodeSpace).reverse

/-- `text.split(sep, 1)`. -/
def splitOnce (sep : Char) (text : Text) : List Text :=
  match text.span (· != sep) with
  | (before, _ :: after) => [before, after]
  | (before, []) => [before]

/-- The characters that end a line. -/
def isLineBoundary (c : Char) : Bool :=
  (10 ≤ c.toNat && c.toNat ≤ 13) || (0x1c ≤ c.toNat && c.toNat ≤ 0x1e) ||
    [0x85, 0x2028, 0x2029].contains c.toNat

/-- `text.splitlines()`. -/
def splitlines : Text → List Text
  | [] => []
  | '\r' :: '\n' :: rest => [] :: splitlines rest
  | c :: rest =>
    if isLineBoundary c then [] :: splitlines rest
    else
      match splitlines rest with
      | [] => [[c]]
      | line :: lines => (c :: line) :: lines

/-! ## Words -/

/-- Printable ASCII is no blank. -/
theorem isUnicodeSpace_of_printable {c : Char} (printable : 33 ≤ c.toNat ∧ c.toNat ≤ 126) :
    isUnicodeSpace c = false := by
  have wide : wideSpaces.contains c.toNat = false := by
    have large : ∀ n ∈ wideSpaces, 126 < n := by decide
    rw [← Bool.not_eq_true, List.contains_iff_mem]
    intro member
    have above := large _ member
    omega
  have blank : (c == ' ') = false := by
    rw [beq_eq_false_iff_ne]
    rintro rfl
    exact absurd printable (by decide)
  unfold isUnicodeSpace isSpace
  simp only [wide, blank, Bool.false_or, Bool.or_false, Bool.or_eq_false_iff, Bool.and_eq_false_iff,
    decide_eq_false_iff_not]
  omega

/-- A leading blank does not matter. -/
theorem splitText_cons_space {c : Char} (space : isUnicodeSpace c = true) (text : Text) :
    splitText (c :: text) = splitText text := by
  have split : (c :: text).splitOnP isUnicodeSpace = [] :: text.splitOnP isUnicodeSpace :=
    List.splitOnP_append_cons_of_forall_mem (fun _ member => absurd member List.not_mem_nil) c space text
  rw [splitText, split]
  rfl

/-- A trailing blank does not matter. -/
theorem splitText_append_space {c : Char} (space : isUnicodeSpace c = true) (text : Text) :
    splitText (text ++ [c]) = splitText text := by
  rw [splitText, List.splitOnP_append_cons text [] space, List.splitOnP_nil, List.filter_append]
  exact List.append_nil _

/-- Leading blanks do not matter. -/
theorem splitText_dropWhile (text : Text) :
    splitText (text.dropWhile isUnicodeSpace) = splitText text := by
  induction text with
  | nil => rfl
  | cons c rest ih =>
    by_cases space : isUnicodeSpace c = true
    · rw [List.dropWhile_cons_of_pos space, ih, splitText_cons_space space]
    · rw [List.dropWhile_cons_of_neg space]

/-- Trailing blanks do not matter. -/
theorem splitText_dropWhile_reverse (text : Text) :
    splitText (text.dropWhile isUnicodeSpace).reverse = splitText text.reverse := by
  induction text with
  | nil => rfl
  | cons c rest ih =>
    by_cases space : isUnicodeSpace c = true
    · rw [List.dropWhile_cons_of_pos space, ih, List.reverse_cons, splitText_append_space space]
    · rw [List.dropWhile_cons_of_neg space]

/-- The words of a stripped text are its words. -/
theorem splitText_stripText (text : Text) : splitText (stripText text) = splitText text := by
  rw [stripText, splitText_dropWhile_reverse, List.reverse_reverse, splitText_dropWhile]

/-- Words that were joined by spaces are split again. -/
theorem splitText_intercalate {words : List Text} (nonempty : ∀ word ∈ words, word ≠ [])
    (solid : ∀ word ∈ words, ∀ c ∈ word, isUnicodeSpace c = false) :
    splitText ([' '].intercalate words) = words := by
  have keeps {word : Text} (other : word ≠ []) : decide (word ≠ []) = true := decide_eq_true other
  induction words with
  | nil => rfl
  | cons word words ih =>
    have first : decide (word ≠ []) = true := keeps (nonempty word List.mem_cons_self)
    have dense := solid word List.mem_cons_self
    cases words with
    | nil =>
      rw [List.intercalate_singleton, splitText, List.splitOnP_eq_singleton dense, List.filter_singleton, first]
      rfl
    | cons next words =>
      have rest := ih (fun other member => nonempty other (List.mem_cons_of_mem _ member))
        fun other member => solid other (List.mem_cons_of_mem _ member)
      have split : ([' '].intercalate (word :: next :: words)).splitOnP isUnicodeSpace =
          word :: ([' '].intercalate (next :: words)).splitOnP isUnicodeSpace := by
        rw [List.intercalate_cons_cons, List.append_assoc]
        exact List.splitOnP_append_cons_of_forall_mem dense ' ' (by decide) _
      rw [splitText, split, List.filter_cons_of_pos (p := fun word : Text => decide (word ≠ [])) first]
      exact congrArg (word :: ·) rest

/-- Texts with a separator before each but the first. -/
theorem intercalate_cons_eq_flatMap (sep : Char) (part : Text) (parts : List Text) :
    [sep].intercalate (part :: parts) = part ++ parts.flatMap (sep :: ·) := by
  induction parts generalizing part with
  | nil => rw [List.intercalate_singleton, List.flatMap_nil, List.append_nil]
  | cons next parts ih => rw [List.intercalate_cons_cons, ih, List.flatMap_cons, List.append_assoc]; rfl

/-- A joined text has the characters of its parts, and of the separators. -/
theorem mem_intercalate_singleton {α : Type} {sep c : α} {parts : List (List α)}
    (inside : c ∈ [sep].intercalate parts) : c = sep ∨ ∃ part ∈ parts, c ∈ part := by
  induction parts with
  | nil => cases inside
  | cons part parts ih =>
    cases parts with
    | nil =>
      rw [List.intercalate_singleton] at inside
      exact .inr ⟨part, List.mem_cons_self, inside⟩
    | cons next parts =>
      rw [List.intercalate_cons_cons, List.append_assoc, List.mem_append, List.singleton_append,
        List.mem_cons] at inside
      rcases inside with here | same | later
      · exact .inr ⟨part, List.mem_cons_self, here⟩
      · exact .inl same
      · rcases ih later with same | ⟨other, member, there⟩
        · exact .inl same
        · exact .inr ⟨other, List.mem_cons_of_mem part member, there⟩

/-- No blank is in a part between blanks. -/
theorem not_mem_splitOnP {α : Type} {p : α → Bool} {text : List α} {part : List α}
    (member : part ∈ text.splitOnP p) : ∀ c ∈ part, p c = false := by
  induction text generalizing part with
  | nil =>
    rw [List.splitOnP_nil, List.mem_singleton] at member
    subst member
    exact fun _ inside => absurd inside List.not_mem_nil
  | cons c rest ih =>
    rw [List.splitOnP_cons_eq_if_modifyHead] at member
    by_cases splits : p c = true
    · rw [if_pos splits, List.mem_cons] at member
      rcases member with rfl | later
      · exact fun _ inside => absurd inside List.not_mem_nil
      · exact ih later
    · rw [if_neg splits] at member
      obtain ⟨head, tail, shape⟩ := List.exists_cons_of_ne_nil (List.splitOnP_ne_nil p rest)
      rw [shape, List.modifyHead_cons, List.mem_cons] at member
      rcases member with rfl | later
      · intro d inside
        rcases List.mem_cons.mp inside with rfl | inner
        · exact Bool.eq_false_iff.mpr splits
        · exact ih (by rw [shape]; exact List.mem_cons_self) d inner
      · exact ih (by rw [shape]; exact List.mem_cons_of_mem head later)

/-- No blank is in a word. -/
theorem not_space_of_mem_splitText {text word : Text} (member : word ∈ splitText text) :
    ∀ c ∈ word, isUnicodeSpace c = false :=
  not_mem_splitOnP (List.mem_filter.mp member).1

/-! ## One split -/

/-- The first character without the property ends the part that has it. -/
theorem span_stop {p : Char → Bool} {before after : Text} (passes : ∀ c ∈ before, p c = true)
    (stops : ∀ c, after.head? = some c → p c = false) : (before ++ after).span p = (before, after) := by
  rw [List.span_eq_takeWhile_dropWhile, List.takeWhile_append_of_pos passes, List.dropWhile_append_of_pos passes]
  cases after with
  | nil => rw [List.takeWhile_nil, List.dropWhile_nil, List.append_nil]
  | cons stop rest =>
    have ends := stops stop rfl
    rw [List.takeWhile_cons_of_neg (by rw [ends]; decide), List.dropWhile_cons_of_neg (by rw [ends]; decide),
      List.append_nil]

/-- The part before a character without the property. -/
theorem span_append {p : Char → Bool} {before : Text} (passes : ∀ c ∈ before, p c = true) {stop : Char}
    (stops : p stop = false) (after : Text) :
    (before ++ stop :: after).span p = (before, stop :: after) :=
  span_stop passes fun _ same => Option.some.inj same ▸ stops

/-- A separator ends the part without it. -/
theorem span_separator {sep : Char} {before : Text} (plain : sep ∉ before) (after : Text) :
    (before ++ sep :: after).span (· != sep) = (before, sep :: after) := by
  refine span_append (fun c member => ?_) (by rw [bne_eq_false_iff_eq]) after
  rw [bne_iff_ne]
  rintro rfl
  exact plain member

/-- The first separator splits. -/
theorem splitOnce_append {sep : Char} {before : Text} (plain : sep ∉ before) (after : Text) :
    splitOnce sep (before ++ sep :: after) = [before, after] := by
  rw [splitOnce, span_separator plain]

/-- From the end, a separator ends the part without it. -/
theorem span_reverse {sep : Char} {after : Text} (plain : sep ∉ after) (before : Text) :
    (before ++ sep :: after).reverse.span (· != sep) = (after.reverse, sep :: before.reverse) := by
  rw [List.reverse_append, List.reverse_cons, List.append_assoc, List.singleton_append,
    span_separator fun inside => plain (List.mem_reverse.mp inside)]

/-- The last colon splits. -/
theorem rsplitColon_append {after : Text} (plain : ':' ∉ after) (before : Text) :
    rsplitColon (before ++ ':' :: after) = some (before, after) := by
  rw [rsplitColon, span_reverse plain]
  dsimp only
  rw [List.reverse_reverse, List.reverse_reverse]

/-! ## Lines -/

/-- A line ends at its line feed. -/
theorem splitlines_append {line : Text} (plain : ∀ c ∈ line, isLineBoundary c = false) (rest : Text) :
    splitlines (line ++ '\n' :: rest) = line :: splitlines rest := by
  induction line with
  | nil => rfl
  | cons c line ih =>
    have inner := ih fun d member => plain d (List.mem_cons_of_mem c member)
    have other := plain c List.mem_cons_self
    have notReturn : c ≠ '\r' := by
      rintro rfl
      exact absurd other (by decide)
    rw [List.cons_append, splitlines.eq_3 _ _ (fun _ same _ => notReturn same), if_neg (by rw [other]; decide),
      inner]

/-- Lines that each end with a line feed are split again. -/
theorem splitlines_flatMap {lines : List Text}
    (plain : ∀ line ∈ lines, ∀ c ∈ line, isLineBoundary c = false) :
    splitlines (lines.flatMap (· ++ ['\n'])) = lines := by
  induction lines with
  | nil => rfl
  | cons line lines ih =>
    rw [List.flatMap_cons, List.append_assoc, List.singleton_append,
      splitlines_append (plain line List.mem_cons_self),
      ih fun other member => plain other (List.mem_cons_of_mem line member)]

/-- A character that ends a line is a blank. -/
theorem isUnicodeSpace_of_isLineBoundary {c : Char} (boundary : isLineBoundary c = true) :
    isUnicodeSpace c = true := by
  unfold isLineBoundary at boundary
  unfold isUnicodeSpace isSpace
  simp only [Bool.or_eq_true, Bool.and_eq_true, decide_eq_true_eq, List.contains_iff_mem, List.mem_cons,
    List.not_mem_nil, or_false] at boundary
  simp only [Bool.or_eq_true, Bool.and_eq_true, decide_eq_true_eq, List.contains_iff_mem]
  rcases boundary with (control | separator) | wide
  · exact .inl (.inl (.inr ⟨by omega, control.2⟩))
  · exact .inl (.inr ⟨separator.1, by omega⟩)
  · refine .inr ?_
    rcases wide with same | same | same <;> rw [same] <;> decide

end RedisPy

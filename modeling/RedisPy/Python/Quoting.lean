import RedisPy.Python.Utf8

/-!
# Percent encoding

`urllib.parse.quote` and `unquote`. Reading a quoted text once gives the text; reading a text that is not
quoted changes it exactly if it has a percent sign that two hexadecimal digits follow.
-/

namespace RedisPy

/-! ## Quoting -/

/-- The characters that `quote` never changes. -/
def alwaysSafe (c : Char) : Bool := c.isAlphanum || ['_', '.', '-', '~'].contains c

/-- A hexadecimal digit. -/
def hexDigit (n : Nat) : Char := if n < 10 then Char.ofNat (48 + n) else Char.ofNat (55 + n)

/-- What one octet becomes. -/
def quoteByte (safe : List Char) (byte : UInt8) : Text :=
  let c := Char.ofNat byte.toNat
  if byte.toNat < 128 && (alwaysSafe c || safe.contains c) then [c]
  else ['%', hexDigit (byte.toNat / 16), hexDigit (byte.toNat % 16)]

/-- `quote(text, safe)`. -/
def quote (safe : List Char) (text : Text) : Text := (utf8 text).flatMap (quoteByte safe)

/-! ## Unquoting -/

/-- The value of a hexadecimal digit. -/
def hexValue (c : Char) : Option Nat :=
  if c.isDigit then some (c.toNat - 48)
  else if 'A' ≤ c ∧ c ≤ 'F' then some (c.toNat - 55)
  else if 'a' ≤ c ∧ c ≤ 'f' then some (c.toNat - 87)
  else none

/-- `unquote_to_bytes` of an ASCII string. -/
def unquoteToBytes : Text → Bytes
  | [] => []
  | c :: rest =>
    if c = '%' then
      match rest with
      | high :: low :: after =>
        match hexValue high, hexValue low with
        | some h, some l => (16 * h + l).toUInt8 :: unquoteToBytes after
        | _, _ => c.toNat.toUInt8 :: unquoteToBytes (high :: low :: after)
      | rest => c.toNat.toUInt8 :: unquoteToBytes rest
    else c.toNat.toUInt8 :: unquoteToBytes rest

/-- `unquote` of what follows the ASCII characters `run`. -/
def unquoteFrom (run : Text) : Text → Text
  | [] => decodeReplace (unquoteToBytes run)
  | c :: rest =>
    if c.toNat < 128 then unquoteFrom (run ++ [c]) rest
    else decodeReplace (unquoteToBytes run) ++ c :: unquoteFrom [] rest

/-- `unquote(text)`. -/
def unquote (text : Text) : Text := if '%' ∈ text then unquoteFrom [] text else text

/-- The text has a percent sign that two hexadecimal digits follow. -/
def HasEscape (text : Text) : Prop :=
  ∃ before high low after, text = before ++ '%' :: high :: low :: after ∧
    (hexValue high).isSome = true ∧ (hexValue low).isSome = true

/-! ## Escapes -/

/-- An escape after another character. -/
theorem HasEscape.cons {c : Char} {rest : Text} (escape : HasEscape rest) : HasEscape (c :: rest) := by
  obtain ⟨before, high, low, after, rfl, digits⟩ := escape
  exact ⟨c :: before, high, low, after, rfl, digits⟩

/-- An escape after other text. -/
theorem HasEscape.append_left {rest : Text} (escape : HasEscape rest) (run : Text) : HasEscape (run ++ rest) := by
  obtain ⟨before, high, low, after, rfl, digits⟩ := escape
  exact ⟨run ++ before, high, low, after, (List.append_assoc _ _ _).symm, digits⟩

/-- An escape before other text. -/
theorem HasEscape.append_right {run rest : Text} (escape : HasEscape run) : HasEscape (run ++ rest) := by
  obtain ⟨before, high, low, after, rfl, digits⟩ := escape
  exact ⟨before, high, low, after ++ rest, List.append_assoc _ _ _, digits⟩

/-- Before a character that does not start an escape. -/
theorem hasEscape_cons_iff {c : Char} {rest : Text}
    (other : ∀ high low after, c = '%' → rest = high :: low :: after →
      ¬((hexValue high).isSome = true ∧ (hexValue low).isSome = true)) :
    HasEscape (c :: rest) ↔ HasEscape rest := by
  refine ⟨?_, HasEscape.cons⟩
  rintro ⟨before, high, low, after, whole, digits⟩
  cases before with
  | nil =>
    cases whole
    exact absurd digits (other high low after rfl rfl)
  | cons d before =>
    cases whole
    exact ⟨before, high, low, after, rfl, digits⟩

/-- A character that is no hexadecimal digit. -/
theorem hexValue_wide {c : Char} (wide : 128 ≤ c.toNat) : hexValue c = none := by
  unfold hexValue
  have digit : c.isDigit = false := by
    simp only [Char.isDigit, Bool.and_eq_false_iff, decide_eq_false_iff_not, ge_iff_le]
    exact .inr fun low => absurd (show c.toNat ≤ 57 from low) (by omega)
  rw [if_neg (by rw [digit]; decide), if_neg fun range => ?_, if_neg fun range => ?_]
  · exact absurd (show c.toNat ≤ 102 from range.2) (by omega)
  · exact absurd (show c.toNat ≤ 70 from range.2) (by omega)

/-- An escape lies before or after a character outside ASCII. -/
theorem hasEscape_append {run rest : Text} {c : Char} (wide : 128 ≤ c.toNat)
    (escape : HasEscape (run ++ c :: rest)) : HasEscape run ∨ HasEscape rest := by
  have noDigit := hexValue_wide wide
  have noPercent : c ≠ '%' := by
    rintro rfl
    exact absurd wide (by decide)
  induction run with
  | nil => exact .inr ((hasEscape_cons_iff fun _ _ _ same => absurd same noPercent).mp escape)
  | cons d run ih =>
    obtain ⟨before, high, low, after, whole, digits⟩ := escape
    cases before with
    | cons e before =>
      obtain ⟨rfl, later⟩ := List.cons.inj whole
      rcases ih ⟨before, high, low, after, later, digits⟩ with ⟨front, high, low, back, rfl, inner⟩ | there
      · exact .inl ⟨d :: front, high, low, back, rfl, inner⟩
      · exact .inr there
    | nil =>
      obtain ⟨rfl, later⟩ := List.cons.inj whole
      rcases run with _ | ⟨first, _ | ⟨second, run⟩⟩
      · obtain ⟨rfl, -⟩ := List.cons.inj later
        exact absurd digits.1 (by rw [noDigit]; decide)
      · obtain ⟨rfl, -⟩ := List.cons.inj (List.cons.inj later).2
        exact absurd digits.2 (by rw [noDigit]; decide)
      · obtain ⟨rfl, rest⟩ := List.cons.inj later
        obtain ⟨rfl, -⟩ := List.cons.inj rest
        exact .inl ⟨[], first, second, run, rfl, digits⟩

/-- Decoding an octet string makes it no longer. -/
theorem decodeReplace_length (data : Bytes) : (decodeReplace data).length ≤ data.length := by
  fun_induction decodeReplace data <;> simp only [List.length_cons, List.length_nil] at * <;> omega

/-- Reading escapes makes a text no longer. -/
theorem unquoteToBytes_length (text : Text) : (unquoteToBytes text).length ≤ text.length := by
  fun_induction unquoteToBytes text <;> simp only [List.length_cons, List.length_nil] at * <;> omega

/-- Reading an escape makes a text shorter. -/
theorem unquoteToBytes_shorter {text : Text} (escape : HasEscape text) :
    (unquoteToBytes text).length < text.length := by
  fun_induction unquoteToBytes text with
  | case1 =>
    obtain ⟨before, high, low, after, whole, -⟩ := escape
    exact absurd whole.symm (List.append_ne_nil_of_right_ne_nil _ (List.cons_ne_nil _ _))
  | case2 high low after h l =>
    have rest := unquoteToBytes_length after
    simp only [List.length_cons]
    omega
  | case3 high low after noDigits ih =>
    have later := ih ((hasEscape_cons_iff ?_).mp escape)
    · simp only [List.length_cons] at later ⊢
      omega
    · rintro _ _ _ - ⟨⟩ ⟨first, second⟩
      obtain ⟨h, isHigh⟩ := Option.isSome_iff_exists.mp first
      obtain ⟨l, isLow⟩ := Option.isSome_iff_exists.mp second
      exact noDigits h l isHigh isLow
  | case4 rest short ih =>
    have later := ih ((hasEscape_cons_iff fun high low after _ same => absurd same (short high low after)).mp escape)
    simp only [List.length_cons]
    omega
  | case5 c rest other ih =>
    have later := ih ((hasEscape_cons_iff fun _ _ _ same => absurd same other).mp escape)
    simp only [List.length_cons]
    omega

/-- Without an escape, the octets are the characters. -/
theorem unquoteToBytes_plain {text : Text} (plain : ¬HasEscape text) :
    unquoteToBytes text = text.map fun c => c.toNat.toUInt8 := by
  fun_induction unquoteToBytes text with
  | case1 => rfl
  | case2 high low after h l isLow isHigh =>
    exact absurd ⟨[], high, low, after, rfl, by rw [isHigh]; rfl, by rw [isLow]; rfl⟩ plain
  | case3 high low after noDigits ih =>
    rw [ih fun inside => plain inside.cons]
    rfl
  | case4 rest short ih => rw [ih (fun inside => plain inside.cons), List.map_cons]
  | case5 c rest other ih => rw [ih (fun inside => plain inside.cons), List.map_cons]

/-- ASCII octets are read as their characters. -/
theorem decodeReplace_chars {text : Text} (narrow : ∀ c ∈ text, c.toNat < 128) :
    decodeReplace (text.map fun c => c.toNat.toUInt8) = text := by
  induction text with
  | nil => rfl
  | cons c rest ih =>
    have low : c.toNat < 128 := narrow c List.mem_cons_self
    have octet : c.toNat.toUInt8.toNat = c.toNat := toNat_octet (by omega)
    rw [List.map_cons, decodeReplace_one (by omega), octet, Char.ofNat_toNat,
      ih fun other member => narrow other (List.mem_cons_of_mem _ member)]

/-! ## Reading once more -/

/-- Reading makes a text no longer. -/
theorem unquoteFrom_length (run text : Text) : (unquoteFrom run text).length ≤ run.length + text.length := by
  induction text generalizing run with
  | nil => exact Nat.le_trans (decodeReplace_length _) (unquoteToBytes_length run)
  | cons c rest ih =>
    rw [unquoteFrom]
    split
    · have later := ih (run ++ [c])
      rw [List.length_append, List.length_singleton] at later
      rw [List.length_cons]
      omega
    · have later := ih []
      have earlier := Nat.le_trans (decodeReplace_length _) (unquoteToBytes_length run)
      rw [List.length_nil] at later
      rw [List.length_append, List.length_cons, List.length_cons]
      omega

/-- Reading a text with an escape makes it shorter. -/
theorem unquoteFrom_shorter {run text : Text} (escape : HasEscape (run ++ text)) :
    (unquoteFrom run text).length < run.length + text.length := by
  induction text generalizing run with
  | nil =>
    rw [List.append_nil] at escape
    exact Nat.lt_of_le_of_lt (decodeReplace_length _) (unquoteToBytes_shorter escape)
  | cons c rest ih =>
    rw [unquoteFrom]
    split
    · have inside : HasEscape (run ++ [c] ++ rest) := by
        rwa [List.append_assoc, List.singleton_append]
      have later := ih inside
      rw [List.length_append, List.length_singleton] at later
      rw [List.length_cons]
      omega
    · next wide =>
      have first := decodeReplace_length (unquoteToBytes run)
      rw [List.length_append, List.length_cons, List.length_cons]
      rcases hasEscape_append (by omega) escape with early | late
      · have shorter := unquoteToBytes_shorter early
        have later := unquoteFrom_length [] rest
        rw [List.length_nil] at later
        omega
      · have same := unquoteToBytes_length run
        have inside : HasEscape ([] ++ rest) := late
        have shorter := ih inside
        rw [List.length_nil] at shorter
        omega

/-- Without an escape, reading changes nothing. -/
theorem unquoteFrom_plain {run text : Text} (plain : ¬HasEscape (run ++ text))
    (narrow : ∀ c ∈ run, c.toNat < 128) : unquoteFrom run text = run ++ text := by
  induction text generalizing run with
  | nil =>
    rw [List.append_nil] at plain ⊢
    rw [unquoteFrom, unquoteToBytes_plain plain, decodeReplace_chars narrow]
  | cons c rest ih =>
    rw [unquoteFrom]
    split
    · next low =>
      have all : ∀ d ∈ run ++ [c], d.toNat < 128 := by
        intro d member
        rcases List.mem_append.mp member with early | here
        · exact narrow d early
        · rw [List.mem_singleton.mp here]
          exact low
      have regroup : run ++ [c] ++ rest = run ++ c :: rest := by
        rw [List.append_assoc, List.singleton_append]
      rw [ih (by rwa [regroup]) all, regroup]
    · have before : ¬HasEscape run := fun escape => plain escape.append_right
      have after : ¬HasEscape ([] ++ rest) := fun escape => plain (escape.cons.append_left run)
      rw [unquoteToBytes_plain before, decodeReplace_chars narrow, ih after fun _ member => by cases member]
      rfl

/-- Reading changes a text exactly if it has an escape. -/
theorem unquote_eq_self_iff (text : Text) : unquote text = text ↔ ¬HasEscape text := by
  constructor
  · intro same escape
    have inside : HasEscape ([] ++ text) := escape
    have shorter := unquoteFrom_shorter inside
    obtain ⟨before, high, low, after, whole, -⟩ := escape
    have percent : '%' ∈ text := by
      rw [whole]
      exact List.mem_append_right _ List.mem_cons_self
    rw [unquote, if_pos percent] at same
    rw [same, List.length_nil, Nat.zero_add] at shorter
    exact Nat.lt_irrefl _ shorter
  · intro plain
    unfold unquote
    split
    · exact unquoteFrom_plain plain fun _ member => by cases member
    · rfl

/-! ## Reading what was quoted -/

/-- A hexadecimal digit has its value. -/
theorem hexValue_hexDigit {n : Nat} (small : n < 16) : hexValue (hexDigit n) = some n := by
  have all : ∀ i : Fin 16, hexValue (hexDigit i) = some i.val := by decide
  exact all ⟨n, small⟩

/-- A hexadecimal digit is a character that is always safe. -/
theorem alwaysSafe_hexDigit {n : Nat} (small : n < 16) : alwaysSafe (hexDigit n) = true := by
  have all : ∀ i : Fin 16, alwaysSafe (hexDigit i) = true := by decide
  exact all ⟨n, small⟩

/-- A character that is always safe is ASCII. -/
theorem alwaysSafe_narrow {c : Char} (always : alwaysSafe c = true) : c.toNat < 128 := by
  rw [alwaysSafe, Bool.or_eq_true, List.contains_iff_mem] at always
  rcases always with alnum | mark
  · have range := isAlphanum_range alnum
    omega
  · have all : (['_', '.', '-', '~'].all fun c => c.toNat < 128) = true := by decide
    exact of_decide_eq_true (List.all_eq_true.mp all c mark)

/-- The character of an ASCII octet. -/
theorem toNat_ofNat_byte {byte : UInt8} (narrow : byte.toNat < 128) : (Char.ofNat byte.toNat).toNat = byte.toNat := by
  have all : ∀ i : Fin 128, (Char.ofNat i).toNat = i.val := by decide
  exact all ⟨byte.toNat, narrow⟩

/-- The characters of a quoted octet. -/
theorem mem_quoteByte {safe : List Char} {byte : UInt8} {c : Char} (member : c ∈ quoteByte safe byte) :
    c.toNat < 128 ∧ (alwaysSafe c = true ∨ c ∈ safe) ∨ c = '%' ∨ ∃ n < 16, c = hexDigit n := by
  have small : byte.toNat < 256 := byte.toNat_lt
  unfold quoteByte at member
  dsimp only at member
  split at member
  · next kept =>
    rw [Bool.and_eq_true, decide_eq_true_iff, Bool.or_eq_true, List.contains_iff_mem] at kept
    rw [List.mem_singleton.mp member, toNat_ofNat_byte kept.1]
    exact .inl kept
  · simp only [List.mem_cons, List.not_mem_nil, or_false] at member
    rcases member with percent | high | low
    · exact .inr (.inl percent)
    · exact .inr (.inr ⟨_, by omega, high⟩)
    · exact .inr (.inr ⟨_, by omega, low⟩)

/-- The characters of a quoted text. -/
theorem mem_quote {safe : List Char} {text : Text} {c : Char} (member : c ∈ quote safe text) :
    alwaysSafe c = true ∨ c ∈ safe ∨ c = '%' := by
  obtain ⟨byte, -, inside⟩ := List.mem_flatMap.mp member
  rcases mem_quoteByte inside with ⟨-, always | extra⟩ | percent | ⟨n, small, rfl⟩
  · exact .inl always
  · exact .inr (.inl extra)
  · exact .inr (.inr percent)
  · exact .inl (alwaysSafe_hexDigit small)

/-- A quoted text is ASCII. -/
theorem quote_narrow {safe : List Char} {text : Text} {c : Char} (member : c ∈ quote safe text) : c.toNat < 128 := by
  obtain ⟨byte, -, inside⟩ := List.mem_flatMap.mp member
  rcases mem_quoteByte inside with ⟨narrow, -⟩ | rfl | ⟨n, small, rfl⟩
  · exact narrow
  · decide
  · have all : ∀ i : Fin 16, (hexDigit i).toNat < 128 := by decide
    exact all ⟨n, small⟩

/-- A character other than a percent sign is its octet. -/
theorem unquoteToBytes_other {c : Char} (other : c ≠ '%') (rest : Text) :
    unquoteToBytes (c :: rest) = c.toNat.toUInt8 :: unquoteToBytes rest := by
  rw [unquoteToBytes.eq_def]
  exact if_neg other

/-- An escape is its octet. -/
theorem unquoteToBytes_escape {high low : Char} {h l : Nat} (first : hexValue high = some h)
    (second : hexValue low = some l) (rest : Text) :
    unquoteToBytes ('%' :: high :: low :: rest) = (16 * h + l).toUInt8 :: unquoteToBytes rest := by
  rw [unquoteToBytes.eq_def]
  dsimp only
  rw [if_pos rfl, first, second]

/-- A quoted octet is read as the octet. -/
theorem unquoteToBytes_quoteByte {safe : List Char} (percent : '%' ∉ safe) (byte : UInt8) (rest : Text) :
    unquoteToBytes (quoteByte safe byte ++ rest) = byte :: unquoteToBytes rest := by
  have small : byte.toNat < 256 := byte.toNat_lt
  have same {n : Nat} (number : n = byte.toNat) : n.toUInt8 = byte := by
    rw [number]
    exact UInt8.ofNat_toNat
  unfold quoteByte
  dsimp only
  split
  · next kept =>
    rw [Bool.and_eq_true, decide_eq_true_iff, Bool.or_eq_true, List.contains_iff_mem] at kept
    have other : Char.ofNat byte.toNat ≠ '%' := by
      intro isPercent
      rw [isPercent] at kept
      exact kept.2.elim (by decide) percent
    rw [List.singleton_append, unquoteToBytes_other other, same (toNat_ofNat_byte kept.1)]
  · have high : hexValue (hexDigit (byte.toNat / 16)) = some (byte.toNat / 16) := hexValue_hexDigit (by omega)
    have low : hexValue (hexDigit (byte.toNat % 16)) = some (byte.toNat % 16) := hexValue_hexDigit (by omega)
    rw [List.cons_append, List.cons_append, List.singleton_append, unquoteToBytes_escape high low,
      same (by omega)]

/-- A quoted text is read as the octets of the text. -/
theorem unquoteToBytes_quote {safe : List Char} (percent : '%' ∉ safe) (text : Text) :
    unquoteToBytes (quote safe text) = utf8 text := by
  unfold quote
  induction utf8 text with
  | nil => rfl
  | cons byte rest ih => rw [List.flatMap_cons, unquoteToBytes_quoteByte percent, ih]

/-- An ASCII text is read at once. -/
theorem unquoteFrom_narrow {run text : Text} (narrow : ∀ c ∈ text, c.toNat < 128) :
    unquoteFrom run text = decodeReplace (unquoteToBytes (run ++ text)) := by
  induction text generalizing run with
  | nil => rw [unquoteFrom, List.append_nil]
  | cons c rest ih =>
    rw [unquoteFrom, if_pos (narrow c List.mem_cons_self),
      ih fun other member => narrow other (List.mem_cons_of_mem _ member), List.append_assoc,
      List.singleton_append]

/-- Reading a quoted text once gives the text. -/
theorem unquote_quote {safe : List Char} (percent : '%' ∉ safe) (text : Text) : unquote (quote safe text) = text := by
  have read : unquoteFrom [] (quote safe text) = text := by
    rw [unquoteFrom_narrow fun c member => quote_narrow member, List.nil_append, unquoteToBytes_quote percent,
      decodeReplace_utf8]
  unfold unquote
  split
  · exact read
  · next none =>
    have plain : ¬HasEscape ([] ++ quote safe text) := by
      rintro ⟨before, high, low, after, whole, -⟩
      rw [List.nil_append] at whole
      exact none (by rw [whole]; exact List.mem_append_right _ List.mem_cons_self)
    have kept := unquoteFrom_plain plain fun _ member => by cases member
    exact kept.symm.trans read

end RedisPy

import Mathlib.Data.List.Basic

/-!
# Python bytes, text and decimal integers

`bytes` is a list of octets and `str` a list of code points. `int` follows
`PyLong_FromString`: surrounding blanks, one sign, and digits with single
underscores between them; for `str` the decimal digits and blanks outside ASCII are
first replaced by their ASCII forms. The interpreter's optional limit on the number
of digits is taken as switched off. `bytes.decode("utf-8", errors="replace")` puts
one replacement character for every maximal ill-formed part.
-/

namespace RedisPy

/-- A Python `bytes` value. -/
abbrev Bytes := List UInt8

/-- A Python `str` value. -/
abbrev Text := List Char

/-- `==` on texts is equality. -/
instance : LawfulBEq Text := inferInstance

/-- The octets of an ASCII literal. -/
def ascii (literal : String) : Bytes := literal.toList.map fun c => c.toNat.toUInt8

/-- `SYM_CRLF`. -/
def crlf : Bytes := [13, 10]

/-- `Py_ISSPACE`. -/
def isSpace (c : Char) : Bool := c == ' ' || (9 ≤ c.toNat && c.toNat ≤ 13)

/-- The digits of a run that has single underscores between digits and nowhere else. -/
def digitRun : Text → Option Text
  | [] => none
  | c :: rest =>
    if c.isDigit then
      match rest with
      | [] => some [c]
      | '_' :: more => (c :: ·) <$> digitRun more
      | d :: more => (c :: ·) <$> digitRun (d :: more)
    else none

/-- `text.strip()` for the blanks of `Py_ISSPACE`. -/
def strip (text : Text) : Text :=
  ((text.dropWhile isSpace).reverse.dropWhile isSpace).reverse

/-- `PyLong_FromString` in base ten; `none` is `ValueError`. -/
def pyInt (text : Text) : Option Int :=
  match strip text with
  | '-' :: digits => (digitRun digits).map fun ds => -(Nat.ofDigitChars 10 ds 0 : Int)
  | '+' :: digits => (digitRun digits).map fun ds => (Nat.ofDigitChars 10 ds 0 : Int)
  | digits => (digitRun digits).map fun ds => (Nat.ofDigitChars 10 ds 0 : Int)

/-- `int` of a `bytes` value. -/
def intOfBytes (bytes : Bytes) : Option Int := pyInt (bytes.map fun b => Char.ofNat b.toNat)

/-- The zeros of the decimal digit ranges outside ASCII. -/
def decimalZeros : List Nat :=
  [1632, 1776, 1984, 2406, 2534, 2662, 2790, 2918, 3046, 3174, 3302, 3430, 3558, 3664, 3792,
   3872, 4160, 4240, 6112, 6160, 6470, 6608, 6784, 6800, 6992, 7088, 7232, 7248, 42528, 43216,
   43264, 43472, 43504, 43600, 44016, 65296, 66720, 68912, 69734, 69872, 69942, 70096, 70384,
   70736, 70864, 71248, 71360, 71472, 71904, 72016, 72784, 73040, 73120, 92768, 92864, 93008,
   120782, 120792, 120802, 120812, 120822, 123200, 123632, 125264, 130032]

/-- The blanks of `str.isspace` outside ASCII. -/
def wideSpaces : List Nat :=
  [0x85, 0xa0, 0x1680, 0x2000, 0x2001, 0x2002, 0x2003, 0x2004, 0x2005, 0x2006, 0x2007, 0x2008,
   0x2009, 0x200a, 0x2028, 0x2029, 0x202f, 0x205f, 0x3000]

/-- One character of `_PyUnicode_TransformDecimalAndSpaceToASCII`. -/
def toAsciiDigit (c : Char) : Char :=
  if c.toNat < 127 then c
  else if wideSpaces.contains c.toNat then ' '
  else match decimalZeros.find? fun start => start ≤ c.toNat && c.toNat < start + 10 with
    | some start => Char.ofNat (48 + (c.toNat - start))
    | none => '?'

/-- `int` of a `str` value. -/
def intOfText (text : Text) : Option Int := pyInt (text.map toAsciiDigit)

/-- `str(n).encode()` for a natural number. -/
def decimalNat (n : Nat) : Bytes := (Nat.toDigits 10 n).map fun c => c.toNat.toUInt8

/-- `str(n).encode()`. -/
def decimal : Int → Bytes
  | .ofNat n => decimalNat n
  | .negSucc n => 45 :: decimalNat (n + 1)

/-- `text.rsplit(":", 1)` when it has two parts. -/
def rsplitColon (text : Text) : Option (Text × Text) :=
  match text.reverse.span (· != ':') with
  | (after, _ :: before) => some (before.reverse, after.reverse)
  | (_, []) => none

/-- A continuation octet within the given bounds, which the second octet narrows. -/
def continues (low high byte : UInt8) : Bool := low ≤ byte && byte ≤ high

/-- The six payload bits of a continuation octet. -/
def payload (byte : UInt8) : Nat := byte.toNat % 64

/-- The character replacing an ill-formed part. -/
def replacement : Char := Char.ofNat 0xFFFD

/-- The bounds of the second octet after a leading octet of three. -/
def secondOfThree (lead : UInt8) : UInt8 × UInt8 :=
  if lead = 0xE0 then (0xA0, 0xBF) else if lead = 0xED then (0x80, 0x9F) else (0x80, 0xBF)

/-- The bounds of the second octet after a leading octet of four. -/
def secondOfFour (lead : UInt8) : UInt8 × UInt8 :=
  if lead = 0xF0 then (0x90, 0xBF) else if lead = 0xF4 then (0x80, 0x8F) else (0x80, 0xBF)

/-- `bytes.decode("utf-8", errors="replace")`. -/
def decodeReplace : Bytes → Text
  | [] => []
  | lead :: rest =>
    if lead < 0x80 then Char.ofNat lead.toNat :: decodeReplace rest
    else if continues 0xC2 0xDF lead then
      match rest with
      | [] => [replacement]
      | second :: tail =>
        if continues 0x80 0xBF second then
          Char.ofNat (lead.toNat % 32 * 64 + payload second) :: decodeReplace tail
        else replacement :: decodeReplace (second :: tail)
    else if continues 0xE0 0xEF lead then
      match rest with
      | [] => [replacement]
      | second :: tail =>
        if continues (secondOfThree lead).1 (secondOfThree lead).2 second then
          match tail with
          | [] => [replacement]
          | third :: tail =>
            if continues 0x80 0xBF third then
              Char.ofNat (lead.toNat % 16 * 4096 + payload second * 64 + payload third) ::
                decodeReplace tail
            else replacement :: decodeReplace (third :: tail)
        else replacement :: decodeReplace (second :: tail)
    else if continues 0xF0 0xF4 lead then
      match rest with
      | [] => [replacement]
      | second :: tail =>
        if continues (secondOfFour lead).1 (secondOfFour lead).2 second then
          match tail with
          | [] => [replacement]
          | third :: tail =>
            if continues 0x80 0xBF third then
              match tail with
              | [] => [replacement]
              | fourth :: tail =>
                if continues 0x80 0xBF fourth then
                  Char.ofNat (lead.toNat % 8 * 262144 + payload second * 4096 +
                    payload third * 64 + payload fourth) :: decodeReplace tail
                else replacement :: decodeReplace (fourth :: tail)
            else replacement :: decodeReplace (third :: tail)
        else replacement :: decodeReplace (second :: tail)
    else replacement :: decodeReplace rest

/-- A decimal digit survives the passage through an octet. -/
theorem digit_octet {c : Char} (digit : c.isDigit = true) :
    Char.ofNat (c.toNat.toUInt8).toNat = c := by
  have bound : c.toNat ≤ 57 := by
    simp only [Char.isDigit, ge_iff_le, Bool.and_eq_true, decide_eq_true_eq] at digit
    exact digit.2
  have octet : (c.toNat.toUInt8).toNat = c.toNat := by
    simp only [Nat.toUInt8, UInt8.toNat_ofNat']
    omega
  rw [octet, Char.ofNat_toNat]

/-- The octets of a decimal read back as its digits. -/
theorem decimalNat_chars (n : Nat) :
    (decimalNat n).map (fun b => Char.ofNat b.toNat) = Nat.toDigits 10 n := by
  rw [decimalNat, List.map_map]
  conv_rhs => rw [← List.map_id (Nat.toDigits 10 n)]
  apply List.map_congr_left
  intro c member
  exact digit_octet (Nat.isDigit_of_mem_toDigits (by decide) (by decide) member)

/-- A run of digits alone is its own digits. -/
theorem digitRun_digits (digits : Text) (nonempty : digits ≠ [])
    (all : ∀ c ∈ digits, c.isDigit = true) : digitRun digits = some digits := by
  induction digits with
  | nil => contradiction
  | cons c rest ih =>
    have head := all c List.mem_cons_self
    cases rest with
    | nil => simp [digitRun, head]
    | cons d more =>
      have tail := ih (by simp) fun e member => all e (List.mem_cons_of_mem c member)
      unfold digitRun
      rw [if_pos head]
      split
      · next same => simp at same
      · next same =>
        simp only [List.cons.injEq] at same
        obtain ⟨rfl, rfl⟩ := same
        exact absurd (all '_' (by simp)) (by decide)
      · next same =>
        simp only [List.cons.injEq] at same
        obtain ⟨rfl, rfl⟩ := same
        rw [tail]
        rfl

/-- No digit is a blank. -/
theorem digit_not_space {c : Char} (digit : c.isDigit = true) : isSpace c = false := by
  simp only [Char.isDigit, ge_iff_le, Bool.and_eq_true, decide_eq_true_eq] at digit
  have low : 48 ≤ c.toNat := digit.1
  have blank : (c == ' ') = false := by
    rw [beq_eq_false_iff_ne]
    rintro rfl
    exact absurd low (by decide)
  simp only [isSpace, blank, Bool.false_or, Bool.and_eq_false_iff, decide_eq_false_iff_not]
  omega

/-- Stripping keeps a text that neither begins nor ends with a blank. -/
theorem strip_of_ends {text : Text} (first : ∀ c ∈ text.head?, isSpace c = false)
    (last : ∀ c ∈ text.getLast?, isSpace c = false) : strip text = text := by
  have kept (t : Text) (edge : ∀ c ∈ t.head?, isSpace c = false) : t.dropWhile isSpace = t := by
    cases t with
    | nil => rfl
    | cons c rest =>
      have := edge c (by simp)
      simp [List.dropWhile, this]
  rw [strip, kept text first, kept text.reverse (by simpa using last), List.reverse_reverse]

/-- The digits of a number are digits. -/
theorem toDigits_isDigit (n : Nat) : ∀ c ∈ Nat.toDigits 10 n, c.isDigit = true :=
  fun _ member => Nat.isDigit_of_mem_toDigits (by decide) (by decide) member

/-- `int(str(n))` returns a natural number. -/
theorem intOfBytes_decimalNat (n : Nat) : intOfBytes (decimalNat n) = some (n : Int) := by
  have digits := toDigits_isDigit n
  have stripped : strip (Nat.toDigits 10 n) = Nat.toDigits 10 n :=
    strip_of_ends (fun c found => digit_not_space (digits c (List.mem_of_mem_head? found)))
      fun c found => digit_not_space (digits c (List.mem_of_getLast? found))
  have run := digitRun_digits _ Nat.toDigits_ne_nil digits
  rw [intOfBytes, decimalNat_chars, pyInt, stripped]
  cases shape : Nat.toDigits 10 n with
  | nil => exact absurd shape Nat.toDigits_ne_nil
  | cons c rest =>
    have head := digits c (by simp [shape])
    have minus : c ≠ '-' := by rintro rfl; exact absurd head (by decide)
    have plus : c ≠ '+' := by rintro rfl; exact absurd head (by decide)
    rw [shape] at run
    have value : Nat.ofDigitChars 10 (c :: rest) 0 = n := by
      rw [← shape]; exact Nat.ofDigitChars_ten_toDigits
    split
    · next found => simp only [List.cons.injEq] at found; exact absurd found.1 minus
    · next found => simp only [List.cons.injEq] at found; exact absurd found.1 plus
    · rw [run, Option.map_some, value]

/-- `int(str(n))` returns any integer. -/
theorem intOfBytes_decimal (n : Int) : intOfBytes (decimal n) = some n := by
  cases n with
  | ofNat n => exact intOfBytes_decimalNat n
  | negSucc n =>
    have digits := toDigits_isDigit (n + 1)
    have chars : (decimal (.negSucc n)).map (fun b => Char.ofNat b.toNat) =
        '-' :: Nat.toDigits 10 (n + 1) := by
      rw [decimal, List.map_cons, decimalNat_chars]
      rfl
    have stripped : strip ('-' :: Nat.toDigits 10 (n + 1)) = '-' :: Nat.toDigits 10 (n + 1) := by
      apply strip_of_ends
      · intro c found
        simp only [List.head?_cons, Option.mem_some_iff] at found
        subst found
        decide
      · intro c found
        rw [List.getLast?_cons_of_ne_nil Nat.toDigits_ne_nil] at found
        exact digit_not_space (digits c (List.mem_of_getLast? found))
    rw [intOfBytes, chars, pyInt, stripped]
    simp only [digitRun_digits _ Nat.toDigits_ne_nil digits, Option.map_some,
      Nat.ofDigitChars_ten_toDigits]
    rfl

/-- The octets of a decimal are digits. -/
theorem decimalNat_range (n : Nat) : ∀ b ∈ decimalNat n, 48 ≤ b.toNat ∧ b.toNat ≤ 57 := by
  intro b member
  obtain ⟨c, found, rfl⟩ := List.mem_map.mp member
  have digit := toDigits_isDigit n c found
  simp only [Char.isDigit, ge_iff_le, Bool.and_eq_true, decide_eq_true_eq] at digit
  have low : 48 ≤ c.toNat := digit.1
  have high : c.toNat ≤ 57 := digit.2
  have octet : (c.toNat.toUInt8).toNat = c.toNat := by
    simp only [Nat.toUInt8, UInt8.toNat_ofNat']
    omega
  omega

/-- A decimal contains no line feed. -/
theorem decimal_no_lf (n : Int) : (10 : UInt8) ∉ decimal n := by
  have plain (m : Nat) : (10 : UInt8) ∉ decimalNat m := by
    intro member
    have range := decimalNat_range m 10 member
    exact absurd range.1 (by decide)
  cases n with
  | ofNat n => exact plain n
  | negSucc n =>
    simp only [decimal, List.mem_cons, not_or]
    exact ⟨by decide, plain (n + 1)⟩

/-- A natural decimal is not the length `-1` of a null reply. -/
theorem decimalNat_ne_minus_one (n : Nat) : decimalNat n ≠ ascii "-1" := by
  intro same
  have range := decimalNat_range n 45 (by rw [same]; decide)
  exact absurd range.1 (by decide)

/-- `str(n)`. -/
def decimalText (n : Int) : Text := (decimal n).map fun digit => Char.ofNat digit.toNat

/-- Different integers have different texts. -/
theorem decimalText_injective {m n : Int} (same : decimalText m = decimalText n) : m = n := by
  have read (k : Int) : pyInt (decimalText k) = some k := intOfBytes_decimal k
  have both : some m = some n := by rw [← read m, ← read n, same]
  exact Option.some.inj both

/-- Letters and digits are ASCII. -/
theorem isAlphanum_range {c : Char} (alnum : c.isAlphanum = true) : 48 ≤ c.toNat ∧ c.toNat ≤ 122 := by
  have kinds : (c.isUpper || c.isLower || c.isDigit) = true := alnum
  rw [Bool.or_eq_true, Bool.or_eq_true] at kinds
  rcases kinds with (upper | lower) | digit
  · have range : 65 ≤ c.toNat ∧ c.toNat ≤ 90 := of_decide_eq_true upper
    omega
  · have range : (decide (97 ≤ c.toNat) && decide (c.toNat ≤ 122)) = true := lower
    rw [Bool.and_eq_true, decide_eq_true_iff, decide_eq_true_iff] at range
    omega
  · have range : (decide (48 ≤ c.toNat) && decide (c.toNat ≤ 57)) = true := digit
    rw [Bool.and_eq_true, decide_eq_true_iff, decide_eq_true_iff] at range
    omega

/-- The text of a natural number is its digits. -/
theorem decimalText_nat (n : Nat) : decimalText n = Nat.toDigits 10 n := decimalNat_chars n

/-- The text of a natural number is not empty. -/
theorem decimalText_nat_ne_nil (n : Nat) : decimalText n ≠ [] := by
  rw [decimalText_nat]
  exact Nat.toDigits_ne_nil

/-- The characters of a natural number are digits. -/
theorem decimalText_isDigit {n : Nat} {c : Char} (member : c ∈ decimalText n) : c.isDigit = true :=
  toDigits_isDigit n c (decimalText_nat n ▸ member)

/-- The characters of a decimal. -/
theorem decimalText_range (n : Int) : ∀ c ∈ decimalText n, 45 ≤ c.toNat ∧ c.toNat ≤ 57 := by
  have digits (m : Nat) : ∀ c ∈ Nat.toDigits 10 m, 45 ≤ c.toNat ∧ c.toNat ≤ 57 := by
    intro c member
    have digit := toDigits_isDigit m c member
    simp only [Char.isDigit, ge_iff_le, Bool.and_eq_true, decide_eq_true_eq] at digit
    have low : 48 ≤ c.toNat := digit.1
    have high : c.toNat ≤ 57 := digit.2
    omega
  have chars (m : Nat) : (decimalNat m).map (fun b => Char.ofNat b.toNat) = Nat.toDigits 10 m :=
    decimalNat_chars m
  unfold decimalText
  cases n with
  | ofNat n =>
    rw [decimal, chars]
    exact digits n
  | negSucc n =>
    rw [decimal, List.map_cons, chars]
    intro c member
    rcases List.mem_cons.mp member with rfl | later
    · decide
    · exact digits (n + 1) c later

/-- `int(str(n))` is the integer. -/
theorem intOfText_decimalText (n : Int) : intOfText (decimalText n) = some n := by
  have kept : (decimalText n).map toAsciiDigit = decimalText n := by
    have same : ∀ c ∈ decimalText n, toAsciiDigit c = id c := by
      intro c member
      have range := decimalText_range n c member
      exact if_pos (by omega)
    rw [List.map_congr_left same, List.map_id]
  rw [intOfText, kept]
  exact intOfBytes_decimal n

/-- The text of an integer contains no colon. -/
theorem decimalText_no_colon (n : Int) : ':' ∉ decimalText n := fun member =>
  absurd (decimalText_range n ':' member) (by decide)

/-! ## Lines and slices of octets -/

/-- The octets up to and including the first line feed. -/
def firstLine : Bytes → Bytes
  | [] => []
  | byte :: rest => if byte = 10 then [byte] else byte :: firstLine rest

/-- `data[:-2]`. -/
def dropTerminator (data : Bytes) : Bytes := data.take (data.length - 2)

/-- A string without a line feed is its own first line. -/
theorem firstLine_none {data : Bytes} (plain : 10 ∉ data) : firstLine data = data := by
  induction data with
  | nil => rfl
  | cons byte rest ih =>
    have other : byte ≠ 10 := fun same => plain (same ▸ List.mem_cons_self)
    rw [firstLine, if_neg other, ih fun member => plain (List.mem_cons_of_mem byte member)]

/-- The first line ends at the first line feed. -/
theorem firstLine_append {line : Bytes} (plain : 10 ∉ line) (rest : Bytes) :
    firstLine (line ++ 10 :: rest) = line ++ [10] := by
  induction line with
  | nil => rfl
  | cons byte line ih =>
    have other : byte ≠ 10 := fun same => plain (same ▸ List.mem_cons_self)
    rw [List.cons_append, firstLine, if_neg other,
      ih fun member => plain (List.mem_cons_of_mem byte member), List.cons_append]

/-- Two splits at the first line feed are the same split. -/
theorem line_unique {line other rest remainder : Bytes} (plain : 10 ∉ line) (plain' : 10 ∉ other)
    (same : line ++ 10 :: rest = other ++ 10 :: remainder) : line = other ∧ rest = remainder := by
  induction line generalizing other with
  | nil =>
    cases other with
    | nil => exact ⟨rfl, (List.cons.inj same).2⟩
    | cons byte other =>
      exact absurd ((List.cons.inj same).1 ▸ List.mem_cons_self) plain'
  | cons byte line ih =>
    cases other with
    | nil => exact absurd ((List.cons.inj same).1 ▸ List.mem_cons_self) plain
    | cons byte' other =>
      obtain ⟨head, tail⟩ := List.cons.inj same
      obtain ⟨lines, rests⟩ := ih (fun member => plain (List.mem_cons_of_mem byte member))
        (fun member => plain' (List.mem_cons_of_mem byte' member)) tail
      exact ⟨by rw [head, lines], rests⟩

/-- The position that a slice bound stands for. -/
def sliceIndex (length : Nat) (bound : Int) : Nat :=
  if bound < 0 then (bound + length).toNat else min bound.toNat length

/-- `data[start:stop]`. -/
def slice (data : Bytes) (start stop : Int) : Bytes :=
  (data.take (sliceIndex data.length stop)).drop (sliceIndex data.length start)

/-- `data[start:]`. -/
def sliceFrom (data : Bytes) (start : Int) : Bytes := data.drop (sliceIndex data.length start)

/-- Where the first CRLF begins. -/
def findCrlf : Bytes → Option Nat
  | [] => none
  | byte :: rest => if crlf <+: byte :: rest then some 0 else (findCrlf rest).map (· + 1)

/-- `data.find(b"\r\n", start)`. -/
def findCrlfFrom (data : Bytes) (start : Int) : Option Nat :=
  (findCrlf (sliceFrom data start)).map (sliceIndex data.length start + ·)

/-- A natural bound inside the data is itself. -/
theorem sliceIndex_natCast {length n : Nat} (inside : n ≤ length) :
    sliceIndex length (n : Int) = n := by
  have natural : ¬(n : Int) < 0 := by omega
  rw [sliceIndex, if_neg natural, Int.toNat_natCast, Nat.min_eq_left inside]

/-- A slice from the end on is empty. -/
theorem sliceFrom_end {data : Bytes} {start : Int} (past : (data.length : Int) ≤ start) :
    sliceFrom data start = [] := by
  have natural : ¬start < 0 := by omega
  have all : sliceIndex data.length start = data.length := by
    rw [sliceIndex, if_neg natural]
    omega
  rw [sliceFrom, all, List.drop_length]

/-- Behind a line the first CRLF is the one that ends it. -/
theorem findCrlf_line {line : Bytes} (plain : 10 ∉ line) (rest : Bytes) :
    findCrlf (line ++ (crlf ++ rest)) = some line.length := by
  induction line with
  | nil => simp [crlf, findCrlf]
  | cons byte line ih =>
    have tail : 10 ∉ line := fun member => plain (List.mem_cons_of_mem byte member)
    have unfinished : ¬crlf <+: byte :: (line ++ (crlf ++ rest)) := by
      rintro ⟨after, same⟩
      cases line with
      | nil => simp [crlf] at same
      | cons next line =>
        simp only [crlf, List.cons_append, List.nil_append, List.cons.injEq] at same
        exact tail (same.2.1 ▸ List.mem_cons_self)
    rw [List.cons_append, findCrlf, if_neg unfinished, ih tail]
    rfl

end RedisPy

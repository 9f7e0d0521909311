import RedisPy.Python.Text

/-!
# UTF-8

Reading octets as text undoes writing it: the decoder that replaces what is ill-formed returns
every character from its own octets.
-/

namespace RedisPy

/-- The octet of a small number. -/
theorem toNat_octet {n : Nat} (small : n < 256) : (UInt8.ofNat n).toNat = n := by
  rw [UInt8.toNat_ofNat', Nat.mod_eq_of_lt small]

/-- An octet lies between bounds when its number does. -/
theorem continues_iff {low high byte : UInt8} :
    continues low high byte = true ↔ low.toNat ≤ byte.toNat ∧ byte.toNat ≤ high.toNat := by
  simp [continues, UInt8.le_iff_toNat_le]

/-- An ASCII octet is its character. -/
theorem decodeReplace_one {first : UInt8} (low : first.toNat < 128) (rest : Bytes) :
    decodeReplace (first :: rest) = Char.ofNat first.toNat :: decodeReplace rest := by
  have below : first < 0x80 := UInt8.lt_iff_toNat_lt.mpr low
  rw [decodeReplace.eq_def]
  simp only [below, ↓reduceIte]

/-- An ASCII literal decodes to itself. -/
theorem decodeReplace_ascii {literal : String} (plain : ∀ c ∈ literal.toList, c.toNat < 128) :
    decodeReplace (ascii literal) = literal.toList := by
  unfold ascii
  revert plain
  induction literal.toList with
  | nil => exact fun _ => rfl
  | cons c rest ih =>
    intro plain
    have low : c.toNat < 128 := plain c List.mem_cons_self
    have octet : c.toNat.toUInt8.toNat = c.toNat := toNat_octet (by omega)
    rw [List.map_cons, decodeReplace_one (by omega), octet, Char.ofNat_toNat,
      ih fun other member => plain other (List.mem_cons_of_mem _ member)]

/-- A sequence of two octets. -/
theorem decodeReplace_two {first second : UInt8} (lead : 194 ≤ first.toNat ∧ first.toNat ≤ 223)
    (follow : 128 ≤ second.toNat ∧ second.toNat ≤ 191) (rest : Bytes) :
    decodeReplace (first :: second :: rest) =
      Char.ofNat (first.toNat % 32 * 64 + payload second) :: decodeReplace rest := by
  have above : ¬first < 0x80 := by
    rw [UInt8.lt_iff_toNat_lt]
    show ¬first.toNat < 128
    omega
  have two : continues 0xC2 0xDF first = true := continues_iff.mpr lead
  have next : continues 0x80 0xBF second = true := continues_iff.mpr follow
  rw [decodeReplace.eq_def]
  simp only [above, two, next, ↓reduceIte]

/-- A sequence of three octets. -/
theorem decodeReplace_three {first second third : UInt8}
    (lead : 224 ≤ first.toNat ∧ first.toNat ≤ 239)
    (follow : continues (secondOfThree first).1 (secondOfThree first).2 second = true)
    (last : 128 ≤ third.toNat ∧ third.toNat ≤ 191) (rest : Bytes) :
    decodeReplace (first :: second :: third :: rest) =
      Char.ofNat (first.toNat % 16 * 4096 + payload second * 64 + payload third) ::
        decodeReplace rest := by
  have above : ¬first < 0x80 := by
    rw [UInt8.lt_iff_toNat_lt]
    show ¬first.toNat < 128
    omega
  have two : continues 0xC2 0xDF first = false := by
    rw [← Bool.not_eq_true, continues_iff]
    show ¬(194 ≤ first.toNat ∧ first.toNat ≤ 223)
    omega
  have three : continues 0xE0 0xEF first = true := continues_iff.mpr lead
  have next : continues 0x80 0xBF third = true := continues_iff.mpr last
  rw [decodeReplace.eq_def]
  simp only [above, two, three, follow, next, Bool.false_eq_true, ↓reduceIte]

/-- A sequence of four octets. -/
theorem decodeReplace_four {first second third fourth : UInt8}
    (lead : 240 ≤ first.toNat ∧ first.toNat ≤ 244)
    (follow : continues (secondOfFour first).1 (secondOfFour first).2 second = true)
    (next : 128 ≤ third.toNat ∧ third.toNat ≤ 191) (last : 128 ≤ fourth.toNat ∧ fourth.toNat ≤ 191)
    (rest : Bytes) :
    decodeReplace (first :: second :: third :: fourth :: rest) =
      Char.ofNat (first.toNat % 8 * 262144 + payload second * 4096 + payload third * 64 +
        payload fourth) :: decodeReplace rest := by
  have above : ¬first < 0x80 := by
    rw [UInt8.lt_iff_toNat_lt]
    show ¬first.toNat < 128
    omega
  have two : continues 0xC2 0xDF first = false := by
    rw [← Bool.not_eq_true, continues_iff]
    show ¬(194 ≤ first.toNat ∧ first.toNat ≤ 223)
    omega
  have three : continues 0xE0 0xEF first = false := by
    rw [← Bool.not_eq_true, continues_iff]
    show ¬(224 ≤ first.toNat ∧ first.toNat ≤ 239)
    omega
  have four : continues 0xF0 0xF4 first = true := continues_iff.mpr lead
  have third' : continues 0x80 0xBF third = true := continues_iff.mpr next
  have fourth' : continues 0x80 0xBF fourth = true := continues_iff.mpr last
  rw [decodeReplace.eq_def]
  simp only [above, two, three, four, follow, third', fourth', Bool.false_eq_true, ↓reduceIte]

/-- The second octet of three, for a code point that is no surrogate. -/
theorem continues_secondOfThree {point : Nat} (low : 0x800 ≤ point) (high : point < 0x10000)
    (scalar : point < 0xD800 ∨ 0xDFFF < point) :
    continues (secondOfThree (UInt8.ofNat (point / 4096 % 16 + 224))).1
      (secondOfThree (UInt8.ofNat (point / 4096 % 16 + 224))).2
      (UInt8.ofNat (point / 64 % 64 + 128)) = true := by
  have lead : (UInt8.ofNat (point / 4096 % 16 + 224)).toNat = point / 4096 % 16 + 224 :=
    toNat_octet (by omega)
  have follow : (UInt8.ofNat (point / 64 % 64 + 128)).toNat = point / 64 % 64 + 128 :=
    toNat_octet (by omega)
  unfold secondOfThree
  by_cases first : UInt8.ofNat (point / 4096 % 16 + 224) = 0xE0
  · have number : point / 4096 % 16 + 224 = 224 := by rw [← lead, first]; rfl
    rw [if_pos first]
    refine continues_iff.mpr ?_
    rw [follow]
    show 160 ≤ _ ∧ _ ≤ 191
    omega
  · rw [if_neg first]
    by_cases surrogates : UInt8.ofNat (point / 4096 % 16 + 224) = 0xED
    · have number : point / 4096 % 16 + 224 = 237 := by rw [← lead, surrogates]; rfl
      rw [if_pos surrogates]
      refine continues_iff.mpr ?_
      rw [follow]
      show 128 ≤ _ ∧ _ ≤ 159
      omega
    · rw [if_neg surrogates]
      refine continues_iff.mpr ?_
      rw [follow]
      show 128 ≤ _ ∧ _ ≤ 191
      omega

/-- The second octet of four. -/
theorem continues_secondOfFour {point : Nat} (low : 0x10000 ≤ point) (high : point < 0x110000) :
    continues (secondOfFour (UInt8.ofNat (point / 262144 % 8 + 240))).1
      (secondOfFour (UInt8.ofNat (point / 262144 % 8 + 240))).2
      (UInt8.ofNat (point / 4096 % 64 + 128)) = true := by
  have lead : (UInt8.ofNat (point / 262144 % 8 + 240)).toNat = point / 262144 % 8 + 240 :=
    toNat_octet (by omega)
  have follow : (UInt8.ofNat (point / 4096 % 64 + 128)).toNat = point / 4096 % 64 + 128 :=
    toNat_octet (by omega)
  unfold secondOfFour
  by_cases first : UInt8.ofNat (point / 262144 % 8 + 240) = 0xF0
  · have number : point / 262144 % 8 + 240 = 240 := by rw [← lead, first]; rfl
    rw [if_pos first]
    refine continues_iff.mpr ?_
    rw [follow]
    show 144 ≤ _ ∧ _ ≤ 191
    omega
  · rw [if_neg first]
    by_cases last : UInt8.ofNat (point / 262144 % 8 + 240) = 0xF4
    · have number : point / 262144 % 8 + 240 = 244 := by rw [← lead, last]; rfl
      rw [if_pos last]
      refine continues_iff.mpr ?_
      rw [follow]
      show 128 ≤ _ ∧ _ ≤ 143
      omega
    · rw [if_neg last]
      refine continues_iff.mpr ?_
      rw [follow]
      show 128 ≤ _ ∧ _ ≤ 191
      omega

/-- The octets of one character are read as that character. -/
theorem decodeReplace_utf8EncodeChar (c : Char) (rest : Bytes) :
    decodeReplace (String.utf8EncodeChar c ++ rest) = c :: decodeReplace rest := by
  have scalar : c.toNat < 0xD800 ∨ (0xDFFF < c.toNat ∧ c.toNat < 0x110000) := c.valid
  have back {n : Nat} (same : n = c.toNat) : Char.ofNat n = c := by rw [same, Char.ofNat_toNat]
  unfold String.utf8EncodeChar
  simp only [show c.val.toNat = c.toNat from rfl]
  by_cases one : c.toNat ≤ 0x7f
  · have octet : (UInt8.ofNat c.toNat).toNat = c.toNat := toNat_octet (by omega)
    rw [if_pos one, List.singleton_append, decodeReplace_one (by omega), octet, back rfl]
  rw [if_neg one]
  have last : (UInt8.ofNat (c.toNat % 64 + 128)).toNat = c.toNat % 64 + 128 :=
    toNat_octet (by omega)
  have middle : (UInt8.ofNat (c.toNat / 64 % 64 + 128)).toNat = c.toNat / 64 % 64 + 128 :=
    toNat_octet (by omega)
  by_cases two : c.toNat ≤ 0x7ff
  · have lead : (UInt8.ofNat (c.toNat / 64 % 32 + 192)).toNat = c.toNat / 64 % 32 + 192 :=
      toNat_octet (by omega)
    rw [if_pos two, List.cons_append, List.singleton_append,
      decodeReplace_two (by omega) (by omega), back]
    rw [payload, lead, last]
    omega
  rw [if_neg two]
  by_cases three : c.toNat ≤ 0xffff
  · have lead : (UInt8.ofNat (c.toNat / 4096 % 16 + 224)).toNat = c.toNat / 4096 % 16 + 224 :=
      toNat_octet (by omega)
    have follow := continues_secondOfThree (show 0x800 ≤ c.toNat by omega) (by omega) (by omega)
    rw [if_pos three, List.cons_append, List.cons_append, List.singleton_append,
      decodeReplace_three (by omega) follow (by omega), back]
    rw [payload, payload, lead, middle, last]
    omega
  · have lead : (UInt8.ofNat (c.toNat / 262144 % 8 + 240)).toNat = c.toNat / 262144 % 8 + 240 :=
      toNat_octet (by omega)
    have second : (UInt8.ofNat (c.toNat / 4096 % 64 + 128)).toNat = c.toNat / 4096 % 64 + 128 :=
      toNat_octet (by omega)
    have follow := continues_secondOfFour (show 0x10000 ≤ c.toNat by omega) (by omega)
    rw [if_neg three, List.cons_append, List.cons_append, List.cons_append, List.singleton_append,
      decodeReplace_four (by omega) follow (by omega) (by omega), back]
    rw [payload, payload, payload, lead, second, middle, last]
    omega

/-- `str.encode()`. -/
def utf8 (text : Text) : Bytes := text.flatMap String.utf8EncodeChar

/-- `text.encode().decode()` is the text. -/
theorem decodeReplace_utf8 (text : Text) : decodeReplace (utf8 text) = text := by
  induction text with
  | nil => rfl
  | cons c text ih =>
    have rest : decodeReplace (text.flatMap String.utf8EncodeChar) = text := ih
    rw [utf8, List.flatMap_cons, decodeReplace_utf8EncodeChar, rest]

/-- The decoder with so many octets still to skip, which belong to the last character. -/
def decodeIgnoreFrom : Nat → Bytes → Text
  | _, [] => []
  | skip + 1, _ :: rest => decodeIgnoreFrom skip rest
  | 0, lead :: rest =>
    match decodeReplace (lead :: rest) with
    | [] => []
    | c :: _ =>
      -- an octet that begins no character is dropped, and so is what follows of its sequence
      if String.utf8EncodeChar c <+: lead :: rest then
        c :: decodeIgnoreFrom ((String.utf8EncodeChar c).length - 1) rest
      else decodeIgnoreFrom 0 rest

/-- `bytes.decode("utf-8", "ignore")`. -/
def decodeIgnore (data : Bytes) : Text := decodeIgnoreFrom 0 data

end RedisPy

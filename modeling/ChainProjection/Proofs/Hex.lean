import ChainProjection.Proofs.Wire.Vocabulary
import Mathlib.Data.List.Induction

/-!
# Spellings of byte strings

Which texts are hexadecimal, and when two of them are the same bytes.  A text is read without the
markers in front, of which there may be any number, and the digits behind them may be of either case
(`Spells`); so bytes have many spellings, and **the digits in lower case tell which spellings are
the same**.

`Bytes.ofHex_eq_ok_iff` is the one result that the others come from.  It says at once when a text is
read and as what: the digits must be an even number of hexadecimal ones, and the bytes are those
that are written with the digits in lower case.  Writing is injective, since what is written is read
back, and so two texts can be compared by what would be written of them
(`Bytes.eq_iff_map_toLower`), with no account of what a pair of digits is worth.

Reading works on the bytes of the text and not on its characters.  That this makes no difference
needs an argument in one direction: bytes that are digits could belong to a character that is none.
They do not, because the first byte of a character outside the ASCII range is at least 128, and no
digit is (`Hex.isDigit_of_utf8EncodeChar`).

Content ids are such digits, and two of them are the same exactly if they are made of the same bytes
(`Id.ofContent_inj`).
-/

namespace ChainProjection

namespace Hex

variable {c : Char} {chars : List Char} {bytes : List UInt8}

/-! ### Digits -/

/-- A hexadecimal digit of either case. -/
def IsDigit (c : Char) : Prop :=
  ('0' ≤ c ∧ c ≤ '9') ∨ ('a' ≤ c ∧ c ≤ 'f') ∨ ('A' ≤ c ∧ c ≤ 'F')

/-- Digits are ASCII characters. -/
theorem lt_of_digitValue?_eq_some {n value : Nat} (h : digitValue? n = some value) : n < 128 := by
  unfold digitValue? at h
  split at h
  · omega
  split at h
  · omega
  split at h
  · omega
  · cases h

/-- The digits are the characters that have a value. -/
theorem isDigit_iff : IsDigit c ↔ ∃ value, digitValue? c.toNat = some value := by
  have hle (a b : Char) : a ≤ b ↔ a.toNat ≤ b.toNat := Iff.rfl
  have hbounds : '0'.toNat = 48 ∧ '9'.toNat = 57 ∧ 'a'.toNat = 97 ∧ 'f'.toNat = 102 ∧
      'A'.toNat = 65 ∧ 'F'.toNat = 70 := by decide
  simp only [IsDigit, hle, hbounds, digitValue?]
  split
  · simp [*]
  split
  · simp [*]
  split
  · simp [*]
  · simp [*]

/-- A digit is worth what the digit in lower case is worth. -/
theorem digit_of_digitValue? {value : Nat} (h : digitValue? c.toNat = some value) :
    value < 16 ∧ digit value = c.toLower := by
  have hall : ∀ n < 128, ∀ value ∈ digitValue? n,
      value < 16 ∧ digit value = (Char.ofNat n).toLower := by decide
  have hc := hall c.toNat (lt_of_digitValue?_eq_some h) value h
  rwa [Char.ofNat_toNat] at hc

/-! ### Digits among bytes -/

/-- A digit is one byte, its own number. -/
theorem utf8EncodeChar_of_isDigit (h : IsDigit c) :
    String.utf8EncodeChar c = [UInt8.ofNat c.toNat] := by
  obtain ⟨value, hvalue⟩ := isDigit_iff.1 h
  have hascii := lt_of_digitValue?_eq_some hvalue
  rw [String.utf8EncodeChar]
  exact if_pos (Nat.le_of_lt_succ hascii)

/-- A character whose bytes are digits is a digit: outside the ASCII range the first byte is too
large for one. -/
theorem isDigit_of_utf8EncodeChar
    (h : ∀ b ∈ String.utf8EncodeChar c, ∃ value, digitValue? b.toNat = some value) :
    IsDigit c := by
  have hbyte {n : Nat} (hmem : UInt8.ofNat n ∈ String.utf8EncodeChar c) (hsize : n < UInt8.size) :
      ∃ value, digitValue? n = some value := by
    have hvalue := h _ hmem
    rwa [UInt8.toNat_ofNat_of_lt' hsize] at hvalue
  -- A byte from 128 on cannot be a digit, so where one is, there is nothing to show.
  have hlarge {n : Nat} (hmem : UInt8.ofNat n ∈ String.utf8EncodeChar c) (hsize : n < UInt8.size)
      (hlow : 128 ≤ n) : IsDigit c := by
    obtain ⟨value, hvalue⟩ := hbyte hmem hsize
    exact absurd (lt_of_digitValue?_eq_some hvalue) (Nat.not_lt.2 hlow)
  have hscalar : c.val.toNat < 0xD800 ∨ 0xDFFF < c.val.toNat ∧ c.val.toNat < 0x110000 := c.valid
  have hsize : UInt8.size = 256 := rfl
  rw [String.utf8EncodeChar] at hbyte hlarge
  split at hbyte
  · next hascii =>
    rw [if_pos hascii] at hlarge
    exact isDigit_iff.2 (hbyte List.mem_cons_self (Nat.lt_of_le_of_lt hascii (by decide)))
  · next hwide =>
    rw [if_neg hwide] at hlarge
    split at hlarge
    · exact hlarge List.mem_cons_self (by omega) (by omega)
    split at hlarge
    · exact hlarge List.mem_cons_self (by omega) (by omega)
    · exact hlarge List.mem_cons_self (by omega) (by omega)

/-- The bytes of a text of digits are the numbers of its characters. -/
theorem encode_of_isDigit (h : ∀ c ∈ chars, IsDigit c) :
    Utf8.encode (String.ofList chars) = chars.map fun c ↦ UInt8.ofNat c.toNat := by
  rw [Utf8.encode, String.toList_ofList]
  induction chars with
  | nil => rfl
  | cons c rest ih =>
    rw [List.forall_mem_cons] at h
    rw [List.flatMap_cons, ih h.2, utf8EncodeChar_of_isDigit h.1]
    rfl

/-! ### Pairs of digits -/

/-- Bytes that are read in pairs are digits. -/
theorem forall_digit_of_decodePairs {position : Nat} {digits : List UInt8}
    (h : decodePairs position digits = .ok bytes) :
    ∀ b ∈ digits, ∃ value, digitValue? b.toNat = some value := by
  fun_induction decodePairs position digits generalizing bytes with
  | case1 => nofun
  | case2 => cases h
  | case3 => cases h
  | case4 => cases h
  | case5 position high low rest m hhigh n hlow ih =>
    rw [Except.map.eq_def] at h
    split at h
    · cases h
    · next hrest =>
      exact List.forall_mem_cons.2 ⟨⟨_, hhigh⟩, List.forall_mem_cons.2 ⟨⟨_, hlow⟩, ih hrest⟩⟩

/-- An even number of digits are read as bytes whose digits they are, but for their case. -/
theorem exists_decodePairs (position : Nat) (heven : chars.length % 2 = 0)
    (h : ∀ c ∈ chars, IsDigit c) :
    ∃ bytes, decodePairs position (chars.map fun c ↦ UInt8.ofNat c.toNat) = .ok bytes ∧
      encode bytes = chars.map Char.toLower := by
  -- Digits are read in pairs, so the induction takes two at a time, and an odd one is excluded.
  induction chars using List.twoStepInduction generalizing position with
  | nil => exact ⟨[], rfl, rfl⟩
  | singleton c => cases heven
  | cons_cons high low rest ih =>
    simp only [List.forall_mem_cons] at h
    obtain ⟨m, hhigh⟩ := isDigit_iff.1 h.1
    obtain ⟨n, hlow⟩ := isDigit_iff.1 h.2.1
    obtain ⟨hm, hm'⟩ := digit_of_digitValue? hhigh
    obtain ⟨hn, hn'⟩ := digit_of_digitValue? hlow
    have hrest : rest.length % 2 = 0 := by
      rw [List.length_cons, List.length_cons] at heven
      omega
    obtain ⟨bytes, hread, hwrite⟩ := ih (position + 2) hrest h.2.2
    have hascii {c : Char} {value : Nat} (hc : digitValue? c.toNat = some value) :
        (UInt8.ofNat c.toNat).toNat = c.toNat :=
      UInt8.toNat_ofNat_of_lt' (Nat.lt_trans (lt_of_digitValue?_eq_some hc) (by decide))
    have hbyte : (UInt8.ofNat (m * 16 + n)).toNat = m * 16 + n :=
      UInt8.toNat_ofNat_of_lt' (show m * 16 + n < 256 by omega)
    refine ⟨UInt8.ofNat (m * 16 + n) :: bytes, ?_, ?_⟩
    · rw [List.map_cons, List.map_cons, decodePairs, hascii hhigh, hhigh, hascii hlow, hlow]
      simp only [hread, Except.map]
    · rw [encode_cons, hbyte, hwrite, List.map_cons, List.map_cons, ← hm', ← hn',
        show (m * 16 + n) / 16 = m by omega, show (m * 16 + n) % 16 = n by omega]

theorem encode_injective {bytes' : List UInt8} (h : encode bytes = encode bytes') :
    bytes = bytes' := by
  have hdecode := decode_encode bytes
  rw [h, decode_encode] at hdecode
  exact (Except.ok.inj hdecode).symm

/-- A text is read exactly if it is an even number of digits, and then as the bytes with these
digits in lower case. -/
theorem decode_eq_ok_iff : decode (Utf8.encode (String.ofList chars)) = .ok bytes ↔
    chars.length % 2 = 0 ∧ (∀ c ∈ chars, IsDigit c) ∧ encode bytes = chars.map Char.toLower := by
  constructor
  · intro h
    rw [decode] at h
    split at h
    · cases h
    · next heven =>
      -- It is the number of bytes that is even; that there is one for each character needs this.
      have hdigits : ∀ c ∈ chars, IsDigit c := by
        intro c hc
        refine isDigit_of_utf8EncodeChar fun b hb ↦ forall_digit_of_decodePairs h b ?_
        rw [Utf8.encode, String.toList_ofList]
        exact List.mem_flatMap.2 ⟨c, hc, hb⟩
      rw [encode_of_isDigit hdigits] at heven h
      have heven' : chars.length % 2 = 0 := by
        rw [List.length_map] at heven
        omega
      obtain ⟨bytes', hread, hwrite⟩ := exists_decodePairs 0 heven' hdigits
      cases hread.symm.trans h
      exact ⟨heven', hdigits, hwrite⟩
  · rintro ⟨heven, hdigits, hwrite⟩
    obtain ⟨bytes', hread, hwrite'⟩ := exists_decodePairs 0 heven hdigits
    rw [decode, encode_of_isDigit hdigits, List.length_map, if_neg (by omega), hread,
      encode_injective (hwrite'.trans hwrite.symm)]

end Hex

namespace Bytes

variable {text text' : String} {digits digits' : List Char} {bytes bytes' : Bytes}

/-! ### Markers -/

/-- The digits of a text: what is left of it without the markers in front. -/
def Spells (text : String) (digits : List Char) : Prop :=
  (∃ n, text.toList = (List.replicate n ['0', 'x']).flatten ++ digits) ∧ ¬['0', 'x'] <+: digits

theorem dropMarkers_eq_self (h : ¬['0', 'x'] <+: digits) : dropMarkers digits = digits := by
  unfold dropMarkers
  split
  · next rest => exact absurd ⟨rest, rfl⟩ h
  · rfl

/-- Every text has digits: they are what is left of it behind the markers. -/
theorem spells_dropMarkers (text : String) : Spells text (dropMarkers text.toList) := by
  unfold Spells
  generalize text.toList = chars
  fun_induction dropMarkers chars with
  | case1 rest ih =>
    obtain ⟨⟨n, hn⟩, hprefix⟩ := ih
    refine ⟨⟨n + 1, ?_⟩, hprefix⟩
    rw [List.replicate_succ, List.flatten_cons, List.append_assoc, ← hn]
    rfl
  | case2 digits h =>
    refine ⟨⟨0, rfl⟩, ?_⟩
    rintro ⟨rest, rfl⟩
    exact h rest rfl

/-- Reading drops the markers, however many there are. -/
theorem Spells.dropMarkers_eq (h : Spells text digits) : dropMarkers text.toList = digits := by
  obtain ⟨⟨n, hn⟩, hprefix⟩ := h
  rw [hn]
  clear hn
  induction n with
  | zero => exact dropMarkers_eq_self hprefix
  | succ n ih =>
    rw [List.replicate_succ, List.flatten_cons, List.append_assoc]
    exact ih

/-! ### Bytes and their spellings -/

theorem toHex_eq_iff :
    bytes.toHex = "0x" ++ String.ofList digits ↔ Hex.encode bytes.toList = digits := by
  rw [toHex, ← String.toList_inj, String.toList_append, String.toList_ofList (l := digits),
    String.toList_ofList]
  exact List.append_right_inj ['0', 'x']

/-- A text is read exactly if its digits are an even number of hexadecimal digits, and then as the
bytes that are written with these digits in lower case. -/
theorem ofHex_eq_ok_iff (h : Spells text digits) : ofHex text = .ok bytes ↔
    digits.length % 2 = 0 ∧ (∀ c ∈ digits, Hex.IsDigit c) ∧
      bytes.toHex = "0x" ++ String.ofList (digits.map Char.toLower) := by
  rw [toHex_eq_iff, ← Hex.decode_eq_ok_iff, ofHex, h.dropMarkers_eq]
  cases Hex.decode (Utf8.encode (String.ofList digits)) with
  | error => simp [Except.map]
  | ok list =>
    obtain ⟨bytes⟩ := bytes
    simp [Except.map]

/-- A text is read if its digits are an even number of hexadecimal digits. -/
theorem exists_ofHex_iff (h : Spells text digits) :
    (∃ bytes, ofHex text = .ok bytes) ↔ digits.length % 2 = 0 ∧ ∀ c ∈ digits, Hex.IsDigit c := by
  simp only [ofHex_eq_ok_iff h]
  constructor
  · rintro ⟨bytes, heven, hdigits, -⟩
    exact ⟨heven, hdigits⟩
  · rintro ⟨heven, hdigits⟩
    obtain ⟨list, -, hwrite⟩ := Hex.exists_decodePairs 0 heven hdigits
    exact ⟨⟨list⟩, heven, hdigits, toHex_eq_iff.2 hwrite⟩

/-- Byte strings that are written alike are the same. -/
theorem toHex_injective (h : bytes.toHex = bytes'.toHex) : bytes = bytes' := by
  have hread := ofHex_toHex bytes
  rw [h, ofHex_toHex] at hread
  exact (Except.ok.inj hread).symm

/-- Two texts are the same bytes exactly if their digits are the same but for the case. -/
theorem eq_iff_map_toLower (h : Spells text digits) (h' : Spells text' digits')
    (reads : ofHex text = .ok bytes) (reads' : ofHex text' = .ok bytes') :
    bytes = bytes' ↔ digits.map Char.toLower = digits'.map Char.toLower := by
  obtain ⟨-, -, hhex⟩ := (ofHex_eq_ok_iff h).1 reads
  obtain ⟨-, -, hhex'⟩ := (ofHex_eq_ok_iff h').1 reads'
  constructor
  · rintro rfl
    rw [hhex, ← String.toList_inj] at hhex'
    simpa using hhex'
  · intro heq
    rw [heq, ← hhex'] at hhex
    exact toHex_injective hhex

end Bytes

/-- Content ids are the same exactly if they are made of the same bytes. -/
theorem Id.ofContent_inj {bytes bytes' : Bytes} :
    Id.ofContent bytes = Id.ofContent bytes' ↔ bytes = bytes' :=
  ⟨fun h ↦ Bytes.toHex_injective (congrArg Id.text h), congrArg Id.ofContent⟩

end ChainProjection

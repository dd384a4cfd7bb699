import ChainProjection.Text.Utf8

/-!
# Reading texts back

**The bytes of a text are read back as the text**, by the reader that refuses malformed bytes
(`decode?_encode`) and by the one that replaces them (`decodeLossy_encode`).

A character is written in one to four bytes, and the reader follows them from between characters to
between characters (`partsFrom_utf8EncodeChar`).  There is a lemma for each step it can take on the
way.  The ranges that the reader has for the second byte leave out what no character is written as:
forms that are longer than needed, surrogates, and numbers past the last character.  So the lemmas
about first bytes have these limits as hypotheses on the byte that comes next, and that the bytes of
a character meet them is arithmetic on its number, where the only fact about characters is that a
number is that of a character.

Nothing is said here of bytes that are not those of a text.
-/

namespace ChainProjection.Utf8

variable {byte bits low high more : Nat}

/-! ### First bytes -/

/-- A byte below 128 is a character. -/
theorem step_ground_one (h : byte ≤ 0x7F) :
    step .ground byte = ([some (Char.ofNat byte)], .ground) := by
  rw [step, start, if_pos (by omega)]

theorem step_ground_two (hlow : 0xC2 ≤ byte) (hhigh : byte ≤ 0xDF) :
    step .ground byte = ([], .inside (byte - 0xC0) 0x80 0xBF 0) := by
  rw [step, start, if_neg (by omega), if_neg (by omega), if_pos hhigh]

/-- The first of three bytes.  The second is out of range where two bytes would have done and where
the character would be a surrogate. -/
theorem exists_step_ground_three (byte next : Nat) (hlow : 0xE0 ≤ byte) (hhigh : byte ≤ 0xEF)
    (hnext : 0x80 ≤ next) (hnext' : next ≤ 0xBF) (hlong : byte = 0xE0 → 0xA0 ≤ next)
    (hsurrogate : byte = 0xED → next ≤ 0x9F) :
    ∃ low high, step .ground byte = ([], .inside (byte - 0xE0) low high 1) ∧
      low ≤ next ∧ next ≤ high := by
  rw [step, start, if_neg (by omega), if_neg (by omega), if_neg (by omega)]
  split
  · next h => exact ⟨_, _, by rw [h], hlong h, hnext'⟩
  split
  · next h => exact ⟨_, _, by rw [h], hnext, hsurrogate h⟩
  · exact ⟨_, _, rfl, hnext, hnext'⟩

/-- The first of four bytes.  The second is out of range where three bytes would have done and where
there is no such character. -/
theorem exists_step_ground_four (byte next : Nat) (hlow : 0xF0 ≤ byte) (hhigh : byte ≤ 0xF4)
    (hnext : 0x80 ≤ next) (hnext' : next ≤ 0xBF) (hlong : byte = 0xF0 → 0x90 ≤ next)
    (hlast : byte = 0xF4 → next ≤ 0x8F) :
    ∃ low high, step .ground byte = ([], .inside (byte - 0xF0) low high 2) ∧
      low ≤ next ∧ next ≤ high := by
  rw [step, start, if_neg (by omega), if_neg (by omega), if_neg (by omega), if_neg (by omega),
    if_neg (by omega), if_neg (by omega)]
  split
  · next h => exact ⟨_, _, by rw [h], hlong h, hnext'⟩
  split
  · exact ⟨_, _, rfl, hnext, hnext'⟩
  · have h : byte = 0xF4 := by omega
    exact ⟨_, _, by rw [if_pos h, h], hnext, hlast h⟩

/-! ### Further bytes -/

/-- The last byte of a character completes it. -/
theorem step_inside_zero (hlow : low ≤ byte) (hhigh : byte ≤ high) :
    step (.inside bits low high 0) byte =
      ([some (Char.ofNat (bits * 64 + (byte - 0x80)))], .ground) := by
  rw [step, if_pos ⟨hlow, hhigh⟩]

/-- A byte before the last adds its bits. -/
theorem step_inside_succ (hlow : low ≤ byte) (hhigh : byte ≤ high) :
    step (.inside bits low high (more + 1)) byte =
      ([], .inside (bits * 64 + (byte - 0x80)) 0x80 0xBF more) := by
  rw [step, if_pos ⟨hlow, hhigh⟩]

/-! ### Characters and texts -/

theorem partsFrom_cons {progress progress' : Progress} {parts : List (Option Char)} {byte : Nat}
    (h : step progress byte = (parts, progress')) (hbyte : byte < UInt8.size) (rest : List UInt8) :
    partsFrom progress (UInt8.ofNat byte :: rest) = parts ++ partsFrom progress' rest := by
  rw [partsFrom, UInt8.toNat_ofNat_of_lt' hbyte, h]

/-- The bytes of a character are read as the character, and the reader is between characters
again. -/
theorem partsFrom_utf8EncodeChar (c : Char) (rest : List UInt8) :
    partsFrom .ground (String.utf8EncodeChar c ++ rest) = some c :: partsFrom .ground rest := by
  have hscalar : c.val.toNat < 0xD800 ∨ 0xDFFF < c.val.toNat ∧ c.val.toNat < 0x110000 := c.valid
  have hc : Char.ofNat c.val.toNat = c := Char.ofNat_toNat c
  have hsize : UInt8.size = 256 := rfl
  -- One case for each length: the bits that the bytes carry make up the number again.
  rw [String.utf8EncodeChar]
  generalize c.val.toNat = v at *
  split
  · rw [List.cons_append, partsFrom_cons (step_ground_one ‹_›) (by omega), hc]
    rfl
  split
  · rw [List.cons_append, partsFrom_cons (step_ground_two (by omega) (by omega)) (by omega),
      List.cons_append, partsFrom_cons (step_inside_zero (by omega) (by omega)) (by omega),
      show (v / 64 % 32 + 0xC0 - 0xC0) * 64 + (v % 64 + 0x80 - 0x80) = v by omega, hc]
    rfl
  split
  · obtain ⟨low, high, hstart, hlow, hhigh⟩ := exists_step_ground_three (v / 4096 % 16 + 0xE0)
      (v / 64 % 64 + 0x80) (by omega) (by omega) (by omega) (by omega) (by omega) (by omega)
    rw [List.cons_append, partsFrom_cons hstart (by omega),
      List.cons_append, partsFrom_cons (step_inside_succ hlow hhigh) (by omega),
      List.cons_append, partsFrom_cons (step_inside_zero (by omega) (by omega)) (by omega),
      show ((v / 4096 % 16 + 0xE0 - 0xE0) * 64 + (v / 64 % 64 + 0x80 - 0x80)) * 64 +
        (v % 64 + 0x80 - 0x80) = v by omega, hc]
    rfl
  · obtain ⟨low, high, hstart, hlow, hhigh⟩ := exists_step_ground_four (v / 262144 % 8 + 0xF0)
      (v / 4096 % 64 + 0x80) (by omega) (by omega) (by omega) (by omega) (by omega) (by omega)
    rw [List.cons_append, partsFrom_cons hstart (by omega),
      List.cons_append, partsFrom_cons (step_inside_succ hlow hhigh) (by omega),
      List.cons_append, partsFrom_cons (step_inside_succ (by omega) (by omega)) (by omega),
      List.cons_append, partsFrom_cons (step_inside_zero (by omega) (by omega)) (by omega),
      show (((v / 262144 % 8 + 0xF0 - 0xF0) * 64 + (v / 4096 % 64 + 0x80 - 0x80)) * 64 +
        (v / 64 % 64 + 0x80 - 0x80)) * 64 + (v % 64 + 0x80 - 0x80) = v by omega, hc]
    rfl

/-- The bytes of characters in a row are read as the characters. -/
theorem parts_flatMap_utf8EncodeChar (chars : List Char) :
    parts (chars.flatMap String.utf8EncodeChar) = chars.map some := by
  induction chars with
  | nil => rfl
  | cons c chars ih =>
    rw [List.flatMap_cons, parts, partsFrom_utf8EncodeChar, ← parts, ih, List.map_cons]

/-- The bytes of a text are well-formed and are read as the text. -/
theorem decode?_encode (text : String) : decode? (encode text) = some text := by
  have hall : (text.toList.map some).mapM id = some text.toList := by
    rw [List.mapM_map]
    exact List.mapM_pure.trans (congrArg some (List.map_id _))
  rw [decode?, encode, parts_flatMap_utf8EncodeChar, hall, Option.map_some, String.ofList_toList]

/-- Nothing of a text is replaced when its bytes are read. -/
theorem decodeLossy_encode (text : String) : decodeLossy (encode text) = text := by
  rw [decodeLossy, encode, parts_flatMap_utf8EncodeChar, List.map_map]
  exact (congrArg String.ofList (List.map_id text.toList)).trans String.ofList_toList

end ChainProjection.Utf8

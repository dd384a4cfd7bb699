import ChainProjection.Json.Literal
import ChainProjection.Json.Printer
import Mathlib.Tactic.SplitIfs
import Std.Data.String.ToNat

/-!
# JSON text read back

A value is plain (`Plain`) if it has no floating point numbers, no integer the text does not take,
and the members of its objects in order, and if it does not nest too deep.  **The text of a plain
value reads as the value** (`Plain.ofText?_render`).

Every condition is needed.  A number with a fraction is written with as many digits as tell it
apart, and reads as a neighbour at times; members out of order come back in order; and the reader
counts levels and gives up at a limit, which the writer does not.

The scanner reads on as far as it can, so what is said of it is said with a text that follows and
does not go on with the number before it (`EndsNumber`); and it has fuel, of which it needs at most
two for each character.  Both are in the statement that the induction over the value carries,
`ReadsAs`: whatever follows, and with whatever fuel is enough, the text is scanned as one and the
same literal, and this literal has the value.  That it begins with a character that no list ends
with is there for arrays, where the scanner has to tell an item from the bracket.

There is a lemma for each kind of value, `readsAs_null` to `exists_readsAs_object`, and under them
one for each reader: digits, numbers, the escapes of strings, items and members.  A sequence is
scanned by an induction from its end, with the separator behind all items but the last.
-/

namespace ChainProjection.Json

/-! ### Digits -/

/-- The text does not begin like something that a number could go on with. -/
def EndsNumber (rest : List Char) : Prop :=
  ∀ c ∈ rest.head?, digit? c = none ∧ c ≠ '.' ∧ c ≠ 'e' ∧ c ≠ 'E'

theorem endsNumber_nil : EndsNumber [] := by
  intro c hc
  cases hc

theorem endsNumber_cons {c : Char} {rest : List Char} (h : c = ',' ∨ c = ']' ∨ c = '\x7d') :
    EndsNumber (c :: rest) := by
  intro c' hc'
  cases hc'
  rcases h with rfl | rfl | rfl <;> decide

theorem digit?_of_isDigit {c : Char} (h : c.isDigit = true) : digit? c = some (c.toNat - 48) := by
  rw [Char.isDigit_iff_toNat] at h
  have hlow : '0' ≤ c := h.1
  have hhigh : c ≤ '9' := h.2
  rw [digit?, if_pos ⟨hlow, hhigh⟩]

/-- No digits are taken where a number is over. -/
theorem spanDigits_of_endsNumber {rest : List Char} (h : EndsNumber rest) :
    spanDigits rest = ([], rest) := by
  cases rest with
  | nil => rfl
  | cons c rest =>
    rw [spanDigits, (h c rfl).1]

/-- Digits are taken up to where the number is over. -/
theorem spanDigits_append {digits rest : List Char} (hdigits : ∀ c ∈ digits, c.isDigit = true)
    (hrest : EndsNumber rest) :
    spanDigits (digits ++ rest) = (digits.map (·.toNat - 48), rest) := by
  induction digits with
  | nil => exact spanDigits_of_endsNumber hrest
  | cons c digits ih =>
    rw [List.forall_mem_cons] at hdigits
    rw [List.cons_append, spanDigits, digit?_of_isDigit hdigits.1]
    simp only [ih hdigits.2, List.map_cons]

/-- A positive number is not written with a zero in front. -/
theorem head?_toDigits_ne {n : Nat} (h : 0 < n) : (Nat.toDigits 10 n).head? ≠ some '0' := by
  induction n using Nat.strongRecOn with
  | _ n ih =>
    by_cases hlt : n < 10
    · have hsingle : ∀ m < 10, 0 < m → [m.digitChar].head? ≠ some '0' := by decide
      rw [Nat.toDigits_of_lt_base hlt]
      exact hsingle n hlt h
    · rw [Nat.toDigits_of_base_le (by decide) (by omega), List.head?_append]
      have hrest := ih (n / 10) (by omega) (by omega)
      cases hdigits : Nat.toDigits 10 (n / 10) with
      | nil => exact absurd hdigits Nat.toDigits_ne_nil
      | cons c rest =>
        rw [hdigits] at hrest
        exact hrest

/-- Digits are added up as long as their number has 64 bits. -/
theorem accumulate_eq {digits : List Char} {start : Nat}
    (h : Nat.ofDigitChars 10 digits start < UInt64.size) :
    accumulate start (digits.map (·.toNat - 48)) = (Nat.ofDigitChars 10 digits start, []) := by
  induction digits generalizing start with
  | nil => rfl
  | cons c digits ih =>
    rw [Nat.ofDigitChars_cons] at h ⊢
    have hle : 10 * start + (c.toNat - 48) ≤
        Nat.ofDigitChars 10 digits (10 * start + (c.toNat - 48)) := by
      rw [Nat.ofDigitChars_eq_ofDigitChars_zero]
      exact Nat.le_add_right_of_le (Nat.le_mul_of_pos_left _ (Nat.pow_pos (by decide)))
    rw [List.map_cons, accumulate, Nat.mul_comm start, if_pos (Nat.lt_of_le_of_lt hle h)]
    exact ih h

/-! ### Numbers -/

/-- A whole number as it is written. -/
def wholeLiteral (negative : Bool) (n : Nat) : NumberLiteral :=
  ⟨negative, (Nat.toDigits 10 n).map (·.toNat - 48), [], none⟩

theorem scanFraction_of_endsNumber {rest : List Char} (h : EndsNumber rest) :
    scanFraction rest = some ([], rest) := by
  cases rest with
  | nil => rfl
  | cons c rest =>
    rw [scanFraction]
    rintro rest' heq
    cases heq
    exact (h '.' rfl).2.1 rfl

theorem scanExponent_of_endsNumber {rest : List Char} (h : EndsNumber rest) :
    scanExponent rest = some (none, rest) := by
  cases rest with
  | nil => rfl
  | cons c rest =>
    obtain ⟨-, -, he, hE⟩ := h c rfl
    exact if_neg (not_or.2 ⟨he, hE⟩)

/-- The digits of a number do not begin with a zero that another digit follows. -/
theorem map_toDigits_ne (n d : Nat) (ds : List Nat) :
    (Nat.toDigits 10 n).map (·.toNat - 48) ≠ 0 :: d :: ds := by
  intro heq
  rcases Nat.eq_zero_or_pos n with rfl | hpos
  · cases heq
  · obtain ⟨c, cs, hcs, hc, -⟩ := List.map_eq_cons_iff.1 heq
    have hdigit : c.isDigit = true :=
      Nat.isDigit_of_mem_toDigits (by decide) (by decide) (hcs ▸ List.mem_cons_self)
    have hhead := head?_toDigits_ne hpos
    rw [Char.isDigit_iff_toNat] at hdigit
    rw [hcs, List.head?_cons, ne_eq, Option.some_inj] at hhead
    exact hhead (Char.toNat_inj.1 (Nat.le_antisymm (Nat.sub_eq_zero_iff_le.1 hc) hdigit.1))

/-- A whole number is scanned as its sign and its digits, and what follows is left. -/
theorem scanNumber_append (negative : Bool) (n : Nat) {rest : List Char} (h : EndsNumber rest) :
    scanNumber ((if negative then ['-'] else []) ++ (Nat.toDigits 10 n ++ rest)) =
      some (wholeLiteral negative n, rest) := by
  have hdigits : ∀ c ∈ Nat.toDigits 10 n, c.isDigit = true :=
    fun c hc ↦ Nat.isDigit_of_mem_toDigits (by decide) (by decide) hc
  have hminus (rest' : List Char) : Nat.toDigits 10 n ++ rest ≠ '-' :: rest' := by
    intro heq
    cases hn : Nat.toDigits 10 n with
    | nil => exact absurd hn Nat.toDigits_ne_nil
    | cons c ds =>
      rw [hn] at heq hdigits
      cases heq
      exact absurd (hdigits '-' List.mem_cons_self) (by decide)
  have hspan := spanDigits_append hdigits h
  have hnonempty : (Nat.toDigits 10 n).map (·.toNat - 48) ≠ [] := by
    simp [Nat.toDigits_ne_nil]
  have hzero := map_toDigits_ne n
  rw [wholeLiteral]
  -- The sign is in front of the digits or not; what is behind the digits is no part of the number.
  rcases negative with - | -
  case' true => rw [if_pos rfl, List.cons_append, List.nil_append, scanNumber, hspan]
  case' false =>
    rw [if_neg Bool.false_ne_true, List.nil_append, scanNumber, hspan]
    case x => exact hminus
  all_goals
    generalize (Nat.toDigits 10 n).map (·.toNat - 48) = whole at hnonempty hzero
    rcases whole with _ | ⟨_ | d, _ | ⟨e, ds⟩⟩
    · exact absurd rfl hnonempty
    · simp [scanFraction_of_endsNumber h, scanExponent_of_endsNumber h]
    · exact absurd rfl (hzero e ds)
    · simp [scanFraction_of_endsNumber h, scanExponent_of_endsNumber h]
    · simp [scanFraction_of_endsNumber h, scanExponent_of_endsNumber h]

/-- An integer is written as its sign and its digits. -/
theorem toList_toString (n : Int) :
    (toString n).toList = (if n < 0 then ['-'] else []) ++ Nat.toDigits 10 n.natAbs := by
  rw [Int.toString_eq_repr, Int.repr_eq_if]
  by_cases h : n < 0
  · rw [if_neg (by omega), if_pos h, String.toList_append, Nat.toList_repr]
    congr 2
    omega
  · rw [if_pos (by omega), if_neg h, Nat.toList_repr, List.nil_append]
    congr 1
    omega

/-- An integer of 64 bits, with or without a sign, is the value of what is written for it. -/
theorem value?_wholeLiteral {n : Int} (h : -signedLimit ≤ n ∧ n < UInt64.size) :
    (wholeLiteral (decide (n < 0)) n.natAbs).value? = some (.int n) := by
  have hdigits := Nat.ofDigitChars_ten_toDigits (n := n.natAbs)
  have hsize : n.natAbs < UInt64.size := by
    -- A negative number goes down to the signed limit, which is the smaller one.
    have : signedLimit < UInt64.size := by decide
    omega
  have hsum : accumulate 0 ((Nat.toDigits 10 n.natAbs).map (·.toNat - 48)) = (n.natAbs, []) := by
    rw [accumulate_eq (hdigits.symm ▸ hsize), hdigits]
  rw [NumberLiteral.value?, wholeLiteral, hsum]
  by_cases hneg : n < 0
  · have hin : ¬(n.natAbs = 0 ∨ signedLimit < n.natAbs) := by omega
    have hvalue : -(n.natAbs : Int) = n := by omega
    simp only [hneg, decide_true, Bool.not_true, and_self, if_true, Bool.false_eq_true, if_false,
      if_neg hin, hvalue]
  · have hvalue : (n.natAbs : Int) = n := by omega
    simp only [hneg, decide_false, Bool.not_false, and_self, if_true, hvalue]

/-! ### Strings -/

/-- A control is written as the four digits of its number. -/
theorem exists_hexQuad {n : Nat} (h : n < 0x20) :
    ∃ a b c d, List.replicate (4 - (Nat.toDigits 16 n).length) '0' ++ Nat.toDigits 16 n =
      [a, b, c, d] ∧ hexQuad? a b c d = some n := by
  have hquad : ∀ n < 0x20,
      let cs := List.replicate (4 - (Nat.toDigits 16 n).length) '0' ++ Nat.toDigits 16 n
      cs = [cs.getD 0 '0', cs.getD 1 '0', cs.getD 2 '0', cs.getD 3 '0'] ∧
        hexQuad? (cs.getD 0 '0') (cs.getD 1 '0') (cs.getD 2 '0') (cs.getD 3 '0') = some n := by
    decide
  exact ⟨_, _, _, _, hquad n h⟩

/-- A character is scanned as it was, whether it was escaped or not. -/
theorem scanString_escapeChar (c : Char) (rest : List Char) :
    scanString none (escapeChar c ++ rest) =
      (scanString none rest).map fun (text, after) ↦ (text.map (c :: ·), after) := by
  rw [escapeChar]
  split_ifs with hquote hslash hb ht hn hf hr hcontrol
  · rw [hquote]
    rfl
  · rw [hslash]
    rfl
  · obtain rfl : c = '\x08' := Char.toNat_inj.1 hb
    rfl
  · obtain rfl : c = '\t' := Char.toNat_inj.1 ht
    rfl
  · obtain rfl : c = '\n' := Char.toNat_inj.1 hn
    rfl
  · obtain rfl : c = '\x0c' := Char.toNat_inj.1 hf
    rfl
  · obtain rfl : c = '\r' := Char.toNat_inj.1 hr
    rfl
  · obtain ⟨a, b, c', d, hdigits, hquad⟩ := exists_hexQuad hcontrol
    -- A control is far from the surrogates, which are the only numbers that are read in pairs.
    have hplain : ¬(0xD800 ≤ c.toNat ∧ c.toNat < 0xDC00) := by omega
    have hplain' : ¬(0xDC00 ≤ c.toNat ∧ c.toNat < 0xE000) := by omega
    dsimp only
    rw [List.append_assoc, List.append_assoc, ← List.append_assoc (List.replicate _ _), hdigits]
    show scanString none ('\\' :: 'u' :: a :: b :: c' :: d :: rest) = _
    rw [scanString, hquad]
    simp only [if_neg hplain, if_neg hplain', Char.ofNat_toNat]
  · rw [List.cons_append, List.nil_append, scanString]
    · rw [if_neg hcontrol]
      rfl
    · exact hquote
    · exact fun _ _ _ _ _ heq ↦ absurd heq hslash
    · exact fun _ _ heq ↦ absurd heq hslash

/-- What is written of a text is read up to the quote behind it. -/
theorem scanString_flatMap (text rest : List Char) :
    scanString none (text.flatMap escapeChar ++ '"' :: rest) = some (some text, rest) := by
  induction text with
  | nil => rfl
  | cons c text ih =>
    rw [List.flatMap_cons, List.append_assoc, scanString_escapeChar, ih]
    rfl

theorem toList_literal (text : String) :
    (literal text).toList = '"' :: (text.toList.flatMap escapeChar ++ ['"']) := by
  rw [literal, String.toList_ofList]
  rfl

/-! ### Plain values -/

/-- A value without floating point numbers, of integers the text takes and objects in order, that
opens at most `depth` levels of arrays and objects. -/
inductive Plain : Nat → Json → Prop
  | null {depth : Nat} : Plain depth .null
  | bool {depth : Nat} (value : Bool) : Plain depth (.bool value)
  | int {depth : Nat} {n : Int} (range : -signedLimit ≤ n ∧ n < UInt64.size) : Plain depth (.int n)
  | string {depth : Nat} (text : String) : Plain depth (.string text)
  | array {depth : Nat} {items : List Json} (plain : ∀ item ∈ items, Plain depth item) :
      Plain (depth + 1) (.array items)
  | object {depth : Nat} {members : List (String × Json)}
      (plain : ∀ member ∈ members, Plain depth member.2)
      (ordered : (members.map Prod.fst).Pairwise (· < ·)) : Plain (depth + 1) (.object members)

/-- A character that a value can begin with. -/
abbrev BeginsValue (c : Char) : Prop := c ≠ ' ' ∧ c ≠ '\n' ∧ c ≠ '\t' ∧ c ≠ '\r' ∧ c ≠ ']'

/-- No blanks are skipped where a value begins. -/
theorem skipSpace_of_beginsValue {c : Char} (h : BeginsValue c) (rest : List Char) :
    skipSpace (c :: rest) = c :: rest :=
  if_neg fun hspace ↦ by
    rcases hspace with hc | hc | hc | hc
    · exact h.1 hc
    · exact h.2.1 hc
    · exact h.2.2.1 hc
    · exact h.2.2.2.1 hc

/-- The text of a value is scanned as a literal that has the value. -/
structure ReadsAs (depth : Nat) (value : Json) (scanned : Literal) : Prop where
  begins : ∃ c cs, (render value).toList = c :: cs ∧ BeginsValue c
  meaning : scanned.value? (depth + 1) = some value
  scans : ∀ fuel rest, 2 * (render value).toList.length ≤ fuel → EndsNumber rest →
    scanValue fuel ((render value).toList ++ rest) = some (scanned, rest)

variable {depth : Nat}

theorem readsAs_null : ReadsAs depth .null .null where
  begins := ⟨'n', ['u', 'l', 'l'], rfl, by decide⟩
  meaning := by rw [Literal.value?]
  scans fuel rest hfuel _ := by
    cases fuel with
    | zero => exact absurd hfuel (by decide)
    | succ fuel =>
      rw [scanValue]
      rfl

theorem readsAs_bool (b : Bool) : ReadsAs depth (.bool b) (.bool b) where
  begins := by
    cases b with
    | false => exact ⟨'f', ['a', 'l', 's', 'e'], rfl, by decide⟩
    | true => exact ⟨'t', ['r', 'u', 'e'], rfl, by decide⟩
  meaning := by rw [Literal.value?]
  scans fuel rest hfuel _ := by
    cases fuel with
    | zero => cases b <;> exact absurd hfuel (by decide)
    | succ fuel =>
      cases b <;>
      · rw [scanValue]
        rfl

theorem readsAs_string (text : String) :
    ReadsAs depth (.string text) (.string (some text)) where
  begins := ⟨'"', _, by rw [render, toList_literal], by decide⟩
  meaning := by
    rw [Literal.value?]
    rfl
  scans fuel rest hfuel _ := by
    rw [render, toList_literal] at *
    cases fuel with
    | zero => exact absurd hfuel (by simp)
    | succ fuel =>
      rw [List.cons_append, List.append_assoc, scanValue]
      show (scanString none (text.toList.flatMap escapeChar ++ '"' :: rest)).map _ = _
      rw [scanString_flatMap]
      simp

/-- What begins like a number is scanned as one. -/
theorem scanValue_number {fuel : Nat} {c : Char} {rest : List Char}
    (h : c = '-' ∨ c.isDigit = true) :
    scanValue (fuel + 1) (c :: rest) =
      (scanNumber (c :: rest)).map fun (digits, after) ↦ (.number digits, after) := by
  have hne {d : Char} (hd : d ≠ '-' ∧ d.isDigit = false) : c ≠ d := by
    rintro rfl
    rcases h with rfl | hdigit
    · exact hd.1 rfl
    · exact absurd hd.2 (by simp [hdigit])
  have hspace : skipSpace (c :: rest) = c :: rest := if_neg fun hspace ↦ by
    rcases hspace with hc | hc | hc | hc <;> exact hne (by decide) hc
  rw [scanValue, hspace]
  split
  · next heq => exact absurd (List.cons.inj heq).1 (hne (by decide))
  · next heq => exact absurd (List.cons.inj heq).1 (hne (by decide))
  · next heq => exact absurd (List.cons.inj heq).1 (hne (by decide))
  · next heq => exact absurd (List.cons.inj heq).1 (hne (by decide))
  · next heq => exact absurd (List.cons.inj heq).1 (hne (by decide))
  · next heq => exact absurd (List.cons.inj heq).1 (hne (by decide))
  · rfl

/-- The text of an integer begins with its sign or with a digit. -/
theorem exists_toList_toString (n : Int) :
    ∃ c cs, (toString n).toList = c :: cs ∧ (c = '-' ∨ c.isDigit = true) := by
  rw [toList_toString]
  by_cases hneg : n < 0
  · exact ⟨'-', _, by rw [if_pos hneg]; rfl, Or.inl rfl⟩
  · rw [if_neg hneg, List.nil_append]
    cases hdigits : Nat.toDigits 10 n.natAbs with
    | nil => exact absurd hdigits Nat.toDigits_ne_nil
    | cons c cs =>
      have hdigit : c.isDigit = true :=
        Nat.isDigit_of_mem_toDigits (by decide) (by decide) (hdigits ▸ List.mem_cons_self)
      exact ⟨c, cs, rfl, Or.inr hdigit⟩

theorem beginsValue_of_number {c : Char} (h : c = '-' ∨ c.isDigit = true) : BeginsValue c := by
  refine ⟨?_, ?_, ?_, ?_, ?_⟩ <;>
  · rintro rfl
    exact absurd h (by decide)

theorem readsAs_int {n : Int} (h : -signedLimit ≤ n ∧ n < UInt64.size) :
    ReadsAs depth (.int n) (.number (wholeLiteral (decide (n < 0)) n.natAbs)) where
  begins := by
    obtain ⟨c, cs, hcs, hc⟩ := exists_toList_toString n
    exact ⟨c, cs, by rw [render, hcs], beginsValue_of_number hc⟩
  meaning := by rw [Literal.value?, value?_wholeLiteral h]
  scans fuel rest hfuel hrest := by
    have hscan := scanNumber_append (decide (n < 0)) n.natAbs hrest
    simp only [decide_eq_true_eq] at hscan
    rw [← List.append_assoc, ← toList_toString] at hscan
    obtain ⟨c, cs, hcs, hc⟩ := exists_toList_toString n
    rw [hcs, List.cons_append] at hscan
    rw [render, hcs] at hfuel ⊢
    cases fuel with
    | zero => exact absurd hfuel (by simp)
    | succ fuel =>
      rw [List.cons_append, scanValue_number hc, hscan]
      rfl

/-! ### Arrays -/

/-- The items of an array are scanned one by one, up to the bracket. -/
theorem readsAs_items {items : List Json} (hne : items ≠ [])
    (h : ∀ item ∈ items, ∃ scanned, ReadsAs depth item scanned) :
    ∃ scanned, Literal.values? (depth + 1) scanned = some items ∧
      (∃ c cs, (renderItems items).toList = c :: cs ∧ BeginsValue c) ∧
      ∀ fuel rest, 2 * (renderItems items).toList.length + 1 ≤ fuel →
        scanItems fuel ((renderItems items).toList ++ ']' :: rest) = some (scanned, rest) := by
  induction items with
  | nil => exact absurd rfl hne
  | cons item items ih =>
    rw [List.forall_mem_cons] at h
    obtain ⟨⟨scanned, hitem⟩, hitems⟩ := h
    obtain ⟨c, cs, hcs, hc⟩ := hitem.begins
    cases items with
    | nil =>
      refine ⟨[scanned], ?_, ⟨c, cs, hcs, hc⟩, fun fuel rest hfuel ↦ ?_⟩
      · rw [Literal.values?, hitem.meaning]
        rfl
      · obtain ⟨fuel, rfl⟩ := Nat.exists_eq_add_of_le' (Nat.le_of_add_left_le hfuel)
        rw [renderItems] at hfuel ⊢
        rw [scanItems, hitem.scans _ _ (by omega) (endsNumber_cons (Or.inr (Or.inl rfl)))]
        rfl
    | cons next rest' =>
      obtain ⟨later, hlater, -, hscan⟩ := ih (List.cons_ne_nil _ _) hitems
      have htext : (renderItems (item :: next :: rest')).toList =
          (render item).toList ++ ',' :: (renderItems (next :: rest')).toList := by
        rw [renderItems, String.toList_append, String.toList_append, List.append_assoc]
        · rfl
        · exact List.cons_ne_nil _ _
      rw [htext]
      refine ⟨scanned :: later, ?_, ?_, fun fuel rest hfuel ↦ ?_⟩
      · rw [Literal.values?, hitem.meaning, hlater]
      · exact ⟨c, _, by rw [hcs, List.cons_append], hc⟩
      · -- The comma pays for the step to the next item, and the item for its own scan.
        obtain ⟨fuel, rfl⟩ := Nat.exists_eq_add_of_le' (Nat.le_of_add_left_le hfuel)
        rw [List.length_append, List.length_cons] at hfuel
        rw [List.append_assoc, List.cons_append, scanItems,
          hitem.scans _ _ (by omega) (endsNumber_cons (Or.inl rfl))]
        show (scanItems fuel ((renderItems (next :: rest')).toList ++ ']' :: rest)).map _ = _
        rw [hscan _ _ (by omega)]
        rfl

theorem scanValue_bracket (fuel : Nat) (rest : List Char) :
    scanValue (fuel + 1) ('[' :: rest) = match skipSpace rest with
      | ']' :: after => some (.array [], after)
      | inner => (scanItems fuel inner).map fun (items, after) ↦ (.array items, after) := by
  rw [scanValue]
  rfl

/-- An array is read back if its items are. -/
theorem exists_readsAs_array {items : List Json}
    (h : ∀ item ∈ items, ∃ scanned, ReadsAs depth item scanned) :
    ∃ scanned, ReadsAs (depth + 1) (.array items) scanned := by
  have htext : (render (.array items)).toList = '[' :: ((renderItems items).toList ++ [']']) := by
    rw [render, String.toList_append, String.toList_append]
    rfl
  have hbegins : ∃ c cs, (render (.array items)).toList = c :: cs ∧ BeginsValue c :=
    ⟨'[', _, htext, by decide⟩
  have hdepth : ¬depth + 1 + 1 ≤ 1 := by omega
  by_cases hne : items = []
  · subst hne
    refine ⟨.array [], hbegins, ?_, fun fuel rest hfuel _ ↦ ?_⟩
    · rw [Literal.value?, if_neg hdepth, Literal.values?]
      rfl
    · cases fuel with
      | zero => exact absurd hfuel (by simp [htext])
      | succ fuel =>
        rw [htext, scanValue]
        rfl
  · obtain ⟨scanned, hvalues, ⟨c, cs, hcs, hc⟩, hscan⟩ := readsAs_items hne h
    refine ⟨.array scanned, hbegins, ?_, fun fuel rest hfuel _ ↦ ?_⟩
    · rw [Literal.value?, if_neg hdepth, Nat.add_sub_cancel, hvalues]
      rfl
    · rw [htext, List.length_cons, List.length_append, List.length_singleton] at hfuel
      obtain ⟨fuel, rfl⟩ := Nat.exists_eq_add_of_le' (show 1 ≤ fuel by omega)
      have hspace : skipSpace ((renderItems items).toList ++ ']' :: rest) =
          (renderItems items).toList ++ ']' :: rest := by
        rw [hcs, List.cons_append, skipSpace_of_beginsValue hc]
      rw [htext, List.cons_append, List.append_assoc, List.singleton_append, scanValue_bracket,
        hspace]
      split
      · next heq =>
        rw [hcs] at heq
        exact absurd (List.cons.inj heq).1 hc.2.2.2.2
      · rw [hscan _ _ (by omega)]
        rfl

/-! ### Objects -/

/-- The text of a member. -/
def memberText (name : String) (value : Json) : List Char :=
  '"' :: (name.toList.flatMap escapeChar ++ '"' :: ':' :: (render value).toList)

theorem toList_renderMembers_singleton (name : String) (value : Json) :
    (renderMembers [(name, value)]).toList = memberText name value := by
  rw [renderMembers, String.toList_append, String.toList_append, toList_literal, memberText]
  simp

theorem toList_renderMembers_cons {members : List (String × Json)} (h : members ≠ [])
    (name : String) (value : Json) :
    (renderMembers ((name, value) :: members)).toList =
      memberText name value ++ ',' :: (renderMembers members).toList := by
  rw [renderMembers, String.toList_append, String.toList_append, String.toList_append,
    String.toList_append, toList_literal, memberText]
  · simp
  · exact h

/-- What becomes of the first member of an object: the text behind it ends the object or goes on
with the next member. -/
def membersFrom (fuel : Nat) (member : Option String × Literal) (rest : List Char) :
    Option (List (Option String × Literal) × List Char) :=
  match skipSpace rest with
  | '\x7d' :: after => some ([member], after)
  | ',' :: after => (scanMembers fuel after).map fun (members, after) ↦ (member :: members, after)
  | _ => none

/-- One member is scanned, and then what stands behind it. -/
theorem scanMembers_memberText {fuel : Nat} {name : String} {value : Json} {scanned : Literal}
    {rest : List Char} (h : ReadsAs depth value scanned)
    (hfuel : 2 * (memberText name value).length ≤ fuel) (hrest : EndsNumber rest) :
    scanMembers (fuel + 1) (memberText name value ++ rest) =
      membersFrom fuel (some name, scanned) rest := by
  have hvalue : 2 * (render value).toList.length ≤ fuel := by
    simp only [memberText, List.length_cons, List.length_append] at hfuel
    omega
  have hquote (cs : List Char) : skipSpace ('"' :: cs) = '"' :: cs := rfl
  have hcolon (cs : List Char) : skipSpace (':' :: cs) = ':' :: cs := rfl
  simp only [memberText, List.cons_append, List.append_assoc]
  rw [scanMembers, hquote]
  simp only [scanString_flatMap, hcolon, h.scans _ _ hvalue hrest, Option.map_some,
    String.ofList_toList]
  rfl

/-- The members of an object are scanned one by one, up to the brace. -/
theorem readsAs_members {members : List (String × Json)} (hne : members ≠ [])
    (h : ∀ member ∈ members, ∃ scanned, ReadsAs depth member.2 scanned) :
    ∃ scanned, Literal.memberValues? (depth + 1) scanned = some members ∧
      (∃ cs, (renderMembers members).toList = '"' :: cs) ∧
      ∀ fuel rest, 2 * (renderMembers members).toList.length + 1 ≤ fuel →
        scanMembers fuel ((renderMembers members).toList ++ '\x7d' :: rest) =
          some (scanned, rest) := by
  induction members with
  | nil => exact absurd rfl hne
  | cons member members ih =>
    obtain ⟨name, value⟩ := member
    rw [List.forall_mem_cons] at h
    obtain ⟨⟨scanned, hvalue⟩, hmembers⟩ := h
    replace hvalue : ReadsAs depth value scanned := hvalue
    cases members with
    | nil =>
      rw [toList_renderMembers_singleton]
      refine ⟨[(some name, scanned)], ?_, ⟨_, rfl⟩, fun fuel rest hfuel ↦ ?_⟩
      · simp only [Literal.memberValues?, hvalue.meaning]
      · obtain ⟨fuel, rfl⟩ := Nat.exists_eq_add_of_le' (Nat.le_of_add_left_le hfuel)
        rw [scanMembers_memberText hvalue (by omega) (endsNumber_cons (Or.inr (Or.inr rfl)))]
        rfl
    | cons next rest' =>
      obtain ⟨later, hlater, -, hscan⟩ := ih (List.cons_ne_nil _ _) hmembers
      rw [toList_renderMembers_cons (List.cons_ne_nil _ _)]
      refine ⟨(some name, scanned) :: later, ?_, ⟨_, rfl⟩, fun fuel rest hfuel ↦ ?_⟩
      · simp only [Literal.memberValues?, hvalue.meaning, hlater]
      · obtain ⟨fuel, rfl⟩ := Nat.exists_eq_add_of_le' (Nat.le_of_add_left_le hfuel)
        rw [List.length_append, List.length_cons] at hfuel
        rw [List.append_assoc, List.cons_append,
          scanMembers_memberText hvalue (by omega) (endsNumber_cons (Or.inl rfl))]
        show (scanMembers fuel ((renderMembers (next :: rest')).toList ++ '\x7d' :: rest)).map _ = _
        rw [hscan _ _ (by omega)]
        rfl

/-- A member past all others is put behind them. -/
theorem insertMember_of_forall_lt {name : String} {value : Json} {members : List (String × Json)}
    (h : ∀ n ∈ members.map Prod.fst, n < name) :
    insertMember name value members = members ++ [(name, value)] := by
  induction members with
  | nil => rfl
  | cons member rest ih =>
    obtain ⟨n, v⟩ := member
    rw [List.map_cons, List.forall_mem_cons] at h
    have hne : name ≠ n := fun heq ↦ String.lt_irrefl n (heq ▸ h.1)
    rw [insertMember, if_neg hne, if_neg (String.lt_asymm h.1), ih h.2, List.cons_append]

/-- Members put in one after the other in order stand in that order. -/
theorem foldl_insertMember_of_ordered {done members : List (String × Json)}
    (h : ((done ++ members).map Prod.fst).Pairwise (· < ·)) :
    members.foldl (fun done member ↦ insertMember member.1 member.2 done) done =
      done ++ members := by
  induction members generalizing done with
  | nil => rw [List.foldl_nil, List.append_nil]
  | cons member rest ih =>
    have hlt : ∀ n ∈ done.map Prod.fst, n < member.1 := by
      rw [List.map_append, List.pairwise_append] at h
      exact fun n hn ↦ h.2.2 n hn member.1 List.mem_cons_self
    rw [← List.singleton_append, ← List.append_assoc] at h
    rw [List.foldl_cons, insertMember_of_forall_lt hlt, ih h, List.append_assoc]
    rfl

/-- Members in order make up the object that holds them. -/
theorem ofMembers_of_ordered {members : List (String × Json)}
    (h : (members.map Prod.fst).Pairwise (· < ·)) : ofMembers members = .object members :=
  congrArg Json.object (foldl_insertMember_of_ordered h)

theorem scanValue_brace (fuel : Nat) (rest : List Char) :
    scanValue (fuel + 1) ('\x7b' :: rest) = match skipSpace rest with
      | '\x7d' :: after => some (.object [], after)
      | inner => (scanMembers fuel inner).map fun (members, after) ↦ (.object members, after) := by
  rw [scanValue]
  rfl

/-- An object is read back if its members are, and they are in order. -/
theorem exists_readsAs_object {members : List (String × Json)}
    (h : ∀ member ∈ members, ∃ scanned, ReadsAs depth member.2 scanned)
    (ordered : (members.map Prod.fst).Pairwise (· < ·)) :
    ∃ scanned, ReadsAs (depth + 1) (.object members) scanned := by
  have htext : (render (.object members)).toList =
      '\x7b' :: ((renderMembers members).toList ++ ['\x7d']) := by
    rw [render, String.toList_append, String.toList_append]
    rfl
  have hbegins : ∃ c cs, (render (.object members)).toList = c :: cs ∧ BeginsValue c :=
    ⟨'\x7b', _, htext, by decide⟩
  have hdepth : ¬depth + 1 + 1 ≤ 1 := by omega
  have hmembers := ofMembers_of_ordered ordered
  by_cases hne : members = []
  · subst hne
    refine ⟨.object [], hbegins, ?_, fun fuel rest hfuel _ ↦ ?_⟩
    · rw [Literal.value?, if_neg hdepth, Literal.memberValues?]
      rfl
    · cases fuel with
      | zero => exact absurd hfuel (by simp [htext])
      | succ fuel =>
        rw [htext, scanValue]
        rfl
  · obtain ⟨scanned, hvalues, ⟨cs, hcs⟩, hscan⟩ := readsAs_members hne h
    refine ⟨.object scanned, hbegins, ?_, fun fuel rest hfuel _ ↦ ?_⟩
    · rw [Literal.value?, if_neg hdepth, Nat.add_sub_cancel, hvalues, Option.map_some, hmembers]
    · rw [htext, List.length_cons, List.length_append, List.length_singleton] at hfuel
      obtain ⟨fuel, rfl⟩ := Nat.exists_eq_add_of_le' (show 1 ≤ fuel by omega)
      have hspace : skipSpace ((renderMembers members).toList ++ '\x7d' :: rest) =
          (renderMembers members).toList ++ '\x7d' :: rest := by
        rw [hcs]
        rfl
      rw [htext, List.cons_append, List.append_assoc, List.singleton_append, scanValue_brace,
        hspace]
      split
      · next heq =>
        rw [hcs] at heq
        exact absurd (List.cons.inj heq).1 (by decide)
      · rw [hscan _ _ (by omega)]
        rfl

/-! ### All plain values -/

/-- The text of a plain value is scanned as a literal that has the value. -/
theorem Plain.exists_readsAs {value : Json} (h : Plain depth value) :
    ∃ scanned, ReadsAs depth value scanned := by
  induction h with
  | null => exact ⟨_, readsAs_null⟩
  | bool b => exact ⟨_, readsAs_bool b⟩
  | int range => exact ⟨_, readsAs_int range⟩
  | string text => exact ⟨_, readsAs_string text⟩
  | array _ ih => exact exists_readsAs_array ih
  | object _ ordered ih => exact exists_readsAs_object ih ordered

/-- The text of a plain value reads as the value. -/
theorem Plain.ofText?_render {value : Json} (h : Plain (depthLimit - 1) value) :
    ofText? (render value) = some value := by
  obtain ⟨scanned, hreads⟩ := h.exists_readsAs
  have hscan := hreads.scans (2 * (render value).toList.length + 2) [] (by omega) endsNumber_nil
  rw [List.append_nil] at hscan
  rw [ofText?, parse]
  simp only [hscan]
  exact hreads.meaning

/-! ### Objects that are made of members -/

/-- What is in an object after an insertion was there or was inserted. -/
theorem mem_insertMember {name : String} {value : Json} {members : List (String × Json)}
    {member : String × Json} (h : member ∈ insertMember name value members) :
    member = (name, value) ∨ member ∈ members := by
  induction members with
  | nil => exact Or.inl (List.mem_singleton.1 h)
  | cons first rest ih =>
    obtain ⟨n, v⟩ := first
    rw [insertMember] at h
    split_ifs at h
    · exact (List.mem_cons.1 h).imp_right (List.mem_cons_of_mem _)
    · exact List.mem_cons.1 h
    · rcases List.mem_cons.1 h with rfl | hrest
      · exact Or.inr List.mem_cons_self
      · exact (ih hrest).imp_right (List.mem_cons_of_mem _)

/-- Members stay in order when one is inserted. -/
theorem ordered_insertMember {name : String} {value : Json} {members : List (String × Json)}
    (h : (members.map Prod.fst).Pairwise (· < ·)) :
    ((insertMember name value members).map Prod.fst).Pairwise (· < ·) := by
  induction members with
  | nil => exact List.pairwise_singleton _ _
  | cons first rest ih =>
    obtain ⟨n, v⟩ := first
    rw [List.map_cons, List.pairwise_cons] at h
    rw [insertMember]
    split_ifs with heq hlt
    · subst heq
      exact List.pairwise_cons.2 h
    · refine List.pairwise_cons.2 ⟨?_, List.pairwise_cons.2 h⟩
      exact List.forall_mem_cons.2 ⟨hlt, fun n' hn' ↦ String.lt_trans hlt (h.1 n' hn')⟩
    · refine List.pairwise_cons.2 ⟨fun n' hn' ↦ ?_, ih h.2⟩
      obtain ⟨member, hmember, rfl⟩ := List.mem_map.1 hn'
      rcases mem_insertMember hmember with rfl | hrest
      · exact Std.lt_of_le_of_ne (String.not_lt.1 hlt) fun h ↦ heq h.symm
      · exact h.1 _ (List.mem_map_of_mem hrest)

/-- An object made of members is plain if they are. -/
theorem plain_ofMembers {members : List (String × Json)}
    (h : ∀ member ∈ members, Plain depth member.2) : Plain (depth + 1) (ofMembers members) := by
  -- The members go into an object that is being made, so the induction is over all such objects.
  suffices ∀ done : List (String × Json), (∀ member ∈ done, Plain depth member.2) →
      (done.map Prod.fst).Pairwise (· < ·) →
      Plain (depth + 1) (.object (members.foldl
        (fun done member ↦ insertMember member.1 member.2 done) done)) from
    this [] (List.forall_mem_nil _) .nil
  induction members with
  | nil => exact fun done hdone ordered ↦ .object hdone ordered
  | cons member rest ih =>
    rw [List.forall_mem_cons] at h
    refine fun done hdone ordered ↦ ih h.2 _ (fun m hm ↦ ?_) (ordered_insertMember ordered)
    rcases mem_insertMember hm with rfl | hold
    · exact h.1
    · exact hdone m hold

end ChainProjection.Json

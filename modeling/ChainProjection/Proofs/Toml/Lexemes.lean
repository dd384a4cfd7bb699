import ChainProjection.Toml.Document

/-!
# Lexemes of TOML documents

A document is a sequence of strings, comments and characters outside both.  It is read by scanners
that call each other, and each returns what follows what it has read.  What a scanner has read is a
sequence of lexemes, whatever the scanner made of it (`Leads`); so **a text that is read as a
document has lexemes** (`exists_lexes`), **and it has them in one way only** (`Lexes.unique`), since
the first character decides what a lexeme is and where it ends.

A dollar sign may stand in strings and comments, and nowhere else.  This is why it is one of the
`marks` beside the quotes and the number sign: a scanner that passes over characters one by one
never meets one.

There is a lemma for each scanner, `leads_` with its name, and most of them only put together those
of the scanners it calls, by `Leads.trans`.  Three things need more.  Strings are lexemes of their
own, and that a string ends where its lexeme does is shown of each of the four kinds
(`exists_quoted`).  A key may be a string without the quotes of a block, and so it must not be
followed by a quote (`NoQuote`); an empty string and a quote behind it would be the start of a
block.  And a comment is skipped in two states, inside and outside, which is the invariant `Skips`.

Values, items and members call each other with less fuel, and are one structure of three statements
with a step for each (`Leading`).
-/

namespace ChainProjection.Toml

/-! ### Lexemes -/

/-- The characters that start a string or a comment, and the dollar sign, which only stands inside
of them. -/
def marks : List Char := ['#', '"', '\x27', '$']

/-- The character may stand outside strings and comments. -/
def IsPlain (c : Char) : Prop := c ∉ marks

instance : DecidablePred IsPlain := fun c ↦ inferInstanceAs (Decidable (c ∉ marks))

theorem forall_marks {p : Char → Prop} (h : p '#' ∧ p '"' ∧ p '\x27' ∧ p '$') :
    ∀ m ∈ marks, p m := by
  simpa [marks] using h

/-- A part of a document, as it is written. -/
inductive Lexeme where
  /-- A character outside strings and comments. -/
  | plain (c : Char)
  /-- A string with its quotes. -/
  | quoted (written : List Char)
  /-- A comment with its number sign, without the end of its line. -/
  | comment (written : List Char)
  deriving DecidableEq, Repr

/-- The characters of a lexeme. -/
def Lexeme.written : Lexeme → List Char
  | .plain c => [c]
  | .quoted written => written
  | .comment written => written

/-- Characters begin with a lexeme, and something follows it.  A string is as long as reading it
takes; a comment is the rest of its line. -/
inductive Begins : List Char → Lexeme → List Char → Prop
  | plain {c : Char} {after : List Char} (free : IsPlain c) : Begins (c :: after) (.plain c) after
  | quoted {written text after : List Char}
      (reads : scanString (written ++ after) = some (text, after)) :
      Begins (written ++ after) (.quoted written) after
  | comment {body after : List Char} (within : ∀ c ∈ body, c ≠ '\n' ∧ c ≠ '\r')
      (ends : after = [] ∨ (dropLineEnd? after).isSome) :
      Begins ('#' :: (body ++ after)) (.comment ('#' :: body)) after

/-- Characters are lexemes and the rest behind them. -/
inductive Lexes : List Char → List Lexeme → List Char → Prop
  | done {rest : List Char} : Lexes rest [] rest
  | cons {chars after rest : List Char} {l : Lexeme} {ls : List Lexeme}
      (first : Begins chars l after) (h : Lexes after ls rest) : Lexes chars (l :: ls) rest

/-- Some lexemes lead from characters to what follows them. -/
def Leads (chars rest : List Char) : Prop := ∃ ls, Lexes chars ls rest

variable {c : Char} {chars rest after text written : List Char} {ls ls' : List Lexeme}

theorem Lexes.append (h : Lexes chars ls after) (h' : Lexes after ls' rest) :
    Lexes chars (ls ++ ls') rest := by
  induction h with
  | done => exact h'
  | cons first _ ih => exact .cons first (ih h')

/-- Characters are the lexeme they begin with and what follows it. -/
theorem Begins.written_eq {l : Lexeme} (h : Begins chars l after) :
    chars = l.written ++ after := by
  cases h <;> rfl

/-- A text is what its lexemes are written as, and the rest. -/
theorem Lexes.written_eq (h : Lexes chars ls rest) :
    chars = ls.flatMap Lexeme.written ++ rest := by
  induction h with
  | done => rfl
  | cons first _ ih => rw [first.written_eq, List.flatMap_cons, List.append_assoc, ← ih]

namespace Leads

theorem refl (chars : List Char) : Leads chars chars := ⟨[], .done⟩

theorem trans (h : Leads chars after) (h' : Leads after rest) : Leads chars rest := by
  obtain ⟨ls, h⟩ := h
  obtain ⟨ls', h'⟩ := h'
  exact ⟨ls ++ ls', h.append h'⟩

theorem plain (free : IsPlain c) (h : Leads chars rest) : Leads (c :: chars) rest := by
  obtain ⟨ls, h⟩ := h
  exact ⟨_, .cons (.plain free) h⟩

/-- Characters that have a property no mark has are dropped. -/
theorem dropWhile {p : Char → Bool} (hp : ∀ m ∈ marks, p m = false) (chars : List Char) :
    Leads chars (chars.dropWhile p) := by
  induction chars with
  | nil => exact refl []
  | cons c chars ih =>
    rw [List.dropWhile_cons]
    split
    · next hc =>
      refine plain (fun hmark ↦ ?_) ih
      rw [hp c hmark] at hc
      cases hc
    · exact refl _

end Leads

theorem leads_skipSpaces (chars : List Char) : Leads chars (skipSpaces chars) :=
  .dropWhile (forall_marks (by decide)) chars

/-! ### Strings -/

/-- A character is put in front of what is scanned behind it. -/
theorem prepend_eq_some {c : Option Char} {scanned : Option (List Char × List Char)}
    (h : prepend c scanned = some (text, after)) :
    c.isSome ∧ ∃ text', scanned = some (text', after) := by
  unfold prepend at h
  split at h
  · cases h
    exact ⟨rfl, _, rfl⟩
  · cases h

/-- What follows the opening quote of a basic string on one line, with the closing quote. -/
inductive BasicTail : List Char → Prop
  | closed : BasicTail ['"']
  | escape {c : Char} {w : List Char} (line : c ≠ '\n') (h : BasicTail w) :
      BasicTail ('\\' :: c :: w)
  | text {c : Char} {w : List Char} (own : c ∉ ['"', '\\', '\n']) (h : BasicTail w) :
      BasicTail (c :: w)

theorem own_of_digitValue? {value : Nat} (h : Hex.digitValue? c.toNat = some value) :
    c ∉ ['"', '\\', '\n'] := by
  simp only [List.mem_cons, List.not_mem_nil, or_false]
  rintro (rfl | rfl | rfl) <;> cases h

/-- The digits of an escape are text. -/
theorem BasicTail.hexDigits {digits w : List Char} {number n : Nat}
    (h : hexNumber? number digits = some n) (hw : BasicTail w) : BasicTail (digits ++ w) := by
  induction digits generalizing number with
  | nil => exact hw
  | cons c digits ih =>
    rw [hexNumber?, Option.bind_eq_some_iff] at h
    obtain ⟨value, hvalue, h⟩ := h
    exact .text (own_of_digitValue? hvalue) (ih h)

/-- A character that is written by its number is text. -/
theorem BasicTail.scalar {digits w : List Char} (h : (scalar? digits).isSome)
    (hw : BasicTail w) : BasicTail (digits ++ w) := by
  obtain ⟨c, hc⟩ := Option.isSome_iff_exists.1 h
  rw [scalar?, Option.bind_eq_some_iff] at hc
  obtain ⟨n, hn, -⟩ := hc
  exact hw.hexDigits hn

/-- A basic string on one line is scanned up to its closing quote. -/
theorem exists_basicTail (h : scanBasic chars = some (text, after)) :
    ∃ w, BasicTail w ∧ chars = w ++ after := by
  fun_induction scanBasic chars generalizing text with
  | case1 => cases h
  | case2 rest =>
    cases h
    exact ⟨['"'], .closed, rfl⟩
  | case3 a b c d rest ih =>
    obtain ⟨hscalar, text', h⟩ := prepend_eq_some h
    obtain ⟨w, hw, rfl⟩ := ih h
    exact ⟨_, .escape (by decide) (hw.scalar hscalar), rfl⟩
  | case4 a b c d e f g k rest ih =>
    obtain ⟨hscalar, text', h⟩ := prepend_eq_some h
    obtain ⟨w, hw, rfl⟩ := ih h
    exact ⟨_, .escape (by decide) (hw.scalar hscalar), rfl⟩
  | case5 c rest _ _ ih =>
    obtain ⟨hescaped, text', h⟩ := prepend_eq_some h
    obtain ⟨w, hw, rfl⟩ := ih h
    refine ⟨_, .escape ?_ hw, rfl⟩
    rintro rfl
    cases hescaped
  | case6 c rest hquote _ _ hescape hprintable ih =>
    obtain ⟨-, text', h⟩ := prepend_eq_some h
    obtain ⟨w, hw, rfl⟩ := ih h
    refine ⟨_, .text ?_ hw, rfl⟩
    simp only [List.mem_cons, List.not_mem_nil, or_false]
    rintro (rfl | rfl | rfl)
    · exact hquote rfl
    · cases w with
      | nil => cases hw
      | cons => exact hescape _ _ rfl rfl
    · cases hprintable
  | case7 => cases h

/-- What follows the opening quote of a literal string on one line are characters and the closing
quote. -/
theorem exists_literalTail (h : scanLiteral chars = some (text, after)) :
    ∃ w, (∀ c ∈ w, isLiteral c = true) ∧ chars = w ++ '\x27' :: after := by
  unfold scanLiteral at h
  split at h
  · next after' hdrop =>
    cases h
    refine ⟨chars.takeWhile isLiteral, List.all_eq_true.1 List.all_takeWhile, ?_⟩
    rw [← hdrop, List.takeWhile_append_dropWhile]
  · cases h

/-- A basic block leaves an end of the characters. -/
theorem suffix_of_scanBasicBlock {joining : Bool}
    (h : scanBasicBlock joining chars = some (text, after)) : after <:+ chars := by
  fun_induction scanBasicBlock joining chars generalizing text with
  | case1 => cases h
  -- Something was dropped in front of the rest of the block.
  | case2 rest ih => exact (ih h).trans (List.suffix_cons ..)
  | case3 rest ih => exact (ih h).trans (List.suffix_cons ..)
  | case4 rest ih => exact (ih h).trans (List.suffix_cons ..)
  | case5 rest ih => exact (ih h).trans (List.suffix_append ['\r', '\n'] rest)
  -- The block was closed.
  | case6 =>
    cases h
    exact List.suffix_append ['"', '"', '"', '"', '"'] _
  | case7 =>
    cases h
    exact List.suffix_append ['"', '"', '"', '"'] _
  | case8 =>
    cases h
    exact List.suffix_append ['"', '"', '"'] _
  | case9 joining a b c d rest ih =>
    obtain ⟨-, text', h⟩ := prepend_eq_some h
    exact (ih h).trans (List.suffix_append ['\\', 'u', a, b, c, d] rest)
  | case10 joining a b c d e f g k rest ih =>
    obtain ⟨-, text', h⟩ := prepend_eq_some h
    exact (ih h).trans (List.suffix_append ['\\', 'U', a, b, c, d, e, f, g, k] rest)
  | case11 joining c rest _ _ _ ih => exact (ih h).trans (List.suffix_cons ..)
  | case12 joining c rest _ _ _ ih =>
    obtain ⟨-, text', h⟩ := prepend_eq_some h
    exact (ih h).trans (List.suffix_append ['\\', c] rest)
  | case13 joining rest _ ih =>
    obtain ⟨-, text', h⟩ := prepend_eq_some h
    exact (ih h).trans (List.suffix_append ['\r', '\n'] rest)
  | case14 joining c rest _ _ _ _ _ _ _ _ _ _ _ _ ih =>
    obtain ⟨-, text', h⟩ := prepend_eq_some h
    exact (ih h).trans (List.suffix_cons ..)
  | case15 => cases h

/-- A literal block leaves an end of the characters. -/
theorem suffix_of_scanLiteralBlock (h : scanLiteralBlock chars = some (text, after)) :
    after <:+ chars := by
  fun_induction scanLiteralBlock chars generalizing text with
  | case1 => cases h
  | case2 =>
    cases h
    exact List.suffix_append ['\x27', '\x27', '\x27', '\x27', '\x27'] _
  | case3 =>
    cases h
    exact List.suffix_append ['\x27', '\x27', '\x27', '\x27'] _
  | case4 =>
    cases h
    exact List.suffix_append ['\x27', '\x27', '\x27'] _
  | case5 rest ih =>
    obtain ⟨-, text', h⟩ := prepend_eq_some h
    exact (ih h).trans (List.suffix_append ['\r', '\n'] rest)
  | case6 c rest _ _ _ _ _ ih =>
    obtain ⟨-, text', h⟩ := prepend_eq_some h
    exact (ih h).trans (List.suffix_cons ..)
  | case7 => cases h

theorem suffix_of_dropLineEnd? (h : dropLineEnd? chars = some rest) : rest <:+ chars := by
  unfold dropLineEnd? at h
  split at h
  · cases h
    exact List.suffix_cons ..
  · cases h
    exact List.suffix_append ['\r', '\n'] rest
  · cases h

theorem suffix_blockBody (chars : List Char) : blockBody chars <:+ chars := by
  rw [blockBody]
  cases h : dropLineEnd? chars with
  | none => exact List.suffix_refl chars
  | some rest => exact suffix_of_dropLineEnd? h

/-- The characters start with three quotes, as those of a string that may span lines do. -/
def StartsBlock (chars : List Char) : Prop :=
  ['"', '"', '"'] <+: chars ∨ ['\x27', '\x27', '\x27'] <+: chars

/-- What a string may be: a block, or a string on one line. -/
inductive Quoted : List Char → Prop
  | block {written : List Char} (h : StartsBlock written) : Quoted written
  | basic {w : List Char} (h : BasicTail w) : Quoted ('"' :: w)
  | literal {w : List Char} (h : ∀ c ∈ w, isLiteral c = true) :
      Quoted ('\x27' :: (w ++ ['\x27']))

/-- What is scanned as a string is a string. -/
theorem exists_quoted (h : scanString chars = some (text, after)) :
    ∃ written, Quoted written ∧ chars = written ++ after := by
  unfold scanString at h
  split at h
  · next rest =>
    obtain ⟨w, hw⟩ := (suffix_of_scanBasicBlock h).trans (suffix_blockBody rest)
    exact ⟨'"' :: '"' :: '"' :: w, .block (Or.inl ⟨w, rfl⟩), by rw [← hw]; rfl⟩
  · obtain ⟨w, hw, rfl⟩ := exists_basicTail h
    exact ⟨_, .basic hw, rfl⟩
  · next rest =>
    obtain ⟨w, hw⟩ := (suffix_of_scanLiteralBlock h).trans (suffix_blockBody rest)
    exact ⟨'\x27' :: '\x27' :: '\x27' :: w, .block (Or.inr ⟨w, rfl⟩), by rw [← hw]; rfl⟩
  · obtain ⟨w, hw, rfl⟩ := exists_literalTail h
    exact ⟨_, .literal hw, by simp⟩
  · cases h

theorem quoted_of_scanString (h : scanString (written ++ after) = some (text, after)) :
    Quoted written := by
  obtain ⟨written', hquoted, heq⟩ := exists_quoted h
  rwa [List.append_cancel_right heq]

theorem Leads.string (h : scanString chars = some (text, after)) : Leads chars after := by
  obtain ⟨written, -, rfl⟩ := exists_quoted h
  exact ⟨_, .cons (.quoted h) .done⟩

/-! ### Filler -/

/-- The end of a line is one or two characters outside strings and comments. -/
theorem leads_dropLineEnd? (h : dropLineEnd? chars = some rest) : Leads chars rest := by
  unfold dropLineEnd? at h
  split at h
  · cases h
    exact .plain (by decide) (.refl _)
  · cases h
    exact .plain (by decide) (.plain (by decide) (.refl _))
  · cases h

/-- A comment leads to what the end of its line leads to. -/
theorem Leads.comment {body : List Char} (within : ∀ c ∈ body, isPrintable c = true)
    (ends : after = [] ∨ (dropLineEnd? after).isSome) (h : Leads after rest) :
    Leads ('#' :: (body ++ after)) rest := by
  obtain ⟨ls, h⟩ := h
  refine ⟨_, .cons (.comment (fun c hc ↦ ⟨?_, ?_⟩) ends) h⟩
  · rintro rfl
    cases within _ hc
  · rintro rfl
    cases within _ hc

/-- A line may end with the text. -/
theorem ends_of_scanLineEnd (h : scanLineEnd chars = some rest) :
    (skipComment (skipSpaces chars) = [] ∧ rest = []) ∨
      dropLineEnd? (skipComment (skipSpaces chars)) = some rest := by
  unfold scanLineEnd at h
  split at h
  · next hnil => exact Or.inl ⟨hnil, (Option.some.inj h).symm⟩
  · exact Or.inr h

/-- What may stand behind a line is blank, or a comment. -/
theorem leads_scanLineEnd (h : scanLineEnd chars = some rest) : Leads chars rest := by
  refine (leads_skipSpaces chars).trans ?_
  have hends := ends_of_scanLineEnd h
  generalize skipSpaces chars = chars at hends ⊢
  have hleads : Leads (skipComment chars) rest := by
    rcases hends with ⟨hnil, rfl⟩ | hdrop
    · rw [hnil]
      exact .refl []
    · exact leads_dropLineEnd? hdrop
  by_cases hsign : ∃ body, chars = '#' :: body
  · obtain ⟨body, rfl⟩ := hsign
    rw [← List.takeWhile_append_dropWhile (p := isPrintable) (l := body)]
    refine .comment (List.all_eq_true.1 List.all_takeWhile) ?_ hleads
    exact hends.imp And.left Option.isSome_of_eq_some
  · have hskip : skipComment chars = chars := by
      unfold skipComment
      split
      · exact absurd ⟨_, rfl⟩ hsign
      · rfl
    rwa [hskip] at hleads

/-- What is skipped leads to the rest; inside a comment it is what is left of the comment first. -/
def Skips (rest : List Char) : Bool → List Char → Prop
  | false, chars => Leads chars rest
  | true, chars => ∃ body after, chars = body ++ after ∧ (∀ c ∈ body, isPrintable c = true) ∧
    (dropLineEnd? after).isSome ∧ Leads after rest

/-- The end of a line ends a comment, if there is one. -/
theorem skips_lineEnd (inside : Bool) (ends : dropLineEnd? chars = some after)
    (h : Leads after rest) : Skips rest inside chars := by
  have hleads := (leads_dropLineEnd? ends).trans h
  cases inside with
  | false => exact hleads
  | true => exact ⟨[], chars, rfl, nofun, by rw [ends]; rfl, hleads⟩

/-- Filler is skipped as such, inside a comment and outside. -/
theorem skips_of_skipFiller {inside : Bool} :
    skipFiller inside chars = some rest → Skips rest inside chars := by
  fun_induction skipFiller inside chars with
  | case1 =>
    rintro ⟨⟩
    exact .refl []
  | case2 => nofun
  | case3 inside after ih =>
    intro h
    exact skips_lineEnd inside rfl (ih h)
  | case4 inside after ih =>
    intro h
    exact skips_lineEnd inside rfl (ih h)
  | case5 c chars _ _ hprintable ih =>
    intro h
    obtain ⟨body, after, rfl, within, ends, hleads⟩ := ih h
    exact ⟨c :: body, after, rfl, List.forall_mem_cons.2 ⟨hprintable, within⟩, ends, hleads⟩
  | case6 => nofun
  | case7 chars ih =>
    intro h
    obtain ⟨body, after, rfl, within, ends, hleads⟩ := ih h
    exact .comment within (Or.inr ends) hleads
  | case8 c chars _ _ _ hspace ih =>
    intro h
    refine .plain ?_ (ih h)
    rcases hspace with rfl | rfl <;> decide
  | case9 =>
    rintro ⟨⟩
    exact .refl _

theorem leads_skipFiller (h : skipFiller false chars = some rest) : Leads chars rest :=
  skips_of_skipFiller h

/-! ### Keys -/

/-- No quote is in front. -/
def NoQuote (chars : List Char) : Prop := ∀ c ∈ chars.head?, c ∉ ['"', '\x27']

/-- A string on one line is read behind its quote, unless two more quotes follow, which open a
block.  Then it is empty, and a quote follows it. -/
theorem scanString_of_scanBasic (h : scanBasic chars = some (text, rest)) (hrest : NoQuote rest) :
    scanString ('"' :: chars) = some (text, rest) := by
  rw [scanString.eq_2 chars, h]
  rintro after rfl
  cases h
  exact hrest '"' rfl List.mem_cons_self

theorem scanString_of_scanLiteral (h : scanLiteral chars = some (text, rest))
    (hrest : NoQuote rest) : scanString ('\x27' :: chars) = some (text, rest) := by
  rw [scanString.eq_4 chars, h]
  rintro after rfl
  cases h
  exact hrest '\x27' rfl (by decide)

/-- A name is a word or a string on one line. -/
theorem leads_scanName {name : String} (h : scanName chars = some (name, rest))
    (hrest : NoQuote rest) : Leads chars rest := by
  unfold scanName at h
  split at h
  · obtain ⟨⟨text, after⟩, hscan, heq⟩ := Option.map_eq_some_iff.1 h
    cases heq
    exact .string (scanString_of_scanBasic hscan hrest)
  · obtain ⟨⟨text, after⟩, hscan, heq⟩ := Option.map_eq_some_iff.1 h
    cases heq
    exact .string (scanString_of_scanLiteral hscan hrest)
  · split at h
    · cases h
    · cases h
      exact .dropWhile (forall_marks (by decide)) chars

/-- No quote is in front of blanks. -/
theorem NoQuote.of_skipSpaces (h : NoQuote (skipSpaces chars)) : NoQuote chars := by
  cases chars with
  | nil => nofun
  | cons c chars =>
    rintro _ ⟨⟩
    rw [skipSpaces, List.dropWhile_cons] at h
    split at h
    · next hspace =>
      simp only [List.mem_cons, List.not_mem_nil, or_false]
      rintro (rfl | rfl) <;> cases hspace
    · exact h c rfl

/-- Names have dots between them, with blanks around. -/
theorem leads_scanNames {fuel : Nat} {names : List String}
    (h : scanNames fuel chars = some (names, rest)) (hrest : NoQuote rest) : Leads chars rest := by
  induction fuel generalizing chars names with
  | zero => cases h
  | succ fuel ih =>
    refine (leads_skipSpaces chars).trans ?_
    rw [scanNames, Option.bind_eq_some_iff] at h
    obtain ⟨⟨name, after⟩, hname, h⟩ := h
    have hspaces := leads_skipSpaces after
    dsimp only at h
    split at h
    · next after' hdot =>
      obtain ⟨⟨names', after''⟩, hnames, heq⟩ := Option.map_eq_some_iff.1 h
      cases heq
      rw [hdot] at hspaces
      have hquote : NoQuote after := .of_skipSpaces (by rw [hdot]; rintro _ ⟨⟩; decide)
      exact (leads_scanName hname hquote).trans
        (hspaces.trans (.plain (by decide) (ih hnames)))
    · cases h
      exact (leads_scanName hname (.of_skipSpaces hrest)).trans hspaces

theorem leads_scanKey {key : Key} (h : scanKey chars = some (key, rest)) (hrest : NoQuote rest) :
    Leads chars rest := by
  rw [scanKey, Option.bind_eq_some_iff] at h
  obtain ⟨⟨names, after⟩, hnames, h⟩ := h
  dsimp only at h
  split at h
  · cases h
  · split at h
    · cases h
      exact leads_scanNames hnames hrest
    · cases h

/-! ### Numbers -/

theorem isPlain_of_digitValue? {d : Nat} (h : Hex.digitValue? c.toNat = some d) : IsPlain c := by
  have hnone : ∀ m ∈ marks, Hex.digitValue? m.toNat = none := forall_marks (by decide)
  intro hmark
  rw [hnone c hmark] at h
  cases h

theorem isPlain_of_digit? {base d : Nat} (h : digit? base c = some d) : IsPlain c :=
  isPlain_of_digitValue? (Option.filter_eq_some_iff.1 h).1

theorem leads_scanDigits (base : Nat) (chars : List Char) :
    Leads chars (scanDigits base chars).2 := by
  fun_induction scanDigits base chars with
  | case1 => exact .refl []
  | case2 => exact .refl _
  | case3 c rest d hd => exact .plain (isPlain_of_digit? hd) (.refl _)
  | case4 c rest d hd ds after _ hrest ih =>
    rw [hrest] at ih
    exact .plain (isPlain_of_digit? hd) (.plain (by decide) ih)
  | case5 => exact .refl _
  | case6 c rest _ d hd ds after hrest ih =>
    rw [hrest] at ih
    exact .plain (isPlain_of_digit? hd) ih

theorem leads_scanSign (chars : List Char) : Leads chars (scanSign chars).2 := by
  unfold scanSign
  split
  · exact .plain (by decide) (.refl _)
  · exact .plain (by decide) (.refl _)
  · exact .refl _

theorem leads_scanWhole {ds : List Nat} (h : scanWhole chars = some (ds, rest)) :
    Leads chars rest := by
  unfold scanWhole at h
  split at h
  · cases h
    exact .plain (by decide) (.refl _)
  · split at h
    · cases h
    · next hdigits =>
      cases h
      have hleads := leads_scanDigits 10 chars
      rwa [hdigits] at hleads

theorem leads_scanRadix {base : Nat} {n : Int} (h : scanRadix base chars = some (n, rest)) :
    Leads chars rest := by
  unfold scanRadix at h
  split at h
  · cases h
  · next hdigits =>
    split at h
    · cases h
      have hleads := leads_scanDigits base chars
      rwa [hdigits] at hleads
    · cases h

theorem leads_scanDecimal {n : Int} (h : scanDecimal chars = some (n, rest)) :
    Leads chars rest := by
  have hsign := leads_scanSign chars
  rw [scanDecimal] at h
  generalize scanSign chars = sign at h hsign
  obtain ⟨negative, digits⟩ := sign
  obtain ⟨⟨ds, after⟩, hwhole, h⟩ := Option.bind_eq_some_iff.1 h
  have hleads := hsign.trans (leads_scanWhole hwhole)
  dsimp only at h
  split at h
  · split at h
    · cases h
      exact hleads
    · cases h
  · split at h
    · cases h
      exact hleads
    · cases h

theorem leads_scanInteger {n : Int} (h : scanInteger chars = some (n, rest)) :
    Leads chars rest := by
  unfold scanInteger at h
  split at h
  · exact .plain (by decide) (.plain (by decide) (leads_scanRadix h))
  · exact .plain (by decide) (.plain (by decide) (leads_scanRadix h))
  · exact .plain (by decide) (.plain (by decide) (leads_scanRadix h))
  · exact leads_scanDecimal h

theorem leads_scanFraction (chars : List Char) : Leads chars (scanFraction chars).2 := by
  unfold scanFraction
  split
  · next rest =>
    split
    · exact .refl _
    · next hdigits =>
      have hleads := leads_scanDigits 10 rest
      rw [hdigits] at hleads
      exact .plain (by decide) hleads
  · exact .refl _

theorem leads_scanExponent (chars : List Char) : Leads chars (scanExponent chars).2 := by
  unfold scanExponent
  split
  · exact .refl []
  · next c rest =>
    split
    · next he =>
      dsimp only
      split
      · exact .refl _
      · next hdigits =>
        have hleads := leads_scanDigits 10 (scanSign rest).2
        rw [hdigits] at hleads
        refine .plain ?_ ((leads_scanSign rest).trans hleads)
        rcases he with rfl | rfl <;> decide
    · exact .refl _

theorem leads_scanFloat {text : String} (h : scanFloat chars = some (text, rest)) :
    Leads chars rest := by
  have hsign := leads_scanSign chars
  rw [scanFloat] at h
  generalize scanSign chars = sign at h hsign
  obtain ⟨negative, digits⟩ := sign
  obtain ⟨⟨whole, after⟩, hwhole, h⟩ := Option.bind_eq_some_iff.1 h
  have hleads := hsign.trans <| (leads_scanWhole hwhole).trans <|
    (leads_scanFraction after).trans (leads_scanExponent _)
  dsimp only at h
  split at h
  · cases h
  · split at h
    · cases h
    · cases h
      exact hleads

theorem leads_scanNamedFloat {text : String} (h : scanNamedFloat chars = some (text, rest)) :
    Leads chars rest := by
  refine (leads_scanSign chars).trans ?_
  unfold scanNamedFloat at h
  split at h
  · next hname =>
    cases h
    rw [hname]
    exact .plain (by decide) (.plain (by decide) (.plain (by decide) (.refl _)))
  · next hname =>
    cases h
    rw [hname]
    exact .plain (by decide) (.plain (by decide) (.plain (by decide) (.refl _)))
  · cases h

/-! ### Moments -/

theorem leads_takeDigits (limit : Nat) (chars : List Char) :
    Leads chars (Date.takeDigits limit chars).2 := by
  fun_induction Date.takeDigits limit chars with
  | case1 => exact .refl _
  | case2 => exact .refl []
  | case3 limit c rest hdigit ds after hrest ih =>
    rw [hrest] at ih
    refine .plain (fun hmark ↦ ?_) ih
    have hnone : ∀ m ∈ marks, ¬('0' ≤ m ∧ m ≤ '9') := forall_marks (by decide)
    exact hnone c hmark hdigit
  | case4 => exact .refl _

theorem leads_readNumber {least most n : Nat}
    (h : Date.readNumber least most chars = some (n, rest)) : Leads chars rest := by
  have hleads := leads_takeDigits most chars
  rw [Date.readNumber] at h
  generalize Date.takeDigits most chars = taken at h hleads
  obtain ⟨digits, after⟩ := taken
  dsimp only at h
  split at h
  · cases h
  · cases h
    exact hleads

theorem leads_readPair {most n : Nat} (h : Date.readPair most chars = some (n, rest)) :
    Leads chars rest := by
  obtain ⟨⟨m, after⟩, hnumber, h⟩ := Option.bind_eq_some_iff.1 h
  dsimp only at h
  split at h
  · cases h
    exact leads_readNumber hnumber
  · cases h

theorem leads_dropChar (free : IsPlain c) (h : Date.dropChar c chars = some rest) :
    Leads chars rest := by
  unfold Date.dropChar at h
  split at h
  · split at h
    · next heq =>
      cases h
      exact .plain (heq ▸ free) (.refl _)
    · cases h
  · cases h

theorem leads_readFraction {n : Nat} (h : Date.readFraction chars = some (n, rest)) :
    Leads chars rest := by
  unfold Date.readFraction at h
  split at h
  · next after =>
    have hleads := leads_takeDigits after.length after
    split at h
    · cases h
    · next hdigits =>
      cases h
      rw [hdigits] at hleads
      exact .plain (by decide) hleads
  · cases h
    exact .refl _

theorem leads_readOffset {n : Int} (h : Date.readOffset chars = some (n, rest)) :
    Leads chars rest := by
  unfold Date.readOffset at h
  split at h
  · cases h
  · next c after =>
    split at h
    · next hz =>
      cases h
      refine .plain ?_ (.refl _)
      rcases hz with rfl | rfl <;> decide
    · split at h
      · next hsign =>
        obtain ⟨⟨hours, _⟩, hhours, h⟩ := Option.bind_eq_some_iff.1 h
        obtain ⟨_, hcolon, h⟩ := Option.bind_eq_some_iff.1 h
        obtain ⟨⟨minutes, _⟩, hminutes, h⟩ := Option.bind_eq_some_iff.1 h
        cases h
        refine .plain ?_ <| (leads_readPair hhours).trans <|
          (leads_dropChar (by decide) hcolon).trans (leads_readPair hminutes)
        rcases hsign with rfl | rfl | rfl <;> decide
      · cases h

theorem leads_scanDay (h : scanDay chars = some rest) : Leads chars rest := by
  obtain ⟨⟨year, _⟩, hyear, h⟩ := Option.bind_eq_some_iff.1 h
  obtain ⟨_, hdash, h⟩ := Option.bind_eq_some_iff.1 h
  obtain ⟨⟨month, _⟩, hmonth, h⟩ := Option.bind_eq_some_iff.1 h
  obtain ⟨_, hdash', h⟩ := Option.bind_eq_some_iff.1 h
  obtain ⟨⟨day, _⟩, hday, h⟩ := Option.bind_eq_some_iff.1 h
  dsimp only at h
  split at h
  · cases h
    exact (leads_readNumber hyear).trans <| (leads_dropChar (by decide) hdash).trans <|
      (leads_readPair hmonth).trans <| (leads_dropChar (by decide) hdash').trans <|
        leads_readPair hday
  · cases h

theorem leads_scanTime (h : scanTime chars = some rest) : Leads chars rest := by
  obtain ⟨⟨hour, _⟩, hhour, h⟩ := Option.bind_eq_some_iff.1 h
  obtain ⟨_, hcolon, h⟩ := Option.bind_eq_some_iff.1 h
  obtain ⟨⟨minute, _⟩, hminute, h⟩ := Option.bind_eq_some_iff.1 h
  obtain ⟨_, hcolon', h⟩ := Option.bind_eq_some_iff.1 h
  obtain ⟨⟨second, _⟩, hsecond, h⟩ := Option.bind_eq_some_iff.1 h
  obtain ⟨⟨fraction, _⟩, hfraction, h⟩ := Option.bind_eq_some_iff.1 h
  cases h
  exact (leads_readPair hhour).trans <| (leads_dropChar (by decide) hcolon).trans <|
    (leads_readPair hminute).trans <| (leads_dropChar (by decide) hcolon').trans <|
      (leads_readPair hsecond).trans (leads_readFraction hfraction)

theorem leads_skipOffset (chars : List Char) : Leads chars (skipOffset chars) := by
  unfold skipOffset
  split
  · exact .refl _
  · rcases h : Date.readOffset chars with - | ⟨n, rest⟩
    · exact .refl chars
    · exact leads_readOffset h

theorem leads_skipTime (chars : List Char) : Leads chars (skipTime chars) := by
  unfold skipTime
  split
  · next c rest =>
    split
    · next hc =>
      rcases h : scanTime rest with - | after
      · exact .refl (c :: rest)
      · refine .plain ?_ ((leads_scanTime h).trans (leads_skipOffset after))
        rcases hc with rfl | rfl | rfl <;> decide
    · exact .refl _
  · exact .refl []

theorem leads_scanMoment {text : String} (h : scanMoment chars = some (text, rest)) :
    Leads chars rest := by
  unfold scanMoment at h
  split at h
  · next hday =>
    cases h
    exact (leads_scanDay hday).trans (leads_skipTime _)
  · obtain ⟨after, htime, heq⟩ := Option.map_eq_some_iff.1 h
    cases heq
    exact leads_scanTime htime

/-- A number is a moment, an integer or a float, and none of them has a mark in it. -/
theorem leads_scanNumber {value : Value} (h : scanNumber chars = some (value, rest)) :
    Leads chars rest := by
  unfold scanNumber at h
  split at h
  · next hmoment =>
    cases h
    exact leads_scanMoment hmoment
  · split at h
    · next hfloat =>
      cases h
      rcases hscan : scanFloat chars with - | ⟨text, after⟩
      · rw [hscan] at hfloat
        exact leads_scanNamedFloat hfloat
      · rw [hscan] at hfloat
        cases hfloat
        exact leads_scanFloat hscan
    · obtain ⟨⟨n, after⟩, hinteger, heq⟩ := Option.map_eq_some_iff.1 h
      cases heq
      exact leads_scanInteger hinteger

/-! ### Values -/

theorem noQuote_cons (h : c ∉ ['"', '\x27']) : NoQuote (c :: chars) := by
  rintro _ ⟨⟩
  exact h

/-- Values, items and members, which call each other with less fuel, lead to what they leave. -/
structure Leading (fuel : Nat) : Prop where
  value {levels : Nat} {chars rest : List Char} {value : Value} :
    scanValue fuel levels chars = some (value, rest) → Leads chars rest
  items {levels : Nat} {chars rest : List Char} {items : List Value} :
    scanItems fuel levels chars = some (items, rest) → Leads chars rest
  members {levels : Nat} {chars rest : List Char} {members members' : Members} :
    scanMembers fuel levels members chars = some (members', rest) → Leads chars rest

/-- A value is a word, an array, a table, a string or a number. -/
theorem Leading.value_succ {fuel levels : Nat} {value : Value} (ih : Leading fuel)
    (h : scanValue (fuel + 1) levels chars = some (value, rest)) : Leads chars rest := by
  unfold scanValue at h
  split at h
  · cases h
    exact .plain (by decide) <| .plain (by decide) <| .plain (by decide) <|
      .plain (by decide) (.refl _)
  · cases h
    exact .plain (by decide) <| .plain (by decide) <| .plain (by decide) <|
      .plain (by decide) <| .plain (by decide) (.refl _)
  · -- An array, whose closing bracket is read with its items.
    split at h
    · cases h
    · obtain ⟨⟨items, after⟩, hitems, heq⟩ := Option.map_eq_some_iff.1 h
      cases heq
      exact .plain (by decide) (ih.items hitems)
  · next inner =>
    split at h
    · cases h
    · have hspaces := leads_skipSpaces inner
      split at h
      · next after hbrace =>
        cases h
        rw [hbrace] at hspaces
        exact .plain (by decide) (hspaces.trans (.plain (by decide) (.refl _)))
      · obtain ⟨⟨members, after⟩, hmembers, heq⟩ := Option.map_eq_some_iff.1 h
        cases heq
        exact .plain (by decide) (hspaces.trans (ih.members hmembers))
  · obtain ⟨⟨text, after⟩, hstring, heq⟩ := Option.map_eq_some_iff.1 h
    cases heq
    exact .string hstring
  · obtain ⟨⟨text, after⟩, hstring, heq⟩ := Option.map_eq_some_iff.1 h
    cases heq
    exact .string hstring
  · exact leads_scanNumber h

/-- Items have filler around them, comments included. -/
theorem Leading.items_succ {fuel levels : Nat} {items : List Value} (ih : Leading fuel)
    (h : scanItems (fuel + 1) levels chars = some (items, rest)) : Leads chars rest := by
  rw [scanItems] at h
  split at h
  · cases h
  · next hfiller =>
    cases h
    exact (leads_skipFiller hfiller).trans (.plain (by decide) (.refl _))
  · next hfiller =>
    refine (leads_skipFiller hfiller).trans ?_
    split at h
    · cases h
    · next hvalue =>
      refine (ih.value hvalue).trans ?_
      split at h
      · next hfiller' =>
        cases h
        exact (leads_skipFiller hfiller').trans (.plain (by decide) (.refl _))
      · next hfiller' =>
        obtain ⟨⟨items, after⟩, hitems, heq⟩ := Option.map_eq_some_iff.1 h
        cases heq
        exact (leads_skipFiller hfiller').trans (.plain (by decide) (ih.items hitems))
      · cases h

/-- Members of a table on one line have blanks around them, and no comments. -/
theorem Leading.members_succ {fuel levels : Nat} {members members' : Members} (ih : Leading fuel)
    (h : scanMembers (fuel + 1) levels members chars = some (members', rest)) :
    Leads chars rest := by
  rw [scanMembers] at h
  split at h
  · next key after hkey =>
    refine (leads_scanKey hkey (noQuote_cons (by decide))).trans <| .plain (by decide) <|
      (leads_skipSpaces after).trans ?_
    split at h
    · cases h
    · next value after' hvalue =>
      refine (ih.value hvalue).trans ?_
      have hspaces := leads_skipSpaces after'
      split at h
      · cases h
      · split at h
        · next hbrace =>
          cases h
          rw [hbrace] at hspaces
          exact hspaces.trans (.plain (by decide) (.refl _))
        · next hcomma =>
          rw [hcomma] at hspaces
          exact hspaces.trans (.plain (by decide) (ih.members h))
        · cases h
  · cases h

/-- Values, items and members lead to what they leave, whatever the fuel. -/
theorem leading (fuel : Nat) : Leading fuel := by
  induction fuel with
  | zero =>
    refine ⟨fun h ↦ ?_, fun h ↦ ?_, fun h ↦ ?_⟩
    · rw [scanValue] at h
      cases h
    · rw [scanItems] at h
      cases h
    · rw [scanMembers] at h
      cases h
  | succ fuel ih => exact ⟨ih.value_succ, ih.items_succ, ih.members_succ⟩

/-! ### Documents -/

/-- A line is a header or a member, and no quote is behind its key. -/
theorem leads_scanLine {line : Line} (h : scanLine chars = some (line, rest)) :
    Leads chars rest := by
  unfold scanLine at h
  split at h
  · split at h
    · next hkey =>
      cases h
      exact .plain (by decide) <| .plain (by decide) <|
        (leads_scanKey hkey (noQuote_cons (by decide))).trans <|
          .plain (by decide) (.plain (by decide) (.refl _))
    · cases h
  · split at h
    · next hkey =>
      cases h
      exact .plain (by decide) <| (leads_scanKey hkey (noQuote_cons (by decide))).trans <|
        .plain (by decide) (.refl _)
    · cases h
  · split at h
    · next key after hkey =>
      obtain ⟨⟨value, after'⟩, hvalue, heq⟩ := Option.map_eq_some_iff.1 h
      cases heq
      exact (leads_scanKey hkey (noQuote_cons (by decide))).trans <| .plain (by decide) <|
        (leads_skipSpaces after).trans ((leading _).value hvalue)
    · cases h

/-- A document leads to its end. -/
theorem leads_scanLines {fuel : Nat} {header : List String} {document result : Members}
    (h : scanLines fuel header document chars = some result) : Leads chars [] := by
  induction fuel generalizing header document chars with
  | zero => cases h
  | succ fuel ih =>
    have hspaces := leads_skipSpaces chars
    rw [scanLines] at h
    split at h
    · next hempty =>
      rwa [hempty] at hspaces
    · next c after hchars =>
      rw [hchars] at hspaces
      refine hspaces.trans ?_
      split at h
      · obtain ⟨after', hend, h⟩ := Option.bind_eq_some_iff.1 h
        exact (leads_scanLineEnd hend).trans (ih h)
      · obtain ⟨⟨line, after'⟩, hline, h⟩ := Option.bind_eq_some_iff.1 h
        obtain ⟨⟨header', document'⟩, -, h⟩ := Option.bind_eq_some_iff.1 h
        obtain ⟨after'', hend, h⟩ := Option.bind_eq_some_iff.1 h
        exact (leads_scanLine hline).trans ((leads_scanLineEnd hend).trans (ih h))

/-- A text that is read as a document has lexemes. -/
theorem exists_lexes {text : String} (h : (parse text).isSome) :
    ∃ ls, Lexes text.toList ls [] := by
  obtain ⟨document, h⟩ := Option.isSome_iff_exists.1 h
  unfold parse at h
  dsimp only at h
  split at h
  · next heq =>
    rw [heq]
    exact Leads.plain (by decide) (leads_scanLines h)
  · exact leads_scanLines h

/-! ### One way only -/

/-- A string starts with a quote. -/
theorem Quoted.exists_cons (h : Quoted written) :
    ∃ q w, (q = '"' ∨ q = '\x27') ∧ written = q :: w := by
  cases h with
  | block h =>
    rcases h with ⟨w, rfl⟩ | ⟨w, rfl⟩
    · exact ⟨_, _, Or.inl rfl, rfl⟩
    · exact ⟨_, _, Or.inr rfl, rfl⟩
  | basic => exact ⟨_, _, Or.inl rfl, rfl⟩
  | literal => exact ⟨_, _, Or.inr rfl, rfl⟩

/-- A comment ends before the first line feed or carriage return. -/
theorem takeWhile_comment {body : List Char} (within : ∀ c ∈ body, c ≠ '\n' ∧ c ≠ '\r')
    (ends : after = [] ∨ (dropLineEnd? after).isSome) :
    (body ++ after).takeWhile (fun c ↦ c ≠ '\n' && c ≠ '\r') = body := by
  rw [List.takeWhile_append_of_pos fun c hc ↦ by simpa using within c hc]
  unfold dropLineEnd? at ends
  split at ends
  · exact List.append_nil body
  · exact List.append_nil body
  · rcases ends with rfl | hnone
    · exact List.append_nil body
    · cases hnone

/-- What characters begin with is decided by the first of them, and so is where it ends. -/
theorem Begins.unique {l l' : Lexeme} {after' : List Char} (h : Begins chars l after)
    (h' : Begins chars l' after') : l = l' ∧ after = after' := by
  generalize heq : chars = chars' at h'
  have hquote {q : Char} (hq : q = '"' ∨ q = '\x27') : q ∈ marks ∧ q ≠ '#' := by
    rcases hq with rfl | rfl <;> decide
  cases h with
  | @plain c _ free =>
    cases h' with
    | plain =>
      cases heq
      exact ⟨rfl, rfl⟩
    | quoted reads =>
      obtain ⟨q, w, hq, rfl⟩ := (quoted_of_scanString reads).exists_cons
      cases heq
      exact absurd (hquote hq).1 free
    | comment =>
      cases heq
      exact absurd (by decide) free
  | @quoted written text _ reads =>
    have hfirst := quoted_of_scanString reads
    cases h' with
    | plain free =>
      obtain ⟨q, w, hq, rfl⟩ := hfirst.exists_cons
      cases heq
      exact absurd (hquote hq).1 free
    -- Two strings: the scanner gives one result, and this is where both end.
    | quoted reads' =>
      rw [heq, reads'] at reads
      cases reads
      exact ⟨congrArg Lexeme.quoted (List.append_cancel_right heq), rfl⟩
    | comment =>
      obtain ⟨q, w, hq, rfl⟩ := hfirst.exists_cons
      rw [List.cons_append, List.cons.injEq] at heq
      exact absurd heq.1 (hquote hq).2
  | @comment body _ within ends =>
    cases h' with
    | plain free =>
      cases heq
      exact absurd (by decide) free
    | quoted reads =>
      obtain ⟨q, w, hq, rfl⟩ := (quoted_of_scanString reads).exists_cons
      rw [List.cons_append, List.cons.injEq] at heq
      exact absurd heq.1.symm (hquote hq).2
    | @comment body' _ within' ends' =>
      rw [List.cons.injEq] at heq
      -- Two comments: both take all there is up to the end of the line.
      have hbody : body = body' := by
        rw [← takeWhile_comment within ends, heq.2, takeWhile_comment within' ends']
      subst hbody
      exact ⟨rfl, List.append_cancel_left heq.2⟩

theorem Begins.ne_nil {l : Lexeme} (h : Begins chars l after) : chars ≠ [] := by
  cases h with
  | plain => exact List.cons_ne_nil _ _
  | quoted reads =>
    obtain ⟨q, w, -, rfl⟩ := (quoted_of_scanString reads).exists_cons
    exact List.cons_ne_nil _ _
  | comment => exact List.cons_ne_nil _ _

/-- A text has lexemes in one way only. -/
theorem Lexes.unique (h : Lexes chars ls []) (h' : Lexes chars ls' []) : ls = ls' := by
  induction ls generalizing chars ls' with
  | nil =>
    cases h
    cases h' with
    | done => rfl
    | cons first => exact absurd rfl first.ne_nil
  | cons l ls ih =>
    cases h with
    | cons first h =>
      cases h' with
      | done => exact absurd rfl first.ne_nil
      | cons first' h' =>
        obtain ⟨rfl, rfl⟩ := first.unique first'
        rw [ih h h']

end ChainProjection.Toml

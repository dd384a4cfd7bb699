import ChainProjection.Proofs.Config.Expansion
import ChainProjection.Proofs.Toml.Lexemes

/-!
# Comments that expansion leaves alone

Expansion tells comments from code line by line, by the quotes of the line, and reading a document
tells them by its lexemes.  Here the two are compared, at every dollar sign with a brace behind it.

**As long as strings stand on one line, both come to the same** (`standing_lineOf_eq_none_iff`).  A
block of text brings lines with quotes that open or close nothing; there expansion may take a number
sign inside the block for the start of a comment, or a comment behind the block for text.
`Doubtful` is this case: some of a block on the line, and a number sign before the place.  Without a
number sign before the place nothing is left alone, in a block or not.

Both sides are about positions, and a position is found in a text as the part that has it
(`partAt`), once for the lines of a layout and once for the lexemes of a document.  On the side of
expansion, a place is left alone exactly if the quotes and number signs before it on its line put it
into a comment (`LaidOut.leftAlone_iff`); that is a fold over the line, `standing`, which can be cut
anywhere (`standing_append`).  On the side of the document the induction is over the lexemes of the
line.  A string on one line takes the fold from code to code (`standing_of_quoted`), a comment never
ends before the line does, and so the fold stops exactly where a comment begins.

It remains that the line begins with a lexeme.  If it does not, some lexeme reaches over the line
feed before it, and the only lexemes that have line feeds in them are blocks (`exists_lexes_line`).
-/

namespace ChainProjection.Config

open Toml (Lexeme Lexes Begins Quoted StartsBlock BasicTail)

/-! ### Parts of a text -/

section Parts

variable {α : Type} (written : α → List Char)

/-- The part of a text that has the character at a position, with its position in this part. -/
def partAt : List α → Nat → Option (α × Nat)
  | [], _ => none
  | x :: xs, i =>
    if i < (written x).length then some (x, i) else partAt xs (i - (written x).length)

variable {written} {x : α} {xs ys : List α} {i : Nat}

/-- A position behind some parts is a position of the parts that follow. -/
theorem partAt_append (xs ys : List α) (i : Nat) :
    partAt written (xs ++ ys) ((xs.flatMap written).length + i) = partAt written ys i := by
  induction xs with
  | nil => rw [List.nil_append, List.flatMap_nil, List.length_nil, Nat.zero_add]
  | cons x xs ih =>
    rw [List.cons_append, partAt, List.flatMap_cons, List.length_append, if_neg (by omega),
      show (written x).length + (xs.flatMap written).length + i - (written x).length =
        (xs.flatMap written).length + i by omega, ih]

theorem partAt_cons_self (h : i < (written x).length) :
    partAt written (x :: xs) i = some (x, i) := by
  rw [partAt, if_pos h]

theorem partAt_cons (x : α) (xs : List α) (i : Nat) :
    partAt written (x :: xs) ((written x).length + i) = partAt written xs i := by
  rw [partAt, if_neg (by omega), Nat.add_sub_cancel_left]

/-- A character is in one of the parts, behind some of it. -/
theorem exists_partAt {front back : List Char} {c : Char}
    (h : xs.flatMap written = front ++ c :: back) :
    ∃ xs₁ x xs₂ p q, xs = xs₁ ++ x :: xs₂ ∧ written x = p ++ c :: q ∧
      front = xs₁.flatMap written ++ p ∧ partAt written xs front.length = some (x, p.length) := by
  induction xs generalizing front with
  | nil => simp at h
  | cons x xs ih =>
    rw [List.flatMap_cons] at h
    by_cases hlength : front.length < (written x).length
    · obtain ⟨q, hx⟩ : front ++ [c] <+: written x :=
        List.prefix_of_prefix_length_le ⟨back, by simp⟩ ⟨xs.flatMap written, h⟩
          (by rwa [List.length_append])
      exact ⟨[], x, xs, front, q, rfl, by simp [← hx], rfl, partAt_cons_self hlength⟩
    · obtain ⟨tail, rfl⟩ : written x <+: front :=
        List.prefix_of_prefix_length_le ⟨xs.flatMap written, h⟩ (List.prefix_append ..)
          (Nat.le_of_not_lt hlength)
      rw [List.append_assoc] at h
      obtain ⟨xs₁, y, xs₂, p, q, rfl, hy, rfl, hpart⟩ := ih (List.append_cancel_left h)
      refine ⟨x :: xs₁, y, xs₂, p, q, rfl, hy, by simp, ?_⟩
      rw [List.length_append, partAt_cons, hpart]

end Parts

/-! ### Lines -/

/-- What stands on the last line. -/
def lineOf (front : List Char) : List Char := (front.reverse.takeWhile (· ≠ '\n')).reverse

/-- The characters end with a line feed, or there are none. -/
def EndsLine (head : List Char) : Prop := head = [] ∨ ∃ lines, head = lines ++ ['\n']

/-- The end of what ends with a line feed does so. -/
theorem EndsLine.of_append {front back : List Char} (h : EndsLine (front ++ back)) :
    EndsLine back := by
  rcases List.eq_nil_or_concat back with rfl | ⟨lines, c, rfl⟩
  · exact Or.inl rfl
  · rcases h with hnil | ⟨lines', heq⟩
    · simp at hnil
    · rw [List.concat_eq_append, ← List.append_assoc] at heq
      obtain ⟨-, hc⟩ := List.append_inj' heq rfl
      exact Or.inr ⟨lines, by rw [List.concat_eq_append, hc]⟩

theorem not_mem_lineOf (front : List Char) : '\n' ∉ lineOf front := by
  rw [lineOf, List.mem_reverse]
  intro hmem
  have hne := List.all_eq_true.1 List.all_takeWhile '\n' hmem
  simp at hne

/-- Before the last line there are whole lines. -/
theorem exists_eq_append_lineOf (front : List Char) :
    ∃ head, EndsLine head ∧ front = head ++ lineOf front := by
  refine ⟨(front.reverse.dropWhile (· ≠ '\n')).reverse, ?_, ?_⟩
  · cases h : front.reverse.dropWhile (· ≠ '\n') with
    | nil => exact Or.inl rfl
    | cons c rest =>
      have hc : c = '\n' := by
        have hnot := List.head?_dropWhile_not (· ≠ '\n') front.reverse
        rw [h] at hnot
        simpa using hnot
      exact Or.inr ⟨rest.reverse, by rw [List.reverse_cons, hc]⟩
  · rw [lineOf, ← List.reverse_append, List.takeWhile_append_dropWhile, List.reverse_reverse]

/-- What has no line feed goes on with the last line. -/
theorem lineOf_append {line : List Char} (hline : '\n' ∉ line) (front : List Char) :
    lineOf (front ++ line) = lineOf front ++ line := by
  rw [lineOf, List.reverse_append, List.takeWhile_append_of_pos, List.reverse_append,
    List.reverse_reverse, lineOf]
  intro c hc
  rw [List.mem_reverse] at hc
  exact decide_eq_true fun heq ↦ hline (heq ▸ hc)

/-! ### The comment of a line -/

/-- The place behind characters of a line, if none of them starts a comment. -/
def standing (place : Place) : List Char → Option Place
  | [] => some place
  | c :: rest => if place = .code ∧ c = '#' then none else standing (place.next c) rest

variable {place place' : Place} {chars front back line tail w : List Char} {c : Char}
  {layout : List LaidLine} {ls : List Lexeme} {i : Nat} {environment : Environment}

/-- The place behind characters is found in two steps, cut anywhere. -/
theorem standing_append (place : Place) (front back : List Char) :
    standing place (front ++ back) = (standing place front).bind (standing · back) := by
  induction front generalizing place with
  | nil => rfl
  | cons c front ih =>
    rw [List.cons_append, standing, standing]
    split
    · rfl
    · exact ih _

/-- Only a number sign starts a comment. -/
theorem mem_of_standing_eq_none (h : standing place line = none) : '#' ∈ line := by
  induction line generalizing place with
  | nil => cases h
  | cons c line ih =>
    rw [standing] at h
    split at h
    · next hsign =>
      rw [hsign.2]
      exact List.mem_cons_self
    · exact List.mem_cons_of_mem _ (ih h)

/-- Code ends before a sign that starts a comment. -/
theorem length_splitFrom_lt (h : standing place front = none) (back : List Char) :
    (splitFrom place (front ++ back)).1.length < front.length := by
  induction front generalizing place with
  | nil => cases h
  | cons c front ih =>
    rw [standing] at h
    rw [List.cons_append, splitFrom]
    split at h
    · next hsign =>
      rw [if_pos hsign]
      exact Nat.succ_pos _
    · next hsign =>
      rw [if_neg hsign]
      exact Nat.succ_lt_succ (ih h)

/-- Code goes on where no sign starts a comment. -/
theorem splitFrom_append_of_standing (h : standing place front = some place') (back : List Char) :
    (splitFrom place (front ++ back)).1 = front ++ (splitFrom place' back).1 := by
  induction front generalizing place with
  | nil =>
    cases h
    rfl
  | cons c front ih =>
    rw [standing] at h
    rw [List.cons_append, splitFrom]
    split at h
    · cases h
    · next hsign =>
      rw [if_neg hsign]
      exact congrArg (c :: ·) (ih h)

/-- A character that is no number sign is code, whatever is before it. -/
theorem splitFrom_cons (hc : c ≠ '#') (place : Place) (rest : List Char) :
    (splitFrom place (c :: rest)).1 = c :: (splitFrom (place.next c) rest).1 := by
  rw [splitFrom, if_neg fun h ↦ hc h.2]

/-! ### Strings on one line -/

/-- Behind the closing quote of a string there is code again. -/
theorem standing_of_basicTail (h : BasicTail w) : standing (.basic false) w = some .code := by
  induction h with
  | closed => rfl
  | escape _ _ ih =>
    rw [standing, if_neg (by simp), standing, if_neg (by simp [Place.next])]
    exact ih
  | @text c w own _ ih =>
    simp only [List.mem_cons, List.not_mem_nil, or_false, not_or] at own
    rw [standing, if_neg (by simp), Place.next, if_neg own.2.1, if_neg own.1]
    exact ih

/-- A string on one line has no line feed. -/
theorem not_mem_of_basicTail (h : BasicTail w) : '\n' ∉ w := by
  induction h with
  | closed => decide
  | escape line _ ih => simp [ih, Ne.symm line]
  | text own _ ih =>
    simp only [List.mem_cons, List.not_mem_nil, or_false, not_or] at own
    simp [ih, Ne.symm own.2.2]

/-- Behind the closing quote of a literal string there is code again. -/
theorem standing_of_literal (h : ∀ c ∈ w, Toml.isLiteral c = true) :
    standing .literal (w ++ ['\x27']) = some .code := by
  induction w with
  | nil => rfl
  | cons c w ih =>
    rw [List.forall_mem_cons, Toml.isLiteral, Bool.and_eq_true, decide_eq_true_eq] at h
    rw [List.cons_append, standing, if_neg (by simp), Place.next, if_neg h.1.1]
    exact ih h.2

/-- A string that is no block stands on one line, and behind it there is code again. -/
theorem standing_of_quoted (h : Quoted w) (hblock : ¬StartsBlock w) :
    standing .code w = some .code ∧ '\n' ∉ w := by
  cases h with
  | block h => exact absurd h hblock
  | basic h => exact ⟨standing_of_basicTail h, by simp [not_mem_of_basicTail h]⟩
  | literal h =>
    refine ⟨standing_of_literal h, ?_⟩
    simp only [List.mem_cons, List.mem_append, List.not_mem_nil, or_false, not_or]
    refine ⟨by decide, fun hfeed ↦ ?_, by decide⟩
    cases h _ hfeed

/-! ### The line of a place -/

/-- The characters of a line. -/
def LaidLine.text (line : LaidLine) : List Char := line.code ++ line.comment

/-- The character at a position is in the comment of its line, so expansion leaves it alone. -/
def LeftAlone (layout : List LaidLine) (i : Nat) : Prop :=
  ∃ line k, partAt LaidLine.text layout i = some (line, k) ∧ line.code.length ≤ k

/-- The character at a position is in a placeholder, which expansion replaces. -/
def Replaced (layout : List LaidLine) (i : Nat) : Prop :=
  ∃ line k name j, partAt LaidLine.text layout i = some (line, k) ∧
    partAt Piece.written line.pieces k = some (.placeholder name, j)

/-- A text is the characters of its lines. -/
theorem LaidOut.flatMap_text (h : LaidOut chars layout) :
    layout.flatMap LaidLine.text = chars := by
  induction h with
  | nil => rfl
  | last _ _ lays => simp [LaidLine.text, lays.append_eq]
  | line _ lays _ ih =>
    rw [List.flatMap_cons, ih, LaidLine.text, lays.append_eq, List.append_assoc,
      List.singleton_append]

/-- Layouts can be put together where a line ends. -/
theorem LaidOut.append {head : List Char} {done rest : List LaidLine} (h : LaidOut head done)
    (hend : EndsLine head) (h' : LaidOut tail rest) : LaidOut (head ++ tail) (done ++ rest) := by
  induction h with
  | nil => exact h'
  | last nonempty whole _ =>
    rcases hend with rfl | ⟨lines, rfl⟩
    · exact absurd rfl nonempty
    · simp at whole
  | @line line after laid layout whole lays _ ih =>
    rw [List.append_assoc]
    rw [← List.singleton_append, ← List.append_assoc] at hend
    exact .line whole lays (ih hend.of_append)

/-- What a text starts with, up to the first line feed at most, its first line starts with. -/
theorem LaidOut.exists_first (h : LaidOut (line ++ back) layout) (hline : '\n' ∉ line)
    (hne : line ≠ []) :
    ∃ laid rest tail, layout = laid :: rest ∧ laid.Lays (line ++ tail) := by
  generalize heq : line ++ back = chars at h
  cases h with
  | nil => exact absurd (List.append_eq_nil_iff.1 heq).1 hne
  | last _ _ lays => exact ⟨_, _, back, rfl, heq ▸ lays⟩
  | @line first after laid rest whole lays h =>
    rcases List.append_eq_append_iff.1 heq with ⟨tail, rfl, -⟩ | ⟨tail, rfl, hafter⟩
    · exact ⟨laid, rest, tail ++ ['\n'], rfl, by rwa [← List.append_assoc]⟩
    · cases tail with
      | nil => exact ⟨laid, rest, ['\n'], rfl, by rwa [List.append_nil]⟩
      | cons c tail =>
        cases hafter
        simp at hline

/-- A placeholder starts on a line, behind what stands before it on this line. -/
theorem LaidOut.exists_line (h : LaidOut (front ++ '$' :: '\x7b' :: back) layout) :
    ∃ laid tail, partAt LaidLine.text layout front.length = some (laid, (lineOf front).length) ∧
      laid ∈ layout ∧ laid.Lays (lineOf front ++ '$' :: '\x7b' :: tail) := by
  obtain ⟨head, hend, hfront⟩ := exists_eq_append_lineOf front
  have hline : '\n' ∉ lineOf front ++ ['$', '\x7b'] := by
    simpa using not_mem_lineOf front
  generalize lineOf front = line at hfront hline ⊢
  subst hfront
  obtain ⟨done, hdone⟩ : ∃ done, LaidOut head done := ⟨_, laidOut_splitLines head⟩
  obtain ⟨rest, hrest⟩ : ∃ rest, LaidOut (line ++ ['$', '\x7b'] ++ back) rest :=
    ⟨_, laidOut_splitLines _⟩
  obtain ⟨laid, rest, tail, rfl, lays⟩ := hrest.exists_first hline (by simp)
  have hall := hdone.append hend hrest
  rw [show head ++ (line ++ ['$', '\x7b'] ++ back) = head ++ line ++ '$' :: '\x7b' :: back by simp]
    at hall
  have hlayout := h.eq_map.trans hall.eq_map.symm
  rw [show line ++ ['$', '\x7b'] ++ tail = line ++ '$' :: '\x7b' :: tail by simp] at lays
  refine ⟨laid, tail, ?_, ?_, lays⟩
  · have hlength : line.length < laid.text.length := by
      rw [LaidLine.text, lays.append_eq, List.length_append, List.length_cons]
      omega
    rw [hlayout, List.length_append, ← hdone.flatMap_text, partAt_append,
      partAt_cons_self hlength]
  · rw [hlayout]
    exact List.mem_append_right _ List.mem_cons_self

/-- A placeholder is left alone exactly if a number sign before it on its line starts a comment, by
the quotes of the line. -/
theorem LaidOut.leftAlone_iff (h : LaidOut (front ++ '$' :: '\x7b' :: back) layout) :
    LeftAlone layout front.length ↔ standing .code (lineOf front) = none := by
  obtain ⟨laid, tail, hpart, -, lays⟩ := h.exists_line
  generalize lineOf front = line at hpart lays ⊢
  have hcode : (splitFrom .code (line ++ '$' :: '\x7b' :: tail)).1 = laid.code :=
    congrArg Prod.fst lays.split
  have hleft : LeftAlone layout front.length ↔ laid.code.length ≤ line.length := by
    constructor
    · rintro ⟨laid', k, hpart', hle⟩
      cases hpart.symm.trans hpart'
      exact hle
    · intro hle
      exact ⟨laid, _, hpart, hle⟩
  rw [hleft, ← hcode]
  cases hstanding : standing .code line with
  | none => exact iff_of_true (Nat.le_of_lt (length_splitFrom_lt hstanding _)) rfl
  | some place =>
    rw [splitFrom_append_of_standing hstanding, splitFrom_cons (by decide), List.length_append,
      List.length_cons]
    exact iff_of_false (by omega) nofun

/-- In code that can be expanded, a dollar sign with a brace is in a placeholder. -/
theorem Scans.exists_placeholder {ps : List Piece}
    (h : Scans (front ++ '$' :: '\x7b' :: back) ps) (hset : ∀ p ∈ ps, p.IsSet environment) :
    ∃ name j, partAt Piece.written ps front.length = some (.placeholder name, j) := by
  generalize heq : front ++ '$' :: '\x7b' :: back = code at h
  induction h generalizing front with
  | nil => simp at heq
  | @character c code ps plain _ ih =>
    cases front with
    | nil =>
      cases heq
      exact absurd ⟨back, rfl⟩ plain
    | cons d front =>
      cases heq
      obtain ⟨name, j, hpart⟩ := ih (fun p hp ↦ hset p (List.mem_cons_of_mem _ hp)) rfl
      refine ⟨name, j, ?_⟩
      rw [List.length_cons, Nat.add_comm]
      exact (partAt_cons (.character c) ps _).trans hpart
  | @placeholder name code ps _ _ ih =>
    have hwritten : front ++ '$' :: '\x7b' :: back =
        (Piece.placeholder name).written ++ code := by
      rw [heq]
      simp [Piece.written]
    -- The dollar sign may stand in the name of a placeholder that began before it.
    by_cases hlength : front.length < (Piece.placeholder name).written.length
    · exact ⟨name, _, partAt_cons_self hlength⟩
    · obtain ⟨tail, rfl⟩ : (Piece.placeholder name).written <+: front :=
        List.prefix_of_prefix_length_le ⟨code, hwritten.symm⟩ (List.prefix_append ..)
          (Nat.le_of_not_lt hlength)
      rw [List.append_assoc] at hwritten
      obtain ⟨name', j, hpart⟩ := ih (fun p hp ↦ hset p (List.mem_cons_of_mem _ hp))
        (List.append_cancel_left hwritten)
      refine ⟨name', j, ?_⟩
      rw [List.length_append]
      exact (partAt_cons _ ps _).trans hpart
  | unclosed => exact (hset _ List.mem_cons_self).elim

/-- If the text can be expanded, a placeholder that is not left alone is replaced. -/
theorem LaidOut.replaced (h : LaidOut (front ++ '$' :: '\x7b' :: back) layout)
    (hset : ∀ line ∈ layout, line.IsSet environment) (hnot : ¬LeftAlone layout front.length) :
    Replaced layout front.length := by
  rw [h.leftAlone_iff] at hnot
  obtain ⟨laid, tail, hpart, hmem, lays⟩ := h.exists_line
  generalize lineOf front = line at hpart lays hnot
  obtain ⟨place, hstanding⟩ := Option.ne_none_iff_exists'.1 hnot
  have hcode : laid.code =
      line ++ '$' :: '\x7b' :: (splitFrom ((place.next '$').next '\x7b') tail).1 := by
    rw [← show (splitFrom .code (line ++ '$' :: '\x7b' :: tail)).1 = laid.code from
      congrArg Prod.fst lays.split, splitFrom_append_of_standing hstanding,
      splitFrom_cons (by decide), splitFrom_cons (by decide)]
  have hscans := lays.scans
  rw [hcode] at hscans
  obtain ⟨name, j, hpiece⟩ := hscans.exists_placeholder (hset laid hmem)
  exact ⟨laid, _, name, j, hpart, hpiece⟩

/-! ### Lexemes -/

/-- The character at a position is in a comment of the document. -/
def InComment (ls : List Lexeme) (i : Nat) : Prop :=
  ∃ w k, partAt Lexeme.written ls i = some (.comment w, k)

/-- The character at a position is in a string of the document. -/
def InString (ls : List Lexeme) (i : Nat) : Prop :=
  ∃ w k, partAt Lexeme.written ls i = some (.quoted w, k)

/-- The character at a position is in a block of text. -/
def InBlock (ls : List Lexeme) (i : Nat) : Prop :=
  ∃ w k, partAt Lexeme.written ls i = some (.quoted w, k) ∧ StartsBlock w

/-- On its line there is a number sign before the place, and some of a block of text. -/
structure Doubtful (ls : List Lexeme) (front : List Char) : Prop where
  sign : '#' ∈ lineOf front
  block : ∃ i, front.length - (lineOf front).length ≤ i ∧ i < front.length ∧ InBlock ls i

/-- What each lexeme of a text is. -/
inductive Formed : Lexeme → Prop
  | plain {c : Char} (free : Toml.IsPlain c) : Formed (.plain c)
  | quoted {w : List Char} (h : Quoted w) : Formed (.quoted w)
  | comment {body : List Char} (within : '\n' ∉ body) : Formed (.comment ('#' :: body))

/-- What characters begin with is one of the three kinds of lexemes. -/
theorem formed_of_begins {l : Lexeme} {after : List Char} (h : Begins chars l after) :
    Formed l := by
  cases h with
  | plain free => exact .plain free
  | quoted reads => exact .quoted (Toml.quoted_of_scanString reads)
  | comment within => exact .comment fun hfeed ↦ (within _ hfeed).1 rfl

theorem formed_of_lexes {rest : List Char} (h : Lexes chars ls rest) : ∀ l ∈ ls, Formed l := by
  induction h with
  | done => nofun
  | cons first _ ih => exact List.forall_mem_cons.2 ⟨formed_of_begins first, ih⟩

/-- A character of a text is in one of its lexemes, behind some of it. -/
theorem exists_lexeme (h : Lexes (front ++ c :: back) ls []) :
    ∃ ls₁ l ls₂ p q, ls = ls₁ ++ l :: ls₂ ∧ l.written = p ++ c :: q ∧
      front = ls₁.flatMap Lexeme.written ++ p ∧
      partAt Lexeme.written ls front.length = some (l, p.length) ∧ Formed l := by
  have hwritten := h.written_eq
  rw [List.append_nil] at hwritten
  obtain ⟨ls₁, l, ls₂, p, q, rfl, hl, hfront, hpart⟩ := exists_partAt hwritten.symm
  exact ⟨ls₁, l, ls₂, p, q, rfl, hl, hfront, hpart,
    formed_of_lexes h l (List.mem_append_right _ List.mem_cons_self)⟩

/-- A dollar sign is never a lexeme by itself. -/
theorem written_plain_ne (free : Toml.IsPlain c) :
    (Lexeme.plain c).written ≠ front ++ '$' :: back := by
  intro hl
  rw [Lexeme.written, List.singleton_eq_append_iff] at hl
  simp only [List.cons_ne_nil, and_false, List.cons.injEq, or_false] at hl
  obtain ⟨-, heq, -⟩ := hl
  rw [← heq] at free
  exact absurd free (by decide)

/-- The lexemes behind others are those of what is left of the text. -/
theorem exists_lexes_of_append {ls₁ ls₂ : List Lexeme} {rest : List Char}
    (h : Lexes chars (ls₁ ++ ls₂) rest) :
    ∃ after, chars = ls₁.flatMap Lexeme.written ++ after ∧ Lexes after ls₂ rest := by
  induction ls₁ generalizing chars with
  | nil => exact ⟨chars, rfl, h⟩
  | cons l ls₁ ih =>
    cases h with
    | cons first h =>
      obtain ⟨after, rfl, h'⟩ := ih h
      refine ⟨after, ?_, h'⟩
      rw [first.written_eq, List.flatMap_cons, List.append_assoc]

/-- Where a line starts, a lexeme starts, or there is a block. -/
theorem exists_lexes_line {head : List Char} (h : Lexes (head ++ c :: tail) ls [])
    (hend : EndsLine head) :
    (∃ ls₁ ls₂, ls = ls₁ ++ ls₂ ∧ head = ls₁.flatMap Lexeme.written ∧
      Lexes (c :: tail) ls₂ []) ∨ InBlock ls head.length := by
  obtain ⟨ls₁, l, ls₂, p, q, rfl, hl, hhead, hpart, hformed⟩ := exists_lexeme h
  by_cases hp : p = []
  · subst hp
    rw [List.append_nil] at hhead
    obtain ⟨after, heq, h⟩ := exists_lexes_of_append h
    rw [hhead] at heq
    rw [List.append_cancel_left heq]
    exact Or.inl ⟨ls₁, l :: ls₂, rfl, hhead, h⟩
  · -- The lexeme that reaches over the start of the line has the line feed before it.
    have hfeed : '\n' ∈ l.written := by
      rw [hhead] at hend
      obtain ⟨lines, rfl⟩ := hend.of_append.resolve_left hp
      simp [hl]
    cases hformed with
    | plain =>
      rw [Lexeme.written, List.singleton_eq_append_iff] at hl
      simp [hp] at hl
    | comment within => exact absurd hfeed (by simp [Lexeme.written, within])
    | @quoted w hquoted =>
      refine Or.inr ⟨w, p.length, hpart, ?_⟩
      refine Classical.byContradiction fun hblock ↦ ?_
      exact (standing_of_quoted hquoted hblock).2 hfeed

/-- A place in a comment has the sign of the comment before it on its line. -/
theorem sign_of_inComment (h : Lexes (front ++ '$' :: back) ls [])
    (hin : InComment ls front.length) : '#' ∈ lineOf front := by
  obtain ⟨ls₁, l, ls₂, p, q, rfl, hl, rfl, hpart, hformed⟩ := exists_lexeme h
  obtain ⟨w, k, hcomment⟩ := hin
  cases hpart.symm.trans hcomment
  cases hformed with
  | @comment body within =>
    cases p with
    | nil => cases hl
    | cons d p =>
      cases hl
      have hp : '\n' ∉ '#' :: p := by
        rw [List.mem_cons, not_or]
        exact ⟨by decide, fun hfeed ↦ within (List.mem_append_left _ hfeed)⟩
      rw [lineOf_append hp]
      exact List.mem_append_right _ List.mem_cons_self

/-- A dollar sign is in a string or in a comment. -/
theorem inString_iff (h : Lexes (front ++ '$' :: back) ls []) :
    InString ls front.length ↔ ¬InComment ls front.length := by
  obtain ⟨ls₁, l, ls₂, p, q, rfl, hl, rfl, hpart, hformed⟩ := exists_lexeme h
  rw [InString, InComment, hpart]
  cases hformed with
  | plain free => exact absurd hl (written_plain_ne free)
  | quoted => simp
  | comment => simp

/-- No lexeme is empty. -/
theorem Formed.length_pos {l : Lexeme} (h : Formed l) : 0 < l.written.length := by
  cases h with
  | plain => exact Nat.one_pos
  | quoted h =>
    obtain ⟨q, w, -, rfl⟩ := h.exists_cons
    exact Nat.succ_pos _
  | comment => exact Nat.succ_pos _

/-- If the lexeme in front is a string and no block, there is code again behind it. -/
theorem standing_of_quoted_of_not_inBlock (h : Quoted w) (hblock : ¬InBlock (.quoted w :: ls) 0) :
    standing .code w = some .code := by
  refine (standing_of_quoted h fun hstarts ↦ hblock ⟨w, 0, partAt_cons_self ?_, hstarts⟩).1
  exact (Formed.quoted h).length_pos

/-- If a placeholder is in the lexeme that its line starts with, it is behind the sign of a comment
exactly if the lexeme is one. -/
theorem standing_eq_none_iff_of_written {l : Lexeme} (h : Formed l)
    (hl : l.written = line ++ '$' :: back) (hblock : line ≠ [] → ¬InBlock (l :: ls) 0) :
    standing .code line = none ↔ ∃ w, l = .comment w := by
  cases h with
  | plain free => exact absurd hl (written_plain_ne free)
  | @quoted w hquoted =>
    refine iff_of_false (fun hnone ↦ ?_) (by simp)
    have hne : line ≠ [] := by
      rintro rfl
      cases hnone
    have hw : w = line ++ '$' :: back := hl
    have hstands := standing_of_quoted_of_not_inBlock hquoted (hblock hne)
    rw [hw, standing_append, hnone] at hstands
    cases hstands
  | comment =>
    refine iff_of_true ?_ ⟨_, rfl⟩
    cases line with
    | nil => cases hl
    | cons c line =>
      cases hl
      rw [standing, if_pos ⟨rfl, rfl⟩]

/-- A lexeme that is followed on its line by a placeholder is no comment. -/
theorem standing_of_begins {l : Lexeme} (first : Begins chars l (tail ++ '$' :: back))
    (htail : '\n' ∉ tail) (hblock : ¬InBlock (l :: ls) 0) :
    standing .code l.written = some .code := by
  generalize hafter : tail ++ '$' :: back = after at first
  cases first with
  | @plain c _ free =>
    have hmarks : c ≠ '#' ∧ c ≠ '"' ∧ c ≠ '\x27' := by
      simp only [Toml.IsPlain, Toml.marks, List.mem_cons, not_or] at free
      exact ⟨free.1, free.2.1, free.2.2.1⟩
    rw [Lexeme.written, standing, if_neg fun h ↦ hmarks.1 h.2, Place.next, if_neg hmarks.2.1,
      if_neg hmarks.2.2, standing]
  | quoted reads =>
    exact standing_of_quoted_of_not_inBlock (Toml.quoted_of_scanString reads) hblock
  | comment _ ends =>
    subst hafter
    rcases ends with hnil | hend
    · simp at hnil
    · unfold Toml.dropLineEnd? at hend
      split at hend
      · next heq =>
        cases tail with
        | nil => cases heq
        | cons c tail =>
          cases heq
          simp at htail
      · next heq =>
        rcases tail with - | ⟨c, - | ⟨d, tail⟩⟩
        · cases heq
        · cases heq
        · cases heq
          simp at htail
      · cases hend

/-- On a line that starts with a lexeme and has nothing of a block on it, a sign starts a comment by
the quotes of the line exactly if it starts one in the document. -/
theorem standing_eq_none_iff (h : Lexes (line ++ '$' :: back) ls []) (hline : '\n' ∉ line)
    (hblock : ∀ i < line.length, ¬InBlock ls i) :
    standing .code line = none ↔ InComment ls line.length := by
  induction ls generalizing line with
  | nil =>
    generalize heq : line ++ '$' :: back = chars at h
    cases h
    simp at heq
  | cons l ls ih =>
    generalize heq : line ++ '$' :: back = chars at h
    cases h with
    | @cons _ after _ _ _ first h =>
    have hwritten : line ++ '$' :: back = l.written ++ after := heq.trans first.written_eq
    have hformed := formed_of_begins first
    by_cases hlength : line.length < l.written.length
    -- The place is in the lexeme.
    · obtain ⟨rest, hl⟩ : line ++ ['$'] <+: l.written :=
        List.prefix_of_prefix_length_le ⟨back, by simp⟩ ⟨after, hwritten.symm⟩
          (by rwa [List.length_append])
      rw [List.append_assoc, List.singleton_append] at hl
      rw [standing_eq_none_iff_of_written hformed hl.symm fun hne ↦
        hblock 0 (List.length_pos_iff.2 hne), InComment, partAt_cons_self hlength]
      simp
    -- The place is behind the lexeme.
    · obtain ⟨tail, rfl⟩ : l.written <+: line :=
        List.prefix_of_prefix_length_le ⟨after, hwritten.symm⟩ (List.prefix_append ..)
          (Nat.le_of_not_lt hlength)
      have hpos := hformed.length_pos
      rw [List.append_assoc] at hwritten
      have hafter := List.append_cancel_left hwritten
      subst hafter
      have htail : '\n' ∉ tail := fun hfeed ↦ hline (List.mem_append_right _ hfeed)
      have hstands : standing .code l.written = some .code :=
        standing_of_begins first htail (hblock 0 (by rw [List.length_append]; omega))
      rw [standing_append, hstands, Option.bind_some, ih h htail fun i hi ↦ ?_]
      · simp only [InComment, List.length_append, partAt_cons]
      · have hnot := hblock (l.written.length + i) (by rw [List.length_append]; omega)
        simpa only [InBlock, partAt_cons] using hnot

/-- Unless it is doubtful, a sign before a placeholder on its line starts a comment by the quotes of
the line exactly if it starts one in the document. -/
theorem standing_lineOf_eq_none_iff (h : Lexes (front ++ '$' :: back) ls [])
    (hdoubt : ¬Doubtful ls front) :
    standing .code (lineOf front) = none ↔ InComment ls front.length := by
  by_cases hsign : '#' ∈ lineOf front
  · have hblock : ∀ i, front.length - (lineOf front).length ≤ i → i < front.length →
        ¬InBlock ls i := fun i hle hlt hin ↦ hdoubt ⟨hsign, i, hle, hlt, hin⟩
    clear hdoubt
    obtain ⟨head, hend, hfront⟩ := exists_eq_append_lineOf front
    have hline := not_mem_lineOf front
    generalize lineOf front = line at *
    subst hfront
    have hne := List.ne_nil_of_mem hsign
    rw [List.length_append, Nat.add_sub_cancel] at hblock
    obtain ⟨c, rest, hrest⟩ := List.exists_cons_of_ne_nil hne
    have hlexes : Lexes (head ++ c :: (rest ++ '$' :: back)) ls [] := by
      rwa [hrest, List.append_assoc] at h
    rcases exists_lexes_line hlexes hend with ⟨ls₁, ls₂, rfl, rfl, h'⟩ | hin
    · rw [← List.cons_append, ← hrest] at h'
      rw [standing_eq_none_iff h' hline fun i hi ↦ ?_, InComment, InComment, List.length_append,
        partAt_append]
      have hnot := hblock ((ls₁.flatMap Lexeme.written).length + i) (by omega) (by omega)
      rwa [InBlock, partAt_append] at hnot
    · have := List.length_pos_iff.2 hne
      exact absurd hin (hblock _ (Nat.le_refl _) (by omega))
  · exact iff_of_false (fun hnone ↦ hsign (mem_of_standing_eq_none hnone))
      fun hin ↦ hsign (sign_of_inComment h hin)

/-! ### What is left alone -/

/-- A text that is read as a document has lexemes, and they are unique.  By them every placeholder
is in a string or in a comment.  Expansion leaves it alone exactly if a number sign before it on its
line stands outside the quotes of this line.  This is a sign of the document, and so the placeholder
in a comment of it, unless the line has some of a block of text before it; and without a sign before
it nothing is left alone.  What is left alone can cause no error and is the same in the result; if
there is a result, all that is not left alone is replaced. -/
theorem comments_left_alone (text : String) :
    ((Toml.parse text).isSome → ∃ lexemes, Lexes text.toList lexemes []) ∧
    ∀ lexemes, Lexes text.toList lexemes [] →
      (∀ lexemes', Lexes text.toList lexemes' [] → lexemes' = lexemes) ∧
      ∃ layout, LaidOut text.toList layout ∧
        (∀ front back, text.toList = front ++ '$' :: '\x7b' :: back →
          (InString lexemes front.length ↔ ¬InComment lexemes front.length) ∧
          (LeftAlone layout front.length ↔ standing .code (lineOf front) = none) ∧
          (¬Doubtful lexemes front →
            (LeftAlone layout front.length ↔ InComment lexemes front.length))) ∧
        ∀ environment,
          (∀ error, expand environment text = .error error ↔
            ∃ n, FirstFault environment layout n error) ∧
          ∀ out, expand environment text = .ok out →
            out.toList = layout.flatMap (LaidLine.expanded environment) ∧
            ∀ front back, text.toList = front ++ '$' :: '\x7b' :: back →
              ¬LeftAlone layout front.length → Replaced layout front.length := by
  refine ⟨Toml.exists_lexes, fun lexemes hlexes ↦ ⟨fun lexemes' h ↦ h.unique hlexes, ?_⟩⟩
  have hlaid := laidOut_splitLines text.toList
  refine ⟨_, hlaid, fun front back heq ↦ ?_, fun environment ↦ ⟨fun error ↦
    hlaid.expand_eq_error_iff, fun out hout ↦ ?_⟩⟩
  · rw [heq] at hlexes hlaid ⊢
    have hleft := hlaid.leftAlone_iff
    refine ⟨inString_iff hlexes, hleft, fun hdoubt ↦ ?_⟩
    rw [hleft, standing_lineOf_eq_none_iff hlexes hdoubt]
  · obtain ⟨hset, hexpanded⟩ := hlaid.expand_eq_ok_iff.1 hout
    refine ⟨hexpanded, fun front back heq hnot ↦ ?_⟩
    rw [heq] at hlaid hset hnot ⊢
    exact hlaid.replaced hset hnot

/-- A document with a block of text. -/
def blockDocument : String := "u=\"\"\"\n#$\x7bA\x7d\"\"\"\n"

/-- The block with its quotes. -/
def blockWritten : List Char :=
  ['"', '"', '"', '\n', '#', '$', '\x7b', 'A', '\x7d', '"', '"', '"']

/-- The lexemes of the document. -/
def blockLexemes : List Lexeme := [.plain 'u', .plain '=', .quoted blockWritten, .plain '\n']

/-- The placeholder in the block is in a string of the document, and it is left alone. -/
theorem comments_left_alone_blockDocument :
    (Toml.parse blockDocument).isSome ∧ Lexes blockDocument.toList blockLexemes [] ∧
      InString blockLexemes 7 ∧ (∃ layout, LaidOut blockDocument.toList layout ∧
        LeftAlone layout 7) ∧
      (expand (fun _ ↦ some "x") blockDocument).toOption = some blockDocument := by
  have hblock : Toml.scanString (blockWritten ++ ['\n']) =
      some (['#', '$', '\x7b', 'A', '\x7d'], ['\n']) := by decide +kernel
  have hlexes : Lexes blockDocument.toList blockLexemes [] :=
    .cons (.plain (by decide)) <| .cons (.plain (by decide)) <| .cons (.quoted hblock) <|
      .cons (.plain (by decide)) .done
  obtain ⟨-, layout, hlaid, hplaces, -⟩ := (comments_left_alone blockDocument).2 _ hlexes
  obtain ⟨hstring, hleft, -⟩ := hplaces ['u', '=', '"', '"', '"', '\n', '#'] _ rfl
  have hcomment : ¬InComment blockLexemes 7 := by
    rintro ⟨w, k, hpart⟩
    cases hpart
  exact ⟨by decide +kernel, hlexes, hstring.2 hcomment, ⟨layout, hlaid, hleft.2 (by decide)⟩,
    by decide +kernel⟩

end ChainProjection.Config

import ChainProjection.Config.Expansion
import ChainProjection.Proofs.Readers

/-!
# What expansion makes of a text

A text is laid out in lines, a line in code and a comment, and code in pieces: characters that stand
for themselves, and placeholders.  Here this layout is a relation (`LaidOut`, and `Scans` for code),
which says what the pieces of a text are without reading it.  **A text has one layout, and the
layout decides everything**: the text can be expanded exactly if every placeholder in it can, each
one is then replaced by its value and the rest stays, and else the first one that cannot be expanded
is the error.

That there is one layout is shown by comparing it with what the scanner makes of the text
(`Scans.pieces_eq`, `LaidOut.eq_map`), and that there is any by the scanner's own result
(`scans_pieces`, `laidOut_splitLines`).  The second is by recursion on the length and not on the
text, since a placeholder is passed over at once.

From then on there are only lists.  For each of pieces, lines and texts there is an iff for success
and one for failure, and the second says which piece is at fault and that all before it can be
expanded.  The number of a line is counted along: `expandLines_eq_error_iff` starts from any number.

The values come in behind the layout, which is that of the text before anything is replaced.  So
nothing a value brings in is looked at again; a value with a placeholder in it stays as it is.
-/

namespace ChainProjection.Config

/-! ### Layouts -/

/-- The pieces of code.  A dollar sign with a brace starts a placeholder, which ends at the first
closing brace behind it, whatever is in between. -/
inductive Scans : List Char → List Piece → Prop
  | nil : Scans [] []
  | character {c : Char} {code : List Char} {ps : List Piece}
      (plain : ¬['$', '\x7b'] <+: c :: code) (h : Scans code ps) :
      Scans (c :: code) (.character c :: ps)
  | placeholder {name code : List Char} {ps : List Piece} (ends : '\x7d' ∉ name)
      (h : Scans code ps) :
      Scans ('$' :: '\x7b' :: (name ++ '\x7d' :: code)) (.placeholder name :: ps)
  | unclosed {code : List Char} (endless : '\x7d' ∉ code) :
      Scans ('$' :: '\x7b' :: code) [.unclosed]

/-- A line with its code in pieces. -/
structure LaidLine where
  code : List Char
  /-- The pieces of the code. -/
  pieces : List Piece
  comment : List Char

/-- A line is split into code and comment, and the code into pieces. -/
structure LaidLine.Lays (laid : LaidLine) (line : List Char) : Prop where
  split : splitComment line = (laid.code, laid.comment)
  scans : Scans laid.code laid.pieces

/-- The lines of a text.  A line ends behind a line feed, or with the text. -/
inductive LaidOut : List Char → List LaidLine → Prop
  | nil : LaidOut [] []
  | last {line : List Char} {laid : LaidLine} (nonempty : line ≠ []) (whole : '\n' ∉ line)
      (lays : laid.Lays line) : LaidOut line [laid]
  | line {line rest : List Char} {laid : LaidLine} {layout : List LaidLine} (whole : '\n' ∉ line)
      (lays : laid.Lays (line ++ ['\n'])) (h : LaidOut rest layout) :
      LaidOut (line ++ '\n' :: rest) (laid :: layout)

/-! ### Pieces and lines -/

namespace Piece

/-- How a piece is written. -/
def written : Piece → List Char
  | .character c => [c]
  | .placeholder name => '$' :: '\x7b' :: (name ++ ['\x7d'])
  | .unclosed => ['$', '\x7b']

/-- The piece can be expanded: if it is a placeholder, it names a variable that is set. -/
def IsSet (environment : Environment) : Piece → Prop
  | .character _ => True
  | .placeholder name => name ≠ [] ∧ (environment (String.ofList name)).isSome
  | .unclosed => False

/-- What stands in the place of a piece that can be expanded. -/
def value (environment : Environment) : Piece → List Char
  | .character c => [c]
  | .placeholder name => ((environment (String.ofList name)).getD "").toList
  | .unclosed => []

/-- Why a piece on a line cannot be expanded. -/
inductive Faults (environment : Environment) (line : Nat) : Piece → ExpansionError → Prop
  | unclosed : Faults environment line .unclosed (.unclosed line)
  | unnamed : Faults environment line (.placeholder []) (.unnamed line)
  | unset {name : List Char} (named : name ≠ []) (unset : environment (String.ofList name) = none) :
      Faults environment line (.placeholder name) (.unset (String.ofList name) line)

end Piece

namespace LaidLine

/-- How a line is written. -/
def written (line : LaidLine) : List Char := line.pieces.flatMap Piece.written ++ line.comment

/-- Every piece of the line can be expanded. -/
def IsSet (environment : Environment) (line : LaidLine) : Prop :=
  ∀ p ∈ line.pieces, p.IsSet environment

/-- The line with its placeholders replaced. -/
def expanded (environment : Environment) (line : LaidLine) : List Char :=
  line.pieces.flatMap (Piece.value environment) ++ line.comment

end LaidLine

/-- On the line with this number is the first piece that cannot be expanded, and this is the error
for it. -/
def FirstFault (environment : Environment) (layout : List LaidLine) (number : Nat)
    (error : ExpansionError) : Prop :=
  ∃ done line rest before piece after,
    layout = done ++ line :: rest ∧ line.pieces = before ++ piece :: after ∧
      (∀ l ∈ done, l.IsSet environment) ∧ (∀ p ∈ before, p.IsSet environment) ∧
        number = done.length + 1 ∧ piece.Faults environment number error

variable {environment : Environment} {chars code line rest out : List Char} {ps : List Piece}
  {n : Nat} {error : ExpansionError} {layout : List LaidLine}

/-! ### The pieces of code -/

/-- Inside a placeholder only the closing brace matters. -/
theorem piecesFrom_some_cons (read : List Char) (c : Char) (rest : List Char) :
    piecesFrom (some read) (c :: rest) =
      if c = '\x7d' then .placeholder read.reverse :: piecesFrom none rest
      else piecesFrom (some (c :: read)) rest := by
  by_cases hstart : ∃ tail, c = '$' ∧ rest = '\x7b' :: tail
  · obtain ⟨tail, rfl, rfl⟩ := hstart
    rw [piecesFrom.eq_3, if_neg (by decide), piecesFrom.eq_5 _ _ _ fun _ h ↦ absurd h (by decide),
      if_neg (by decide)]
  · rw [piecesFrom.eq_5 _ _ _ fun tail hc hrest ↦ hstart ⟨tail, hc, hrest⟩]

/-- A placeholder is read up to its closing brace, with what was read of the name before. -/
theorem piecesFrom_some_append {name : List Char} (ends : '\x7d' ∉ name) (read : List Char) :
    piecesFrom (some read) (name ++ '\x7d' :: rest) =
      .placeholder (read.reverse ++ name) :: piecesFrom none rest := by
  induction name generalizing read with
  | nil => rw [List.nil_append, piecesFrom_some_cons, if_pos rfl, List.append_nil]
  | cons c name ih =>
    rw [List.mem_cons, not_or] at ends
    rw [List.cons_append, piecesFrom_some_cons, if_neg (Ne.symm ends.1), ih ends.2,
      List.reverse_cons, List.append_assoc, List.singleton_append]

/-- Without a closing brace the placeholder has no end. -/
theorem piecesFrom_some_of_endless (endless : '\x7d' ∉ code) (read : List Char) :
    piecesFrom (some read) code = [.unclosed] := by
  induction code generalizing read with
  | nil => rfl
  | cons c code ih =>
    rw [List.mem_cons, not_or] at endless
    rw [piecesFrom_some_cons, if_neg (Ne.symm endless.1), ih endless.2]

/-- Where no placeholder starts, a character stands for itself. -/
theorem piecesFrom_none_cons {c : Char} (plain : ¬['$', '\x7b'] <+: c :: code) :
    piecesFrom none (c :: code) = .character c :: piecesFrom none code := by
  refine piecesFrom.eq_4 c code fun tail hc hcode ↦ plain ⟨tail, ?_⟩
  rw [hc, hcode]
  rfl

/-- Code has no other pieces than those that are read. -/
theorem Scans.pieces_eq (h : Scans code ps) : pieces code = ps := by
  induction h with
  | nil => rfl
  | character plain _ ih => exact (piecesFrom_none_cons plain).trans (congrArg _ ih)
  | placeholder ends _ ih => exact (piecesFrom_some_append ends []).trans (congrArg _ ih)
  | unclosed endless => exact piecesFrom_some_of_endless endless []

/-- What is read of code are its pieces. -/
theorem scans_pieces (code : List Char) : Scans code (pieces code) := by
  match code with
  | [] => exact .nil
  | c :: code =>
    by_cases hstart : ['$', '\x7b'] <+: c :: code
    · obtain ⟨code', heq⟩ := hstart
      cases heq
      show Scans ('$' :: '\x7b' :: code') (pieces ('$' :: '\x7b' :: code'))
      -- The first closing brace ends the name; without any there is no name.
      by_cases hend : '\x7d' ∈ code'
      · obtain ⟨name, rest, rfl, ends⟩ := List.eq_append_cons_of_mem hend
        have hpieces : pieces ('$' :: '\x7b' :: (name ++ '\x7d' :: rest)) = _ :=
          piecesFrom_some_append ends []
        rw [hpieces]
        exact .placeholder ends (scans_pieces rest)
      · have hpieces : pieces ('$' :: '\x7b' :: code') = _ := piecesFrom_some_of_endless hend []
        rw [hpieces]
        exact .unclosed hend
    · rw [pieces, piecesFrom_none_cons hstart]
      exact .character hstart (scans_pieces code)
termination_by code.length
decreasing_by
  · subst_vars
    simp
    omega
  · simp

/-- If no placeholder is without its end, code is what its pieces are written as. -/
theorem Scans.written_eq (h : Scans code ps) (hset : ∀ p ∈ ps, p.IsSet environment) :
    ps.flatMap Piece.written = code := by
  induction h with
  | nil => rfl
  | character _ _ ih =>
    rw [List.flatMap_cons, ih fun p hp ↦ hset p (List.mem_cons_of_mem _ hp)]
    rfl
  | placeholder _ _ ih =>
    rw [List.flatMap_cons, ih fun p hp ↦ hset p (List.mem_cons_of_mem _ hp)]
    simp [Piece.written]
  | unclosed => exact (hset _ List.mem_cons_self).elim

/-! ### The lines of a text -/

/-- The layout of a line. -/
def layOut (line : List Char) : LaidLine where
  code := (splitComment line).1
  pieces := pieces (splitComment line).1
  comment := (splitComment line).2

/-- A line has one layout. -/
theorem lays_iff {laid : LaidLine} : laid.Lays line ↔ laid = layOut line := by
  constructor
  · intro ⟨split, scans⟩
    obtain ⟨code, ps, comment⟩ := laid
    rw [layOut, split, scans.pieces_eq]
  · rintro rfl
    exact ⟨rfl, scans_pieces _⟩

/-- Characters without a line feed are one line. -/
theorem splitLines_of_not_mem (nonempty : line ≠ []) (whole : '\n' ∉ line) :
    splitLines line = [line] := by
  induction line with
  | nil => exact absurd rfl nonempty
  | cons c line ih =>
    rw [List.mem_cons, not_or] at whole
    rw [splitLines, if_neg (Ne.symm whole.1)]
    cases line with
    | nil => rfl
    | cons d line => rw [ih (by simp) whole.2]

/-- A line ends behind its line feed. -/
theorem splitLines_append (whole : '\n' ∉ line) (rest : List Char) :
    splitLines (line ++ '\n' :: rest) = (line ++ ['\n']) :: splitLines rest := by
  induction line with
  | nil => rw [List.nil_append, splitLines, if_pos rfl, List.nil_append]
  | cons c line ih =>
    rw [List.mem_cons, not_or] at whole
    rw [List.cons_append, splitLines, if_neg (Ne.symm whole.1), ih whole.2]
    rfl

/-- A text has no other layout than that of its lines. -/
theorem LaidOut.eq_map (h : LaidOut chars layout) : layout = (splitLines chars).map layOut := by
  induction h with
  | nil => rfl
  | last nonempty whole lays => rw [splitLines_of_not_mem nonempty whole, lays_iff.1 lays]; rfl
  | line whole lays _ ih => rw [splitLines_append whole, lays_iff.1 lays, ih]; rfl

/-- Every text has a layout. -/
theorem laidOut_splitLines (chars : List Char) :
    LaidOut chars ((splitLines chars).map layOut) := by
  by_cases hfeed : '\n' ∈ chars
  · obtain ⟨line, rest, rfl, whole⟩ := List.eq_append_cons_of_mem hfeed
    rw [splitLines_append whole]
    exact .line whole (lays_iff.2 rfl) (laidOut_splitLines rest)
  · by_cases hempty : chars = []
    · subst hempty
      exact .nil
    · rw [splitLines_of_not_mem hempty hfeed]
      exact .last hempty hfeed (lays_iff.2 rfl)
termination_by chars.length
decreasing_by
  subst chars
  simp
  omega

/-- Code and comment make up the line. -/
theorem splitFrom_append (place : Place) (line : List Char) :
    (splitFrom place line).1 ++ (splitFrom place line).2 = line := by
  induction line generalizing place with
  | nil => rfl
  | cons c line ih =>
    rw [splitFrom]
    split
    · rfl
    · exact congrArg (c :: ·) (ih (place.next c))

theorem LaidLine.Lays.append_eq {laid : LaidLine} (h : laid.Lays line) :
    laid.code ++ laid.comment = line := by
  have happend := splitFrom_append .code line
  rwa [show splitFrom .code line = (laid.code, laid.comment) from h.split] at happend

/-- A line that can be expanded is what its pieces and its comment are written as. -/
theorem LaidLine.Lays.written_eq {laid : LaidLine} (h : laid.Lays line)
    (hset : laid.IsSet environment) : laid.written = line := by
  rw [written, h.scans.written_eq hset, h.append_eq]

/-- If no placeholder is without its end, a text is what its lines are written as. -/
theorem LaidOut.written_eq (h : LaidOut chars layout)
    (hset : ∀ line ∈ layout, line.IsSet environment) :
    chars = layout.flatMap LaidLine.written := by
  induction h with
  | nil => rfl
  | last _ _ lays => simp [lays.written_eq (hset _ List.mem_cons_self)]
  | line _ lays _ ih =>
    rw [List.flatMap_cons, lays.written_eq (hset _ List.mem_cons_self),
      ← ih fun l hl ↦ hset l (List.mem_cons_of_mem _ hl), List.append_assoc, List.singleton_append]

/-! ### Expanding -/

/-- A piece is expanded to its value exactly if it can be expanded. -/
theorem Piece.expand_eq_ok_iff {p : Piece} :
    p.expand environment n = .ok out ↔ p.IsSet environment ∧ out = p.value environment := by
  cases p with
  | character c =>
    rw [expand, Except.ok.injEq, eq_comm]
    exact (and_iff_right trivial).symm
  | unclosed => simp [expand, IsSet]
  | placeholder name =>
    rw [expand, IsSet, value]
    by_cases hname : name = []
    · simp [hname]
    · rw [if_neg (mt List.isEmpty_iff.1 hname)]
      cases environment (String.ofList name) with
      | none => simp
      | some text => simp [hname, eq_comm]

/-- A piece fails exactly for what is wrong with it. -/
theorem Piece.expand_eq_error_iff {p : Piece} :
    p.expand environment n = .error error ↔ p.Faults environment n error := by
  constructor
  · intro h
    cases p with
    | character => cases h
    | unclosed =>
      cases h
      exact .unclosed
    | placeholder name =>
      rw [expand] at h
      split at h
      · next hname =>
        cases h
        rw [List.isEmpty_iff.1 hname]
        exact .unnamed
      · next hname =>
        split at h
        · cases h
        · next hunset =>
          cases h
          exact .unset (mt List.isEmpty_iff.2 hname) hunset
  · intro h
    cases h with
    | unclosed => rfl
    | unnamed => rfl
    | unset named unset => simp [expand, named, unset]

section Joined

variable {first second : Except ExpansionError (List Char)}

/-- Two results are joined if there are both. -/
theorem joined_eq_ok_iff : (do return (← first) ++ (← second)) = Except.ok out ↔
    ∃ text rest, first = .ok text ∧ second = .ok rest ∧ out = text ++ rest := by
  simp only [bind_eq_ok, pure, Except.pure, Except.ok.injEq]
  constructor
  · rintro ⟨text, hfirst, rest, hsecond, rfl⟩
    exact ⟨text, rest, hfirst, hsecond, rfl⟩
  · rintro ⟨text, rest, hfirst, hsecond, rfl⟩
    exact ⟨text, hfirst, rest, hsecond, rfl⟩

/-- The first error is that of the whole; the second counts only behind a result. -/
theorem joined_eq_error_iff : (do return (← first) ++ (← second)) = Except.error error ↔
    first = .error error ∨ (∃ text, first = .ok text) ∧ second = .error error := by
  simp [bind_eq_error, pure, Except.pure]

end Joined

/-- Pieces are expanded one by one, if all of them can be. -/
theorem expandPieces_eq_ok_iff : expandPieces environment n ps = .ok out ↔
    (∀ p ∈ ps, p.IsSet environment) ∧ out = ps.flatMap (Piece.value environment) := by
  induction ps generalizing out with
  | nil => simp [expandPieces, eq_comm]
  | cons p ps ih =>
    simp only [expandPieces, joined_eq_ok_iff, Piece.expand_eq_ok_iff, ih, List.forall_mem_cons,
      List.flatMap_cons]
    constructor
    · rintro ⟨_, _, ⟨hset, rfl⟩, ⟨hall, rfl⟩, rfl⟩
      exact ⟨⟨hset, hall⟩, rfl⟩
    · rintro ⟨⟨hset, hall⟩, rfl⟩
      exact ⟨_, _, ⟨hset, rfl⟩, ⟨hall, rfl⟩, rfl⟩

/-- The error of pieces is that of the first one at fault. -/
theorem expandPieces_eq_error_iff : expandPieces environment n ps = .error error ↔
    ∃ before p after, ps = before ++ p :: after ∧ (∀ q ∈ before, q.IsSet environment) ∧
      p.Faults environment n error := by
  induction ps with
  | nil => simp [expandPieces]
  | cons p ps ih =>
    simp only [expandPieces, joined_eq_error_iff, Piece.expand_eq_ok_iff,
      Piece.expand_eq_error_iff, ih]
    constructor
    · rintro (hfaults | ⟨⟨-, hset, -⟩, before, q, after, rfl, hbefore, hfaults⟩)
      · exact ⟨[], p, ps, rfl, nofun, hfaults⟩
      · exact ⟨p :: before, q, after, rfl, List.forall_mem_cons.2 ⟨hset, hbefore⟩, hfaults⟩
    · rintro ⟨before, q, after, heq, hbefore, hfaults⟩
      cases before with
      | nil =>
        cases heq
        exact Or.inl hfaults
      | cons p' before =>
        cases heq
        rw [List.forall_mem_cons] at hbefore
        exact Or.inr ⟨⟨_, hbefore.1, rfl⟩, before, q, after, rfl, hbefore.2, hfaults⟩

theorem expandLine_eq_ok_iff : expandLine environment n line = .ok out ↔
    (layOut line).IsSet environment ∧ out = (layOut line).expanded environment := by
  show (expandPieces environment n (layOut line).pieces).map (· ++ (layOut line).comment) = _ ↔ _
  rcases h : expandPieces environment n (layOut line).pieces with error | text
  · have hset : ¬(layOut line).IsSet environment := fun hset ↦ by
      cases h.symm.trans (expandPieces_eq_ok_iff.2 ⟨hset, rfl⟩)
    simp [Except.map, hset]
  · obtain ⟨hset, rfl⟩ := expandPieces_eq_ok_iff.1 h
    rw [Except.map, Except.ok.injEq, eq_comm]
    exact (and_iff_right hset).symm

theorem expandLine_eq_error_iff : expandLine environment n line = .error error ↔
    ∃ before p after, (layOut line).pieces = before ++ p :: after ∧
      (∀ q ∈ before, q.IsSet environment) ∧ p.Faults environment n error := by
  rw [← expandPieces_eq_error_iff]
  show (expandPieces environment n (layOut line).pieces).map (· ++ (layOut line).comment) = _ ↔ _
  cases expandPieces environment n (layOut line).pieces <;> simp [Except.map]

/-- Lines are expanded one by one, if all of them can be. -/
theorem expandLines_eq_ok_iff {lines : List (List Char)} :
    expandLines environment n lines = .ok out ↔
      (∀ l ∈ lines.map layOut, l.IsSet environment) ∧
        out = (lines.map layOut).flatMap (LaidLine.expanded environment) := by
  induction lines generalizing n out with
  | nil => simp [expandLines, eq_comm]
  | cons line lines ih =>
    simp only [expandLines, joined_eq_ok_iff, expandLine_eq_ok_iff, ih, List.map_cons,
      List.forall_mem_cons, List.flatMap_cons]
    constructor
    · rintro ⟨_, _, ⟨hset, rfl⟩, ⟨hall, rfl⟩, rfl⟩
      exact ⟨⟨hset, hall⟩, rfl⟩
    · rintro ⟨⟨hset, hall⟩, rfl⟩
      exact ⟨_, _, ⟨hset, rfl⟩, ⟨hall, rfl⟩, rfl⟩

/-- The number of the line at fault is that of the first line and one for each line done. -/
theorem expandLines_eq_error_iff {lines : List (List Char)} :
    expandLines environment n lines = .error error ↔ ∃ done line rest before p after,
      lines.map layOut = done ++ line :: rest ∧ line.pieces = before ++ p :: after ∧
        (∀ l ∈ done, l.IsSet environment) ∧ (∀ q ∈ before, q.IsSet environment) ∧
          p.Faults environment (done.length + n) error := by
  induction lines generalizing n with
  | nil => simp [expandLines]
  | cons line lines ih =>
    simp only [expandLines, joined_eq_error_iff, expandLine_eq_ok_iff, expandLine_eq_error_iff, ih]
    rw [List.map_cons]
    constructor
    · rintro (⟨before, p, after, heq, hbefore, hfaults⟩ |
        ⟨⟨-, hset, -⟩, done, l, rest, before, p, after, hrest, heq, hdone, hbefore, hfaults⟩)
      · rw [← Nat.zero_add n] at hfaults
        exact ⟨[], _, _, before, p, after, rfl, heq, nofun, hbefore, hfaults⟩
      · -- The fault is on a later line: the first one is done, and its number counts.
        have hnumber : done.length + (n + 1) = (layOut line :: done).length + n := by
          rw [List.length_cons, Nat.add_right_comm, Nat.add_assoc]
        rw [hnumber] at hfaults
        exact ⟨layOut line :: done, l, rest, before, p, after, congrArg _ hrest, heq,
          List.forall_mem_cons.2 ⟨hset, hdone⟩, hbefore, hfaults⟩
    · rintro ⟨done, l, rest, before, p, after, hrest, heq, hdone, hbefore, hfaults⟩
      cases done with
      | nil =>
        cases hrest
        rw [List.length_nil, Nat.zero_add] at hfaults
        exact Or.inl ⟨before, p, after, heq, hbefore, hfaults⟩
      | cons l' done =>
        rw [List.cons_append, List.cons.injEq] at hrest
        rw [List.forall_mem_cons] at hdone
        rw [List.length_cons, Nat.add_right_comm] at hfaults
        exact Or.inr ⟨⟨_, hrest.1 ▸ hdone.1, rfl⟩, done, l, rest, before, p, after, hrest.2, heq,
          hdone.2, hbefore, hfaults⟩

/-! ### Texts -/

section Text

variable {text out : String}

/-- The layout of a text decides what the text is expanded to. -/
theorem LaidOut.expand_eq_ok_iff (h : LaidOut text.toList layout) :
    expand environment text = .ok out ↔ (∀ line ∈ layout, line.IsSet environment) ∧
      out.toList = layout.flatMap (LaidLine.expanded environment) := by
  rw [h.eq_map, expand]
  rcases hlines : expandLines environment 1 (splitLines text.toList) with error | chars
  · have hset : ¬∀ l ∈ (splitLines text.toList).map layOut, l.IsSet environment := fun hset ↦ by
      cases hlines.symm.trans (expandLines_eq_ok_iff.2 ⟨hset, rfl⟩)
    simp only [Except.map, hset, false_and, iff_false]
    exact nofun
  · obtain ⟨hset, rfl⟩ := expandLines_eq_ok_iff.1 hlines
    rw [Except.map, Except.ok.injEq, and_iff_right hset, ← String.toList_inj, String.toList_ofList,
      eq_comm]

/-- And the first piece that cannot be expanded decides the error. -/
theorem LaidOut.expand_eq_error_iff (h : LaidOut text.toList layout) :
    expand environment text = .error error ↔ ∃ n, FirstFault environment layout n error := by
  have hlines : expand environment text = .error error ↔
      expandLines environment 1 (splitLines text.toList) = .error error := by
    rw [expand]
    cases expandLines environment 1 (splitLines text.toList) <;> simp [Except.map]
  rw [hlines, expandLines_eq_error_iff, ← h.eq_map]
  constructor
  · rintro ⟨done, line, rest, before, p, after, hlayout, heq, hdone, hbefore, hfaults⟩
    exact ⟨_, done, line, rest, before, p, after, hlayout, heq, hdone, hbefore, rfl, hfaults⟩
  · rintro ⟨_, done, line, rest, before, p, after, hlayout, heq, hdone, hbefore, rfl, hfaults⟩
    exact ⟨done, line, rest, before, p, after, hlayout, heq, hdone, hbefore, hfaults⟩

end Text

/-- The words of an error name the line. -/
theorem Piece.Faults.exists_message_eq {p : Piece} (h : p.Faults environment n error) :
    ∃ front back, error.message = front ++ "line " ++ toString n ++ back := by
  cases h with
  | unclosed =>
    have hwords : "Unclosed environment variable placeholder on line " =
      "Unclosed environment variable placeholder on " ++ "line " := rfl
    exact ⟨_, "", (congrArg (· ++ toString n) hwords).trans String.append_empty.symm⟩
  | unnamed =>
    have hwords : "Empty environment variable name on line " =
      "Empty environment variable name on " ++ "line " := rfl
    exact ⟨_, "", (congrArg (· ++ toString n) hwords).trans String.append_empty.symm⟩
  | @unset name =>
    have hwords : "' is not set (referenced on line " =
      "' is not set (referenced on " ++ "line " := rfl
    have hfront := congrArg ("Environment variable '" ++ String.ofList name ++ ·) hwords
    exact ⟨_, ")", congrArg (· ++ toString n ++ ")") (hfront.trans String.append_assoc.symm)⟩

/-- A text has one layout.  It can be expanded exactly if all pieces of its lines can.  It is then
what its pieces and comments are written as, and what comes out has the value of each placeholder in
its place and is the same otherwise.  Else the error is that of the first piece that cannot be
expanded, and its words name the line of this piece. -/
theorem expand_layout (environment : Environment) (text : String) :
    ∃ layout, LaidOut text.toList layout ∧
      (∀ layout', LaidOut text.toList layout' → layout' = layout) ∧
      ((∃ out, expand environment text = .ok out) ↔ ∀ line ∈ layout, line.IsSet environment) ∧
      (∀ out, expand environment text = .ok out →
        text.toList = layout.flatMap LaidLine.written ∧
          out.toList = layout.flatMap (LaidLine.expanded environment)) ∧
      (∀ error, expand environment text = .error error ↔
        ∃ n, FirstFault environment layout n error) ∧
      ∀ n error, FirstFault environment layout n error →
        ∃ front back, error.message = front ++ "line " ++ toString n ++ back := by
  have hlaid := laidOut_splitLines text.toList
  refine ⟨_, hlaid, fun layout' h ↦ h.eq_map, ?_, fun out hout ↦ ?_,
    fun error ↦ hlaid.expand_eq_error_iff, ?_⟩
  · constructor
    · rintro ⟨out, hout⟩
      exact (hlaid.expand_eq_ok_iff.1 hout).1
    · intro hset
      exact ⟨String.ofList _, hlaid.expand_eq_ok_iff.2 ⟨hset, String.toList_ofList⟩⟩
  · obtain ⟨hset, heq⟩ := hlaid.expand_eq_ok_iff.1 hout
    exact ⟨hlaid.written_eq hset, heq⟩
  · rintro n error ⟨_, _, _, _, _, _, -, -, -, -, -, hfaults⟩
    exact hfaults.exists_message_eq

/-- A value with a placeholder, a number sign and a line feed in it. -/
example : (expand (fun _ ↦ some "$\x7bB\x7d#\n") "a = $\x7bA\x7d # $\x7bC\x7d\n").toOption =
    some "a = $\x7bB\x7d#\n # $\x7bC\x7d\n" := by
  decide +kernel

end ChainProjection.Config

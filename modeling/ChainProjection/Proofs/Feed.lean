import ChainProjection.Feed
import Mathlib.Data.List.TakeWhile

/-!
# Feeds that grow

A feed is written at its end, and a run may read it at any moment.  What it reads then is a prefix
of the bytes a later run reads, but the lines of a prefix need not be lines of the whole: **the
prefix may end within a line**, and what it has of that line is a line of its own to the reader,
since the last line may lack its end.

* `lines_append`: bytes that end with a line have the same lines whatever follows them.
* `ofBytes_prefix_of_endsLine`: so the lines of such a prefix are the first lines of the feed.
* `ofBytes_of_prefix`: any other prefix has, after first lines of the feed, one line more, which is
  what there is of the line it ends within, `cutLine`.

All of it rests on one equation, `splitLines_append_lineFeed`: behind a line feed the splitting
starts anew, whatever stands in front of it.  It does not say what a cut line holds.  Most often
that is no block, as a block ends with its closing brace; but a cut within the white space behind
that brace leaves the block whole, and then the rest of the line may still spoil it.
-/

namespace ChainProjection

namespace Feed

variable {line bytes head tail : List UInt8}

/-! ### Ends of lines -/

theorem splitLines_append_lineFeed (line head tail : List UInt8) :
    splitLines line (head ++ 0x0A :: tail) =
      splitLines line (head ++ [0x0A]) ++ splitLines [] tail := by
  induction head generalizing line with
  | nil => simp [splitLines]
  | cons byte head ih =>
    rw [List.cons_append, List.cons_append, splitLines, splitLines]
    split
    · rw [ih, List.cons_append]
    · exact ih _

/-- Bytes without a line feed only extend the present line. -/
theorem splitLines_append_of_not_mem (h : 0x0A ∉ head) :
    splitLines line (head ++ tail) = splitLines (head.reverse ++ line) tail := by
  induction head generalizing line with
  | nil => rfl
  | cons byte head ih =>
    obtain ⟨hbyte, hhead⟩ : byte ≠ 0x0A ∧ 0x0A ∉ head := by
      simpa [eq_comm, not_or] using h
    rw [List.cons_append, splitLines, if_neg hbyte, ih hhead, List.reverse_cons,
      List.append_assoc, List.singleton_append]

/-- Bytes that hold whole lines only: none, or some that end with a line feed. -/
def EndsLine (bytes : List UInt8) : Prop := bytes = [] ∨ ∃ front, bytes = front ++ [0x0A]

/-- What follows the last end of a line. -/
def cutLine (bytes : List UInt8) : List UInt8 := (bytes.reverse.takeWhile (· != 0x0A)).reverse

theorem lineFeed_not_mem_cutLine : 0x0A ∉ cutLine bytes := by
  intro hmem
  simpa using List.mem_takeWhile_imp (List.mem_reverse.1 hmem)

/-- Any bytes are whole lines and then what has been written of one more. -/
theorem exists_endsLine_append_cutLine (bytes : List UInt8) :
    ∃ whole, EndsLine whole ∧ bytes = whole ++ cutLine bytes := by
  refine ⟨(bytes.reverse.dropWhile (· != 0x0A)).reverse, ?_, ?_⟩
  · -- Read from its end, the front part starts with the first byte that stopped the search.
    cases hdrop : bytes.reverse.dropWhile (· != 0x0A) with
    | nil => exact .inl rfl
    | cons byte rest =>
      have hne : bytes.reverse.dropWhile (· != 0x0A) ≠ [] := by simp [hdrop]
      have hbyte : byte = 0x0A := by
        simpa [hdrop] using List.head_dropWhile_not (· != 0x0A) hne
      exact .inr ⟨rest.reverse, by rw [hbyte, List.reverse_cons]⟩
  · rw [cutLine, ← List.reverse_append, List.takeWhile_append_dropWhile, List.reverse_reverse]

/-! ### Lines of a prefix -/

/-- Whole lines stay what they are when more is written behind them. -/
theorem lines_append (h : EndsLine head) : lines (head ++ tail) = lines head ++ lines tail := by
  rcases h with rfl | ⟨front, rfl⟩
  · rfl
  · rw [List.append_assoc]
    exact splitLines_append_lineFeed [] front tail

/-- Without a line feed there is one line, or none if there is nothing. -/
theorem lines_of_not_mem (h : 0x0A ∉ bytes) : lines bytes = if bytes = [] then [] else [bytes] := by
  rw [lines, ← List.append_nil bytes, splitLines_append_of_not_mem h, splitLines]
  simp

theorem ofBytes_append (h : EndsLine head) :
    ofBytes (head ++ tail) = ofBytes head ++ ofBytes tail := by
  rw [ofBytes, lines_append h, List.map_append]
  rfl

/-- **The lines of a prefix are a prefix of the lines**, if the prefix ends with a line. -/
theorem ofBytes_prefix_of_endsLine (h : EndsLine head) (grows : head <+: bytes) :
    ofBytes head <+: ofBytes bytes := by
  obtain ⟨rest, rfl⟩ := grows
  exact ⟨ofBytes rest, (ofBytes_append h).symm⟩

/-- The lines of any prefix are first lines of the feed and then at most one line more, which is as
much as there is of the line that the prefix ends within. -/
theorem ofBytes_of_prefix (grows : head <+: bytes) :
    ∃ first, first <+: ofBytes bytes ∧
      (ofBytes head = first ∨ ofBytes head = first ++ [FeedLine.ofBytes (cutLine head)]) := by
  obtain ⟨whole, hwhole, heq⟩ := exists_endsLine_append_cutLine head
  have hstart : whole <+: head := ⟨cutLine head, heq.symm⟩
  refine ⟨ofBytes whole, ofBytes_prefix_of_endsLine hwhole (hstart.trans grows), ?_⟩
  have hlines : ofBytes head = ofBytes whole ++ ofBytes (cutLine head) := by
    rw [← ofBytes_append hwhole, ← heq]
  rw [hlines, ofBytes, ofBytes, lines_of_not_mem lineFeed_not_mem_cutLine]
  split
  · exact .inl (List.append_nil _)
  · exact .inr rfl

end Feed

end ChainProjection

import ChainProjection.Metadata.Post
import ChainProjection.Proofs.Metadata
import ChainProjection.Proofs.Protobuf.Text

/-!
# Posts as texts and as messages

The payload of a post is not marked as a text or as a message.  **A text without control characters
is never taken for a message**, although many such texts can be read as one: what is read then has
no fields, and that again is taken for a text.  **A message with a field is never taken for a
text**, because it is read back as it was.

So the two halves rest on different things.  The first is about bytes that nobody wrote as a
message, and comes from the tags: in a text all tags are at least four, and a post has the tags 1
and 2 (`Printable.eq_empty_of_decode`).  The second is the law of the message type,
`Schema.Faithful`, and it covers every way to write the message, with its fields in any order and
others among them, not only what the encoder writes.

A message without fields is on neither side, since it is written as no bytes at all, and is taken
for the empty text.  And a text with a control character in it, such as a line feed, may be taken
for a message.
-/

namespace ChainProjection.Metadata

open Protobuf

namespace PostContent

variable {payload : Bytes} {m : PostMetadata}

/-- A payload that reads as no message with a field is a text. -/
theorem ofPayload_of_empty (h : ∀ m, post.decode payload.toList = .ok m → m = {}) :
    ofPayload payload = ⟨payload.toText, none⟩ := by
  rw [ofPayload]
  rcases hread : post.decode payload.toList with failure | m
  · rfl
  · rw [h m hread]

/-- A payload that reads as a message with a field says what the message says. -/
theorem ofPayload_of_decode (hm : m ≠ {}) (h : post.decode payload.toList = .ok m) :
    ofPayload payload = ⟨m.text.getD "", m.repliesTo.map fun n ↦ ⟨decimal n.toNat⟩⟩ := by
  have hnumber (n : UInt32) : (Id.ofNumber n.toUInt64 : PostId) = ⟨decimal n.toNat⟩ :=
    congrArg (fun n ↦ Id.mk (decimal n)) (UInt32.toNat_toUInt64 n)
  obtain ⟨text, repliesTo⟩ := m
  rw [ofPayload, h]
  cases text with
  | some text => simp only [hnumber]
  | none =>
    cases repliesTo with
    | some n => simp only [hnumber]
    | none => exact absurd rfl hm

/-- A text without control characters is read as a message without fields, if as one at all. -/
theorem ofPayload_of_printable (payload : Bytes) (h : Printable payload.toList) :
    ofPayload payload = ⟨payload.toText, none⟩ := by
  have htags : ∀ tag ∈ post.tags, tag < 4 := by decide
  exact ofPayload_of_empty fun m hread ↦ h.eq_empty_of_decode htags hread

/-- What is written on one line is what the post says. -/
theorem ofPayload_encode {text : String} (h : Printable (Utf8.encode text)) :
    ofPayload ⟨Utf8.encode text⟩ = ⟨text, none⟩ := by
  rw [ofPayload_of_printable ⟨Utf8.encode text⟩ h, Bytes.toText, Utf8.decodeLossy_encode]

end PostContent

/-- A payload without control characters is a text, and what a message with a field may be written
as is the message, however it is written.  What it is encoded as is one of these, where its length
is one that an integer on the wire can say. -/
theorem posts_told_apart :
    (∀ payload : Bytes, Printable payload.toList →
      PostContent.ofPayload payload = ⟨payload.toText, none⟩) ∧
    ∀ m : PostMetadata, m ≠ {} →
      (∀ bytes, Encodes m.contents depthLimit bytes → PostContent.ofPayload ⟨bytes⟩ =
        ⟨m.text.getD "", m.repliesTo.map fun n ↦ ⟨decimal n.toNat⟩⟩) ∧
      ((post.encode m).length < UInt64.size → PostContent.ofPayload ⟨post.encode m⟩ =
        ⟨m.text.getD "", m.repliesTo.map fun n ↦ ⟨decimal n.toNat⟩⟩) := by
  have hpost : post.Faithful PostMetadata.contents :=
    (post_leavesOut.restores (post_takes depthLimit)).faithful
  refine ⟨PostContent.ofPayload_of_printable, fun m hm ↦ ⟨fun bytes hbytes ↦ ?_, fun hsize ↦ ?_⟩⟩
  · exact PostContent.ofPayload_of_decode hm (hpost.decode_eq hbytes)
  · exact PostContent.ofPayload_of_decode hm (hpost.decode_eq (hpost.encodes_encode m hsize))

/-- The text `#$` is a whole group on the wire and two blanks are a whole integer, and both are
taken for texts; a reply that says nothing is a message. -/
theorem posts_told_apart_group :
    post.decode [0x23, 0x24] = .ok {} ∧
    PostContent.ofPayload ⟨[0x23, 0x24]⟩ = ⟨"#$", none⟩ ∧
    post.decode [0x20, 0x20] = .ok {} ∧
    PostContent.ofPayload ⟨[0x20, 0x20]⟩ = ⟨"  ", none⟩ ∧
    post.encode { repliesTo := some 4 } = [0x10, 0x04] ∧
    PostContent.ofPayload ⟨[0x10, 0x04]⟩ = ⟨"", some ⟨"4"⟩⟩ := by
  refine ⟨by decide +kernel, ?_, by decide +kernel, ?_, by decide +kernel, ?_⟩
  · exact (posts_told_apart.1 ⟨[0x23, 0x24]⟩ (by decide +kernel)).trans (by decide +kernel)
  · exact (posts_told_apart.1 ⟨[0x20, 0x20]⟩ (by decide +kernel)).trans (by decide +kernel)
  · exact ((posts_told_apart.2 { repliesTo := some 4 } (by decide)).2 (by decide +kernel)).trans
      (by decide +kernel)

end ChainProjection.Metadata

import ChainProjection.Metadata.Post
import ChainProjection.Proofs.Protobuf.Message

/-!
# What metadata messages carry

**However a metadata message is written, reading it gives back the message**: what was absent is
absent and what was there is there, the empty texts, the zeros and the nested messages without
fields among it.  Its fields may come in any order, and fields nobody declared may come with them.

What is proved once for all message types asks two things of each (`Schema.LeavesOut.restores`), and
these are what is said here.  What is written under which tag is a table of contents (`contents`),
and its lemma `_takes` has one premise for each field, by the kind of the field.  What a message is
without some of its fields is a function of the tags (`without`), and its lemma `_leavesOut` says
that it keeps all without any tags and nothing without all of them.  The table is written here a
second time, apart from the declarations of the schemas; a field with the wrong tag or kind would
make `_takes` false.

A video has messages in it, and so its depth is one more than theirs.  Both types of categories are
one, in the fields and in the lemma.  `presence_kept` has all eight types at the depth that a
payload is read at.
-/

namespace ChainProjection.Metadata

open Protobuf

/-! ### Channels -/

/-- What a channel holds under its tags. -/
def ChannelMetadata.contents (m : ChannelMetadata) : Contents := [
  (1, m.title.map .text),
  (2, m.description.map .text),
  (3, m.isPublic.map .bool),
  (4, m.language.map .text),
  (5, m.coverPhoto.map .uint32),
  (6, m.avatarPhoto.map .uint32),
  (7, m.category.map .uint64)]

/-- A channel without the fields of some tags. -/
def ChannelMetadata.without (tags : List Nat) (m : ChannelMetadata) : ChannelMetadata where
  title := if 1 ∈ tags then none else m.title
  description := if 2 ∈ tags then none else m.description
  isPublic := if 3 ∈ tags then none else m.isPublic
  language := if 4 ∈ tags then none else m.language
  coverPhoto := if 5 ∈ tags then none else m.coverPhoto
  avatarPhoto := if 6 ∈ tags then none else m.avatarPhoto
  category := if 7 ∈ tags then none else m.category

/-- The tags of a channel are apart, and there are no other fields than those that can be left out.
-/
theorem channel_leavesOut : channel.LeavesOut ChannelMetadata.without where
  nodup := by decide
  valid := by decide
  without_nil _ := rfl
  without_all m tags htags := by
    simp only [ChannelMetadata.without, htags]
    rfl

/-- Each field of a channel takes what the table has under its tag. -/
theorem channel_takes (depth : Nat) (m : ChannelMetadata) :
    List.Forall₂ (Field.Takes ChannelMetadata.without depth m) channel.fields m.contents := by
  simp only [channel, ChannelMetadata.contents, List.forall₂_cons, List.forall₂_nil_left_iff,
    and_true]
  refine ⟨.string ?_, .string ?_, .bool ?_, .string ?_, .uint32 ?_, .uint32 ?_, .uint64 ?_⟩
  all_goals
    intro m tags htag
    split <;> simp [ChannelMetadata.without, *]

/-! ### Categories -/

/-- What a category holds under its tags. -/
def CategoryMetadata.contents (m : CategoryMetadata) : Contents :=
  [(1, m.name.map .text)]

/-- A category without the fields of some tags. -/
def CategoryMetadata.without (tags : List Nat) (m : CategoryMetadata) : CategoryMetadata where
  name := if 1 ∈ tags then none else m.name

/-- Both types of category messages have the one field. -/
theorem category_leavesOut {schema : Schema CategoryMetadata} (htags : schema.tags = [1])
    (hempty : schema.empty = {}) : schema.LeavesOut CategoryMetadata.without where
  nodup := by
    rw [htags]
    decide
  valid := by
    rw [htags]
    decide
  without_nil _ := rfl
  without_all m tags h := by
    simp only [CategoryMetadata.without, h, htags, hempty]
    rfl

/-- The field of a category takes the name. -/
theorem category_takes (depth : Nat) (m : CategoryMetadata) :
    List.Forall₂ (Field.Takes CategoryMetadata.without depth m) [categoryName] m.contents := by
  refine .cons (.string fun m tags htag ↦ ?_) .nil
  split <;> simp [CategoryMetadata.without, *]

/-! ### Media encodings -/

/-- What a media encoding holds under its tags. -/
def MediaType.contents (m : MediaType) : Contents := [
  (1, m.codecName.map .text),
  (2, m.container.map .text),
  (3, m.mimeMediaType.map .text)]

/-- A media encoding without the fields of some tags. -/
def MediaType.without (tags : List Nat) (m : MediaType) : MediaType where
  codecName := if 1 ∈ tags then none else m.codecName
  container := if 2 ∈ tags then none else m.container
  mimeMediaType := if 3 ∈ tags then none else m.mimeMediaType

theorem mediaType_leavesOut : mediaType.LeavesOut MediaType.without where
  nodup := by decide
  valid := by decide
  without_nil _ := rfl
  without_all m tags htags := by
    simp only [MediaType.without, htags]
    rfl

theorem mediaType_takes (depth : Nat) (m : MediaType) :
    List.Forall₂ (Field.Takes MediaType.without depth m) mediaType.fields m.contents := by
  simp only [mediaType, MediaType.contents, List.forall₂_cons, List.forall₂_nil_left_iff, and_true]
  refine ⟨.string ?_, .string ?_, .string ?_⟩
  all_goals
    intro m tags htag
    split <;> simp [MediaType.without, *]

/-! ### Licenses -/

/-- What a license holds under its tags. -/
def License.contents (m : License) : Contents := [
  (1, m.code.map .uint32),
  (2, m.attribution.map .text),
  (3, m.customText.map .text)]

/-- A license without the fields of some tags. -/
def License.without (tags : List Nat) (m : License) : License where
  code := if 1 ∈ tags then none else m.code
  attribution := if 2 ∈ tags then none else m.attribution
  customText := if 3 ∈ tags then none else m.customText

theorem license_leavesOut : license.LeavesOut License.without where
  nodup := by decide
  valid := by decide
  without_nil _ := rfl
  without_all m tags htags := by
    simp only [License.without, htags]
    rfl

theorem license_takes (depth : Nat) (m : License) :
    List.Forall₂ (Field.Takes License.without depth m) license.fields m.contents := by
  simp only [license, License.contents, List.forall₂_cons, List.forall₂_nil_left_iff, and_true]
  refine ⟨.uint32 ?_, .string ?_, .string ?_⟩
  all_goals
    intro m tags htag
    split <;> simp [License.without, *]

/-! ### Earlier publications -/

/-- What an earlier publication holds under its tags. -/
def EarlierPublication.contents (m : EarlierPublication) : Contents := [
  (1, m.isPublished.map .bool),
  (2, m.date.map .text)]

/-- An earlier publication without the fields of some tags. -/
def EarlierPublication.without (tags : List Nat) (m : EarlierPublication) : EarlierPublication where
  isPublished := if 1 ∈ tags then none else m.isPublished
  date := if 2 ∈ tags then none else m.date

theorem earlierPublication_leavesOut : earlierPublication.LeavesOut EarlierPublication.without where
  nodup := by decide
  valid := by decide
  without_nil _ := rfl
  without_all m tags htags := by
    simp only [EarlierPublication.without, htags]
    rfl

theorem earlierPublication_takes (depth : Nat) (m : EarlierPublication) :
    List.Forall₂ (Field.Takes EarlierPublication.without depth m) earlierPublication.fields
      m.contents := by
  simp only [earlierPublication, EarlierPublication.contents, List.forall₂_cons,
    List.forall₂_nil_left_iff, and_true]
  refine ⟨.bool ?_, .string ?_⟩
  all_goals
    intro m tags htag
    split <;> simp [EarlierPublication.without, *]

/-! ### Videos and the messages in them -/

/-- What a video holds under its tags. -/
def VideoMetadata.contents (m : VideoMetadata) : Contents := [
  (1, m.title.map .text),
  (2, m.description.map .text),
  (3, m.video.map .uint32),
  (4, m.thumbnailPhoto.map .uint32),
  (5, m.duration.map .uint32),
  (6, m.mediaPixelHeight.map .uint32),
  (7, m.mediaPixelWidth.map .uint32),
  (8, m.mediaType.map fun x => .message (Encodes x.contents)),
  (9, m.language.map .text),
  (10, m.license.map fun x => .message (Encodes x.contents)),
  (11, m.earlierPublication.map fun x => .message (Encodes x.contents)),
  (12, m.hasMarketing.map .bool),
  (13, m.isPublic.map .bool),
  (14, m.isExplicit.map .bool),
  (16, m.category.map .uint64)]

/-- A video without the fields of some tags. -/
def VideoMetadata.without (tags : List Nat) (m : VideoMetadata) : VideoMetadata where
  title := if 1 ∈ tags then none else m.title
  description := if 2 ∈ tags then none else m.description
  video := if 3 ∈ tags then none else m.video
  thumbnailPhoto := if 4 ∈ tags then none else m.thumbnailPhoto
  duration := if 5 ∈ tags then none else m.duration
  mediaPixelHeight := if 6 ∈ tags then none else m.mediaPixelHeight
  mediaPixelWidth := if 7 ∈ tags then none else m.mediaPixelWidth
  mediaType := if 8 ∈ tags then none else m.mediaType
  language := if 9 ∈ tags then none else m.language
  license := if 10 ∈ tags then none else m.license
  earlierPublication := if 11 ∈ tags then none else m.earlierPublication
  hasMarketing := if 12 ∈ tags then none else m.hasMarketing
  isPublic := if 13 ∈ tags then none else m.isPublic
  isExplicit := if 14 ∈ tags then none else m.isExplicit
  category := if 16 ∈ tags then none else m.category

theorem video_leavesOut : video.LeavesOut VideoMetadata.without where
  nodup := by decide
  valid := by decide
  without_nil _ := rfl
  without_all m tags htags := by
    simp only [VideoMetadata.without, htags]
    rfl

/-- Each field of a video takes what the table has under its tag; the three messages in it are a
level deeper. -/
theorem video_takes (depth : Nat) (m : VideoMetadata) :
    List.Forall₂ (Field.Takes VideoMetadata.without (depth + 1) m) video.fields m.contents := by
  -- The messages in a video are read back by the same lemma, before the video is.
  have hmedia := mediaType_leavesOut.restores (mediaType_takes depth)
  have hlicense := license_leavesOut.restores (license_takes depth)
  have hearlier := earlierPublication_leavesOut.restores (earlierPublication_takes depth)
  simp only [video, VideoMetadata.contents, List.forall₂_cons, List.forall₂_nil_left_iff, and_true]
  refine ⟨.string ?_, .string ?_, .uint32 ?_, .uint32 ?_, .uint32 ?_, .uint32 ?_, .uint32 ?_,
    .message ?_ (fun _ _ ↦ rfl) hmedia, .string ?_, .message ?_ (fun _ _ ↦ rfl) hlicense,
    .message ?_ (fun _ _ ↦ rfl) hearlier, .bool ?_, .bool ?_, .bool ?_, .uint64 ?_⟩
  all_goals
    intro m tags htag
    split <;> simp [VideoMetadata.without, *]

/-! ### Posts -/

/-- What a post holds under its tags. -/
def PostMetadata.contents (m : PostMetadata) : Contents := [
  (1, m.text.map .text),
  (2, m.repliesTo.map .uint32)]

/-- A post without the fields of some tags. -/
def PostMetadata.without (tags : List Nat) (m : PostMetadata) : PostMetadata where
  text := if 1 ∈ tags then none else m.text
  repliesTo := if 2 ∈ tags then none else m.repliesTo

theorem post_leavesOut : post.LeavesOut PostMetadata.without where
  nodup := by decide
  valid := by decide
  without_nil _ := rfl
  without_all m tags htags := by
    simp only [PostMetadata.without, htags]
    rfl

theorem post_takes (depth : Nat) (m : PostMetadata) :
    List.Forall₂ (Field.Takes PostMetadata.without depth m) post.fields m.contents := by
  simp only [post, PostMetadata.contents, List.forall₂_cons, List.forall₂_nil_left_iff, and_true]
  refine ⟨.string ?_, .uint32 ?_⟩
  all_goals
    intro m tags htag
    split <;> simp [PostMetadata.without, *]

/-! ### All messages -/

/-- Whatever a message has and lacks, the bytes that it may be written as are read as the message:
with its fields in any order, and any fields nobody declared before, between and behind them. -/
theorem presence_kept :
    channel.Faithful ChannelMetadata.contents ∧
    channelCategory.Faithful CategoryMetadata.contents ∧
    videoCategory.Faithful CategoryMetadata.contents ∧
    mediaType.Faithful MediaType.contents ∧
    license.Faithful License.contents ∧
    earlierPublication.Faithful EarlierPublication.contents ∧
    video.Faithful VideoMetadata.contents ∧
    post.Faithful PostMetadata.contents :=
  ⟨(channel_leavesOut.restores (channel_takes depthLimit)).faithful,
    ((category_leavesOut rfl rfl).restores (category_takes depthLimit)).faithful,
    ((category_leavesOut rfl rfl).restores (category_takes depthLimit)).faithful,
    (mediaType_leavesOut.restores (mediaType_takes depthLimit)).faithful,
    (license_leavesOut.restores (license_takes depthLimit)).faithful,
    (earlierPublication_leavesOut.restores (earlierPublication_takes depthLimit)).faithful,
    (video_leavesOut.restores (video_takes (depthLimit - 1))).faithful,
    (post_leavesOut.restores (post_takes depthLimit)).faithful⟩

/-- A video with an empty title, a duration of zero and a license without fields, in descending
order, behind a group and with a number nobody declared in its media encoding. -/
theorem presence_kept_descending :
    let m : VideoMetadata :=
      { title := some "", duration := some 0, mediaType := some { container := some "x" },
        license := some {}, isPublic := some false }
    let bytes : List UInt8 :=
      [0x7B, 0x08, 0x2A, 0x7C, 0x68, 0x00, 0x52, 0x00, 0x42, 0x08, 0x25, 1, 2, 3, 4, 0x12, 0x01,
        0x78, 0x28, 0x00, 0x0A, 0x00]
    Encodes m.contents depthLimit bytes ∧ video.decode bytes = .ok m := by
  intro m bytes
  have key {tag : Nat} {wireType : WireType} (h : ValidTag tag := by decide) :
      Key tag wireType (writeKey tag wireType) := key_writeKey h
  have hgroup : Undeclared (m.contents.map Prod.fst) depthLimit (writeKey 15 .startGroup ++
      (writeKey 1 .varint ++ writeVarint 42 ++ writeKey 15 .endGroup)) :=
    .intro (by decide) key (.field key ⟨_, varint_writeVarint 42⟩ (.close key))
  have hnumber : Undeclared [1, 2, 3] (depthLimit - 1) (writeKey 4 .fixed32 ++ [1, 2, 3, 4]) :=
    .intro (by decide) key rfl
  have hx : Delimited (Utf8.encode "x") (writeDelimited [0x78]) :=
    (show Utf8.encode "x" = [0x78] by decide +kernel) ▸ delimited_writeDelimited (by decide)
  have htitle : Delimited (Utf8.encode "") (writeDelimited []) :=
    delimited_writeDelimited (by decide)
  have hmedia : Encodes (MediaType.contents { container := some "x" }) (depthLimit - 1) _ :=
    ⟨_, .rfl, .undeclared hnumber (.declared .absent (.declared (.present key hx)
      (.declared .absent .nil)))⟩
  have hlicense : Encodes (License.contents {}) (depthLimit - 1) _ :=
    ⟨_, .rfl, .declared .absent (.declared .absent (.declared .absent .nil))⟩
  have hstrung : Strung (m.contents.map Prod.fst) depthLimit m.contents.reverse _ :=
    .undeclared hgroup (.declared .absent (.declared .absent
      (.declared (.present key (varint_writeVarint 0)) (.declared .absent (.declared .absent
        (.declared (.present key ⟨_, hlicense, delimited_writeDelimited (by decide)⟩)
          (.declared .absent
            (.declared (.present key ⟨_, hmedia, delimited_writeDelimited (by decide)⟩)
              (.declared .absent (.declared .absent
                (.declared (.present key (varint_writeVarint 0)) (.declared .absent
                  (.declared .absent (.declared .absent
                    (.declared (.present key htitle) .nil)))))))))))))))
  have hbytes : Encodes m.contents depthLimit bytes :=
    ⟨_, List.reverse_perm _, Eq.mp (congrArg _ (by decide +kernel)) hstrung⟩
  exact ⟨hbytes, presence_kept.2.2.2.2.2.2.1.decode_eq hbytes⟩

end ChainProjection.Metadata

import ChainProjection.Status
import ChainProjection.Wire.Basic

/-!
# Wire forms of statuses

The name of the variant is the member `kind` among the fields.
-/

namespace ChainProjection.Wire

/-- A status by its variant and fields. -/
def ofKind (kind : String) (members : List (String × Json)) : Json :=
  Json.withTag "kind" kind members

instance : Wire CategoryStatus where
  encode
    | .active => ofKind "Active" []
    | .archived event => ofKind "Archived" [("category_updated_event", encode event)]
    | .removed event => ofKind "Removed" [("category_deleted_event", encode event)]
  decode := Json.tagged "kind" "CategoryStatus" [
    ("Active", pure .active),
    ("Archived", CategoryStatus.archived <$> required "category_updated_event"),
    ("Removed", CategoryStatus.removed <$> required "category_deleted_event")]

instance : Wire ThreadStatus where
  encode
    | .active => ofKind "Active" []
    | .locked event => ofKind "Locked" [("thread_deleted_event", encode event)]
    | .moderated event => ofKind "Moderated" [("thread_moderated_event", encode event)]
    | .removed event => ofKind "Removed" [("thread_deleted_event", encode event)]
  decode := Json.tagged "kind" "ThreadStatus" [
    ("Active", pure .active),
    ("Locked", ThreadStatus.locked <$> required "thread_deleted_event"),
    ("Moderated", ThreadStatus.moderated <$> required "thread_moderated_event"),
    ("Removed", ThreadStatus.removed <$> required "thread_deleted_event")]

instance : Wire PostStatus where
  encode
    | .active => ofKind "Active" []
    | .locked event => ofKind "Locked" [("post_deleted_event", encode event)]
    | .moderated event => ofKind "Moderated" [("post_moderated_event", encode event)]
    | .removed event => ofKind "Removed" [("post_deleted_event", encode event)]
  decode := Json.tagged "kind" "PostStatus" [
    ("Active", pure .active),
    ("Locked", PostStatus.locked <$> nullable "post_deleted_event"),
    ("Moderated", PostStatus.moderated <$> required "post_moderated_event"),
    ("Removed", PostStatus.removed <$> required "post_deleted_event")]

instance : Wire PostOrigin where
  encode
    | .threadInitial event => ofKind "ThreadInitial" [("thread_created_event", encode event)]
    | .threadReply event => ofKind "ThreadReply" [("post_added_event", encode event)]
  decode := Json.tagged "kind" "PostOrigin" [
    ("ThreadInitial", PostOrigin.threadInitial <$> required "thread_created_event"),
    ("ThreadReply", PostOrigin.threadReply <$> required "post_added_event")]

end ChainProjection.Wire

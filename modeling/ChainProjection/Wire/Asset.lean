import ChainProjection.Asset
import ChainProjection.Wire.Actor

/-!
# Wire forms of assets
-/

namespace ChainProjection.Wire

open Json (ofMembers ofVariant variants)

instance : Wire ContentParameters where
  encode p := ofMembers [
    ("content_id", encode p.contentId),
    ("type_id", encode p.typeId),
    ("size", encode p.size),
    ("ipfs_content_id", encode p.ipfsContentId)]
  decode := Json.Fields.struct "ContentParameters" <|
    ContentParameters.mk <$> required "content_id" <*> required "type_id" <*> required "size" <*>
      required "ipfs_content_id"

instance : Wire RawAsset where
  encode
    | .urls urls => ofVariant "Urls" (encode urls)
    | .upload parameters => ofVariant "Upload" (encode parameters)
  decode := variants "RawAsset" [
    ("Urls", .value fun value => (decode value).map .urls),
    ("Upload", .value fun value => (decode value).map .upload)]

instance : Wire LiaisonJudgement where
  encode
    | .pending => .string "Pending"
    | .accepted => .string "Accepted"
  decode := variants "LiaisonJudgement" [
    ("Pending", .unit .pending),
    ("Accepted", .unit .accepted)]

instance : Wire AssetAvailability where
  encode
    | .pending => .string "Pending"
    | .accepted => .string "Accepted"
  decode := variants "AssetAvailability" [
    ("Pending", .unit .pending),
    ("Accepted", .unit .accepted)]

instance : Wire DataObjectOwner where
  encode
    | .member id => ofVariant "Member" (encode id)
    | .channel id => ofVariant "Channel" (encode id)
    | .curatorGroup id => ofVariant "CuratorGroup" (encode id)
  decode := variants "DataObjectOwner" [
    ("Member", .value fun value => (decode value).map .member),
    ("Channel", .value fun value => (decode value).map .channel),
    ("CuratorGroup", .value fun value => (decode value).map .curatorGroup)]

instance : Wire AssetRef where
  encode
    | .urls urls => ofVariant "Urls" (encode urls)
    | .dataObject id availability => ofVariant "DataObject" <|
      ofMembers [("id", encode id), ("availability", encode availability)]
  decode := variants "AssetRef" [
    ("Urls", .value fun value => (decode value).map .urls),
    ("DataObject", .record (AssetRef.dataObject <$> required "id" <*> required "availability"))]

end ChainProjection.Wire

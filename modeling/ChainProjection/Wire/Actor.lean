import ChainProjection.Actor
import ChainProjection.Wire.Basic

/-!
# Wire forms of actors and owners

The name of the variant stands outside its payload.
-/

namespace ChainProjection.Wire

open Json (ofVariant variants)

instance : Wire PrivilegedActor where
  encode
    | .lead => .string "Lead"
    | .moderator runtimeId => ofVariant "Moderator" (encode runtimeId)
  decode := variants "PrivilegedActor" [
    ("Lead", .unit .lead),
    ("Moderator", .value fun value => (decode value).map .moderator)]

instance : Wire ContentActor where
  encode
    | .lead => .string "Lead"
    | .curator group curator => ofVariant "Curator" (.array [encode group, encode curator])
    | .member number => ofVariant "Member" (encode number)
  decode := variants "ContentActor" [
    ("Lead", .unit .lead),
    ("Curator", .tuple (ContentActor.curator <$> required "0" <*> required "1")),
    ("Member", .value fun value => (decode value).map .member)]

instance : Wire ChannelOwner where
  encode
    | .member id => ofVariant "Member" (encode id)
    | .curatorGroup id => ofVariant "CuratorGroup" (encode id)
  decode := variants "ChannelOwner" [
    ("Member", .value fun value => (decode value).map .member),
    ("CuratorGroup", .value fun value => (decode value).map .curatorGroup)]

end ChainProjection.Wire

import ChainProjection.Projection.Basic

/-!
# Assets of an event

A payload names an asset by its place in the list that comes with the event.  Picking one only
checks the place; turning it into a slot may register a data object, so it comes after every check.
A data object that is there already keeps its judgement, whoever uploads it again.
-/

namespace ChainProjection

/-- An asset ready for a slot, with the size of what was uploaded. -/
structure StoredAsset where
  slot : AssetRef
  /-- The size of an upload; none for links. -/
  size : Option UInt64
  deriving DecidableEq

namespace Projection

/-- The asset at a place of the list. -/
def selectAsset (o : Occurrence) (assets : List RawAsset) (index : UInt32) :
    Projection RawAsset :=
  require o (.noAsset index assets.length) assets[index.toNat]?

/-- Turns an asset into the content of a slot; an upload registers its data object. -/
def storeAsset (o : Occurrence) (owner : DataObjectOwner) (asset : RawAsset) :
    Projection StoredAsset := do
  match asset with
  | .urls links => return ⟨.urls links, none⟩
  | .upload parameters =>
    let id := Id.ofContent parameters.contentId
    let judgement := match ← ofStore ((← store).loadDataObject id) with
      | some object => object.liaisonJudgement
      | none => .pending
    write (·.saveDataObject {
      id := id
      owner := owner
      createdInBlock := o.block
      typeId := parameters.typeId
      size := parameters.size
      liaisonJudgement := judgement
      ipfsContentId := parameters.ipfsContentId.toText })
    return ⟨.dataObject id judgement.availability, some parameters.size⟩

/-- The new content of a slot: the asset, if there is one, else what the slot holds. -/
def fillSlot (o : Occurrence) (owner : DataObjectOwner) (asset : Option RawAsset)
    (current : Option AssetRef) : Projection (Option AssetRef) := do
  match asset with
  | none => return current
  | some asset => return some (← storeAsset o owner asset).slot

end Projection

end ChainProjection

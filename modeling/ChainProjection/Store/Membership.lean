import ChainProjection.Store.Basic

/-!
# Membership flags

Some events carry a whole set: the threads pinned in a category, the videos featured.  `replaceSet`
sets the flags of the entities in scope to it.  Rows whose flag does not change are left alone, so
doing it twice is doing it once.
-/

namespace ChainProjection

/-- A set kept as a flag on its members. -/
inductive FlaggedSet where
  /-- The pinned threads of a category. -/
  | stickyThreads (category : CategoryId)
  /-- The featured videos. -/
  | featuredVideos
  deriving DecidableEq, Repr

/-- What a member of the set is called in messages. -/
def FlaggedSet.describe : FlaggedSet → String
  | .stickyThreads category => "Forum thread in category " ++ category.text
  | .featuredVideos => "Video"

/-- How a set changed. -/
structure SetChange where
  /-- The ids that came in, in ascending order. -/
  added : List String
  /-- The ids that went out, in ascending order. -/
  removed : List String
  deriving DecidableEq

namespace Store

/-- The entities that may be in a set, each with its flag, in ascending order of their ids. -/
def inScope (store : Store) : FlaggedSet → List (String × Bool)
  | .stickyThreads category =>
    (store.threads.toList.filter fun (_, thread) => thread.category = category).map
      fun (id, thread) => (id.text, thread.isSticky)
  | .featuredVideos => store.videos.toList.map fun (id, video) => (id.text, video.isFeatured)

/-- The ids in scope whose flag is the one asked for; of these only the ones within a set, where
one is given. -/
def selectIds (store : Store) (set : FlaggedSet) (flagged : Bool)
    (within : Option (Std.ExtTreeSet String)) : Std.ExtTreeSet String :=
  let ids := ((store.inScope set).filter fun (_, flag) => flag == flagged).map Prod.fst
  match within with
  | none => .ofList ids
  | some wanted => if wanted.isEmpty then ∅ else .ofList (ids.filter wanted.contains)

/-- Sets the flag of the entities with some ids. -/
def setFlag (store : Store) (set : FlaggedSet) (ids : List String) (flag : Bool)
    (updatedAt : Int64) : Store :=
  match set with
  | .stickyThreads _ =>
    let mark (id : ThreadId) (thread : Thread) : Thread :=
      if ids.contains id.text then { thread with isSticky := flag, updatedAt := updatedAt }
      else thread
    { store with threads := store.threads.map mark }
  | .featuredVideos =>
    let mark (id : VideoId) (video : Video) : Video :=
      if ids.contains id.text then { video with isFeatured := flag, updatedAt := updatedAt }
      else video
    { store with videos := store.videos.map mark }

/-- Makes a set the wanted one, or gives the wanted ids that are missing: those that are neither
flagged nor among the candidates for the flag. -/
def replaceSet (store : Store) (set : FlaggedSet) (wanted : List String) (updatedAt : Int64) :
    Except (List String) (SetChange × Store) :=
  let desired := Std.ExtTreeSet.ofList wanted
  let current := store.selectIds set true none
  let candidates := store.selectIds set false (some desired)
  match desired.toList.filter fun id => !current.contains id && !candidates.contains id with
  | [] =>
    let change : SetChange := ⟨candidates.toList, (current \ desired).toList⟩
    let cleared := store.setFlag set change.removed false updatedAt
    .ok (change, cleared.setFlag set change.added true updatedAt)
  | missing => .error missing

end Store

end ChainProjection

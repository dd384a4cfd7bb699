import ChainProjection.Projection.Occurrence
import ChainProjection.Store.Content
import ChainProjection.Store.Forum

/-!
# Projections

A projection takes a store to a result and a store.  It may fail, and then the store stays as it was
at the moment of the failure; taking back what was written is up to the caller, which is how a block
can be all or nothing while a single event is not.  On the way it notes what it leaves out; nothing
that was noted before can be looked at, so what a projection does depends on the store alone.

The second half finds the rows an event refers to.  A row the chain guarantees is required; members
and languages come into being when they are first referred to.
-/

namespace ChainProjection

/-- What projections work on one after the other. -/
structure Journal where
  store : Store := {}
  /-- What was left out, newest first. -/
  omissions : List Omission := []

/-- What a projection comes to on a store. -/
structure Outcome (α : Type) where
  result : Except ProjectionError α
  /-- The store it leaves, also where it fails. -/
  store : Store
  /-- What it left out, newest first. -/
  omissions : List Omission := []

/-- Work on a store that may fail. -/
def Projection (α : Type) : Type := Store → Outcome α

namespace Projection

/-- Does nothing and gives a result. -/
protected def pure {α : Type} (x : α) : Projection α := fun store => ⟨.ok x, store, []⟩

/-- Goes on with the result of a projection; where that fails there is nothing to go on with. -/
protected def bind {α β : Type} (p : Projection α) (next : α → Projection β) : Projection β :=
  fun store =>
    let before := p store
    match before.result with
    | .ok x =>
      let after := next x before.store
      { after with omissions := after.omissions ++ before.omissions }
    | .error error => ⟨.error error, before.store, before.omissions⟩

/-- Fails with an error. -/
def raise {α : Type} (error : ProjectionError) : Projection α := fun store =>
  ⟨.error error, store, []⟩

/-- Goes on with the error of a projection that fails. -/
def recover {α : Type} (p : Projection α) (next : ProjectionError → Projection α) :
    Projection α := fun store =>
  let before := p store
  match before.result with
  | .ok _ => before
  | .error error =>
    let after := next error before.store
    { after with omissions := after.omissions ++ before.omissions }

instance : Monad Projection where
  pure := Projection.pure
  bind := Projection.bind

instance : MonadExcept ProjectionError Projection where
  throw := raise
  tryCatch := recover

/-- Runs a projection: its outcome and the journal it leaves, also where it fails. -/
def run {α : Type} (p : Projection α) (journal : Journal) : Except ProjectionError α × Journal :=
  let outcome := p journal.store
  (outcome.result, ⟨outcome.store, outcome.omissions ++ journal.omissions⟩)

/-- The store as it is. -/
def store : Projection Store := fun store => ⟨.ok store, store, []⟩

/-- Changes the store. -/
def write (change : Store → Store) : Projection Unit := fun store => ⟨.ok (), change store, []⟩

/-- Changes the store and gives a result. -/
def writeWith {α : Type} (change : Store → α × Store) : Projection α := fun store =>
  ⟨.ok (change store).1, (change store).2, []⟩

/-- The result of reading the store, which may refuse. -/
def ofStore {α : Type} (result : Except StoreError α) : Projection α :=
  match result with
  | .ok x => return x
  | .error error => throw (.store error)

/-- Fails with an inconsistency. -/
def fail {α : Type} (o : Occurrence) (what : Inconsistency) : Projection α :=
  throw (o.inconsistent what)

/-- A result that is there, or an inconsistency. -/
def require {α : Type} (o : Occurrence) (what : Inconsistency) (result : Option α) :
    Projection α :=
  match result with
  | some x => return x
  | none => fail o what

/-- A result that may be an inconsistency. -/
def ensure {α : Type} (o : Occurrence) (result : Except Inconsistency α) : Projection α :=
  match result with
  | .ok x => return x
  | .error what => fail o what

/-- A result that may be an error of the domain. -/
def check {α : Type} (o : Occurrence) (result : Except DomainError α) : Projection α :=
  ensure o (result.mapError .domain)

/-- Notes an omission. -/
def leaveOut (o : Occurrence) (field : String) (reason : Reason) : Projection Unit :=
  fun store => ⟨.ok (), store, [⟨o.id, field, reason⟩]⟩

/-! ### Rows an event refers to -/

/-- The category with an id. -/
def category (o : Occurrence) (id : CategoryId) : Projection Category := do
  require o (.notFound .category id.text) (← ofStore ((← store).loadCategory id))

/-- The thread with an id. -/
def thread (o : Occurrence) (id : ThreadId) : Projection Thread := do
  require o (.notFound .thread id.text) (← ofStore ((← store).loadThread id))

/-- The post with an id. -/
def post (o : Occurrence) (id : PostId) : Projection Post := do
  require o (.notFound .post id.text) (← ofStore ((← store).loadPost id))

/-- The channel with an id. -/
def channel (o : Occurrence) (id : ChannelId) : Projection Channel := do
  require o (.notFound .channel id.text) (← ofStore ((← store).loadChannel id))

/-- The video with an id. -/
def video (o : Occurrence) (id : VideoId) : Projection Video := do
  require o (.notFound .video id.text) (← ofStore ((← store).loadVideo id))

/-- The data object with an id. -/
def dataObject (o : Occurrence) (id : ContentId) : Projection DataObject := do
  require o (.notFound .content id.text) (← ofStore ((← store).loadDataObject id))

/-- The channel category with an id. -/
def channelCategory (o : Occurrence) (id : ChannelCategoryId) :
    Projection (ContentCategory .channelCategory) := do
  require o (.notFound .channelCategory id.text) (← ofStore ((← store).loadChannelCategory id))

/-- The video category with an id. -/
def videoCategory (o : Occurrence) (id : VideoCategoryId) :
    Projection (ContentCategory .videoCategory) := do
  require o (.notFound .videoCategory id.text) (← ofStore ((← store).loadVideoCategory id))

/-- The worker behind a privileged actor. -/
def actorWorker (o : Occurrence) (actor : PrivilegedActor) : Projection Worker := do
  let store ← store
  require o (.noPrivilegedWorker actor) <| match actor with
    | .lead => store.groupLead? forumGroup
    | .moderator runtimeId => store.groupWorker? forumGroup runtimeId

/-- The forum worker with a number. -/
def forumWorker (o : Occurrence) (runtimeId : UInt64) : Projection Worker := do
  require o (.noForumWorker runtimeId) ((← store).groupWorker? forumGroup runtimeId)

/-- The alternative at a place of the poll of a thread. -/
def pollAlternative (o : Occurrence) (thread : ThreadId) (index : UInt32) :
    Projection PollAlternative := do
  require o (.noPollAlternative index thread) ((← store).pollAlternative? thread index)

/-- A member, made known if it is not. -/
def member (o : Occurrence) (id : MemberId) : Projection MemberId := do
  write (·.ensureMember id o.block)
  return id

/-- A language by its code, made known if it is not. -/
def language (o : Occurrence) (code : String) : Projection String := do
  let code ← check o (Language.validate code)
  write (·.ensureLanguage code o.block)
  return code

/-- Replaces a flagged set. -/
def replaceSet (o : Occurrence) (set : FlaggedSet) (wanted : List String) :
    Projection SetChange := do
  match (← store).replaceSet set wanted o.timestamp with
  | .ok (change, store) =>
    write fun _ => store
    return change
  | .error missing => fail o (.notInScope set missing)

end Projection

end ChainProjection

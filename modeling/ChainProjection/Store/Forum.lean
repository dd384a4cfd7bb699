import ChainProjection.Store.Basic

/-!
# Forum rows

An entity that is saved again takes on the new values one by one, and the time of its creation is
not among them.  Members are stubs: the first block that names one creates it.
-/

namespace ChainProjection

/-!
### Rows saved again

Each of these lists what the old row takes on.  The id is in the lists only because rows are found
by it: where a row stands under its own id, it is the same in both.
-/

/-- An old category with the values of a new one. -/
def Category.rewrittenAs (old row : Category) : Category :=
  { old with
    id := row.id
    parent := row.parent
    title := row.title
    description := row.description
    status := row.status
    updatedAt := row.updatedAt }

/-- An old thread with the values of a new one. -/
def Thread.rewrittenAs (old row : Thread) : Thread :=
  { old with
    id := row.id
    category := row.category
    author := row.author
    title := row.title
    isSticky := row.isSticky
    status := row.status
    updatedAt := row.updatedAt }

/-- An old post with the values of a new one. -/
def Post.rewrittenAs (old row : Post) : Post :=
  { old with
    id := row.id
    thread := row.thread
    author := row.author
    text := row.text
    status := row.status
    origin := row.origin
    repliesTo := row.repliesTo
    updatedAt := row.updatedAt }

namespace Store

/-! ### Categories, threads and posts -/

/-- Saves a category. -/
def saveCategory (store : Store) (category : Category) : Store :=
  { store with
    categories := store.categories.upsert category.id Category.rewrittenAs category }

/-- Saves a thread. -/
def saveThread (store : Store) (thread : Thread) : Store :=
  { store with threads := store.threads.upsert thread.id Thread.rewrittenAs thread }

/-- Saves a post. -/
def savePost (store : Store) (post : Post) : Store :=
  { store with posts := store.posts.upsert post.id Post.rewrittenAs post }

/-- The category with an id, read back from its stored form. -/
def loadCategory (store : Store) (id : CategoryId) : Except StoreError (Option Category) :=
  store.categories[id]?.mapM fun row => Category.ofColumns row.columns

/-- The thread with an id, read back from its stored form. -/
def loadThread (store : Store) (id : ThreadId) : Except StoreError (Option Thread) :=
  store.threads[id]?.mapM fun row => Thread.ofColumns row.columns

/-- The post with an id, read back from its stored form. -/
def loadPost (store : Store) (id : PostId) : Except StoreError (Option Post) :=
  store.posts[id]?.mapM fun row => Post.ofColumns row.columns

/-! ### Moderators -/

/-- The moderators of a category in order of their ids. -/
def moderatorsOf (store : Store) (category : CategoryId) : List WorkerId :=
  (store.moderators.toList.filter fun m => m.1 = category).map Prod.snd

/-- Makes a worker a moderator; says whether it was none before. -/
def addModerator (store : Store) (category : CategoryId) (worker : WorkerId) : Bool × Store :=
  (!store.moderators.contains (category, worker),
    { store with moderators := store.moderators.insert (category, worker) })

/-- Makes a worker no moderator; says whether it was one before. -/
def removeModerator (store : Store) (category : CategoryId) (worker : WorkerId) : Bool × Store :=
  (store.moderators.contains (category, worker),
    { store with moderators := store.moderators.erase (category, worker) })

/-! ### Polls -/

/-- The rows of alternatives; the first gets the place and row number given. -/
def alternativesFrom (index row : Nat) : List String → List PollAlternative
  | [] => []
  | text :: rest => ⟨row, index, text⟩ :: alternativesFrom (index + 1) (row + 1) rest

/-- Attaches a poll to a thread that has none; gives its row number. -/
def insertPoll (store : Store) (thread : ThreadId) (description : String) (endTime : Int64)
    (alternatives : List String) (createdAt : Int64) : Except StoreError (Nat × Store) :=
  if store.polls.contains thread then .error .duplicatePoll
  else
    let id := store.pollRows + 1
    let poll : Poll :=
      ⟨id, description, endTime, createdAt,
        alternativesFrom 0 (store.alternativeRows + 1) alternatives⟩
    .ok (id, { store with
      polls := store.polls.insert thread poll
      pollRows := id
      alternativeRows := store.alternativeRows + alternatives.length })

/-- The alternative at a place of the poll of a thread. -/
def pollAlternative? (store : Store) (thread : ThreadId) (index : UInt32) :
    Option PollAlternative :=
  store.polls[thread]?.bind fun poll => poll.alternatives.find? fun a => a.index = index.toNat

/-! ### Members and workers -/

/-- Makes sure a member is known. -/
def ensureMember (store : Store) (id : MemberId) (block : UInt64) : Store :=
  { store with members := store.members.insertIfNew id block }

/-- Whether a member is known. -/
def memberExists (store : Store) (id : MemberId) : Bool := store.members.contains id

/-- The worker with a number in a group. -/
def groupWorker? (store : Store) (group : String) (runtimeId : UInt64) : Option Worker :=
  store.workers.find? fun w => w.groupId = group ∧ w.runtimeId = runtimeId

/-- The active lead of a group; of several the one that was saved first. -/
def groupLead? (store : Store) (group : String) : Option Worker :=
  store.workers.find? fun w => w.groupId = group ∧ w.isLead ∧ w.isActive

/-- Saves a worker.  One with a known id takes on the new membership and flags and keeps its group
and number; a new one must have a number that is free in its group. -/
def saveWorker (store : Store) (worker : Worker) : Except StoreError Store :=
  if store.workers.any fun w => w.id = worker.id then
    .ok { store with workers := store.workers.map fun w =>
      if w.id = worker.id then
        { w with
          membership := worker.membership
          isLead := worker.isLead
          isActive := worker.isActive }
      else w }
  else if (store.groupWorker? worker.groupId worker.runtimeId).isSome then .error .duplicateWorker
  else .ok { store with workers := store.workers ++ [worker] }

end Store

end ChainProjection

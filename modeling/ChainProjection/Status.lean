import ChainProjection.DomainError
import ChainProjection.Id

/-!
# Lifecycles of the forum

A status that comes about by an event names the event, except that becoming active again names none.
A change replaces the whole status, so what came before is in the event log alone.  Stored, a status
is the name of its variant beside an optional event; `ofColumns` rebuilds it and refuses a variant
that needs an event without one.
-/

namespace ChainProjection

/-- The event a stored variant must name. -/
def requireCause (field : VariantField) (variant : String) (cause : Option EventId) :
    Except DomainError EventId :=
  match cause with
  | some event => .ok event
  | none => .error (.missingCause field variant)

/-! ### Categories -/

/-- The status of a forum category. -/
inductive CategoryStatus where
  /-- Open for new threads. -/
  | active
  /-- Archived by the update `event`. -/
  | archived (event : EventId)
  /-- Deleted on the chain by `event`. -/
  | removed (event : EventId)
  deriving DecidableEq, Repr

namespace CategoryStatus

/-- The stored name of the variant. -/
def kind : CategoryStatus → String
  | .active => "Active"
  | .archived _ => "Archived"
  | .removed _ => "Removed"

/-- The event the status names. -/
def cause? : CategoryStatus → Option EventId
  | .active => none
  | .archived event => some event
  | .removed event => some event

/-- Rebuilds a status from its stored form. -/
def ofColumns (kind : String) (cause : Option EventId) : Except DomainError CategoryStatus :=
  match kind with
  | "Active" => .ok .active
  | "Archived" => (requireCause .categoryStatus "Archived" cause).map .archived
  | "Removed" => (requireCause .categoryStatus "Removed" cause).map .removed
  | other => .error (.unknownVariant .categoryStatus other)

/-- Archives or reopens a category.  A removed one is unknown to the chain and refuses. -/
def withArchival (status : CategoryStatus) (archived : Bool) (event : EventId) :
    Except DomainError CategoryStatus :=
  let target : CategoryStatus := if archived then .archived event else .active
  match status with
  | .removed _ => .error (.illegalTransition .categoryStatus status.kind target.kind)
  | _ => .ok target

/-- The stored form rebuilds the status. -/
theorem ofColumns_kind_cause? (status : CategoryStatus) :
    ofColumns status.kind status.cause? = .ok status := by
  cases status <;> rfl

end CategoryStatus

/-! ### Threads -/

/-- The status of a forum thread. -/
inductive ThreadStatus where
  /-- Visible and open. -/
  | active
  /-- Deleted by its author, still visible. -/
  | locked (event : EventId)
  /-- Moderated. -/
  | moderated (event : EventId)
  /-- Deleted by its author and hidden. -/
  | removed (event : EventId)
  deriving DecidableEq, Repr

namespace ThreadStatus

/-- The stored name of the variant. -/
def kind : ThreadStatus → String
  | .active => "Active"
  | .locked _ => "Locked"
  | .moderated _ => "Moderated"
  | .removed _ => "Removed"

/-- The event the status names. -/
def cause? : ThreadStatus → Option EventId
  | .active => none
  | .locked event => some event
  | .moderated event => some event
  | .removed event => some event

/-- Rebuilds a status from its stored form. -/
def ofColumns (kind : String) (cause : Option EventId) : Except DomainError ThreadStatus :=
  match kind with
  | "Active" => .ok .active
  | "Locked" => (requireCause .threadStatus "Locked" cause).map .locked
  | "Moderated" => (requireCause .threadStatus "Moderated" cause).map .moderated
  | "Removed" => (requireCause .threadStatus "Removed" cause).map .removed
  | other => .error (.unknownVariant .threadStatus other)

/-- Leaves the active status; no other status can be left. -/
def leaveActive (status target : ThreadStatus) : Except DomainError ThreadStatus :=
  match status with
  | .active => .ok target
  | _ => .error (.illegalTransition .threadStatus status.kind target.kind)

/-- Moderates an active thread. -/
def moderate (status : ThreadStatus) (event : EventId) : Except DomainError ThreadStatus :=
  status.leaveActive (.moderated event)

/-- Deletes an active thread, hiding it or leaving it visible. -/
def delete (status : ThreadStatus) (hide : Bool) (event : EventId) :
    Except DomainError ThreadStatus :=
  status.leaveActive (if hide then .removed event else .locked event)

/-- The stored form rebuilds the status. -/
theorem ofColumns_kind_cause? (status : ThreadStatus) :
    ofColumns status.kind status.cause? = .ok status := by
  cases status <;> rfl

end ThreadStatus

/-! ### Posts -/

/-- The status of a forum post. -/
inductive PostStatus where
  /-- Editable. -/
  | active
  /-- Not editable: from the start, or since a deletion that left it visible. -/
  | locked (event : Option EventId)
  /-- Moderated. -/
  | moderated (event : EventId)
  /-- Deleted and hidden. -/
  | removed (event : EventId)
  deriving DecidableEq, Repr

namespace PostStatus

/-- The stored name of the variant. -/
def kind : PostStatus → String
  | .active => "Active"
  | .locked _ => "Locked"
  | .moderated _ => "Moderated"
  | .removed _ => "Removed"

/-- The event the status names. -/
def cause? : PostStatus → Option EventId
  | .active => none
  | .locked event => event
  | .moderated event => some event
  | .removed event => some event

/-- Rebuilds a status from its stored form. -/
def ofColumns (kind : String) (cause : Option EventId) : Except DomainError PostStatus :=
  match kind with
  | "Active" => .ok .active
  | "Locked" => .ok (.locked cause)
  | "Moderated" => (requireCause .postStatus "Moderated" cause).map .moderated
  | "Removed" => (requireCause .postStatus "Removed" cause).map .removed
  | other => .error (.unknownVariant .postStatus other)

/-- The status of a new post. -/
def initial (editable : Bool) : PostStatus := if editable then .active else .locked none

/-- Deletes a post that is active or locked, hiding it or leaving it visible. -/
def delete (status : PostStatus) (hide : Bool) (event : EventId) :
    Except DomainError PostStatus :=
  let target : PostStatus := if hide then .removed event else .locked (some event)
  match status with
  | .active | .locked _ => .ok target
  | _ => .error (.illegalTransition .postStatus status.kind target.kind)

/-- The stored form rebuilds the status. -/
theorem ofColumns_kind_cause? (status : PostStatus) :
    ofColumns status.kind status.cause? = .ok status := by
  cases status <;> rfl

end PostStatus

/-- How a post came about. -/
inductive PostOrigin where
  /-- With its thread, by the event that created the thread. -/
  | threadInitial (event : EventId)
  /-- As a reply, by the event that added it. -/
  | threadReply (event : EventId)
  deriving DecidableEq, Repr

namespace PostOrigin

/-- The stored name of the variant. -/
def kind : PostOrigin → String
  | .threadInitial _ => "ThreadInitial"
  | .threadReply _ => "ThreadReply"

/-- The event the origin names. -/
def cause? : PostOrigin → Option EventId
  | .threadInitial event => some event
  | .threadReply event => some event

/-- Rebuilds an origin from its stored form. -/
def ofColumns (kind : String) (cause : Option EventId) : Except DomainError PostOrigin :=
  match kind with
  | "ThreadInitial" => (requireCause .postOrigin "ThreadInitial" cause).map .threadInitial
  | "ThreadReply" => (requireCause .postOrigin "ThreadReply" cause).map .threadReply
  | other => .error (.unknownVariant .postOrigin other)

/-- The stored form rebuilds the origin. -/
theorem ofColumns_kind_cause? (origin : PostOrigin) :
    ofColumns origin.kind origin.cause? = .ok origin := by
  cases origin <;> rfl

end PostOrigin

end ChainProjection

import ChainProjection.Proofs.Wire.Basic
import ChainProjection.Wire.Event

/-!
# Particulars of events read back

The particulars of every event read back from their JSON form, but for one case: the vote on a poll
names a row number, and one past the signed 64-bit integers is refused.  `EventData.Fits` is this
condition, true of all other particulars, and **it is exact**: `decode_encode_eventData` has it as a
hypothesis and `decode_encode_eventData_of_not` its negation.

There are as many variants as kinds of events, and each is read by its tag (`tagged_withTag`) and
then from its own fields.  How many fields there are is all that their proofs differ in.
-/

namespace ChainProjection

/-- Whether the wire takes the row number the particulars name, if they name one. -/
def EventData.Fits : EventData → Prop
  | .voteOnPoll row _ => -signedLimit ≤ row ∧ row < signedLimit
  | _ => True

namespace Wire

open Json (tagged_withTag tagged_withTag_error decodeRange)

/-- Particulars that fit read back: each variant from its own one to four fields. -/
theorem decode_encode_eventData {data : EventData} (h : data.Fits) :
    decode (encode data) = .ok data := by
  cases data with
  | voteOnPoll row voter =>
    exact tagged_withTag rfl (by simp)
      (((Json.Fields.reads_field rfl (decodeRange_int h)).map _).seq (reads_required rfl))
  | _ =>
    refine tagged_withTag rfl (by simp) ?_
    first
      | exact (reads_required rfl).map _
      | exact ((reads_required rfl).map _).seq (reads_required rfl)
      | exact (((reads_required rfl).map _).seq (reads_required rfl)).seq (reads_required rfl)
      | exact ((((reads_required rfl).map _).seq (reads_required rfl)).seq
          (reads_required rfl)).seq (reads_required rfl)

/-- Particulars that do not fit are refused. -/
theorem decode_encode_eventData_of_not {data : EventData} (h : ¬data.Fits) :
    ∃ error, (decode (encode data) : Except _ EventData) = .error error := by
  cases data with
  | voteOnPoll row voter =>
    refine tagged_withTag_error rfl (by simp) List.mem_cons_self
      ⟨.invalidValue (.int row) "i64", ?_⟩
    show ((decodeRange (-signedLimit) signedLimit "i64" (.int row)).map fun _ ↦ ()).bind
      (fun _ ↦ .ok ()) = _
    rw [decodeRange_int_of_not h]
    rfl
  | _ => exact absurd trivial h

end Wire

end ChainProjection

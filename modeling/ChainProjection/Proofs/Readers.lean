/-!
# Readers

What is read is read by parts, and each part may fail.  Two things are said of readers apart from
what they read, and every reader of the project is looked at through one of them.

* From what comes of a reading to its parts: `bind_eq_ok` and `bind_eq_error` are equivalences, so a
  reading that is known to succeed, or to fail, is taken apart without a case split over its result.
* From the parts to the reading: a reader of bytes `Reads` some of them as a value if it does so
  whatever is behind them.  The rest has to be part of the statement, since the next reader starts
  there.
-/

namespace ChainProjection

section Parts

variable {ε ε' α β : Type} {reading : Except ε α} {x : α} {y : β}

/-- Two readings in a row come to something exactly if both do. -/
theorem bind_eq_ok {next : α → Except ε β} :
    (reading >>= next) = .ok y ↔ ∃ x, reading = .ok x ∧ next x = .ok y := by
  cases reading with
  | error => simp [bind, Except.bind]
  | ok x => simp [bind, Except.bind]

/-- Two readings in a row fail as the first one of them that fails. -/
theorem bind_eq_error {next : α → Except ε β} {failure : ε} :
    (reading >>= next) = .error failure ↔
      reading = .error failure ∨ ∃ x, reading = .ok x ∧ next x = .error failure := by
  cases reading with
  | error => simp [bind, Except.bind]
  | ok x => simp [bind, Except.bind]

/-- A function of what was read changes nothing about whether it was. -/
theorem map_eq_ok {f : α → β} : reading.map f = .ok y ↔ ∃ x, reading = .ok x ∧ f x = y := by
  cases reading with
  | error => simp [Except.map]
  | ok x => simp [Except.map]

/-- What is said of failures does not make them successes. -/
theorem mapError_eq_ok {f : ε → ε'} : reading.mapError f = .ok x ↔ reading = .ok x := by
  cases reading with
  | error => exact ⟨nofun, nofun⟩
  | ok value =>
    have hmap : (Except.ok value : Except ε α).mapError f = .ok value := rfl
    rw [hmap, Except.ok.injEq, Except.ok.injEq]

end Parts

namespace Protobuf

variable {bytes : List UInt8}

/-- A reader reads the bytes as a value and leaves what is behind them. -/
def Reads {ε α : Type} (read : List UInt8 → Except ε (α × List UInt8)) (bytes : List UInt8)
    (x : α) : Prop :=
  ∀ rest, read (bytes ++ rest) = .ok (x, rest)

/-- How failures are reported is no matter for bytes that are read. -/
theorem Reads.mapError_eq {ε ε' α : Type} {read : List UInt8 → Except ε (α × List UInt8)} {x : α}
    (h : Reads read bytes x) (f : ε → ε') (rest : List UInt8) :
    (read (bytes ++ rest)).mapError f = .ok (x, rest) := by
  rw [h rest]
  rfl

end Protobuf

end ChainProjection

import ChainProjection.Projection.Block

/-!
# Rules of projections

How a projection ends on a store, said without its definition: it *yields* a result and a store, or
it *fails* with an error and leaves a store.  Every run ends in exactly one of the two ways
(`yields_or_fails`, `Yields.not_fails`), so to know both is to know the projection, but for what it
notes as left out, which no other part of a run can look at.

Each way of building a projection has **one rule for either ending, and the rule is an
equivalence**.  An implication would do for showing that a handler keeps an invariant; it would not
do for showing when a handler succeeds, or that it can fail in no other way than these.  All rules
are in the simp set, so a handler is taken apart by `simp only` with the rules of its parts and no
later proof runs a projection.

Two rules carry more than their size.  A sequence that fails may have written before it failed:
`fails_bind` keeps the store at the moment of the failure, and it is this store that a single event
leaves behind.  Only `atomically` takes back what was written (`fails_atomically`).
-/

namespace ChainProjection.Projection

variable {α β : Type} {s s' : Store} {o : Occurrence} {error : ProjectionError}

/-- On the store `s` the projection succeeds with `x` and leaves `s'`. -/
def Yields (p : Projection α) (s : Store) (x : α) (s' : Store) : Prop :=
  (p s).result = .ok x ∧ (p s).store = s'

/-- On the store `s` the projection fails with an error and leaves `s'`. -/
def Fails (p : Projection α) (s : Store) (error : ProjectionError) (s' : Store) : Prop :=
  (p s).result = .error error ∧ (p s).store = s'

/-! ### Both endings -/

/-- Every run ends in one of the two ways. -/
theorem yields_or_fails (p : Projection α) (s : Store) :
    (∃ x s', p.Yields s x s') ∨ ∃ error s', p.Fails s error s' := by
  rcases h : (p s).result with error | x
  · exact Or.inr ⟨error, _, h, rfl⟩
  · exact Or.inl ⟨x, _, h, rfl⟩

/-- Success leaves no room for failure. -/
theorem Yields.not_fails {p : Projection α} {x : α} {t : Store} (h : p.Yields s x s') :
    ¬p.Fails s error t := by
  rintro ⟨hfail, -⟩
  rw [h.1] at hfail
  exact absurd hfail (by simp)

/-- A run ends in one way only. -/
theorem Yields.unique {p : Projection α} {x y : α} {t : Store} (h : p.Yields s x s')
    (h' : p.Yields s y t) : x = y ∧ s' = t := by
  refine ⟨?_, h.2.symm.trans h'.2⟩
  have heq := h.1.symm.trans h'.1
  simpa using heq

/-- A run fails in one way only. -/
theorem Fails.unique {p : Projection α} {error' : ProjectionError} {t : Store}
    (h : p.Fails s error s') (h' : p.Fails s error' t) : error = error' ∧ s' = t := by
  refine ⟨?_, h.2.symm.trans h'.2⟩
  have heq := h.1.symm.trans h'.1
  simpa using heq

/-! ### Sequencing -/

/-- A result that is there is yielded at once, on a store that stays. -/
@[simp]
theorem yields_pure {x y : α} : (pure x : Projection α).Yields s y s' ↔ y = x ∧ s' = s := by
  show (Except.ok x = Except.ok y ∧ s = s') ↔ _
  rw [Except.ok.injEq, eq_comm, @eq_comm _ s]

@[simp]
theorem fails_pure {x : α} : ¬(pure x : Projection α).Fails s error s' := by
  rintro ⟨h, -⟩
  exact absurd h (by simp [pure, Projection.pure])

/-- A sequence succeeds in two steps, with a store between them. -/
@[simp]
theorem yields_bind {p : Projection α} {next : α → Projection β} {y : β} :
    (p >>= next).Yields s y s' ↔ ∃ x t, p.Yields s x t ∧ (next x).Yields t y s' := by
  show (Projection.bind p next).Yields s y s' ↔ _
  rcases h : (p s).result with error | x
  · simp [Yields, Projection.bind, h]
  · simp only [Yields, Projection.bind, h, Except.ok.injEq]
    constructor
    · intro hy
      exact ⟨x, _, ⟨rfl, rfl⟩, hy⟩
    · rintro ⟨_, _, ⟨rfl, rfl⟩, hy⟩
      exact hy

/-- **A sequence fails in its first part or in its second**, and then what the first part wrote is
still in the store. -/
@[simp]
theorem fails_bind {p : Projection α} {next : α → Projection β} :
    (p >>= next).Fails s error s' ↔
      p.Fails s error s' ∨ ∃ x t, p.Yields s x t ∧ (next x).Fails t error s' := by
  show (Projection.bind p next).Fails s error s' ↔ _
  rcases h : (p s).result with error | x
  · simp [Yields, Fails, Projection.bind, h]
  · simp only [Yields, Fails, Projection.bind, h, Except.ok.injEq, reduceCtorEq, false_and,
      false_or]
    constructor
    · intro hf
      exact ⟨x, _, ⟨rfl, rfl⟩, hf⟩
    · rintro ⟨_, _, ⟨rfl, rfl⟩, hf⟩
      exact hf

/-- A function of the result changes nothing but the result. -/
@[simp]
theorem yields_map {p : Projection α} {f : α → β} {y : β} :
    (f <$> p).Yields s y s' ↔ ∃ x, p.Yields s x s' ∧ y = f x := by
  show (p >>= fun x ↦ pure (f x)).Yields s y s' ↔ _
  simp only [yields_bind, yields_pure]
  constructor
  · rintro ⟨x, t, hx, rfl, rfl⟩
    exact ⟨x, hx, rfl⟩
  · rintro ⟨x, hx, rfl⟩
    exact ⟨x, s', hx, rfl, rfl⟩

@[simp]
theorem fails_map {p : Projection α} {f : α → β} :
    (f <$> p).Fails s error s' ↔ p.Fails s error s' := by
  show (p >>= fun x ↦ pure (f x)).Fails s error s' ↔ _
  simp

/-- Without its result a projection succeeds as it does with it. -/
@[simp]
theorem yields_discard {p : Projection α} {y : Unit} :
    (discard p).Yields s y s' ↔ ∃ x, p.Yields s x s' := by
  show ((fun _ ↦ ()) <$> p).Yields s y s' ↔ _
  simp

@[simp]
theorem fails_discard {p : Projection α} :
    (discard p).Fails s error s' ↔ p.Fails s error s' := by
  show ((fun _ ↦ ()) <$> p).Fails s error s' ↔ _
  simp

/-- What is done for something that may be missing fails only if it is there. -/
@[simp]
theorem fails_mapM {ι : Type} {f : ι → Projection α} {i : Option ι} :
    (i.mapM f).Fails s error s' ↔ ∃ j, i = some j ∧ (f j).Fails s error s' := by
  cases i <;> simp

/-! ### The store -/

/-- Looking at the store changes nothing. -/
@[simp]
theorem yields_store {t : Store} : store.Yields s t s' ↔ t = s ∧ s' = s := by
  simp [Yields, store, eq_comm]

@[simp]
theorem fails_store : ¬store.Fails s error s' := by
  simp [Fails, store]

/-- A write is done whatever the store holds. -/
@[simp]
theorem yields_write {change : Store → Store} {x : Unit} :
    (write change).Yields s x s' ↔ s' = change s := by
  simp [Yields, write, eq_comm]

@[simp]
theorem fails_write {change : Store → Store} : ¬(write change).Fails s error s' := by
  simp [Fails, write]

/-- A write with a result gives the result that its change computes. -/
@[simp]
theorem yields_writeWith {change : Store → α × Store} {x : α} :
    (writeWith change).Yields s x s' ↔ x = (change s).1 ∧ s' = (change s).2 := by
  simp [Yields, writeWith, eq_comm]

@[simp]
theorem fails_writeWith {change : Store → α × Store} :
    ¬(writeWith change).Fails s error s' := by
  simp [Fails, writeWith]

/-- What is noted as left out is not in the store, so a rule does not mention it. -/
@[simp]
theorem yields_leaveOut {field : String} {reason : Reason} {x : Unit} :
    (leaveOut o field reason).Yields s x s' ↔ s' = s := by
  simp [Yields, leaveOut, eq_comm]

@[simp]
theorem fails_leaveOut {field : String} {reason : Reason} :
    ¬(leaveOut o field reason).Fails s error s' := by
  simp [Fails, leaveOut]

/-! ### Failing -/

@[simp]
theorem yields_throw {x : α} : ¬(throw error : Projection α).Yields s x s' := by
  rintro ⟨h, -⟩
  exact absurd h (by simp [throw, raise])

@[simp]
theorem fails_throw {e : ProjectionError} :
    (throw e : Projection α).Fails s error s' ↔ error = e ∧ s' = s := by
  show (Except.error e = Except.error error ∧ s = s') ↔ _
  rw [Except.error.injEq, eq_comm, @eq_comm _ s]

@[simp]
theorem yields_fail {what : Inconsistency} {x : α} :
    ¬(fail o what : Projection α).Yields s x s' := by
  simp [fail]

/-- An inconsistency is reported with the event it was found at. -/
@[simp]
theorem fails_fail {what : Inconsistency} :
    (fail o what : Projection α).Fails s error s' ↔ error = o.inconsistent what ∧ s' = s := by
  simp [fail]

@[simp]
theorem yields_ofStore {result : Except StoreError α} {x : α} :
    (ofStore result).Yields s x s' ↔ result = .ok x ∧ s' = s := by
  cases result <;> simp [ofStore, eq_comm]

/-- A store that refuses is an error of the storage and no inconsistency. -/
@[simp]
theorem fails_ofStore {result : Except StoreError α} :
    (ofStore result).Fails s error s' ↔ ∃ e, result = .error e ∧ error = .store e ∧ s' = s := by
  cases result <;> simp [ofStore]

/-- What is required is there, or nothing comes of it. -/
@[simp]
theorem yields_require {what : Inconsistency} {result : Option α} {x : α} :
    (require o what result).Yields s x s' ↔ result = some x ∧ s' = s := by
  cases result <;> simp [require, eq_comm]

/-- What is required and missing is the inconsistency named with it. -/
@[simp]
theorem fails_require {what : Inconsistency} {result : Option α} :
    (require o what result).Fails s error s' ↔
      result = none ∧ error = o.inconsistent what ∧ s' = s := by
  cases result <;> simp [require]

@[simp]
theorem yields_ensure {result : Except Inconsistency α} {x : α} :
    (ensure o result).Yields s x s' ↔ result = .ok x ∧ s' = s := by
  cases result <;> simp [ensure, eq_comm]

/-- A result that is an inconsistency fails with just this inconsistency. -/
@[simp]
theorem fails_ensure {result : Except Inconsistency α} :
    (ensure o result).Fails s error s' ↔
      ∃ what, result = .error what ∧ error = o.inconsistent what ∧ s' = s := by
  cases result <;> simp [ensure]

theorem check_ok {x : α} : check o (.ok x) = ensure o (.ok x) := rfl

/-- A check that does not pass is an inconsistency of the domain. -/
theorem check_error {e : DomainError} :
    (check o (.error e) : Projection α) = ensure o (.error (.domain e)) := rfl

@[simp]
theorem yields_check {result : Except DomainError α} {x : α} :
    (check o result).Yields s x s' ↔ result = .ok x ∧ s' = s := by
  cases result <;> simp [check_ok, check_error]

/-- An error of the domain is reported as the inconsistency it is. -/
@[simp]
theorem fails_check {result : Except DomainError α} :
    (check o result).Fails s error s' ↔
      ∃ e, result = .error e ∧ error = o.inconsistent (.domain e) ∧ s' = s := by
  cases result <;> simp [check_ok, check_error]

/-! ### All or nothing -/

/-- What succeeds is kept as it is. -/
@[simp]
theorem yields_atomically {p : Projection α} {x : α} :
    (atomically p).Yields s x s' ↔ p.Yields s x s' := by
  rcases h : (p s).result with error | x <;> simp [Yields, atomically, h]

/-- **What fails is taken back**: the store is the one there was, and the error is the one of the
work. -/
@[simp]
theorem fails_atomically {p : Projection α} :
    (atomically p).Fails s error s' ↔ s' = s ∧ ∃ t, p.Fails s error t := by
  rcases h : (p s).result with error | x <;> simp [Fails, atomically, h, eq_comm, and_comm]

end ChainProjection.Projection

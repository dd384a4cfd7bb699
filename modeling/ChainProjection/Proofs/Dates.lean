import ChainProjection.Date
import Mathlib.Algebra.BigOperators.Intervals
import Mathlib.Algebra.BigOperators.Ring.Finset
import Mathlib.Data.Rat.Floor
import Mathlib.Tactic.FieldSimp
import Mathlib.Tactic.Linarith
import Mathlib.Tactic.Ring

/-!
# Dates denote instants

What a day and a time stamp stand for is said here without reading them: the days since the epoch
are counted through the years and months before (`daysBefore`), and an instant is an exact number of
seconds (`Stamp.instant`).  **A time stamp reads as its instant in milliseconds, rounded down**
(`parse_text`).  Order and offsets follow from that alone: a floor is monotone, and two texts of one
instant have one floor.

The number of a day is found in the code by a formula for leap years and not by counting.
`dayNumber_eq` is the bridge.  Its induction is over the years, and the leap years of the formula
are those of the count because they grow by one exactly where a leap year ends
(`leapYearsThrough_natCast`).

Two things make the rounding right.  The milliseconds come from the first three digits of the
fraction alone, and what the other digits add is less than one millisecond (`floor_fractionValue`);
and this holds before the epoch as after it, since the fraction counts forward from the second that
is written.  Cutting off the fraction of the instant itself would round towards the epoch.

The rest is reading, one lemma for each reader, each with whatever stands behind.  What may stand
behind digits is the one condition that is needed (`NoDigit`), and only where their number is open:
digits of a fixed width are taken up to the width.  A day alone is not a time stamp that is too
short, but has a reader of its own; that the first reader refuses it is `readInstant_dayText`.
-/

namespace ChainProjection.Date

open Finset (Ico range)

variable {n width limit most : Nat} {ds : List Nat} {rest : List Char}

/-! ### Counting days -/

/-- The number of days of a year. -/
def yearLength (year : Nat) : Nat := if isLeap year then 366 else 365

/-- The days of the years from year 0 on, and of the months of its year, that are over before a
day. -/
def daysBefore (year month day : Nat) : Int :=
  ∑ y ∈ range year, (yearLength y : Int) + ∑ m ∈ Ico 1 month, (daysInMonth year m : Int) + day - 1

/-- The leap years up to a year are those up to the year before, and the year itself if it is one.
-/
theorem leapYearsThrough_natCast (year : Nat) :
    leapYearsThrough year = leapYearsThrough (year - 1) + if isLeap year then 1 else 0 := by
  have hleap : isLeap year ↔ year % 4 = 0 ∧ (year % 100 ≠ 0 ∨ year % 400 = 0) := by
    simp only [isLeap, Bool.and_eq_true, beq_iff_eq, Bool.or_eq_true, bne_iff_ne]
    omega
  simp only [leapYearsThrough, hleap]
  split <;> omega

/-- Years have 365 days, and one more for each leap year. -/
theorem sum_yearLength (year : Nat) :
    ∑ y ∈ range year, (yearLength y : Int) =
      365 * year + (leapYearsThrough (year - 1) - leapYearsThrough (-1)) := by
  induction year with
  | zero => rfl
  | succ year ih =>
    have hlength : (yearLength year : Int) = 365 + if isLeap year then 1 else 0 := by
      rw [yearLength]
      split <;> rfl
    rw [Finset.sum_range_succ, ih, hlength, Nat.cast_succ, add_sub_cancel_right,
      leapYearsThrough_natCast year]
    ring

/-- The days of a year before a month are those of the months before it. -/
theorem daysBeforeMonth_eq_sum (year : Int) (month : Nat) :
    daysBeforeMonth year month = ∑ m ∈ Ico 1 month, daysInMonth year m := by
  induction month with
  | zero => rfl
  | succ month ih =>
    cases month with
    | zero => rfl
    | succ month => rw [daysBeforeMonth, ih, ← Finset.sum_Ico_succ_top (Nat.succ_pos month)]

/-- The number of a day is how many days are over since the epoch. -/
theorem dayNumber_eq (year month day : Nat) :
    dayNumber year month day = daysBefore year month day - daysBefore 1970 1 1 := by
  have hepoch : daysBefore 1970 1 1 = 719528 := by
    rw [daysBefore, sum_yearLength, Finset.Ico_self, Finset.sum_empty]
    rfl
  have hoffset : leapYearsThrough 1969 = 477 ∧ leapYearsThrough (-1) = -1 := by decide
  rw [hepoch, daysBefore, sum_yearLength, dayNumber, daysBeforeMonth_eq_sum, hoffset.1, hoffset.2,
    Nat.cast_sum]
  ring

/-! ### Days and time stamps -/

/-- A day of the years 0 to 9999. -/
structure Day where
  year : Nat
  month : Nat
  day : Nat
  year_lt : year < 10000
  there : isDay year month day = true

/-- An offset from universal time, as it is written. -/
inductive Zone where
  /-- None. -/
  | universal (letter : Char) (isLetter : letter = 'Z' ∨ letter = 'z')
  /-- Some hours and minutes ahead of universal time, or behind it. -/
  | shifted (ahead : Bool) (hours minutes : Nat) (hours_lt : hours < 24)
      (minutes_lt : minutes < 60)

/-- The minutes by which the clock is ahead of universal time. -/
def Zone.offset : Zone → Int
  | .universal .. => 0
  | .shifted ahead hours minutes .. =>
    if ahead then hours * 60 + minutes else -(hours * 60 + minutes)

/-- A time of a day with any number of digits behind the second. -/
structure Stamp where
  date : Day
  /-- What stands between the day and the time. -/
  separator : Char
  hour : Nat
  minute : Nat
  second : Nat
  fraction : List (Fin 10)
  zone : Zone
  isSeparator : separator = 'T' ∨ separator = 't' ∨ separator = ' '
  hour_lt : hour < 24
  minute_lt : minute < 60
  second_lt : second < 60

/-- The part of a second that digits behind a point stand for. -/
def fractionValue : List (Fin 10) → ℚ
  | [] => 0
  | d :: ds => (d.val + fractionValue ds) / 10

/-- The instant of a time stamp in seconds since the epoch. -/
def Stamp.instant (s : Stamp) : ℚ :=
  (daysBefore s.date.year s.date.month s.date.day - daysBefore 1970 1 1) * 86400 +
    s.hour * 3600 + (s.minute - s.zone.offset) * 60 + s.second + fractionValue s.fraction

/-- The first instant of a day in universal time, as a time stamp. -/
def Day.midnight (d : Day) : Stamp where
  date := d
  separator := 'T'
  hour := 0
  minute := 0
  second := 0
  fraction := []
  zone := .universal 'Z' (Or.inl rfl)
  isSeparator := Or.inl rfl
  hour_lt := by decide
  minute_lt := by decide
  second_lt := by decide

/-! ### Writing -/

/-- Digits as they are written. -/
def writeDigits (ds : List Nat) : List Char := ds.map Nat.digitChar

/-- The last decimal digits of a number, as many as the width says. -/
def digits : Nat → Nat → List Nat
  | 0, _ => []
  | width + 1, n => digits width (n / 10) ++ [n % 10]

/-- A number in decimal digits, with zeros in front up to the width. -/
def writeNumber (width n : Nat) : List Char := writeDigits (digits width n)

/-- The text of a day. -/
def Day.chars (d : Day) : List Char :=
  writeNumber 4 d.year ++ '-' :: writeNumber 2 d.month ++ '-' :: writeNumber 2 d.day

/-- A fraction with the point in front; no digits are written as nothing. -/
def fractionChars (ds : List (Fin 10)) : List Char :=
  if ds = [] then [] else '.' :: writeDigits (ds.map Fin.val)

/-- The text of an offset. -/
def Zone.chars : Zone → List Char
  | .universal letter _ => [letter]
  | .shifted ahead hours minutes .. =>
    (if ahead then '+' else '-') :: writeNumber 2 hours ++ ':' :: writeNumber 2 minutes

/-- The text of a day. -/
def Day.text (d : Day) : String := String.ofList d.chars

/-- The text of a time stamp. -/
def Stamp.text (s : Stamp) : String :=
  String.ofList <| s.date.chars ++ s.separator :: writeNumber 2 s.hour ++ ':' ::
    writeNumber 2 s.minute ++ ':' :: writeNumber 2 s.second ++ fractionChars s.fraction ++
    s.zone.chars

example : (Day.midnight ⟨2024, 2, 29, by decide, rfl⟩).text = "2024-02-29T00:00:00Z" := by decide

/-! ### Reading numbers -/

/-- No digit stands in front. -/
def NoDigit (rest : List Char) : Prop := ∀ c ∈ rest.head?, ¬('0' ≤ c ∧ c ≤ '9')

/-- What is read of a digit that was written, and that it is not blank. -/
theorem digitChar_spec (h : n < 10) :
    '0' ≤ n.digitChar ∧ n.digitChar ≤ '9' ∧ n.digitChar.toNat - 48 = n ∧
      Text.isBlank n.digitChar = false := by
  decide +revert

theorem length_digits (width n : Nat) : (digits width n).length = width := by
  induction width generalizing n with
  | zero => rfl
  | succ width ih => rw [digits, List.length_append, ih, List.length_singleton]

theorem lt_of_mem_digits {d : Nat} (h : d ∈ digits width n) : d < 10 := by
  induction width generalizing n with
  | zero => cases h
  | succ width ih =>
    rw [digits, List.mem_append, List.mem_singleton] at h
    rcases h with h | rfl
    · exact ih h
    · exact Nat.mod_lt _ (by decide)

/-- A digit behind others counts once, and the others count ten times. -/
theorem ofDigits_append_singleton (ds : List Nat) (d : Nat) :
    ofDigits (ds ++ [d]) = ofDigits ds * 10 + d := by
  rw [ofDigits, List.foldl_append, ← ofDigits, List.foldl_cons, List.foldl_nil]

/-- The digits of a number denote it, if it fits into the width. -/
theorem ofDigits_digits (h : n < 10 ^ width) : ofDigits (digits width n) = n := by
  induction width generalizing n with
  | zero =>
    obtain rfl : n = 0 := by simpa using h
    rfl
  | succ width ih =>
    rw [digits, ofDigits_append_singleton, ih (by rw [pow_succ] at h; omega)]
    omega

/-- Digits are taken up to the limit, or up to where they end. -/
theorem takeDigits_writeDigits (hds : ∀ d ∈ ds, d < 10)
    (h : ds.length = limit ∨ ds.length ≤ limit ∧ NoDigit rest) :
    takeDigits limit (writeDigits ds ++ rest) = (ds, rest) := by
  induction ds generalizing limit with
  | nil =>
    rcases limit with - | limit
    · rfl
    · have hrest : NoDigit rest := by simpa using h
      cases rest with
      | nil => rfl
      | cons c rest =>
        rw [writeDigits, List.map_nil, List.nil_append, takeDigits, if_neg (hrest c rfl)]
  | cons d ds ih =>
    rw [List.forall_mem_cons] at hds
    obtain ⟨limit, rfl⟩ : ∃ k, limit = k + 1 := by
      refine Nat.exists_eq_add_one.2 ?_
      rw [List.length_cons] at h
      omega
    obtain ⟨hlow, hhigh, hvalue, -⟩ := digitChar_spec hds.1
    have hlimit : ds.length = limit ∨ ds.length ≤ limit ∧ NoDigit rest := by simpa using h
    have htail := ih hds.2 hlimit
    rw [writeDigits] at htail
    rw [writeDigits, List.map_cons, List.cons_append, takeDigits, if_pos ⟨hlow, hhigh⟩, htail]
    simp only [hvalue]

/-- A number is read as it was written, whatever stands behind it. -/
theorem readNumber_writeNumber {least : Nat} (hleast : least ≤ width) (h : n < 10 ^ width) :
    readNumber least width (writeNumber width n ++ rest) = some (n, rest) := by
  rw [readNumber, writeNumber, takeDigits_writeDigits (fun _ ↦ lt_of_mem_digits)
    (Or.inl (length_digits width n))]
  simp only [length_digits, ofDigits_digits h, if_neg (Nat.not_lt.2 hleast)]

/-- A number of two digits is read as it was written, if it is not too large. -/
theorem readPair_writeNumber (hmost : n ≤ most) (h : n < 100) :
    readPair most (writeNumber 2 n ++ rest) = some (n, rest) := by
  rw [readPair, readNumber_writeNumber (le_refl 2) h, Option.bind_some]
  exact if_pos hmost

theorem dropChar_cons (c : Char) : dropChar c (c :: rest) = some rest := by
  rw [dropChar, if_pos rfl]

/-- A number that is written starts with a digit. -/
theorem exists_writeNumber_eq_cons (width n : Nat) :
    ∃ d tail, d < 10 ∧ writeNumber (width + 1) n = d.digitChar :: tail := by
  obtain ⟨d, ds, hds⟩ := List.exists_cons_of_length_eq_add_one (length_digits (width + 1) n)
  refine ⟨d, writeDigits ds, lt_of_mem_digits (hds ▸ List.mem_cons_self), ?_⟩
  rw [writeNumber, hds]
  rfl

/-! ### Reading fractions -/

theorem fractionValue_nonneg (ds : List (Fin 10)) : 0 ≤ fractionValue ds := by
  induction ds with
  | nil => exact le_rfl
  | cons d ds ih =>
    rw [fractionValue]
    positivity

theorem fractionValue_lt_one (ds : List (Fin 10)) : fractionValue ds < 1 := by
  induction ds with
  | nil => exact zero_lt_one
  | cons d ds ih =>
    have hd : (d.val : ℚ) ≤ 9 := by exact_mod_cast Nat.le_of_lt_succ d.isLt
    rw [fractionValue, div_lt_one (by norm_num)]
    linarith

/-- The digits behind others are worth what they are worth alone, moved by the number of the
others. -/
theorem fractionValue_append (front back : List (Fin 10)) :
    fractionValue (front ++ back) =
      fractionValue front + fractionValue back / 10 ^ front.length := by
  induction front with
  | nil => simp [fractionValue]
  | cons d front ih =>
    rw [List.cons_append, fractionValue, ih, fractionValue, List.length_cons, pow_succ]
    field_simp
    ring

/-- Digits that are read on from a number move it by their count. -/
theorem foldl_ofDigits (start : Nat) (ds : List Nat) :
    ds.foldl (fun n d ↦ n * 10 + d) start = start * 10 ^ ds.length + ofDigits ds := by
  induction ds generalizing start with
  | nil => simp [ofDigits]
  | cons d ds ih =>
    have hrest : ofDigits (d :: ds) = (0 * 10 + d) * 10 ^ ds.length + ofDigits ds := ih _
    rw [List.foldl_cons, ih, hrest, List.length_cons, pow_succ]
    ring

/-- A fraction is the number its digits denote, over ten to the power of how many there are. -/
theorem fractionValue_eq (ds : List (Fin 10)) :
    fractionValue ds = ofDigits (ds.map Fin.val) / 10 ^ ds.length := by
  induction ds with
  | nil => simp [fractionValue, ofDigits]
  | cons d ds ih =>
    have hcons : ofDigits ((d :: ds).map Fin.val) =
        d.val * 10 ^ ds.length + ofDigits (ds.map Fin.val) := by
      rw [List.map_cons, ofDigits, List.foldl_cons, foldl_ofDigits, List.length_map, zero_mul,
        zero_add]
    rw [fractionValue, ih, hcons, List.length_cons, pow_succ, Nat.cast_add, Nat.cast_mul,
      Nat.cast_pow, Nat.cast_ofNat]
    field_simp

/-- The whole milliseconds of a fraction, from its first three digits. -/
def millis (ds : List (Fin 10)) : Nat :=
  ofDigits ((ds.map Fin.val).take 3) * Nat.pow 10 (3 - ((ds.map Fin.val).take 3).length)

/-- The digits from the fourth on add less than a millisecond. -/
theorem floor_fractionValue (ds : List (Fin 10)) : ⌊1000 * fractionValue ds⌋ = millis ds := by
  have hvalue : 1000 * fractionValue ds =
      millis ds + 1000 / 10 ^ (ds.take 3).length * fractionValue (ds.drop 3) := by
    have hlength : (ds.take 3).length ≤ 3 := by simp
    -- The first three digits are whole milliseconds; the rest is a fraction of one, or nothing.
    conv_lhs => rw [← List.take_append_drop 3 ds, fractionValue_append, fractionValue_eq]
    rw [millis, ← List.map_take, List.length_map, Nat.cast_mul]
    generalize (ds.take 3).length = k at *
    have hpow : (1000 : ℚ) = 10 ^ k * 10 ^ (3 - k) := by
      rw [← pow_add, Nat.add_sub_cancel' hlength]
      norm_num
    rw [hpow, Nat.pow_eq, Nat.cast_pow, Nat.cast_ofNat]
    field_simp
  rw [hvalue, ← Int.cast_natCast, Int.floor_intCast_add, add_eq_left, Int.floor_eq_zero_iff,
    Set.mem_Ico]
  -- With fewer than three digits there is no rest, and the milliseconds are exact.
  by_cases hlong : 3 ≤ ds.length
  · have hunit : (1000 : ℚ) / 10 ^ 3 = 1 := by norm_num
    rw [List.length_take, Nat.min_eq_left hlong, hunit, one_mul]
    exact ⟨fractionValue_nonneg _, fractionValue_lt_one _⟩
  · rw [List.drop_eq_nil_of_le (by omega), fractionValue, mul_zero]
    exact ⟨le_rfl, zero_lt_one⟩

/-- An offset starts with a character that ends a fraction, and is no point. -/
theorem Zone.exists_chars_eq_cons (zone : Zone) : ∃ c tail, zone.chars = c :: tail ∧ c ≠ '.' ∧
    ¬('0' ≤ c ∧ c ≤ '9') := by
  rcases zone with ⟨letter, rfl | rfl⟩ | ⟨ahead, hours, minutes⟩
  · exact ⟨_, _, rfl, by decide, by decide⟩
  · exact ⟨_, _, rfl, by decide, by decide⟩
  · cases ahead
    · exact ⟨_, _, rfl, by decide, by decide⟩
    · exact ⟨_, _, rfl, by decide, by decide⟩

/-- A fraction is read as its whole milliseconds, and leaves the offset. -/
theorem readFraction_fractionChars (ds : List (Fin 10)) (zone : Zone) :
    readFraction (fractionChars ds ++ zone.chars) = some (millis ds, zone.chars) := by
  obtain ⟨c, tail, hzone, hpoint, hdigit⟩ := zone.exists_chars_eq_cons
  rw [fractionChars]
  split
  · next hnil =>
    subst hnil
    rw [List.nil_append, hzone, readFraction]
    · rfl
    · rintro rest ⟨rfl, -⟩
      exact hpoint rfl
  · next hds =>
    have hdigits : ∀ d ∈ ds.map Fin.val, d < 10 := by
      rintro _ hd
      obtain ⟨d, -, rfl⟩ := List.mem_map.1 hd
      exact d.isLt
    have htake : takeDigits (writeDigits (ds.map Fin.val) ++ zone.chars).length
        (writeDigits (ds.map Fin.val) ++ zone.chars) = (ds.map Fin.val, zone.chars) := by
      refine takeDigits_writeDigits hdigits (Or.inr ⟨?_, ?_⟩)
      · simp [writeDigits]
      · rw [hzone]
        rintro _ ⟨⟩
        exact hdigit
    obtain ⟨d, ds, rfl⟩ := List.exists_cons_of_ne_nil hds
    rw [List.cons_append, readFraction, htake]
    rfl

/-! ### Reading dates -/

/-- An offset is read as the minutes it stands for, and nothing is left. -/
theorem readOffset_chars (zone : Zone) : readOffset zone.chars = some (zone.offset, []) := by
  rcases zone with ⟨letter, rfl | rfl⟩ | ⟨ahead, hours, minutes, hhours, hminutes⟩
  · rfl
  · rfl
  · have hread (c : Char) (hc : c = '+' ∨ c = '-') :
        readOffset (c :: writeNumber 2 hours ++ ':' :: writeNumber 2 minutes) =
          some (if c = '+' then (hours * 60 + minutes : Int) else -(hours * 60 + minutes), []) := by
      have hletter : ¬(c = 'Z' ∨ c = 'z') := by
        rcases hc with rfl | rfl <;> decide
      have hsign : c = '+' ∨ c = '-' ∨ c = '\u2212' := hc.imp_right Or.inl
      rw [List.cons_append, readOffset, if_neg hletter, if_pos hsign,
        readPair_writeNumber (by omega) (by omega)]
      simp only [Option.bind_eq_bind, Option.bind_some, dropChar_cons]
      rw [← List.append_nil (writeNumber 2 minutes),
        readPair_writeNumber (by omega) (by omega)]
      rfl
    cases ahead
    · exact hread '-' (Or.inr rfl)
    · exact hread '+' (Or.inl rfl)

/-- A day has a month up to 12 and a number up to 31. -/
theorem Day.bounds (d : Day) : d.month ≤ 12 ∧ d.day ≤ 31 := by
  have hthere := d.there
  simp only [isDay, Bool.and_eq_true, decide_eq_true_eq] at hthere
  have hdays : daysInMonth d.year d.month ≤ 31 := by
    unfold daysInMonth
    split <;> try split
    all_goals decide
  omega

/-- A time stamp is read as its day and time. -/
theorem readInstant_text (s : Stamp) : readInstant s.text.toList =
    some (((dayNumber s.date.year s.date.month s.date.day * 1440 + s.hour * 60 + s.minute -
      s.zone.offset) * 60 + s.second) * 1000 + millis s.fraction) := by
  have hdate := s.date.bounds
  have hyear := s.date.year_lt
  have hhour := s.hour_lt
  have hminute := s.minute_lt
  have hsecond := s.second_lt
  rw [Stamp.text, String.toList_ofList, Day.chars]
  simp only [List.append_assoc, List.cons_append]
  refine Option.bind_eq_some_iff.2 ⟨_, readNumber_writeNumber (le_refl 4) hyear, ?_⟩
  refine Option.bind_eq_some_iff.2 ⟨_, dropChar_cons '-', ?_⟩
  refine Option.bind_eq_some_iff.2 ⟨_, readPair_writeNumber hdate.1 (by omega), ?_⟩
  refine Option.bind_eq_some_iff.2 ⟨_, dropChar_cons '-', ?_⟩
  refine Option.bind_eq_some_iff.2 ⟨_, readPair_writeNumber hdate.2 (by omega), ?_⟩
  refine (if_pos s.isSeparator).trans (Option.bind_eq_some_iff.2 ⟨_, rfl, ?_⟩)
  refine Option.bind_eq_some_iff.2 ⟨_, readPair_writeNumber (by omega) (by omega), ?_⟩
  refine Option.bind_eq_some_iff.2 ⟨_, dropChar_cons ':', ?_⟩
  refine Option.bind_eq_some_iff.2 ⟨_, readPair_writeNumber (by omega) (by omega), ?_⟩
  refine Option.bind_eq_some_iff.2 ⟨_, dropChar_cons ':', ?_⟩
  refine Option.bind_eq_some_iff.2 ⟨_, readPair_writeNumber (by omega) (by omega), ?_⟩
  refine Option.bind_eq_some_iff.2 ⟨_, readFraction_fractionChars _ _, ?_⟩
  refine Option.bind_eq_some_iff.2 ⟨_, readOffset_chars _, ?_⟩
  exact if_pos ⟨s.date.there, rfl⟩

/-- A time stamp reads as its instant in milliseconds, rounded down. -/
theorem parse_text (s : Stamp) : parse s.text = some ⌊1000 * s.instant⌋ := by
  have hwhole : 1000 * s.instant =
      ((((dayNumber s.date.year s.date.month s.date.day * 1440 + s.hour * 60 + s.minute -
        s.zone.offset) * 60 + s.second) * 1000 : Int) : ℚ) + 1000 * fractionValue s.fraction := by
    rw [Stamp.instant, dayNumber_eq]
    push_cast
    ring
  rw [parse, readInstant_text, hwhole, Int.floor_intCast_add, floor_fractionValue]

/-- A day alone is no time stamp: it ends where the separator would stand. -/
theorem readInstant_dayText (d : Day) : readInstant d.text.toList = none := by
  have hbounds := d.bounds
  rw [Option.eq_none_iff_forall_ne_some, Day.text, String.toList_ofList, Day.chars]
  intro time hread
  simp only [List.append_assoc, List.cons_append] at hread
  obtain ⟨_, hyear, hread⟩ := Option.bind_eq_some_iff.1 hread
  cases (readNumber_writeNumber (le_refl 4) d.year_lt).symm.trans hyear
  obtain ⟨_, hdrop, hread⟩ := Option.bind_eq_some_iff.1 hread
  cases (dropChar_cons '-').symm.trans hdrop
  obtain ⟨_, hmonth, hread⟩ := Option.bind_eq_some_iff.1 hread
  cases (readPair_writeNumber hbounds.1 (by omega)).symm.trans hmonth
  obtain ⟨_, hdrop, hread⟩ := Option.bind_eq_some_iff.1 hread
  cases (dropChar_cons '-').symm.trans hdrop
  rw [← List.append_nil (writeNumber 2 d.day)] at hread
  obtain ⟨_, hday, hread⟩ := Option.bind_eq_some_iff.1 hread
  cases (readPair_writeNumber hbounds.2 (by omega)).symm.trans hday
  cases hread

theorem skipBlank_writeNumber (width n : Nat) :
    skipBlank (writeNumber (width + 1) n ++ rest) = writeNumber (width + 1) n ++ rest := by
  obtain ⟨d, tail, hd, hwrite⟩ := exists_writeNumber_eq_cons width n
  rw [hwrite, List.cons_append, skipBlank, List.dropWhile_cons_of_neg]
  simp [(digitChar_spec hd).2.2.2]

/-- A year of four digits is read as it is, though years may have a sign. -/
theorem readYear_writeNumber (h : n < 10000) :
    readYear (writeNumber 4 n ++ rest) = some ((n : Int), rest) := by
  have hread : readNumber 1 4 (writeNumber 4 n ++ rest) = some (n, rest) :=
    readNumber_writeNumber (by decide) h
  obtain ⟨d, tail, hd, hwrite⟩ := exists_writeNumber_eq_cons 3 n
  rw [hwrite, List.cons_append] at hread ⊢
  have hlow := (digitChar_spec hd).1
  rw [readYear, hread]
  · rfl
  · intro _ heq
    rw [(List.cons.inj heq).1] at hlow
    exact absurd hlow (by decide)
  · intro _ heq
    rw [(List.cons.inj heq).1] at hlow
    exact absurd hlow (by decide)

/-- A day alone is read as the milliseconds up to its midnight. -/
theorem readDay_text (d : Day) :
    readDay d.text.toList = some (dayNumber d.year d.month d.day * 86400000) := by
  have hbounds := d.bounds
  have hyear := d.year_lt
  have hlimits : firstYear ≤ d.year ∧ (d.year : Int) ≤ lastYear := by
    rw [firstYear, lastYear]
    omega
  rw [Day.text, String.toList_ofList, Day.chars]
  simp only [List.append_assoc, List.cons_append]
  rw [readDay, skipBlank_writeNumber, readYear_writeNumber hyear]
  simp only [Option.bind_eq_bind, Option.bind_some, dropChar_cons, skipBlank_writeNumber]
  rw [readNumber_writeNumber (by decide) (by omega)]
  simp only [Option.bind_some, dropChar_cons]
  rw [← List.append_nil (writeNumber 2 d.day), skipBlank_writeNumber,
    readNumber_writeNumber (by decide) (by omega)]
  simp only [Option.bind_some, hlimits, d.there, and_self, if_true]
  rfl

/-- A day alone reads as its midnight does. -/
theorem parse_dayText (d : Day) : parse d.text = parse d.midnight.text := by
  have hmillis : millis d.midnight.fraction = 0 := Nat.zero_mul _
  rw [parse, readInstant_dayText, readDay_text, parse, readInstant_text, hmillis]
  simp only [Day.midnight, Zone.offset, Option.some_inj]
  push_cast
  ring

/-- Every time stamp reads as its instant in milliseconds, rounded down; so a later instant never
reads as an earlier time, whatever the offsets, and texts of one instant read alike.  A day alone
reads as its first instant in universal time. -/
theorem denotes_instants :
    (∀ s : Stamp, parse s.text = some ⌊1000 * s.instant⌋) ∧
      (∀ s t : Stamp, s.instant ≤ t.instant →
        ∃ m n, parse s.text = some m ∧ parse t.text = some n ∧ m ≤ n) ∧
      (∀ s t : Stamp, s.instant = t.instant → parse s.text = parse t.text) ∧
      ∀ d : Day, parse d.text = parse d.midnight.text := by
  refine ⟨parse_text, fun s t hle ↦ ⟨_, _, parse_text s, parse_text t, ?_⟩, fun s t heq ↦ ?_,
    parse_dayText⟩
  · exact Int.floor_le_floor (by linarith)
  · rw [parse_text, parse_text, heq]

/-- Half a millisecond after the last second of 1969 began, on a clock that is ahead and shows the
next year. -/
def newYear : Stamp where
  date := ⟨1970, 1, 1, by decide, rfl⟩
  separator := 't'
  hour := 0
  minute := 29
  second := 59
  fraction := [0, 0, 0, 5]
  zone := .shifted true 0 30 (by decide) (by decide)
  isSeparator := Or.inr (Or.inl rfl)
  hour_lt := by decide
  minute_lt := by decide
  second_lt := by decide

/-- The same instant on a clock that is behind, with more digits. -/
def oldYear : Stamp where
  date := ⟨1969, 12, 31, by decide, rfl⟩
  separator := ' '
  hour := 16
  minute := 14
  second := 59
  fraction := [0, 0, 0, 5, 0, 0]
  zone := .shifted false 7 45 (by decide) (by decide)
  isSeparator := Or.inr (Or.inr rfl)
  hour_lt := by decide
  minute_lt := by decide
  second_lt := by decide

/-- Both texts read as the same time, which is rounded down and so away from the epoch. -/
theorem denotes_instants_newYear :
    newYear.text = "1970-01-01t00:29:59.0005+00:30" ∧
      oldYear.text = "1969-12-31 16:14:59.000500-07:45" ∧
      newYear.instant = oldYear.instant ∧ parse newYear.text = parse oldYear.text ∧
      parse oldYear.text = some (-1000) := by
  have hsame : newYear.instant = oldYear.instant := by decide +kernel
  have hread : parse oldYear.text = some ⌊1000 * oldYear.instant⌋ := denotes_instants.1 oldYear
  refine ⟨by decide, by decide, hsame, denotes_instants.2.2.1 _ _ hsame, hread.trans ?_⟩
  decide +kernel

end ChainProjection.Date

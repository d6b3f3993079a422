import Almanac.Proofs.Clocks

set_option relaxedAutoImplicit false
set_option autoImplicit false

/-!
# The first moment of a reading

The moment that is found for a reading is the first one at which the clock of a regular zone shows
it, and no earlier moment shows a later reading either: a clock gets to a reading for the first time
by running or by being set forward, and not by being set back. So it comes down to what a clock has
shown whether the moment of a reading has come.

## Main definitions

* `Almanac.Zone.HasShown` — by a moment the clock has shown a reading or a later one.

## Main results

* `Almanac.Zone.utc_le_of_firstShowing?` — no earlier moment shows a reading or a later one.
* `Almanac.Zone.le_iff_hasShown`, `Almanac.Zone.resolve_le_iff_hasShown` — when the moment of a
  reading has come.
* `Almanac.Zone.resolve_lt_of_reading_lt` — resolved readings are in the order of what is shown.
-/

namespace Almanac

namespace Zone

/-- By a moment the clock of a zone has shown a reading or a later one. -/
def HasShown (z : Zone) (utc r : Reading) : Prop :=
  ∃ m ≤ utc, r ≤ z.reading (z.express m)

/-! ## Periods that begin too late -/

/-- A period begins less than the change of the offset at its end before that. -/
def Outlasts (since : Option Int) (offset : Int) (ts : List Transition) : Prop :=
  ∀ s ∈ since, ∀ t ∈ ts.head?, (t.offset - offset).natAbs < t.second - s

/-- In a regular zone each period outlasts the change at its end. -/
lemma Spaced.outlasts {offset : Int} {t : Transition} {later : List Transition}
    (h : Spaced offset (t :: later)) : Outlasts (some t.second) t.offset later := by
  rintro s ⟨⟩ u hu
  cases later with
  | nil => cases hu
  | cons v rest =>
    cases hu
    exact h.2.1

/-- No period is found for a second that lies before what is shown when the first one begins.

**Proof sketch.** Induction on the transitions: what is shown when a period begins becomes later
from one period to the next, since each outlasts the change at its end. -/
lemma offsetReadingFrom_eq_none {wall offset since : Int} {ts : List Transition}
    (hs : Spaced offset ts) (hlasts : Outlasts (some since) offset ts)
    (h : wall < since + offset) : offsetReadingFrom wall (some since) offset ts = none := by
  have hbegins : ¬ (some since).all (· ≤ wall - offset) = true := by
    rw [all_le_iff]
    intro hall
    have := hall since rfl
    omega
  induction ts generalizing since offset with
  | nil => rw [offsetReadingFrom, if_neg hbegins]
  | cons t later ih =>
    have hgap := hlasts since rfl t rfl
    have hlater : wall < t.second + t.offset := by omega
    rw [offsetReadingFrom, if_neg (fun hin => hbegins hin.1)]
    refine ih hs.tail hs.outlasts hlater ?_
    rw [all_le_iff]
    intro hall
    have := hall t.second rfl
    omega

/-! ## The first moment -/

/-- A second at which the clock shows a given one or a later one is not before the one that is found
for it.

**Proof sketch.** Induction on the transitions. In a period that is found the clock runs on from the
moment, so that a second in it is not before it, and one after it is later. A second in a period
that is not found is in none that comes before the one that is found: the clock shows too late a
second when the period begins, and an even later one in all the periods after it. -/
lemma sub_le_of_offsetReadingFrom {wall offset found second : Int} {since : Option Int}
    {ts : List Transition} (hs : Spaced offset ts) (hlasts : Outlasts since offset ts)
    (hsecond : ∀ s ∈ since, s ≤ second) (hwall : wall ≤ second + offsetFrom second offset ts)
    (h : offsetReadingFrom wall since offset ts = some found) : wall - found ≤ second := by
  induction ts generalizing since offset with
  | nil =>
    rw [offsetReadingFrom] at h
    split at h
    · cases h
      rw [offsetFrom] at hwall
      omega
    · cases h
  | cons t later ih =>
    rw [offsetReadingFrom] at h
    split at h
    · next hin =>
      cases h
      rw [offsetFrom] at hwall
      split at hwall
      · omega
      · omega
    · next hout =>
      by_cases ht : t.second ≤ second
      · rw [offsetFrom, if_pos ht] at hwall
        refine ih hs.tail hs.outlasts ?_ hwall h
        rintro s ⟨⟩
        exact ht
      · -- the clock shows the second in this period, but not from its beginning on
        rw [offsetFrom, if_neg ht] at hwall
        obtain ⟨s, hs', hlt⟩ : ∃ s ∈ since, wall - offset < s := by
          by_contra hnone
          push Not at hnone
          exact hout ⟨all_le_iff.mpr hnone, by omega⟩
        have hgap := hlasts s hs' t rfl
        rw [offsetReadingFrom_eq_none hs.tail hs.outlasts (by omega)] at h
        cases h

variable {z : Zone} {r utc : Reading} {i : Instant}

/-- The moment that is found for a reading is not after any moment at which the clock shows it or a
later one. -/
theorem utc_le_of_firstShowing? (hz : z.Regular) (h : z.firstShowing? r = some i)
    (hle : r ≤ z.reading (z.express utc)) : i.utc ≤ utc := by
  simp only [firstShowing?, Option.bind_eq_bind, Option.bind_eq_some_iff, pure,
    Reading.check_eq_some_iff, Option.some.injEq] at h
  obtain ⟨found, hfound, -, ⟨-, rfl⟩, rfl⟩ := h
  have hnone : Outlasts none z.initial z.transitions := by
    rintro s ⟨⟩
  have hsecs : r.secs - found ≤ utc.secs := by
    refine sub_le_of_offsetReadingFrom hz hnone (by simp) ?_ hfound
    rcases hle with hlt | ⟨heq, -⟩
    · exact hlt.le
    · exact heq.le
  rcases hsecs.lt_or_eq with hlt | heq
  · exact Or.inl hlt
  · -- in the same second the clock has the offset that is found, so the fractions are compared
    have hoffset : z.offsetAt utc.secs = found := by
      rw [← heq]
      exact (offsetFrom_of_offsetReadingFrom hz (by simp) hfound).1
    refine Or.inr ⟨heq, ?_⟩
    rcases hle with hlt | ⟨-, hnanos⟩
    · simp only [reading, express, Instant.wall, Reading.shift, hoffset] at hlt
      omega
    · exact hnanos

/-- The moment that is found for a reading has come when the clock has shown it or a later one. -/
theorem le_iff_hasShown (hz : z.Regular) (h : z.firstShowing? r = some i) :
    i.utc ≤ utc ↔ z.HasShown utc r := by
  constructor
  · intro hle
    refine ⟨i.utc, hle, Or.inr ?_⟩
    obtain ⟨hreading, hexpress⟩ := reading_of_firstShowing? hz h
    rw [hexpress, hreading]
    exact ⟨rfl, le_rfl⟩
  · rintro ⟨m, hm, hle⟩
    exact Reading.le_trans (utc_le_of_firstShowing? hz h hle) hm

/-! ## Resolved readings -/

/-- The moment of a resolved reading is the one that is found for what the clock shows at it. -/
lemma firstShowing?_of_resolve (hz : z.Regular) (h : z.resolve r = .ok i) :
    z.firstShowing? (z.reading i) = some i := by
  simp only [resolve] at h
  split at h
  · next found hfound =>
    cases h
    rcases Option.or_eq_some_iff.mp hfound with hshown | ⟨-, hskipped⟩
    · rwa [(reading_of_firstShowing? hz hshown).1]
    · obtain ⟨s, -, hshown⟩ := Option.bind_eq_some_iff.mp hskipped
      rwa [(reading_of_firstShowing? hz hshown).1]
  · cases h

/-- The moment of a resolved reading has come when the clock has shown what it shows then, or a
later reading. -/
theorem resolve_le_iff_hasShown (hz : z.Regular) (h : z.resolve r = .ok i) :
    i.utc ≤ utc ↔ z.HasShown utc (z.reading i) :=
  le_iff_hasShown hz (firstShowing?_of_resolve hz h)

/-- The moment of a resolved reading is before any at which the clock shows a later reading. -/
theorem resolve_lt_of_reading_lt (hz : z.Regular) (h : z.resolve r = .ok i)
    (hlt : z.reading i < z.reading (z.express utc)) : i.utc < utc := by
  have hle : i.utc ≤ utc :=
    utc_le_of_firstShowing? hz (firstShowing?_of_resolve hz h) (Reading.le_of_lt hlt)
  rw [Reading.lt_iff_not_le]
  intro hge
  obtain rfl : i.utc = utc := Reading.le_antisymm hle hge
  exact Reading.lt_iff_not_le.mp hlt (Or.inr ⟨rfl, le_rfl⟩)

end Zone

end Almanac

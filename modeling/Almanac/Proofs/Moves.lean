import Almanac.Evaluation
import Almanac.Proofs.Clocks
import Almanac.Proofs.Units

set_option relaxedAutoImplicit false
set_option autoImplicit false

/-!
# What a move does

All that a move of an instant can do, said once: where it leads when it succeeds, and with what it
fails.

## Main definitions

* `Almanac.Duration.SetsClock` — the durations by which the wall clock is set.

## Main results

* `Almanac.Zone.move_eq_ok` — where a move leads.
* `Almanac.Zone.error_of_move`, `Almanac.Zone.move_of_setsClock` — with what a move fails.
-/

namespace Almanac

/-! ## Setting the wall clock -/

/-- The quantities by which the wall clock can be set: months and days, not too many of them. -/
def Span.SetsClock (direction : Direction) : Span → Prop
  | months n => n.natAbs ≤ maxMonths
  | days n => Fits64 (direction.sign * n)
  | fixed _ => False

instance (direction : Direction) : DecidablePred (Span.SetsClock direction)
  | .months n => inferInstanceAs (Decidable (n.natAbs ≤ maxMonths))
  | .days n => inferInstanceAs (Decidable (Fits64 (direction.sign * n)))
  | .fixed _ => isFalse not_false

/-- A duration is one by which the wall clock is set. -/
def Duration.SetsClock (step : Duration) (direction : Direction) : Prop :=
  ∃ s ∈ step.unit.spanOf? step.magnitude, s.SetsClock direction

instance (step : Duration) (direction : Direction) : Decidable (step.SetsClock direction) :=
  inferInstanceAs (Decidable (∃ s ∈ _, _))

namespace Zone

/-! ## Where a move leads -/

/-- The reading of a wall clock is the one that it shows, on a day of the calendar. -/
lemma wallClock_eq_ok_iff {z : Zone} {i : Instant} {r : Reading} :
    z.wallClock i = .ok r ↔ (z.reading i).InRange ∧ z.reading i = r := by
  by_cases h : (z.reading i).InRange
  · simp [wallClock_of_inRange h, h]
  · simp [wallClock_of_not_inRange h, h]

/-- A reading of the wall clock that is moved and resolved. -/
lemma moveWall_eq_ok {z : Zone} {fault : Error} {start i : Instant}
    {moved? : Reading → Option Reading}
    (h : (z.wallClock start >>= fun wall => z.resolveMoved fault (moved? wall)) = .ok i) :
    (z.reading start).InRange ∧ ∃ r, moved? (z.reading start) = some r ∧ z.resolve r = .ok i := by
  cases hwall : z.wallClock start with
  | error e =>
    rw [hwall] at h
    cases h
  | ok wall =>
    obtain ⟨hrange, rfl⟩ := wallClock_eq_ok_iff.mp hwall
    have h : z.resolveMoved fault (moved? (z.reading start)) = .ok i := by rwa [hwall] at h
    cases hmoved : moved? (z.reading start) with
    | none =>
      rw [hmoved] at h
      cases h
    | some r =>
      rw [hmoved] at h
      exact ⟨hrange, r, rfl, h⟩

/-- Where a move leads when it succeeds: to the moved reading of the wall clock for months and days,
to the moved moment for milliseconds. -/
theorem move_eq_ok {z : Zone} {start i : Instant} {direction : Direction} {step : Duration}
    (h : z.move start direction step = .ok i) :
    (∃ n r, step.unit.spanOf? step.magnitude = some (.months n) ∧ (z.reading start).InRange ∧
        (z.reading start).addMonths? (direction.sign * n) = some r ∧ z.resolve r = .ok i) ∨
      (∃ n r, step.unit.spanOf? step.magnitude = some (.days n) ∧ (z.reading start).InRange ∧
        (z.reading start).addDays? (direction.sign * n) = some r ∧ z.resolve r = .ok i) ∨
      (∃ n, step.unit.spanOf? step.magnitude = some (.fixed n) ∧
        (start.utc.elapse (direction.sign * n)).InRange ∧
        i = z.express (start.utc.elapse (direction.sign * n))) := by
  rw [move] at h
  cases hspan : step.unit.spanOf? step.magnitude with
  | none =>
    rw [hspan] at h
    cases h
  | some s =>
    rw [hspan] at h
    cases s with
    | months n =>
      simp only at h
      split at h
      · obtain ⟨hrange, r, hr, hi⟩ := moveWall_eq_ok h
        exact Or.inl ⟨n, r, rfl, hrange, hr, hi⟩
      · cases h
    | days n =>
      simp only at h
      split at h
      · obtain ⟨hrange, r, hr, hi⟩ := moveWall_eq_ok h
        exact Or.inr (Or.inl ⟨n, r, rfl, hrange, hr, hi⟩)
      · cases h
    | fixed n =>
      simp only at h
      split at h
      · next utc hutc =>
        cases h
        obtain ⟨hrange, rfl⟩ := Reading.check_eq_some_iff.mp hutc
        exact Or.inr (Or.inr ⟨n, rfl, hrange, rfl⟩)
      · cases h

/-! ## With what a move fails -/

/-- A reading that cannot be resolved is out of range. -/
lemma error_of_resolve {z : Zone} {r : Reading} {e : Error} (h : z.resolve r = .error e) :
    e = .outOfRange (.missingReading r) := by
  rw [resolve] at h
  split at h
  · cases h
  · cases h
    rfl

/-- With what a reading of the wall clock fails to be moved and resolved. -/
lemma error_of_moveWall {z : Zone} {fault : RangeFault} {start : Instant} {e : Error}
    {moved? : Reading → Option Reading}
    (h : (z.wallClock start >>= fun wall => z.resolveMoved (.outOfRange fault) (moved? wall)) =
      .error e) :
    (∃ f, e = .outOfRange f) ∨
      (¬ (z.reading start).InRange ∧ e = .offCalendar (z.express start.utc)) := by
  by_cases hrange : (z.reading start).InRange
  · rw [wallClock_of_inRange hrange] at h
    have h : z.resolveMoved (.outOfRange fault) (moved? (z.reading start)) = .error e := h
    cases hmoved : moved? (z.reading start) with
    | none =>
      rw [hmoved] at h
      cases h
      exact Or.inl ⟨_, rfl⟩
    | some r =>
      rw [hmoved] at h
      exact Or.inl ⟨_, error_of_resolve h⟩
  · rw [wallClock_of_not_inRange hrange] at h
    cases h
    exact Or.inr ⟨hrange, rfl⟩

/-- With what a move fails: the result is out of range, or a clock is to be set that is not in the
calendar. -/
theorem error_of_move {z : Zone} {start : Instant} {direction : Direction} {step : Duration}
    {e : Error} (h : z.move start direction step = .error e) :
    (∃ f, e = .outOfRange f) ∨ (step.SetsClock direction ∧ ¬ (z.reading start).InRange ∧
      e = .offCalendar (z.express start.utc)) := by
  rw [move] at h
  cases hspan : step.unit.spanOf? step.magnitude with
  | none =>
    rw [hspan] at h
    cases h
    exact Or.inl ⟨_, rfl⟩
  | some s =>
    rw [hspan] at h
    cases s with
    | months n =>
      simp only at h
      split at h
      · next hn =>
        rcases error_of_moveWall h with hrange | hclock
        · exact Or.inl hrange
        · exact Or.inr ⟨⟨_, hspan, hn⟩, hclock⟩
      · cases h
        exact Or.inl ⟨_, rfl⟩
    | days n =>
      simp only at h
      split at h
      · next hn =>
        rcases error_of_moveWall h with hrange | hclock
        · exact Or.inl hrange
        · exact Or.inr ⟨⟨_, hspan, hn⟩, hclock⟩
      · cases h
        exact Or.inl ⟨_, rfl⟩
    | fixed n =>
      simp only at h
      split at h
      · cases h
      · cases h
        exact Or.inl ⟨_, rfl⟩

/-- A clock that is not in the calendar is not set. -/
theorem move_of_setsClock {z : Zone} {start : Instant} {direction : Direction} {step : Duration}
    (h : step.SetsClock direction) (hrange : ¬ (z.reading start).InRange) :
    z.move start direction step = .error (.offCalendar (z.express start.utc)) := by
  obtain ⟨s, hspan, hs⟩ := h
  have hspan : step.unit.spanOf? step.magnitude = some s := hspan
  rw [move, hspan]
  cases s with
  | months n =>
    have hn : n.natAbs ≤ maxMonths := hs
    simp only [if_pos hn, wallClock_of_not_inRange hrange]
    rfl
  | days n =>
    have hn : Fits64 (direction.sign * n) := hs
    simp only [if_pos hn, wallClock_of_not_inRange hrange]
    rfl
  | fixed n => exact hs.elim

/-! ## Sums -/

/-- A sum of a date and a duration is the date moved by the duration. -/
lemma apply_sum (z : Zone) (u : TimeUnit) (x : Instant) (direction : Direction) (step : Duration)
    (word : String) :
    Step.apply z u (.instant x) ⟨.sum direction, .duration step, word⟩ =
      (z.move x direction step).map .instant :=
  rfl

end Zone

end Almanac

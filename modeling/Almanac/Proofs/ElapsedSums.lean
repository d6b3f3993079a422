import Almanac.Proofs.ElapsedTime
import Almanac.Proofs.Rounding
import Almanac.Proofs.RunningSums
import Almanac.Proofs.Shown
import Mathlib.Algebra.BigOperators.Group.List.Basic

set_option relaxedAutoImplicit false
set_option autoImplicit false

/-!
# Chains of elapsed time

An instant that is moved by hours, minutes, seconds and milliseconds, one after the other, is moved
by the sum of them. Each duration counts whole milliseconds, and the chain is a running sum of
these counts: it is out of range exactly if some sum on the way leads out of the calendar. No bound
on the size of numbers shows, since the calendar is smaller than all of them.

## Main definitions

* `Almanac.Reading.later` — the reading outside leap seconds at so many milliseconds from another.
* `Almanac.Summand.millis` — the milliseconds that a summand counts, with the sign of its
  direction.
* `Almanac.StaysInCalendar` — no sum on the way leads out of the calendar.

## Main results

* `Almanac.Zone.move_elapsed` — what one move does.
* `Almanac.applySteps_elapsed`, `Almanac.applySteps_elapsed_out` — what a chain of moves does.
* `Almanac.result_elapsed` — sums, their order, and moving there and back.
-/

namespace Almanac

/-! ## Counts of milliseconds -/

/-- The reading outside leap seconds whose count is so many milliseconds larger. -/
def Reading.later (r : Reading) (millis : Int) : Reading :=
  carry 0 (r.total + millis * nanosPerMilli)

/-- The milliseconds that a summand of elapsed time adds. -/
def Summand.millis (s : Summand) : Int :=
  s.direction.sign * s.duration.count

/-- From a reading on no sum on the way leads out of the calendar. -/
def StaysInCalendar (r : Reading) (summands : List Summand) : Prop :=
  SumsWithin (fun n => (r.later n).InRange) 0 (summands.map Summand.millis)

instance (r : Reading) (summands : List Summand) : Decidable (StaysInCalendar r summands) :=
  inferInstanceAs (Decidable (SumsWithin _ _ _))

/-! ## Readings by count -/

namespace Reading

variable {r : Reading}

/-- Outside leap seconds a reading is given by its count. -/
lemma eq_of_total_eq {s : Reading} (hr : ¬ r.IsLeap) (hs : ¬ s.IsLeap) (h : r.total = s.total) :
    r = s :=
  le_antisymm ((le_iff_total_le hr hs).mpr h.le) ((le_iff_total_le hs hr).mpr h.ge)

/-- The count of a later reading. -/
@[simp] lemma total_later (r : Reading) (millis : Int) :
    (r.later millis).total = r.total + millis * nanosPerMilli := by
  rw [later, total_carry, Int.zero_mul, Int.zero_add]

/-- A later reading is outside leap seconds. -/
lemma not_isLeap_later (r : Reading) (millis : Int) : ¬ (r.later millis).IsLeap :=
  not_isLeap_carry _ _

/-- Outside leap seconds time elapses by the count. -/
lemma elapse_eq_later (h : ¬ r.IsLeap) (millis : Int) : r.elapse millis = r.later millis :=
  eq_of_total_eq (not_isLeap_elapse h millis) (not_isLeap_later r millis) <| by
    rw [total_elapse h, total_later]

/-- No time later it is the same. -/
lemma later_zero (h : ¬ r.IsLeap) : r.later 0 = r := by
  rw [← elapse_eq_later h, elapse_zero h]

/-- Later than a later reading is later by both. -/
lemma later_later (r : Reading) (m n : Int) : (r.later m).later n = r.later (m + n) :=
  eq_of_total_eq (not_isLeap_later _ _) (not_isLeap_later _ _) <| by
    rw [total_later, total_later, total_later, Int.add_mul, Int.add_assoc]

/-- Two readings of the calendar are not 63 bits of milliseconds apart. -/
lemma natAbs_lt_of_inRange_later {millis : Int} (hr : r.InRange)
    (hlater : (r.later millis).InRange) : millis.natAbs < 9223372036854775808 := by
  have htotal := total_later r millis
  have hnanos := r.nanos_lt
  have hnanosLater := (r.later millis).nanos_lt
  simp only [InRange, InCalendar, firstDay, lastDay, yearStart, day, total, nanosPerMilli] at *
  omega

end Reading

/-! ## One move -/

/-- A duration of elapsed time stands for its milliseconds, if they are a number of 64 bits. -/
lemma Duration.spanOf?_elapsed {d : Duration} (h : d.unit.Elapsed) :
    d.unit.spanOf? d.magnitude = if Fits64 d.count then some (.fixed d.count) else none := by
  obtain ⟨per, hper⟩ := h.span_eq
  rw [d.spanOf?_eq, hper, Span.withCount]

/-- A move by elapsed time leads to the later reading, and is out of range if that is not in the
calendar. -/
theorem Zone.move_elapsed (z : Zone) {x : Instant} (hleap : ¬ x.utc.IsLeap)
    (hrange : x.utc.InRange) (direction : Direction) {d : Duration} (hunit : d.unit.Elapsed) :
    z.move x direction d =
      if (x.utc.later (direction.sign * d.count)).InRange then
        .ok (z.express (x.utc.later (direction.sign * d.count)))
      else .error (.outOfRange (.move x direction d)) := by
  rw [move, Duration.spanOf?_elapsed hunit]
  by_cases hlater : (x.utc.later (direction.sign * d.count)).InRange
  · have hfits : Fits64 d.count := by
      have hlt := Reading.natAbs_lt_of_inRange_later hrange hlater
      rw [Direction.natAbs_sign_mul] at hlt
      constructor <;> omega
    simp only [if_pos hfits, Reading.elapse_eq_later hleap, Reading.check, if_pos hlater]
  · rw [if_neg hlater]
    by_cases hfits : Fits64 d.count
    · simp only [if_pos hfits, Reading.elapse_eq_later hleap, Reading.check, if_neg hlater]
    · rw [if_neg hfits]

/-! ## Chains of moves -/

section Chains

variable {z : Zone} {x : Instant} {unit : TimeUnit}

/-- A value is the instant at a number of milliseconds from another, in the calendar and on the clock
of a zone. -/
def Zone.StandsAt (z : Zone) (x : Instant) (n : Int) (v : Value) : Prop :=
  (x.utc.later n).InRange ∧ v = .instant (z.express (x.utc.later n))

/-- A step of elapsed time is a move. -/
lemma Summand.apply_elapsed {s : Summand} (hunit : s.duration.unit.Elapsed)
    (hleap : ¬ x.utc.IsLeap) (hrange : x.utc.InRange) :
    s.step.apply z unit (.instant x) =
      if (x.utc.later s.millis).InRange then .ok (.instant (z.express (x.utc.later s.millis)))
      else .error (.outOfRange (.move x s.direction s.duration)) := by
  rw [step, Zone.apply_sum, z.move_elapsed hleap hrange s.direction hunit, ← millis]
  split
  · rfl
  · rfl

/-- A step of elapsed time adds its milliseconds. -/
lemma Summand.adds_elapsed {s : Summand} (hunit : s.duration.unit.Elapsed) :
    s.Adds z unit (z.StandsAt x) (fun n => (x.utc.later n).InRange) s.millis := by
  rintro n _ ⟨hn, rfl⟩ hrange
  refine ⟨_, ?_, hrange, rfl⟩
  rw [s.apply_elapsed hunit (x.utc.not_isLeap_later n) hn, Zone.express_utc, Reading.later_later,
    if_pos hrange]

/-- A step of elapsed time is refused if it leads out of the calendar. -/
lemma Summand.refuses_elapsed {s : Summand} (hunit : s.duration.unit.Elapsed) :
    s.Refuses z unit (z.StandsAt x) (fun n => (x.utc.later n).InRange) s.millis := by
  rintro n _ ⟨hn, rfl⟩ hrange
  rw [s.apply_elapsed hunit (x.utc.not_isLeap_later n) hn, Zone.express_utc, Reading.later_later,
    if_neg hrange]
  exact ⟨_, rfl⟩

variable {summands : List Summand} (hleap : ¬ x.utc.IsLeap) (hrange : x.utc.InRange)

include hleap hrange

/-- A chain of elapsed time that stays in the calendar comes to the sum of its milliseconds, on the
clock of the zone.

**Proof sketch.** The first step leads to the clock of the zone, and there the others add up. -/
theorem applySteps_elapsed {s : Summand} (hunits : ∀ t ∈ s :: summands, t.duration.unit.Elapsed)
    (hstays : StaysInCalendar x.utc (s :: summands)) :
    applySteps z unit (.instant x) ((s :: summands).map Summand.step) =
      .ok (.instant (z.express (x.utc.later ((s :: summands).map Summand.millis).sum))) := by
  rw [List.forall_mem_cons] at hunits
  have hlater := (sumsWithin_cons.mp hstays).2
  rw [Int.zero_add] at hlater
  obtain ⟨w, happly, -, rfl⟩ : ∃ w,
      applySteps z unit (.instant (z.express (x.utc.later s.millis)))
          (summands.map Summand.step) = .ok w ∧
        z.StandsAt x (s.millis + (summands.map Summand.millis).sum) w :=
    applySteps_of_adds (fun t ht => t.adds_elapsed (hunits.2 t ht)) ⟨hlater.start, rfl⟩ hlater
  rw [List.map_cons, applySteps, s.apply_elapsed hunits.1 hleap hrange, if_pos hlater.start]
  exact happly

/-- A chain of elapsed time that leads out of the calendar is out of range. -/
theorem applySteps_elapsed_out (hunits : ∀ s ∈ summands, s.duration.unit.Elapsed)
    (hleaves : ¬ StaysInCalendar x.utc summands) :
    ∃ f, applySteps z unit (.instant x) (summands.map Summand.step) = .error (.outOfRange f) := by
  have hstart : (x.utc.later 0).InRange := by rwa [Reading.later_zero hleap]
  cases summands with
  | nil =>
    have hstays : StaysInCalendar x.utc [] := sumsWithin_nil.mpr hstart
    exact absurd hstays hleaves
  | cons s summands =>
    rw [List.forall_mem_cons] at hunits
    rw [List.map_cons, applySteps, s.apply_elapsed hunits.1 hleap hrange]
    by_cases hfirst : (x.utc.later s.millis).InRange
    · have hlater : ¬ SumsWithin (fun n => (x.utc.later n).InRange) s.millis
          (summands.map Summand.millis) := by
        intro h
        refine hleaves (sumsWithin_cons.mpr ⟨hstart, ?_⟩)
        rwa [Int.zero_add]
      rw [if_pos hfirst]
      exact applySteps_of_refuses (fun t ht => t.adds_elapsed (hunits.2 t ht))
        (fun t ht => t.refuses_elapsed (hunits.2 t ht)) ⟨hfirst, rfl⟩ hfirst hlater
    · rw [if_neg hfirst]
      exact ⟨_, rfl⟩

end Chains

/-! ## Expressions -/

/-- There and back add nothing. -/
lemma Summand.sum_thereAndBack (d : Duration) (word back : String) :
    ([⟨.forward, d, word⟩, ⟨.backward, d, back⟩] : List Summand).map Summand.millis =
      [d.count, -d.count] := by
  simp [millis, Direction.sign]

/-- There and back stay in the calendar if there does. -/
lemma staysInCalendar_thereAndBack {r : Reading} (hleap : ¬ r.IsLeap) (hrange : r.InRange)
    {d : Duration} (hd : (r.later d.count).InRange) (word back : String) :
    StaysInCalendar r [⟨.forward, d, word⟩, ⟨.backward, d, back⟩] := by
  rw [StaysInCalendar, Summand.sum_thereAndBack, sumsWithin_cons, sumsWithin_cons, sumsWithin_nil,
    Int.zero_add, Int.add_right_neg, Reading.later_zero hleap]
  exact ⟨hrange, hd, hrange⟩

/-- A chain of hours, minutes, seconds and milliseconds from an instant outside leap seconds comes
to the instant that is later by the sum of their milliseconds, if no sum on the way leads out of
the calendar, and is out of range otherwise. So the order does not matter if neither order leads
out of the calendar on the way, and moving there and back leads to the instant again. After a step
an instant is on the clock of the zone. -/
theorem result_elapsed (z : Zone) {x : Instant} (hleap : ¬ x.utc.IsLeap) (hrange : x.utc.InRange)
    {summands : List Summand} (hunits : ∀ s ∈ summands, s.duration.unit.Elapsed)
    (format : Option ResultFormat) :
    (StaysInCalendar x.utc summands → ∃ y,
      Expression.result ⟨.instant x, summands.map Summand.step, format⟩ z = .ok (.instant y) ∧
        y.utc.total = x.utc.total + (summands.map Summand.millis).sum * nanosPerMilli ∧
        ¬ y.utc.IsLeap ∧ (summands ≠ [] → z.Shows y)) ∧
      (¬ StaysInCalendar x.utc summands → ∃ f,
        Expression.result ⟨.instant x, summands.map Summand.step, format⟩ z =
          .error (.outOfRange f)) ∧
      (∀ reordered, summands.Perm reordered → StaysInCalendar x.utc summands →
        StaysInCalendar x.utc reordered →
        Expression.result ⟨.instant x, reordered.map Summand.step, format⟩ z =
          Expression.result ⟨.instant x, summands.map Summand.step, format⟩ z) ∧
      ∀ d word back, d.unit.Elapsed → (x.utc.later d.count).InRange →
        Expression.result ⟨.instant x, [Summand.step ⟨.forward, d, word⟩,
          Summand.step ⟨.backward, d, back⟩], format⟩ z = .ok (.instant (z.express x.utc)) := by
  refine ⟨fun hstays => ?_, applySteps_elapsed_out hleap hrange hunits,
    fun reordered hperm hstays hreordered => ?_, fun d word back hunit hd => ?_⟩
  · cases summands with
    | nil => exact ⟨x, rfl, by simp, hleap, fun h => absurd rfl h⟩
    | cons s summands =>
      exact ⟨_, applySteps_elapsed hleap hrange hunits hstays, Reading.total_later _ _,
        Reading.not_isLeap_later _ _, fun _ => Zone.shows_express _⟩
  · cases summands with
    | nil => rw [hperm.nil_eq]
    | cons s summands =>
      obtain ⟨t, others, rfl⟩ : ∃ t others, reordered = t :: others :=
        List.exists_cons_of_ne_nil fun hnil => by simp [hnil] at hperm
      have hunits' : ∀ u ∈ t :: others, u.duration.unit.Elapsed :=
        fun u hu => hunits u (hperm.mem_iff.mpr hu)
      have hsum := (hperm.map Summand.millis).sum_eq
      refine (applySteps_elapsed hleap hrange hunits' hreordered).trans ?_
      rw [← hsum]
      exact (applySteps_elapsed hleap hrange hunits hstays).symm
  · have hboth : ∀ s ∈ ([⟨.forward, d, word⟩, ⟨.backward, d, back⟩] : List Summand),
        s.duration.unit.Elapsed := by
      simp [hunit]
    refine (applySteps_elapsed hleap hrange hboth
      (staysInCalendar_thereAndBack hleap hrange hd word back)).trans ?_
    rw [Summand.sum_thereAndBack, List.sum_cons, List.sum_cons, List.sum_nil, Int.add_zero,
      Int.add_right_neg, Reading.later_zero hleap]

/-- Through the change to summer time in New York. Half a millisecond back is a whole one. -/
theorem result_elapsed_newYork :
    StaysInCalendar ⟨1772951400, 0, by decide⟩
        [⟨.forward, ⟨⟨1500000000, by decide⟩, .hours⟩, "1.5h"⟩,
          ⟨.backward, ⟨⟨500000000, by decide⟩, .milliseconds⟩, "0.5ms"⟩] ∧
      Expression.result ⟨.instant ⟨⟨1772951400, 0, by decide⟩, -18000⟩,
        ([⟨.forward, ⟨⟨1500000000, by decide⟩, .hours⟩, "1.5h"⟩,
          ⟨.backward, ⟨⟨500000000, by decide⟩, .milliseconds⟩, "0.5ms"⟩] : List Summand).map
            Summand.step, none⟩ Zone.newYork =
        .ok (.instant ⟨⟨1772956799, 999000000, by decide⟩, -14400⟩) := by
  have hstays : StaysInCalendar ⟨1772951400, 0, by decide⟩
      [⟨.forward, ⟨⟨1500000000, by decide⟩, .hours⟩, "1.5h"⟩,
        ⟨.backward, ⟨⟨500000000, by decide⟩, .milliseconds⟩, "0.5ms"⟩] := by decide +kernel
  obtain ⟨y, hy, htotal, hleap, hshows⟩ :=
    (result_elapsed Zone.newYork (x := ⟨⟨1772951400, 0, by decide⟩, -18000⟩) (by decide)
      (by decide) (by decide) none).1 hstays
  have hutc : y.utc = ⟨1772956799, 999000000, by decide⟩ :=
    Reading.eq_of_total_eq hleap (by decide) (htotal.trans (by decide +kernel))
  have hvalue : Zone.newYork.express y.utc = ⟨⟨1772956799, 999000000, by decide⟩, -14400⟩ := by
    rw [hutc]
    decide +kernel
  rw [hy, ← show Zone.newYork.express y.utc = y from hshows (by simp), hvalue]
  exact ⟨hstays, rfl⟩

end Almanac

import Almanac.Proofs.Alike
import Almanac.Proofs.DurationWords
import Almanac.Proofs.Soundness
import Almanac.Proofs.WallMoves

set_option relaxedAutoImplicit false
set_option autoImplicit false

/-!
# Subtracting durations

To subtract a duration is to add its negation. Durations are negated before they are summed, while a
move rounds its duration first and then takes the direction, so that this rests on three facts:
rounding does not see the sign, the bounds of a move on the wall clock are nearly the same on both
sides of zero, and where they are not nothing in the calendar is as far away.

There is one exception. A number of days is bounded on the side to which the clock is set, and this
is seen before the clock is read. For a single number of days the two sides differ, and it shows if
the clock is outside the calendar and cannot be read.

## Main definitions

* `Almanac.Duration.neg?` — the negation of a duration.

## Main results

* `Almanac.Zone.move_fixed` — the bound on milliseconds does not show.
* `Almanac.Duration.setsClock_forward_iff` — where the bounds on the two sides differ.
* `Almanac.Step.sub_alike_add_neg` — subtracting is adding the negation.
-/

namespace Almanac

/-! ## Negation -/

namespace Duration

/-- The duration with the negated magnitude, if that fits. -/
def neg? (d : Duration) : Option Duration :=
  d.magnitude.neg?.map fun m => ⟨m, d.unit⟩

variable {d e : Duration}

/-- Only the most negative magnitude has no negation. -/
lemma exists_neg? (h : d.magnitude ≠ .least) : ∃ e, d.neg? = some e := by
  have hfits : Fits128 (-d.magnitude.billionths) := by
    have hlt := Magnitude.natAbs_lt_iff.mpr h
    constructor <;> omega
  refine ⟨⟨⟨_, hfits⟩, d.unit⟩, ?_⟩
  rw [neg?, Magnitude.neg?, Magnitude.ofBillionths?, dif_pos hfits, Option.map_some]

/-- What the negation of a duration is. -/
lemma of_neg? (h : d.neg? = some e) :
    e.unit = d.unit ∧ e.magnitude.billionths = -d.magnitude.billionths := by
  obtain ⟨m, hm, rfl⟩ := Option.map_eq_some_iff.mp h
  exact ⟨rfl, (Magnitude.ofBillionths?_eq_some_iff.mp hm).symm⟩

/-- The negation counts the negated number. -/
lemma count_of_neg? (h : d.neg? = some e) : e.count = -d.count := by
  obtain ⟨hunit, hbillionths⟩ := of_neg? h
  rw [count, count, hunit, hbillionths, Int.neg_mul, roundBillionths_neg]

end Duration

/-! ## Durations -/

/-- Of durations of one unit, to subtract one is to add its negation. In another unit both have no
value. -/
lemma Duration.add_backward_alike {d e : Duration} (hd : d.magnitude ≠ .least)
    (h : d.neg? = some e) (left : Duration) :
    Alike Eq (left.add .backward d) (left.add .forward e) := by
  obtain ⟨hunit, hbillionths⟩ := of_neg? h
  by_cases hsame : left.unit = d.unit
  · have hlt := Magnitude.natAbs_lt_iff.mpr hd
    have hlt' : e.magnitude.billionths.natAbs < 2 ^ 127 := by rwa [hbillionths, Int.natAbs_neg]
    rw [add_eq_ofBillionths? hsame hlt, add_eq_ofBillionths? (hsame.trans hunit.symm) hlt',
      hbillionths, Direction.sign, Direction.sign, Int.neg_mul, Int.one_mul, Int.one_mul]
    split
    · exact .ok rfl
    · exact .error rfl
  · rw [add, add, if_neg hsame, if_neg (hunit ▸ hsame)]
    exact .error rfl

/-! ## Elapsed time -/

/-- Elapsed milliseconds are whole seconds, up to a few that the parts of seconds make. -/
lemma Reading.secs_elapse_bounds (r : Reading) (millis : Int) :
    (millis - 3000 ≤ ((r.elapse millis).secs - r.secs) * 1000) ∧
      ((r.elapse millis).secs - r.secs) * 1000 ≤ millis + 3000 := by
  have hparts := Int.mul_tdiv_add_tmod millis 1000
  have hlow := Int.lt_tmod_of_pos millis (show (0 : Int) < 1000 by decide)
  have hhigh : millis.tmod 1000 < 1000 := Int.tmod_lt_of_pos millis (by decide)
  have hnanos := r.nanos_lt
  simp only [elapse]
  split_ifs
  · simp only [carry]
    omega
  · simp only [carry]
    omega
  · simp only [carry]
    omega
  · simp only
    omega

/-- So many milliseconds that they have not 63 bits lead out of the calendar. -/
lemma Reading.not_inRange_elapse {r : Reading} (hr : r.InRange) {millis : Int}
    (h : 9223372036854775808 ≤ millis.natAbs) : ¬ (r.elapse millis).InRange := by
  have hbounds := r.secs_elapse_bounds millis
  simp only [InRange, InCalendar, firstDay, lastDay, yearStart, day] at hr ⊢
  omega

namespace Zone

variable {z : Zone} {x : Instant} {d e : Duration}

/-- A move by elapsed time from an instant of the calendar leads to where the milliseconds of the
duration lead, however many they are. -/
theorem move_fixed (z : Zone) (hx : x.utc.InRange) {per : Int} (hspan : d.unit.span = .fixed per)
    (direction : Direction) : z.move x direction d =
      if (x.utc.elapse (direction.sign * d.count)).InRange then
        .ok (z.express (x.utc.elapse (direction.sign * d.count)))
      else .error (.outOfRange (.move x direction d)) := by
  rw [move, d.spanOf?_eq, hspan, Span.withCount]
  by_cases hfits : Fits64 d.count
  · simp only [if_pos hfits, Reading.check]
    by_cases hin : (x.utc.elapse (direction.sign * d.count)).InRange
    · simp only [if_pos hin]
    · simp only [if_neg hin]
  · have hmany : 9223372036854775808 ≤ (direction.sign * d.count).natAbs := by
      rw [direction.natAbs_sign_mul]
      simp only [Fits64] at hfits
      omega
    rw [if_neg hfits, if_neg (Reading.not_inRange_elapse hx hmany)]

end Zone

/-! ## The wall clock -/

namespace Duration

variable {d e : Duration}

/-- A duration sets the wall clock if the number that it counts has 64 bits and is within the bound
for its months or days. -/
lemma setsClock_iff {direction : Direction} : d.SetsClock direction ↔
    Fits64 d.count ∧ (d.unit.span.withCount d.count).SetsClock direction := by
  rw [SetsClock, d.spanOf?_eq]
  by_cases hfits : Fits64 d.count
  · simp [hfits]
  · simp [hfits]

/-- The negation of a duration sets the clock forward if the duration sets it backward, and for one
more number of days. -/
theorem setsClock_forward_iff (h : d.neg? = some e) : e.SetsClock .forward ↔
    d.SetsClock .backward ∨
      d.count = 9223372036854775808 ∧ ∃ per, d.unit.span = .days per := by
  rw [setsClock_iff, setsClock_iff, count_of_neg? h, (of_neg? h).1]
  cases d.unit.span with
  | months per =>
    simp only [Span.withCount, Span.SetsClock, Fits64, maxMonths, reduceCtorEq, exists_false,
      and_false, or_false]
    omega
  | days per =>
    simp only [Span.withCount, Span.SetsClock, Fits64, Direction.sign, Span.days.injEq,
      exists_eq', and_true]
    omega
  | fixed per =>
    simp only [Span.withCount, Span.SetsClock, and_false, reduceCtorEq, exists_false, or_false]

end Duration

namespace Zone

variable {z : Zone} {x : Instant} {d e : Duration} {direction : Direction}

/-- A clock outside the calendar is not moved, and it is not read if there are too many months or
days. -/
lemma move_of_not_setsClock (hunit : d.unit.span.OnWall) (hrange : ¬ (z.reading x).InRange)
    (hset : ¬ d.SetsClock direction) : ∃ f, z.move x direction d = .error (.outOfRange f) := by
  cases hmove : z.move x direction d with
  | ok i =>
    rcases move_eq_ok hmove with ⟨n, r, -, hread, -⟩ | ⟨n, r, -, hread, -⟩ | ⟨n, hspan, -⟩
    · exact absurd hread hrange
    · exact absurd hread hrange
    · exact ((TimeUnit.onWall_of_spanOf? hspan).mpr hunit).elim
  | error err =>
    rcases error_of_move hmove with ⟨f, rfl⟩ | ⟨hset', -⟩
    · exact ⟨f, rfl⟩
    · exact absurd hset' hset

/-- To move back by a duration is to move forward by its negation, if this needs no clock outside the
calendar. -/
lemma move_backward_alike (hx : x.utc.InRange) (h : d.neg? = some e)
    (hclock : e.SetsClock .forward → (z.reading x).InRange) :
    Alike Eq (z.move x .backward d) (z.move x .forward e) := by
  have hunit := (Duration.of_neg? h).1
  have hcount : Direction.sign .forward * e.count = Direction.sign .backward * d.count := by
    rw [Duration.count_of_neg? h, Direction.sign, Direction.sign]
    omega
  rcases d.unit.span.onWall_or_fixed with hwall | ⟨per, hspan⟩
  · have hwall' : e.unit.span.OnWall := hunit ▸ hwall
    by_cases hread : (z.reading x).InRange
    · by_cases hsets : ∃ r, (d.unit.span.withCount (Direction.sign .backward * d.count)).Sets
          (z.reading x) r ∧ r.InRange
      · obtain ⟨r, hr, hrange⟩ := hsets
        rw [move_of_sets hread hr hrange]
        rw [← hcount, ← hunit] at hr
        rw [move_of_sets hread hr hrange]
        exact .refl _ fun _ _ => rfl
      · have hout : ∀ r, (d.unit.span.withCount (Direction.sign .backward * d.count)).Sets
            (z.reading x) r → ¬ r.InRange := fun r hr hrange => hsets ⟨r, hr, hrange⟩
        rw [move_of_not_sets hread hwall hout]
        rw [← hcount, ← hunit] at hout
        rw [move_of_not_sets hread hwall' hout]
        exact .error rfl
    · have hforward : ¬ e.SetsClock .forward := fun hset => hread (hclock hset)
      have hbackward : ¬ d.SetsClock .backward :=
        fun hset => hforward ((Duration.setsClock_forward_iff h).mpr (Or.inl hset))
      obtain ⟨f, hf⟩ := move_of_not_setsClock hwall hread hbackward
      obtain ⟨g, hg⟩ := move_of_not_setsClock hwall' hread hforward
      rw [hf, hg]
      exact .error rfl
  · rw [z.move_fixed hx hspan, z.move_fixed hx (hunit ▸ hspan), hcount]
    split
    · exact .ok rfl
    · exact .error rfl

end Zone

/-! ## Steps -/

/-- A step that sets a clock outside the calendar fails for that clock. -/
lemma Summand.apply_of_setsClock {s : Summand} {z : Zone} {x : Instant} (unit : TimeUnit)
    (hset : s.duration.SetsClock s.direction) (hread : ¬ (z.reading x).InRange) :
    s.step.apply z unit (.instant x) = .error (.offCalendar (z.express x.utc)) := by
  rw [step, Zone.apply_sum, Zone.move_of_setsClock hset hread]
  rfl

/-- A step that is out of bounds fails before the clock is read. -/
lemma Summand.apply_of_not_setsClock {s : Summand} {z : Zone} {x : Instant} (unit : TimeUnit)
    (hwall : s.duration.unit.span.OnWall) (hread : ¬ (z.reading x).InRange)
    (hset : ¬ s.duration.SetsClock s.direction) :
    ∃ f, s.step.apply z unit (.instant x) = .error (.outOfRange f) := by
  obtain ⟨f, hf⟩ := Zone.move_of_not_setsClock hwall hread hset
  refine ⟨f, ?_⟩
  rw [step, Zone.apply_sum, hf]
  rfl

/-- Subtracting is adding the negation: from an instant of the calendar or from any other value,
both come to the same or fail for the same cause, if adding needs no clock outside the calendar. If
it does then both fail for that, but for the number of days that has 64 bits only when it is negated,
for which subtracting is out of range. -/
theorem Step.sub_alike_add_neg (z : Zone) (unit : TimeUnit) {left : Value}
    (hleft : ∀ x, left = .instant x → x.utc.InRange) {d : Duration} (hd : d.magnitude ≠ .least)
    (word word' : String) : ∃ e, d.neg? = some e ∧
      let back := Summand.step ⟨.backward, d, word⟩
      let forth := Summand.step ⟨.forward, e, word'⟩
      (¬ forth.OffCalendar z unit left →
        Almanac.Alike Eq (back.apply z unit left) (forth.apply z unit left) ∧
          ∀ i, forth.apply z unit left ≠ .error (.offCalendar i)) ∧
      (forth.OffCalendar z unit left → ∃ i,
        forth.apply z unit left = .error (.offCalendar i) ∧
          if d.count = 9223372036854775808 then
            ∃ f, back.apply z unit left = .error (.outOfRange f)
          else back.apply z unit left = .error (.offCalendar i)) := by
  obtain ⟨e, he⟩ := Duration.exists_neg? hd
  refine ⟨e, he, fun hclock => ⟨?_, fun i hi => ?_⟩, ?_⟩
  · cases left with
    | instant x =>
      have hread : e.SetsClock .forward → (z.reading x).InRange :=
        fun hset => by_contra fun hread => hclock ⟨hset, hread⟩
      exact (Zone.move_backward_alike (hleft x rfl) he hread).map fun _ _ => congrArg _
    | duration l => exact (Duration.add_backward_alike hd he l).map fun _ _ => congrArg _
    | truth b => exact .error rfl
    | count n => exact .error rfl
  · exact hclock (apply_eq_offCalendar_iff.mp ⟨i, hi⟩)
  · cases left with
    | instant x =>
      rintro ⟨hset, hread⟩
      refine ⟨z.express x.utc, Summand.apply_of_setsClock unit hset hread, ?_⟩
      have hcases := (Duration.setsClock_forward_iff he).mp hset
      split
      · next hcount =>
        have hback : ¬ d.SetsClock .backward := by
          rw [Duration.setsClock_iff, hcount]
          exact fun h => absurd h.1 (by decide)
        obtain ⟨-, per, hspan⟩ := hcases.resolve_left hback
        have hwall : d.unit.span.OnWall := by
          rw [hspan]
          trivial
        exact Summand.apply_of_not_setsClock unit hwall hread hback
      · next hcount =>
        exact Summand.apply_of_setsClock unit (hcases.resolve_right fun h => hcount h.1) hread
    | duration l => exact False.elim
    | truth b => exact False.elim
    | count n => exact False.elim

/-- In the last nine hours of the calendar, in Tokyo: as many days as have not 64 bits, taken back,
and their negation, added. -/
theorem Step.sub_alike_add_neg_tokyo :
    let left : Value := .instant ⟨⟨8210266876799, 0, by decide⟩, 0⟩
    let d : Duration := ⟨⟨9223372036854775808000000000, by decide⟩, .days⟩
    (∀ x, left = .instant x → x.utc.InRange) ∧ d.magnitude ≠ .least ∧ ∃ e, d.neg? = some e ∧
      (∃ i, Step.apply Zone.tokyo .milliseconds left ⟨.sum .forward, .duration e, ""⟩ =
        .error (.offCalendar i)) ∧
      ∃ f, Step.apply Zone.tokyo .milliseconds left ⟨.sum .backward, .duration d, ""⟩ =
        .error (.outOfRange f) := by
  intro left d
  have hleft : ∀ x, left = .instant x → x.utc.InRange := by
    intro x hx
    rw [← Value.instant.inj hx]
    decide
  have hd : d.magnitude ≠ .least := by decide
  obtain ⟨e, he, -, hoff⟩ := sub_alike_add_neg Zone.tokyo .milliseconds hleft hd "" ""
  have hcount : d.count = 9223372036854775808 := by decide
  have hclock : (Summand.step ⟨.forward, e, ""⟩).OffCalendar Zone.tokyo .milliseconds left :=
    ⟨(Duration.setsClock_forward_iff he).mpr (Or.inr ⟨hcount, 1, rfl⟩), by decide +kernel⟩
  obtain ⟨i, hforth, hback⟩ := hoff hclock
  rw [if_pos hcount] at hback
  exact ⟨hleft, hd, e, he, ⟨i, hforth⟩, hback⟩

end Almanac

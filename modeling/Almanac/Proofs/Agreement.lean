import Almanac.Proofs.Counting
import Almanac.Proofs.Moves

set_option relaxedAutoImplicit false
set_option autoImplicit false

/-!
# Sums and differences agree

The difference between an instant and the instant a whole number of a unit later is that number.
For months and days the way there and the way back are not the same: a sum may be read one hour
later than it falls, where clocks skip it, or at the earlier of two moments with one reading, which
for an empty sum may come before the start. Neither makes up a day, and no clock of a regular zone
loses one.

## Main results

* `Almanac.Zone.countUpTo_eq_of_between` — a count, from the two numbers of days next to it.
* `Almanac.Zone.bounds_of_resolve` — a resolved reading is shown, or at most an hour later.
* `Almanac.Zone.difference_of_sum` — the difference of a sum is what was added.
-/

namespace Almanac

namespace Reading

/-- Two days are a whole number of days apart. -/
lemma secs_onDay_add_le (r : Reading) {a b : Int} (h : a < b) :
    (r.onDay a).secs + 86400 ≤ (r.onDay b).secs := by
  simp only [onDay]
  omega

/-- A reading comes before one with a greater second. -/
lemma not_le_of_secs_lt {a b : Reading} (h : b.secs < a.secs) : ¬ a ≤ b := by
  rintro (hlt | ⟨heq, -⟩)
  · omega
  · omega

/-- One hour later outside leap seconds. -/
lemma elapse_gapMillis {r : Reading} (h : ¬ r.IsLeap) :
    r.elapse Zone.gapMillis = r.shift 3600 := by
  obtain ⟨secs, nanos, hnanos⟩ := r
  rw [elapse_eq_carry h, show Zone.gapMillis.tdiv 1000 = 3600 from rfl,
    show Zone.gapMillis.tmod 1000 = 0 from rfl]
  simp only [IsLeap] at h
  simp only [carry, shift, mk.injEq]
  omega

end Reading

namespace Zone

/-- If the later clock is between so many units ahead and one day more, as many units are counted.

**Proof sketch.** So many fit, and one more does not, since it leads to another day. -/
lemma countUpTo_eq_of_between {z : Zone} {u : TimeUnit} (hu : u.span.OnWall)
    {earlier later : Instant} (h : earlier.utc ≤ later.utc) (he : ¬ earlier.utc.IsLeap)
    (hl : ¬ later.utc.IsLeap) (hre : (z.reading earlier).InRange)
    (hrl : (z.reading later).InRange) {n : Nat}
    (hfits : n = 0 ∨ (z.reading earlier).onDay (z.dayAfter u earlier n) ≤ z.reading later)
    (hlt : (z.reading later).secs <
      ((z.reading earlier).onDay (z.dayAfter u earlier n)).secs + 86400) :
    z.countUpTo earlier later u = .ok n := by
  obtain ⟨m, hm, hiff⟩ := countUpTo_spec h he hl (fun _ => ⟨hre, hrl⟩)
  have hmore : ¬ z.Fits u earlier later (n + 1) := by
    rw [fits_iff hu hre hrl]
    have hday := (z.reading earlier).secs_onDay_add_le
      (z.dayAfter_lt hu earlier (show n < n + 1 by omega))
    exact Reading.not_le_of_secs_lt (by omega)
  have hle : n ≤ m := by
    rcases hfits with rfl | hfits
    · exact Nat.zero_le m
    · rcases Nat.eq_zero_or_pos n with rfl | hpos
      · exact Nat.zero_le m
      · exact (hiff n hpos).mp ((fits_iff hu hre hrl n).mpr hfits)
  have hge : m < n + 1 := by
    by_contra hge
    exact hmore ((hiff (n + 1) (Nat.succ_pos n)).mpr (by omega))
  obtain rfl : m = n := by omega
  exact hm

/-- A reading that is resolved is shown at the instant, or is at most an hour behind. -/
lemma bounds_of_resolve {z : Zone} (hz : z.Regular) {r : Reading} (hr : r.InRange)
    (hleap : ¬ r.IsLeap) {i : Instant} (h : z.resolve r = .ok i) :
    (z.reading i).InRange ∧ ¬ (z.reading i).IsLeap ∧ r ≤ z.reading i ∧
      r.secs ≤ (z.reading i).secs ∧ (z.reading i).secs ≤ r.secs + 3600 := by
  rcases reading_of_resolve hz h with hshown | ⟨hskipped, hrange⟩
  · rw [hshown]
    exact ⟨hr, hleap, Or.inr ⟨rfl, le_rfl⟩, by omega, by omega⟩
  · rw [Reading.elapse_gapMillis hleap] at hskipped hrange
    rw [hskipped]
    refine ⟨hrange, (Reading.isLeap_shift _ _).not.mpr hleap, Or.inl ?_, ?_, le_rfl⟩
    · simp only [Reading.shift]
      omega
    · simp only [Reading.shift]
      omega

/-- A sum with a whole number of a unit of the wall clock is the clock that is set forward by them,
resolved. -/
lemma advanced_of_move {z : Zone} {u : TimeUnit} (hu : u.span.OnWall) {m : Magnitude} {n : Nat}
    (hm : m.billionths = n * Magnitude.scale) {x y : Instant}
    (h : z.move x .forward ⟨m, u⟩ = .ok y) :
    (z.reading x).InRange ∧ ∃ r, z.advanced? u x n = some r ∧ z.resolve r = .ok y := by
  rcases move_eq_ok h with ⟨k, r, hspan, hx, hr, hy⟩ | ⟨k, r, hspan, hx, hr, hy⟩ | ⟨k, hspan, -, -⟩
  · have hwhole := TimeUnit.spanOf?_whole hm hspan
    refine ⟨hx, r, ?_, hy⟩
    cases hper : u.span with
    | months per =>
      simp only [hper, Span.withCount, Span.count, Span.months.injEq] at hwhole
      rw [advanced?, hper, ← hr, hwhole, Direction.sign, Int.one_mul]
    | days per => simp [hper, Span.withCount] at hwhole
    | fixed per => simp [hper, Span.withCount] at hwhole
  · have hwhole := TimeUnit.spanOf?_whole hm hspan
    refine ⟨hx, r, ?_, hy⟩
    cases hper : u.span with
    | months per => simp [hper, Span.withCount] at hwhole
    | days per =>
      simp only [hper, Span.withCount, Span.count, Span.days.injEq] at hwhole
      rw [advanced?, hper, ← hr, hwhole, Direction.sign, Int.one_mul]
    | fixed per => simp [hper, Span.withCount] at hwhole
  · exact absurd ((TimeUnit.onWall_of_spanOf? hspan).mpr hu) not_false

/-- The difference of a sum in a unit of the wall clock.

**Proof sketch.** A sum with some of the unit lies a day or more ahead on the clock, hence later,
and between as many units and one day more. An empty sum is on the same reading or an hour later;
whether or not it comes first, no unit fits in between. -/
lemma countBetween_of_move_wall {z : Zone} (hz : z.Regular)
    (hc : ∀ c ∈ z.changes, c.natAbs ≤ 86400) {u : TimeUnit} (hu : u.span.OnWall) {m : Magnitude}
    {n : Nat} (hm : m.billionths = n * Magnitude.scale) {x y : Instant} (hx : ¬ x.utc.IsLeap)
    (h : z.move x .forward ⟨m, u⟩ = .ok y) : z.countBetween x y u = .ok n := by
  obtain ⟨hrx, r, hr, hy⟩ := advanced_of_move hu hm h
  rw [advanced?_eq z hu] at hr
  obtain ⟨hrange, rfl⟩ := Reading.check_eq_some_iff.mp hr
  have hstart : ¬ ((z.reading x).onDay (z.dayAfter u x n)).IsLeap := by
    rwa [Reading.isLeap_onDay, isLeap_reading]
  obtain ⟨hry, hleap, hle, hlow, hhigh⟩ := bounds_of_resolve hz hrange hstart hy
  have hly : ¬ y.utc.IsLeap := (isLeap_reading z y).not.mp hleap
  by_cases hxy : x.utc ≤ y.utc
  · rw [countBetween, if_pos hxy]
    exact countUpTo_eq_of_between hu hxy hx hly hrx hry (Or.inr hle) (by omega)
  · have hyx := (Reading.le_total x.utc y.utc).resolve_left hxy
    have hsecs : y.utc.secs ≤ x.utc.secs := by
      rcases hyx with hlt | ⟨heq, -⟩
      · omega
      · omega
    have hloss := secs_reading_lt hz hc hsecs
    have hn : n = 0 := by
      by_contra hne
      have hday := (z.reading x).secs_onDay_add_le
        (z.dayAfter_lt hu x (show 0 < n by omega))
      rw [dayAfter_zero, Reading.onDay_day] at hday
      omega
    subst hn
    rw [dayAfter_zero, Reading.onDay_day] at hlow
    rw [countBetween, if_neg hxy]
    refine countUpTo_eq_of_between hu hyx hly hx hry hrx (Or.inl rfl) ?_
    rw [dayAfter_zero, Reading.onDay_day]
    omega

/-- The difference of a sum in a unit of elapsed time. -/
lemma countBetween_of_move_fixed {z : Zone} {u : TimeUnit} (hu : ¬ u.span.OnWall) {m : Magnitude}
    {n : Nat} (hm : m.billionths = n * Magnitude.scale) {x y : Instant} (hx : ¬ x.utc.IsLeap)
    (h : z.move x .forward ⟨m, u⟩ = .ok y) : z.countBetween x y u = .ok n := by
  rcases move_eq_ok h with ⟨k, r, hspan, -⟩ | ⟨k, r, hspan, -⟩ | ⟨k, hspan, -, rfl⟩
  · exact absurd ((TimeUnit.onWall_of_spanOf? hspan).mp trivial) hu
  · exact absurd ((TimeUnit.onWall_of_spanOf? hspan).mp trivial) hu
  · have hcount := u.count_span_pos
    have hwhole := TimeUnit.spanOf?_whole hm hspan
    cases hper : u.span with
    | months per => exact absurd (by rw [hper]; trivial) hu
    | days per => exact absurd (by rw [hper]; trivial) hu
    | fixed per =>
      have hpos : 0 < per := by rwa [hper] at hcount
      simp only [hper, Span.withCount, Span.count, Span.fixed.injEq] at hwhole
      have htotal := Reading.total_elapse hx (Direction.forward.sign * k)
      have hly := Reading.not_isLeap_elapse hx (Direction.forward.sign * k)
      rw [Direction.sign, Int.one_mul] at htotal hly ⊢
      have hspent : 0 ≤ k * nanosPerMilli := by
        rw [hwhole]
        exact Int.mul_nonneg (Int.mul_nonneg (by omega) (by omega)) (by decide)
      have hle : x.utc ≤ x.utc.elapse k := by
        rw [Reading.le_iff_total_le hx hly]
        omega
      have hsince : (x.utc.elapse k).nanosSince x.utc = n * per * nanosPerMilli := by
        rw [Reading.nanosSince_of_not_leap hx hly, htotal, ← hwhole]
        omega
      rw [countBetween, express_utc, if_pos hle, countUpTo_fixed z hper, express_utc, hsince,
        Int.mul_tdiv_cancel _ (by decide), Int.mul_tdiv_cancel _ (by omega)]

/-- The difference between an instant and what it comes to when a whole number of a unit is added
is that number. -/
theorem difference_of_sum {z : Zone} (hz : z.Regular) (hc : ∀ c ∈ z.changes, c.natAbs ≤ 86400)
    {u v : TimeUnit} {m : Magnitude} {n : Nat} (hm : m.billionths = n * Magnitude.scale)
    {x y : Instant} (hx : ¬ x.utc.IsLeap) {word : String}
    (h : Step.apply z v (.instant x) ⟨.sum .forward, .duration ⟨m, u⟩, word⟩ = .ok (.instant y))
    (word' : String) :
    Step.apply z u (.instant x) ⟨.difference, .instant y, word'⟩ = .ok (.count n) := by
  have hmove : z.move x .forward ⟨m, u⟩ = .ok y := by
    rw [apply_sum] at h
    cases hmoved : z.move x .forward ⟨m, u⟩ with
    | error e =>
      rw [hmoved] at h
      cases h
    | ok i =>
      rw [hmoved] at h
      cases h
      rfl
  rw [apply_difference]
  by_cases hu : u.span.OnWall
  · rw [countBetween_of_move_wall hz hc hu hm hx hmove]
    rfl
  · rw [countBetween_of_move_fixed hu hm hx hmove]
    rfl

/-- Three months after 2023-12-31 02:30 in Paris clocks skip this reading: the sum is read an hour
later, and the difference is three months all the same. -/
theorem difference_of_sum_skipped :
    Step.apply paris .milliseconds (.instant ⟨⟨1703986200, 0, by decide⟩, 3600⟩)
        ⟨.sum .forward, .duration ⟨⟨3000000000, by decide⟩, .months⟩, "3M"⟩ =
      .ok (.instant ⟨⟨1711848600, 0, by decide⟩, 7200⟩) ∧
    Step.apply paris .months (.instant ⟨⟨1703986200, 0, by decide⟩, 3600⟩)
        ⟨.difference, .instant ⟨⟨1711848600, 0, by decide⟩, 7200⟩, "2024-03-31T03:30+02:00"⟩ =
      .ok (.count 3) := by
  have hparis : paris.Regular ∧ ∀ c ∈ paris.changes, c.natAbs ≤ 86400 := by decide +kernel
  have hsum : Step.apply paris .milliseconds (.instant ⟨⟨1703986200, 0, by decide⟩, 3600⟩)
      ⟨.sum .forward, .duration ⟨⟨3000000000, by decide⟩, .months⟩, "3M"⟩ =
        .ok (.instant ⟨⟨1711848600, 0, by decide⟩, 7200⟩) := by
    decide +kernel
  exact ⟨hsum, difference_of_sum hparis.1 hparis.2 (n := 3) (by decide) (by decide) hsum _⟩

end Zone

end Almanac

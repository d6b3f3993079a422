import Almanac.Evaluation
import Almanac.Proofs.Months
import Almanac.Proofs.Units
import Almanac.Zone.America

set_option relaxedAutoImplicit false
set_option autoImplicit false

/-!
# What a difference counts

A difference in a unit is the largest number of that unit by which the earlier instant can be
moved without passing the later one. Years to days are moved, and compared, on the wall clock of
the zone, the other units on universal time; so the clock of the zone has to be in the calendar at
both instants for the former, and for them alone.

The one kind of difference below zero comes from leap seconds: milliseconds from the leap second at
the end of a day into the first second of the next one.

## Main definitions

* `Almanac.Zone.clock` — the clock on which a unit is counted.
* `Almanac.Zone.Countable` — the instants between which a unit can be counted.
* `Almanac.Zone.advanced?`, `Almanac.Zone.Fits` — a clock that is set forward by a number of units,
  and whether it does not pass another instant then.

## Main results

* `Almanac.Zone.countUpTo_spec` — the positive numbers that fit are those up to the count.
* `Almanac.Zone.countBetween_isGreatest` — a difference is the largest number that fits.
* `Almanac.Zone.difference_nonneg_iff` — when a difference is a number that is not below zero.
-/

namespace Almanac

namespace Zone

/-- The clock on which a unit is counted, at an instant. -/
def clock (z : Zone) (u : TimeUnit) (i : Instant) : Reading :=
  if u.span.OnWall then z.reading i else i.utc

/-- A unit can be counted between two instants: the clock of the zone is in the calendar at both, if
it is needed. -/
def Countable (z : Zone) (u : TimeUnit) (a b : Instant) : Prop :=
  u.span.OnWall → (z.reading a).InRange ∧ (z.reading b).InRange

instance (z : Zone) (u : TimeUnit) (a b : Instant) : Decidable (z.Countable u a b) :=
  inferInstanceAs (Decidable (_ → _))

/-- What the clock on which a unit is counted shows when it is set forward by so many of it. -/
def advanced? (z : Zone) (u : TimeUnit) (i : Instant) (count : Nat) : Option Reading :=
  match u.span with
  | .months per => (z.reading i).addMonths? (count * per)
  | .days per => (z.reading i).addDays? (count * per)
  | .fixed per => some (i.utc.elapse (count * per))

/-- So many of a unit fit between two instants: the clock that is set forward by them does not pass
the later one. -/
def Fits (z : Zone) (u : TimeUnit) (earlier later : Instant) (count : Nat) : Prop :=
  ∃ r, z.advanced? u earlier count = some r ∧ r ≤ z.clock u later

/-- In leap seconds clocks show leap seconds, in whatever zone. -/
@[simp] lemma isLeap_reading (z : Zone) (i : Instant) : (z.reading i).IsLeap ↔ i.utc.IsLeap :=
  Reading.isLeap_shift _ _

/-! ## Units of the wall clock -/

/-- The day on which a clock lands that is set forward by so many of a unit. -/
def dayAfter (z : Zone) (u : TimeUnit) (i : Instant) (count : Nat) : Int :=
  match u.span with
  | .months per => (z.reading i).landing (count * per)
  | .days per => (z.reading i).day + count * per
  | .fixed _ => (z.reading i).day

@[simp] lemma dayAfter_zero (z : Zone) (u : TimeUnit) (i : Instant) :
    z.dayAfter u i 0 = (z.reading i).day := by
  unfold dayAfter
  split <;> simp

/-- More of a unit of the wall clock lead to a later day. -/
lemma dayAfter_lt (z : Zone) {u : TimeUnit} (hu : u.span.OnWall) (i : Instant) {m n : Nat}
    (h : m < n) : z.dayAfter u i m < z.dayAfter u i n := by
  have hpos := u.count_span_pos
  have hmul : (m : Int) * u.span.count < n * u.span.count :=
    Int.mul_lt_mul_of_pos_right (by omega) hpos
  unfold dayAfter
  cases hspan : u.span with
  | months per =>
    rw [hspan] at hmul
    have := (z.reading i).landing_add_le hmul
    simp only [Span.count] at this ⊢
    omega
  | days per =>
    rw [hspan] at hmul
    simp only [Span.count] at hmul ⊢
    omega
  | fixed per =>
    rw [hspan] at hu
    exact hu.elim

/-- No number of units leads to an earlier day. -/
lemma day_le_dayAfter (z : Zone) {u : TimeUnit} (hu : u.span.OnWall) (i : Instant) (n : Nat) :
    (z.reading i).day ≤ z.dayAfter u i n := by
  rcases Nat.eq_zero_or_pos n with rfl | hpos
  · exact (z.dayAfter_zero u i).ge
  · have := z.dayAfter_lt hu i hpos
    rw [dayAfter_zero] at this
    omega

/-- A clock that is set forward by units of the wall clock shows the same time on another day. -/
lemma advanced?_eq (z : Zone) {u : TimeUnit} (hu : u.span.OnWall) (i : Instant) (n : Nat) :
    z.advanced? u i n = ((z.reading i).onDay (z.dayAfter u i n)).check := by
  unfold advanced? dayAfter
  cases hspan : u.span with
  | months per => exact Reading.addMonths?_eq _ _
  | days per => rfl
  | fixed per =>
    rw [hspan] at hu
    exact hu.elim

/-- Between clocks in the calendar only the order counts. -/
lemma fits_iff {z : Zone} {u : TimeUnit} (hu : u.span.OnWall) {earlier later : Instant}
    (he : (z.reading earlier).InRange) (hl : (z.reading later).InRange) (n : Nat) :
    z.Fits u earlier later n ↔
      (z.reading earlier).onDay (z.dayAfter u earlier n) ≤ z.reading later := by
  rw [Fits, advanced?_eq z hu, clock, if_pos hu]
  exact Reading.check_onDay_le_iff he hl (z.day_le_dayAfter hu earlier n)

/-- A clock that can be set forward without passing another one is not ahead of it. -/
lemma reading_le_of_fits {z : Zone} {u : TimeUnit} (hu : u.span.OnWall) {earlier later : Instant}
    (he : (z.reading earlier).InRange) (hl : (z.reading later).InRange) {n : Nat}
    (h : z.Fits u earlier later n) : z.reading earlier ≤ z.reading later := by
  rw [fits_iff hu he hl] at h
  rcases Nat.eq_zero_or_pos n with rfl | hpos
  · rwa [dayAfter_zero, Reading.onDay_day] at h
  · have hlt := z.dayAfter_lt hu earlier hpos
    rw [dayAfter_zero] at hlt
    rw [← (z.reading earlier).onDay_day]
    refine Reading.onDay_le_of_lt _ ?_
    by_contra hge
    exact Reading.not_onDay_le_of_lt _ (by omega) h

/-- None of a unit fits if the clock on which it is counted is not ahead. -/
lemma fits_zero {z : Zone} {u : TimeUnit} {earlier later : Instant} (he : ¬ earlier.utc.IsLeap)
    (hclock : z.Countable u earlier later) :
    z.Fits u earlier later 0 ↔ z.clock u earlier ≤ z.clock u later := by
  by_cases hu : u.span.OnWall
  · obtain ⟨hre, hrl⟩ := hclock hu
    rw [fits_iff hu hre hrl, dayAfter_zero, Reading.onDay_day, clock, if_pos hu, clock, if_pos hu]
  · cases hspan : u.span with
    | months per => exact absurd (by rw [hspan]; trivial) hu
    | days per => exact absurd (by rw [hspan]; trivial) hu
    | fixed per =>
      simp only [Fits, advanced?, clock, hspan, Span.OnWall, if_false, Option.some.injEq,
        exists_eq_left', Int.natCast_zero, Int.zero_mul, Reading.elapse_zero he]

/-! ## The count -/

/-- The count of months, from the search for them. -/
lemma countUpTo_months {z : Zone} {u : TimeUnit} {per : Int} (hspan : u.span = .months per)
    {earlier later : Instant} (he : (z.reading earlier).InRange)
    (hl : (z.reading later).InRange) :
    ∃ found : MonthSearch, z.countUpTo earlier later u = .ok ((found.months : Int).tdiv per) ∧
      ∀ m, 1 ≤ m → ((z.reading earlier).Reaches (z.reading later) m ↔ m ≤ found.months) := by
  obtain ⟨found, hfound, hreach⟩ := monthsBetween_spec he hl
  refine ⟨found, ?_, hreach⟩
  rw [countUpTo, hspan, wallClock_of_inRange he, wallClock_of_inRange hl]
  simp only [bind, Except.bind, hfound]
  rfl

/-- The count of days. -/
lemma countUpTo_days {z : Zone} {u : TimeUnit} {per : Int} (hspan : u.span = .days per)
    {earlier later : Instant} (he : (z.reading earlier).InRange)
    (hl : (z.reading later).InRange) :
    z.countUpTo earlier later u = .ok
      (((max ((z.reading later).nanosSince (z.reading earlier)) 0).tdiv nanosPerDay).tdiv per) := by
  rw [countUpTo, hspan, wallClock_of_inRange he, wallClock_of_inRange hl]
  rfl

/-- The count of elapsed time. -/
lemma countUpTo_fixed (z : Zone) {u : TimeUnit} {per : Int} (hspan : u.span = .fixed per)
    (earlier later : Instant) :
    z.countUpTo earlier later u = .ok
      (((later.utc.nanosSince earlier.utc).tdiv nanosPerMilli).tdiv per) := by
  rw [countUpTo, hspan]

/-- With a clock that is needed and not in the calendar nothing is counted. -/
lemma countUpTo_of_not_countable {z : Zone} {u : TimeUnit} {earlier later : Instant}
    (h : ¬ z.Countable u earlier later) :
    ∃ i, z.countUpTo earlier later u = .error (.offCalendar i) := by
  obtain ⟨hu, hboth⟩ := Classical.not_imp.mp h
  rw [countUpTo]
  cases hspan : u.span with
  | months per =>
    by_cases he : (z.reading earlier).InRange
    · have hl : ¬ (z.reading later).InRange := fun hl => hboth ⟨he, hl⟩
      exact ⟨_, by rw [wallClock_of_inRange he, wallClock_of_not_inRange hl]; rfl⟩
    · exact ⟨_, by rw [wallClock_of_not_inRange he]; rfl⟩
  | days per =>
    by_cases hl : (z.reading later).InRange
    · have he : ¬ (z.reading earlier).InRange := fun he => hboth ⟨he, hl⟩
      exact ⟨_, by rw [wallClock_of_inRange hl, wallClock_of_not_inRange he]; rfl⟩
    · exact ⟨_, by rw [wallClock_of_not_inRange hl]; rfl⟩
  | fixed per =>
    rw [hspan] at hu
    exact hu.elim

/-- Of the positive numbers of a unit those fit that are not greater than the count.

**Proof sketch.** One case for each way of counting. A number of years fits if twelve times as many
months do, which the search has settled; days and elapsed time fit if the quotient of the counts of
nanoseconds is as large. -/
theorem countUpTo_spec {z : Zone} {u : TimeUnit} {earlier later : Instant}
    (h : earlier.utc ≤ later.utc) (he : ¬ earlier.utc.IsLeap) (hl : ¬ later.utc.IsLeap)
    (hclock : z.Countable u earlier later) :
    ∃ n : Nat, z.countUpTo earlier later u = .ok n ∧
      ∀ k, 1 ≤ k → (z.Fits u earlier later k ↔ k ≤ n) := by
  have hcount := u.count_span_pos
  cases hspan : u.span with
  | months per =>
    have hpos : 0 < per := by rwa [hspan] at hcount
    obtain ⟨p, rfl⟩ := Int.eq_ofNat_of_zero_le (Int.le_of_lt hpos)
    obtain ⟨hre, hrl⟩ := hclock (by rw [hspan]; trivial)
    obtain ⟨found, hfound, hreach⟩ := countUpTo_months hspan hre hrl
    refine ⟨found.months / p, hfound, ?_⟩
    intro k hk
    have hp : 0 < p := by omega
    have hfits : z.Fits u earlier later k ↔
        (z.reading earlier).Reaches (z.reading later) (k * p) := by
      simp only [Fits, advanced?, clock, hspan, Span.OnWall, if_true, Reading.Reaches,
        Int.natCast_mul]
    rw [hfits, hreach _ (Nat.mul_pos hk hp), Nat.le_div_iff_mul_le hp]
  | days per =>
    have hpos : 0 < per := by rwa [hspan] at hcount
    obtain ⟨hre, hrl⟩ := hclock (by rw [hspan]; trivial)
    have hee : ¬ (z.reading earlier).IsLeap := (isLeap_reading z earlier).not.mpr he
    have hll : ¬ (z.reading later).IsLeap := (isLeap_reading z later).not.mpr hl
    have hzero : 0 ≤ max ((z.reading later).nanosSince (z.reading earlier)) 0 := Int.le_max_right ..
    have hnonneg := tdiv_tdiv_nonneg hzero (show 0 < nanosPerDay by decide) hpos
    refine ⟨_, (countUpTo_days hspan hre hrl).trans
      (congrArg _ (Int.toNat_of_nonneg hnonneg).symm), ?_⟩
    intro k hk
    have hday : z.dayAfter u earlier k - (z.reading earlier).day = k * per := by
      simp only [dayAfter, hspan]
      omega
    have hfits : z.Fits u earlier later k ↔
        (z.reading earlier).total + k * per * nanosPerDay ≤ (z.reading later).total := by
      rw [fits_iff (by rw [hspan]; trivial) hre hrl,
        Reading.le_iff_total_le ((Reading.isLeap_onDay _ _).not.mpr hee) hll,
        Reading.total_onDay, hday]
    have hmul : 0 < (k : Int) * per * nanosPerDay :=
      Int.mul_pos (Int.mul_pos (by omega) hpos) (by decide)
    rw [hfits, Int.le_toNat hnonneg, le_tdiv_tdiv_iff hzero (by decide) hpos,
      Reading.nanosSince_of_not_leap hee hll]
    omega
  | fixed per =>
    have hpos : 0 < per := by rwa [hspan] at hcount
    have hzero : 0 ≤ later.utc.nanosSince earlier.utc := by
      rw [Reading.nanosSince_of_not_leap he hl]
      have := (Reading.le_iff_total_le he hl).mp h
      omega
    have hnonneg := tdiv_tdiv_nonneg hzero (show 0 < nanosPerMilli by decide) hpos
    refine ⟨_, (countUpTo_fixed z hspan earlier later).trans
      (congrArg _ (Int.toNat_of_nonneg hnonneg).symm), ?_⟩
    intro k _
    have hfits : z.Fits u earlier later k ↔
        earlier.utc.total + k * per * nanosPerMilli ≤ later.utc.total := by
      simp only [Fits, advanced?, clock, hspan, Span.OnWall, if_false, Option.some.injEq,
        exists_eq_left']
      rw [Reading.le_iff_total_le (Reading.not_isLeap_elapse he _) hl, Reading.total_elapse he]
    rw [hfits, Int.le_toNat hnonneg, le_tdiv_tdiv_iff hzero (by decide) hpos,
      Reading.nanosSince_of_not_leap he hl]
    omega

/-- Where the clocks are shown does not matter to a count. -/
lemma countUpTo_congr {z : Zone} {u : TimeUnit} {a b c d : Instant} (hac : a.utc = c.utc)
    (hbd : b.utc = d.utc) : z.countUpTo a b u = z.countUpTo c d u := by
  simp only [countUpTo, wallClock, reading, hac, hbd]

/-- It does not matter which of two instants comes first. -/
lemma countBetween_comm (z : Zone) (u : TimeUnit) (a b : Instant) :
    z.countBetween a b u = z.countBetween b a u := by
  rw [countBetween, countBetween]
  by_cases hab : a.utc ≤ b.utc
  · by_cases hba : b.utc ≤ a.utc
    · have hutc := Reading.le_antisymm hab hba
      rw [if_pos hab, if_pos hba]
      exact countUpTo_congr hutc hutc.symm
    · rw [if_pos hab, if_neg hba]
  · rw [if_neg hab, if_pos ((Reading.le_total a.utc b.utc).resolve_left hab)]

/-- A difference is the largest number of a unit that fits between two instants outside leap
seconds, whichever of them is on the left. When the clock on which the unit is counted was set back
in between, so that none fits, it is 0; when a clock is needed that is not in the calendar there is
no difference. -/
theorem countBetween_isGreatest {z : Zone} {u : TimeUnit} {earlier later : Instant}
    (h : earlier.utc ≤ later.utc) (he : ¬ earlier.utc.IsLeap) (hl : ¬ later.utc.IsLeap) :
    z.countBetween earlier later u = z.countBetween later earlier u ∧
      (z.Countable u earlier later → ∃ n : Nat, z.countBetween earlier later u = .ok n ∧
        (z.clock u earlier ≤ z.clock u later →
          IsGreatest {k : Nat | z.Fits u earlier later k} n) ∧
        (z.clock u later < z.clock u earlier → u.span.OnWall ∧ n = 0)) ∧
      (¬ z.Countable u earlier later →
        ∃ i, z.countBetween earlier later u = .error (.offCalendar i)) := by
  have hfirst : z.countBetween earlier later u = z.countUpTo earlier later u := if_pos h
  refine ⟨z.countBetween_comm u earlier later, ?_, ?_⟩
  · intro hclock
    obtain ⟨n, hn, hfits⟩ := countUpTo_spec h he hl hclock
    refine ⟨n, hfirst.trans hn, ?_, ?_⟩
    · intro hle
      constructor
      · rcases Nat.eq_zero_or_pos n with rfl | hpos
        · exact (fits_zero he hclock).mpr hle
        · exact (hfits n hpos).mpr le_rfl
      · intro k hk
        rcases Nat.eq_zero_or_pos k with rfl | hpos
        · exact Nat.zero_le n
        · exact (hfits k hpos).mp hk
    · intro hlt
      by_cases hu : u.span.OnWall
      · refine ⟨hu, ?_⟩
        obtain ⟨hre, hrl⟩ := hclock hu
        rw [clock, if_pos hu, clock, if_pos hu, Reading.lt_iff_not_le] at hlt
        by_contra hne
        exact hlt (reading_le_of_fits hu hre hrl ((hfits n (by omega)).mpr le_rfl))
      · rw [clock, if_neg hu, clock, if_neg hu, Reading.lt_iff_not_le] at hlt
        exact absurd h hlt
  · intro hclock
    rw [hfirst]
    exact countUpTo_of_not_countable hclock

/-- From 2024-01-31 12:00 in New York to 2024-02-29 12:00 one month fits, the second month being
shorter. -/
theorem countBetween_isGreatest_shorter :
    newYork.countBetween ⟨⟨1706720400, 0, by decide⟩, 0⟩ ⟨⟨1709226000, 0, by decide⟩, 0⟩ .months =
        .ok 1 ∧
      IsGreatest {k : Nat | newYork.Fits .months ⟨⟨1706720400, 0, by decide⟩, 0⟩
        ⟨⟨1709226000, 0, by decide⟩, 0⟩ k} 1 := by
  obtain ⟨-, hcount, -⟩ := @countBetween_isGreatest newYork .months
    ⟨⟨1706720400, 0, by decide⟩, 0⟩ ⟨⟨1709226000, 0, by decide⟩, 0⟩ (by decide) (by decide)
    (by decide)
  obtain ⟨n, hn, hgreatest, -⟩ := hcount (by decide +kernel)
  have hone : newYork.countBetween ⟨⟨1706720400, 0, by decide⟩, 0⟩
      ⟨⟨1709226000, 0, by decide⟩, 0⟩ .months = .ok (1 : Nat) := by
    decide +kernel
  obtain rfl : n = 1 := by
    have := Except.ok.inj (hn.symm.trans hone)
    omega
  exact ⟨hn, hgreatest (by decide +kernel)⟩

/-! ## The sign of the count -/

/-- The count from an instant to a later one is below zero when milliseconds run back.

**Proof sketch.** Months are found by counting down to 0, and days are cut off there. Elapsed time
is below zero by less than a second, and only where subtraction runs back. -/
lemma countUpTo_neg_iff {z : Zone} {u : TimeUnit} {earlier later : Instant}
    (h : earlier.utc ≤ later.utc) (hclock : z.Countable u earlier later) :
    ∃ n : Int, z.countUpTo earlier later u = .ok n ∧
      (n < 0 ↔ u = .milliseconds ∧ earlier.utc.RunsBack later.utc 1000000) := by
  have hcount := u.count_span_pos
  have hwall (hu : u.span.OnWall) {n : Int} (hn : 0 ≤ n) :
      n < 0 ↔ u = .milliseconds ∧ earlier.utc.RunsBack later.utc 1000000 := by
    constructor
    · intro hneg
      omega
    · rintro ⟨rfl, -⟩
      exact hu.elim
  cases hspan : u.span with
  | months per =>
    have hpos : 0 < per := by rwa [hspan] at hcount
    have hu : u.span.OnWall := by rw [hspan]; trivial
    obtain ⟨hre, hrl⟩ := hclock hu
    obtain ⟨found, hfound, -⟩ := countUpTo_months hspan hre hrl
    exact ⟨_, hfound, hwall hu (Int.tdiv_nonneg (by omega) (by omega))⟩
  | days per =>
    have hpos : 0 < per := by rwa [hspan] at hcount
    have hu : u.span.OnWall := by rw [hspan]; trivial
    obtain ⟨hre, hrl⟩ := hclock hu
    exact ⟨_, countUpTo_days hspan hre hrl,
      hwall hu (tdiv_tdiv_nonneg (Int.le_max_right ..) (by decide) hpos)⟩
  | fixed per =>
    have hpos : 0 < per := by rwa [hspan] at hcount
    refine ⟨_, countUpTo_fixed z hspan earlier later, ?_⟩
    rw [tdiv_tdiv_neg_iff (by decide) hpos]
    obtain ⟨p, rfl⟩ := Int.eq_ofNat_of_zero_le (Int.le_of_lt hpos)
    have hback := Reading.nanosSince_le_neg_iff h (show 1 ≤ p * 1000000 by omega)
    simp only [nanosPerMilli]
    rw [show ((p : Int) * 1000000) = ((p * 1000000 : Nat) : Int) by omega, hback]
    rcases TimeUnit.span_eq_fixed hspan with ⟨hu, hp⟩ | ⟨hu, hp⟩
    · obtain rfl : p = 1 := by omega
      simp [hu]
    · constructor
      · intro hrun
        exact absurd hrun (Reading.not_runsBack_of_le (by omega))
      · rintro ⟨hms, -⟩
        exact absurd hms hu

/-- Nothing runs back from a later reading to an earlier one. -/
lemma not_runsBack_of_ge {a b : Reading} (h : a ≤ b) (nanos : Nat) : ¬ b.RunsBack a nanos := by
  rintro ⟨-, -, hsecs, -⟩
  have h : a.secs < b.secs ∨ (a.secs = b.secs ∧ a.nanos ≤ b.nanos) := h
  omega

/-- When the count from an instant to a later one is a number that is not below zero. -/
lemma countUpTo_nonneg_iff {z : Zone} {u : TimeUnit} {earlier later : Instant}
    (h : earlier.utc ≤ later.utc) :
    (∃ n : Int, 0 ≤ n ∧ z.countUpTo earlier later u = .ok n) ↔
      z.Countable u earlier later ∧
        ¬ (u = .milliseconds ∧ earlier.utc.RunsBack later.utc 1000000) := by
  by_cases hclock : z.Countable u earlier later
  · obtain ⟨m, hm, hneg⟩ := countUpTo_neg_iff h hclock
    rw [← hneg]
    constructor
    · rintro ⟨n, hn, hcount⟩
      obtain rfl : m = n := Except.ok.inj (hm.symm.trans hcount)
      exact ⟨hclock, by omega⟩
    · rintro ⟨-, hm0⟩
      exact ⟨m, by omega, hm⟩
  · obtain ⟨i, hi⟩ := countUpTo_of_not_countable hclock
    constructor
    · rintro ⟨n, -, hcount⟩
      rw [hi] at hcount
      cases hcount
    · rintro ⟨hc, -⟩
      exact absurd hc hclock

/-- Whether a unit can be counted does not depend on the order of the instants. -/
lemma countable_comm (z : Zone) (u : TimeUnit) (a b : Instant) :
    z.Countable u a b ↔ z.Countable u b a := by
  simp only [Countable, And.comm]

/-- When the count between two instants is a number that is not below zero. -/
lemma countBetween_nonneg_iff (z : Zone) (u : TimeUnit) (a b : Instant) :
    (∃ n : Int, 0 ≤ n ∧ z.countBetween a b u = .ok n) ↔
      z.Countable u a b ∧ ¬ (u = .milliseconds ∧
        (a.utc.RunsBack b.utc 1000000 ∨ b.utc.RunsBack a.utc 1000000)) := by
  by_cases hab : a.utc ≤ b.utc
  · rw [countBetween, if_pos hab, countUpTo_nonneg_iff hab, or_iff_left (not_runsBack_of_ge hab _)]
  · have hba := (Reading.le_total a.utc b.utc).resolve_left hab
    rw [countBetween, if_neg hab, countUpTo_nonneg_iff hba, countable_comm,
      or_iff_right (not_runsBack_of_ge hba _)]

/-- With the clocks that are needed in the calendar there is a count between two instants. -/
lemma countBetween_ok {z : Zone} {u : TimeUnit} {a b : Instant} (h : z.Countable u a b) :
    ∃ n : Int, z.countBetween a b u = .ok n := by
  by_cases hab : a.utc ≤ b.utc
  · obtain ⟨n, hn, -⟩ := countUpTo_neg_iff hab h
    exact ⟨n, (if_pos hab).trans hn⟩
  · have hba := (Reading.le_total a.utc b.utc).resolve_left hab
    obtain ⟨n, hn, -⟩ := countUpTo_neg_iff hba ((z.countable_comm u a b).mp h)
    exact ⟨n, (if_neg hab).trans hn⟩

/-- With a clock that is needed and not in the calendar there is no count between two instants. -/
lemma countBetween_of_not_countable {z : Zone} {u : TimeUnit} {a b : Instant}
    (h : ¬ z.Countable u a b) : ∃ i, z.countBetween a b u = .error (.offCalendar i) := by
  by_cases hab : a.utc ≤ b.utc
  · obtain ⟨i, hi⟩ := countUpTo_of_not_countable h
    exact ⟨i, (if_pos hab).trans hi⟩
  · obtain ⟨i, hi⟩ := countUpTo_of_not_countable ((z.countable_comm u a b).not.mp h)
    exact ⟨i, (if_neg hab).trans hi⟩

/-- A difference of two dates is the count between them. -/
lemma apply_difference (z : Zone) (u : TimeUnit) (a b : Instant) (word : String) :
    Step.apply z u (.instant a) ⟨.difference, .instant b, word⟩ =
      (z.countBetween a b u).map .count := by
  cases hcount : z.countBetween a b u with
  | error e =>
    simp only [Step.apply, instants, bind, Except.bind, hcount]
    rfl
  | ok n =>
    simp only [Step.apply, instants, bind, Except.bind, hcount]
    rfl

/-- A difference of two dates is a number that is not below zero, unless a clock is needed that is
not in the calendar, or milliseconds run back by one or more from the leap second at the end of a
day into the first second of the next one. -/
theorem difference_nonneg_iff (z : Zone) (u : TimeUnit) (a b : Instant) (word : String) :
    (∃ n : Int, 0 ≤ n ∧
        Step.apply z u (.instant a) ⟨.difference, .instant b, word⟩ = .ok (.count n)) ↔
      z.Countable u a b ∧ ¬ (u = .milliseconds ∧
        (a.utc.RunsBack b.utc 1000000 ∨ b.utc.RunsBack a.utc 1000000)) := by
  rw [← countBetween_nonneg_iff, apply_difference]
  refine exists_congr fun n => and_congr_right fun _ => ?_
  cases hcount : z.countBetween a b u with
  | error e => simp [Except.map]
  | ok m => simp [Except.map]

/-- From 0.9 s into the leap second at the end of a day to the next day are -900 milliseconds. -/
example : Step.apply newYork .milliseconds (.instant ⟨⟨86399, 1900000000, by decide⟩, 0⟩)
    ⟨.difference, .instant ⟨⟨86400, 0, by decide⟩, 0⟩, "1970-01-02"⟩ = .ok (.count (-900)) := by
  decide

end Zone

end Almanac

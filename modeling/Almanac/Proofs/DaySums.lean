import Almanac.Proofs.Resolving
import Almanac.Proofs.WallMoves
import Mathlib.Algebra.BigOperators.Group.List.Basic

set_option relaxedAutoImplicit false
set_option autoImplicit false

/-!
# Chains of days

An instant that is moved by days and weeks, one after the other, goes from the first moment of one
reading to the first moment of another. As long as the clock shows each reading on the way, no step
is read an hour later and none leaves the time of day, so that the chain is a running sum of days.
On a clock that is never set it is the moment itself that is moved by the sum.

## Main definitions

* `Almanac.Reading.daysLater` — the reading so many days later, at the same time of day.
* `Almanac.TimeUnit.Daily`, `Almanac.Summand.days` — days and weeks, and the days that a summand
  adds.
* `Almanac.Zone.Exhibits`, `Almanac.Zone.StaysShown` — a clock shows a reading of the calendar, and
  each of the readings on the way.

## Main results

* `Almanac.applySteps_days` — what a chain of days comes to.
* `Almanac.result_days` — sums, moving there and back, and clocks that are never set.
-/

namespace Almanac

/-! ## Counts of days -/

/-- The reading so many days later, at the same time of day. -/
def Reading.daysLater (r : Reading) (n : Int) : Reading := r.onDay (r.day + n)

/-- The units of whole days. -/
def TimeUnit.Daily (u : TimeUnit) : Prop := u ∈ [weeks, days]

instance : DecidablePred TimeUnit.Daily :=
  fun u => inferInstanceAs (Decidable (u ∈ _))

/-- The days that a summand adds. -/
def Summand.days (s : Summand) : Int :=
  s.direction.sign * s.duration.count

/-- The clock of a zone shows a reading of the calendar at some moment. -/
def Zone.Exhibits (z : Zone) (r : Reading) : Prop :=
  r.InRange ∧ (z.momentsOf r).Nonempty

/-- From a reading on the clock of a zone shows every reading on the way. -/
def Zone.StaysShown (z : Zone) (r : Reading) (summands : List Summand) : Prop :=
  SumsWithin (fun n => z.Exhibits (r.daysLater n)) 0 (summands.map Summand.days)

/-- A unit of whole days stands for days. -/
lemma TimeUnit.Daily.span_eq {u : TimeUnit} (h : u.Daily) : ∃ per, u.span = .days per := by
  simp only [Daily, List.mem_cons, List.not_mem_nil, or_false] at h
  rcases h with rfl | rfl
  · exact ⟨_, rfl⟩
  · exact ⟨_, rfl⟩

namespace Reading

/-- No days later it is the same. -/
@[simp] lemma daysLater_zero (r : Reading) : r.daysLater 0 = r := by
  rw [daysLater, Int.add_zero, onDay_day]

/-- Later than a later reading is later by both. -/
lemma daysLater_daysLater (r : Reading) (m n : Int) :
    (r.daysLater m).daysLater n = r.daysLater (m + n) := by
  rw [daysLater, daysLater, day_onDay, onDay_onDay, Int.add_assoc, ← daysLater]

/-- A reading is as many days from another as it is later. -/
lemma sets_daysLater (r : Reading) (n : Int) : (Span.days n).Sets r (r.daysLater n) :=
  eq_onDay_iff.mp rfl

/-- The clocks of two zones that are so many seconds apart stay so from day to day. -/
lemma shift_daysLater (r : Reading) (n seconds : Int) :
    (r.daysLater n).shift seconds = (r.shift seconds).daysLater n := by
  obtain ⟨secs, nanos, h⟩ := r
  simp only [shift, daysLater, onDay, day, mk.injEq, and_true]
  omega

end Reading

/-! ## Chains of moves -/

section Chains

variable {z : Zone} {r : Reading} {unit : TimeUnit}

/-- A value is the first moment of the reading at a number of days from another, in the calendar. -/
def Zone.StandsOn (z : Zone) (r : Reading) (n : Int) (v : Value) : Prop :=
  (r.daysLater n).InRange ∧
    ∃ y : Instant, v = .instant y ∧ IsLeast (z.momentsOf (r.daysLater n)) y.utc

/-- A step of whole days adds its days: from the first moment of one reading it leads to the first
moment of the other, if the clock shows that. -/
lemma Summand.adds_days (hz : z.RegularThroughout) {s : Summand} (hunit : s.duration.unit.Daily) :
    s.Adds z unit (z.StandsOn r) (fun n => z.Exhibits (r.daysLater n)) s.days := by
  rintro n _ ⟨hrange, y, rfl, hleast⟩ ⟨hnext, hshown⟩
  obtain ⟨i, hi, -, hfirst⟩ := Zone.exists_resolve_of_nonempty hz hshown
  obtain ⟨per, hper⟩ := hunit.span_eq
  have hreading : z.reading y = r.daysLater n := hleast.1.2
  have hsets : (s.duration.unit.span.withCount s.days).Sets (z.reading y)
      (r.daysLater (n + s.days)) := by
    rw [hper, hreading, ← Reading.daysLater_daysLater]
    exact Reading.sets_daysLater _ _
  have hmove : z.move y s.direction s.duration = z.resolve (r.daysLater (n + s.days)) :=
    Zone.move_of_sets (by rwa [hreading]) hsets hnext
  refine ⟨.instant i, ?_, hnext, i, rfl, hfirst⟩
  rw [step, Zone.apply_sum, hmove, hi]
  rfl

/-- A clock shows a reading if a moment is found for it. -/
lemma Zone.exhibits_iff (hz : z.RegularThroughout) :
    z.Exhibits r ↔ r.InRange ∧ (z.firstShowing? r).isSome = true := by
  refine and_congr_right fun _ => ?_
  rw [Option.isSome_iff_ne_none, Ne, Zone.firstShowing?_eq_none_iff hz, Set.nonempty_iff_ne_empty]

/-- Whether a clock shows the readings on the way can be computed. -/
lemma Zone.staysShown_iff (hz : z.RegularThroughout) {summands : List Summand} :
    z.StaysShown r summands ↔ SumsWithin (fun n => (r.daysLater n).InRange ∧
      (z.firstShowing? (r.daysLater n)).isSome = true) 0 (summands.map Summand.days) :=
  forall_congr' fun _ => imp_congr_right fun _ => Zone.exhibits_iff hz

/-- A chain of days comes to the first moment of the reading at the sum of its days, on the clock of
the zone, if the clock shows all readings on the way. -/
theorem applySteps_days (hz : z.RegularThroughout) {x : Instant} {summands : List Summand}
    (hunits : ∀ s ∈ summands, s.duration.unit.Daily) (hfirst : IsLeast (z.momentsOf r) x.utc)
    (hshown : z.StaysShown r summands) :
    ∃ y, applySteps z unit (.instant x) (summands.map Summand.step) = .ok (.instant y) ∧
      IsLeast (z.momentsOf (r.daysLater (summands.map Summand.days).sum)) y.utc ∧
      (summands ≠ [] → z.Shows y) := by
  have hstart : z.StandsOn r 0 (.instant x) :=
    ⟨hshown.start.1, x, rfl, by rwa [Reading.daysLater_zero]⟩
  obtain ⟨v, happly, -, y, rfl, hleast⟩ :=
    applySteps_of_adds (fun s hs => s.adds_days hz (hunits s hs)) hstart hshown
  rw [Int.zero_add] at hleast
  refine ⟨y, happly, hleast, fun hne => ?_⟩
  cases summands with
  | nil => exact absurd rfl hne
  | cons s summands =>
    rw [List.map_cons, applySteps] at happly
    obtain ⟨next, hnext, hrest⟩ := bind_eq_ok_iff.mp happly
    have hshows := Step.showsValue_apply hz.regular hnext
    exact Zone.showsValue_instant.mp (showsValue_applySteps hz.regular hshows hrest)

end Chains

/-! ## Clocks that are never set -/

namespace Zone

variable {z : Zone} (hconst : ∀ second, z.offsetAt second = z.initial)

include hconst

/-- A clock that is never set is always as far ahead. -/
lemma reading_of_neverSet (i : Instant) : z.reading i = i.utc.shift z.initial := by
  rw [← hconst i.utc.secs]
  rfl

/-- On a clock that is never set a reading has one moment. -/
lemma mem_momentsOf_shift_iff {m utc : Reading} :
    utc ∈ z.momentsOf (m.shift z.initial) ↔ utc.InRange ∧ utc = m := by
  have hback (r : Reading) : (r.shift z.initial).shift (-z.initial) = r := by
    simpa using r.shift_shift_neg (-z.initial)
  refine and_congr_right fun _ => ?_
  rw [reading_of_neverSet hconst, express_utc]
  constructor
  · intro h
    rw [← hback utc, h, hback]
  · rintro rfl
    rfl

/-- A moment of the calendar is the first one of what the clock shows, if that is never set. -/
lemma isLeast_momentsOf_shift {m : Reading} (hm : m.InRange) :
    IsLeast (z.momentsOf (m.shift z.initial)) m := by
  refine ⟨(mem_momentsOf_shift_iff hconst).mpr ⟨hm, rfl⟩, fun utc hutc => ?_⟩
  rw [((mem_momentsOf_shift_iff hconst).mp hutc).2]
  exact Or.inr ⟨rfl, le_rfl⟩

/-- On a clock that is never set the reading so many days later is that of the moment so many days
later. -/
lemma reading_daysLater_of_neverSet (x : Instant) (n : Int) :
    (z.reading x).daysLater n = (x.utc.daysLater n).shift z.initial := by
  rw [reading_of_neverSet hconst, Reading.shift_daysLater]

/-- A clock that is never set shows every reading on the way, as long as that is in the calendar, and
in universal time too. -/
lemma staysShown_of_neverSet {x : Instant} {summands : List Summand}
    (hwithin : SumsWithin (fun n => (x.utc.daysLater n).InRange ∧
      ((z.reading x).daysLater n).InRange) 0 (summands.map Summand.days)) :
    z.StaysShown (z.reading x) summands := by
  intro before hbefore
  obtain ⟨hutc, hwall⟩ := hwithin before hbefore
  refine ⟨hwall, x.utc.daysLater (0 + before.sum), ?_⟩
  rw [reading_daysLater_of_neverSet hconst]
  exact (mem_momentsOf_shift_iff hconst).mpr ⟨hutc, rfl⟩

end Zone

/-! ## There and back -/

/-- The days there and back. -/
lemma Summand.days_thereAndBack (d : Duration) (word back : String) :
    ([⟨.forward, d, word⟩, ⟨.backward, d, back⟩] : List Summand).map Summand.days =
      [d.count, -d.count] := by
  simp [days, Direction.sign]

/-- A clock that shows both ends shows every reading on the way there and back. -/
lemma Zone.staysShown_thereAndBack {z : Zone} {r : Reading} {d : Duration} {word back : String}
    (hhere : z.Exhibits r) (hthere : z.Exhibits (r.daysLater d.count)) :
    z.StaysShown r [⟨.forward, d, word⟩, ⟨.backward, d, back⟩] := by
  rw [StaysShown, Summand.days_thereAndBack, sumsWithin_cons, sumsWithin_cons, sumsWithin_nil,
    Int.zero_add, Int.add_right_neg, Reading.daysLater_zero]
  exact ⟨hhere, hthere, hhere⟩

/-! ## Expressions -/

/-- A chain of days and weeks from the first moment of a reading comes to the first moment of the
reading that is later by the sum of their days, if the clock shows each reading on the way. So moving
there and back leads to the instant again, if the clock shows the reading there. On a clock that is
never set the chain comes to the moment that is later by the sum of the days, if no sum on the way
leads out of the calendar in universal time or on the clock, whatever the summands are. After a step
an instant is on the clock of the zone. The zone is regular from the beginning of the calendar on,
as all zones with a name are. -/
theorem result_days {z : Zone} (hz : z.RegularThroughout) {x : Instant} {summands : List Summand}
    (hunits : ∀ s ∈ summands, s.duration.unit.Daily) (format : Option ResultFormat) :
    (IsLeast (z.momentsOf (z.reading x)) x.utc → z.StaysShown (z.reading x) summands → ∃ y,
      Expression.result ⟨.instant x, summands.map Summand.step, format⟩ z = .ok (.instant y) ∧
        IsLeast (z.momentsOf ((z.reading x).daysLater (summands.map Summand.days).sum)) y.utc ∧
        (summands ≠ [] → z.Shows y)) ∧
      (∀ d word back, d.unit.Daily → IsLeast (z.momentsOf (z.reading x)) x.utc →
        (z.reading x).InRange → z.Exhibits ((z.reading x).daysLater d.count) →
          Expression.result ⟨.instant x, [Summand.step ⟨.forward, d, word⟩,
            Summand.step ⟨.backward, d, back⟩], format⟩ z = .ok (.instant (z.express x.utc))) ∧
      ((∀ second, z.offsetAt second = z.initial) →
        SumsWithin (fun n => (x.utc.daysLater n).InRange ∧ ((z.reading x).daysLater n).InRange) 0
          (summands.map Summand.days) → ∃ y,
        Expression.result ⟨.instant x, summands.map Summand.step, format⟩ z = .ok (.instant y) ∧
          y.utc = x.utc.daysLater (summands.map Summand.days).sum ∧
          (summands ≠ [] → z.Shows y)) := by
  refine ⟨applySteps_days hz hunits, fun d word back hunit hfirst hrange hthere => ?_,
    fun hconst hwithin => ?_⟩
  · have hboth : ∀ s ∈ ([⟨.forward, d, word⟩, ⟨.backward, d, back⟩] : List Summand),
        s.duration.unit.Daily := by
      simp [hunit]
    have hhere : z.Exhibits (z.reading x) := ⟨hrange, _, hfirst.1⟩
    obtain ⟨y, hy, hleast, hshows⟩ :=
      applySteps_days hz hboth hfirst (Zone.staysShown_thereAndBack hhere hthere)
    rw [Summand.days_thereAndBack, List.sum_cons, List.sum_cons, List.sum_nil, Int.add_zero,
      Int.add_right_neg, Reading.daysLater_zero] at hleast
    have hback : z.express y.utc = y := hshows (List.cons_ne_nil _ _)
    rw [Zone.eq_of_isLeast hfirst hleast, hback]
    exact hy
  · have hfirst : IsLeast (z.momentsOf (z.reading x)) x.utc := by
      have hrange := hwithin.start.1
      rw [Reading.daysLater_zero] at hrange
      rw [Zone.reading_of_neverSet hconst]
      exact Zone.isLeast_momentsOf_shift hconst hrange
    obtain ⟨y, hy, hleast, hshows⟩ :=
      applySteps_days hz hunits hfirst (Zone.staysShown_of_neverSet hconst hwithin)
    rw [Zone.reading_daysLater_of_neverSet hconst] at hleast
    exact ⟨y, hy, ((Zone.mem_momentsOf_shift_iff hconst).mp hleast.1).2, hshows⟩

/-- From 2026-10-31 01:30 in New York over the night in which clocks are set back, a week on, and
half a day back, which is a whole one. -/
theorem result_days_newYork :
    ∃ summands : List Summand, summands = [⟨.forward, ⟨⟨1000000000, by decide⟩, .days⟩, "1d"⟩,
        ⟨.forward, ⟨⟨1000000000, by decide⟩, .weeks⟩, "1w"⟩,
        ⟨.backward, ⟨⟨500000000, by decide⟩, .days⟩, "0.5d"⟩] ∧
      Zone.newYork.RegularThroughout ∧
      Zone.newYork.reading ⟨⟨1793424600, 0, by decide⟩, -14400⟩ = ⟨1793410200, 0, by decide⟩ ∧
      Zone.newYork.StaysShown ⟨1793410200, 0, by decide⟩ summands ∧
      Expression.result ⟨.instant ⟨⟨1793424600, 0, by decide⟩, -14400⟩,
        summands.map Summand.step, none⟩ Zone.newYork =
          .ok (.instant ⟨⟨1794033000, 0, by decide⟩, -18000⟩) := by
  let summands : List Summand := [⟨.forward, ⟨⟨1000000000, by decide⟩, .days⟩, "1d"⟩,
    ⟨.forward, ⟨⟨1000000000, by decide⟩, .weeks⟩, "1w"⟩,
    ⟨.backward, ⟨⟨500000000, by decide⟩, .days⟩, "0.5d"⟩]
  have hz : Zone.newYork.RegularThroughout := by decide +kernel
  have hreading : Zone.newYork.reading ⟨⟨1793424600, 0, by decide⟩, -14400⟩ =
      ⟨1793410200, 0, by decide⟩ := by
    decide +kernel
  have hunits : ∀ s ∈ summands, s.duration.unit.Daily := by decide
  have hshown : Zone.newYork.StaysShown ⟨1793410200, 0, by decide⟩ summands :=
    (Zone.staysShown_iff hz).mpr (by decide +kernel)
  have hfirst := Zone.isLeast_of_firstShowing? (z := Zone.newYork)
    (r := ⟨1793410200, 0, by decide⟩) (i := ⟨⟨1793424600, 0, by decide⟩, -14400⟩) hz.regular
    (by decide +kernel)
  have hlast := Zone.isLeast_of_firstShowing? (z := Zone.newYork)
    (r := ⟨1794015000, 0, by decide⟩) (i := ⟨⟨1794033000, 0, by decide⟩, -18000⟩) hz.regular
    (by decide +kernel)
  have hsum : Reading.daysLater ⟨1793410200, 0, by decide⟩ (summands.map Summand.days).sum =
      ⟨1794015000, 0, by decide⟩ := by
    decide +kernel
  refine ⟨summands, rfl, hz, hreading, hshown, ?_⟩
  rw [← hreading] at hfirst hshown
  obtain ⟨y, hy, hleast, hshows⟩ := (result_days hz hunits none).1 hfirst.2 hshown
  rw [hreading, hsum] at hleast
  rw [hy, ← show Zone.newYork.express y.utc = y from hshows (by simp [summands]),
    Zone.eq_of_isLeast hleast hlast.2]
  exact congrArg (fun i => Except.ok (Value.instant i)) hlast.1

end Almanac

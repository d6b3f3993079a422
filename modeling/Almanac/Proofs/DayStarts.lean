import Almanac.Proofs.Agreement
import Almanac.Proofs.Anchors
import Almanac.Proofs.FirstMoments
import Almanac.Proofs.Shown

set_option relaxedAutoImplicit false
set_option autoImplicit false

/-!
# Where days begin

Today, tomorrow and yesterday are the moments at which a clock shows the midnights of three days for
the first time, or one hour later if it skips a midnight. They are in order, each on its day. How
they lie to the present moment is another question, since a clock may be past a midnight that has not
come, or may go over one again: it depends on what the clock has shown so far.

## Main results

* `Almanac.Zone.reading_of_startOfDay` — what the clock shows when a day begins.
* `Almanac.Present.order_anchors` — the order of the anchors.
* `Almanac.Present.today_after_now` — today may begin after now, and tomorrow before it.
-/

namespace Almanac

namespace Reading

/-- A reading of a day, so many seconds after midnight, is on that day. -/
lemma day_ofDay (day : Int) {seconds : Nat} (h : seconds < 86400) :
    (ofDay day seconds).day = day := by
  simp only [ofDay, Reading.day]
  omega

/-- A day begins at midnight. -/
lemma ofDay_le {r : Reading} {day : Int} (h : r.day = day) : ofDay day 0 ≤ r := by
  have hdef : ofDay day 0 ≤ r ↔
      day * 86400 + (0 : Nat) < r.secs ∨ (day * 86400 + (0 : Nat) = r.secs ∧ 0 ≤ r.nanos) := Iff.rfl
  rw [hdef]
  simp only [Reading.day] at h
  omega

/-- On an earlier day it is earlier. -/
lemma lt_of_day_lt {r s : Reading} (h : r.day < s.day) : r < s := by
  refine Or.inl ?_
  simp only [Reading.day] at h
  omega

end Reading

/-! ## What the clock shows -/

/-- When a day begins a clock shows midnight, or one hour later if it skips that. -/
theorem Zone.reading_of_startOfDay {z : Zone} (hz : z.Regular) {day : Int} {i : Instant}
    (h : z.startOfDay day = .ok i) :
    z.reading i = .ofDay day 0 ∨ z.reading i = .ofDay day 3600 := by
  have hleap : ¬ (Reading.ofDay day 0).IsLeap := Nat.not_succ_le_zero _
  rcases reading_of_resolve hz h with hshown | ⟨hskipped, -⟩
  · exact Or.inl hshown
  · rw [Reading.elapse_gapMillis hleap] at hskipped
    refine Or.inr (hskipped.trans ?_)
    simp [Reading.shift, Reading.ofDay]

/-- What the clock shows when a day begins is on that day. -/
lemma Zone.day_of_startOfDay {z : Zone} (hz : z.Regular) {day : Int} {i : Instant}
    (h : z.startOfDay day = .ok i) : (z.reading i).day = day := by
  rcases reading_of_startOfDay hz h with hreading | hreading
  · rw [hreading, Reading.day_ofDay day (by decide)]
  · rw [hreading, Reading.day_ofDay day (by decide)]

/-! ## The order of the anchors -/

namespace Present

variable {z : Zone} {utc : Reading} {p : Present}

/-- Yesterday is before today, and today before tomorrow, and yesterday before now. They are on the
day before that of now, on the same day and on the day after it. Today comes no later than now if
midnight is shown, and if midnight is skipped exactly if the clock has shown one o'clock by now; and
now comes before tomorrow exactly if the clock has not shown the beginning of tomorrow by now. -/
theorem order_anchors (hz : z.Regular) (hp : ofNow z utc = .ok p) :
    (p.yesterday.utc < p.today.utc ∧ p.today.utc < p.tomorrow.utc ∧
      p.yesterday.utc < p.now.utc) ∧
    (p.yesterday.wall.day = p.now.wall.day - 1 ∧ p.today.wall.day = p.now.wall.day ∧
      p.tomorrow.wall.day = p.now.wall.day + 1) ∧
    (p.today.wall = .ofDay p.now.wall.day 0 ∨ p.today.wall = .ofDay p.now.wall.day 3600) ∧
    (p.today.utc ≤ p.now.utc ↔ p.today.wall = .ofDay p.now.wall.day 0 ∨
      z.HasShown utc (.ofDay p.now.wall.day 3600)) ∧
    (p.now.utc < p.tomorrow.utc ↔ ¬ z.HasShown utc p.tomorrow.wall) := by
  obtain ⟨day, -, hday, -, -, -, hnow, htoday, htomorrow, hyesterday⟩ := ofNow_eq_ok hp
  have hnowUtc : p.now.utc = utc := by rw [hnow, Zone.express_utc]
  have hnowDay : p.now.wall.day = day := by rw [hnow, hday]; rfl
  have hwallToday := (Zone.shows_of_resolve hz htoday).wall_eq
  have hwallTomorrow := (Zone.shows_of_resolve hz htomorrow).wall_eq
  have hwallYesterday := (Zone.shows_of_resolve hz hyesterday).wall_eq
  have hdayToday := Zone.day_of_startOfDay hz htoday
  have hdayTomorrow := Zone.day_of_startOfDay hz htomorrow
  have hdayYesterday := Zone.day_of_startOfDay hz hyesterday
  have hmidnight : z.HasShown utc (.ofDay day 0) :=
    ⟨utc, Or.inr ⟨rfl, le_rfl⟩, Reading.ofDay_le hday.symm⟩
  rw [hnowUtc, hnowDay, hwallToday, hwallTomorrow, hwallYesterday]
  refine ⟨⟨?_, ?_, ?_⟩, ⟨hdayYesterday, hdayToday, hdayTomorrow⟩,
    Zone.reading_of_startOfDay hz htoday, ?_, ?_⟩
  · exact Zone.resolve_lt_of_reading_lt hz hyesterday
      (Reading.lt_of_day_lt (show (z.reading p.yesterday).day < (z.reading p.today).day by omega))
  · exact Zone.resolve_lt_of_reading_lt hz htoday
      (Reading.lt_of_day_lt (show (z.reading p.today).day < (z.reading p.tomorrow).day by omega))
  · exact Zone.resolve_lt_of_reading_lt hz hyesterday (Reading.lt_of_day_lt (by omega))
  · rw [Zone.resolve_le_iff_hasShown hz htoday]
    rcases Zone.reading_of_startOfDay hz htoday with hreading | hreading
    · simp [hreading, hmidnight]
    · simp [hreading, Reading.ofDay]
  · rw [Reading.lt_iff_not_le, Zone.resolve_le_iff_hasShown hz htomorrow]

/-- The anchors of 2026-03-08 in New York, a day of 23 hours, at three in the morning. -/
theorem order_anchors_newYork : ∃ p,
    Present.ofNow Zone.newYork ⟨1772953200, 0, by decide⟩ = .ok p ∧
      p.yesterday.utc < p.today.utc ∧ p.today.utc < p.tomorrow.utc ∧
      p.tomorrow.utc.secs - p.today.utc.secs = 23 * 3600 ∧
      p.tomorrow.wall.day = p.now.wall.day + 1 := by
  have hz : Zone.newYork.Regular := by decide +kernel
  have hp : Present.ofNow Zone.newYork ⟨1772953200, 0, by decide⟩ = .ok
      ⟨Zone.newYork, ⟨⟨1772953200, 0, by decide⟩, -14400⟩, ⟨⟨1772946000, 0, by decide⟩, -18000⟩,
        ⟨⟨1773028800, 0, by decide⟩, -14400⟩, ⟨⟨1772859600, 0, by decide⟩, -18000⟩⟩ := by
    decide +kernel
  obtain ⟨⟨hyesterday, htoday, -⟩, ⟨-, -, hday⟩, -⟩ := order_anchors hz hp
  exact ⟨_, hp, hyesterday, htoday, rfl, hday⟩

/-- On 1972-01-07 clocks in Monrovia were set forward from midnight to 00:44:30, and at 00:50 today,
which reads one o'clock, was still to come. On 2010-11-07 clocks in St. John's were set back from
00:01 to 23:01 of the day before, and at 23:21 tomorrow, which is the first of the two midnights,
had come before now. -/
theorem today_after_now :
    (∃ p, Present.ofNow Zone.monrovia ⟨63593400, 0, by decide⟩ = .ok p ∧
      ¬ p.today.utc ≤ p.now.utc) ∧
    ∃ p, Present.ofNow Zone.stJohns ⟨1289098260, 0, by decide⟩ = .ok p ∧
      ¬ p.now.utc < p.tomorrow.utc := by
  have hmonrovia : Present.ofNow Zone.monrovia ⟨63593400, 0, by decide⟩ = .ok
      ⟨Zone.monrovia, ⟨⟨63593400, 0, by decide⟩, 0⟩, ⟨⟨63594000, 0, by decide⟩, 0⟩,
        ⟨⟨63676800, 0, by decide⟩, 0⟩, ⟨⟨63506670, 0, by decide⟩, -2670⟩⟩ := by
    decide +kernel
  have hstJohns : Present.ofNow Zone.stJohns ⟨1289098260, 0, by decide⟩ = .ok
      ⟨Zone.stJohns, ⟨⟨1289098260, 0, by decide⟩, -12600⟩, ⟨⟨1289010600, 0, by decide⟩, -9000⟩,
        ⟨⟨1289097000, 0, by decide⟩, -9000⟩, ⟨⟨1288924200, 0, by decide⟩, -9000⟩⟩ := by
    decide +kernel
  exact ⟨⟨_, hmonrovia, by decide⟩, ⟨_, hstJohns, by decide⟩⟩

end Present

end Almanac

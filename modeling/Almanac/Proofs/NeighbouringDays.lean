import Almanac.Proofs.DayStarts
import Almanac.Proofs.DaySums
import Almanac.Proofs.Formats

set_option relaxedAutoImplicit false
set_option autoImplicit false

/-!
# The days next to today

There are two ways to the beginning of tomorrow: from the date of today to the midnight after it, and
from the clock with which today begins to the same time a day later. They meet whenever today begins
at midnight, whatever the clock does around the other midnight. If it skips the midnight of today,
then today begins at one o'clock, and so does the day to which the second way leads.

## Main definitions

* `Almanac.Present.neighbour` — the day after today, and the day before it.

## Main results

* `Almanac.evaluate_moved` — what a sum of a date and a duration comes to.
* `Almanac.Present.evaluate_neighbour` — when today and a day make tomorrow, or yesterday.
* `Almanac.Present.evaluate_ne_neighbour` — they do not if today begins at one o'clock alone.
-/

namespace Almanac

/-! ## Sums in words -/

/-- A date and a duration with a sum between them come to the date moved by the duration. -/
theorem evaluate_moved (p : Present) {first spelling last : String} {x : Instant} {d : Duration}
    {direction : Direction} (hfirst : p.operandOf first = .ok (.instant x))
    (hspelling : Operator.ofSpelling? spelling = some (.sum direction))
    (hlast : p.operandOf last = .ok (.duration d)) :
    evaluate p [first, spelling, last] =
      (p.zone.move x direction d).map fun i => (Value.instant i).plain := by
  have hformat : ([first, spelling, last].getLast?) ≠ some formatWord := by
    rintro ⟨⟩
    exact Present.ne_formatWord_of_operandOf hlast rfl
  have hbefore : ([first, spelling, last].dropLast.getLast?) ≠ some formatWord := by
    rintro ⟨⟩
    cases hspelling
  have hend : ¬ EndsInOperator [first, spelling, last] := by
    rintro ⟨other, op, hget, hop⟩
    obtain rfl : last = other := Option.some.inj hget
    rw [Present.ofSpelling?_of_operandOf hlast] at hop
    cases hop
  have hsteps : p.stepsOf [spelling, last] = .ok [⟨.sum direction, .duration d, last⟩] := by
    rw [Present.stepsOf, Present.stepOf, operatorOf_of_spelling hspelling, hlast]
    rfl
  have hwords : Expression.ofWords p [first, spelling, last] =
      .ok ⟨.instant x, [⟨.sum direction, .duration d, last⟩], none⟩ := by
    rw [ofWords_unformatted hformat hbefore, chainOf_cons hend, hfirst, hsteps]
    rfl
  rw [evaluate_eq, hwords]
  refine (Expression.evaluated_unformatted rfl).trans ?_
  rw [applySteps, show Operand.toValue (.instant x) = .instant x from rfl, Zone.apply_sum]
  cases p.zone.move x direction d <;> rfl

/-- A result is the plain value of an instant exactly if it comes from that instant. -/
lemma map_plain_eq_ok_iff {x : Except Error Instant} {i : Instant} :
    x.map (fun j => (Value.instant j).plain) = .ok (Value.instant i).plain ↔ x = .ok i := by
  rw [map_eq_ok_iff]
  constructor
  · rintro ⟨j, hj, hplain⟩
    obtain rfl : j = i := Value.instant.inj (congrArg Evaluated.result hplain)
    exact hj
  · intro h
    exact ⟨i, h, rfl⟩

/-! ## Days that begin -/

/-- So many days later a day has the same times of day. -/
lemma Reading.daysLater_ofDay (day n : Int) {seconds : Nat} (h : seconds < 86400) :
    (ofDay day seconds).daysLater n = ofDay (day + n) seconds := by
  rw [daysLater, day_ofDay day h]
  simp only [onDay, ofDay, mk.injEq, and_true]
  omega

/-- One o'clock is resolved to the instant with which a day begins exactly if the clock shows one
o'clock there. -/
lemma Zone.resolve_oneOClock_iff {z : Zone} (hz : z.Regular) {day : Int} {i : Instant}
    (hbegins : z.startOfDay day = .ok i) :
    z.resolve (.ofDay day 3600) = .ok i ↔ z.reading i = .ofDay day 3600 := by
  constructor
  · intro h
    rcases reading_of_startOfDay hz hbegins with hmidnight | hlate
    · -- the reading of an instant is the one resolved or an hour later, and midnight is neither
      have hleap : ¬ (Reading.ofDay day 3600).IsLeap := Nat.not_succ_le_zero _
      rcases reading_of_resolve hz h with hshown | ⟨hskipped, -⟩
      · exact hshown
      · rw [hmidnight, Reading.elapse_gapMillis hleap] at hskipped
        have hsecs : day * 86400 + (0 : Nat) = day * 86400 + (3600 : Nat) + 3600 :=
          congrArg Reading.secs hskipped
        omega
    · exact hlate
  · intro hlate
    rw [← hlate]
    exact resolve_of_firstShowing? (firstShowing?_of_resolve hz hbegins)

namespace Present

/-- The instant with which the day after today begins, or the day before it. -/
def neighbour (p : Present) : Direction → Instant
  | .forward => p.tomorrow
  | .backward => p.yesterday

variable {z : Zone} {utc : Reading} {p : Present}

/-- Today and the days next to it begin on days of the calendar next to each other. -/
lemma startOfDay_neighbour (hz : z.Regular) (hp : ofNow z utc = .ok p) (direction : Direction) :
    p.zone = z ∧ z.Shows p.today ∧ z.startOfDay p.today.wall.day = .ok p.today ∧
      InCalendar p.today.wall.day ∧ InCalendar (p.today.wall.day + direction.sign) ∧
      z.startOfDay (p.today.wall.day + direction.sign) = .ok (p.neighbour direction) := by
  obtain ⟨day, hrange, rfl, hafter, hbefore, hzone, -, htoday, htomorrow, hyesterday⟩ :=
    ofNow_eq_ok hp
  have hshows := Zone.shows_of_resolve hz htoday
  have hday : p.today.wall.day = (z.reading (z.express utc)).day := by
    rw [hshows.wall_eq, Zone.day_of_startOfDay hz htoday]
  rw [hday]
  refine ⟨hzone, hshows, htoday, hrange, ?_⟩
  cases direction with
  | forward => exact ⟨hafter, htomorrow⟩
  | backward => exact ⟨hbefore, hyesterday⟩

/-- A day after today, or before it, is read from the clock with which today begins. -/
lemma evaluate_today_day (hz : z.Regular) (hp : ofNow z utc = .ok p) (direction : Direction) :
    evaluate p ["today", direction.spelling, "1d"] =
      (z.resolve (p.today.wall.daysLater direction.sign)).map
        fun i => (Value.instant i).plain := by
  obtain ⟨hzone, hshows, htoday, hin, hnext, -⟩ := startOfDay_neighbour hz hp direction
  have hword : p.operandOf "today" = .ok (.instant p.today) := p.operandOf_of_ofWord? rfl
  have hday : p.operandOf "1d" = .ok (.duration ⟨.one, .days⟩) :=
    p.operandOf_of_parse? (by decide)
  have hspelling : Operator.ofSpelling? direction.spelling = some (.sum direction) :=
    Operator.ofSpelling?_spelling (.sum direction)
  rw [evaluate_moved p hword hspelling hday, hzone]
  have hrange : (z.reading p.today).InRange :=
    Zone.inRange_of_resolve hz (Reading.inRange_ofDay hin) htoday
  have hsets : ((TimeUnit.days.span).withCount
      (direction.sign * Duration.count ⟨.one, .days⟩)).Sets (z.reading p.today)
        (p.today.wall.daysLater direction.sign) := by
    have hcount : Duration.count ⟨.one, .days⟩ = 1 := by decide
    rw [hcount, Int.mul_one, hshows.wall_eq]
    exact Reading.sets_daysLater _ _
  have hlater : (p.today.wall.daysLater direction.sign).InRange := by
    rwa [Reading.daysLater, Reading.inRange_onDay]
  rw [Zone.move_of_sets hrange hsets hlater]

/-- A day after today, or before it, at the time of day with which today begins: midnight, or one
o'clock if the clock skips that. In the first case, and in the second one if the other midnight is
skipped as well, this is the instant with which tomorrow begins, or yesterday. -/
theorem evaluate_neighbour (hz : z.Regular) (hp : ofNow z utc = .ok p) (direction : Direction) :
    (p.today.wall = .ofDay p.today.wall.day 0 ∨ p.today.wall = .ofDay p.today.wall.day 3600) ∧
    evaluate p ["today", direction.spelling, "1d"] =
      (z.resolve (p.today.wall.daysLater direction.sign)).map
        (fun i => (Value.instant i).plain) ∧
    (evaluate p ["today", direction.spelling, "1d"] =
        .ok (Value.instant (p.neighbour direction)).plain ↔
      p.today.wall = .ofDay p.today.wall.day 0 ∨
        (p.neighbour direction).wall =
          .ofDay (p.today.wall.day + direction.sign) 3600) := by
  obtain ⟨-, hshows, htoday, -, -, hnext⟩ := startOfDay_neighbour hz hp direction
  have hevaluate := evaluate_today_day hz hp direction
  have hbegins : p.today.wall = .ofDay p.today.wall.day 0 ∨
      p.today.wall = .ofDay p.today.wall.day 3600 := by
    rw [hshows.wall_eq]
    rw [hshows.wall_eq] at htoday
    exact Zone.reading_of_startOfDay hz htoday
  refine ⟨hbegins, hevaluate, ?_⟩
  rw [hevaluate, map_plain_eq_ok_iff]
  generalize p.today.wall.day = day at hbegins hnext ⊢
  generalize p.today.wall = wall at hbegins ⊢
  rcases hbegins with rfl | rfl
  · rw [Reading.daysLater_ofDay _ _ (by decide)]
    exact iff_of_true hnext (Or.inl rfl)
  · have hlate : Reading.ofDay day 3600 ≠ .ofDay day 0 := by
      intro h
      have hsecs : day * 86400 + (3600 : Nat) = day * 86400 + (0 : Nat) := congrArg Reading.secs h
      omega
    have hwall := (Zone.shows_of_resolve hz hnext).wall_eq
    rw [Reading.daysLater_ofDay _ _ (by decide), hwall, or_iff_right hlate]
    exact Zone.resolve_oneOClock_iff hz hnext

/-- On 2018-11-03 in São Paulo, the day before the night in which clocks skipped midnight. -/
theorem evaluate_neighbour_saoPaulo : ∃ p,
    ofNow Zone.saoPaulo ⟨1541250000, 0, by decide⟩ = .ok p ∧
      p.tomorrow.wall = .ofDay (p.today.wall.day + 1) 3600 ∧
      evaluate p ["today", "+", "1d"] = .ok (Value.instant p.tomorrow).plain := by
  have hz : Zone.saoPaulo.Regular := by decide +kernel
  have hp : ofNow Zone.saoPaulo ⟨1541250000, 0, by decide⟩ = .ok
      ⟨Zone.saoPaulo, ⟨⟨1541250000, 0, by decide⟩, -10800⟩, ⟨⟨1541214000, 0, by decide⟩, -10800⟩,
        ⟨⟨1541300400, 0, by decide⟩, -7200⟩, ⟨⟨1541127600, 0, by decide⟩, -10800⟩⟩ := by
    decide +kernel
  exact ⟨_, hp, by decide, (evaluate_neighbour hz hp .forward).2.2.mpr (Or.inl (by decide))⟩

/-- On 2018-11-04 clocks in São Paulo skipped midnight, so that today began at one o'clock. A day
later it is one o'clock again, when tomorrow has begun, and a day before too. -/
theorem evaluate_ne_neighbour : ∃ p,
    ofNow Zone.saoPaulo ⟨1541340000, 0, by decide⟩ = .ok p ∧
      evaluate p ["today", "+", "1d"] ≠ .ok (Value.instant p.tomorrow).plain ∧
      evaluate p ["today", "-", "1d"] ≠ .ok (Value.instant p.yesterday).plain := by
  have hp : ofNow Zone.saoPaulo ⟨1541340000, 0, by decide⟩ = .ok
      ⟨Zone.saoPaulo, ⟨⟨1541340000, 0, by decide⟩, -7200⟩, ⟨⟨1541300400, 0, by decide⟩, -7200⟩,
        ⟨⟨1541383200, 0, by decide⟩, -7200⟩, ⟨⟨1541214000, 0, by decide⟩, -10800⟩⟩ := by
    decide +kernel
  exact ⟨_, hp, by decide +kernel, by decide +kernel⟩

end Present

end Almanac

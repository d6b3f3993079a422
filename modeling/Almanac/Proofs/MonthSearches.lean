import Almanac.Proofs.Months

set_option relaxedAutoImplicit false
set_option autoImplicit false

/-!
# How far the search for months goes

The search for the whole months between two readings starts at the number by which their months are
apart. A move by that number lands in the month of the later reading, a move by one less in an
earlier month; so the second number that is tried is the last one, however many years are in
between. The months of the calendar are whole, so that no such move leaves the calendar either.

## Main definitions

* `Almanac.Reading.monthsTo` — the number by which the months of two readings are apart.
* `Almanac.Reading.Passes` — whether a move by months passes another reading.
* `Almanac.triedMonths` — the numbers that a search tries.

## Main results

* `Almanac.tries_of_searchMonths` — a search counts the numbers that it tries.
* `Almanac.monthsBetween_tries` — between readings of the calendar it tries two at most, which are
  moves inside the calendar; and what it finds.
-/

namespace Almanac

namespace Reading

/-- The number of months from the month of a reading to that of another. -/
def monthsTo (earlier later : Reading) : Int :=
  later.monthIndex - earlier.monthIndex

/-- A reading can be moved by so many months, and passes another one then. -/
def Passes (earlier later : Reading) (count : Int) : Prop :=
  ∃ moved, earlier.addMonths? count = some moved ∧ later < moved

end Reading

/-- The numbers that a search down from a number tries, one after the other. It ends at one that is
too great for a move, and at one that reaches. -/
def triedMonths (earlier later : Reading) : Nat → List Nat
  | 0 => []
  | n + 1 =>
    if maxMonths < n + 1 ∨ (earlier.addMonths? (n + 1 : Nat)).any (· ≤ later) then [n + 1]
    else (n + 1) :: triedMonths earlier later n

/-! ## The numbers that are tried -/

/-- A search that ends well has counted the numbers that it tried.

**Proof sketch.** Induction on the number at which it starts. -/
lemma tries_of_searchMonths {earlier later : Reading} {tries n : Nat} {found : MonthSearch}
    (h : searchMonths earlier later tries n = .ok found) :
    found.tries = tries + (triedMonths earlier later n).length := by
  induction n generalizing tries with
  | zero =>
    cases h
    rfl
  | succ n ih =>
    rw [searchMonths] at h
    rw [triedMonths]
    split_ifs at h with hmax hreach
    · cases h
      rw [if_pos (Or.inr hreach), List.length_singleton]
    · rw [if_neg (not_or.mpr ⟨hmax, hreach⟩), List.length_cons, ih h]
      omega

/-- The numbers that are tried are positive, and none is above that at which the search starts. -/
lemma bounds_of_mem_triedMonths {earlier later : Reading} {m n : Nat}
    (h : m ∈ triedMonths earlier later n) : 0 < m ∧ m ≤ n := by
  induction n with
  | zero => simp [triedMonths] at h
  | succ n ih =>
    rw [triedMonths] at h
    split_ifs at h
    · obtain rfl := List.mem_singleton.mp h
      exact ⟨Nat.succ_pos n, le_rfl⟩
    · rcases List.mem_cons.mp h with rfl | h
      · exact ⟨Nat.succ_pos n, le_rfl⟩
      · exact ⟨(ih h).1, (ih h).2.trans (Nat.le_succ n)⟩

/-! ## Moves to the month of the other reading -/

section Months

open Reading

variable {earlier later : Reading} (he : earlier.InRange) (hl : later.InRange)

include he hl

/-- No two months of the calendar are too many apart for a move. -/
lemma monthsTo_le_maxMonths : earlier.monthsTo later ≤ maxMonths := by
  have hbe := monthIndex_bounds he
  have hbl := monthIndex_bounds hl
  simp only [monthsTo, maxMonths]
  omega

/-- A move that does not go beyond the month of the other reading stays in the calendar.

**Proof sketch.** It does not land earlier than it starts, and the calendar ends with a month. -/
lemma exists_addMonths? {count : Nat} (h : count ≤ earlier.monthsTo later) :
    ∃ moved, earlier.addMonths? count = some moved := by
  have hstart := earlier.day_le_landing count
  have hland := (earlier.landing_bounds count).2
  have hend := monthStart_end
  have hmonth := (monthIndex_bounds hl).2
  have hmonths := monthStart_add_monthDays_le
    (show earlier.monthIndex + count < 3145716 by simp only [monthsTo] at h; omega)
  refine ⟨earlier.onDay (earlier.landing count), ?_⟩
  rw [addMonths?_eq, check_eq_some_iff, inRange_onDay]
  refine ⟨⟨he.1.trans hstart, ?_⟩, rfl⟩
  omega

/-- A move to a month before that of the other reading reaches. -/
lemma reaches_of_lt {count : Nat} (h : count < earlier.monthsTo later) :
    earlier.Reaches later count := by
  have hland := (earlier.landing_bounds count).2
  have hmonths := monthStart_add_monthDays_le
    (show earlier.monthIndex + count < later.monthIndex by simp only [monthsTo] at h; omega)
  have hday := later.day_eq.2.2
  rw [reaches_iff he hl]
  exact earlier.onDay_le_of_lt (by omega)

/-- A move that does not go beyond the month of the other reading reaches or passes it. -/
lemma passes_iff_not_reaches {count : Nat} (h : count ≤ earlier.monthsTo later) :
    earlier.Passes later count ↔ ¬ earlier.Reaches later count := by
  obtain ⟨moved, hmoved⟩ := exists_addMonths? he hl h
  simp only [Passes, Reaches, hmoved, Option.some.injEq, exists_eq_left', lt_iff_not_le]

/-! ## The search -/

/-- What a search finds that starts at the number by which the months are apart, or at 0 if that is
negative, and after how many tries.

**Proof sketch.** If the first number passes, then the next one reaches, since it leads to a month
before that of the later reading. -/
lemma searchMonths_monthsTo {n : Nat} (hn : n = max (earlier.monthsTo later) 0) :
    ∃ found, searchMonths earlier later 0 n = .ok found ∧ found.tries ≤ 2 ∧
      ((found.months = n ∧ ¬ (0 < n ∧ earlier.Passes later n)) ∨
        (found.months + 1 = n ∧ earlier.Passes later n)) := by
  have hmax := monthsTo_le_maxMonths he hl
  cases n with
  | zero => exact ⟨⟨0, 0⟩, rfl, by decide, Or.inl ⟨rfl, fun h => absurd h.1 (by decide)⟩⟩
  | succ n =>
    have hstart : (n + 1 : Nat) ≤ earlier.monthsTo later := by omega
    have hpasses := passes_iff_not_reaches he hl hstart
    by_cases hreach : earlier.Reaches later (n + 1)
    · refine ⟨_, searchMonths_of_reaches (by omega) hreach 0, by simp, Or.inl ⟨rfl, ?_⟩⟩
      exact fun h => hpasses.mp h.2 hreach
    · rw [searchMonths_of_not_reaches (by omega) hreach]
      cases n with
      | zero => exact ⟨⟨0, 1⟩, rfl, by decide, Or.inr ⟨rfl, hpasses.mpr hreach⟩⟩
      | succ n =>
        have hnext : earlier.Reaches later (n + 1) := reaches_of_lt he hl (by omega)
        exact ⟨_, searchMonths_of_reaches (by omega) hnext 1, le_rfl,
          Or.inr ⟨rfl, hpasses.mpr hreach⟩⟩

end Months

/-- The search for the months between two readings of the calendar, in whatever order, ends well.
It tries two numbers at most, and a move by any of them stays in the calendar. It finds the number
by which the months of the readings are apart, or 0 if that is negative; and one less exactly if
that number is positive and a move by it passes the later reading. -/
theorem monthsBetween_tries {earlier later : Reading} (he : earlier.InRange) (hl : later.InRange) :
    ∃ found, monthsBetween earlier later = .ok found ∧ found.tries ≤ 2 ∧
      found.tries = (triedMonths earlier later (earlier.monthsTo later).toNat).length ∧
      (∀ n ∈ triedMonths earlier later (earlier.monthsTo later).toNat,
        n ≤ maxMonths ∧ ∃ moved, earlier.addMonths? n = some moved) ∧
      ((found.months = max (earlier.monthsTo later) 0 ∧
          ¬ (0 < earlier.monthsTo later ∧ earlier.Passes later (earlier.monthsTo later))) ∨
        (found.months = earlier.monthsTo later - 1 ∧
          0 < earlier.monthsTo later ∧ earlier.Passes later (earlier.monthsTo later))) := by
  have hstart : ((earlier.monthsTo later).toNat : Int) = max (earlier.monthsTo later) 0 := by omega
  have hnat (hpos : 0 < earlier.monthsTo later) :
      ((earlier.monthsTo later).toNat : Int) = earlier.monthsTo later :=
    Int.toNat_of_nonneg hpos.le
  have hmax := monthsTo_le_maxMonths he hl
  obtain ⟨found, hfound, htries, hmonths⟩ := searchMonths_monthsTo he hl hstart
  have hcount := tries_of_searchMonths hfound
  rw [Nat.zero_add] at hcount
  refine ⟨found, hfound, htries, hcount, ?_, ?_⟩
  · intro n hn
    obtain ⟨hpos, hle⟩ := bounds_of_mem_triedMonths hn
    exact ⟨by omega, exists_addMonths? he hl (by omega)⟩
  · rcases hmonths with ⟨hall, hfits⟩ | ⟨hless, hpasses⟩
    · refine Or.inl ⟨by omega, ?_⟩
      rintro ⟨hpos, hpasses⟩
      exact hfits ⟨by omega, hnat hpos ▸ hpasses⟩
    · have hpos : 0 < earlier.monthsTo later := by omega
      exact Or.inr ⟨by omega, hpos, hnat hpos ▸ hpasses⟩

/-- From noon on January 31 of the first year of the calendar to a second before noon on November 30
of the last one, the move by all 6291430 months is cut down to the last day of November and passes.
One month less is found, as the second number that is tried. -/
theorem monthsBetween_tries_centuries :
    ∃ earlier later : Reading, earlier = .ofDay (firstDay + 30) 43200 ∧
      later = .ofDay (lastDay - 31) 43199 ∧ earlier.InRange ∧ later.InRange ∧
      earlier.addMonths? 6291430 = some (.ofDay (lastDay - 31) 43200) ∧
      triedMonths earlier later 6291430 = [6291430, 6291429] ∧
      monthsBetween earlier later = .ok ⟨6291429, 2⟩ := by
  refine ⟨_, _, rfl, rfl, ?_⟩
  have he : (Reading.ofDay (firstDay + 30) 43200).InRange := by decide +kernel
  have hl : (Reading.ofDay (lastDay - 31) 43199).InRange := by decide +kernel
  have hmove : (Reading.ofDay (firstDay + 30) 43200).addMonths? 6291430 =
      some (.ofDay (lastDay - 31) 43200) := by
    decide +kernel
  have hapart : (Reading.ofDay (firstDay + 30) 43200).monthsTo (.ofDay (lastDay - 31) 43199) =
      6291430 := by
    decide +kernel
  have htried : triedMonths (.ofDay (firstDay + 30) 43200) (.ofDay (lastDay - 31) 43199) 6291430 =
      [6291430, 6291429] := by
    decide +kernel
  have hpasses : (Reading.ofDay (firstDay + 30) 43200).Passes (.ofDay (lastDay - 31) 43199)
      6291430 :=
    ⟨_, hmove, by decide +kernel⟩
  obtain ⟨⟨months, tries⟩, hfound, -, hcount, -, hmonths⟩ := monthsBetween_tries he hl
  rw [hapart] at hcount hmonths
  obtain rfl : tries = 2 := hcount.trans (congrArg List.length htried)
  obtain rfl : months = 6291429 := by
    rcases hmonths with ⟨-, hfits⟩ | ⟨hless, -⟩
    · exact absurd ⟨by decide, hpasses⟩ hfits
    · simp only at hless
      omega
  exact ⟨he, hl, hmove, htried, hfound⟩

end Almanac

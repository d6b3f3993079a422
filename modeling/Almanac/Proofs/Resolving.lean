import Almanac.Proofs.FirstMoments
import Almanac.Proofs.Shown

set_option relaxedAutoImplicit false
set_option autoImplicit false

/-!
# What a reading is resolved to

A reading is resolved to the first moment at which the clock of a zone shows it, and if the clock
never shows it, to the first moment of the reading one hour later. A moment is looked for in all
periods of the zone, and only the one that is found is held against the calendar. This comes to
looking for it in the calendar alone if no clock is set back over the beginning of the calendar.

## Main definitions

* `Almanac.Zone.RegularThroughout` — the zones that are regular from the beginning of the calendar.
* `Almanac.Zone.momentsOf` — the moments of the calendar at which a clock shows a reading.

## Main results

* `Almanac.Zone.firstShowing?_eq_some_iff`, `Almanac.Zone.firstShowing?_eq_none_iff` — the moment
  that is found for a reading is the first one, and there is none if none is found.
* `Almanac.Zone.resolve_isLeast` — what a reading is resolved to.
* `Almanac.Zone.regularThroughout_of_ofName` — the zones with a name are regular throughout.
-/

namespace Almanac

/-- The second with which the calendar begins. -/
def firstSecond : Int := firstDay * 86400

namespace Zone

/-- A zone is regular, and its first transition is as far from the beginning of the calendar as
transitions are from each other: the beginning counts as a transition that changes nothing. -/
def RegularThroughout (z : Zone) : Prop :=
  Spaced z.initial (⟨firstSecond, z.initial⟩ :: z.transitions)

instance (z : Zone) : Decidable z.RegularThroughout :=
  inferInstanceAs (Decidable (Spaced _ _))

/-- The moments of the calendar at which the clock of a zone shows a reading. -/
def momentsOf (z : Zone) (r : Reading) : Set Reading :=
  {utc | utc.InRange ∧ z.reading (z.express utc) = r}

/-! ## Periods that are found -/

/-- In the period of a second, or in an earlier one, an offset is found for what is shown at it.

**Proof sketch.** Induction on the transitions: the second lies before the next one, or in a later
period. -/
lemma exists_offsetReadingFrom {offset second : Int} {since : Option Int} {ts : List Transition}
    (hsince : ∀ s ∈ since, s ≤ second) :
    ∃ found, offsetReadingFrom (second + offsetFrom second offset ts) since offset ts =
      some found := by
  induction ts generalizing since offset with
  | nil =>
    have hall : since.all (· ≤ second + offset - offset) = true := by
      rw [Int.add_sub_cancel]
      exact all_le_iff.mpr hsince
    exact ⟨offset, by rw [offsetFrom, offsetReadingFrom, if_pos hall]⟩
  | cons t later ih =>
    by_cases ht : t.second ≤ second
    · rw [offsetFrom, if_pos ht, offsetReadingFrom]
      split
      · exact ⟨_, rfl⟩
      · refine ih ?_
        rintro s ⟨⟩
        exact ht
    · have hin : since.all (· ≤ second + offset - offset) = true ∧
          second + offset - offset < t.second := by
        rw [Int.add_sub_cancel]
        exact ⟨all_le_iff.mpr hsince, by omega⟩
      exact ⟨offset, by rw [offsetFrom, if_neg ht, offsetReadingFrom, if_pos hin]⟩

/-- For a second that is not shown before a period begins it does not matter whether that period has
a beginning at all. -/
lemma offsetReadingFrom_none {wall offset since : Int} (h : since + offset ≤ wall)
    (ts : List Transition) :
    offsetReadingFrom wall none offset ts = offsetReadingFrom wall (some since) offset ts := by
  have hle : since ≤ wall - offset := by omega
  cases ts with
  | nil => simp [offsetReadingFrom, hle]
  | cons t later => simp [offsetReadingFrom, hle]

section RegularThroughout

variable {z : Zone} {r : Reading} {i : Instant}

/-- A zone that is regular throughout is regular. -/
lemma RegularThroughout.regular (hz : z.RegularThroughout) : z.Regular := Spaced.tail hz

/-- A second at which the calendar has begun shows nothing for which an earlier second would be
found.

**Proof sketch.** The first period may as well begin with the calendar: what the clock shows before
that it shows at no second after it, since the period outlasts the change at its end. -/
lemma firstSecond_le_of_offsetReading? (hz : z.RegularThroughout) {second found : Int}
    (hsecond : firstSecond ≤ second)
    (h : z.offsetReading? (second + z.offsetAt second) = some found) :
    firstSecond ≤ second + z.offsetAt second - found := by
  have hlasts : Outlasts (some firstSecond) z.initial z.transitions := Spaced.outlasts hz
  have hbegun : ∀ s ∈ some firstSecond, s ≤ second := by
    rintro s ⟨⟩
    exact hsecond
  have hshown : firstSecond + z.initial ≤ second + z.offsetAt second := by
    obtain ⟨other, hother⟩ : ∃ other, offsetReadingFrom (second + z.offsetAt second)
        (some firstSecond) z.initial z.transitions = some other :=
      exists_offsetReadingFrom hbegun
    by_contra hlt
    rw [offsetReadingFrom_eq_none hz.regular hlasts (by omega)] at hother
    cases hother
  have horder : ∀ s ∈ some firstSecond, ∀ t ∈ z.transitions.head?, s ≤ t.second := by
    intro s hs t ht
    have := hlasts s hs t ht
    omega
  rw [offsetReading?, offsetReadingFrom_none hshown] at h
  exact (offsetFrom_of_offsetReadingFrom hz.regular horder h).2 firstSecond rfl

/-- A reading that comes neither before the calendar nor after one of its readings is in it. -/
lemma inRange_of_secs_le {a b : Reading} (hb : b.InRange) (hfirst : firstSecond ≤ a.secs)
    (hle : a.secs ≤ b.secs) : a.InRange := by
  simp only [Reading.InRange, InCalendar, Reading.day, firstSecond] at *
  omega

/-! ## The moment that is found -/

/-- The moment that is found for a reading is the first one at which the clock shows it. -/
lemma isLeast_of_firstShowing? (hz : z.Regular) (h : z.firstShowing? r = some i) :
    z.Shows i ∧ IsLeast (z.momentsOf r) i.utc := by
  obtain ⟨hreading, hexpress⟩ := reading_of_firstShowing? hz h
  refine ⟨hexpress, ⟨?_, ?_⟩, ?_⟩
  · simp only [firstShowing?, Option.bind_eq_bind, Option.bind_eq_some_iff, pure,
      Reading.check_eq_some_iff, Option.some.injEq] at h
    obtain ⟨offset, -, utc, ⟨hrange, rfl⟩, rfl⟩ := h
    exact hrange
  · rwa [hexpress]
  · rintro utc ⟨-, rfl⟩
    exact utc_le_of_firstShowing? hz h (Or.inr ⟨rfl, le_rfl⟩)

/-- A moment is found for a reading that the clock shows. -/
lemma exists_firstShowing? (hz : z.RegularThroughout) (h : (z.momentsOf r).Nonempty) :
    ∃ i, z.firstShowing? r = some i := by
  obtain ⟨utc, hrange, rfl⟩ := h
  have hsecs : (z.reading (z.express utc)).secs = utc.secs + z.offsetAt utc.secs := rfl
  obtain ⟨found, hfound⟩ : ∃ found, z.offsetReading? (utc.secs + z.offsetAt utc.secs) =
      some found :=
    exists_offsetReadingFrom (by rintro s ⟨⟩)
  have hfirst : firstSecond ≤ utc.secs := by
    have hday := hrange.1
    simp only [Reading.day, firstSecond] at hday ⊢
    omega
  have hge := firstSecond_le_of_offsetReading? hz hfirst hfound
  have hle : utc.secs + z.offsetAt utc.secs - found ≤ utc.secs :=
    sub_le_of_offsetReadingFrom hz.regular (by rintro s ⟨⟩) (by rintro s ⟨⟩) le_rfl hfound
  have hmoment : ((z.reading (z.express utc)).shift (-found)).InRange := by
    refine inRange_of_secs_le hrange ?_ ?_
    · show firstSecond ≤ utc.secs + z.offsetAt utc.secs + -found
      omega
    · show utc.secs + z.offsetAt utc.secs + -found ≤ utc.secs
      omega
  refine ⟨⟨(z.reading (z.express utc)).shift (-found), found⟩, ?_⟩
  rw [firstShowing?, hsecs, hfound]
  simp only [Option.bind_eq_bind, Option.bind_some, Reading.check, if_pos hmoment]
  rfl

/-- No two readings come first. -/
lemma eq_of_isLeast {s : Set Reading} {a b : Reading} (ha : IsLeast s a) (hb : IsLeast s b) :
    a = b :=
  Reading.le_antisymm (ha.2 hb.1) (hb.2 ha.1)

/-- The moment that is found for a reading is the first one at which the clock shows it, on the
clock of the zone. -/
theorem firstShowing?_eq_some_iff (hz : z.RegularThroughout) :
    z.firstShowing? r = some i ↔ z.Shows i ∧ IsLeast (z.momentsOf r) i.utc := by
  refine ⟨isLeast_of_firstShowing? hz.regular, ?_⟩
  rintro ⟨hshown, hleast⟩
  obtain ⟨j, hj⟩ := exists_firstShowing? hz ⟨_, hleast.1⟩
  obtain ⟨hshown', hleast'⟩ := isLeast_of_firstShowing? hz.regular hj
  have hutc := eq_of_isLeast hleast hleast'
  rw [hj, ← show z.express i.utc = i from hshown, ← show z.express j.utc = j from hshown', hutc]

/-- No moment is found for a reading that the clock never shows. -/
theorem firstShowing?_eq_none_iff (hz : z.RegularThroughout) :
    z.firstShowing? r = none ↔ z.momentsOf r = ∅ := by
  constructor
  · intro h
    by_contra hne
    obtain ⟨i, hi⟩ := exists_firstShowing? hz (Set.nonempty_iff_ne_empty.mpr hne)
    rw [h] at hi
    cases hi
  · intro h
    by_contra hne
    obtain ⟨i, hi⟩ := Option.ne_none_iff_exists'.mp hne
    have hmem := (isLeast_of_firstShowing? hz.regular hi).2.1
    rw [h] at hmem
    exact hmem

/-! ## Resolving -/

/-- A reading for which a moment is found is resolved to it. -/
lemma resolve_of_firstShowing? (h : z.firstShowing? r = some i) : z.resolve r = .ok i := by
  rw [resolve, h]
  rfl

/-- A reading that the clock shows is resolved to the first moment at which it does. -/
lemma exists_resolve_of_nonempty (hz : z.RegularThroughout) (h : (z.momentsOf r).Nonempty) :
    ∃ i, z.resolve r = .ok i ∧ z.Shows i ∧ IsLeast (z.momentsOf r) i.utc := by
  obtain ⟨i, hi⟩ := exists_firstShowing? hz h
  obtain ⟨hshown, hleast⟩ := isLeast_of_firstShowing? hz.regular hi
  exact ⟨i, resolve_of_firstShowing? hi, hshown, hleast⟩

end RegularThroughout

/-- The listed zones are regular throughout the calendar. -/
lemma regularThroughout_of_mem_named : ∀ z ∈ named, z.RegularThroughout := by
  decide +kernel

/-- The zones with a name are regular throughout the calendar. -/
theorem regularThroughout_of_ofName {name : String} {z : Zone} (h : ofName name = .ok z) :
    z.RegularThroughout := by
  rw [ofName] at h
  split at h
  · cases h
    decide
  · split at h
    · next found hfound =>
      cases h
      exact regularThroughout_of_mem_named _ (List.mem_of_find?_eq_some hfound)
    · cases h

end Zone

end Almanac

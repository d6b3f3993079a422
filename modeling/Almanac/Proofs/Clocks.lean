import Almanac.Proofs.Readings
import Almanac.Zone.Named

set_option relaxedAutoImplicit false
set_option autoImplicit false

/-!
# Clocks that are set forward and back

When the transitions of a zone are farther apart than the changes they make, its clocks can go
over a stretch of time once more, but never lose more than one change. So a clock that is a day
ahead of itself is so at a later moment; and the period in which a clock shows a reading is the
one in which the moment lies that is found for it.

## Main definitions

* `Almanac.Zone.Regular` — the zones whose transitions are farther apart than their changes.
* `Almanac.Zone.changes` — the changes of the offset.

## Main results

* `Almanac.Zone.secs_reading_lt` — no clock loses a day if no change is longer than one.
* `Almanac.Zone.reading_of_firstShowing?` — a moment found for a reading is one at which the clock
  shows it.
* `Almanac.Zone.regular_of_ofName` — the zones with a name are regular.
-/

namespace Almanac

namespace Zone

/-! ## Regular zones -/

/-- Each transition is later than the one before it, by more than the change of the offset at
either of them. The offset before the first one is given. -/
def Spaced (offset : Int) : List Transition → Prop
  | [] => True
  | [_] => True
  | t :: u :: later =>
    (t.offset - offset).natAbs < u.second - t.second ∧
      (u.offset - t.offset).natAbs < u.second - t.second ∧ Spaced t.offset (u :: later)

instance decidableSpaced : (offset : Int) → (ts : List Transition) → Decidable (Spaced offset ts)
  | _, [] => isTrue trivial
  | _, [_] => isTrue trivial
  | _, t :: u :: later =>
    have := decidableSpaced t.offset (u :: later)
    inferInstanceAs (Decidable (_ ∧ _ ∧ _))

/-- The transitions of a zone are in the order of time, and farther apart than the changes of the
offset at them. -/
def Regular (z : Zone) : Prop := Spaced z.initial z.transitions

instance (z : Zone) : Decidable z.Regular :=
  inferInstanceAs (Decidable (Spaced _ _))

/-- The changes of the offset at transitions, given the offset before them. -/
def changesFrom (offset : Int) : List Transition → List Int
  | [] => []
  | t :: later => (t.offset - offset) :: changesFrom t.offset later

/-- The changes of the offset of a zone. -/
def changes (z : Zone) : List Int := changesFrom z.initial z.transitions

/-- The transitions after the first one of a regular zone. -/
lemma Spaced.tail {offset : Int} {t : Transition} {later : List Transition}
    (h : Spaced offset (t :: later)) : Spaced t.offset later := by
  cases later with
  | nil => trivial
  | cons u rest => exact h.2.2

/-! ## Losing time -/

/-- From a transition on a clock loses no more than the longest change, against the clock that was
not set at it.

**Proof sketch.** Induction on the transitions: until the next one a clock has made up for the
change at this one, since they are farther apart. -/
lemma offsetFrom_loss {bound offset second : Int} {t : Transition} {later : List Transition}
    (hs : Spaced offset (t :: later)) (hc : ∀ c ∈ changesFrom offset (t :: later), -bound ≤ c)
    (h : t.second ≤ second) :
    t.second + offset - bound ≤ second + offsetFrom second t.offset later := by
  induction later generalizing offset t with
  | nil =>
    have := hc (t.offset - offset) (by simp [changesFrom])
    simp only [offsetFrom]
    omega
  | cons u rest ih =>
    have hchange := hc (t.offset - offset) (by simp [changesFrom])
    obtain ⟨hgap, -, htail⟩ := hs
    simp only [offsetFrom]
    split
    · next hu =>
      have hrest : ∀ c ∈ changesFrom t.offset (u :: rest), -bound ≤ c :=
        fun c hmem => hc c (List.mem_cons_of_mem _ hmem)
      have := ih htail hrest hu
      omega
    · omega

/-- A clock never loses as much as the longest change between two moments.

**Proof sketch.** Induction on the transitions: those before both moments do not matter, and
neither do those after both. -/
lemma offsetFrom_lt {bound offset s t : Int} {ts : List Transition} (hs : Spaced offset ts)
    (hpos : 0 < bound) (hc : ∀ c ∈ changesFrom offset ts, -bound ≤ c) (h : s ≤ t) :
    s + offsetFrom s offset ts < t + offsetFrom t offset ts + bound := by
  induction ts generalizing offset with
  | nil =>
    simp only [offsetFrom]
    omega
  | cons a later ih =>
    simp only [offsetFrom]
    by_cases hsa : a.second ≤ s
    · rw [if_pos hsa, if_pos (by omega)]
      exact ih hs.tail (fun c hmem => hc c (List.mem_cons_of_mem _ hmem))
    · rw [if_neg hsa]
      by_cases hta : a.second ≤ t
      · rw [if_pos hta]
        have := offsetFrom_loss hs hc hta
        omega
      · rw [if_neg hta]
        omega

/-- No clock of a regular zone loses a day between two moments, if no change of it is longer. -/
theorem secs_reading_lt {z : Zone} (hz : z.Regular) (hc : ∀ c ∈ z.changes, c.natAbs ≤ 86400)
    {a b : Instant} (h : a.utc.secs ≤ b.utc.secs) :
    (z.reading a).secs < (z.reading b).secs + 86400 := by
  refine offsetFrom_lt hz (by decide) ?_ h
  intro c hmem
  have := hc c hmem
  omega

/-! ## The moment of a reading -/

/-- A period that has begun by a second. -/
lemma all_le_iff {since : Option Int} {second : Int} :
    since.all (· ≤ second) = true ↔ ∀ s ∈ since, s ≤ second := by
  cases since <;> simp

/-- The offset of the period that is found for a reading holds at the moment of the reading.

**Proof sketch.** Induction on the transitions. In the first period the moment comes before the
transition; otherwise it comes after it, since the periods found later begin later. -/
lemma offsetFrom_of_offsetReadingFrom {wall offset found : Int} {since : Option Int}
    {ts : List Transition} (hs : Spaced offset ts)
    (hsince : ∀ s ∈ since, ∀ t ∈ ts.head?, s ≤ t.second)
    (h : offsetReadingFrom wall since offset ts = some found) :
    offsetFrom (wall - found) offset ts = found ∧ ∀ s ∈ since, s ≤ wall - found := by
  induction ts generalizing since offset with
  | nil =>
    simp only [offsetReadingFrom] at h
    split at h
    · next hall =>
      cases h
      exact ⟨rfl, all_le_iff.mp hall⟩
    · cases h
  | cons t later ih =>
    simp only [offsetReadingFrom] at h
    split at h
    · next hin =>
      cases h
      refine ⟨?_, all_le_iff.mp hin.1⟩
      rw [offsetFrom, if_neg (by omega)]
    · have hnext : ∀ s ∈ some t.second, ∀ u ∈ later.head?, s ≤ u.second := by
        rintro s ⟨⟩ u hu
        cases later with
        | nil => cases hu
        | cons v rest =>
          cases hu
          have := hs.1
          omega
      obtain ⟨hoffset, hafter⟩ := ih hs.tail hnext h
      have ht := hafter t.second rfl
      refine ⟨?_, ?_⟩
      · rw [offsetFrom, if_pos ht, hoffset]
      · intro s hmem
        have := hsince s hmem t rfl
        omega

/-- A moment that is found for a reading is one at which the clock shows it. -/
theorem reading_of_firstShowing? {z : Zone} (hz : z.Regular) {r : Reading} {i : Instant}
    (h : z.firstShowing? r = some i) : z.reading i = r ∧ z.express i.utc = i := by
  simp only [firstShowing?, Option.bind_eq_bind, Option.bind_eq_some_iff, pure,
    Reading.check_eq_some_iff, Option.some.injEq] at h
  obtain ⟨offset, hoffset, utc, ⟨-, rfl⟩, rfl⟩ := h
  have hfound : z.offsetAt (r.shift (-offset)).secs = offset :=
    (offsetFrom_of_offsetReadingFrom hz (by simp) hoffset).1
  have hexpress : z.express (r.shift (-offset)) = ⟨r.shift (-offset), offset⟩ := by
    rw [express, hfound]
  refine ⟨?_, hexpress⟩
  rw [reading, hexpress]
  exact r.shift_shift_neg offset

/-- An instant that a reading is resolved to is one at which the clock shows the reading, or shows
one hour later if it skips the reading. -/
theorem reading_of_resolve {z : Zone} (hz : z.Regular) {r : Reading} {i : Instant}
    (h : z.resolve r = .ok i) :
    z.reading i = r ∨ (z.reading i = r.elapse gapMillis ∧ (r.elapse gapMillis).InRange) := by
  simp only [resolve] at h
  split at h
  · next found hfound =>
    cases h
    rcases Option.or_eq_some_iff.mp hfound with hshown | ⟨-, hskipped⟩
    · exact Or.inl (reading_of_firstShowing? hz hshown).1
    · obtain ⟨s, hs, hshown⟩ := Option.bind_eq_some_iff.mp hskipped
      obtain ⟨hrange, rfl⟩ := Reading.check_eq_some_iff.mp hs
      exact Or.inr ⟨(reading_of_firstShowing? hz hshown).1, hrange⟩
  · cases h

/-! ## The zones with a name -/

/-- The listed zones are regular, and no change of them is longer than a day. -/
lemma regular_of_mem_named :
    ∀ z ∈ named, z.Regular ∧ ∀ c ∈ z.changes, c.natAbs ≤ 86400 := by
  decide +kernel

/-- The zones with a name are regular, and no change of them is longer than a day. -/
theorem regular_of_ofName {name : String} {z : Zone} (h : ofName name = .ok z) :
    z.Regular ∧ ∀ c ∈ z.changes, c.natAbs ≤ 86400 := by
  rw [ofName] at h
  split at h
  · cases h
    decide
  · split at h
    · next found hfound =>
      cases h
      exact regular_of_mem_named _ (List.mem_of_find?_eq_some hfound)
    · cases h

end Zone

end Almanac

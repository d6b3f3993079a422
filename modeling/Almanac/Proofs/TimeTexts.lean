import Almanac.Proofs.Numerals
import Almanac.Proofs.Stamps
import Almanac.Proofs.WallMoves

set_option relaxedAutoImplicit false
set_option autoImplicit false

/-!
# Times of day in digits

The two shapes in which times of day are written: hour and minute, or hour, minute and second with
perhaps a fraction of it. A clock shows the fields of a text only if there is such a time, and then
the reading at that time. The digits of a fraction are nanoseconds, and those after the ninth are
cut off.

## Main definitions

* `Almanac.TimeText`, `Almanac.TimeText.chars` — times of day in digits.
* `Almanac.Reading.IsAt` — the time of day of a reading.
* `Almanac.TimeText.Denotes` — the time of day that a text denotes.

## Main results

* `Almanac.DateText.clockTime?_eq_some_iff` — the fields of a time of day.
* `Almanac.DateText.nanosOf_numeral` — a fraction of a second, cut to nine digits.
* `Almanac.TimeText.reader_shape`, `Almanac.TimeText.reader_of_ne` — the reader of its own shape
  takes a text to the end, the other one does not.
-/

namespace Almanac

open DateText Reader

/-! ## Texts -/

/-- The shapes in which times of day are written. -/
inductive TimeShape
  | minute
  | second
  deriving DecidableEq, Repr

/-- The reader of a shape. -/
def TimeShape.reader : TimeShape → Reader Reading
  | minute => hourMinute
  | second => hourMinuteSecond

/-- A time of day in digits. -/
inductive TimeText
  /-- As in `09:30`. -/
  | minute (hour minute : Numeral 2)
  /-- As in `09:30:15` or, with places, in `09:30:15.25`. -/
  | second {places : Nat} (hour minute second : Numeral 2) (fraction : Numeral places)

/-- A point and the digits of a fraction, or nothing if there are no digits. -/
def fractionText {places : Nat} (fraction : Numeral places) : List Char :=
  if places = 0 then [] else '.' :: fraction.chars

/-- The nanoseconds of a fraction of a second, cut to whole ones. -/
def fractionNanos {places : Nat} (fraction : Numeral places) : Nat :=
  fraction.value * 10 ^ 9 / 10 ^ places

/-- A reading is at a time of day, in a leap second if the second is the sixty-first. -/
def Reading.IsAt (r : Reading) (hour minute second nanos : Nat) : Prop :=
  r.hour = hour ∧ r.minute = minute ∧ r.second = second ∧ r.nanosecond = nanos ∧
    (r.IsLeap ↔ second = 60)

namespace TimeText

/-- The text itself. -/
def chars : TimeText → List Char
  | minute h m => h.chars ++ ':' :: m.chars
  | second h m s f => h.chars ++ ':' :: (m.chars ++ ':' :: (s.chars ++ fractionText f))

/-- The shape of a text. -/
def shape : TimeText → TimeShape
  | minute _ _ => .minute
  | second _ _ _ _ => .second

/-- A text denotes the time of day of a reading. -/
def Denotes (t : TimeText) (r : Reading) : Prop :=
  match t with
  | minute h m => r.IsAt h.value m.value 0 0
  | second h m s f => r.IsAt h.value m.value s.value (fractionNanos f)

/-- The time of day with the fields of a text, if there is one. -/
def time? : TimeText → Option Reading
  | minute h m => clockTime? h.value m.value 0 0
  | second h m s f => clockTime? h.value m.value s.value (fractionNanos f)

end TimeText

/-! ## Times of day by their fields -/

namespace DateText

/-- A clock shows a time of day if the fields are those of that time. -/
theorem clockTime?_eq_some_iff {hour minute second nanos : Nat} {t : Reading} :
    clockTime? hour minute second nanos = some t ↔
      t.day = 0 ∧ t.IsAt hour minute second nanos := by
  constructor
  · intro h
    unfold clockTime? at h
    split_ifs at h with hfields hsixty
    · cases h
      have hleap : 1000000000 ≤ nanos + 1000000000 := by omega
      simp only [Reading.day, Reading.IsAt, Reading.hour, Reading.minute, Reading.second,
        Reading.nanosecond, Reading.IsLeap, Reading.secondOfDay, hleap, if_true, true_iff]
      omega
    · cases h
      have hleap : ¬ 1000000000 ≤ nanos := by omega
      simp only [Reading.day, Reading.IsAt, Reading.hour, Reading.minute, Reading.second,
        Reading.nanosecond, Reading.IsLeap, Reading.secondOfDay, hleap, if_false, false_iff]
      omega
  · rintro ⟨hday, rfl, rfl, rfl, rfl, hiff⟩
    by_cases hleap : t.IsLeap
    · have hsixty := hiff.mp hleap
      have hlast : t.secondOfDay % 60 = 59 := by
        rw [Reading.second, if_pos hleap] at hsixty
        omega
      have hofDay := t.secondOfDay_lt
      have hnanos := t.nanos_lt
      have hfields : t.hour < 24 ∧ t.minute < 60 ∧ t.second ≤ 60 ∧ t.nanosecond < 1000000000 := by
        rw [hsixty]
        unfold Reading.hour Reading.minute Reading.nanosecond
        omega
      obtain ⟨secs, nanos, hlt⟩ := t
      rw [clockTime?, dif_pos hfields]
      simp only [hsixty, if_true, Option.some.injEq, Reading.mk.injEq]
      simp only [Reading.day, Reading.hour, Reading.minute, Reading.nanosecond, Reading.IsLeap,
        Reading.secondOfDay] at *
      omega
    · rw [clockTime?_fields hleap, ← hday, Reading.onDay_day]

/-- On a day a clock shows the readings of that day at the time of day. -/
lemma exists_clockTime?_iff {hour minute second nanos : Nat} {day : Int} {r : Reading} :
    (∃ t, clockTime? hour minute second nanos = some t ∧ t.onDay day = r) ↔
      r.day = day ∧ r.IsAt hour minute second nanos := by
  have honDay : ∀ (t : Reading) (day : Int),
      (t.onDay day).IsAt hour minute second nanos ↔ t.IsAt hour minute second nanos := by
    intro t day
    have hofDay : (t.onDay day).secondOfDay = t.secondOfDay := by
      simp only [Reading.onDay, Reading.secondOfDay]
      omega
    simp only [Reading.IsAt, Reading.hour, Reading.minute, Reading.second, Reading.nanosecond,
      Reading.isLeap_onDay, hofDay]
    rfl
  constructor
  · rintro ⟨t, ht, rfl⟩
    exact ⟨Reading.day_onDay t day, (honDay t day).mpr (clockTime?_eq_some_iff.mp ht).2⟩
  · rintro ⟨rfl, hat⟩
    refine ⟨r.onDay 0, clockTime?_eq_some_iff.mpr ⟨Reading.day_onDay r 0, ?_⟩, ?_⟩
    · exact (honDay r 0).mpr hat
    · rw [Reading.onDay_onDay, Reading.onDay_day]

/-! ## Fractions of a second -/

section Fractions

variable {places : Nat} (fraction : Numeral places)

/-- The digits of a fraction denote the nanoseconds that they make up to the ninth of them. -/
theorem nanosOf_numeral : nanosOf fraction.chars = fractionNanos fraction := by
  rw [nanosOf, fractionNanos]
  by_cases hnine : places ≤ 9
  · have hscale : (10 : Nat) ^ 9 = 10 ^ (9 - places) * 10 ^ places := by
      rw [← Nat.pow_add, Nat.sub_add_cancel hnine]
    rw [List.take_of_length_le (by rwa [fraction.length_chars]), List.rightpad,
      fraction.length_chars, Nat.ofDigitChars_append, Nat.ofDigitChars_replicate_zero, hscale,
      ← Nat.mul_assoc, Nat.mul_div_cancel _ (Nat.pow_pos (by decide)), Nat.mul_comm]
    rfl
  · have hle : 9 ≤ places := by omega
    have hscale : (10 : Nat) ^ places = 10 ^ (places - 9) * 10 ^ 9 := by
      rw [← Nat.pow_add, Nat.sub_add_cancel hle]
    rw [List.rightpad, List.length_take, fraction.length_chars, Nat.min_eq_left hle, Nat.sub_self,
      List.replicate_zero, List.append_nil, hscale,
      Nat.mul_div_mul_right _ _ (Nat.pow_pos (by decide)), ← fraction.value_take hle]
    rfl

/-- Two digits are hundredths. -/
example : fractionNanos (⟨['2', '5'], rfl, by simp⟩ : Numeral 2) = 250000000 := rfl

/-- A point and the digits of a fraction are read as its nanoseconds. -/
lemma fraction_fractionText :
    DateText.fraction (fractionText fraction) = some (fractionNanos fraction, []) := by
  rcases Nat.eq_zero_or_pos places with rfl | hpos
  · have hnone : fraction.chars = [] := List.eq_nil_of_length_eq_zero fraction.length_chars
    have hzero : fractionNanos fraction = 0 := by simp [fractionNanos, Numeral.value, hnone]
    rw [fractionText, if_pos rfl, hzero]
    rfl
  · have htake := List.takeWhile_eq_self_iff.mpr fraction.isDigit_chars
    have hdrop := List.dropWhile_eq_nil_iff.mpr fraction.isDigit_chars
    have hdigits : allDigits fraction.chars = some (fraction.chars, []) := by
      simp [allDigits, hpos, htake, hdrop]
    rw [fractionText, if_neg (by omega), DateText.fraction, hdigits, Option.map_some,
      ← nanosOf_numeral]

end Fractions

end DateText

/-! ## Readers of times of day -/

namespace TimeText

/-- The reader of its shape takes a text to the end. -/
lemma reader_shape (t : TimeText) :
    t.shape.reader t.chars = t.time?.map fun time => (time, []) := by
  cases t with
  | minute h m =>
    have hread : hourMinute (h.chars ++ ':' :: (m.chars ++ [])) =
        (clockTime? h.value m.value 0 0).map fun time => (time, []) := by
      simp [-List.append_nil, hourMinute]
    rwa [List.append_nil] at hread
  | second h m s f =>
    simp [shape, TimeShape.reader, hourMinuteSecond, chars, time?, fraction_fractionText]

/-- The reader of the other shape stops at a colon, if it reads something. -/
lemma reader_of_ne {t : TimeText} {s : TimeShape} (h : s ≠ t.shape) :
    ∀ p ∈ s.reader t.chars, ∃ rest, p.2 = ':' :: rest := by
  cases s with
  | minute =>
    cases t with
    | minute hour m => exact absurd rfl h
    | second hour m sec f =>
      have hread : hourMinute (second hour m sec f).chars =
          (clockTime? hour.value m.value 0 0).map
            fun time => (time, ':' :: (sec.chars ++ fractionText f)) := by
        simp [hourMinute, chars]
      rintro p hp
      obtain ⟨time, -, rfl⟩ := Option.map_eq_some_iff.mp (hread.symm.trans hp)
      exact ⟨_, rfl⟩
  | second =>
    cases t with
    | minute hour m =>
      have hread : hourMinuteSecond (hour.chars ++ ':' :: (m.chars ++ [])) = none := by
        simp [-List.append_nil, hourMinuteSecond]
      rw [List.append_nil] at hread
      rintro p hp
      cases hread.symm.trans hp
    | second hour m sec f => exact absurd rfl h

/-- A time of day begins with the digits of its hour. -/
lemma exists_chars_eq (t : TimeText) :
    ∃ (hour : Numeral 2) (rest : List Char), t.chars = hour.chars ++ ':' :: rest := by
  cases t with
  | minute h m => exact ⟨h, _, rfl⟩
  | second h m s f => exact ⟨h, _, rfl⟩

end TimeText

/-! ## Ends of texts -/

/-- A numeral at the end of a text ends it with a digit. -/
lemma Numeral.exists_append_eq_concat {width : Nat} (n : Numeral width) (hwidth : 0 < width)
    (before : List Char) : ∃ cs c, before ++ n.chars = cs ++ [c] ∧ c.isDigit = true := by
  obtain ⟨cs, c, hcs⟩ := List.eq_nil_or_concat' n.chars |>.resolve_left (n.chars_ne_nil hwidth)
  refine ⟨before ++ cs, c, by rw [hcs, List.append_assoc], n.isDigit_chars c (by simp [hcs])⟩

/-- A time of day ends with a digit. -/
lemma TimeText.exists_append_eq_concat (t : TimeText) (before : List Char) :
    ∃ cs c, before ++ t.chars = cs ++ [c] ∧ c.isDigit = true := by
  cases t with
  | minute h m =>
    obtain ⟨cs, c, hcs, hc⟩ := m.exists_append_eq_concat (by decide) (before ++ h.chars ++ [':'])
    exact ⟨cs, c, by simpa [chars] using hcs, hc⟩
  | @second places h m s f =>
    rcases Nat.eq_zero_or_pos places with rfl | hpos
    · obtain ⟨cs, c, hcs, hc⟩ := s.exists_append_eq_concat (by decide)
        (before ++ h.chars ++ [':'] ++ m.chars ++ [':'])
      exact ⟨cs, c, by simpa [chars, fractionText] using hcs, hc⟩
    · obtain ⟨cs, c, hcs, hc⟩ := f.exists_append_eq_concat hpos
        (before ++ h.chars ++ [':'] ++ m.chars ++ [':'] ++ s.chars ++ ['.'])
      exact ⟨cs, c, by simpa [chars, fractionText, Nat.ne_of_gt hpos] using hcs, hc⟩

end Almanac

import Almanac.Proofs.WallTexts
import Almanac.Proofs.Writing

set_option relaxedAutoImplicit false
set_option autoImplicit false

/-!
# Templates that are read back

What two templates show is read back as a date. The one with all fields down to the millisecond and
with the offset shows a stamp whose fraction of a second is written in three digits, zeros or not;
so it is read back as the instant, cut to the millisecond. The one with the year and the place in it
shows a day in digits, and is read back as the midnight of that day.

## Main definitions

* `Almanac.Instant.toMilli` — an instant cut to the millisecond.

## Main results

* `Almanac.Instant.render_millis` — the first template shows a stamp.
* `Almanac.Instant.render_ordinal` — the second one shows a day in digits.
* `Almanac.Zone.instantOf?_rendered` — what both show is read back.
-/

namespace Almanac

namespace Template

/-! ## Numbers in templates -/

/-- A number without a sign is filled up with zeros to its width. -/
@[simp] lemma Numeral.write_plain (width n : Nat) :
    (plain width n).write .zero = zeroPadded width n := rfl

/-- A year is written as it is in a date. -/
@[simp] lemma Numeral.write_year (y : Int) : (year y).write .zero = signedYear y := by
  unfold year signedYear
  split_ifs <;> rfl

end Template

namespace Instant

open Template

variable {x : Instant}

/-! ## Fields down to the millisecond -/

/-- An instant cut to the millisecond. -/
def toMilli (x : Instant) : Instant where
  utc := ⟨x.utc.secs, x.utc.nanos / 1000000 * 1000000, by have := x.utc.nanos_lt; omega⟩
  offset := x.offset

/-- Cutting an instant does not change its offset. -/
@[simp] lemma offset_toMilli (x : Instant) : x.toMilli.offset = x.offset := rfl

/-- Cutting an instant does not change its day. -/
@[simp] lemma day_toMilli (x : Instant) : x.toMilli.wall.day = x.wall.day := rfl

section Millis

variable (hleap : ¬ x.utc.IsLeap)

include hleap

/-- Outside leap seconds an instant stays so when it is cut. -/
lemma not_isLeap_toMilli : ¬ x.toMilli.utc.IsLeap := by
  simp only [Reading.IsLeap, toMilli] at *
  omega

/-- The milliseconds of an instant are those that are left when it is cut. -/
lemma nanosecond_toMilli :
    x.toMilli.wall.nanosecond = 10 ^ (9 - 3) * (x.wall.nanosecond / 1000000) := by
  simp only [Reading.IsLeap, wall, Reading.shift, Reading.nanosecond, toMilli] at *
  omega

/-- All fields down to the millisecond, and the offset, are the stamp of the instant that is cut,
with three digits for the fraction of the second. -/
theorem render_millis : x.render "YYYY-MM-DDTHH:mm:ss.SSSZ" =
    .ok (String.ofList (x.toMilli.stampWith
      ('.' :: zeroPadded 3 (x.wall.nanosecond / 1000000)) false)) := by
  have hpercent : '%' ∉ "YYYY-MM-DDTHH:mm:ss.SSSZ".toList := by decide
  have hpieces : pieces? "YYYY-MM-DDTHH:mm:ss.SSSZ".toList =
      some [.token ⟨"YYYY", .specifier "%Y"⟩, .literal ['-'], .token ⟨"MM", .specifier "%m"⟩,
        .literal ['-'], .token ⟨"DD", .specifier "%d"⟩, .literal ['T'],
        .token ⟨"HH", .specifier "%H"⟩, .literal [':'], .token ⟨"mm", .specifier "%M"⟩,
        .literal [':'], .token ⟨"ss", .specifier "%S"⟩, .literal ['.'],
        .token ⟨"SSS", .specifier "%3f"⟩, .token ⟨"Z", .specifier "%:z"⟩] := by
    decide +kernel
  have hnanos : x.wall.nanosecond < 10 ^ 9 := Nat.mod_lt _ (by decide)
  have htake : (zeroPadded 9 x.wall.nanosecond).take 3 =
      zeroPadded 3 (x.wall.nanosecond / 1000000) :=
    take_zeroPadded (by decide) (by decide) hnanos
  have htime : x.toMilli.wall.timeChars = x.wall.timeChars :=
    Reading.timeChars_eq rfl (not_isLeap_toMilli hleap) hleap
  rw [render_eq_ok_iff hpercent]
  refine ⟨_, hpieces, congrArg String.ofList ?_⟩
  rw [stampWith, htime, ← htake]
  simp [Piece.shown, Piece.write?, Field.write?, writeDirectives?, scan, scanFrom, step, finished,
    directive, numberDirective?, Item.write?, NumberField.numeral, OffsetStyle.write,
    Reading.dateChars, Reading.timeChars, Reading.date, stampOffset]

end Millis

/-! ## The year and the place in it -/

/-- The place of a day in its year has at most three digits. -/
lemma ordinal_lt (day : Int) : (OrdinalDate.ofDay day).ordinal < 10 ^ 3 := by
  obtain ⟨-, hle⟩ := OrdinalDate.exists_ofDay day
  have hlength : yearLength (OrdinalDate.ofDay day).year ≤ 366 := by
    unfold yearLength
    split_ifs <;> decide
  omega

/-- A year of four digits and the place in it are a day in digits, which denotes the day. -/
theorem render_ordinal (hyear : 0 ≤ x.wall.date.year ∧ x.wall.date.year ≤ 9999) :
    ∃ d : DayText, d.Denotes x.wall.day ∧ x.render "YYYY-DDDD" = .ok (WallText.day d).text := by
  have hpercent : '%' ∉ "YYYY-DDDD".toList := by decide
  have hpieces : pieces? "YYYY-DDDD".toList =
      some [.token ⟨"YYYY", .specifier "%Y"⟩, .literal ['-'],
        .token ⟨"DDDD", .specifier "%j"⟩] := by
    decide +kernel
  have hfour : x.wall.date.year.natAbs < 10 ^ 4 := by omega
  refine ⟨.ordinal (Numeral.ofNat (by decide) hfour)
    (Numeral.ofNat (by decide) (ordinal_lt x.wall.day)), ?_, ?_⟩
  · rw [DayText.Denotes, Numeral.value_ofNat, Numeral.value_ofNat, Int.natAbs_of_nonneg hyear.1]
    rfl
  · rw [render_eq_ok_iff hpercent]
    refine ⟨_, hpieces, congrArg String.ofList ?_⟩
    simp [Piece.shown, Piece.write?, Field.write?, writeDirectives?, scan, scanFrom, step, finished,
      directive, numberDirective?, Item.write?, NumberField.numeral, signedYear, hyear,
      WallText.chars, DayText.chars, Numeral.ofNat]

end Instant

/-! ## Reading back -/

namespace Zone

variable {z : Zone} {x : Instant}

/-- An instant that is cut is shown on the same clock. -/
lemma Shows.toMilli (hshown : z.Shows x) : z.Shows x.toMilli := by
  have hoffset : z.offsetAt x.utc.secs = x.offset := congrArg Instant.offset hshown
  rw [Shows, express, Instant.toMilli, hoffset]

/-- A text that denotes a day is the midnight of that day, as the zone resolves it. -/
lemma instantOf?_dayText {d : DayText} {day : Int} (h : d.Denotes day) :
    z.instantOf? (WallText.day d).text = (z.resolve (Reading.ofDay day 0)).toOption := by
  have hday : (WallText.day d).reading? = some (Reading.ofDay day 0) := by
    rw [WallText.reading?, DayText.day?_eq_some_iff.mpr h, Option.map_some]
  simp only [instantOf?, WallText.text, String.toList_ofList, WallText.trim_chars,
    WallText.offsetText?_chars, Option.map_none, Option.none_or]
  rcases (WallText.day d).wallText?_or_dateText? with ⟨hwall, hdate⟩ | ⟨hwall, hdate⟩
  · rw [hwall, hdate, hday, Option.bind_none, Option.or_none, Option.bind_some]
  · rw [hwall, hdate, hday, Option.bind_none, Option.none_or, Option.bind_some]

/-- What two templates show of an instant is read back in the zone on whose clock it is shown, if
the instant is outside leap seconds and its offset is one of whole minutes: from all fields down to
the millisecond and the offset, the instant that is cut to the millisecond; and from a year of four
digits and the place in it, what the zone resolves the midnight of the day to. -/
theorem instantOf?_rendered (hshown : z.Shows x) (hx : x.Exists) (hleap : ¬ x.utc.IsLeap)
    (hminutes : x.offset % 60 = 0) (hwall : x.wall.InRange) :
    (∃ text, x.render "YYYY-MM-DDTHH:mm:ss.SSSZ" = .ok text ∧
      z.instantOf? text = some x.toMilli) ∧
    (0 ≤ x.wall.date.year → x.wall.date.year ≤ 9999 →
      ∃ text, x.render "YYYY-DDDD" = .ok text ∧
        z.instantOf? text = (z.resolve (Reading.ofDay x.wall.day 0)).toOption) := by
  constructor
  · refine ⟨_, Instant.render_millis hleap, ?_⟩
    have hmillis : x.wall.nanosecond / 1000000 < 10 ^ 3 := by
      unfold Reading.nanosecond
      omega
    have hfraction := DateText.saysFraction_zeroPadded (by decide : 0 < 3) (by decide) hmillis
    rw [← Instant.nanosecond_toMilli hleap] at hfraction
    exact instantOf?_stampWith hshown.toMilli ⟨hx.inRange, hx.offset_lt⟩
      (Instant.not_isLeap_toMilli hleap) hminutes hwall hfraction false
  · intro hfirst hlast
    obtain ⟨d, hday, htext⟩ := Instant.render_ordinal ⟨hfirst, hlast⟩
    exact ⟨_, htext, instantOf?_dayText hday⟩

/-- Less than a millisecond into a second the fraction is shown as three zeros. -/
theorem instantOf?_rendered_kathmandu :
    ∃ x : Instant, x = ⟨⟨1717727050, 456789, by decide⟩, 20700⟩ ∧ kathmandu.Shows x ∧ x.Exists ∧
      ¬ x.utc.IsLeap ∧ x.offset % 60 = 0 ∧ x.wall.InRange ∧ x.wall.date.year = 2024 ∧
      x.render "YYYY-MM-DDTHH:mm:ss.SSSZ" = .ok "2024-06-07T08:09:10.000+05:45" ∧
      kathmandu.instantOf? "2024-06-07T08:09:10.000+05:45" =
        some ⟨⟨1717727050, 0, by decide⟩, 20700⟩ ∧
      x.render "YYYY-DDDD" = .ok "2024-159" ∧
      kathmandu.instantOf? "2024-159" =
        (kathmandu.resolve (Reading.ofDay x.wall.day 0)).toOption := by
  refine ⟨_, rfl, ?_⟩
  have hshown : kathmandu.Shows ⟨⟨1717727050, 456789, by decide⟩, 20700⟩ := by decide
  have hx : Instant.Exists ⟨⟨1717727050, 456789, by decide⟩, 20700⟩ := ⟨by decide, by decide⟩
  have hwall : (Instant.wall ⟨⟨1717727050, 456789, by decide⟩, 20700⟩).InRange := by decide
  have hyear : (Instant.wall ⟨⟨1717727050, 456789, by decide⟩, 20700⟩).date.year = 2024 := by
    decide +kernel
  have hmillis : Instant.render ⟨⟨1717727050, 456789, by decide⟩, 20700⟩
      "YYYY-MM-DDTHH:mm:ss.SSSZ" = .ok "2024-06-07T08:09:10.000+05:45" := by
    decide +kernel
  have hordinal : Instant.render ⟨⟨1717727050, 456789, by decide⟩, 20700⟩ "YYYY-DDDD" =
      .ok "2024-159" := by
    decide +kernel
  obtain ⟨⟨text, htext, hread⟩, hday⟩ :=
    instantOf?_rendered hshown hx (by decide) (by decide) hwall
  obtain rfl := Except.ok.inj (hmillis.symm.trans htext)
  obtain ⟨text, htext, hmidnight⟩ := hday (by rw [hyear]; decide) (by rw [hyear]; decide)
  obtain rfl := Except.ok.inj (hordinal.symm.trans htext)
  exact ⟨hshown, hx, by decide, by decide, hwall, hyear, hmillis, hread, hordinal, hmidnight⟩

end Zone

end Almanac

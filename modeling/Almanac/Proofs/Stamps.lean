import Almanac.Proofs.Fields
import Almanac.Proofs.Shown
import Mathlib.Data.List.GetD

set_option relaxedAutoImplicit false
set_option autoImplicit false

/-!
# Stamps read back

The two written forms of an instant, in full and to the second, are read back as the instant and as
its second. A year of four digits makes the strict shape of internet dates; a year with a sign is
none of those, nor a mail date, and makes the first of the shapes with an offset. How many digits a
fraction of a second is written in does not matter, as long as they say the same.

## Main definitions

* `Almanac.Instant.Exists` — an instant in the calendar, whose clock is less than a day off.
* `Almanac.Instant.toSecond` — an instant without its fraction of a second.
* `Almanac.stampOffset` — the offset at the end of a stamp.
* `Almanac.Instant.stampWith` — a stamp with its fraction of a second in given characters.
* `Almanac.DateText.SaysFraction` — what characters say about a fraction of a second.

## Main results

* `Almanac.DateText.internet_stampWith`, `Almanac.DateText.offsetDateTime_stampWith` — stamps after
  their shapes.
* `Almanac.DateText.offsetText?_stampWith` — the moment of a stamp.
* `Almanac.Zone.instantOf?_written` — the instants of both written forms.
-/

namespace Almanac

/-! ## Instants -/

namespace Instant

/-- The moment is in the calendar, and the clock is less than a day ahead or behind. -/
structure Exists (x : Instant) : Prop where
  inRange : x.utc.InRange
  offset_lt : x.offset.natAbs < 86400

/-- An instant without its fraction of a second. -/
def toSecond (x : Instant) : Instant :=
  ⟨⟨x.utc.secs, 0, Nat.zero_lt_of_lt x.utc.nanos_lt⟩, x.offset⟩

end Instant

/-- The offset at the end of a stamp. -/
def stampOffset (zulu : Bool) (offset : Int) : List Char :=
  if zulu ∧ offset = 0 then ['Z'] else offsetChars [':'] offset

/-- The stamp of an instant, with its fraction of a second in given characters. -/
def Instant.stampWith (x : Instant) (fraction : List Char) (zulu : Bool) : List Char :=
  Reading.dateChars x.wall.day ++ 'T' :: (x.wall.timeChars ++
    (fraction ++ stampOffset zulu x.offset))

/-- In a stamp a fraction of a second stands in as few digits as are needed. -/
lemma Instant.stamp_eq (x : Instant) (zulu : Bool) :
    x.stamp zulu = x.stampWith (Reading.fractionChars x.wall.nanosecond) zulu := by
  simp only [stamp, stampWith, Reading.chars, stampOffset, List.append_assoc, List.cons_append]

/-- The stamp of a year outside 0 to 9999 begins with a sign. -/
lemma Instant.exists_stampWith_eq_cons {x : Instant} (f : List Char) (zulu : Bool)
    (hyear : ¬ (0 ≤ x.wall.date.year ∧ x.wall.date.year ≤ 9999)) :
    ∃ c cs, x.stampWith f zulu = c :: cs ∧ (c = '+' ∨ c = '-') := by
  have hsigned : signedYear (Date.ofDay x.wall.day).year =
      (if (Date.ofDay x.wall.day).year < 0 then '-' else '+') ::
        zeroPadded 4 (Date.ofDay x.wall.day).year.natAbs := if_neg hyear
  obtain ⟨cs, hcs⟩ : ∃ cs, x.stampWith f zulu =
      (if (Date.ofDay x.wall.day).year < 0 then '-' else '+') :: cs := by
    simp only [stampWith, Reading.dateChars, hsigned, List.cons_append]
    exact ⟨_, rfl⟩
  refine ⟨_, cs, hcs, ?_⟩
  split_ifs
  · exact Or.inr rfl
  · exact Or.inl rfl

/-- Outside leap seconds the time of day to the second does not depend on the nanoseconds. -/
lemma Reading.timeChars_eq {r s : Reading} (hsecs : r.secs = s.secs) (hr : ¬ r.IsLeap)
    (hs : ¬ s.IsLeap) : r.timeChars = s.timeChars := by
  simp only [timeChars, hour, minute, second, secondOfDay, hsecs, if_neg hr, if_neg hs]

/-- To the second, an instant is shown as the stamp of its second. -/
lemma Instant.chars_eq_stamp {x : Instant} (hleap : ¬ x.utc.IsLeap) :
    x.chars = x.toSecond.stamp false := by
  have hsecond : x.toSecond.wall.timeChars = x.wall.timeChars :=
    Reading.timeChars_eq rfl (Nat.not_le.mpr (by decide : 0 < 1000000000)) hleap
  rw [stamp_eq, stampWith, hsecond]
  simp only [chars, List.append_assoc, List.cons_append]
  rfl

/-! ## Fields -/

/-- The date of a day of the calendar denotes the day. -/
lemma Date.toDay?_ofDay {day : Int} (h : InCalendar day) :
    (mk (ofDay day).year (ofDay day).month (ofDay day).day).toDay? = some day := by
  have hexists : (ofDay day).Exists := exists_ofDay day
  rw [toDay?, if_pos hexists, toDay_ofDay, checkDay, if_pos h]

/-- No month is longer than 31 days. -/
lemma monthLength_le (y : Int) (month : Nat) : monthLength y month ≤ 31 := by
  have hlengths : ∀ length ∈ monthLengths (isLeapYear y), length ≤ 31 := by
    cases isLeapYear y <;> decide
  unfold monthLength
  by_cases h : month - 1 < (monthLengths (isLeapYear y)).length
  · rw [List.getD_eq_getElem _ _ h]
    exact hlengths _ (List.getElem_mem h)
  · rw [List.getD_eq_default _ _ (Nat.not_lt.mp h)]
    exact Nat.zero_le 31

/-- The month and the day of the month have at most two digits. -/
lemma Date.fields_lt (day : Int) : (Date.ofDay day).month < 100 ∧ (Date.ofDay day).day < 100 := by
  obtain ⟨-, hmonth, -, hday⟩ := Date.exists_ofDay day
  have := monthLength_le (Date.ofDay day).year (Date.ofDay day).month
  omega

/-- A day has 86400 seconds. -/
lemma Reading.secondOfDay_lt (r : Reading) : r.secondOfDay < 86400 := by
  unfold secondOfDay
  omega

/-- The hour, the minute and the second have at most two digits. -/
lemma Reading.fields_lt (r : Reading) : r.hour < 100 ∧ r.minute < 100 ∧ r.second < 100 := by
  have := r.secondOfDay_lt
  refine ⟨?_, ?_, ?_⟩
  · unfold Reading.hour
    omega
  · unfold Reading.minute
    omega
  · unfold Reading.second
    split_ifs <;> omega

/-! ## Offsets -/

/-- What follows a fraction in a stamp cannot be taken for a part of it. -/
lemma stampOffset_first (zulu : Bool) (offset : Int) :
    NoDigitFirst (stampOffset zulu offset) ∧ (stampOffset zulu offset).head? ≠ some '.' := by
  unfold stampOffset offsetChars offsetSign NoDigitFirst
  split_ifs <;> simp

namespace DateText

open Reader

/-- Characters are read as a fraction of a second, unless a point or a digit follows them, and there
is no blank among them. -/
structure SaysFraction (f : List Char) (nanos : Nat) : Prop where
  read : ∀ {rest : List Char}, NoDigitFirst rest → rest.head? ≠ some '.' →
    fraction (f ++ rest) = some (nanos, rest)
  no_blank : ∀ c ∈ f, isBlank c = false

/-- There are no blanks in a number. -/
lemma isBlank_of_mem_zeroPadded {width n : Nat} : ∀ c ∈ zeroPadded width n, isBlank c = false :=
  fun _ hc => isBlank_of_isDigit (isDigit_of_mem_zeroPadded hc)

/-- A point and digits say a fraction. -/
lemma saysFraction_zeroPadded {width n : Nat} (hwidth : 0 < width) (hnine : width ≤ 9)
    (h : n < 10 ^ width) : SaysFraction ('.' :: zeroPadded width n) (10 ^ (9 - width) * n) where
  read hrest _ := fraction_zeroPadded hwidth hnine h hrest
  no_blank := List.forall_mem_cons.mpr ⟨by decide, isBlank_of_mem_zeroPadded⟩

/-- The digits that are needed say the fraction. -/
lemma saysFraction_fractionChars {n : Nat} (h : n < 1000000000) :
    SaysFraction (Reading.fractionChars n) n where
  read hrest hpoint := fraction_fractionChars h hrest hpoint
  no_blank := by
    unfold Reading.fractionChars
    split_ifs
    · exact List.forall_mem_nil _
    · exact List.forall_mem_cons.mpr ⟨by decide, isBlank_of_mem_zeroPadded⟩
    · exact List.forall_mem_cons.mpr ⟨by decide, isBlank_of_mem_zeroPadded⟩
    · exact List.forall_mem_cons.mpr ⟨by decide, isBlank_of_mem_zeroPadded⟩

section Offsets

variable {offset : Int} (hminutes : offset % 60 = 0) (hday : offset.natAbs < 86400) (zulu : Bool)

include hminutes hday

/-- The offset of a stamp is read back by the strict reader. -/
lemma strictOffset_stampOffset : strictOffset (stampOffset zulu offset) = some (offset, []) := by
  unfold stampOffset
  split_ifs with hzulu
  · rw [hzulu.2]
    rfl
  · exact strictOffset_offsetChars hminutes hday

/-- The offset of a stamp is read back by the loose reader. -/
lemma looseOffset_stampOffset : looseOffset (stampOffset zulu offset) = some (offset, []) := by
  unfold stampOffset
  split_ifs with hzulu
  · rw [hzulu.2]
    rfl
  · exact looseOffset_offsetChars hminutes hday

end Offsets

/-! ## Days -/

/-- A date is read back. -/
lemma calendarDate_dateChars {day : Int} (h : InCalendar day) (rest : List Char) :
    calendarDate '-' (Reading.dateChars day ++ rest) = some (day, rest) := by
  obtain ⟨hmonth, hday⟩ := Date.fields_lt day
  have hhyphen : ∀ cs, NoDigitFirst ('-' :: cs) := by
    rintro cs c hc
    cases hc
    decide
  simp only [Reading.dateChars, List.append_assoc, List.cons_append, calendarDate]
  rw [bind_of_eq_some (year_signedYear _ (hhyphen _)), bind_of_eq_some (char_cons _ _),
    bind_of_eq_some (number_zeroPadded hmonth _), bind_of_eq_some (char_cons _ _),
    bind_of_eq_some (number_zeroPadded hday _), require, Date.toDay?_ofDay h, Option.map_some]

/-! ## Times of day -/

/-- The fields of a reading outside leap seconds denote its time of day. -/
lemma clockTime?_fields {r : Reading} (h : ¬ r.IsLeap) :
    clockTime? r.hour r.minute r.second r.nanosecond = some (r.onDay 0) := by
  have hsecond : r.second = r.secondOfDay % 60 := by rw [Reading.second, if_neg h, Nat.add_zero]
  have hofDay := r.secondOfDay_lt
  have hfields : r.hour < 24 ∧ r.minute < 60 ∧ r.second ≤ 60 ∧ r.nanosecond < 1000000000 := by
    rw [hsecond]
    unfold Reading.hour Reading.minute Reading.nanosecond
    omega
  have hsixty : r.second ≠ 60 := by omega
  have hnanos : r.nanosecond = r.nanos := Nat.mod_eq_of_lt (Nat.not_le.mp h)
  rw [clockTime?, dif_pos hfields]
  simp only [if_neg hsixty, Reading.onDay, Option.some.injEq, Reading.mk.injEq, hnanos, and_true]
  rw [hsecond]
  unfold Reading.hour Reading.minute
  unfold Reading.secondOfDay at *
  omega

/-- A time of day is read back. -/
lemma hourMinuteSecond_timeChars {r : Reading} (h : ¬ r.IsLeap) {f : List Char}
    (hf : SaysFraction f r.nanosecond) {rest : List Char} (hrest : NoDigitFirst rest)
    (hpoint : rest.head? ≠ some '.') :
    hourMinuteSecond (r.timeChars ++ (f ++ rest)) = some (r.onDay 0, rest) := by
  obtain ⟨hhour, hminute, hsecond⟩ := Reading.fields_lt r
  simp only [Reading.timeChars, List.append_assoc, List.cons_append, hourMinuteSecond]
  rw [bind_of_eq_some (number_zeroPadded hhour _), bind_of_eq_some (char_cons _ _),
    bind_of_eq_some (number_zeroPadded hminute _), bind_of_eq_some (char_cons _ _),
    bind_of_eq_some (number_zeroPadded hsecond _),
    bind_of_eq_some (hf.read hrest hpoint), require, clockTime?_fields h,
    Option.map_some]

/-! ## Stamps after their shapes -/

/-- Universal time is found from the clock and its offset. -/
lemma universal?_wall {x : Instant} (h : x.Exists) : universal? x.wall x.offset = some x.utc := by
  have hback : x.wall.shift (-x.offset) = x.utc := by
    simpa [Instant.wall] using Reading.shift_shift_neg x.utc (-x.offset)
  rw [universal?, if_pos h.offset_lt, hback, Reading.check, if_pos h.inRange]

section Stamp

variable {x : Instant} {f : List Char} (hf : SaysFraction f x.wall.nanosecond) (hx : x.Exists)
  (hleap : ¬ x.utc.IsLeap) (hminutes : x.offset % 60 = 0) (hwall : x.wall.InRange) (zulu : Bool)

include hf hx hleap hminutes hwall

/-- A stamp with a year of four digits has the shape of an internet date. -/
theorem internet_stampWith (hyear : 0 ≤ x.wall.date.year ∧ x.wall.date.year ≤ 9999) :
    internet (x.stampWith f zulu) = some (x.utc, []) := by
  obtain ⟨hrest, hpoint⟩ := stampOffset_first zulu x.offset
  obtain ⟨hmonth, hday⟩ := Date.fields_lt x.wall.day
  obtain ⟨hhour, hminute, hsecond⟩ := Reading.fields_lt x.wall
  have hleap' : ¬ x.wall.IsLeap := hleap
  have hyear' : signedYear (Date.ofDay x.wall.day).year =
      zeroPadded 4 (Date.ofDay x.wall.day).year.natAbs := if_pos hyear
  obtain ⟨hpos, hle⟩ : 0 ≤ (Date.ofDay x.wall.day).year ∧ (Date.ofDay x.wall.day).year ≤ 9999 :=
    hyear
  have hfour : (Date.ofDay x.wall.day).year.natAbs < 10000 := by omega
  have hseparator : ∀ cs, oneOf isTimeSeparator ('T' :: cs) = some ('T', cs) := fun _ => rfl
  have hdate : (Date.mk ((Date.ofDay x.wall.day).year.natAbs : Int) (Date.ofDay x.wall.day).month
      (Date.ofDay x.wall.day).day).toDay? = some x.wall.day := by
    rw [Int.natAbs_of_nonneg hpos, Date.toDay?_ofDay hwall]
  have hutc : universal? ((x.wall.onDay 0).onDay x.wall.day) x.offset = some x.utc := by
    rw [Reading.onDay_onDay, Reading.onDay_day, universal?_wall hx]
  simp only [Instant.stampWith, Reading.dateChars, Reading.timeChars, List.append_assoc,
    List.cons_append, hyear', internet]
  rw [bind_of_eq_some (digits_zeroPadded (by decide) (by decide) hfour _),
    bind_of_eq_some (char_cons _ _),
    bind_of_eq_some (digits_zeroPadded (by decide) (by decide) hmonth _),
    bind_of_eq_some (char_cons _ _),
    bind_of_eq_some (digits_zeroPadded (by decide) (by decide) hday _),
    bind_of_eq_some (hseparator _),
    bind_of_eq_some (digits_zeroPadded (by decide) (by decide) hhour _),
    bind_of_eq_some (char_cons _ _),
    bind_of_eq_some (digits_zeroPadded (by decide) (by decide) hminute _),
    bind_of_eq_some (char_cons _ _),
    bind_of_eq_some (digits_zeroPadded (by decide) (by decide) hsecond _),
    bind_of_eq_some (hf.read hrest hpoint),
    bind_of_eq_some (strictOffset_stampOffset hminutes hx.offset_lt zulu),
    bind_of_eq_some (require_of_eq_some hdate _),
    bind_of_eq_some (require_of_eq_some (clockTime?_fields hleap') _),
    require_of_eq_some hutc]

/-- A stamp has the shape of a day with a time and an offset. -/
theorem offsetDateTime_stampWith :
    offsetDateTime (char 'T') hourMinuteSecond (x.stampWith f zulu) = some (x.utc, []) := by
  obtain ⟨hrest, hpoint⟩ := stampOffset_first zulu x.offset
  have hleap' : ¬ x.wall.IsLeap := hleap
  have hclock : dateTime (calendarDate '-') (char 'T') hourMinuteSecond (x.stampWith f zulu) =
      some (x.wall, stampOffset zulu x.offset) := by
    rw [Instant.stampWith, dateTime, bind_of_eq_some (calendarDate_dateChars hwall _),
      bind_of_eq_some (char_cons _ _),
      bind_of_eq_some (hourMinuteSecond_timeChars hleap' hf hrest hpoint), Reading.onDay_onDay,
      Reading.onDay_day]
    rfl
  rw [offsetDateTime, bind_of_eq_some hclock,
    bind_of_eq_some (looseOffset_stampOffset hminutes hx.offset_lt zulu),
    require_of_eq_some (universal?_wall hx)]

end Stamp

/-! ## Years with a sign -/

/-- A text that begins with a sign is no internet date. -/
lemma internet_of_not_isDigit {c : Char} (hc : c.isDigit = false) (cs : List Char) :
    internet (c :: cs) = none :=
  bind_of_eq_none (digits_of_not_isDigit (by decide) hc cs)

/-- A text begins with none of several names, if none of them begins with its first letter. -/
lemma abbreviation_eq_none {names : List String} {c : Char} {cs : List Char}
    (h : ∀ name ∈ names, ((abbreviated name.toList).map Char.toLower).head? ≠ some c.toLower) :
    abbreviation names (c :: cs) = none := by
  have hplace : ∀ name ∈ names,
      ((abbreviated name.toList).map Char.toLower == ((c :: cs).take 3).map Char.toLower) = false := by
    intro name hname
    rw [beq_eq_false_iff_ne]
    intro heq
    refine h name hname ?_
    rw [heq]
    rfl
  have hnone : ¬ names.findIdx (fun name => (abbreviated name.toList).map Char.toLower ==
      ((c :: cs).take 3).map Char.toLower) < names.length := by
    rw [List.findIdx_lt_length]
    rintro ⟨name, hname, hword⟩
    rw [hplace name hname] at hword
    cases hword
  exact if_neg hnone

/-- A text that begins with a sign is no mail date. -/
lemma mail?_of_sign {c : Char} (hc : c = '+' ∨ c = '-') (cs : List Char) : mail? (c :: cs) = none := by
  have hblank : isBlank c = false := by rcases hc with rfl | rfl <;> decide
  have hdigit : c.isDigit = false := by rcases hc with rfl | rfl <;> decide
  have hweekday : statedWeekday (c :: cs) = some (none, c :: cs) := by
    have hname : abbreviation weekdayNames (c :: cs) = none := by
      refine abbreviation_eq_none ?_
      rcases hc with rfl | rfl <;> decide
    rw [statedWeekday, hname]
  have hdate : mailDate (c :: cs) = none := by
    rw [mailDate, bind_of_eq_some (blanks_apply _), skipBlanks_cons hblank,
      bind_of_eq_some hweekday, bind_of_eq_some (blanks_apply _), skipBlanks_cons hblank]
    exact bind_of_eq_none (digits_of_not_isDigit (by decide) hdigit cs)
  rw [mail?, hdate]

/-- A stamp denotes the moment of its instant.

**Proof sketch.** A year of four digits makes an internet date. Any other year begins with a sign,
which neither internet dates nor mail dates do, so that the first shape with an offset is tried. -/
theorem offsetText?_stampWith {x : Instant} {f : List Char}
    (hf : SaysFraction f x.wall.nanosecond) (hx : x.Exists) (hleap : ¬ x.utc.IsLeap)
    (hminutes : x.offset % 60 = 0) (hwall : x.wall.InRange) (zulu : Bool) :
    offsetText? (x.stampWith f zulu) = some x.utc := by
  by_cases hyear : 0 ≤ x.wall.date.year ∧ x.wall.date.year ≤ 9999
  · have hinternet : internet.all (x.stampWith f zulu) = some x.utc := by
      rw [all, internet_stampWith hf hx hleap hminutes hwall zulu hyear]
    rw [offsetText?, hinternet, Option.some_or]
  · have hshape : firstOf offsetShapes (x.stampWith f zulu) = some x.utc := by
      rw [offsetShapes, firstOf, List.findSome?_cons, all,
        offsetDateTime_stampWith hf hx hleap hminutes hwall zulu]
    -- The two readers before the shapes stop at the sign.
    obtain ⟨c, cs, hcs, hsign⟩ := Instant.exists_stampWith_eq_cons f zulu hyear
    have hinternet : internet.all (x.stampWith f zulu) = none := by
      rw [hcs, all, internet_of_not_isDigit (by rcases hsign with rfl | rfl <;> decide)]
    have hmail : mail? (x.stampWith f zulu) = none := by rw [hcs, mail?_of_sign hsign]
    rw [offsetText?, hinternet, hmail, hshape, Option.none_or, Option.none_or]

end DateText

/-! ## Blanks -/

/-- A text without blanks stays as it is when the blanks around it are taken off. -/
lemma trim_of_forall {cs : List Char} (h : ∀ c ∈ cs, isBlank c = false) : trim cs = cs := by
  have hskip : ∀ {ds : List Char}, (∀ c ∈ ds, isBlank c = false) → skipBlanks ds = ds := by
    intro ds hds
    cases ds with
    | nil => rfl
    | cons c rest => exact skipBlanks_cons (hds c List.mem_cons_self) rest
  rw [trim, hskip h, hskip (by simpa using h), List.reverse_reverse]

/-- There are no blanks in a stamp. -/
lemma isBlank_of_mem_stampWith (x : Instant) {f : List Char} (hf : ∀ c ∈ f, isBlank c = false)
    (zulu : Bool) : ∀ c ∈ x.stampWith f zulu, isBlank c = false := by
  have hnumber : ∀ {width n : Nat}, ∀ c ∈ zeroPadded width n, isBlank c = false :=
    DateText.isBlank_of_mem_zeroPadded
  have hyear : ∀ y, ∀ c ∈ signedYear y, isBlank c = false := by
    intro y
    unfold signedYear
    split_ifs
    · exact hnumber
    · exact List.forall_mem_cons.mpr ⟨by decide, hnumber⟩
    · exact List.forall_mem_cons.mpr ⟨by decide, hnumber⟩
  have hoffset : ∀ c ∈ stampOffset zulu x.offset, isBlank c = false := by
    unfold stampOffset
    split_ifs
    · exact List.forall_mem_singleton.mpr (by decide)
    · simp only [offsetChars, List.append_assoc, List.cons_append, List.nil_append,
        List.forall_mem_append, List.forall_mem_cons]
      exact ⟨DateText.isBlank_offsetSign _, hnumber, by decide, hnumber⟩
  simp only [Instant.stampWith, Reading.dateChars, Reading.timeChars, List.forall_mem_append,
    List.forall_mem_cons, and_assoc]
  exact ⟨hyear _, by decide, hnumber, by decide, hnumber, by decide, hnumber, by decide, hnumber,
    by decide, hnumber, hf, hoffset⟩

/-! ## Written instants -/

namespace Zone

variable {z : Zone} {x : Instant}

/-- A stamp is read back as the instant, in the zone on whose clock it is shown, however its
fraction of a second is written. -/
lemma instantOf?_stampWith (hshown : z.Shows x) (hx : x.Exists) (hleap : ¬ x.utc.IsLeap)
    (hminutes : x.offset % 60 = 0) (hwall : x.wall.InRange) {f : List Char}
    (hf : DateText.SaysFraction f x.wall.nanosecond) (zulu : Bool) :
    z.instantOf? (String.ofList (x.stampWith f zulu)) = some x := by
  have hmoment := DateText.offsetText?_stampWith hf hx hleap hminutes hwall zulu
  simp only [instantOf?, String.toList_ofList,
    trim_of_forall (isBlank_of_mem_stampWith x hf.no_blank zulu), hmoment, Option.map_some,
    Option.some_or]
  rw [show z.express x.utc = x from hshown]

/-- A stamp is read back as the instant, in the zone on whose clock it is shown. -/
lemma instantOf?_stamp (hshown : z.Shows x) (hx : x.Exists) (hleap : ¬ x.utc.IsLeap)
    (hminutes : x.offset % 60 = 0) (hwall : x.wall.InRange) (zulu : Bool) :
    z.instantOf? (String.ofList (x.stamp zulu)) = some x := by
  have hnanos : x.wall.nanosecond < 1000000000 := Nat.mod_lt _ (by decide)
  rw [Instant.stamp_eq]
  exact instantOf?_stampWith hshown hx hleap hminutes hwall
    (DateText.saysFraction_fractionChars hnanos) zulu

/-- An instant that is shown on the clock of a zone, outside leap seconds and with an offset of
whole minutes, is read back there from both of its written forms: from its stamp, with offset zero
as a letter or in digits, as it is, and from the form to the second without its fraction. -/
theorem instantOf?_written (hshown : z.Shows x) (hx : x.Exists) (hleap : ¬ x.utc.IsLeap)
    (hminutes : x.offset % 60 = 0) (hwall : x.wall.InRange) :
    (∀ zulu, z.instantOf? (String.ofList (x.stamp zulu)) = some x) ∧
      z.instantOf? (Value.instant x).text = some x.toSecond := by
  refine ⟨instantOf?_stamp hshown hx hleap hminutes hwall, ?_⟩
  have hshown' : z.Shows x.toSecond := by
    have hoffset : z.offsetAt x.utc.secs = x.offset := congrArg Instant.offset hshown
    rw [Shows, express, Instant.toSecond, hoffset]
  have hleap' : ¬ x.toSecond.utc.IsLeap := Nat.not_le.mpr (by decide : 0 < 1000000000)
  have htext : (Value.instant x).text = String.ofList (x.toSecond.stamp false) := by
    rw [← Instant.chars_eq_stamp hleap]
    rfl
  rw [htext]
  exact instantOf?_stamp hshown' ⟨hx.inRange, hx.offset_lt⟩ hleap' hminutes hwall false

/-- A year of five digits has a sign, and clocks in Kathmandu are 5 hours and 45 minutes ahead. -/
theorem instantOf?_written_kathmandu :
    ∃ x : Instant, x = ⟨⟨327416955850, 120000000, by decide⟩, 20700⟩ ∧ kathmandu.Shows x ∧
      x.Exists ∧ ¬ x.utc.IsLeap ∧ x.offset % 60 = 0 ∧ x.wall.InRange ∧
      String.ofList (x.stamp true) = "+12345-06-07T08:09:10.120+05:45" ∧
      kathmandu.instantOf? "+12345-06-07T08:09:10.120+05:45" = some x ∧
      (Value.instant x).text = "+12345-06-07T08:09:10+05:45" ∧
      kathmandu.instantOf? "+12345-06-07T08:09:10+05:45" = some x.toSecond := by
  refine ⟨_, rfl, ?_⟩
  have hshown : kathmandu.Shows ⟨⟨327416955850, 120000000, by decide⟩, 20700⟩ := by decide
  have hx : Instant.Exists ⟨⟨327416955850, 120000000, by decide⟩, 20700⟩ := ⟨by decide, by decide⟩
  have hwall : (Instant.wall ⟨⟨327416955850, 120000000, by decide⟩, 20700⟩).InRange := by decide
  have hstamp : String.ofList (Instant.stamp ⟨⟨327416955850, 120000000, by decide⟩, 20700⟩ true) =
      "+12345-06-07T08:09:10.120+05:45" := by decide +kernel
  have htext : (Value.instant ⟨⟨327416955850, 120000000, by decide⟩, 20700⟩).text =
      "+12345-06-07T08:09:10+05:45" := by decide +kernel
  obtain ⟨hfull, hsecond⟩ := instantOf?_written hshown hx (by decide) (by decide) hwall
  have hread := hfull true
  rw [hstamp] at hread
  rw [htext] at hsecond
  exact ⟨hshown, hx, by decide, by decide, hwall, hstamp, hread, htext, hsecond⟩

end Zone

end Almanac

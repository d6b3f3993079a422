import Almanac.Proofs.DayTexts
import Almanac.Proofs.Operands
import Almanac.Proofs.TimeTexts

set_option relaxedAutoImplicit false
set_option autoImplicit false

/-!
# Dates and times in digits

The shapes in which dates and times without an offset are written: days in digits, and a time of day
after them. What such a text denotes is said by the fields of a reading, and the instant of the text
is the one to which a zone resolves that reading. There is no other way to read it: a text of these
shapes has no offset, a text with a time is read as a day and a time only by the reader of its
shape and as a day by none, and where no reading has the fields there is nothing to resolve.

## Main definitions

* `Almanac.WallText`, `Almanac.WallText.text` — dates and times in digits.
* `Almanac.WallText.Denotes` — the reading that a text denotes.
* `Almanac.WallShape`, `Almanac.WallShape.reader` — the shapes of a day with a time.

## Main results

* `Almanac.WallShape.all_reader` — a day and a time are read by the reader of their shape only.
* `Almanac.WallText.offsetText?_chars` — there is no offset in a text.
* `Almanac.WallText.wallText?_or_dateText?` — a text is read in one way.
* `Almanac.WallText.denotes_iff_of_text_eq` — what a text denotes does not depend on its shape.
* `Almanac.Zone.instantOf?_wallText` — the instant of a text.
-/

namespace Almanac

open DateText Reader

/-! ## Texts -/

/-- The signs between a day and a time of day. -/
inductive TimeMark
  | letter
  | blank
  deriving DecidableEq, Repr

/-- The sign itself. -/
def TimeMark.char : TimeMark → Char
  | letter => 'T'
  | blank => ' '

/-- The reader of a sign. -/
def TimeMark.reader : TimeMark → Reader Unit
  | letter => Reader.char 'T'
  | blank => blanks

/-- A date, perhaps with a time of day, in digits. -/
inductive WallText
  /-- A day alone. -/
  | day (d : DayText)
  /-- A day and an hour, as in `2024-01-31T09` or `2024-01-31 09`. -/
  | hour (d : DateDigits) (mark : TimeMark) (hour : Numeral 2)
  /-- A day with hyphens and a time of day, as in `2024-01-31T09:30` or `2024-01-31 09:30`. -/
  | hyphens (d : DateDigits) (mark : TimeMark) (time : TimeText)
  /-- A day with slashes and a time of day, as in `2024/01/31 09:30`. -/
  | slashes (d : DateDigits) (time : TimeText)

namespace WallText

/-- The characters of a text. -/
def chars : WallText → List Char
  | day d => d.chars
  | hour d mark h => d.chars .hyphen ++ mark.char :: h.chars
  | hyphens d mark time => d.chars .hyphen ++ mark.char :: time.chars
  | slashes d time => d.chars .slash ++ ' ' :: time.chars

/-- The text itself. -/
def text (t : WallText) : String :=
  String.ofList t.chars

/-- A text denotes a reading: it has the fields of the reading, and those that it has not are the
first ones. -/
def Denotes (t : WallText) (r : Reading) : Prop :=
  match t with
  | day d => d.Denotes r.day ∧ r.IsAt 0 0 0 0
  | hour d _ h => r.date = d.date ∧ r.IsAt h.value 0 0 0
  | hyphens d _ time | slashes d time => r.date = d.date ∧ time.Denotes r

end WallText

/-! ## Readers of days and times -/

/-- The day of year, month and day with a sign between them is read up to the end of the day. -/
lemma DateText.calendarDate_chars (s separator : DateSeparator) (d : DateDigits)
    (rest : List Char) : calendarDate s.char (d.chars separator ++ rest) =
      if s = separator then d.date.toDay?.map fun day => (day, rest) else none := by
  split_ifs with h
  · rw [h]
    exact DayText.reader_shape (.separated separator d) rest
  · have hchar : separator.char ≠ s.char := by
      cases s <;> cases separator <;> simp_all [DateSeparator.char]
    simp [calendarDate, DateDigits.chars, hchar]

/-- A day is read, and after the sign a time of day, which is moved to that day. -/
lemma DateText.dateTime_apply (date : Reader Int) (separator : Reader Unit) (time : Reader Reading)
    (cs : List Char) : dateTime date separator time cs = (date cs).bind fun p =>
      ((separator p.2).bind fun q => time q.2).map fun q => (q.1.onDay p.1, q.2) := by
  rw [dateTime, bind_apply]
  refine congrArg _ (funext fun p => ?_)
  rw [bind_apply, Option.map_bind]
  refine congrArg _ (funext fun q => ?_)
  rw [bind_apply, Function.comp_apply]
  cases time q.2 <;> rfl

/-- The shapes in which a day and a time of day are written. -/
structure WallShape where
  separator : DateSeparator
  mark : TimeMark
  time : TimeShape
  deriving DecidableEq, Repr

/-- The reader of a shape. -/
def WallShape.reader (s : WallShape) : Reader Reading :=
  dateTime (calendarDate s.separator.char) s.mark.reader s.time.reader

/-- The shapes of a day with a time and no offset, in the order in which they are tried. -/
def WallShape.all : List WallShape :=
  [⟨.hyphen, .letter, .second⟩, ⟨.hyphen, .blank, .second⟩, ⟨.hyphen, .letter, .minute⟩,
    ⟨.hyphen, .blank, .minute⟩, ⟨.slash, .blank, .second⟩, ⟨.slash, .blank, .minute⟩]

/-- The readers of a day with a time and no offset are those of the shapes. -/
lemma DateText.wallShapes_eq : wallShapes = WallShape.all.map WallShape.reader := rfl

/-- The readers of a day with a time and an offset are those of shapes with hyphens, after which an
offset is read. -/
lemma DateText.offsetShapes_eq : offsetShapes =
    [(TimeMark.letter, TimeShape.second), (.blank, .second), (.letter, .minute),
      (.blank, .minute)].map fun s => offsetDateTime s.1.reader s.2.reader := rfl

/-- After its own sign a time of day is read, after the other one none. -/
lemma TimeMark.reader_bind (m mark : TimeMark) (s : TimeShape) (t : TimeText) :
    ((m.reader (mark.char :: t.chars)).bind fun p => s.reader p.2) =
      if m = mark then s.reader t.chars else none := by
  obtain ⟨hour, rest, hchars⟩ := t.exists_chars_eq
  have hskip : skipBlanks (' ' :: t.chars) = t.chars := by
    have hblank : isBlank ' ' = true := by decide
    rw [skipBlanks, List.dropWhile_cons_of_pos hblank, hchars]
    exact hour.skipBlanks_append (by decide) _
  have hletter : s.reader ('T' :: t.chars) = none := by
    cases s <;> simp [TimeShape.reader, hourMinute, hourMinuteSecond, isBlank]
  cases m with
  | letter => cases mark <;> simp [reader, TimeMark.char]
  | blank =>
    cases mark with
    | letter =>
      have hblank : skipBlanks ('T' :: t.chars) = 'T' :: t.chars := skipBlanks_cons (by decide) _
      simp [reader, TimeMark.char, hblank, hletter]
    | blank => simp [reader, TimeMark.char, hskip]

section Clock

variable (separator : DateSeparator) (d : DateDigits) (mark : TimeMark) (t : TimeText)

/-- A day and a time of day in digits. -/
def clockChars : List Char :=
  d.chars separator ++ mark.char :: t.chars

/-- The reading with the fields of a day and of a time of day, if there is one. -/
def clockReading? : Option Reading :=
  d.date.toDay?.bind fun day => t.time?.map fun time => time.onDay day

/-- The reader of a shape reads a day and, after its own sign, what its reader of times reads. -/
lemma WallShape.reader_eq (s : WallShape) : s.reader (clockChars separator d mark t) =
    if s.separator = separator ∧ s.mark = mark then
      d.date.toDay?.bind fun day =>
        (s.time.reader t.chars).map fun p => (p.1.onDay day, p.2)
    else none := by
  rw [reader, dateTime_apply, clockChars, calendarDate_chars]
  by_cases hsep : s.separator = separator
  · rw [if_pos hsep, Option.bind_map]
    simp only [Function.comp_def, TimeMark.reader_bind]
    by_cases hmark : s.mark = mark
    · simp [hsep, hmark]
    · simp [hmark]
  · simp [hsep]

/-- The reader of its shape takes a day and a time of day to the end. -/
lemma WallShape.reader_shape : reader ⟨separator, mark, t.shape⟩ (clockChars separator d mark t) =
    (clockReading? d t).map fun r => (r, []) := by
  rw [reader_eq, if_pos ⟨rfl, rfl⟩, t.reader_shape, clockReading?, Option.map_bind]
  simp only [Function.comp_def, Option.map_map]

/-- Any other reader stops at a colon, if it reads something. -/
lemma WallShape.reader_of_ne {s : WallShape} (h : s ≠ ⟨separator, mark, t.shape⟩) :
    ∀ p ∈ s.reader (clockChars separator d mark t), ∃ rest, p.2 = ':' :: rest := by
  intro p hp
  rw [reader_eq] at hp
  split_ifs at hp with hday
  · obtain ⟨day, -, hday'⟩ := Option.bind_eq_some_iff.mp hp
    obtain ⟨q, hq, rfl⟩ := Option.map_eq_some_iff.mp hday'
    refine TimeText.reader_of_ne (fun htime => h ?_) q hq
    obtain ⟨rfl, rfl⟩ := hday
    rw [← htime]
  · cases hp

/-- Of the readers only that of its shape takes a day and a time of day to the end, and it does if
the fields denote a reading. -/
theorem WallShape.all_reader (s : WallShape) : s.reader.all (clockChars separator d mark t) =
    if s = ⟨separator, mark, t.shape⟩ then clockReading? d t else none := by
  split_ifs with h
  · rw [h]
    simp [reader_shape, Option.bind_map]
  · rw [all_eq, Option.bind_eq_none_iff]
    intro p hp
    obtain ⟨rest, hrest⟩ := reader_of_ne separator d mark t h p hp
    rw [hrest, if_neg (by simp)]

/-- There is no offset after a day and a time of day. -/
lemma offsetDateTime_clockChars (m : TimeMark) (s : TimeShape) :
    (offsetDateTime m.reader s.reader).all (clockChars separator d mark t) = none := by
  have hstop : ∀ p ∈ WallShape.reader ⟨.hyphen, m, s⟩ (clockChars separator d mark t),
      looseOffset p.2 = none := by
    intro p hp
    by_cases h : (⟨.hyphen, m, s⟩ : WallShape) = ⟨separator, mark, t.shape⟩
    · rw [h, WallShape.reader_shape] at hp
      obtain ⟨r, -, rfl⟩ := Option.map_eq_some_iff.mp hp
      rfl
    · obtain ⟨rest, hrest⟩ := WallShape.reader_of_ne separator d mark t h p hp
      rw [hrest]
      rfl
  have hnone : offsetDateTime m.reader s.reader (clockChars separator d mark t) = none := by
    rw [offsetDateTime, bind_apply, Option.bind_eq_none_iff]
    intro p hp
    exact bind_of_eq_none (hstop p hp)
  rw [all_eq, hnone, Option.bind_none]

/-- A day and a time of day are no internet date, since there is no offset. -/
lemma internet_clockChars : internet.all (clockChars separator d mark t) = none := by
  have hfour : ∀ rest, digits 4 4 (d.year.chars ++ rest) = some (d.year.value, rest) :=
    digits_numeral _ (by decide)
  have htwo : ∀ (n : Numeral 2) (rest), digits 2 2 (n.chars ++ rest) = some (n.value, rest) :=
    fun n => digits_numeral n (by decide)
  have hmark : ∀ cs, oneOf isTimeSeparator (mark.char :: cs) = some (mark.char, cs) := by
    intro cs
    cases mark <;> rfl
  have hnone : internet (clockChars separator d mark t) = none := by
    simp only [clockChars, DateDigits.chars, List.append_assoc, List.cons_append, internet]
    rw [bind_of_eq_some (hfour _)]
    cases separator with
    | slash => exact bind_of_eq_none (char_of_ne (by decide) _)
    | hyphen =>
      simp only [DateSeparator.char]
      rw [bind_of_eq_some (char_cons _ _), bind_of_eq_some (htwo _ _),
        bind_of_eq_some (char_cons _ _), bind_of_eq_some (htwo _ _), bind_of_eq_some (hmark _)]
      cases t with
      | minute h m =>
        have hlast := htwo m []
        rw [List.append_nil] at hlast
        simp only [TimeText.chars]
        rw [bind_of_eq_some (htwo _ _), bind_of_eq_some (char_cons _ _), bind_of_eq_some hlast]
        exact bind_of_eq_none (char_nil _)
      | second h m s f =>
        simp only [TimeText.chars]
        rw [bind_of_eq_some (htwo _ _), bind_of_eq_some (char_cons _ _),
          bind_of_eq_some (htwo _ _), bind_of_eq_some (char_cons _ _),
          bind_of_eq_some (htwo _ _), bind_of_eq_some (fraction_fractionText f)]
        exact bind_of_eq_none rfl
  rw [all_eq, hnone, Option.bind_none]

end Clock

/-- Digits are not capitals. -/
lemma toLower_of_isDigit {c : Char} (h : c.isDigit = true) : c.toLower = c := by
  have hc := toNat_of_isDigit h
  have hcapital : ¬ (c.val ≥ 'A'.val ∧ c.val ≤ 'Z'.val) := by
    rintro ⟨hle, -⟩
    have hle : 65 ≤ c.toNat := hle
    omega
  exact dif_neg hcapital

/-- A text that begins with three digits is no mail date, which has two at most for the day and a
blank after them. -/
lemma DateText.mail?_numeral {width : Nat} (n : Numeral width) (hwidth : 2 < width)
    (rest : List Char) : mail? (n.chars ++ rest) = none := by
  obtain ⟨c, cs, hcs, hc⟩ := n.exists_eq_cons (by omega)
  have hweekday : statedWeekday (n.chars ++ rest) = some (none, n.chars ++ rest) := by
    have hletters : ∀ name ∈ weekdayNames,
        ((abbreviated name.toList).map Char.toLower).head?.any Char.isDigit = false := by decide
    have hname : abbreviation weekdayNames (c :: (cs ++ rest)) = none := by
      refine abbreviation_eq_none fun name hname hfirst => ?_
      have hletter := hletters name hname
      rw [hfirst, toLower_of_isDigit hc, Option.any_some, hc] at hletter
      cases hletter
    rw [hcs, List.cons_append, statedWeekday, hname]
  have hblank : someBlanks ((n.drop 2).chars ++ rest) = none := by
    obtain ⟨b, bs, hbs, hb⟩ := (n.drop 2).exists_eq_cons (by omega)
    rw [hbs, List.cons_append, someBlanks]
    exact bind_of_eq_none (if_neg (by simp [isBlank_of_isDigit hb]))
  have hdate : mailDate (n.chars ++ rest) = none := by
    rw [mailDate, bind_of_eq_some (blanks_apply _), n.skipBlanks_append (by omega),
      bind_of_eq_some hweekday, bind_of_eq_some (blanks_apply _), n.skipBlanks_append (by omega),
      bind_of_eq_some (digits_take n (by decide) hwidth rest)]
    exact bind_of_eq_none hblank
  rw [mail?, hdate]

/-! ## Characters of days -/

/-- A digit is no sign that stands before an hour. -/
lemma DateText.isHourSeparator_of_isDigit {c : Char} (h : c.isDigit = true) :
    isHourSeparator c = false := by
  by_contra hseparator
  simp only [isHourSeparator, Bool.not_eq_false, Bool.or_eq_true, beq_iff_eq] at hseparator
  rcases hseparator with rfl | rfl
  · cases h
  · cases h

/-- A day in digits consists of digits, hyphens, slashes and the letter for weeks. -/
lemma DayText.mem_chars (t : DayText) :
    ∀ c ∈ t.chars, c.isDigit = true ∨ c ∈ ['-', '/', 'W'] := by
  have hdigit : ∀ {width : Nat} (n : Numeral width), ∀ c ∈ n.chars,
      c.isDigit = true ∨ c ∈ ['-', '/', 'W'] := fun n c hc => Or.inl (n.isDigit_chars c hc)
  have hsign : ∀ separator : DateSeparator, separator.char.isDigit = true ∨
      separator.char ∈ ['-', '/', 'W'] := by
    intro separator
    cases separator <;> decide
  cases t with
  | separated separator d =>
    simp only [chars, DateDigits.chars, List.forall_mem_append, List.forall_mem_cons]
    exact ⟨hdigit _, hsign _, hdigit _, hsign _, hdigit _⟩
  | compact d =>
    simp only [chars, List.forall_mem_append]
    exact ⟨hdigit _, hdigit _, hdigit _⟩
  | week y w n =>
    simp only [chars, List.forall_mem_append, List.forall_mem_cons]
    exact ⟨hdigit _, by decide, by decide, hdigit _, by decide, hdigit _⟩
  | monthFirst d =>
    simp only [chars, List.forall_mem_append, List.forall_mem_cons]
    exact ⟨hdigit _, by decide, hdigit _, by decide, hdigit _⟩
  | month y m =>
    simp only [chars, List.forall_mem_append, List.forall_mem_cons]
    exact ⟨hdigit _, by decide, hdigit _⟩
  | ordinal y n =>
    simp only [chars, List.forall_mem_append, List.forall_mem_cons]
    exact ⟨hdigit _, by decide, hdigit _⟩
  | year y => exact hdigit y

/-- In a day in digits there is no colon, no sign that stands before an hour and no blank. -/
lemma DayText.of_mem_chars {t : DayText} {c : Char} (h : c ∈ t.chars) :
    c ≠ ':' ∧ isHourSeparator c = false ∧ isBlank c = false := by
  rcases t.mem_chars c h with hdigit | hsign
  · refine ⟨?_, isHourSeparator_of_isDigit hdigit, isBlank_of_isDigit hdigit⟩
    rintro rfl
    cases hdigit
  · simp only [List.mem_cons, List.not_mem_nil, or_false] at hsign
    rcases hsign with rfl | rfl | rfl <;> decide

/-- There is no colon in a day in digits. -/
lemma DayText.colon_not_mem (t : DayText) : ':' ∉ t.chars :=
  fun h => (of_mem_chars h).1 rfl

/-! ## Texts as a whole -/

namespace DateText

section Clock

variable (separator : DateSeparator) (d : DateDigits) (mark : TimeMark) (t : TimeText)

/-- A day and a time of day have no offset. -/
lemma offsetText?_clockChars : offsetText? (clockChars separator d mark t) = none := by
  have hmail : mail? (clockChars separator d mark t) = none := by
    simp only [clockChars, DateDigits.chars, List.append_assoc]
    exact mail?_numeral d.year (by decide) _
  have hshapes : firstOf offsetShapes (clockChars separator d mark t) = none := by
    rw [offsetShapes_eq]
    refine firstOf_eq_none _ (List.forall_mem_map.mpr fun s _ => ?_)
    exact offsetDateTime_clockChars separator d mark t s.1 s.2
  rw [offsetText?, internet_clockChars, hmail, hshapes]
  rfl

/-- Before the sign of a time stands the day, after it the hour. -/
lemma dateHour?_chars (rest : List Char) : dateHour? (d.chars separator ++ mark.char :: rest) =
    if separator = .hyphen then
      d.date.toDay?.bind fun day => ((digits 2 2).all rest).bind fun hour =>
        (clockTime? hour 0 0 0).map fun time => time.onDay day
    else none := by
  have hday : ∀ c ∈ d.chars separator, (!isHourSeparator c) = true := by
    intro c hc
    rw [(DayText.of_mem_chars (t := .separated separator d) hc).2.1]
    rfl
  have hmark : (!isHourSeparator mark.char) = false := by cases mark <;> rfl
  have htake : (d.chars separator ++ mark.char :: rest).takeWhile (fun c => !isHourSeparator c) =
      d.chars separator := by
    rw [List.takeWhile_append_of_pos hday, List.takeWhile_cons_of_neg (by simp [hmark]),
      List.append_nil]
  have hdrop : (d.chars separator ++ mark.char :: rest).dropWhile (fun c => !isHourSeparator c) =
      mark.char :: rest := by
    rw [List.dropWhile_append_of_pos hday, List.dropWhile_cons_of_neg (by simp [hmark])]
  have hall : (calendarDate '-').all (d.chars separator) =
      if separator = .hyphen then d.date.toDay? else none := by
    have hread := calendarDate_chars .hyphen separator d []
    rw [List.append_nil, DateSeparator.char] at hread
    rw [all_eq, hread]
    cases separator <;> simp [Option.bind_map]
  rw [dateHour?, hdrop]
  simp only [htake, hall, Option.bind_eq_bind, Option.pure_def]
  split_ifs
  · simp only [Option.map_eq_bind]
    rfl
  · rfl

/-- A day is read by no reader of days if the sign of a time follows it. -/
lemma firstOf_dateShapes_append (rest : List Char) :
    firstOf dateShapes (d.chars separator ++ mark.char :: rest) = none := by
  rw [dateShapes_eq]
  refine firstOf_eq_none _ (List.forall_mem_map.mpr fun s _ => ?_)
  by_cases h : s = .separated separator
  · have hread := DayText.reader_shape (.separated separator d) (mark.char :: rest)
    rw [all_eq, h]
    rw [DayText.shape, DayText.chars] at hread
    simp [hread, Option.bind_map]
  · exact DayText.all_reader_separated h d _

/-- A day and a time of day in one of the shapes are read as the reading with their fields. -/
lemma wallText?_clockChars (h : ⟨separator, mark, t.shape⟩ ∈ WallShape.all) :
    wallText? (clockChars separator d mark t) = clockReading? d t := by
  have hhour : dateHour? (clockChars separator d mark t) = none := by
    obtain ⟨hour, rest, hrest⟩ := t.exists_chars_eq
    rw [clockChars, dateHour?_chars, hrest]
    simp
  have hshapes : firstOf wallShapes (clockChars separator d mark t) = clockReading? d t := by
    rw [wallShapes_eq]
    refine firstOf_eq ⟨_, List.mem_map_of_mem h, ?_⟩ (List.forall_mem_map.mpr fun s _ => ?_)
    · rw [WallShape.all_reader, if_pos rfl]
    · rw [WallShape.all_reader]
      split_ifs
      · exact Or.inl rfl
      · exact Or.inr rfl
  rw [wallText?, hshapes, hhour, Option.or_none]

/-- A day and an hour are read as the reading with their fields. -/
lemma wallText?_hour (h : Numeral 2)
    (hshapes : firstOf wallShapes (d.chars .hyphen ++ mark.char :: h.chars) = none) :
    wallText? (d.chars .hyphen ++ mark.char :: h.chars) = d.date.toDay?.bind fun day =>
      (clockTime? h.value 0 0 0).map fun time => time.onDay day := by
  have hdigits := digits_numeral h (show 2 ≤ 2 by decide) []
  rw [List.append_nil] at hdigits
  rw [wallText?, hshapes, dateHour?_chars, all_eq, hdigits]
  simp

end Clock

/-! ## Texts without a colon -/

/-- The readers of a day with a time want a colon. -/
lemma takes_of_mem_wallShapes : ∀ r ∈ wallShapes, r.Takes ':' := by
  rw [wallShapes_eq, List.forall_mem_map]
  rintro ⟨separator, mark, time⟩ _
  have hmark : mark.reader.Drops := by
    cases mark
    · exact drops_char _
    · exact drops_blanks
  have htime : time.reader.Takes ':' := by
    cases time
    · exact takes_hourMinute
    · exact takes_hourMinuteSecond
  exact .bind_right (endsInDigit_calendarDate _).drops fun _ =>
    .bind_right hmark fun _ => .bind_left htime

/-- A text without a colon has no offset, and no time but an hour. -/
lemma no_time_of_not_mem {cs : List Char} (h : ':' ∉ cs) :
    offsetText? cs = none ∧ firstOf wallShapes cs = none := by
  constructor
  · exact Option.eq_none_iff_forall_ne_some.mpr fun r hr => h (colon_mem_of_offsetText? hr)
  · exact Option.eq_none_iff_forall_ne_some.mpr fun r hr =>
      h (mem_of_firstOf takes_of_mem_wallShapes hr)

end DateText

/-! ## Blanks around a text -/

/-- A text that begins and ends with a digit stays as it is when the blanks around it are taken
off. -/
lemma trim_of_digits {cs : List Char} (hfirst : ∃ c rest, cs = c :: rest ∧ c.isDigit = true)
    (hlast : ∃ before c, cs = before ++ [c] ∧ c.isDigit = true) : trim cs = cs := by
  have hskip : skipBlanks cs = cs := by
    obtain ⟨c, rest, rfl, hc⟩ := hfirst
    exact skipBlanks_cons (isBlank_of_isDigit hc) rest
  have hreverse : skipBlanks cs.reverse = cs.reverse := by
    obtain ⟨before, c, rfl, hc⟩ := hlast
    rw [List.reverse_append, List.reverse_singleton, List.singleton_append,
      skipBlanks_cons (isBlank_of_isDigit hc)]
  rw [trim, hskip, hreverse, List.reverse_reverse]

/-! ## Readings of texts -/

namespace WallText

/-- The reading with the fields of a text, if there is one. -/
def reading? : WallText → Option Reading
  | day d => d.day?.map fun day => Reading.ofDay day 0
  | hour d _ h => d.date.toDay?.bind fun day =>
      (clockTime? h.value 0 0 0).map fun time => time.onDay day
  | hyphens d _ time | slashes d time => clockReading? d time

/-- A text denotes the reading with its fields. -/
theorem reading?_eq_some_iff {t : WallText} {r : Reading} :
    t.reading? = some r ↔ t.Denotes r := by
  have hclock : ∀ {d : DateDigits} {hour minute second nanos : Nat},
      (d.date.toDay?.bind fun day => (clockTime? hour minute second nanos).map
        fun time => time.onDay day) = some r ↔
          r.date = d.date ∧ r.IsAt hour minute second nanos := by
    intro d hour minute second nanos
    have hday : ∀ day, d.date.toDay? = some day ↔ Date.ofDay day = d.date :=
      fun day => DayText.day?_eq_some_iff (t := .compact d)
    simp only [Option.bind_eq_some_iff, Option.map_eq_some_iff, exists_clockTime?_iff, hday]
    constructor
    · rintro ⟨day, hdate, rfl, hat⟩
      exact ⟨hdate, hat⟩
    · rintro ⟨hdate, hat⟩
      exact ⟨r.day, hdate, rfl, hat⟩
  cases t with
  | day d =>
    have hmidnight : ∀ day, Reading.ofDay day 0 = r ↔ r.day = day ∧ r.IsAt 0 0 0 0 := by
      intro day
      rw [← exists_clockTime?_iff]
      simp [clockTime?, Reading.onDay, Reading.ofDay]
    simp only [reading?, Option.map_eq_some_iff, hmidnight, DayText.day?_eq_some_iff, Denotes]
    constructor
    · rintro ⟨day, hday, rfl, hat⟩
      exact ⟨hday, hat⟩
    · rintro ⟨hday, hat⟩
      exact ⟨r.day, hday, rfl, hat⟩
  | hour d mark h => exact hclock
  | hyphens d mark time => cases time <;> exact hclock
  | slashes d time => cases time <;> exact hclock

/-- There are no blanks around a text. -/
lemma trim_chars (t : WallText) : trim t.chars = t.chars := by
  have hfirst : ∀ (separator : DateSeparator) (d : DateDigits) (rest : List Char),
      ∃ c cs, d.chars separator ++ rest = c :: cs ∧ c.isDigit = true := by
    intro separator d rest
    obtain ⟨c, cs, hcs, hc⟩ := d.year.exists_eq_cons (by decide)
    exact ⟨c, _, by rw [DateDigits.chars, hcs, List.cons_append, List.cons_append], hc⟩
  have happend : ∀ (cs : List Char) (c : Char) (rest : List Char),
      cs ++ c :: rest = cs ++ [c] ++ rest := by simp
  cases t with
  | day d => exact trim_of_forall fun c hc => (DayText.of_mem_chars hc).2.2
  | hour d mark h =>
    refine trim_of_digits (hfirst _ d _) ?_
    rw [chars, happend]
    exact h.exists_append_eq_concat (by decide) _
  | hyphens d mark time =>
    refine trim_of_digits (hfirst _ d _) ?_
    rw [chars, happend]
    exact time.exists_append_eq_concat _
  | slashes d time =>
    refine trim_of_digits (hfirst _ d _) ?_
    rw [chars, happend]
    exact time.exists_append_eq_concat _

/-- There is no colon in a day and an hour. -/
lemma colon_not_mem_hour (d : DateDigits) (mark : TimeMark) (h : Numeral 2) :
    ':' ∉ (hour d mark h).chars := by
  have hday : ':' ∉ d.chars .hyphen := (DayText.separated .hyphen d).colon_not_mem
  have hmark : ':' ≠ mark.char := by cases mark <;> decide
  have hdigits : ':' ∉ h.chars := fun hmem => absurd (h.isDigit_chars _ hmem) (by decide)
  simp [chars, hday, hmark, hdigits]

/-- There is no offset in a text. -/
theorem offsetText?_chars (t : WallText) : offsetText? t.chars = none := by
  cases t with
  | day d => exact (no_time_of_not_mem d.colon_not_mem).1
  | hour d mark h => exact (no_time_of_not_mem (colon_not_mem_hour d mark h)).1
  | hyphens d mark time => exact offsetText?_clockChars .hyphen d mark time
  | slashes d time => exact offsetText?_clockChars .slash d .blank time

/-- A text is read as the reading with its fields, with a time or without one, and not in the other
way. -/
theorem wallText?_or_dateText? (t : WallText) :
    (wallText? t.chars = t.reading? ∧ dateText? t.chars = none) ∨
      (wallText? t.chars = none ∧ dateText? t.chars = t.reading?) := by
  have hdate : ∀ (separator : DateSeparator) (d : DateDigits) (mark : TimeMark) (rest : List Char),
      dateText? (d.chars separator ++ mark.char :: rest) = none := by
    intro separator d mark rest
    rw [dateText?, firstOf_dateShapes_append, Option.map_none]
  cases t with
  | day d =>
    have hshapes := (no_time_of_not_mem d.colon_not_mem).2
    have hhour : dateHour? d.chars = none := by
      have hdrop : d.chars.dropWhile (fun c => !isHourSeparator c) = [] :=
        List.dropWhile_eq_nil_iff.mpr fun c hc => by simp [(DayText.of_mem_chars hc).2.1]
      rw [dateHour?, hdrop]
    refine Or.inr ⟨?_, ?_⟩
    · rw [chars, wallText?, hshapes, hhour, Option.or_none]
    · rw [chars, dateText?, firstOf_dateShapes, reading?]
  | hour d mark h =>
    have hshapes := (no_time_of_not_mem (colon_not_mem_hour d mark h)).2
    exact Or.inl ⟨wallText?_hour d mark h hshapes, hdate _ d mark _⟩
  | hyphens d mark time =>
    have hshape : ⟨.hyphen, mark, time.shape⟩ ∈ WallShape.all := by
      cases mark <;> cases time.shape <;> decide
    exact Or.inl ⟨wallText?_clockChars .hyphen d mark time hshape, hdate _ d mark _⟩
  | slashes d time =>
    have hshape : ⟨.slash, .blank, time.shape⟩ ∈ WallShape.all := by cases time.shape <;> decide
    exact Or.inl ⟨wallText?_clockChars .slash d .blank time hshape, hdate _ d .blank _⟩

/-- Texts of two shapes that are written alike denote the same reading. -/
theorem denotes_iff_of_text_eq {t u : WallText} (h : t.text = u.text) {r : Reading} :
    t.Denotes r ↔ u.Denotes r := by
  have hor : ∀ t : WallText, (wallText? t.chars).or (dateText? t.chars) = t.reading? := by
    intro t
    rcases t.wallText?_or_dateText? with ⟨hwall, hdate⟩ | ⟨hwall, hdate⟩
    · rw [hwall, hdate, Option.or_none]
    · rw [hwall, hdate, Option.none_or]
  have hchars : t.chars = u.chars := String.ofList_injective h
  rw [← reading?_eq_some_iff, ← reading?_eq_some_iff, ← hor t, ← hor u, hchars]

end WallText

/-- The instant of a text in a zone is the one to which the zone resolves the reading that the text
denotes. If it denotes none, as there is no such date or no such time of day, or the zone does not
resolve the reading, the text has no instant. -/
theorem Zone.instantOf?_wallText (z : Zone) (t : WallText) (i : Instant) :
    z.instantOf? t.text = some i ↔ ∃ r, t.Denotes r ∧ z.resolve r = .ok i := by
  have hread : z.instantOf? t.text = t.reading?.bind fun r => (z.resolve r).toOption := by
    simp only [instantOf?, WallText.text, String.toList_ofList, t.trim_chars, t.offsetText?_chars,
      Option.map_none, Option.none_or]
    rcases t.wallText?_or_dateText? with ⟨hwall, hdate⟩ | ⟨hwall, hdate⟩
    · rw [hwall, hdate, Option.bind_none, Option.or_none]
    · rw [hwall, hdate, Option.bind_none, Option.none_or]
  simp only [hread, Option.bind_eq_some_iff, WallText.reading?_eq_some_iff, toOption_eq_some_iff]

end Almanac

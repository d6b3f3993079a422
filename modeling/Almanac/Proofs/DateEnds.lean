import Almanac.Duration
import Almanac.DateText
import Mathlib.Data.List.Basic

set_option relaxedAutoImplicit false
set_option autoImplicit false

/-!
# How dates end

A reader takes a piece off the front of a text. Of a date without an offset the last piece is a
number, so that the text ends in a digit, whatever shape it has. A duration ends in a letter; so the
two cannot be taken for each other.

## Main definitions

* `Almanac.Reader.Drops` — a reader hands back an end of the text.
* `Almanac.Reader.EndsInDigit`, `Almanac.Reader.MayEndInDigit` — the last character that a reader
  takes is a digit.

## Main results

* `Almanac.DateText.endsInDigit_of_wallText?`, `Almanac.DateText.endsInDigit_of_dateText?` — dates
  without an offset end in a digit.
* `Almanac.Duration.endsInLetter_of_parse?` — durations end in a letter.
* `Almanac.Duration.not_wall_of_parse?` — no duration is a date without an offset.
-/

namespace Almanac

namespace Reader

/-! ## What readers take -/

/-- A reader hands back an end of the text. -/
def Drops {α : Type} (r : Reader α) : Prop :=
  ∀ cs a rest, r cs = some (a, rest) → rest <:+ cs

/-- The last character that a reader takes is a digit. -/
def EndsInDigit {α : Type} (r : Reader α) : Prop :=
  ∀ cs a rest, r cs = some (a, rest) → ∃ d : Char, d.isDigit = true ∧ d :: rest <:+ cs

/-- A reader takes nothing, or the last character that it takes is a digit. -/
def MayEndInDigit {α : Type} (r : Reader α) : Prop :=
  ∀ cs a rest, r cs = some (a, rest) →
    rest = cs ∨ ∃ d : Char, d.isDigit = true ∧ d :: rest <:+ cs

section Combinators

variable {α β : Type} {r : Reader α} {f : α → Reader β}

/-- What one reader after another reads. -/
lemma bind_eq_some {cs rest : List Char} {b : β} :
    (r >>= f) cs = some (b, rest) ↔ ∃ a next, r cs = some (a, next) ∧ f a next = some (b, rest) := by
  have hbind : (r >>= f) cs = (r cs).bind fun p => f p.1 p.2 := rfl
  rw [hbind, Option.bind_eq_some_iff]
  constructor
  · rintro ⟨⟨a, next⟩, h⟩
    exact ⟨a, next, h⟩
  · rintro ⟨a, next, h⟩
    exact ⟨(a, next), h⟩

/-- Two readers end in a digit if the second one does. -/
lemma EndsInDigit.bind_right (hr : r.Drops) (hf : ∀ a, (f a).EndsInDigit) :
    EndsInDigit (r >>= f) := by
  intro cs b rest h
  obtain ⟨a, next, hnext, hrest⟩ := bind_eq_some.mp h
  obtain ⟨d, hd, hsuffix⟩ := hf a next b rest hrest
  exact ⟨d, hd, hsuffix.trans (hr cs a next hnext)⟩

/-- Two readers end in a digit if the first one does and the second one may take nothing more. -/
lemma EndsInDigit.bind_left (hr : r.EndsInDigit) (hf : ∀ a, (f a).MayEndInDigit) :
    EndsInDigit (r >>= f) := by
  intro cs b rest h
  obtain ⟨a, next, hnext, hrest⟩ := bind_eq_some.mp h
  obtain ⟨d, hd, hsuffix⟩ := hr cs a next hnext
  rcases hf a next b rest hrest with rfl | ⟨e, he, hmore⟩
  · exact ⟨d, hd, hsuffix⟩
  · exact ⟨e, he, hmore.trans ((List.suffix_cons d next).trans hsuffix)⟩

/-- Two readers that may end in a digit may do so one after the other. -/
lemma MayEndInDigit.bind (hr : r.MayEndInDigit) (hf : ∀ a, (f a).MayEndInDigit) :
    MayEndInDigit (r >>= f) := by
  intro cs b rest h
  obtain ⟨a, next, hnext, hrest⟩ := bind_eq_some.mp h
  rcases hr cs a next hnext with rfl | ⟨d, hd, hsuffix⟩
  · exact hf a next b rest hrest
  · rcases hf a next b rest hrest with rfl | ⟨e, he, hmore⟩
    · exact Or.inr ⟨d, hd, hsuffix⟩
    · exact Or.inr ⟨e, he, hmore.trans ((List.suffix_cons d next).trans hsuffix)⟩

/-- A whole text that is read by a reader that ends in a digit does so. -/
lemma EndsInDigit.of_all (h : r.EndsInDigit) {cs : List Char} {a : α} (ha : r.all cs = some a) :
    ∃ d : Char, d.isDigit = true ∧ cs.getLast? = some d := by
  rw [all] at ha
  split at ha
  · next b hb =>
    obtain ⟨d, hd, before, rfl⟩ := h cs b [] hb
    exact ⟨d, hd, List.getLast?_concat⟩
  · cases ha

/-- A whole text that is read by one of several readers that end in a digit does so. -/
lemma endsInDigit_of_firstOf {rs : List (Reader α)} (h : ∀ r ∈ rs, r.EndsInDigit) {cs : List Char}
    {a : α} (ha : firstOf rs cs = some a) : ∃ d : Char, d.isDigit = true ∧ cs.getLast? = some d := by
  obtain ⟨r, hr, hall⟩ := List.exists_of_findSome?_eq_some ha
  exact (h r hr).of_all hall

end Combinators

/-! ## The single readers -/

/-- A reader that gives a value takes nothing. -/
lemma mayEndInDigit_pure {α : Type} (a : α) : MayEndInDigit (pure a : Reader α) := by
  intro cs b rest h
  cases h
  exact Or.inl rfl

/-- A reader that wants a value takes nothing. -/
lemma mayEndInDigit_require {α : Type} (a? : Option α) : (require a?).MayEndInDigit := by
  intro cs a rest h
  simp only [require, Option.map_eq_some_iff] at h
  obtain ⟨b, -, hb⟩ := h
  cases hb
  exact Or.inl rfl

/-- A character is dropped. -/
lemma drops_char (c : Char) : (char c).Drops := by
  intro cs a rest h
  unfold char at h
  split at h
  · cases h
  · split at h
    · cases h
      exact List.suffix_cons _ _
    · cases h

/-- Blanks are dropped. -/
lemma drops_blanks : blanks.Drops := by
  intro cs a rest h
  cases h
  exact List.dropWhile_suffix _

/-- Digits, if there are any, end in a digit. -/
lemma exists_last_digit {ds : List Char} (hne : ds ≠ []) (hall : ds.all Char.isDigit = true)
    (rest : List Char) : ∃ d : Char, d.isDigit = true ∧ d :: rest <:+ ds ++ rest := by
  rcases List.eq_nil_or_concat ds with rfl | ⟨before, d, rfl⟩
  · exact absurd rfl hne
  · rw [List.concat_eq_append] at hall ⊢
    refine ⟨d, List.all_eq_true.mp hall d (by simp), before, ?_⟩
    rw [List.append_assoc, List.singleton_append]

/-- Digits end in a digit, if there must be one. -/
lemma endsInDigit_digits {least most : Nat} (hleast : 1 ≤ least) :
    (digits least most).EndsInDigit := by
  intro cs n rest h
  unfold digits at h
  simp only at h
  split at h
  · cases h
  · next hlength =>
    cases h
    have hfront : (cs.take most).takeWhile Char.isDigit <+: cs :=
      (List.takeWhile_prefix _).trans (List.take_prefix _ _)
    have hne : (cs.take most).takeWhile Char.isDigit ≠ [] := by
      intro hnil
      rw [hnil, List.length_nil] at hlength
      omega
    obtain ⟨d, hd, hsuffix⟩ := exists_last_digit hne List.all_takeWhile
      (cs.drop ((cs.take most).takeWhile Char.isDigit).length)
    rw [List.prefix_iff_eq_append.mp hfront] at hsuffix
    exact ⟨d, hd, hsuffix⟩

/-- All digits end in a digit. -/
lemma endsInDigit_allDigits : allDigits.EndsInDigit := by
  intro cs n rest h
  unfold allDigits at h
  simp only at h
  split at h
  · cases h
  · next hempty =>
    cases h
    have hne : cs.takeWhile Char.isDigit ≠ [] := by simpa using hempty
    obtain ⟨d, hd, hsuffix⟩ :=
      exists_last_digit hne List.all_takeWhile (cs.dropWhile Char.isDigit)
    rw [List.takeWhile_append_dropWhile] at hsuffix
    exact ⟨d, hd, hsuffix⟩

/-- What ends in a digit drops something. -/
lemma EndsInDigit.drops {α : Type} {r : Reader α} (h : r.EndsInDigit) : r.Drops := by
  intro cs a rest hr
  obtain ⟨d, -, hsuffix⟩ := h cs a rest hr
  exact (List.suffix_cons d rest).trans hsuffix

end Reader

namespace DateText

open Reader

/-! ## The fields of dates -/

/-- A number ends in a digit. -/
lemma endsInDigit_number (most : Nat) : (number most).EndsInDigit :=
  .bind_right drops_blanks fun _ => endsInDigit_digits (by omega)

/-- Digits after a sign end in a digit. -/
lemma exists_digit_of_allDigits {α : Type} {f : List Char × List Char → α × List Char} {sign : Char}
    {tail rest : List Char} {a : α} (h : (allDigits tail).map f = some (a, rest))
    (hf : ∀ p, (f p).2 = p.2) :
    ∃ d : Char, d.isDigit = true ∧ d :: rest <:+ sign :: tail := by
  obtain ⟨p, hp, hpair⟩ := Option.map_eq_some_iff.mp h
  have hrest : p.2 = rest := by rw [← hf p, hpair]
  obtain ⟨d, hd, hsuffix⟩ := endsInDigit_allDigits tail p.1 p.2 hp
  rw [hrest] at hsuffix
  exact ⟨d, hd, hsuffix.trans (List.suffix_cons sign tail)⟩

/-- A year ends in a digit. -/
lemma endsInDigit_year : year.EndsInDigit := by
  intro cs y rest h
  have hskip : skipBlanks cs <:+ cs := List.dropWhile_suffix _
  unfold year at h
  split at h
  · next tail htail =>
    obtain ⟨d, hd, hsuffix⟩ := exists_digit_of_allDigits h fun _ => rfl
    exact ⟨d, hd, hsuffix.trans (htail ▸ hskip)⟩
  · next tail htail =>
    obtain ⟨d, hd, hsuffix⟩ := exists_digit_of_allDigits h fun _ => rfl
    exact ⟨d, hd, hsuffix.trans (htail ▸ hskip)⟩
  · obtain ⟨⟨n, rest'⟩, hread, hpair⟩ := Option.map_eq_some_iff.mp h
    obtain rfl : rest' = rest := congrArg Prod.snd hpair
    obtain ⟨d, hd, hsuffix⟩ := endsInDigit_digits (by omega) _ n rest' hread
    exact ⟨d, hd, hsuffix.trans hskip⟩

/-- A fraction, if there is one, ends in a digit. -/
lemma mayEndInDigit_fraction : fraction.MayEndInDigit := by
  intro cs n rest h
  unfold fraction at h
  split at h
  · next tail => exact Or.inr (exists_digit_of_allDigits h fun _ => rfl)
  · cases h
    exact Or.inl rfl

/-! ## The shapes of dates -/

/-- A date with separators ends in a digit. -/
lemma endsInDigit_calendarDate (separator : Char) : (calendarDate separator).EndsInDigit :=
  .bind_right endsInDigit_year.drops fun _ => .bind_right (drops_char _) fun _ =>
    .bind_right (endsInDigit_number 2).drops fun _ => .bind_right (drops_char _) fun _ =>
      .bind_left (endsInDigit_number 2) fun _ => mayEndInDigit_require _

/-- The shapes of a day end in a digit. -/
lemma endsInDigit_of_mem_dateShapes : ∀ r ∈ dateShapes, r.EndsInDigit := by
  have hyear := endsInDigit_year
  have hnumber := endsInDigit_number
  have hdigits : ∀ n, 1 ≤ n → (digits n n).EndsInDigit := fun n hn => endsInDigit_digits hn
  intro r hr
  simp only [dateShapes, List.mem_cons, List.not_mem_nil, or_false] at hr
  rcases hr with rfl | rfl | rfl | rfl | rfl | rfl | rfl | rfl
  · exact endsInDigit_calendarDate _
  · exact .bind_right hyear.drops fun _ => .bind_right (hnumber 2).drops fun _ =>
      .bind_left (hnumber 2) fun _ => mayEndInDigit_require _
  · exact .bind_right hyear.drops fun _ => .bind_right (drops_char _) fun _ =>
      .bind_right (drops_char _) fun _ => .bind_right (hnumber 2).drops fun _ =>
        .bind_right (drops_char _) fun _ => .bind_left (hnumber 1) fun _ => mayEndInDigit_require _
  · exact endsInDigit_calendarDate _
  · exact .bind_right (hnumber 2).drops fun _ => .bind_right (drops_char _) fun _ =>
      .bind_right (hnumber 2).drops fun _ => .bind_right (drops_char _) fun _ =>
        .bind_left hyear fun _ => mayEndInDigit_require _
  · exact .bind_right (hdigits 4 (by omega)).drops fun _ => .bind_right (drops_char _) fun _ =>
      .bind_left (hdigits 2 (by omega)) fun _ => mayEndInDigit_require _
  · exact .bind_right (hdigits 4 (by omega)).drops fun _ => .bind_right (drops_char _) fun _ =>
      .bind_left (hdigits 3 (by omega)) fun _ => mayEndInDigit_require _
  · exact .bind_left (hdigits 4 (by omega)) fun _ => mayEndInDigit_require _

/-- Hour and minute end in a digit. -/
lemma endsInDigit_hourMinute : hourMinute.EndsInDigit :=
  .bind_right (endsInDigit_number 2).drops fun _ => .bind_right (drops_char _) fun _ =>
    .bind_left (endsInDigit_number 2) fun _ => mayEndInDigit_require _

/-- Hour, minute and second end in a digit, with a fraction or without. -/
lemma endsInDigit_hourMinuteSecond : hourMinuteSecond.EndsInDigit :=
  .bind_right (endsInDigit_number 2).drops fun _ => .bind_right (drops_char _) fun _ =>
    .bind_right (endsInDigit_number 2).drops fun _ => .bind_right (drops_char _) fun _ =>
      .bind_left (endsInDigit_number 2) fun _ =>
        .bind mayEndInDigit_fraction fun _ => mayEndInDigit_require _

/-- A day and a time of day end in a digit. -/
lemma endsInDigit_dateTime {separator : Reader Unit} {time : Reader Reading} (c : Char)
    (hseparator : separator.Drops) (htime : time.EndsInDigit) :
    (dateTime (calendarDate c) separator time).EndsInDigit :=
  .bind_right (endsInDigit_calendarDate c).drops fun _ => .bind_right hseparator fun _ =>
    .bind_left htime fun _ => mayEndInDigit_pure _

/-- The shapes of a day with a time end in a digit. -/
lemma endsInDigit_of_mem_wallShapes : ∀ r ∈ wallShapes, r.EndsInDigit := by
  intro r hr
  simp only [wallShapes, List.mem_cons, List.not_mem_nil, or_false] at hr
  rcases hr with rfl | rfl | rfl | rfl | rfl | rfl
  · exact endsInDigit_dateTime _ (drops_char _) endsInDigit_hourMinuteSecond
  · exact endsInDigit_dateTime _ drops_blanks endsInDigit_hourMinuteSecond
  · exact endsInDigit_dateTime _ (drops_char _) endsInDigit_hourMinute
  · exact endsInDigit_dateTime _ drops_blanks endsInDigit_hourMinute
  · exact endsInDigit_dateTime _ drops_blanks endsInDigit_hourMinuteSecond
  · exact endsInDigit_dateTime _ drops_blanks endsInDigit_hourMinute

/-- A day and an hour alone end in a digit. -/
lemma endsInDigit_of_dateHour? {cs : List Char} {r : Reading} (h : dateHour? cs = some r) :
    ∃ d : Char, d.isDigit = true ∧ cs.getLast? = some d := by
  unfold dateHour? at h
  split at h
  · cases h
  · next c hourText hdrop =>
    simp only [Option.bind_eq_bind, Option.bind_eq_some_iff] at h
    obtain ⟨day, -, hour, hhour, -⟩ := h
    obtain ⟨d, hd, hlast⟩ := (endsInDigit_digits (by omega)).of_all hhour
    refine ⟨d, hd, ?_⟩
    obtain ⟨before, rfl⟩ := List.getLast?_eq_some_iff.mp hlast
    have hsuffix : c :: (before ++ [d]) <:+ cs := by
      rw [← hdrop]
      exact List.dropWhile_suffix _
    obtain ⟨day, rfl⟩ := hsuffix
    rw [← List.cons_append, ← List.append_assoc, List.getLast?_concat]

/-- A text with a time and no offset ends in a digit. -/
theorem endsInDigit_of_wallText? {cs : List Char} {r : Reading} (h : wallText? cs = some r) :
    ∃ d : Char, d.isDigit = true ∧ cs.getLast? = some d := by
  rcases Option.or_eq_some_iff.mp h with hshape | ⟨-, hhour⟩
  · exact endsInDigit_of_firstOf endsInDigit_of_mem_wallShapes hshape
  · exact endsInDigit_of_dateHour? hhour

/-- A text without a time ends in a digit. -/
theorem endsInDigit_of_dateText? {cs : List Char} {r : Reading} (h : dateText? cs = some r) :
    ∃ d : Char, d.isDigit = true ∧ cs.getLast? = some d := by
  obtain ⟨day, hday, -⟩ := Option.map_eq_some_iff.mp h
  exact endsInDigit_of_firstOf endsInDigit_of_mem_dateShapes hday

end DateText

/-! ## Durations -/

/-- Blanks before a text that ends in another character are taken off before that one. -/
lemma skipBlanks_concat {c : Char} (hc : isBlank c = false) (cs : List Char) :
    skipBlanks (cs ++ [c]) = skipBlanks cs ++ [c] := by
  induction cs with
  | nil => simp [skipBlanks, hc]
  | cons b rest ih =>
    by_cases hb : isBlank b = true
    · simpa [skipBlanks, hb] using ih
    · simp [skipBlanks, hb]

/-- Taking the blanks off both sides of a text leaves its last character, if that is none. -/
lemma getLast?_trim {cs : List Char} {c : Char} (h : cs.getLast? = some c)
    (hc : isBlank c = false) : (trim cs).getLast? = some c := by
  obtain ⟨before, rfl⟩ := List.getLast?_eq_some_iff.mp h
  rw [trim, skipBlanks_concat hc, List.reverse_concat, skipBlanks,
    List.dropWhile_cons_of_neg (by simp [hc])]
  simp

/-- The code points of letters. -/
lemma toNat_of_isAlpha {c : Char} (h : c.isAlpha = true) :
    (65 ≤ c.toNat ∧ c.toNat ≤ 90) ∨ (97 ≤ c.toNat ∧ c.toNat ≤ 122) := by
  have hcase : (decide (c.val ≥ 'A'.val ∧ c.val ≤ 'Z'.val) ||
      (c.val ≥ 'a'.val && c.val ≤ 'z'.val)) = true := h
  simp only [Bool.or_eq_true, Bool.and_eq_true, decide_eq_true_eq, ge_iff_le,
    UInt32.le_iff_toNat_le] at hcase
  exact hcase

/-- A letter is no blank. -/
lemma isBlank_of_isAlpha {c : Char} (h : c.isAlpha = true) : isBlank c = false := by
  have := toNat_of_isAlpha h
  simp only [isBlank, Bool.or_eq_false_iff, Bool.and_eq_false_iff, decide_eq_false_iff_not,
    beq_eq_false_iff_ne]
  omega

/-- A letter is no digit. -/
lemma isDigit_of_isAlpha {c : Char} (h : c.isAlpha = true) : c.isDigit = false := by
  have := toNat_of_isAlpha h
  by_contra hdigit
  simp only [Char.isDigit, Bool.not_eq_false, Bool.and_eq_true, decide_eq_true_eq, ge_iff_le,
    UInt32.le_iff_toNat_le] at hdigit
  simp only [Char.toNat] at this
  have hle : c.val.toNat ≤ 57 := hdigit.2
  omega

namespace Duration

/-- The words for units end in letters. -/
lemma endsInLetter_of_ofWord? {word : String} {u : TimeUnit} (h : TimeUnit.ofWord? word = some u) :
    ∃ c : Char, c.isAlpha = true ∧ word.toList.getLast? = some c := by
  have hall : ∀ u ∈ TimeUnit.all, ∀ word ∈ u.words,
      word.toList.getLast?.any Char.isAlpha = true := by decide
  have hword : word ∈ u.words := by simpa using List.find?_some h
  have hlast := hall u (List.mem_of_find?_eq_some h) word hword
  obtain ⟨c, hc, halpha⟩ := (Option.any_eq_true _ _).mp hlast
  exact ⟨c, halpha, hc⟩

/-- A duration ends in a letter. -/
theorem endsInLetter_of_parse? {word : String} {d : Duration} (h : parse? word = some d) :
    ∃ c : Char, c.isAlpha = true ∧ word.toList.getLast? = some c := by
  simp only [parse?, ofChars?, Option.bind_eq_bind, Option.bind_eq_some_iff] at h
  obtain ⟨u, hu, -⟩ := h
  obtain ⟨c, hc, hlast⟩ := endsInLetter_of_ofWord? hu
  rw [String.toList_ofList] at hlast
  obtain ⟨before, hbefore⟩ := List.getLast?_eq_some_iff.mp hlast
  refine ⟨c, hc, List.getLast?_eq_some_iff.mpr ?_⟩
  refine ⟨word.toList.takeWhile (fun c => !c.isAlpha) ++ before, ?_⟩
  rw [List.append_assoc, ← hbefore, List.takeWhile_append_dropWhile]

open DateText in
/-- No duration is a date without an offset. -/
theorem not_wall_of_parse? {word : String} {d : Duration} (h : parse? word = some d) :
    wallText? (trim word.toList) = none ∧ dateText? (trim word.toList) = none := by
  obtain ⟨c, hc, hlast⟩ := endsInLetter_of_parse? h
  have hletter := getLast?_trim hlast (isBlank_of_isAlpha hc)
  have hdigit : ¬ ∃ d : Char, d.isDigit = true ∧ (trim word.toList).getLast? = some d := by
    rintro ⟨d, hd, hd'⟩
    obtain rfl : c = d := Option.some.inj (hletter.symm.trans hd')
    rw [isDigit_of_isAlpha hc] at hd
    cases hd
  constructor
  · by_contra hwall
    obtain ⟨r, hr⟩ := Option.ne_none_iff_exists'.mp hwall
    exact hdigit (endsInDigit_of_wallText? hr)
  · by_contra hdate
    obtain ⟨r, hr⟩ := Option.ne_none_iff_exists'.mp hdate
    exact hdigit (endsInDigit_of_dateText? hr)

end Duration

end Almanac

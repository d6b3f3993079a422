import Almanac.Expression
import Almanac.Proofs.DateEnds

set_option relaxedAutoImplicit false
set_option autoImplicit false

/-!
# Words mean one thing

A word can be a date, an anchor or a duration, and no word is two of these. The two that look most
alike are dates that carry an offset, which may end in a letter, and durations. They are told apart
by a colon: whatever its shape, a date with an offset has one between hour and minute, while in a
duration there are digits, a sign, a point and letters only.

## Main definitions

* `Almanac.Reader.Takes` — a reader reads no text without a certain character.
* `Almanac.Present.anchors`, `Almanac.Present.anchorSpellings` — the anchors and the words for them.
* `Almanac.Present.Denotes` — what a word denotes, in no order of its readings.

## Main results

* `Almanac.DateText.colon_mem_of_offsetText?` — dates with an offset have a colon.
* `Almanac.Duration.colon_not_mem_of_parse?` — durations have none.
* `Almanac.Zone.instantOf?_of_parse?`, `Almanac.Zone.instantOf?_of_anchor`,
  `Almanac.Present.ofWord?_of_parse?` — no word is read in two ways.
* `Almanac.Present.operandOf_unambiguous` — the order of the readings does not matter.
-/

namespace Almanac

namespace Reader

/-! ## Characters that readers take -/

/-- A reader takes a character: there is one in every text that it reads. -/
def Takes {α : Type} (c : Char) (r : Reader α) : Prop :=
  ∀ cs a rest, r cs = some (a, rest) → c ∈ cs

section Combinators

variable {α β : Type} {c : Char} {r : Reader α} {f : α → Reader β}

/-- What the first of two readers takes, both do. -/
lemma Takes.bind_left (hr : r.Takes c) : Takes c (r >>= f) := by
  intro cs b rest h
  obtain ⟨a, next, hnext, -⟩ := bind_eq_some.mp h
  exact hr cs a next hnext

/-- What the second of two readers takes, both do, since the first one leaves an end of the text. -/
lemma Takes.bind_right (hr : r.Drops) (hf : ∀ a, (f a).Takes c) : Takes c (r >>= f) := by
  intro cs b rest h
  obtain ⟨a, next, hnext, hrest⟩ := bind_eq_some.mp h
  exact (hr cs a next hnext).mem (hf a next b rest hrest)

/-- Two readers drop what they take, one after the other. -/
lemma Drops.bind (hr : r.Drops) (hf : ∀ a, (f a).Drops) : Drops (r >>= f) := by
  intro cs b rest h
  obtain ⟨a, next, hnext, hrest⟩ := bind_eq_some.mp h
  exact (hf a next b rest hrest).trans (hr cs a next hnext)

/-- A whole text that is read by a reader has the character that it takes. -/
lemma Takes.of_all (h : r.Takes c) {cs : List Char} {a : α} (ha : r.all cs = some a) : c ∈ cs := by
  rw [all] at ha
  split at ha
  · next b hb => exact h cs b [] hb
  · cases ha

/-- A whole text that is read by one of several readers has the character that all of them take. -/
lemma mem_of_firstOf {rs : List (Reader α)} (h : ∀ r ∈ rs, r.Takes c) {cs : List Char} {a : α}
    (ha : firstOf rs cs = some a) : c ∈ cs := by
  obtain ⟨r, hr, hall⟩ := List.exists_of_findSome?_eq_some ha
  exact (h r hr).of_all hall

end Combinators

/-- A character is taken by its reader. -/
lemma takes_char (c : Char) : (char c).Takes c := by
  intro cs a rest h
  unfold char at h
  split at h
  · cases h
  · next d tail =>
    split at h
    · next hd =>
      rw [hd]
      exact List.mem_cons_self
    · cases h

/-- A character of a class is dropped. -/
lemma drops_oneOf (p : Char → Bool) : (oneOf p).Drops := by
  intro cs a rest h
  unfold oneOf at h
  split at h
  · cases h
  · split at h
    · cases h
      exact List.suffix_cons _ _
    · cases h

/-- A reader that wants a value drops nothing. -/
lemma drops_require {α : Type} (a? : Option α) : (require a?).Drops := by
  intro cs a rest h
  obtain ⟨b, -, hb⟩ := Option.map_eq_some_iff.mp h
  cases hb
  exact List.suffix_rfl

/-- A run of blanks is dropped. -/
lemma drops_someBlanks : someBlanks.Drops :=
  (drops_oneOf _).bind fun _ => drops_blanks

/-- Digits are dropped, if there must be one. -/
lemma drops_digits {least most : Nat} (hleast : 1 ≤ least) : (digits least most).Drops :=
  (endsInDigit_digits hleast).drops

end Reader

namespace DateText

open Reader

/-! ## Dates with an offset have a colon -/

/-- A name is dropped. -/
lemma drops_abbreviation (names : List String) : (abbreviation names).Drops := by
  intro cs a rest h
  unfold abbreviation at h
  simp only at h
  split at h
  · cases h
    exact List.drop_suffix _ _
  · cases h

/-- A stated week day is dropped. -/
lemma drops_statedWeekday : statedWeekday.Drops := by
  intro cs a rest h
  unfold statedWeekday at h
  split at h
  · next w tail hname =>
    cases h
    exact (List.suffix_cons _ _).trans (drops_abbreviation weekdayNames cs w _ hname)
  · cases h
  · cases h
    exact List.suffix_rfl

/-- A year is dropped. -/
lemma drops_mailYear : mailYear.Drops :=
  endsInDigit_allDigits.drops.bind fun _ => drops_require _

/-- An internet date has a colon after the hour. -/
lemma takes_internet : internet.Takes ':' :=
  .bind_right (drops_digits (by omega)) fun _ => .bind_right (drops_char _) fun _ =>
    .bind_right (drops_digits (by omega)) fun _ => .bind_right (drops_char _) fun _ =>
      .bind_right (drops_digits (by omega)) fun _ => .bind_right (drops_oneOf _) fun _ =>
        .bind_right (drops_digits (by omega)) fun _ => .bind_left (takes_char ':')

/-- A mail date has a colon after the hour. -/
lemma takes_mailDate : mailDate.Takes ':' :=
  .bind_right drops_blanks fun _ => .bind_right drops_statedWeekday fun _ =>
    .bind_right drops_blanks fun _ => .bind_right (drops_digits (by omega)) fun _ =>
      .bind_right drops_someBlanks fun _ => .bind_right (drops_abbreviation _) fun _ =>
        .bind_right drops_someBlanks fun _ => .bind_right drops_mailYear fun _ =>
          .bind_right drops_someBlanks fun _ => .bind_right (drops_digits (by omega)) fun _ =>
            .bind_right drops_blanks fun _ => .bind_left (takes_char ':')

/-- Hour and minute have a colon between them. -/
lemma takes_hourMinute : hourMinute.Takes ':' :=
  .bind_right (endsInDigit_number 2).drops fun _ => .bind_left (takes_char ':')

/-- Hour, minute and second have a colon between them. -/
lemma takes_hourMinuteSecond : hourMinuteSecond.Takes ':' :=
  .bind_right (endsInDigit_number 2).drops fun _ => .bind_left (takes_char ':')

/-- A day with a time and an offset has the colon of the time. -/
lemma takes_offsetDateTime {separator : Reader Unit} {time : Reader Reading}
    (hseparator : separator.Drops) (htime : time.Takes ':') :
    (offsetDateTime separator time).Takes ':' :=
  .bind_left (.bind_right (endsInDigit_calendarDate '-').drops fun _ =>
    .bind_right hseparator fun _ => .bind_left htime)

/-- The shapes of a day with a time and an offset have a colon. -/
lemma takes_of_mem_offsetShapes : ∀ r ∈ offsetShapes, r.Takes ':' := by
  intro r hr
  simp only [offsetShapes, List.mem_cons, List.not_mem_nil, or_false] at hr
  rcases hr with rfl | rfl | rfl | rfl
  · exact takes_offsetDateTime (drops_char _) takes_hourMinuteSecond
  · exact takes_offsetDateTime drops_blanks takes_hourMinuteSecond
  · exact takes_offsetDateTime (drops_char _) takes_hourMinute
  · exact takes_offsetDateTime drops_blanks takes_hourMinute

/-- A text with an offset of its own has a colon. -/
theorem colon_mem_of_offsetText? {cs : List Char} {r : Reading} (h : offsetText? cs = some r) :
    ':' ∈ cs := by
  rcases Option.or_eq_some_iff.mp h with hinternet | ⟨-, hother⟩
  · exact takes_internet.of_all hinternet
  rcases Option.or_eq_some_iff.mp hother with hmail | ⟨-, hshape⟩
  · unfold mail? at hmail
    split at hmail
    · next date rest hdate => exact takes_mailDate cs date rest hdate
    · cases hmail
  · exact mem_of_firstOf takes_of_mem_offsetShapes hshape

end DateText

/-! ## Durations have none -/

/-- Taking off blanks adds no characters. -/
lemma mem_of_mem_trim {c : Char} {cs : List Char} (h : c ∈ trim cs) : c ∈ cs := by
  have hskip : ∀ {ds : List Char}, c ∈ skipBlanks ds → c ∈ ds := fun hc =>
    (List.dropWhile_suffix _).mem hc
  rw [trim, List.mem_reverse] at h
  have hreverse := hskip h
  rw [List.mem_reverse] at hreverse
  exact hskip hreverse

namespace Magnitude

/-- An unsigned decimal consists of digits and points. -/
lemma isDigit_or_point_of_unsigned? {cs : List Char} {n : Nat} (h : unsigned? cs = some n) {c : Char}
    (hc : c ∈ cs) : c.isDigit = true ∨ c = '.' := by
  have hnumeral : ∀ {ds : List Char}, isNumeral ds = true → c ∈ ds → c.isDigit = true := by
    intro ds hds hmem
    simp only [isNumeral, Bool.and_eq_true, List.all_eq_true] at hds
    exact hds.2 c hmem
  have hsplit : cs.takeWhile (· != '.') ++ cs.dropWhile (· != '.') = cs :=
    List.takeWhile_append_dropWhile
  rw [← hsplit, List.mem_append] at hc
  unfold unsigned? at h
  simp only at h
  split at h
  · next hdrop =>
    split at h
    · next hwhole =>
      rw [hdrop] at hc
      exact Or.inl (hnumeral hwhole (by simpa using hc))
    · cases h
  · next point places hdrop =>
    split at h
    · next hdigits =>
      simp only [Bool.and_eq_true, decide_eq_true_eq] at hdigits
      obtain ⟨⟨hwhole, hplaces⟩, -⟩ := hdigits
      have hpoint : point = '.' := by
        have hhead := List.head_dropWhile_not (· != '.') (l := cs) (by simp [hdrop])
        simpa [hdrop] using hhead
      rw [hdrop, List.mem_cons, hpoint] at hc
      rcases hc with hc | hc | hc
      · exact Or.inl (hnumeral hwhole hc)
      · exact Or.inr hc
      · exact Or.inl (hnumeral hplaces hc)
    · cases h

/-- A magnitude is an unsigned decimal, perhaps after a sign. -/
lemma exists_unsigned?_of_ofChars? {cs : List Char} {m : Magnitude} (h : ofChars? cs = some m) :
    ∃ ds n, unsigned? ds = some n ∧ (cs = '-' :: ds ∨ cs = '+' :: ds ∨ cs = ds) := by
  unfold ofChars? at h
  simp only at h
  split at h
  · next n hn =>
    split at hn
    · exact ⟨_, n, hn, Or.inl rfl⟩
    · exact ⟨_, n, hn, Or.inr (Or.inl rfl)⟩
    · exact ⟨_, n, hn, Or.inr (Or.inr rfl)⟩
  · cases h

/-- There is no colon in a magnitude. -/
lemma colon_not_mem_of_ofChars? {cs : List Char} {m : Magnitude} (h : ofChars? cs = some m) :
    ':' ∉ cs := by
  obtain ⟨ds, n, hds, hcs⟩ := exists_unsigned?_of_ofChars? h
  have hnot : ':' ∉ ds := by
    intro hmem
    rcases isDigit_or_point_of_unsigned? hds hmem with hdigit | hpoint
    · exact absurd hdigit (by decide)
    · exact absurd hpoint (by decide)
  rcases hcs with rfl | rfl | rfl
  · simpa using hnot
  · simpa using hnot
  · exact hnot

end Magnitude

namespace Duration

/-- There is no colon in a word for a unit. -/
lemma colon_not_mem_of_ofWord? {word : String} {u : TimeUnit}
    (h : TimeUnit.ofWord? word = some u) : ':' ∉ word.toList := by
  have hall : ∀ u ∈ TimeUnit.all, ∀ word ∈ u.words, ':' ∉ word.toList := by decide
  have hword : word ∈ u.words := by simpa using List.find?_some h
  exact hall u (List.mem_of_find?_eq_some h) word hword

/-- There is no colon in a duration. -/
theorem colon_not_mem_of_parse? {word : String} {d : Duration} (h : parse? word = some d) :
    ':' ∉ word.toList := by
  simp only [parse?, ofChars?, Option.bind_eq_bind, Option.bind_eq_some_iff] at h
  obtain ⟨u, hu, hmagnitude⟩ := h
  have hunit := colon_not_mem_of_ofWord? hu
  rw [String.toList_ofList] at hunit
  have hamount : ':' ∉ word.toList.takeWhile fun c => !c.isAlpha := by
    split_ifs at hmagnitude with hempty
    · simp [List.isEmpty_iff.mp hempty]
    · obtain ⟨m, hm, -⟩ := Option.bind_eq_some_iff.mp hmagnitude
      exact Magnitude.colon_not_mem_of_ofChars? hm
  have hsplit : word.toList.takeWhile (fun c => !c.isAlpha) ++
      word.toList.dropWhile (fun c => !c.isAlpha) = word.toList := List.takeWhile_append_dropWhile
  rw [← hsplit, List.mem_append, not_or]
  exact ⟨hamount, hunit⟩

end Duration

/-! ## One reading at most -/

/-- The instants that words denote. -/
def Present.anchors (p : Present) : List Instant :=
  [p.now, p.today, p.tomorrow, p.yesterday]

/-- The words for each of the anchors. -/
def Present.anchorSpellings : List (List String) :=
  [todayWords, nowWords, tomorrowWords, yesterdayWords]

/-- The words for anchors. -/
def Present.anchorWords : List String :=
  anchorSpellings.flatten

/-- The words that have an anchor are those for anchors. -/
lemma Present.ofWord?_eq_none_iff {p : Present} {word : String} :
    p.ofWord? word = none ↔ word ∉ anchorWords := by
  unfold ofWord? anchorWords anchorSpellings
  split_ifs <;> simp_all

/-- What a word for an anchor denotes is one of them. -/
lemma Present.mem_anchors_of_ofWord? {p : Present} {word : String} {x : Instant}
    (h : p.ofWord? word = some x) : x ∈ p.anchors := by
  simp only [ofWord?] at h
  split_ifs at h <;> cases h <;> simp [anchors]

/-- No duration is a date. -/
theorem Zone.instantOf?_of_parse? (z : Zone) {word : String} {d : Duration}
    (h : Duration.parse? word = some d) : z.instantOf? word = none := by
  have hoffset : DateText.offsetText? (trim word.toList) = none := by
    by_contra hsome
    obtain ⟨r, hr⟩ := Option.ne_none_iff_exists'.mp hsome
    exact Duration.colon_not_mem_of_parse? h
      (mem_of_mem_trim (DateText.colon_mem_of_offsetText? hr))
  obtain ⟨hwall, hdate⟩ := Duration.not_wall_of_parse? h
  simp [instantOf?, hoffset, hwall, hdate]

/-- No word for an anchor is a date. -/
theorem Zone.instantOf?_of_anchor (z : Zone) {word : String} (h : word ∈ Present.anchorWords) :
    z.instantOf? word = none := by
  have hall : ∀ anchor ∈ Present.anchorWords, DateText.offsetText? (trim anchor.toList) = none ∧
      DateText.wallText? (trim anchor.toList) = none ∧
      DateText.dateText? (trim anchor.toList) = none := by decide
  obtain ⟨hoffset, hwall, hdate⟩ := hall word h
  simp [instantOf?, hoffset, hwall, hdate]

/-- No word for an anchor is a duration. -/
theorem Present.ofWord?_of_parse? (p : Present) {word : String} {d : Duration}
    (h : Duration.parse? word = some d) : p.ofWord? word = none := by
  have hanchors : ∀ anchor ∈ anchorWords, Duration.parse? anchor = none := by decide
  refine ofWord?_eq_none_iff.mpr fun hmem => ?_
  rw [hanchors word hmem] at h
  cases h

/-- What a word denotes: it is a date, an anchor or a duration. The readings stand in no order. -/
inductive Present.Denotes (p : Present) (word : String) : Operand → Prop
  | date {i : Instant} (h : p.zone.instantOf? word = some i) : Denotes p word (.instant i)
  | anchor {i : Instant} (h : p.ofWord? word = some i) : Denotes p word (.instant i)
  | duration {d : Duration} (h : Duration.parse? word = some d) : Denotes p word (.duration d)

namespace Present

variable (p : Present) {word : String}

/-- A date denotes its instant. -/
lemma operandOf_of_instantOf? {i : Instant} (h : p.zone.instantOf? word = some i) :
    p.operandOf word = .ok (.instant i) := by
  unfold operandOf
  rw [h, Option.some_or]

/-- A word for an anchor denotes it. -/
lemma operandOf_of_ofWord? {i : Instant} (h : p.ofWord? word = some i) :
    p.operandOf word = .ok (.instant i) := by
  have hanchor : word ∈ anchorWords := by
    by_contra hword
    rw [ofWord?_eq_none_iff.mpr hword] at h
    cases h
  unfold operandOf
  rw [p.zone.instantOf?_of_anchor hanchor, h, Option.none_or]

/-- A word for a duration denotes it. -/
lemma operandOf_of_parse? {d : Duration} (h : Duration.parse? word = some d) :
    p.operandOf word = .ok (.duration d) := by
  unfold operandOf
  rw [p.zone.instantOf?_of_parse? h, p.ofWord?_of_parse? h, Option.or_none, h]

/-- A word denotes what it is read as, in whatever order its readings are tried. -/
lemma operandOf_eq_ok_iff {o : Operand} : p.operandOf word = .ok o ↔ p.Denotes word o := by
  constructor
  · intro h
    unfold operandOf at h
    split at h
    · next i hi =>
      cases h
      rcases Option.or_eq_some_iff.mp hi with hdate | ⟨-, hanchor⟩
      · exact .date hdate
      · exact .anchor hanchor
    · split at h
      · next d hd =>
        cases h
        exact .duration hd
      · cases h
  · intro h
    cases h with
    | date h => exact p.operandOf_of_instantOf? h
    | anchor h => exact p.operandOf_of_ofWord? h
    | duration h => exact p.operandOf_of_parse? h

/-- No word is a date, an anchor and a duration, nor two of them, and so it does not matter in which
order these readings are tried.

**Proof sketch.** None of the five words for anchors is a date or a duration. A date without an
offset ends in a digit and a duration in a letter; a date with an offset has a colon and a duration
has none. -/
theorem operandOf_unambiguous (word : String) :
    (p.zone.instantOf? word = none ∨ p.ofWord? word = none) ∧
      (p.zone.instantOf? word = none ∨ Duration.parse? word = none) ∧
      (p.ofWord? word = none ∨ Duration.parse? word = none) ∧
      ∀ o, p.operandOf word = .ok o ↔ p.Denotes word o := by
  refine ⟨?_, ?_, ?_, fun o => p.operandOf_eq_ok_iff⟩
  · by_cases hanchor : word ∈ anchorWords
    · exact Or.inl (p.zone.instantOf?_of_anchor hanchor)
    · exact Or.inr (ofWord?_eq_none_iff.mpr hanchor)
  · cases hparse : Duration.parse? word with
    | none => exact Or.inr rfl
    | some d => exact Or.inl (p.zone.instantOf?_of_parse? hparse)
  · cases hparse : Duration.parse? word with
    | none => exact Or.inr rfl
    | some d => exact Or.inl (p.ofWord?_of_parse? hparse)

/-- A letter may be the zone of a mail date as well as the word for a unit. -/
example : DateText.offsetText? "1 Jan 2024 09:00 M".toList = some ⟨1704099600, 0, by decide⟩ ∧
    Duration.parse? "M" = some ⟨.one, .months⟩ := by
  decide +kernel

end Present

end Almanac

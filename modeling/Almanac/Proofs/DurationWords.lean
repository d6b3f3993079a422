import Almanac.Proofs.DurationSums

set_option relaxedAutoImplicit false
set_option autoImplicit false

/-!
# Words for durations

A word for a duration is a word for a unit, perhaps with a decimal before it. It falls into these
two in one way only, and the decimal into its sign, its digits and its places. The word that is
written for a duration has nothing superfluous in it, so it is read back, and two durations that are
written alike are the same. One magnitude is written and not read: the most negative one, which sums
come to although no word denotes it.

## Main definitions

* `Almanac.Magnitude.least` — the most negative magnitude.
* `Almanac.DurationWord` — words for durations, cut into their parts.

## Main results

* `Almanac.Decimal.chars_injective`, `Almanac.DurationWord.text_injective` — decimals and words fall
  into their parts in one way.
* `Almanac.Duration.parse?_iff_durationWord` — what is read as a duration, and how it is cut.
* `Almanac.Duration.parse?_text` — what is written for a duration, and how it is read back.
-/

namespace Almanac

/-! ## The most negative magnitude -/

namespace Magnitude

/-- The most negative magnitude. -/
def least : Magnitude := ⟨-170141183460469231731687303715884105728, by decide⟩

/-- Every other magnitude has 128 bits without its sign. -/
lemma natAbs_lt_iff {m : Magnitude} : m.billionths.natAbs < 2 ^ 127 ↔ m ≠ least := by
  obtain ⟨n, hfits⟩ := m
  have hleast : (⟨n, hfits⟩ : Magnitude) = least ↔ n = -170141183460469231731687303715884105728 :=
    Magnitude.mk.injEq _ _ _ _ ▸ Iff.rfl
  rw [ne_eq, hleast]
  simp only [Fits128] at hfits ⊢
  omega

end Magnitude

/-! ## Decimals by their parts -/

namespace Decimal

/-- A decimal is cut at its first digit. -/
lemma takeWhile_chars (d : Decimal) :
    d.chars.takeWhile (fun c => !c.isDigit) = signChars d.sign ∧
      d.chars.dropWhile (fun c => !c.isDigit) = d.unsignedChars := by
  obtain ⟨c, cs, hcs⟩ := List.exists_cons_of_ne_nil d.whole_ne_nil
  have hc : c.isDigit = true := d.isDigit_whole c (by simp [hcs])
  have hsign : ∀ c ∈ signChars d.sign, (!c.isDigit) = true := by
    rcases d.sign with _ | _ | _ <;> simp [signChars]
  rw [chars, List.takeWhile_append_of_pos hsign, List.dropWhile_append_of_pos hsign]
  simp [unsignedChars, hcs, hc]

/-- Decimals that look alike are the same: the first digit ends the sign, and the point ends the
whole number. -/
theorem chars_injective : Function.Injective chars := by
  intro d e h
  obtain ⟨hsign, hunsigned⟩ := takeWhile_chars d
  obtain ⟨hsign', hunsigned'⟩ := takeWhile_chars e
  rw [h] at hsign hunsigned
  have hsigns : d.sign = e.sign := by
    have hchars := hsign.symm.trans hsign'
    rcases hd : d.sign with _ | _ | _ <;> rcases he : e.sign with _ | _ | _ <;>
      simp [hd, he, signChars] at hchars ⊢
  obtain ⟨hwhole, hpoint⟩ := Magnitude.takeWhile_unsignedChars d
  obtain ⟨hwhole', hpoint'⟩ := Magnitude.takeWhile_unsignedChars e
  rw [← hunsigned, hunsigned'] at hwhole hpoint
  have hplaces : d.places = e.places := by
    have hpoints := hpoint.symm.trans hpoint'
    split_ifs at hpoints <;> simp_all
  cases d
  cases e
  simp only [mk.injEq]
  exact ⟨hsigns, hwhole.symm.trans hwhole', hplaces⟩

end Decimal

/-! ## Words by their parts -/

/-- What stands before the words for units, and the words themselves, are the same in texts that are
the same. -/
lemma TimeUnit.eq_of_append_eq {cs ds : List Char} {name name' : String} {u v : TimeUnit}
    (hcs : ∀ c ∈ cs, c.isAlpha = false) (hds : ∀ c ∈ ds, c.isAlpha = false) (hname : name ∈ u.words)
    (hname' : name' ∈ v.words) (h : String.ofList cs ++ name = String.ofList ds ++ name') :
    cs = ds ∧ name = name' ∧ u = v := by
  have hchars : cs ++ name.toList = ds ++ name'.toList := by
    simpa using congrArg String.toList h
  obtain ⟨hamount, hletters⟩ := TimeUnit.takeWhile_append hcs hname
  obtain ⟨hamount', hletters'⟩ := TimeUnit.takeWhile_append hds hname'
  rw [hchars] at hamount hletters
  have hnames : name = name' := String.toList_inj.mp (hletters.symm.trans hletters')
  refine ⟨hamount.symm.trans hamount', hnames, ?_⟩
  subst hnames
  exact Option.some.inj
    ((TimeUnit.ofWord?_of_mem hname).symm.trans (TimeUnit.ofWord?_of_mem hname'))

/-- A word for a duration: a word for a unit, perhaps after a decimal. -/
@[ext]
structure DurationWord where
  /-- None if the unit stands alone, for one of it. -/
  amount : Option Decimal
  unit : TimeUnit
  /-- The word for the unit. -/
  name : String
  name_mem : name ∈ unit.words

namespace DurationWord

/-- What stands before the word for the unit. -/
def amountChars (w : DurationWord) : List Char :=
  match w.amount with
  | none => []
  | some d => d.chars

/-- The word itself. -/
def text (w : DurationWord) : String :=
  String.ofList w.amountChars ++ w.name

/-- The billionths of the unit that a word denotes. -/
def billionths (w : DurationWord) : Int :=
  match w.amount with
  | none => 1000000000
  | some d => d.billionths

/-- The decimal has 128 bits without its sign. -/
def Fits (w : DurationWord) : Prop :=
  ∀ d ∈ w.amount, d.Fits

/-- There are no letters before the word for the unit. -/
lemma isAlpha_of_mem_amountChars (w : DurationWord) : ∀ c ∈ w.amountChars, c.isAlpha = false := by
  unfold amountChars
  cases w.amount with
  | none => simp
  | some d => exact fun c => Decimal.isAlpha_of_mem_chars

/-- A word falls into its parts in one way. -/
theorem text_injective : Function.Injective text := by
  intro w v h
  obtain ⟨hchars, hname, hunit⟩ := TimeUnit.eq_of_append_eq w.isAlpha_of_mem_amountChars
    v.isAlpha_of_mem_amountChars w.name_mem v.name_mem h
  have hamount : w.amount = v.amount := by
    unfold amountChars at hchars
    cases hw : w.amount with
    | none =>
      cases hv : v.amount with
      | none => rfl
      | some e =>
        rw [hw, hv] at hchars
        exact absurd hchars.symm e.chars_ne_nil
    | some d =>
      cases hv : v.amount with
      | none =>
        rw [hw, hv] at hchars
        exact absurd hchars d.chars_ne_nil
      | some e =>
        rw [hw, hv] at hchars
        rw [Decimal.chars_injective hchars]
  exact DurationWord.ext hamount hunit hname

/-- The words that are durations of so many billionths are those that can be cut into parts that
denote as many. -/
lemma written_iff {word : String} {n : Int} {u : TimeUnit} : WrittenDuration word n u ↔
    ∃ w : DurationWord, w.text = word ∧ w.Fits ∧ w.billionths = n ∧ w.unit = u := by
  constructor
  · intro h
    cases h with
    | one hname => exact ⟨⟨none, u, word, hname⟩, String.empty_append, by simp [Fits], rfl, rfl⟩
    | @decimal name _ hname d hfits =>
      exact ⟨⟨some d, u, name, hname⟩, rfl, by simpa [Fits] using hfits, rfl, rfl⟩
  · rintro ⟨⟨amount, unit, name, hname⟩, rfl, hfits, rfl, rfl⟩
    cases amount with
    | none =>
      have htext : text ⟨none, unit, name, hname⟩ = name := String.empty_append
      rw [htext]
      exact .one hname
    | some d => exact .decimal hname (hfits d rfl)

end DurationWord

namespace Duration

/-- A word is read as a duration if it can be cut into a word for its unit and, before that, nothing
for one of it or a decimal for its magnitude that has 128 bits without its sign. It can be cut in
one way only. -/
theorem parse?_iff_durationWord (word : String) :
    (∀ d, parse? word = some d ↔ ∃ w : DurationWord, w.text = word ∧ w.Fits ∧
      w.billionths = d.magnitude.billionths ∧ w.unit = d.unit) ∧
    {w : DurationWord | w.text = word}.Subsingleton := by
  refine ⟨fun d => parse?_eq_some_iff.trans DurationWord.written_iff, ?_⟩
  intro w hw v hv
  exact DurationWord.text_injective (hw.trans hv.symm)

/-! ## Written durations -/

/-- The name of a unit is one of the words for it. -/
lemma name_mem (u : TimeUnit) : u.name ∈ u.words := by
  cases u <;> decide

/-- The decimal of a duration, and the name of its unit. -/
def durationWord (d : Duration) : DurationWord :=
  ⟨some (Decimal.ofBillionths d.magnitude.billionths), d.unit, d.unit.name, name_mem d.unit⟩

/-- What is written for a duration. -/
lemma text_durationWord (d : Duration) : d.durationWord.text = d.text := by
  rw [text_eq, String.ofList_append, String.ofList_toList]
  rfl

/-- The decimal of a duration denotes its magnitude. -/
lemma billionths_durationWord (d : Duration) :
    d.durationWord.billionths = d.magnitude.billionths :=
  Decimal.billionths_ofBillionths _

/-- Only the most negative magnitude has more bits without its sign. -/
lemma fits_durationWord_iff (d : Duration) : d.durationWord.Fits ↔ d.magnitude ≠ .least := by
  rw [← Magnitude.natAbs_lt_iff]
  simp [DurationWord.Fits, durationWord, Decimal.Fits, Decimal.absolute_ofBillionths]

/-- What is written for a duration is read as that duration, unless its magnitude is the most
negative one. -/
lemma parse?_text_eq (d : Duration) :
    parse? d.text = if d.magnitude = .least then none else some d := by
  obtain ⟨hread, hunique⟩ := parse?_iff_durationWord d.text
  split
  · next hleast =>
    rw [Option.eq_none_iff_forall_ne_some]
    intro e he
    obtain ⟨w, hw, hfits, -, -⟩ := (hread e).mp he
    rw [hunique hw d.text_durationWord] at hfits
    exact (fits_durationWord_iff d).mp hfits hleast
  · next hleast =>
    exact (hread d).mpr ⟨d.durationWord, d.text_durationWord, (fits_durationWord_iff d).mpr hleast,
      d.billionths_durationWord, rfl⟩

/-- Durations that are written alike are the same. -/
lemma text_injective : Function.Injective text := by
  intro d e h
  rw [← d.text_durationWord, ← e.text_durationWord] at h
  have hwords : d.durationWord = e.durationWord := DurationWord.text_injective h
  have hbillionths : d.magnitude.billionths = e.magnitude.billionths := by
    rw [← d.billionths_durationWord, hwords, e.billionths_durationWord]
  have hunit : d.unit = e.unit := congrArg DurationWord.unit hwords
  obtain ⟨⟨n, hn⟩, u⟩ := d
  obtain ⟨⟨m, hm⟩, v⟩ := e
  subst hbillionths hunit
  rfl

/-- What is written for a duration with another magnitude is a word for it. -/
lemma written_text {d : Duration} (h : d.magnitude ≠ .least) :
    WrittenDuration d.text d.magnitude.billionths d.unit :=
  written_of_parse? ((parse?_text_eq d).trans (if_neg h))

/-- The next magnitude less a billionth is the most negative one. -/
lemma exists_evaluate_least (u : TimeUnit) : ∃ words, ∀ p,
    evaluate p words = .ok (Value.plain (.duration ⟨.least, u⟩)) := by
  let next : Magnitude := ⟨-170141183460469231731687303715884105727, by decide⟩
  let billionth : Magnitude := ⟨1, by decide⟩
  have hnext : next ≠ .least := by decide
  have hbillionth : billionth ≠ .least := by decide
  have hword : WrittenDuration (text ⟨next, u⟩) next.billionths u := written_text hnext
  have hrest : WrittenSum u ["-", text ⟨billionth, u⟩] [Direction.sign .backward * 1] :=
    .cons (by decide) (written_text hbillionth) .nil
  have hwithin : SumsWithin Fits128 next.billionths [Direction.sign .backward * 1] := by decide
  refine ⟨[text ⟨next, u⟩, "-", text ⟨billionth, u⟩], fun p => ?_⟩
  obtain ⟨_, hevaluate⟩ := evaluate_of_sumsWithin p hword hrest (by simp) hwithin
  exact hevaluate

/-- What is written for a duration is read as that duration, unless its magnitude is the most
negative one, which no word denotes although there are expressions that come to it. It is a decimal
with nothing superfluous in it and the name of the unit, so that only equal durations are written
alike. -/
theorem parse?_text (d : Duration) :
    (parse? d.text = if d.magnitude = .least then none else some d) ∧
    (∃ words, ∀ p, evaluate p words = .ok (Value.plain (.duration ⟨.least, d.unit⟩))) ∧
    (∃ w : Decimal, w.Canonical ∧ w.billionths = d.magnitude.billionths ∧
      d.text = String.ofList w.chars ++ d.unit.name) ∧
    ∀ e : Duration, d.text = e.text ↔ d = e := by
  refine ⟨d.parse?_text_eq, exists_evaluate_least d.unit, ?_, fun e => text_injective.eq_iff⟩
  exact ⟨_, Decimal.canonical_ofBillionths _, d.billionths_durationWord, d.text_durationWord.symm⟩

end Duration

end Almanac

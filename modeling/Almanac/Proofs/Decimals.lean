import Almanac.Proofs.Fields
import Almanac.Proofs.Spelling
import Mathlib.Data.List.Induction

set_option relaxedAutoImplicit false
set_option autoImplicit false

/-!
# Decimals

What the magnitude of a duration looks like, and what it denotes, said apart from the reader and the
writer: a decimal is a sign, digits, and up to nine places, and denotes a count of billionths. The
reader accepts the decimals and nothing else, as long as their count has 128 bits; the writer gives
the one decimal for a count that has nothing superfluous in it.

## Main definitions

* `Almanac.Decimal` — decimals, with what they look like and what they denote.
* `Almanac.Decimal.Canonical` — there is nothing superfluous in a decimal.
* `Almanac.WrittenDuration` — the words that are durations.

## Main results

* `Almanac.Magnitude.ofChars?_eq_some_iff` — what is read as a magnitude.
* `Almanac.Magnitude.exists_canonical`, `Almanac.Decimal.eq_of_canonical` — what is written.
* `Almanac.Duration.parse?_eq_some_iff` — what is read as a duration.
-/

namespace Almanac

/-! ## Digits -/

/-- With one digit more a number is ten times as large. -/
lemma ofDigitChars_concat (ds : List Char) (c : Char) :
    Nat.ofDigitChars 10 (ds ++ [c]) 0 = 10 * Nat.ofDigitChars 10 ds 0 + (c.toNat - 48) := by
  rw [Nat.ofDigitChars_append, Nat.ofDigitChars_cons]
  rfl

/-- So many digits make a number below the power of ten. -/
lemma ofDigitChars_lt {ds : List Char} (hds : ∀ c ∈ ds, c.isDigit = true) :
    Nat.ofDigitChars 10 ds 0 < 10 ^ ds.length := by
  induction ds using List.reverseRecOn with
  | nil => decide
  | append_singleton ds c ih =>
    have hlt := ih fun d hd => hds d (List.mem_append_left _ hd)
    have hc := toNat_of_isDigit (hds c (List.mem_append_right _ List.mem_cons_self))
    rw [ofDigitChars_concat, List.length_append, List.length_singleton, Nat.pow_succ]
    omega

/-- As many digits that make the same number are the same. -/
lemma eq_of_ofDigitChars_eq {ds es : List Char} (hds : ∀ c ∈ ds, c.isDigit = true)
    (hes : ∀ c ∈ es, c.isDigit = true) (hlength : ds.length = es.length)
    (h : Nat.ofDigitChars 10 ds 0 = Nat.ofDigitChars 10 es 0) : ds = es := by
  induction ds using List.reverseRecOn generalizing es with
  | nil => exact (List.eq_nil_of_length_eq_zero hlength.symm).symm
  | append_singleton ds c ih =>
    obtain rfl | ⟨es, e, rfl⟩ := List.eq_nil_or_concat es
    · simp at hlength
    · rw [List.concat_eq_append] at *
      simp only [List.forall_mem_append, List.forall_mem_singleton] at hds hes
      have hc := toNat_of_isDigit hds.2
      have he := toNat_of_isDigit hes.2
      rw [ofDigitChars_concat, ofDigitChars_concat] at h
      have hlast : c = e := Char.toNat_inj.mp (by omega)
      rw [ih hds.1 hes.1 (by simpa using hlength) (by omega), hlast]

/-- Digits are a number that is filled to their length. -/
lemma zeroPadded_ofDigitChars {ds : List Char} (hne : ds ≠ [])
    (hds : ∀ c ∈ ds, c.isDigit = true) :
    zeroPadded ds.length (Nat.ofDigitChars 10 ds 0) = ds :=
  eq_of_ofDigitChars_eq (fun _ => isDigit_of_mem_zeroPadded) hds
    (length_zeroPadded (List.length_pos_iff.mpr hne) (ofDigitChars_lt hds))
    (ofDigitChars_zeroPadded _ _)

/-- Digits without a zero in front, unless it is the only one. -/
def NoLeadingZero (ds : List Char) : Prop :=
  ds.head? = some '0' → ds = ['0']

/-- A number is written without a zero in front. -/
lemma noLeadingZero_digitsOf (n : Nat) : NoLeadingZero (digitsOf n) := by
  induction n using Nat.strongRecOn with
  | _ n ih =>
    intro hhead
    by_cases hlt : n < 10
    · rw [digitsOf, Nat.toDigits_of_lt_base hlt] at hhead ⊢
      rw [Option.some.inj hhead]
    · -- the zero is in front of the digits before the last one, so there is nothing else there
      rw [digitsOf, Nat.toDigits_of_base_le (by decide) (by omega),
        List.head?_append_of_ne_nil _ Nat.toDigits_ne_nil] at hhead
      have hdigits := congrArg (fun ds => Nat.ofDigitChars 10 ds 0) (ih (n / 10) (by omega) hhead)
      rw [ofDigitChars_digitsOf] at hdigits
      have hzero : n / 10 = 0 := hdigits
      omega

/-- Digits without a zero in front are what is written for their number.

**Proof sketch.** They are the number that is filled with zeros to their length, and no zero is
filled in, since it would be in front. -/
lemma digitsOf_ofDigitChars {ds : List Char} (hne : ds ≠ []) (hds : ∀ c ∈ ds, c.isDigit = true)
    (hzero : NoLeadingZero ds) : digitsOf (Nat.ofDigitChars 10 ds 0) = ds := by
  have hfilled := zeroPadded_ofDigitChars hne hds
  rw [zeroPadded, List.leftpad] at hfilled
  cases hzeros : ds.length - (digitsOf (Nat.ofDigitChars 10 ds 0)).length with
  | zero => rwa [hzeros, List.replicate_zero, List.nil_append] at hfilled
  | succ k =>
    rw [hzeros, List.replicate_succ, List.cons_append] at hfilled
    have hlength := congrArg List.length (hzero (by rw [← hfilled]; rfl))
    have hpos : 0 < (digitsOf (Nat.ofDigitChars 10 ds 0)).length := Nat.length_toDigits_pos
    rw [List.length_singleton] at hlength
    omega

/-! ## Decimals -/

/-- A decimal: perhaps a sign, digits, and perhaps a point with up to nine places. -/
structure Decimal where
  /-- Plus for forward and minus for backward. -/
  sign : Option Direction
  whole : List Char
  /-- None if there is no point. -/
  places : List Char
  whole_ne_nil : whole ≠ []
  isDigit_whole : ∀ c ∈ whole, c.isDigit = true
  isDigit_places : ∀ c ∈ places, c.isDigit = true
  length_places : places.length ≤ 9

namespace Decimal

/-- The characters of a sign. -/
def signChars : Option Direction → List Char
  | none => []
  | some .forward => ['+']
  | some .backward => ['-']

/-- What a decimal looks like after its sign. -/
def unsignedChars (d : Decimal) : List Char :=
  d.whole ++ if d.places = [] then [] else '.' :: d.places

/-- What a decimal looks like. -/
def chars (d : Decimal) : List Char :=
  signChars d.sign ++ d.unsignedChars

/-- The billionths of a decimal, its sign left out. -/
def absolute (d : Decimal) : Nat :=
  Nat.ofDigitChars 10 d.whole 0 * 1000000000 +
    Nat.ofDigitChars 10 d.places 0 * 10 ^ (9 - d.places.length)

/-- The billionths of a decimal. -/
def billionths (d : Decimal) : Int :=
  if d.sign = some .backward then -d.absolute else d.absolute

/-- Without the sign there is the same count. -/
lemma natAbs_billionths (d : Decimal) : d.billionths.natAbs = d.absolute := by
  rw [billionths]
  split
  · omega
  · omega

/-- There is nothing superfluous in a decimal: no plus, no minus at zero, no zero in front of other
digits, and no zero at the end of the places. -/
structure Canonical (d : Decimal) : Prop where
  unsigned : d.sign ≠ some .forward
  nonzero : d.sign = some .backward → d.absolute ≠ 0
  whole : NoLeadingZero d.whole
  places : d.places.getLast? ≠ some '0'

end Decimal

namespace Magnitude

/-! ## What is read -/

/-- Numerals are digits, one at least. -/
lemma isNumeral_iff {cs : List Char} :
    isNumeral cs = true ↔ cs ≠ [] ∧ ∀ c ∈ cs, c.isDigit = true := by
  simp [isNumeral]

/-- Places are counted in billionths. -/
lemma billionthsOf_eq (places : List Char) :
    billionthsOf places = Nat.ofDigitChars 10 places 0 * 10 ^ (9 - places.length) := by
  rw [billionthsOf, List.rightpad, Nat.ofDigitChars_append, Nat.ofDigitChars_replicate_zero,
    Nat.mul_comm]

/-- A digit is no point. -/
lemma ne_point_of_isDigit {c : Char} (h : c.isDigit = true) : (c != '.') = true := by
  have hc := toNat_of_isDigit h
  rw [bne_iff_ne]
  rintro rfl
  exact absurd hc (by decide)

/-- A decimal is cut at its point. -/
lemma takeWhile_unsignedChars (d : Decimal) :
    d.unsignedChars.takeWhile (· != '.') = d.whole ∧
      d.unsignedChars.dropWhile (· != '.') = if d.places = [] then [] else '.' :: d.places := by
  have hwhole : ∀ c ∈ d.whole, (c != '.') = true :=
    fun c hc => ne_point_of_isDigit (d.isDigit_whole c hc)
  rw [Decimal.unsignedChars, List.takeWhile_append_of_pos hwhole,
    List.dropWhile_append_of_pos hwhole]
  split
  · simp
  · simp

/-- What is read as an unsigned decimal is one without its sign. -/
theorem unsigned?_eq_some_iff {cs : List Char} {n : Nat} :
    unsigned? cs = some n ↔ ∃ d : Decimal, d.unsignedChars = cs ∧ d.absolute = n := by
  constructor
  · intro h
    have hsplit : cs.takeWhile (· != '.') ++ cs.dropWhile (· != '.') = cs :=
      List.takeWhile_append_dropWhile
    unfold unsigned? at h
    simp only at h
    split at h
    · next hdrop =>
      split at h
      · next hwhole =>
        obtain ⟨hne, hdigits⟩ := isNumeral_iff.mp hwhole
        refine ⟨⟨none, _, [], hne, hdigits, by simp, by simp⟩, ?_, ?_⟩
        · rw [hdrop] at hsplit
          exact hsplit
        · simpa [Decimal.absolute, scale] using h
      · cases h
    · next point places hdrop =>
      split at h
      · next hnumerals =>
        simp only [Bool.and_eq_true, decide_eq_true_eq] at hnumerals
        obtain ⟨⟨hwhole, hplaces⟩, hlength⟩ := hnumerals
        obtain ⟨hne, hdigits⟩ := isNumeral_iff.mp hwhole
        obtain ⟨hsome, hafter⟩ := isNumeral_iff.mp hplaces
        have hpoint : point = '.' := by
          have hfirst := List.head?_dropWhile_not (· != '.') cs
          rw [hdrop] at hfirst
          simpa using hfirst
        refine ⟨⟨none, _, places, hne, hdigits, hafter, hlength⟩, ?_, ?_⟩
        · rw [hdrop, hpoint] at hsplit
          rw [Decimal.unsignedChars, if_neg hsome]
          exact hsplit
        · rw [Decimal.absolute, ← billionthsOf_eq]
          exact Option.some.inj h
      · cases h
  · rintro ⟨d, rfl, rfl⟩
    obtain ⟨htake, hdrop⟩ := takeWhile_unsignedChars d
    have hwhole := isNumeral_iff.mpr ⟨d.whole_ne_nil, d.isDigit_whole⟩
    unfold unsigned?
    simp only [htake, hdrop]
    by_cases hplaces : d.places = []
    · simp [hwhole, Decimal.absolute, hplaces, scale]
    · have hnumeral := isNumeral_iff.mpr ⟨hplaces, d.isDigit_places⟩
      simp [if_neg hplaces, hwhole, hnumeral, d.length_places, Decimal.absolute, scale,
        billionthsOf_eq]

/-- The billionths that fit are a magnitude. -/
lemma ofBillionths?_eq_some_iff {n : Int} {m : Magnitude} :
    ofBillionths? n = some m ↔ n = m.billionths := by
  constructor
  · intro h
    rw [ofBillionths?] at h
    split at h
    · rw [← Option.some.inj h]
    · cases h
  · rintro rfl
    exact ofBillionths?_billionths m

/-- A sign is read before a digit. -/
lemma ofChars?_signChars (sign : Option Direction) {c : Char} (hc : c.isDigit = true)
    (cs : List Char) :
    ofChars? (Decimal.signChars sign ++ c :: cs) = match unsigned? (c :: cs) with
      | some n => if Fits128 n then ofBillionths? (if sign = some .backward then -n else n) else none
      | none => none := by
  rcases sign with _ | _ | _
  · rw [Decimal.signChars, List.nil_append]
    unfold ofChars?
    split
    next negative unsigned hsign =>
    split at hsign
    · next h =>
      cases h
      exact absurd hc (by decide)
    · next h =>
      cases h
      exact absurd hc (by decide)
    · cases hsign
      rfl
  · rfl
  · rfl

end Magnitude

/-- The count of a decimal has 128 bits without its sign. The most negative count has no decimal
that fits, since its absolute value has more. -/
def Decimal.Fits (d : Decimal) : Prop :=
  d.absolute < 2 ^ 127

/-- A decimal is read as its count if that fits. -/
lemma Magnitude.ofChars?_chars (d : Decimal) {m : Magnitude} :
    ofChars? d.chars = some m ↔ d.billionths = m.billionths ∧ d.Fits := by
  obtain ⟨c, cs, hcs⟩ := List.exists_cons_of_ne_nil d.whole_ne_nil
  have hc : c.isDigit = true := d.isDigit_whole c (by simp [hcs])
  have hunsigned : unsigned? d.unsignedChars = some d.absolute :=
    unsigned?_eq_some_iff.mpr ⟨d, rfl, rfl⟩
  have hfirst : d.unsignedChars = c :: (cs ++ if d.places = [] then [] else '.' :: d.places) := by
    rw [Decimal.unsignedChars, hcs, List.cons_append]
  rw [Decimal.chars, hfirst, ofChars?_signChars d.sign hc, ← hfirst, hunsigned, Decimal.billionths,
    Decimal.Fits]
  have hfits : Fits128 d.absolute ↔ d.absolute < 2 ^ 127 := by
    rw [Fits128]
    omega
  by_cases h : d.absolute < 2 ^ 127
  · rw [← ofBillionths?_eq_some_iff]
    simp only [hfits, h, if_true, and_true]
  · simp only [hfits, h, if_false, and_false, reduceCtorEq]

/-- What is read as a magnitude is a decimal for it. -/
theorem Magnitude.ofChars?_eq_some_iff {cs : List Char} {m : Magnitude} :
    ofChars? cs = some m ↔ ∃ d : Decimal, d.chars = cs ∧ d.billionths = m.billionths ∧ d.Fits := by
  constructor
  · intro h
    obtain ⟨rest, n, hn, hcs⟩ := exists_unsigned?_of_ofChars? h
    obtain ⟨d, rfl, -⟩ := unsigned?_eq_some_iff.mp hn
    obtain ⟨sign, rfl⟩ : ∃ sign, cs = Decimal.signChars sign ++ d.unsignedChars := by
      rcases hcs with rfl | rfl | rfl
      · exact ⟨some .backward, rfl⟩
      · exact ⟨some .forward, rfl⟩
      · exact ⟨none, rfl⟩
    exact ⟨{ d with sign := sign }, rfl, ofChars?_chars { d with sign := sign } |>.mp h⟩
  · rintro ⟨d, rfl, h⟩
    exact (ofChars?_chars d).mpr h

/-! ## What is written -/

namespace Magnitude

/-- The places of a fraction are its nine digits without the zeros at their end. -/
lemma zeroPadded_eq_places {n : Nat} (h : n < 1000000000) :
    zeroPadded 9 n = places n ++ List.replicate (9 - (places n).length) '0' := by
  have hlength : (zeroPadded 9 n).length = 9 := length_zeroPadded (by decide) h
  have hsplit : (zeroPadded 9 n).reverse.takeWhile (· == '0') ++
      (zeroPadded 9 n).reverse.dropWhile (· == '0') = (zeroPadded 9 n).reverse :=
    List.takeWhile_append_dropWhile
  have hzeros : (zeroPadded 9 n).reverse.takeWhile (· == '0') =
      List.replicate ((zeroPadded 9 n).reverse.takeWhile (· == '0')).length '0' :=
    List.eq_replicate_of_mem fun c hc => by simpa using List.mem_takeWhile_imp hc
  rw [hzeros] at hsplit
  have hwhole := congrArg List.reverse hsplit
  rw [List.reverse_append, List.reverse_replicate, List.reverse_reverse] at hwhole
  have hcount := congrArg List.length hwhole
  rw [List.length_append, List.length_replicate, hlength] at hcount
  rw [← hwhole, places]
  congr 2
  omega

/-- Places are digits. -/
lemma isDigit_of_mem_places {n : Nat} {c : Char} (h : c ∈ places n) : c.isDigit = true := by
  rw [places, List.mem_reverse] at h
  exact isDigit_of_mem_zeroPadded (List.mem_reverse.mp ((List.dropWhile_sublist _).mem h))

section Places

variable {n : Nat} (h : n < 1000000000)
include h

/-- There are at most nine places. -/
lemma length_places_le : (places n).length ≤ 9 := by
  have hlength : (zeroPadded 9 n).length = 9 := length_zeroPadded (by decide) h
  rw [zeroPadded_eq_places h, List.length_append] at hlength
  omega

/-- The places of a fraction denote it. -/
lemma ofDigitChars_places :
    Nat.ofDigitChars 10 (places n) 0 * 10 ^ (9 - (places n).length) = n := by
  have hvalue := ofDigitChars_zeroPadded 9 n
  rwa [zeroPadded_eq_places h, Nat.ofDigitChars_append, Nat.ofDigitChars_replicate_zero,
    Nat.mul_comm] at hvalue

/-- Only zero has no places. -/
lemma places_eq_nil_iff : places n = [] ↔ n = 0 := by
  constructor
  · intro hnil
    rw [← ofDigitChars_places h, hnil]
    rfl
  · rintro rfl
    decide

end Places

/-- There is no zero at the end of the places. -/
lemma getLast?_places (n : Nat) : (places n).getLast? ≠ some '0' := by
  intro hlast
  have hfirst := List.head?_dropWhile_not (· == '0') (zeroPadded 9 n).reverse
  rw [places, List.getLast?_reverse] at hlast
  rw [hlast] at hfirst
  exact absurd hfirst (by decide)

/-- Places without a zero at their end are those of the fraction that they denote.

**Proof sketch.** With zeros after them they are the nine digits of the fraction, and cutting the
zeros off again stops at the last of them. -/
lemma places_ofDigitChars {ds : List Char} (hds : ∀ c ∈ ds, c.isDigit = true)
    (hlength : ds.length ≤ 9) (hlast : ds.getLast? ≠ some '0') :
    places (Nat.ofDigitChars 10 ds 0 * 10 ^ (9 - ds.length)) = ds := by
  have hfilled : zeroPadded 9 (Nat.ofDigitChars 10 ds 0 * 10 ^ (9 - ds.length)) =
      ds ++ List.replicate (9 - ds.length) '0' := by
    have hnine : (ds ++ List.replicate (9 - ds.length) '0').length = 9 := by
      rw [List.length_append, List.length_replicate]
      omega
    have hdigits : ∀ c ∈ ds ++ List.replicate (9 - ds.length) '0', c.isDigit = true := by
      intro c hc
      rcases List.mem_append.mp hc with hmem | hmem
      · exact hds c hmem
      · rw [List.eq_of_mem_replicate hmem]
        rfl
    have hvalue := zeroPadded_ofDigitChars (List.ne_nil_of_length_eq_add_one hnine) hdigits
    rwa [hnine, Nat.ofDigitChars_append, Nat.ofDigitChars_replicate_zero, Nat.mul_comm] at hvalue
  rw [places, hfilled, List.reverse_append, List.reverse_replicate,
    List.dropWhile_append_of_pos fun c hc => by rw [List.eq_of_mem_replicate hc]; rfl]
  rw [← List.head?_reverse] at hlast
  cases hreverse : ds.reverse with
  | nil => rw [List.reverse_eq_nil_iff.mp hreverse]; rfl
  | cons c cs =>
    rw [hreverse, List.head?_cons] at hlast
    have hc : c ≠ '0' := fun h => hlast (congrArg some h)
    rw [List.dropWhile_cons_of_neg (by simpa using hc), ← hreverse, List.reverse_reverse]

end Magnitude

namespace Decimal

/-- The decimal that is written for a count of billionths. -/
def ofBillionths (n : Int) : Decimal where
  sign := if n < 0 then some .backward else none
  whole := digitsOf (n.natAbs / 1000000000)
  places := Magnitude.places (n.natAbs % 1000000000)
  whole_ne_nil := Nat.toDigits_ne_nil
  isDigit_whole := fun _ => isDigit_of_mem_digitsOf
  isDigit_places := fun _ => Magnitude.isDigit_of_mem_places
  length_places := Magnitude.length_places_le (Nat.mod_lt _ (by decide))

/-- The billionths of the decimal that is written for a count, without their sign. -/
lemma absolute_ofBillionths (n : Int) : (ofBillionths n).absolute = n.natAbs := by
  have hplaces := Magnitude.ofDigitChars_places (Nat.mod_lt n.natAbs (by decide : 0 < 1000000000))
  simp only [absolute, ofBillionths, ofDigitChars_digitsOf, hplaces]
  omega

/-- Only a count below zero is written with a sign. -/
lemma sign_ofBillionths (n : Int) : (ofBillionths n).sign = some .backward ↔ n < 0 := by
  rw [ofBillionths]
  split
  · next h => simp [h]
  · next h => simp [h]

/-- The decimal that is written for a count denotes it. -/
theorem billionths_ofBillionths (n : Int) : (ofBillionths n).billionths = n := by
  simp only [billionths, absolute_ofBillionths, sign_ofBillionths]
  split
  · omega
  · omega

/-- There is nothing superfluous in what is written. -/
theorem canonical_ofBillionths (n : Int) : (ofBillionths n).Canonical where
  unsigned := by
    rw [ofBillionths]
    split
    · simp
    · simp
  nonzero := by
    rw [absolute_ofBillionths, sign_ofBillionths]
    omega
  whole := noLeadingZero_digitsOf _
  places := Magnitude.getLast?_places _

/-- A decimal with nothing superfluous in it is the one that is written for its count. -/
theorem eq_of_canonical {d : Decimal} (h : d.Canonical) : d = ofBillionths d.billionths := by
  have hsign : d.sign = if d.billionths < 0 then some .backward else none := by
    have hnonzero := h.nonzero
    have hunsigned := h.unsigned
    rw [billionths]
    rcases hd : d.sign with _ | _ | _
    · simp
    · exact absurd hd hunsigned
    · rw [if_pos rfl, if_pos (by have := hnonzero hd; omega)]
  have hfraction : Nat.ofDigitChars 10 d.places 0 * 10 ^ (9 - d.places.length) < 1000000000 := by
    have hlt := ofDigitChars_lt d.isDigit_places
    calc Nat.ofDigitChars 10 d.places 0 * 10 ^ (9 - d.places.length)
        < 10 ^ d.places.length * 10 ^ (9 - d.places.length) :=
          Nat.mul_lt_mul_of_pos_right hlt (Nat.pow_pos (by decide))
      _ = 1000000000 := by rw [← Nat.pow_add, Nat.add_sub_cancel' d.length_places]
  have hwhole : d.absolute / 1000000000 = Nat.ofDigitChars 10 d.whole 0 := by
    rw [absolute]
    omega
  have hplaces : d.absolute % 1000000000 =
      Nat.ofDigitChars 10 d.places 0 * 10 ^ (9 - d.places.length) := by
    rw [absolute]
    omega
  cases d
  simp only [ofBillionths, natAbs_billionths, hwhole, hplaces, mk.injEq]
  exact ⟨hsign, (digitsOf_ofDigitChars (by assumption) (by assumption) h.whole).symm,
    (Magnitude.places_ofDigitChars (by assumption) (by assumption) h.places).symm⟩

end Decimal

/-- A magnitude is written as the decimal for its count. -/
theorem Magnitude.chars_eq (m : Magnitude) :
    m.chars = (Decimal.ofBillionths m.billionths).chars := by
  have hplaces : places (m.billionths.natAbs % scale) = [] ↔ m.billionths.natAbs % scale = 0 :=
    places_eq_nil_iff (Nat.mod_lt _ (by decide))
  have hdecimal : (Decimal.ofBillionths m.billionths).chars =
      Decimal.signChars (if m.billionths < 0 then some .backward else none) ++
        (digitsOf (m.billionths.natAbs / scale) ++
          if places (m.billionths.natAbs % scale) = [] then []
          else '.' :: places (m.billionths.natAbs % scale)) := rfl
  rw [chars, hdecimal]
  by_cases hzero : m.billionths.natAbs % scale = 0
  · simp only [if_pos hzero, if_pos (hplaces.mpr hzero)]
    split
    · rfl
    · rfl
  · simp only [if_neg hzero, if_neg (hzero ∘ hplaces.mp)]
    split
    · rfl
    · rfl

/-! ## Durations -/

/-- A word is a duration of so many billionths of a unit: a word for the unit, for one of it, or a
decimal before one. -/
inductive WrittenDuration : String → Int → TimeUnit → Prop
  | one {name : String} {u : TimeUnit} (hname : name ∈ u.words) :
    WrittenDuration name 1000000000 u
  | decimal {name : String} {u : TimeUnit} (hname : name ∈ u.words) {d : Decimal} (hfits : d.Fits) :
    WrittenDuration (String.ofList d.chars ++ name) d.billionths u

namespace Decimal

/-- What a decimal is written with. -/
lemma isAlpha_of_mem_chars {d : Decimal} {c : Char} (h : c ∈ d.chars) : c.isAlpha = false := by
  have hdigit : ∀ {c : Char}, c.isDigit = true → c.isAlpha = false := by
    intro c hc
    by_contra halpha
    rw [isDigit_of_isAlpha (by simpa using halpha)] at hc
    cases hc
  rw [chars, unsignedChars, List.mem_append, List.mem_append] at h
  rcases h with hsign | hwhole | hplaces
  · rcases hd : d.sign with _ | _ | _
    · simp [hd, signChars] at hsign
    · simp only [hd, signChars, List.mem_singleton] at hsign
      rw [hsign]
      decide
    · simp only [hd, signChars, List.mem_singleton] at hsign
      rw [hsign]
      decide
  · exact hdigit (d.isDigit_whole c hwhole)
  · split at hplaces
    · simp at hplaces
    · rcases List.mem_cons.mp hplaces with rfl | hplace
      · decide
      · exact hdigit (d.isDigit_places c hplace)

/-- A decimal is not empty. -/
lemma chars_ne_nil (d : Decimal) : d.chars ≠ [] := by
  simp [chars, unsignedChars, d.whole_ne_nil]

end Decimal

/-- The count of a duration that is written has 128 bits without its sign. -/
lemma WrittenDuration.natAbs_lt {word : String} {n : Int} {u : TimeUnit}
    (h : WrittenDuration word n u) : n.natAbs < 2 ^ 127 := by
  cases h with
  | one hname => decide
  | @decimal name u hname d hfits => rwa [Decimal.natAbs_billionths]

namespace Duration

/-- What is read as a duration is written as one. -/
lemma written_of_parse? {word : String} {d : Duration} (h : parse? word = some d) :
    WrittenDuration word d.magnitude.billionths d.unit := by
  simp only [parse?, ofChars?, Option.bind_eq_bind, Option.bind_eq_some_iff] at h
  obtain ⟨u, hu, hmagnitude⟩ := h
  have hname : String.ofList (word.toList.dropWhile fun c => !c.isAlpha) ∈ u.words := by
    simpa using List.find?_some hu
  have hsplit : String.ofList (word.toList.takeWhile fun c => !c.isAlpha) ++
      String.ofList (word.toList.dropWhile fun c => !c.isAlpha) = word := by
    rw [← String.ofList_append, List.takeWhile_append_dropWhile, String.ofList_toList]
  split at hmagnitude
  · next hempty =>
    cases hmagnitude
    rw [List.isEmpty_iff.mp hempty, String.ofList_nil, String.empty_append] at hsplit
    rw [← hsplit]
    exact .one hname
  · obtain ⟨m, hm, hd⟩ := Option.bind_eq_some_iff.mp hmagnitude
    cases hd
    obtain ⟨decimal, hchars, hbillionths, hfits⟩ := Magnitude.ofChars?_eq_some_iff.mp hm
    rw [← hsplit, ← hchars]
    exact hbillionths ▸ .decimal hname hfits

/-- What is written as a duration is read as one. -/
lemma parse?_of_written {word : String} {m : Magnitude} {u : TimeUnit}
    (h : WrittenDuration word m.billionths u) : parse? word = some ⟨m, u⟩ := by
  generalize hn : m.billionths = n at h
  cases h with
  | one hname =>
    obtain rfl : m = Magnitude.one := by
      cases m
      cases hn
      rfl
    have hnothing : ∀ c ∈ "".toList, c.isAlpha = false := by simp
    have hread := parse?_append hnothing hname
    rwa [String.empty_append] at hread
  | @decimal name _ hname decimal hfits =>
    have hamount : ∀ c ∈ (String.ofList decimal.chars).toList, c.isAlpha = false := by
      rw [String.toList_ofList]
      exact fun c => Decimal.isAlpha_of_mem_chars
    have hread := (Magnitude.ofChars?_chars decimal).mpr ⟨hn.symm, hfits⟩
    rw [parse?_append hamount hname, String.toList_ofList, hread]
    simp [decimal.chars_ne_nil]

/-- The words that are read as a duration are those that it is written as. -/
theorem parse?_eq_some_iff {word : String} {d : Duration} :
    parse? word = some d ↔ WrittenDuration word d.magnitude.billionths d.unit :=
  ⟨written_of_parse?, parse?_of_written⟩

/-- A duration is written as the decimal for its magnitude and the name of its unit. -/
lemma text_eq (d : Duration) :
    d.text =
      String.ofList ((Decimal.ofBillionths d.magnitude.billionths).chars ++ d.unit.name.toList) := by
  rw [text, chars, Magnitude.chars_eq]

end Duration

end Almanac

import Almanac.DateText.Shape
import Almanac.Proofs.Decimals

set_option relaxedAutoImplicit false
set_option autoImplicit false

/-!
# Numerals in dates

The fields of dates are numerals of a fixed width. A reader of as many digits takes a numeral whole,
whatever follows it; a reader of more digits does so if no digit follows; a reader of fewer digits
takes the first of them and leaves the others. Signs of punctuation are not found at a numeral.

What a reader does to a text is computed by running it, so the facts about single readers are given
as equations, and those about numerals are put into the simp set.

## Main definitions

* `Almanac.Numeral` — numerals of a fixed width.
* `Almanac.Numeral.value` — the number that a numeral denotes.
* `Almanac.Numeral.ofNat` — the numeral of a number.

## Main results

* `Almanac.DateText.number_numeral`, `Almanac.DateText.year_numeral` — numerals that are read.
* `Almanac.Reader.digits_take`, `Almanac.Reader.digits_eq_none` — numerals that are cut, and
  numerals that are too short.
* `Almanac.Reader.all_eq` — whole texts.
-/

namespace Almanac

/-- A number in so many digits. -/
structure Numeral (width : Nat) where
  chars : List Char
  length_chars : chars.length = width
  isDigit_chars : ∀ c ∈ chars, c.isDigit = true

namespace Numeral

variable {width : Nat} (n : Numeral width)

/-- The number that a numeral denotes. -/
def value : Nat :=
  Nat.ofDigitChars 10 n.chars 0

/-- A numeral denotes a number of no more digits. -/
lemma value_lt : n.value < 10 ^ width := by
  have hlt := ofDigitChars_lt n.isDigit_chars
  rwa [n.length_chars] at hlt

/-- The first digits of a numeral. -/
def take (count : Nat) (h : count ≤ width) : Numeral count where
  chars := n.chars.take count
  length_chars := by rw [List.length_take, n.length_chars, Nat.min_eq_left h]
  isDigit_chars := fun c hc => n.isDigit_chars c (List.mem_of_mem_take hc)

/-- The digits of a numeral after the first ones. -/
def drop (count : Nat) : Numeral (width - count) where
  chars := n.chars.drop count
  length_chars := by rw [List.length_drop, n.length_chars]
  isDigit_chars := fun c hc => n.isDigit_chars c (List.mem_of_mem_drop hc)

/-- A numeral consists of its first digits and the others. -/
lemma take_append_drop {count : Nat} (h : count ≤ width) (rest : List Char) :
    n.chars ++ rest = (n.take count h).chars ++ ((n.drop count).chars ++ rest) := by
  rw [← List.append_assoc, take, drop, List.take_append_drop]

/-- The number of a numeral is that of its first digits, moved up, and that of the others. -/
lemma value_eq {count : Nat} (h : count ≤ width) :
    n.value = 10 ^ (width - count) * (n.take count h).value + (n.drop count).value := by
  have hsplit := n.take_append_drop h []
  rw [List.append_nil, List.append_nil] at hsplit
  rw [value, hsplit, Nat.ofDigitChars_append, Nat.ofDigitChars_eq_ofDigitChars_zero,
    (n.drop count).length_chars]
  rfl

/-- The number of the first digits is what is left when the others are cut off. -/
lemma value_take {count : Nat} (h : count ≤ width) :
    (n.take count h).value = n.value / 10 ^ (width - count) := by
  have hlt := (n.drop count).value_lt
  rw [n.value_eq h, Nat.mul_add_div (Nat.pow_pos (by decide)), Nat.div_eq_of_lt hlt, Nat.add_zero]

variable (hwidth : 0 < width)

include hwidth

/-- A numeral begins with a digit. -/
lemma exists_eq_cons : ∃ c cs, n.chars = c :: cs ∧ c.isDigit = true := by
  cases hchars : n.chars with
  | nil =>
    have hlength := n.length_chars
    rw [hchars, List.length_nil] at hlength
    omega
  | cons c cs => exact ⟨c, cs, rfl, n.isDigit_chars c (by simp [hchars])⟩

/-- There are digits in a numeral. -/
@[simp] lemma chars_ne_nil : n.chars ≠ [] := by
  obtain ⟨c, cs, hcs, -⟩ := n.exists_eq_cons hwidth
  simp [hcs]

/-- There are no blanks before a numeral. -/
lemma skipBlanks_append (rest : List Char) : skipBlanks (n.chars ++ rest) = n.chars ++ rest := by
  obtain ⟨c, cs, hcs, hc⟩ := n.exists_eq_cons hwidth
  rw [hcs, List.cons_append, skipBlanks_cons (isBlank_of_isDigit hc)]

/-- A numeral is its number, filled up with zeros. -/
lemma chars_eq_zeroPadded : n.chars = zeroPadded width n.value := by
  have hfilled := zeroPadded_ofDigitChars (n.chars_ne_nil hwidth) n.isDigit_chars
  rw [n.length_chars] at hfilled
  exact hfilled.symm

end Numeral

/-- A number, filled up with zeros. -/
def Numeral.ofNat {width n : Nat} (hwidth : 0 < width) (h : n < 10 ^ width) : Numeral width where
  chars := zeroPadded width n
  length_chars := length_zeroPadded hwidth h
  isDigit_chars := fun _ => isDigit_of_mem_zeroPadded

/-- A number that is filled up is still the same. -/
@[simp] lemma Numeral.value_ofNat {width n : Nat} (hwidth : 0 < width) (h : n < 10 ^ width) :
    (ofNat hwidth h).value = n :=
  ofDigitChars_zeroPadded width n

/-- The first digits of a number that is filled up are those of the number without the others. -/
lemma take_zeroPadded {width count n : Nat} (hcount : 0 < count) (hle : count ≤ width)
    (h : n < 10 ^ width) :
    (zeroPadded width n).take count = zeroPadded count (n / 10 ^ (width - count)) := by
  have htake := ((Numeral.ofNat (hcount.trans_le hle) h).take count hle).chars_eq_zeroPadded hcount
  rw [Numeral.value_take, Numeral.value_ofNat] at htake
  exact htake

/-! ## Texts that do not go on with a digit -/

/-- Nothing follows. -/
@[simp] lemma noDigitFirst_nil : NoDigitFirst [] := by
  rintro c ⟨⟩

/-- Another character follows. -/
@[simp] lemma noDigitFirst_cons {c : Char} {cs : List Char} :
    NoDigitFirst (c :: cs) ↔ c.isDigit = false := by
  simp [NoDigitFirst]

namespace Reader

/-! ## Running readers -/

section Running

variable {α β : Type} (r : Reader α) (f : α → Reader β) (cs : List Char)

/-- One reader is run after the other. -/
@[simp] lemma bind_apply : (r >>= f) cs = (r cs).bind fun p => f p.1 p.2 := rfl

/-- A value that is wanted is given if it is there. -/
@[simp] lemma require_apply (a? : Option α) : require a? cs = a?.map fun a => (a, cs) := rfl

/-- A whole text is read if nothing of it is left. -/
@[simp] lemma all_eq : r.all cs = (r cs).bind fun p => if p.2 = [] then some p.1 else none := by
  rw [all]
  cases r cs with
  | none => rfl
  | some p =>
    obtain ⟨a, rest⟩ := p
    cases rest <;> rfl

/-- None of several readers takes a text if each of them does not. -/
lemma firstOf_eq_none {rs : List (Reader α)} (h : ∀ r ∈ rs, r.all cs = none) :
    firstOf rs cs = none :=
  List.findSome?_eq_none_iff.mpr h

/-- The order of readers does not matter if they cannot differ. -/
lemma firstOf_eq {rs : List (Reader α)} {cs : List Char} {a? : Option α}
    (hsome : ∃ r ∈ rs, r.all cs = a?) (hall : ∀ r ∈ rs, r.all cs = a? ∨ r.all cs = none) :
    firstOf rs cs = a? := by
  cases hfirst : firstOf rs cs with
  | none =>
    obtain ⟨r, hr, rfl⟩ := hsome
    exact (List.findSome?_eq_none_iff.mp hfirst r hr).symm
  | some a =>
    obtain ⟨r, hr, ha⟩ := List.exists_of_findSome?_eq_some hfirst
    rcases hall r hr with h | h
    · rw [← h, ha]
    · rw [ha] at h
      cases h

end Running

/-- At the end no character is read. -/
@[simp] lemma char_nil (c : Char) : char c [] = none := rfl

/-- Of another character than the one at the front nothing is read. -/
@[simp] lemma char_of_ne {c d : Char} (h : d ≠ c) (cs : List Char) : char c (d :: cs) = none :=
  if_neg h

/-! ## Digits -/

section Digits

variable {width least most : Nat} (n : Numeral width) {rest : List Char}

/-- A reader of as many digits takes a numeral. -/
@[simp] lemma digits_numeral (h : least ≤ width) (rest : List Char) :
    digits least width (n.chars ++ rest) = some (n.value, rest) :=
  digits_append n.isDigit_chars h n.length_chars rest

/-- A reader of fewer digits takes the first of a numeral. -/
@[simp] theorem digits_take (hleast : least ≤ most) (hmost : most < width) (rest : List Char) :
    digits least most (n.chars ++ rest) =
      some ((n.take most hmost.le).value, (n.drop most).chars ++ rest) := by
  rw [n.take_append_drop hmost.le, digits_numeral _ hleast]

/-- The digits at the front of a text are those of the numeral there, if no digit follows it. -/
lemma takeWhile_numeral (hmost : width ≤ most) (hrest : NoDigitFirst rest) :
    ((n.chars ++ rest).take most).takeWhile Char.isDigit = n.chars := by
  have hnone : (rest.take (most - width)).takeWhile Char.isDigit = [] := by
    cases rest with
    | nil => simp
    | cons c cs =>
      rw [noDigitFirst_cons] at hrest
      cases most - width <;> simp [hrest]
  have htake : n.chars.take most = n.chars := List.take_of_length_le (by rwa [n.length_chars])
  rw [List.take_append, n.length_chars, htake, List.takeWhile_append_of_pos n.isDigit_chars, hnone,
    List.append_nil]

/-- A reader of more digits takes a numeral if no digit follows it. -/
lemma digits_of_noDigitFirst (hleast : least ≤ width) (hmost : width ≤ most)
    (hrest : NoDigitFirst rest) : digits least most (n.chars ++ rest) = some (n.value, rest) := by
  have hlength : ¬ n.chars.length < least := by rw [n.length_chars]; omega
  simp only [digits, takeWhile_numeral n hmost hrest, if_neg hlength, List.drop_left]
  rfl

/-- A numeral is too short for a reader of more digits if no digit follows it. -/
@[simp] theorem digits_eq_none (hleast : width < least) (hmost : width ≤ most)
    (hrest : NoDigitFirst rest) : digits least most (n.chars ++ rest) = none := by
  have hlength : n.chars.length < least := by rwa [n.length_chars]
  simp only [digits, takeWhile_numeral n hmost hrest, if_pos hlength]

/-- At a numeral no sign is found. -/
@[simp] lemma char_numeral (hwidth : 0 < width) {c : Char} (hc : c.isDigit = false)
    (rest : List Char) : char c (n.chars ++ rest) = none := by
  obtain ⟨d, ds, hds, hd⟩ := n.exists_eq_cons hwidth
  have hne : d ≠ c := by
    rintro rfl
    rw [hc] at hd
    cases hd
  rw [hds, List.cons_append, char_of_ne hne]

end Digits

end Reader

namespace DateText

open Reader

section Fields

variable {width : Nat} (n : Numeral width) {rest : List Char}

/-- A numeral is read as a number of its width. -/
@[simp] theorem number_numeral (hwidth : 0 < width) (rest : List Char) :
    number width (n.chars ++ rest) = some (n.value, rest) := by
  rw [number, bind_apply, blanks_apply, n.skipBlanks_append hwidth]
  exact digits_numeral n hwidth rest

/-- A longer numeral is cut. -/
@[simp] lemma number_take {most : Nat} (hpos : 0 < most) (hmost : most < width) (rest : List Char) :
    number most (n.chars ++ rest) =
      some ((n.take most hmost.le).value, (n.drop most).chars ++ rest) := by
  rw [number, bind_apply, blanks_apply, n.skipBlanks_append (by omega)]
  exact digits_take n hpos hmost rest

/-- Between a number and a sign there is nothing. -/
@[simp] lemma number_cons {most : Nat} {c : Char} (hblank : isBlank c = false)
    (hdigit : c.isDigit = false) (cs : List Char) : number most (c :: cs) = none := by
  rw [number, bind_apply, blanks_apply, skipBlanks_cons hblank]
  exact digits_of_not_isDigit (by decide) hdigit cs

/-- At the end there is no number. -/
@[simp] lemma number_nil (most : Nat) : number most [] = none := by
  simp [number, bind_apply, skipBlanks, digits]

/-- A numeral is read as a year without a sign. -/
lemma year_eq (hwidth : 0 < width) (rest : List Char) :
    year (n.chars ++ rest) = (digits 1 4 (n.chars ++ rest)).map fun p => ((p.1 : Int), p.2) := by
  obtain ⟨c, cs, hcs, hc⟩ := n.exists_eq_cons hwidth
  have hblank := isBlank_of_isDigit hc
  rw [hcs, List.cons_append, year, skipBlanks_cons hblank]
  split
  · next h =>
    cases h
    cases hc
  · next h =>
    cases h
    cases hc
  · rfl

end Fields

/-- Four digits are read as a year. -/
@[simp] theorem year_numeral (n : Numeral 4) (rest : List Char) :
    year (n.chars ++ rest) = some ((n.value : Int), rest) := by
  rw [year_eq n (by decide), digits_numeral n (by decide), Option.map_some]

/-- Two digits are read as a year if no digit follows them. -/
@[simp] lemma year_of_noDigitFirst (n : Numeral 2) {rest : List Char} (hrest : NoDigitFirst rest) :
    year (n.chars ++ rest) = some ((n.value : Int), rest) := by
  rw [year_eq n (by decide), digits_of_noDigitFirst n (by decide) (by decide) hrest,
    Option.map_some]

end DateText

end Almanac

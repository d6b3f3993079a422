import Almanac.DateText.Internet
import Almanac.Instant
import Almanac.Proofs.DateEnds
import Mathlib.Data.List.TakeWhile
import Mathlib.Data.Nat.Digits.Defs

set_option relaxedAutoImplicit false
set_option autoImplicit false

/-!
# Reading what is written

The fields of a date read back as they are written. A number that is filled with zeros to a width is
read by every reader of that many digits, whatever follows; a number of any length is read back if
no digit follows it.

## Main definitions

* `Almanac.NoDigitFirst` — a text that does not go on with a digit.
* `Almanac.DateText.signOf` — the sign of an offset as a factor.

## Main results

* `Almanac.Reader.digits_zeroPadded`, `Almanac.Reader.allDigits_zeroPadded` — numbers.
* `Almanac.DateText.year_signedYear` — years.
* `Almanac.DateText.fraction_fractionChars` — fractions of a second.
* `Almanac.DateText.strictOffset_offsetChars`, `Almanac.DateText.looseOffset_offsetChars` — offsets
  of whole minutes.
-/

namespace Almanac

/-! ## Characters -/

/-- The code points of digits. -/
lemma toNat_of_isDigit {c : Char} (h : c.isDigit = true) : 48 ≤ c.toNat ∧ c.toNat ≤ 57 := by
  simp only [Char.isDigit, Bool.and_eq_true, decide_eq_true_eq, ge_iff_le,
    UInt32.le_iff_toNat_le] at h
  exact h

/-- A digit is no blank. -/
lemma isBlank_of_isDigit {c : Char} (h : c.isDigit = true) : isBlank c = false := by
  have := toNat_of_isDigit h
  simp only [isBlank, Bool.or_eq_false_iff, Bool.and_eq_false_iff, decide_eq_false_iff_not,
    beq_eq_false_iff_ne]
  omega

/-- There are no blanks before another character. -/
lemma skipBlanks_cons {c : Char} (hc : isBlank c = false) (cs : List Char) :
    skipBlanks (c :: cs) = c :: cs := by
  simp [skipBlanks, hc]

/-! ## Numbers filled with zeros -/

/-- Zeros before a number do not count. -/
@[simp] lemma ofDigitChars_zeroPadded (width n : Nat) :
    Nat.ofDigitChars 10 (zeroPadded width n) 0 = n := by
  rw [zeroPadded, List.leftpad, Nat.ofDigitChars_append, Nat.ofDigitChars_replicate_zero,
    Nat.mul_zero, ofDigitChars_digitsOf]

/-- Only digits are written. -/
lemma isDigit_of_mem_zeroPadded {width n : Nat} {c : Char} (h : c ∈ zeroPadded width n) :
    c.isDigit = true := by
  rw [zeroPadded, List.leftpad, List.mem_append] at h
  rcases h with hzero | hdigit
  · rw [List.eq_of_mem_replicate hzero]
    rfl
  · exact isDigit_of_mem_digitsOf hdigit

/-- A number that is not too long is filled to the width. -/
lemma length_zeroPadded {width n : Nat} (hwidth : 0 < width) (h : n < 10 ^ width) :
    (zeroPadded width n).length = width := by
  have hlength : (digitsOf n).length ≤ width := (Nat.length_toDigits_le_iff (by decide) hwidth).mpr h
  rw [zeroPadded, List.length_leftpad, Nat.max_eq_left hlength]

/-- What is written begins with a digit. -/
lemma exists_zeroPadded_eq_cons (width n : Nat) :
    ∃ c cs, zeroPadded width n = c :: cs ∧ c.isDigit = true := by
  cases hcs : zeroPadded width n with
  | nil =>
    have hlength := congrArg List.length hcs
    have hpos : 0 < (digitsOf n).length := Nat.length_toDigits_pos
    rw [zeroPadded, List.length_leftpad, List.length_nil] at hlength
    omega
  | cons c cs =>
    have hmem : c ∈ zeroPadded width n := by
      rw [hcs]
      exact List.mem_cons_self
    exact ⟨c, cs, rfl, isDigit_of_mem_zeroPadded hmem⟩

/-- There are no blanks before a number. -/
@[simp] lemma skipBlanks_zeroPadded (width n : Nat) (rest : List Char) :
    skipBlanks (zeroPadded width n ++ rest) = zeroPadded width n ++ rest := by
  obtain ⟨c, cs, hcs, hc⟩ := exists_zeroPadded_eq_cons width n
  rw [hcs, List.cons_append, skipBlanks_cons (isBlank_of_isDigit hc)]

/-- A text that does not go on with a digit. -/
def NoDigitFirst (cs : List Char) : Prop :=
  ∀ c ∈ cs.head?, c.isDigit = false

namespace Reader

/-! ## Readers of digits -/

/-- After a reader comes the next one, on the rest of the text. -/
lemma bind_of_eq_some {α β : Type} {r : Reader α} {f : α → Reader β} {cs rest : List Char} {a : α}
    (h : r cs = some (a, rest)) : (r >>= f) cs = f a rest := by
  have hbind : (r >>= f) cs = (r cs).bind fun p => f p.1 p.2 := rfl
  rw [hbind, h, Option.bind_some]

/-- Where a reader fails, so does what comes after it. -/
lemma bind_of_eq_none {α β : Type} {r : Reader α} {f : α → Reader β} {cs : List Char}
    (h : r cs = none) : (r >>= f) cs = none := by
  have hbind : (r >>= f) cs = (r cs).bind fun p => f p.1 p.2 := rfl
  rw [hbind, h, Option.bind_none]

/-- A value that is there is given without taking anything. -/
lemma require_of_eq_some {α : Type} {a? : Option α} {a : α} (h : a? = some a) (cs : List Char) :
    require a? cs = some (a, cs) := by
  rw [require, h, Option.map_some]

/-- Digits are not found at another character. -/
lemma digits_of_not_isDigit {least most : Nat} (hleast : 0 < least) {c : Char}
    (hc : c.isDigit = false) (cs : List Char) : digits least most (c :: cs) = none := by
  have htake : ((c :: cs).take most).takeWhile Char.isDigit = [] := by
    cases most with
    | zero => rfl
    | succ n => simp [hc]
  rw [digits]
  simp only [htake, List.length_nil, if_pos hleast]

/-- A reader of so many digits takes them. -/
lemma digits_append {least most : Nat} {ds : List Char} (hall : ∀ c ∈ ds, c.isDigit = true)
    (hleast : least ≤ most) (hmost : ds.length = most) (rest : List Char) :
    digits least most (ds ++ rest) = some (Nat.ofDigitChars 10 ds 0, rest) := by
  have htake : ((ds ++ rest).take most).takeWhile Char.isDigit = ds := by
    rw [← hmost, List.take_left, List.takeWhile_eq_self_iff.mpr hall]
  have hlength : ¬ ds.length < least := by omega
  simp only [digits, htake, if_neg hlength, List.drop_left]

/-- A number that is filled to a width is read by a reader of so many digits. -/
theorem digits_zeroPadded {least most n : Nat} (hleast : least ≤ most) (hmost : 0 < most)
    (h : n < 10 ^ most) (rest : List Char) :
    digits least most (zeroPadded most n ++ rest) = some (n, rest) := by
  rw [digits_append (fun _ => isDigit_of_mem_zeroPadded) hleast (length_zeroPadded hmost h),
    ofDigitChars_zeroPadded]

/-- All digits are taken, up to a character that is none. -/
theorem allDigits_zeroPadded (width n : Nat) {rest : List Char} (hrest : NoDigitFirst rest) :
    allDigits (zeroPadded width n ++ rest) = some (zeroPadded width n, rest) := by
  have hall : ∀ c ∈ zeroPadded width n, c.isDigit = true := fun _ => isDigit_of_mem_zeroPadded
  have htake : rest.takeWhile Char.isDigit = [] := by
    cases rest with
    | nil => rfl
    | cons c cs => simp [hrest c rfl]
  have hdrop : rest.dropWhile Char.isDigit = rest := by
    cases rest with
    | nil => rfl
    | cons c cs => simp [hrest c rfl]
  obtain ⟨c, cs, hcs, -⟩ := exists_zeroPadded_eq_cons width n
  have hempty : ¬ (zeroPadded width n).isEmpty := by simp [hcs]
  simp only [allDigits, List.takeWhile_append_of_pos hall, List.dropWhile_append_of_pos hall, htake,
    hdrop, List.append_nil, if_neg hempty]

end Reader

namespace DateText

open Reader

/-! ## Numbers and years -/

/-- A number in two digits is read back. -/
lemma number_zeroPadded {n : Nat} (h : n < 100) (rest : List Char) :
    number 2 (zeroPadded 2 n ++ rest) = some (n, rest) := by
  rw [number, bind_of_eq_some (blanks_apply _), skipBlanks_zeroPadded,
    digits_zeroPadded (by decide) (by decide) h]

/-- A year is read back, unless a digit follows it. Only a year with a sign may have more than four
digits. -/
theorem year_signedYear (y : Int) {rest : List Char} (hrest : NoDigitFirst rest) :
    year (signedYear y ++ rest) = some (y, rest) := by
  unfold signedYear
  split_ifs with hshort hneg
  · obtain ⟨c, cs, hcs, hc⟩ := exists_zeroPadded_eq_cons 4 y.natAbs
    have hdigits : digits 1 4 (zeroPadded 4 y.natAbs ++ rest) = some (y.natAbs, rest) :=
      digits_zeroPadded (by decide) (by decide) (by omega) rest
    unfold year
    rw [skipBlanks_zeroPadded]
    split
    · next hsign =>
      rw [hcs, List.cons_append] at hsign
      cases hsign
      cases hc
    · next hsign =>
      rw [hcs, List.cons_append] at hsign
      cases hsign
      cases hc
    · simp only [hdigits, Option.map_some, Int.natAbs_of_nonneg hshort.1]
  · simp only [List.cons_append, year, skipBlanks_cons (show isBlank '-' = false by decide),
      allDigits_zeroPadded 4 y.natAbs hrest, Option.map_some, ofDigitChars_zeroPadded]
    rw [Int.ofNat_natAbs_of_nonpos (by omega), Int.neg_neg]
  · simp only [List.cons_append, year, skipBlanks_cons (show isBlank '+' = false by decide),
      allDigits_zeroPadded 4 y.natAbs hrest, Option.map_some, ofDigitChars_zeroPadded]
    rw [Int.natAbs_of_nonneg (by omega)]

/-! ## Fractions -/

/-- The digits of a fraction count from the left. -/
lemma nanosOf_zeroPadded {width n : Nat} (hwidth : 0 < width) (hnine : width ≤ 9)
    (h : n < 10 ^ width) : nanosOf (zeroPadded width n) = 10 ^ (9 - width) * n := by
  have hlength := length_zeroPadded hwidth h
  rw [nanosOf, List.take_of_length_le (by omega), List.rightpad, hlength, Nat.ofDigitChars_append,
    ofDigitChars_zeroPadded, Nat.ofDigitChars_replicate_zero]

/-- A point and digits are read as a fraction. -/
lemma fraction_zeroPadded {width n : Nat} (hwidth : 0 < width) (hnine : width ≤ 9)
    (h : n < 10 ^ width) {rest : List Char} (hrest : NoDigitFirst rest) :
    fraction ('.' :: zeroPadded width n ++ rest) = some (10 ^ (9 - width) * n, rest) := by
  simp only [List.cons_append, fraction, allDigits_zeroPadded width n hrest, Option.map_some,
    nanosOf_zeroPadded hwidth hnine h]

/-- A fraction is read back, unless a point or a digit follows it. -/
theorem fraction_fractionChars {n : Nat} (h : n < 1000000000) {rest : List Char}
    (hrest : NoDigitFirst rest) (hpoint : rest.head? ≠ some '.') :
    fraction (Reading.fractionChars n ++ rest) = some (n, rest) := by
  unfold Reading.fractionChars
  split_ifs with hzero hmillis hmicros
  · subst hzero
    unfold fraction
    split
    · next hcons =>
      rw [List.nil_append] at hcons
      rw [hcons] at hpoint
      exact absurd rfl hpoint
    · rfl
  · rw [fraction_zeroPadded (by decide) (by decide) (by omega) hrest]
    congr 2
    omega
  · rw [fraction_zeroPadded (by decide) (by decide) (by omega) hrest]
    congr 2
    omega
  · rw [fraction_zeroPadded (by decide) (by decide) (by omega) hrest]
    congr 2
    omega

/-! ## Offsets -/

/-- The sign of an offset as a factor. -/
def signOf (offset : Int) : Int :=
  if offset < 0 then -1 else 1

/-- The sign of an offset is read back. -/
lemma sign_offsetSign (offset : Int) (rest : List Char) :
    sign true (offsetSign offset :: rest) = some (signOf offset, rest) := by
  unfold offsetSign signOf
  split_ifs <;> rfl

/-- The hours and minutes of an offset of whole minutes make up the offset. -/
lemma offsetSeconds_roundedOffset {offset : Int} (h : offset % 60 = 0) :
    offsetSeconds (signOf offset) (roundedOffset offset).1 (roundedOffset offset).2 = offset := by
  simp only [offsetSeconds, signOf, roundedOffset]
  split_ifs <;> omega

/-- An offset of less than a day has two digits for its hours and two for its minutes. -/
lemma roundedOffset_lt {offset : Int} (h : offset.natAbs < 86400) :
    (roundedOffset offset).1 < 100 ∧ (roundedOffset offset).2 < 60 := by
  simp only [roundedOffset]
  omega

/-- The minutes of an offset are read back. -/
lemma offsetMinutes_zeroPadded {n : Nat} (h : n < 60) (rest : List Char) :
    offsetMinutes (zeroPadded 2 n ++ rest) = some (n, rest) := by
  rw [offsetMinutes, bind_of_eq_some (digits_zeroPadded (by decide) (by decide) (by omega) rest),
    require, if_pos h, Option.map_some]

/-- What begins with the sign of an offset does not begin with the letter for offset zero. -/
lemma zuluOr_offsetSign (digital : Reader Int) (offset : Int) (rest : List Char) :
    zuluOr digital (offsetSign offset :: rest) = digital (offsetSign offset :: rest) := by
  have hzulu : ¬ isZulu (offsetSign offset) = true := by
    unfold offsetSign
    split_ifs <;> decide
  rw [zuluOr, if_neg hzulu]

/-- The sign of an offset is no blank. -/
lemma isBlank_offsetSign (offset : Int) : isBlank (offsetSign offset) = false := by
  unfold offsetSign
  split_ifs <;> decide

section Offsets

variable {offset : Int} (hminutes : offset % 60 = 0) (hday : offset.natAbs < 86400)

include hminutes hday

/-- An offset in digits is read back by the strict reader. -/
lemma signedOffset_offsetChars :
    signedOffset true (char ':') (offsetChars [':'] offset) = some (offset, []) := by
  obtain ⟨hhours, hsixty⟩ := roundedOffset_lt hday
  have hlast := offsetMinutes_zeroPadded hsixty []
  rw [List.append_nil] at hlast
  simp only [offsetChars, List.cons_append, List.append_assoc, List.nil_append, signedOffset]
  rw [bind_of_eq_some (sign_offsetSign _ _),
    bind_of_eq_some (digits_zeroPadded (by decide) (by decide) hhours _),
    bind_of_eq_some (char_cons _ _), bind_of_eq_some hlast, offsetSeconds_roundedOffset hminutes]
  rfl

/-- An offset in digits is read back by the loose reader. -/
lemma looseDigits_offsetChars : looseDigits (offsetChars [':'] offset) = some (offset, []) := by
  obtain ⟨hhours, hsixty⟩ := roundedOffset_lt hday
  obtain ⟨c, cs, hcs, hc⟩ := exists_zeroPadded_eq_cons 2 (roundedOffset offset).2
  have hcolon : (c == ':') = false := by
    rw [beq_eq_false_iff_ne]
    rintro rfl
    cases hc
  have hseparator : looseSeparator (':' :: zeroPadded 2 (roundedOffset offset).2) =
      some ((), zeroPadded 2 (roundedOffset offset).2) := by
    simp [looseSeparator, hcs, hcolon, isBlank_of_isDigit hc]
  have hlast : optionalMinutes (zeroPadded 2 (roundedOffset offset).2) =
      some ((roundedOffset offset).2, []) := by
    have := offsetMinutes_zeroPadded hsixty []
    rw [List.append_nil] at this
    rw [hcs] at this ⊢
    exact this
  simp only [offsetChars, List.cons_append, List.append_assoc, List.nil_append, looseDigits]
  rw [bind_of_eq_some (sign_offsetSign _ _),
    bind_of_eq_some (digits_zeroPadded (by decide) (by decide) hhours _),
    bind_of_eq_some hseparator, bind_of_eq_some hlast, offsetSeconds_roundedOffset hminutes]
  rfl

/-- An offset of whole minutes is read back by the strict reader. -/
theorem strictOffset_offsetChars :
    strictOffset (offsetChars [':'] offset) = some (offset, []) := by
  have hsigned := signedOffset_offsetChars hminutes hday
  simp only [offsetChars, List.cons_append] at hsigned ⊢
  rw [strictOffset, zuluOr_offsetSign, hsigned]

/-- An offset of whole minutes is read back by the loose reader. -/
theorem looseOffset_offsetChars :
    looseOffset (offsetChars [':'] offset) = some (offset, []) := by
  have hloose := looseDigits_offsetChars hminutes hday
  simp only [offsetChars, List.cons_append] at hloose ⊢
  rw [looseOffset, bind_of_eq_some (blanks_apply _), skipBlanks_cons (isBlank_offsetSign offset),
    zuluOr_offsetSign, hloose]

end Offsets

end DateText

end Almanac

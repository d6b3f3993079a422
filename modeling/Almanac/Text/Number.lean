set_option relaxedAutoImplicit false
set_option autoImplicit false

/-!
# Numbers in text

How whole numbers are written. Digits are core's `Nat.toDigits 10`, so that core's lemmas on
digits (`Nat.ofDigitChars_toDigits`, `Nat.isDigit_of_mem_toDigits`) say how they read back.

## Main definitions

* `Almanac.digitsOf` — the decimal digits of a natural number.
* `Almanac.zeroPadded` — the same, filled with zeros up to a width.
* `Almanac.integer` — an integer with a sign when it is negative.
* `Almanac.signedYear` — a year: four digits, with a sign outside 0 to 9999.
-/

namespace Almanac

/-- The decimal digits of `n`, without superfluous zeros. -/
def digitsOf (n : Nat) : List Char :=
  Nat.toDigits 10 n

/-- The decimal digits of `n`, with zeros before them up to `width` digits. -/
def zeroPadded (width n : Nat) : List Char :=
  (digitsOf n).leftpad width '0'

/-- The decimal digits of `n`, after a minus sign when `n` is negative. -/
def integer (n : Int) : List Char :=
  if n < 0 then '-' :: digitsOf n.natAbs else digitsOf n.natAbs

/-- A year has at least four digits. One outside 0 to 9999 also has a sign, so that it cannot
be taken for a shorter one. -/
def signedYear (y : Int) : List Char :=
  if 0 ≤ y ∧ y ≤ 9999 then zeroPadded 4 y.natAbs
  else (if y < 0 then '-' else '+') :: zeroPadded 4 y.natAbs

/-- Reading the written digits gives the number back. -/
theorem ofDigitChars_digitsOf (n : Nat) : Nat.ofDigitChars 10 (digitsOf n) 0 = n :=
  Nat.ofDigitChars_toDigits (by decide) (by decide)

/-- Only digits are written. -/
theorem isDigit_of_mem_digitsOf {n : Nat} {c : Char} (h : c ∈ digitsOf n) : c.isDigit = true :=
  Nat.isDigit_of_mem_toDigits (by decide) (by decide) h

end Almanac

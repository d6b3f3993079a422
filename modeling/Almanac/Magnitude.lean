import Almanac.Text.Number

set_option relaxedAutoImplicit false
set_option autoImplicit false

/-!
# Magnitudes

The numbers that stand in front of a unit: signed decimals with up to nine places, such as
`10`, `-3` or `1.5`. A magnitude counts billionths, so sums of magnitudes are exact; the count
is a signed number of 128 bits, and an operation whose result needs more bits has none.

## Main definitions

* `Almanac.Fits128`, `Almanac.Fits64` — the numbers that a count of bits can hold.
* `Almanac.Magnitude` — the type, with its bound.
* `Almanac.Magnitude.ofChars?`, `Almanac.Magnitude.chars` — reading and writing.
* `Almanac.Magnitude.add?`, `Almanac.Magnitude.neg?` — checked arithmetic.
* `Almanac.Magnitude.roundedProduct?` — a multiple, rounded to a whole number.

## Main results

* `Almanac.Magnitude.ofBillionths?_billionths` — a magnitude is the magnitude of its count.
-/

namespace Almanac

/-- The signed numbers of 128 bits. -/
def Fits128 (n : Int) : Prop :=
  -170141183460469231731687303715884105728 ≤ n ∧ n < 170141183460469231731687303715884105728

instance (n : Int) : Decidable (Fits128 n) :=
  inferInstanceAs (Decidable (_ ∧ _))

/-- The signed numbers of 64 bits. -/
def Fits64 (n : Int) : Prop :=
  -9223372036854775808 ≤ n ∧ n < 9223372036854775808

instance (n : Int) : Decidable (Fits64 n) :=
  inferInstanceAs (Decidable (_ ∧ _))

/-- A signed decimal with nine places. -/
structure Magnitude where
  /-- The value in billionths. -/
  billionths : Int
  /-- The count has 128 bits. -/
  fits : Fits128 billionths
  deriving DecidableEq, Repr

namespace Magnitude

/-- How many billionths make one. -/
def scale : Nat := 1000000000

/-- The magnitude with a given count of billionths, if there is one. -/
def ofBillionths? (n : Int) : Option Magnitude :=
  if h : Fits128 n then some ⟨n, h⟩ else none

/-- The magnitude of a unit that stands alone. -/
def one : Magnitude := ⟨1000000000, by decide⟩

/-- One or more decimal digits and nothing else. -/
def isNumeral (cs : List Char) : Bool :=
  !cs.isEmpty && cs.all Char.isDigit

/-- The billionths that up to nine places after a point denote. -/
def billionthsOf (places : List Char) : Nat :=
  Nat.ofDigitChars 10 (places.rightpad 9 '0') 0

/-- The billionths of an unsigned decimal: digits, and optionally a point with one to nine
digits after it. -/
def unsigned? (cs : List Char) : Option Nat :=
  let whole := cs.takeWhile (· != '.')
  match cs.dropWhile (· != '.') with
  | [] => if isNumeral whole then some (Nat.ofDigitChars 10 whole 0 * scale) else none
  | _ :: places =>
    if isNumeral whole && isNumeral places && places.length ≤ 9 then
      some (Nat.ofDigitChars 10 whole 0 * scale + billionthsOf places)
    else none

/-- An optional sign and an unsigned decimal. The most negative count has no written form. -/
def ofChars? (cs : List Char) : Option Magnitude :=
  let (negative, unsigned) := match cs with
    | '-' :: rest => (true, rest)
    | '+' :: rest => (false, rest)
    | _ => (false, cs)
  match unsigned? unsigned with
  | some n => if Fits128 n then ofBillionths? (if negative then -n else n) else none
  | none => none

/-- The places after the point, without the zeros at their end. -/
def places (n : Nat) : List Char :=
  ((zeroPadded 9 n).reverse.dropWhile (· == '0')).reverse

/-- The shortest decimal that denotes a magnitude. -/
def chars (m : Magnitude) : List Char :=
  let n := m.billionths.natAbs
  let unsigned := digitsOf (n / scale) ++
    if n % scale = 0 then [] else '.' :: places (n % scale)
  if m.billionths < 0 then '-' :: unsigned else unsigned

/-- The written form of a magnitude. -/
def text (m : Magnitude) : String :=
  String.ofList m.chars

/-- The sum, if it fits. -/
def add? (a b : Magnitude) : Option Magnitude :=
  ofBillionths? (a.billionths + b.billionths)

/-- The negation, if it fits. -/
def neg? (a : Magnitude) : Option Magnitude :=
  ofBillionths? (-a.billionths)

/-- The product with a whole number, rounded to the nearest whole number with halves away from
zero, if it fits 64 bits. -/
def roundedProduct? (m : Magnitude) (factor : Int) : Option Int :=
  let product := m.billionths * factor
  if Fits128 product then
    let whole := product.tdiv scale
    let rounded :=
      if scale ≤ (product.tmod scale).natAbs * 2 then whole + product.sign else whole
    if Fits64 rounded then some rounded else none
  else none

/-- A magnitude is the magnitude of its count. -/
@[simp] theorem ofBillionths?_billionths (m : Magnitude) :
    ofBillionths? m.billionths = some m := by
  simp [ofBillionths?, m.fits]

end Magnitude

end Almanac

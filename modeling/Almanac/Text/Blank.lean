set_option relaxedAutoImplicit false
set_option autoImplicit false

/-!
# Blanks

The characters that separate words: the twenty-five code points with the Unicode property
`White_Space`. Core's `Char.isWhitespace` knows four of them, which is too few for text that
people paste from a document.

## Main definitions

* `Almanac.isBlank` — membership in the property.
* `Almanac.skipBlanks`, `Almanac.trim` — a text without its leading blanks, or without the
  blanks on both sides.

## Main results

* `Almanac.isBlank_of_isWhitespace` — core's class is part of this one.
-/

namespace Almanac

/-- The code points with the Unicode property `White_Space`. -/
def isBlank (c : Char) : Bool :=
  let n := c.toNat
  (0x09 ≤ n && n ≤ 0x0D) || n == 0x20 || n == 0x85 || n == 0xA0 || n == 0x1680 ||
    (0x2000 ≤ n && n ≤ 0x200A) || n == 0x2028 || n == 0x2029 || n == 0x202F ||
    n == 0x205F || n == 0x3000

/-- A text without the blanks it starts with. -/
def skipBlanks (cs : List Char) : List Char :=
  cs.dropWhile isBlank

/-- A text without the blanks it starts and ends with. -/
def trim (cs : List Char) : List Char :=
  (skipBlanks (skipBlanks cs).reverse).reverse

/-- Every character that core calls white space is a blank. -/
theorem isBlank_of_isWhitespace {c : Char} (h : c.isWhitespace = true) : isBlank c = true := by
  simp only [Char.isWhitespace, Bool.or_eq_true, decide_eq_true_eq] at h
  rcases h with ((rfl | rfl) | rfl) | rfl <;> decide

end Almanac

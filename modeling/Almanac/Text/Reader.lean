import Almanac.Text.Blank

set_option relaxedAutoImplicit false
set_option autoImplicit false

/-!
# Readers

A reader takes what it recognises off the front of a text and hands back the rest, or
recognises nothing. Readers are put together with `do`; a whole text is read by
`Almanac.Reader.all`, which wants nothing left over.

## Main definitions

* `Almanac.Reader` — the type.
* `Almanac.Reader.char`, `Almanac.Reader.oneOf`, `Almanac.Reader.blanks`,
  `Almanac.Reader.someBlanks` — single characters and blanks.
* `Almanac.Reader.digits`, `Almanac.Reader.allDigits` — numbers of a limited or any length.
* `Almanac.Reader.all`, `Almanac.Reader.firstOf` — a reader for a whole text, and the first of
  several such readers that accepts.

## Main results

* `Almanac.Reader.char_cons`, `Almanac.Reader.blanks_apply` — what the single readers take.
-/

namespace Almanac

/-- A reader maps a text to the value of a part at its front and the text after it. -/
abbrev Reader (α : Type) := StateT (List Char) Option α

namespace Reader

/-- A reader that refuses unless a value is there. -/
def require {α : Type} (a? : Option α) : Reader α := fun cs => a?.map fun a => (a, cs)

/-- The one character `c`. -/
def char (c : Char) : Reader Unit
  | [] => none
  | d :: cs => if d = c then some ((), cs) else none

/-- One character of the class `p`. -/
def oneOf (p : Char → Bool) : Reader Char
  | [] => none
  | c :: cs => if p c then some (c, cs) else none

/-- Any run of blanks, also an empty one. -/
def blanks : Reader Unit := fun cs => some ((), skipBlanks cs)

/-- A run of at least one blank. -/
def someBlanks : Reader Unit := do
  let _ ← oneOf isBlank
  blanks

/-- Between `least` and `most` decimal digits, as many as there are. -/
def digits (least most : Nat) : Reader Nat := fun cs =>
  let ds := (cs.take most).takeWhile Char.isDigit
  if ds.length < least then none else some (Nat.ofDigitChars 10 ds 0, cs.drop ds.length)

/-- All decimal digits at the front, of which there must be one, as they stand. -/
def allDigits : Reader (List Char) := fun cs =>
  let ds := cs.takeWhile Char.isDigit
  if ds.isEmpty then none else some (ds, cs.dropWhile Char.isDigit)

/-- The value of a reader that takes the whole text. -/
def all {α : Type} (r : Reader α) (cs : List Char) : Option α :=
  match r cs with
  | some (a, []) => some a
  | _ => none

/-- The value of the first reader in the list that takes the whole text. -/
def firstOf {α : Type} (rs : List (Reader α)) (cs : List Char) : Option α :=
  rs.findSome? fun r => r.all cs

/-- A character is read off the front of a text that starts with it. -/
@[simp] theorem char_cons (c : Char) (cs : List Char) : char c (c :: cs) = some ((), cs) := by
  simp [char]

/-- Reading blanks never fails. -/
@[simp] theorem blanks_apply (cs : List Char) : blanks cs = some ((), skipBlanks cs) := rfl

end Reader

end Almanac

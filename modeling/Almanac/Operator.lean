set_option relaxedAutoImplicit false
set_option autoImplicit false

/-!
# Operators

What can stand between two values. An operator belongs to one of three families: sums move a
date or a duration by a duration, comparisons compare two dates, and the difference counts the
time between two dates.

## Main definitions

* `Almanac.Direction`, `Almanac.Comparison`, `Almanac.Operator` — the operators by family.
* `Almanac.Operator.table`, `Almanac.Operator.ofSpelling?` — the spellings.
* `Almanac.Operator.spelling` — the spelling that is written.

## Main results

* `Almanac.Operator.ofSpelling?_spelling` — the written spelling is a spelling.
-/

namespace Almanac

/-- The two directions of a sum. -/
inductive Direction
  | forward
  | backward
  deriving DecidableEq, Repr

/-- The five ways to compare two dates. -/
inductive Comparison
  | same
  | after
  | sameOrAfter
  | before
  | sameOrBefore
  deriving DecidableEq, Repr

/-- The operators, by family. -/
inductive Operator
  /-- A date or a duration, moved by a duration. -/
  | sum (direction : Direction)
  /-- Whether two dates stand in an order. -/
  | comparison (kind : Comparison)
  /-- How far two dates are apart. -/
  | difference
  deriving DecidableEq, Repr

/-- The sign that a direction gives to a duration. -/
def Direction.sign : Direction → Int
  | forward => 1
  | backward => -1

namespace Operator

/-- The spellings, in the order in which they are listed; of the spellings of one operator the
first is the one that is written. -/
def table : List (String × Operator) :=
  [("+", sum .forward), ("-", sum .backward), ("=", comparison .same),
    ("==", comparison .same), (">", comparison .after), ("after", comparison .after),
    (">=", comparison .sameOrAfter), ("same-or-after", comparison .sameOrAfter),
    ("<", comparison .before), ("before", comparison .before),
    ("<=", comparison .sameOrBefore), ("same-or-before", comparison .sameOrBefore),
    ("--", difference), ("diff", difference)]

/-- Every spelling of an operator. -/
def allSpellings : List String :=
  table.map Prod.fst

/-- The operator of a spelling. -/
def ofSpelling? (spelling : String) : Option Operator :=
  (table.find? fun entry => entry.1 == spelling).map Prod.snd

/-- The spellings of one operator. -/
def spellings (op : Operator) : List String :=
  (table.filter fun entry => entry.2 = op).map Prod.fst

/-- The spelling that is written. -/
def spelling (op : Operator) : String :=
  op.spellings.headD ""

/-- The written spelling of an operator is a spelling of it. -/
@[simp] theorem ofSpelling?_spelling (op : Operator) : ofSpelling? op.spelling = some op := by
  rcases op with (_ | _) | (_ | _ | _ | _ | _) | _ <;> decide

end Operator

end Almanac

import Almanac.Duration
import Almanac.Instant

set_option relaxedAutoImplicit false
set_option autoImplicit false

/-!
# Values

What an expression is made of and what it comes to. Words denote instants and durations; an
expression may also come to a truth value, when it compares, or to a count, when it takes a
difference.

## Main definitions

* `Almanac.Operand` — what a word denotes.
* `Almanac.Value` — what an expression comes to.
* `Almanac.Kind`, `Almanac.Value.kind` — the sorts of values, as messages name them.
* `Almanac.Value.text` — the written form of a value.
-/

namespace Almanac

/-- What a word denotes. -/
inductive Operand
  | instant (i : Instant)
  | duration (d : Duration)
  deriving DecidableEq, Repr

/-- What an expression comes to. -/
inductive Value
  | instant (i : Instant)
  | duration (d : Duration)
  | truth (b : Bool)
  | count (n : Int)
  deriving DecidableEq, Repr

/-- The sorts of values. -/
inductive Kind
  | date
  | duration
  | truth
  | count
  deriving DecidableEq, Repr

/-- A sort of values with its article. -/
def Kind.text : Kind → String
  | date => "a date"
  | duration => "a duration"
  | truth => "a boolean"
  | count => "a number"

/-- A word's denotation is a value. -/
def Operand.toValue : Operand → Value
  | instant i => .instant i
  | duration d => .duration d

/-- The sort of a word's denotation. -/
def Operand.kind : Operand → Kind
  | instant _ => .date
  | duration _ => .duration

namespace Value

/-- The sort of a value. -/
def kind : Value → Kind
  | instant _ => .date
  | duration _ => .duration
  | truth _ => .truth
  | count _ => .count

/-- The written form of a value. -/
def text : Value → String
  | instant i => i.text
  | duration d => d.text
  | truth b => if b then "true" else "false"
  | count n => String.ofList (integer n)

end Value

/-- A word's denotation is of the same sort as its value. -/
@[simp] theorem Operand.kind_toValue (o : Operand) : o.toValue.kind = o.kind := by
  cases o <;> rfl

end Almanac

import Almanac.Difference
import Almanac.Expression
import Almanac.Move
import Almanac.Template

set_option relaxedAutoImplicit false
set_option autoImplicit false

/-!
# Evaluation

What an expression comes to. Each step looks at the sorts of its operands before it computes, and
the first step that fails ends the evaluation.

## Main definitions

* `Almanac.Step.apply` — one step.
* `Almanac.Expression.result` — all steps of an expression.
* `Almanac.Value.render` — the result, shown in a format.
* `Almanac.evaluate` — the result of a list of words.
-/

namespace Almanac

/-! ## Steps -/

/-- The sum of two durations of one unit. Sums in two units have no value, since months have no
length in days. -/
def Duration.add (left : Duration) (direction : Direction) (right : Duration) :
    Except Error Duration :=
  if left.unit = right.unit then
    let step? := match direction with
      | .forward => some right.magnitude
      | .backward => right.magnitude.neg?
    match step?.bind left.magnitude.add? with
    | some m => .ok ⟨m, left.unit⟩
    | none => .error (.outOfRange (.sum left direction right))
  else .error (.incompatibleUnits left.unit right.unit)

/-- The sum of a date or a duration and a duration. -/
def Value.add (zone : Zone) (left : Value) (direction : Direction) (right : Operand)
    (word : String) : Except Error Value :=
  match right with
  | .instant _ => .error (.dateOnRight word)
  | .duration step =>
    match left with
    | .instant i => (zone.move i direction step).map .instant
    | .duration d => (d.add direction step).map .duration
    | other => .error (.typeMismatch (.sum direction) other.kind)

/-- The instants that an operator compares or subtracts. -/
def instants (operator : Operator) (left : Value) (right : Operand) :
    Except Error (Instant × Instant) :=
  match left, right with
  | .instant a, .instant b => .ok (a, b)
  | .instant _, right => .error (.typeMismatch operator right.kind)
  | left, _ => .error (.typeMismatch operator left.kind)

/-- Whether two instants stand in an order. Only the moments count, not the offsets. -/
def Comparison.holds (a b : Instant) : Comparison → Bool
  | same => a.utc = b.utc
  | after => b.utc < a.utc
  | sameOrAfter => b.utc ≤ a.utc
  | before => a.utc < b.utc
  | sameOrBefore => a.utc ≤ b.utc

/-- The result of a step on a value. Differences are counted in `unit`. -/
def Step.apply (zone : Zone) (unit : TimeUnit) (left : Value) (s : Step) : Except Error Value :=
  match s.operator with
  | .sum direction => left.add zone direction s.operand s.word
  | .comparison c => do
    let (a, b) ← instants s.operator left s.operand
    return .truth (c.holds a b)
  | .difference => do
    let (a, b) ← instants s.operator left s.operand
    return .count (← zone.countBetween a b unit)

/-! ## Expressions -/

/-- The result of steps, one after the other. -/
def applySteps (zone : Zone) (unit : TimeUnit) (left : Value) : List Step → Except Error Value
  | [] => .ok left
  | s :: rest => do
    let next ← s.apply zone unit left
    applySteps zone unit next rest

/-- What an expression comes to. -/
def Expression.result (e : Expression) (zone : Zone) : Except Error Value :=
  applySteps zone e.countingUnit e.first.toValue e.steps

/-- A value, shown in a format. -/
def Value.render (v : Value) (format : Option ResultFormat) : Except Error String :=
  match v, format with
  | .instant i, some (.template t) => i.render t
  | .duration d, some (.template t) =>
    .error (.invalidFormat (.notForDates t (Value.duration d).kind))
  | v, _ => .ok v.text

/-- A result and how it is shown. -/
structure Evaluated where
  result : Value
  text : String
  deriving DecidableEq, Repr

/-- The result of a list of words. -/
def evaluate (p : Present) (words : List String) : Except Error Evaluated := do
  let e ← Expression.ofWords p words
  let result ← e.result p.zone
  let text ← result.render e.format
  return ⟨result, text⟩

end Almanac

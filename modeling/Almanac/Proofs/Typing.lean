import Almanac.Evaluation
import Mathlib.Order.Bounds.Basic

set_option relaxedAutoImplicit false
set_option autoImplicit false

/-!
# Types of expressions

The types of values are their sorts, but that a duration has its unit in its type: durations of two
units cannot be added. Which steps take which types on their left, and what they turn them into, can
be seen from an expression as it is written, and so can the first step that does not take what is
on its left, and the error of it.

## Main definitions

* `Almanac.ValueType`, `Almanac.Value.type` — the types.
* `Almanac.Step.HasType`, `Almanac.StepsHaveType`, `Almanac.Expression.HasType` — the typing of
  steps and of expressions.
* `Almanac.Step.typeError` — the error of a step that does not take what is on its left.

## Main results

* `Almanac.StepsHaveType.unique` — steps turn a type into one type at most.
* `Almanac.exists_first_misfit` — where steps first do not fit.
-/

namespace Almanac

/-! ## Types -/

/-- The types of values. -/
inductive ValueType
  | date
  /-- Durations of a unit. -/
  | duration (unit : TimeUnit)
  | truth
  | count
  deriving DecidableEq, Repr

/-- The sort of the values of a type, as messages name it. -/
def ValueType.kind : ValueType → Kind
  | date => .date
  | duration _ => .duration
  | truth => .truth
  | count => .count

/-- The type of a value. -/
def Value.type : Value → ValueType
  | instant _ => .date
  | duration d => .duration d.unit
  | truth _ => .truth
  | count _ => .count

/-- A value is of the sort of its type. -/
@[simp] lemma Value.kind_type (v : Value) : v.type.kind = v.kind := by
  cases v <;> rfl

/-- The values of the type of dates are instants. -/
lemma Value.eq_instant_of_type {v : Value} (h : v.type = .date) : ∃ i, v = .instant i := by
  cases v with
  | instant i => exact ⟨i, rfl⟩
  | duration d => cases h
  | truth t => cases h
  | count n => cases h

/-- The values of the type of the durations of a unit are durations of that unit. -/
lemma Value.eq_duration_of_type {v : Value} {unit : TimeUnit} (h : v.type = .duration unit) :
    ∃ d : Duration, v = .duration d ∧ d.unit = unit := by
  cases v with
  | instant i => cases h
  | duration d => exact ⟨d, rfl, ValueType.duration.inj h⟩
  | truth t => cases h
  | count n => cases h

/-! ## Typing -/

/-- A step takes values of one type to values of another. -/
inductive Step.HasType : Step → ValueType → ValueType → Prop
  /-- A date is moved by a duration. -/
  | moved (direction : Direction) (step : Duration) (word : String) :
    HasType ⟨.sum direction, .duration step, word⟩ .date .date
  /-- A duration is added to one of the same unit. -/
  | added (direction : Direction) (step : Duration) (word : String) :
    HasType ⟨.sum direction, .duration step, word⟩ (.duration step.unit) (.duration step.unit)
  /-- Two dates are compared. -/
  | compared (c : Comparison) (i : Instant) (word : String) :
    HasType ⟨.comparison c, .instant i, word⟩ .date .truth
  /-- The time between two dates is counted. -/
  | counted (i : Instant) (word : String) :
    HasType ⟨.difference, .instant i, word⟩ .date .count

/-- Steps, one after the other, take values of one type to values of another. -/
inductive StepsHaveType : List Step → ValueType → ValueType → Prop
  | nil (t : ValueType) : StepsHaveType [] t t
  | cons {s : Step} {rest : List Step} {a b c : ValueType} (first : s.HasType a b)
      (later : StepsHaveType rest b c) : StepsHaveType (s :: rest) a c

/-- An expression is of a type: its steps take the first operand there. -/
def Expression.HasType (e : Expression) (t : ValueType) : Prop :=
  StepsHaveType e.steps e.first.toValue.type t

/-- The error of a step that does not take what is on its left. A sum looks at its right operand
first, the other operators look at their left operand first. -/
def Step.typeError (s : Step) (left : ValueType) : Error :=
  match s.operator, s.operand with
  | .sum _, .instant _ => .dateOnRight s.word
  | .sum direction, .duration step =>
    match left with
    | .duration unit => .incompatibleUnits unit step.unit
    | other => .typeMismatch (.sum direction) other.kind
  | operator, right =>
    .typeMismatch operator (if left = .date then right.kind else left.kind)

/-- A step turns a type into one type at most. -/
lemma Step.HasType.unique {s : Step} {a b c : ValueType} (hb : s.HasType a b)
    (hc : s.HasType a c) : b = c := by
  cases hb <;> cases hc <;> rfl

/-- Steps turn a type into one type at most. -/
theorem StepsHaveType.unique {steps : List Step} {a b c : ValueType}
    (hb : StepsHaveType steps a b) (hc : StepsHaveType steps a c) : b = c := by
  induction hb with
  | nil t =>
    cases hc
    rfl
  | cons first later ih =>
    cases hc with
    | cons first' later' =>
      obtain rfl := first.unique first'
      exact ih later'

/-- Where steps do not fit there is a first one that does not.

**Proof sketch.** Induction on the steps: either the first one does not take the type on its left,
or the others do not fit. -/
theorem exists_first_misfit {steps : List Step} {a : ValueType}
    (h : ∀ b, ¬ StepsHaveType steps a b) :
    ∃ before s after b, steps = before ++ s :: after ∧ StepsHaveType before a b ∧
      ∀ c, ¬ s.HasType b c := by
  induction steps generalizing a with
  | nil => exact absurd (.nil a) (h a)
  | cons s rest ih =>
    by_cases hs : ∃ b, s.HasType a b
    · obtain ⟨b, hb⟩ := hs
      obtain ⟨before, t, after, c, rfl, hbefore, ht⟩ := ih fun c hc => h c (.cons hb hc)
      exact ⟨s :: before, t, after, c, rfl, .cons hb hbefore, ht⟩
    · exact ⟨[], s, rest, a, rfl, .nil a, fun b hb => hs ⟨b, hb⟩⟩

end Almanac

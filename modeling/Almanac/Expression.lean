import Almanac.Present
import Almanac.DateText

set_option relaxedAutoImplicit false
set_option autoImplicit false

/-!
# Expressions

A list of words is an expression when operands and operators alternate in it, beginning and
ending with an operand. Two words more, `to` and a format, may say how the result is to be shown.

## Main definitions

* `Almanac.Expression`, `Almanac.Step`, `Almanac.ResultFormat` — expressions.
* `Almanac.takeFormat` — the format at the end of a list of words.
* `Almanac.Present.operandOf` — what a word denotes.
* `Almanac.Expression.ofWords` — the expression that a list of words is.
-/

namespace Almanac

/-- How a result is to be shown. -/
inductive ResultFormat
  /-- A count, in a unit. -/
  | unit (u : TimeUnit)
  /-- A date, as a template says. -/
  | template (t : String)
  deriving DecidableEq, Repr

/-- An operator and the operand on its right. -/
structure Step where
  operator : Operator
  operand : Operand
  /-- The operand as it was written. -/
  word : String
  deriving DecidableEq, Repr

/-- A chain of steps from a first operand. There is no precedence: each step takes the result of
the steps before it on its left. -/
structure Expression where
  first : Operand
  steps : List Step
  format : Option ResultFormat
  deriving DecidableEq, Repr

/-- The unit in which an expression counts differences: that of its format, or milliseconds. -/
def Expression.countingUnit (e : Expression) : TimeUnit :=
  match e.format with
  | some (.unit u) => u
  | _ => .milliseconds

/-! ## The format at the end -/

/-- The word that announces a format. -/
def formatWord : String := "to"

/-- Takes a format and the word that announces it off the end of a list of words. -/
def takeFormat (words : List String) : Except Error (List String × Option String) :=
  match words.reverse with
  | [] => .ok (words, none)
  | last :: before =>
    if before.head? = some formatWord then .ok (before.tail.reverse, some last)
    else if last = formatWord then .error .missingFormat
    else .ok (words, none)

/-- What a format means after the last step: a unit after a difference, a template after a
sum. -/
def formatAfter (operator : Operator) (format : String) : Except Error ResultFormat :=
  match operator with
  | .comparison _ => .error (.formatOnComparison format)
  | .difference =>
    match TimeUnit.ofWord? format with
    | some u => .ok (.unit u)
    | none => .error (.unknownUnit format)
  | .sum _ => .ok (.template format)

/-- The format of an expression with the given steps. -/
def resultFormat (steps : List Step) : Option String → Except Error (Option ResultFormat)
  | none => .ok none
  | some format =>
    match steps.getLast? with
    | some step => (formatAfter step.operator format).map some
    | none => .ok none

/-! ## Operands and operators -/

/-- What a word denotes: a date, an anchor, or a duration. -/
def Present.operandOf (p : Present) (word : String) : Except Error Operand :=
  match (p.zone.instantOf? word).or (p.ofWord? word) with
  | some i => .ok (.instant i)
  | none =>
    match Duration.parse? word with
    | some d => .ok (.duration d)
    | none => .error (.unrecognizedValue word)

/-- The operator that a word is. -/
def operatorOf (word : String) : Except Error Operator :=
  match Operator.ofSpelling? word with
  | some op => .ok op
  | none => .error (.unknownOperator word)

/-- The step that an operator and an operand make. -/
def Present.stepOf (p : Present) (spelling word : String) : Except Error Step := do
  let operator ← operatorOf spelling
  let operand ← p.operandOf word
  return ⟨operator, operand, word⟩

/-- The steps of the words after the first operand. -/
def Present.stepsOf (p : Present) : List String → Except Error (List Step)
  | [] => .ok []
  | [spelling] => do
    let _ ← operatorOf spelling
    throw (.trailingOperator spelling)
  | spelling :: word :: rest => do
    let step ← p.stepOf spelling word
    let steps ← p.stepsOf rest
    return step :: steps

/-- The first operand and the words after it. The end of the list is looked at first, so that an
operator there is reported before anything else. -/
def headAndRest (words : List String) : Except Error (String × List String) :=
  match words.getLast?.filter fun last => (Operator.ofSpelling? last).isSome with
  | some last => .error (.trailingOperator last)
  | none =>
    match words with
    | first :: second :: rest => .ok (first, second :: rest)
    | _ => .error .missingOperation

/-- The expression that a list of words is. -/
def Expression.ofWords (p : Present) (words : List String) : Except Error Expression := do
  let (words, format) ← takeFormat words
  let (first, rest) ← headAndRest words
  let first ← p.operandOf first
  let steps ← p.stepsOf rest
  let format ← resultFormat steps format
  return ⟨first, steps, format⟩

end Almanac

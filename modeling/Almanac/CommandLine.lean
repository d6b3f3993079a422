import Almanac.Evaluation
import Almanac.Manual
import Almanac.Text.Json
import Almanac.Zone.Named

set_option relaxedAutoImplicit false
set_option autoImplicit false

/-!
# The command line

What the program answers to its arguments, as a function of the arguments and the current time.
Options stand before the expression. The first argument that is no option begins it, and from then
on every argument is a word of it, since operators and negative durations begin with a hyphen too.

## Main definitions

* `Almanac.Argument`, `Almanac.Argument.ofString` — what an argument means before the expression.
* `Almanac.Request`, `Almanac.Request.ofArguments` — what the arguments ask for.
* `Almanac.Value.toJson`, `Almanac.Evaluated.toJson` — results as documents.
* `Almanac.Outcome`, `Almanac.answer` — what the program writes and how it ends.
-/

namespace Almanac

/-! ## Arguments -/

/-- What an argument means before the expression. -/
inductive Argument
  /-- The zone, in the same argument or in the next. -/
  | zone (attached : Option String)
  /-- Results as documents. -/
  | json
  /-- More about the steps of the evaluation, which does not change the answer. -/
  | verbose
  | version
  /-- The options end here. -/
  | separator
  /-- A value for an option that takes none. -/
  | needlessValue
  /-- No option. -/
  | word
  deriving DecidableEq, Repr

/-- The options with long names. -/
def longOptions : List (String × Argument) :=
  [("--tz", .zone none), ("--json", .json), ("--verbose", .verbose), ("--version", .version)]

/-- An option with a value after an equals sign. -/
def Argument.withValue (value : String) : Argument → Argument
  | zone _ => .zone (some value)
  | _ => .needlessValue

/-- The option that characters after one hyphen are, if they are all letters of options. -/
def shortOptions (letters : List Char) : Argument :=
  if letters.isEmpty ∨ ¬ letters.all (fun c => c == 'v' || c == 'V') then .word
  else if 'V' ∈ letters then .version
  else .verbose

/-- What an argument means before the expression. -/
def Argument.ofString (arg : String) : Argument :=
  if arg = "--" then .separator
  else
    let name := arg.toList.takeWhile (· != '=')
    match longOptions.find? fun entry => entry.1.toList == name with
    | some (_, option) =>
      match arg.toList.dropWhile (· != '=') with
      | [] => option
      | _ :: value => option.withValue (String.ofList value)
    | none =>
      match arg.toList with
      | '-' :: letters => shortOptions letters
      | _ => .word

/-! ## Requests -/

/-- The options of an evaluation. An option may be given once. -/
structure Options where
  zone : Option String
  json : Bool
  deriving DecidableEq, Repr

/-- The options when none is given. -/
def Options.default : Options := ⟨none, false⟩

/-- The name of the zone in which an expression is evaluated. -/
def Options.zoneName (o : Options) : String :=
  o.zone.getD Zone.host.name

/-- What the arguments ask for. -/
inductive Request
  | version
  /-- The options make no sense. -/
  | misuse
  | evaluate (options : Options) (words : List String)
  deriving DecidableEq, Repr

/-- Reads the arguments after those that led to `options`. -/
def Request.ofArguments (options : Options) : List String → Request
  | [] => .evaluate options []
  | arg :: rest =>
    match Argument.ofString arg with
    | .separator => .evaluate options rest
    | .word => .evaluate options (arg :: rest)
    | .version => .version
    | .needlessValue => .misuse
    | .verbose => ofArguments options rest
    | .json =>
      if options.json then .misuse else ofArguments { options with json := true } rest
    | .zone (some name) =>
      if options.zone.isSome then .misuse
      else ofArguments { options with zone := some name } rest
    | .zone none =>
      match rest with
      | [] => .misuse
      | name :: more =>
        if options.zone.isSome ∨ Argument.ofString name ≠ .word then .misuse
        else ofArguments { options with zone := some name } more

/-! ## Documents -/

/-- A duration as a document. -/
def Duration.toJson (d : Duration) : Json :=
  .object [("magnitude", .string d.magnitude.text), ("unit", .string d.unit.name)]

/-- A value as a document: its sort and what it is. -/
def Value.toJson (v : Value) : Json :=
  let (kind, value) := match v with
    | .instant i => ("instant", Json.string (String.ofList (i.stamp true)))
    | .duration d => ("duration", d.toJson)
    | .truth b => ("boolean", .truth b)
    | .count n => ("number", .integer n)
  .object [("kind", .string kind), ("value", value)]

/-- A result as a document. -/
def Evaluated.toJson (e : Evaluated) : Json :=
  .object [("result", e.result.toJson), ("text", .string e.text)]

/-! ## Answers -/

/-- What the program writes and how it ends. -/
structure Outcome where
  code : Nat
  output : String
  errors : String
  deriving DecidableEq, Repr

/-- An outcome with a text for the user. -/
def Outcome.success (output : String) : Outcome := ⟨0, output, ""⟩

/-- The outcome of an error. A template that nothing can be written with and a clock that shows no
day of the calendar end the program in a way of their own. -/
def Outcome.failure (e : Error) : Outcome :=
  match e with
  | .readOnlySpecifier _ | .offCalendar _ => ⟨101, "", s!"{e.message}\n"⟩
  | _ => ⟨1, "", s!"Error: {e.message}\n"⟩

/-- The result of the words of an expression under options. -/
def Options.evaluate (o : Options) (now : Reading) (words : List String) :
    Except Error Evaluated := do
  let zone ← Zone.ofName o.zoneName
  let present ← Present.ofNow zone now
  Almanac.evaluate present words

/-- How a result is printed under options. -/
def Options.printed (o : Options) (e : Evaluated) : String :=
  let text := if o.json then e.toJson.pretty else e.text
  s!"{text}\n"

/-- The answer to a request at a moment. -/
def Request.answer (now : Reading) : Request → Outcome
  | version => .success "datecalc 0.1.0\n"
  | misuse => ⟨2, "", ""⟩
  | evaluate options words =>
    match options.evaluate now words with
    | .ok e => .success (options.printed e)
    | .error e => .failure e

/-- The answer of the program to its arguments at a moment. -/
def answer (now : Reading) (args : List String) : Outcome :=
  if asksForHelp args then .success manual
  else (Request.ofArguments .default args).answer now

end Almanac

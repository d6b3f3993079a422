import Almanac.Error
import Almanac.Template.Token

set_option relaxedAutoImplicit false
set_option autoImplicit false

/-!
# Templates

How a date is to be shown. A template with a percent sign consists of percent directives, any
other of letter tokens. A template is checked first and then written; writing itself checks nothing,
and ends the program when it comes to something that has no text.

## Main definitions

* `Almanac.Template.outcome` — the outcome of writing.
* `Almanac.Template.renderDirectives`, `Almanac.Template.renderTokens` — the two languages.
* `Almanac.Instant.render` — an instant, shown as a template says.
-/

namespace Almanac

namespace Template

/-- What is shown of a template that has passed its check: the text that is written for it. -/
def outcome (template : String) : Option (List Char) → Except Error String
  | some text => .ok (String.ofList text)
  | none => .error (.readOnlySpecifier template)

/-- Shows an instant as percent directives say. Only what is no specifier is looked for before. -/
def renderDirectives (i : Instant) (template : String) : Except Error String :=
  if .invalid ∈ scan template.toList then .error (.invalidFormat (.badSpecifier template))
  else outcome template (writeDirectives? i template.toList)

/-- Shows an instant as letter tokens say. -/
def renderTokens (i : Instant) (template : String) : Except Error String :=
  match pieces? template.toList with
  | some pieces => outcome template (writeAll? (Piece.write? i) pieces)
  | none => .error (.invalidFormat (.unclosedBracket template))

end Template

/-- An instant, shown as a template says. -/
def Instant.render (i : Instant) (template : String) : Except Error String :=
  if '%' ∈ template.toList then Template.renderDirectives i template
  else Template.renderTokens i template

end Almanac

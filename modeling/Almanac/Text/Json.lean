import Almanac.Text.Number

set_option relaxedAutoImplicit false
set_option autoImplicit false

/-!
# JSON documents

The part of JSON in which results are written, and its printed form: one member a line, nested
objects indented by two blanks.

## Main definitions

* `Almanac.Json` — documents.
* `Almanac.Json.quoted` — strings with their quotes and escapes.
* `Almanac.Json.pretty` — documents on several lines.
-/

namespace Almanac

/-- A document. Objects keep the order of their members. -/
inductive Json
  | string (s : String)
  | integer (n : Int)
  | truth (b : Bool)
  | object (members : List (String × Json))

namespace Json

/-- A control character as the number of its code point in four hexadecimal digits. -/
def unicodeEscape (c : Char) : List Char :=
  '\\' :: 'u' :: (Nat.toDigits 16 c.toNat).leftpad 4 '0'

/-- A character of a string. Only quotes, backslashes and control characters are escaped. -/
def escaped (c : Char) : List Char :=
  match c with
  | '"' => ['\\', '"']
  | '\\' => ['\\', '\\']
  | '\n' => ['\\', 'n']
  | '\r' => ['\\', 'r']
  | '\t' => ['\\', 't']
  | c =>
    if c.toNat = 8 then ['\\', 'b']
    else if c.toNat = 12 then ['\\', 'f']
    else if c.toNat < 32 then unicodeEscape c
    else [c]

/-- A string in quotes. -/
def quoted (s : String) : List Char :=
  '"' :: s.toList.flatMap escaped ++ ['"']

/-- A new line, indented. -/
def newline (depth : Nat) : List Char :=
  '\n' :: List.replicate (2 * depth) ' '

mutual

/-- A document on several lines, of which those after the first are indented. -/
def lines (depth : Nat) : Json → List Char
  | string s => quoted s
  | integer n => Almanac.integer n
  | truth b => if b then ['t', 'r', 'u', 'e'] else ['f', 'a', 'l', 's', 'e']
  | object [] => ['\x7b', '\x7d']
  | object (m :: ms) =>
    '\x7b' :: newline (depth + 1) ++ memberLines (depth + 1) m ++ memberTail (depth + 1) ms ++
      newline depth ++ ['\x7d']

/-- One member of an object. -/
def memberLines (depth : Nat) : String × Json → List Char
  | (key, value) => quoted key ++ ':' :: ' ' :: lines depth value

/-- The members of an object after its first, each after a comma. -/
def memberTail (depth : Nat) : List (String × Json) → List Char
  | [] => []
  | m :: ms => ',' :: newline depth ++ memberLines depth m ++ memberTail depth ms

end

/-- A document on several lines. -/
def pretty (j : Json) : String :=
  String.ofList (lines 0 j)

end Json

end Almanac

import Almanac.Template.Directive

set_option relaxedAutoImplicit false
set_option autoImplicit false

/-!
# Letter tokens

Formats of letters, as in `YYYY-MM-DD`, where a run of letters stands for a part of a date and
square brackets enclose text that stands for itself.

## Main definitions

* `Almanac.Template.Token`, `Almanac.Template.tokens` — the spellings and what they mean.
* `Almanac.Template.Token.at?` — the token with which a text begins.
* `Almanac.Template.Piece`, `Almanac.Template.pieces?` — a format, cut into tokens and text.
* `Almanac.Template.Piece.write?` — what a piece shows of an instant.

## Main results

* `Almanac.Template.Token.length_pos` — a token is not empty.
-/

namespace Almanac

namespace Template

/-- What a token shows. -/
inductive Field
  /-- What a percent specifier shows. -/
  | specifier (format : String)
  /-- The quarter of the year. -/
  | quarter
  /-- The first two letters of the week day. -/
  | shortestWeekday
  /-- The day of the month as an ordinal number. -/
  | ordinalDay
  /-- Hundredths of the second, in two digits. -/
  | hundredths
  /-- Tenths of the second. -/
  | tenths
  /-- Milliseconds since 1970. -/
  | unixMillis
  deriving DecidableEq, Repr

/-- A spelling and what it means. -/
structure Token where
  spelling : String
  field : Field
  deriving DecidableEq, Repr

/-- The tokens. Of two spellings of which one begins the other the longer comes first, and so
wins. -/
def tokens : List Token :=
  [⟨"YYYY", .specifier "%Y"⟩, ⟨"YY", .specifier "%y"⟩, ⟨"Q", .quarter⟩,
    ⟨"MMMM", .specifier "%B"⟩, ⟨"MMM", .specifier "%b"⟩, ⟨"MM", .specifier "%m"⟩,
    ⟨"M", .specifier "%-m"⟩, ⟨"DDDD", .specifier "%j"⟩, ⟨"DDD", .specifier "%-j"⟩,
    ⟨"Do", .ordinalDay⟩, ⟨"DD", .specifier "%d"⟩, ⟨"D", .specifier "%-d"⟩,
    ⟨"dddd", .specifier "%A"⟩, ⟨"ddd", .specifier "%a"⟩, ⟨"dd", .shortestWeekday⟩,
    ⟨"d", .specifier "%w"⟩, ⟨"E", .specifier "%u"⟩, ⟨"WW", .specifier "%V"⟩,
    ⟨"W", .specifier "%-V"⟩, ⟨"HH", .specifier "%H"⟩, ⟨"H", .specifier "%-H"⟩,
    ⟨"hh", .specifier "%I"⟩, ⟨"h", .specifier "%-I"⟩, ⟨"mm", .specifier "%M"⟩,
    ⟨"m", .specifier "%-M"⟩, ⟨"ss", .specifier "%S"⟩, ⟨"s", .specifier "%-S"⟩,
    ⟨"SSS", .specifier "%3f"⟩, ⟨"SS", .hundredths⟩, ⟨"S", .tenths⟩, ⟨"A", .specifier "%p"⟩,
    ⟨"a", .specifier "%P"⟩, ⟨"ZZ", .specifier "%z"⟩, ⟨"Z", .specifier "%:z"⟩,
    ⟨"X", .specifier "%s"⟩, ⟨"x", .unixMillis⟩]

/-- The characters of a token. -/
def Token.chars (t : Token) : List Char :=
  t.spelling.toList

/-- The token with which a text begins. -/
def Token.at? (cs : List Char) : Option Token :=
  tokens.find? fun t => t.chars.isPrefixOf cs

/-- A token has at least one character. -/
theorem Token.length_pos {cs : List Char} {t : Token} (h : Token.at? cs = some t) :
    0 < t.chars.length := by
  have hall : ∀ t ∈ tokens, 0 < t.chars.length := by decide
  exact hall t (List.mem_of_find?_eq_some h)

/-- A part of a format. -/
inductive Piece
  /-- Text that stands for itself. -/
  | literal (text : List Char)
  | token (t : Token)
  deriving DecidableEq, Repr

/-- Text before other pieces. It joins text that follows it, and empty text is no piece. -/
def consText (text : List Char) : List Piece → List Piece
  | .literal more :: rest => .literal (text ++ more) :: rest
  | rest => if text.isEmpty then rest else .literal text :: rest

/-- The text up to a closing bracket, and the text after the bracket. -/
def closeBracket? (cs : List Char) : Option (List Char × List Char) :=
  match cs.dropWhile (· != ']') with
  | [] => none
  | _ :: rest => some (cs.takeWhile (· != ']'), rest)

/-- The text after a closing bracket is shorter. -/
theorem length_lt_of_closeBracket? {cs text rest : List Char}
    (h : closeBracket? cs = some (text, rest)) : rest.length < cs.length := by
  unfold closeBracket? at h
  split at h
  · contradiction
  next b r hdrop =>
    cases h
    have hle := (List.dropWhile_sublist (· != ']') (l := cs)).length_le
    rw [hdrop, List.length_cons] at hle
    omega

/-- The pieces of a format, unless a bracket is left open. -/
def pieces? (cs : List Char) : Option (List Piece) :=
  match cs with
  | [] => some []
  | '[' :: rest =>
    match _hclose : closeBracket? rest with
    | some (text, after) => (pieces? after).map (consText text)
    | none => none
  | c :: rest =>
    match _htoken : Token.at? (c :: rest) with
    | some t => (pieces? ((c :: rest).drop t.chars.length)).map (.token t :: ·)
    | none => (pieces? rest).map (consText [c])
termination_by cs.length
decreasing_by
  · have := length_lt_of_closeBracket? _hclose
    simp only [List.length_cons]
    omega
  · have := Token.length_pos _htoken
    simp only [List.length_drop, List.length_cons]
    omega
  · simp

/-! ## Writing -/

/-- The quarter in which a month lies, which is one from 1 on. -/
def quarter? : Nat → Option Nat
  | 0 => none
  | place + 1 => some (place / 3 + 1)

/-- The ending of an ordinal number: those from 11 to 13 do not follow their last digit. -/
def ordinalEnding (n : Nat) : List Char :=
  if 11 ≤ n % 100 ∧ n % 100 ≤ 13 then ['t', 'h']
  else
    match n % 10 with
    | 1 => ['s', 't']
    | 2 => ['n', 'd']
    | 3 => ['r', 'd']
    | _ => ['t', 'h']

/-- What percent directives show of an instant, if they can be written. They are not checked
before. -/
def writeDirectives? (i : Instant) (cs : List Char) : Option (List Char) :=
  writeAll? (Item.write? i) (scan cs)

/-- What a field shows of an instant, if it can be written. -/
def Field.write? (i : Instant) : Field → Option (List Char)
  | specifier format => writeDirectives? i format.toList
  | quarter => (quarter? i.wall.date.month).map digitsOf
  | shortestWeekday => (writeDirectives? i ['%', 'a']).map (List.take 2)
  | ordinalDay => some (digitsOf i.wall.date.day ++ ordinalEnding i.wall.date.day)
  | hundredths => some (zeroPadded 2 (i.wall.nanosecond / 10000000))
  | tenths => some (digitsOf (i.wall.nanosecond / 100000000))
  | unixMillis => some (integer i.unixMillis)

/-- What a piece shows of an instant, if it can be written. -/
def Piece.write? (i : Instant) : Piece → Option (List Char)
  | literal text => some text
  | token t => t.field.write? i

end Template

end Almanac

import Almanac.Proofs.Joining
import Mathlib.Data.List.Chain
import Mathlib.Data.List.Nodup

set_option relaxedAutoImplicit false
set_option autoImplicit false

/-!
# What becomes of a template

A template is a row of segments: texts in brackets, tokens and single characters. Which of them
stands at a place is seen from what follows: a text in brackets ends at the first closing one, a
token is the longest one with which the rest begins, and a single character is neither a bracket nor
the beginning of a token. Each segment is taken off in one go, so that the pieces of a template are
its segments, texts that stand next to each other being joined; nothing of it is lost but the
brackets.

## Main definitions

* `Almanac.Template.Token.IsLongest` — a token is the longest one with which a text begins.
* `Almanac.Template.Segment`, `Almanac.Template.Fit` — the segments of a template.
* `Almanac.Template.slicesOf` — the texts into which a template is cut.
* `Almanac.Template.withoutBrackets` — a template without its brackets.
* `Almanac.Template.Compact` — no text among pieces is empty or next to another one.

## Main results

* `Almanac.Template.Token.at?_eq_some_iff` — the token that is found is the longest one.
* `Almanac.Template.pieces?_written` — the segments of a template are taken off one after the other.
* `Almanac.Template.exists_segments` — every template has segments, up to a bracket left open.
* `Almanac.Template.pieces?_lossless` — the pieces of a template are its segments.
-/

namespace Almanac

namespace Template

/-! ## The longest token -/

/-- A token of the table is the longest one with which a text begins. -/
structure Token.IsLongest (t : Token) (cs : List Char) : Prop where
  mem : t ∈ tokens
  begins : t.chars <+: cs
  longest : ∀ u ∈ tokens, u.chars <+: cs → u.chars.length ≤ t.chars.length

namespace Token

variable {cs : List Char} {t u : Token}

/-- No token begins one that comes after it in the table. -/
lemma pairwise_tokens : tokens.Pairwise fun t u => ¬ t.chars <+: u.chars := by
  decide +kernel

/-- A token is given by its characters. -/
lemma eq_of_chars_eq (ht : t ∈ tokens) (hu : u ∈ tokens) (h : t.chars = u.chars) : t = u := by
  have hnodup : (tokens.map chars).Nodup := by decide +kernel
  exact List.inj_on_of_nodup_map hnodup ht hu h

/-- A token is given by what it shows. -/
lemma eq_of_field_eq (ht : t ∈ tokens) (hu : u ∈ tokens) (h : t.field = u.field) : t = u := by
  have hnodup : (tokens.map field).Nodup := by decide +kernel
  exact List.inj_on_of_nodup_map hnodup ht hu h

/-- The token that is found is the longest one.

**Proof sketch.** The longer of two tokens that both begin a text begins with the shorter one, which
therefore comes after it in the table. -/
lemma isLongest_of_at? (h : at? cs = some t) : t.IsLongest cs := by
  have hmem := mem_of_at? h
  rw [at?, List.find?_eq_some_iff_append] at h
  obtain ⟨hbegins, before, after, htable, hbefore⟩ := h
  rw [List.isPrefixOf_iff_prefix] at hbegins
  refine ⟨hmem, hbegins, fun u hu hubegins => ?_⟩
  have horder := pairwise_tokens
  rw [htable, List.pairwise_append, List.pairwise_cons] at horder
  rw [htable, List.mem_append, List.mem_cons] at hu
  rcases hu with hu | rfl | hu
  · -- a token that comes before the first one found does not begin the text
    have hnot := hbefore u hu
    rw [← List.isPrefixOf_iff_prefix] at hubegins
    simp [hubegins] at hnot
  · exact le_rfl
  · have hshorter := (List.prefix_or_prefix_of_prefix hbegins hubegins).resolve_left
      (horder.2.1.1 u hu)
    exact hshorter.length_le

/-- There is one longest token at most. -/
lemma IsLongest.unique (ht : t.IsLongest cs) (hu : u.IsLongest cs) : t = u := by
  have hlength := Nat.le_antisymm (hu.longest t ht.mem ht.begins) (ht.longest u hu.mem hu.begins)
  refine eq_of_chars_eq ht.mem hu.mem ?_
  exact (List.prefix_of_prefix_length_le ht.begins hu.begins hlength.le).eq_of_length hlength

/-- No token is found if none begins the text. -/
lemma at?_eq_none_iff : at? cs = none ↔ ∀ t ∈ tokens, ¬ t.chars <+: cs := by
  simp [at?, List.find?_eq_none, List.isPrefixOf_iff_prefix]

/-- The token that is found is the longest one with which the text begins. -/
theorem at?_eq_some_iff : at? cs = some t ↔ t.IsLongest cs := by
  refine ⟨isLongest_of_at?, fun h => ?_⟩
  cases hfound : at? cs with
  | none => exact absurd h.begins (at?_eq_none_iff.mp hfound t h.mem)
  | some u => rw [(isLongest_of_at? hfound).unique h]

end Token

/-! ## Segments -/

/-- A segment of a template. -/
inductive Segment
  /-- A text in brackets. -/
  | bracketed (text : List Char)
  | token (t : Token)
  /-- A character that stands for itself. -/
  | plain (c : Char)
  deriving DecidableEq, Repr

namespace Segment

/-- The texts into which a segment is cut: brackets stand alone. -/
def slices : Segment → List (List Char)
  | bracketed text => [['['], text, [']']]
  | token t => [t.chars]
  | plain c => [[c]]

/-- A segment as it stands in a template. -/
def written (s : Segment) : List Char :=
  s.slices.flatten

@[simp] lemma written_bracketed (text : List Char) :
    (bracketed text).written = '[' :: (text ++ [']']) := by
  simp [written, slices]

@[simp] lemma written_token (t : Token) : (token t).written = t.chars :=
  List.flatten_singleton

@[simp] lemma written_plain (c : Char) : (plain c).written = [c] := rfl

/-- A segment as a piece. -/
def piece : Segment → Piece
  | bracketed text => .literal text
  | token t => .token t
  | plain c => .literal [c]

/-- A segment is the one that stands at a place, judged by what follows it. A text in brackets ends
at the first closing one, a token is the longest one that begins there, and a character that stands
for itself is neither an opening bracket nor the beginning of a token. -/
def FitsBefore (rest : List Char) : Segment → Prop
  | bracketed text => ']' ∉ text
  | token t => t.IsLongest (t.chars ++ rest)
  | plain c => c ≠ '[' ∧ ∀ t ∈ tokens, ¬ t.chars <+: c :: rest

end Segment

/-- Segments as they stand in a template, one after the other. -/
def written (segments : List Segment) : List Char :=
  segments.flatMap Segment.written

/-- Each of the segments before a text stands at its place. -/
def Fit : List Segment → List Char → Prop
  | [], _ => True
  | s :: segments, rest => s.FitsBefore (written segments ++ rest) ∧ Fit segments rest

/-- The texts into which a template is cut: the slices of its segments, then the first character of
the rest, which is a bracket if there is one, and what comes after it. -/
def slicesOf (segments : List Segment) (rest : List Char) : List (List Char) :=
  segments.flatMap Segment.slices ++ [rest.take 1, rest.drop 1]

/-- No segment can be taken off a text: nothing is left of it, or a bracket is not closed. -/
def Ends (rest : List Char) : Prop :=
  rest = [] ∨ ∃ text, rest = '[' :: text ∧ ']' ∉ text

/-- A template consists of segments that stand at their places, and a rest that has none. -/
structure IsCut (cs : List Char) (segments : List Segment) (rest : List Char) : Prop where
  whole : cs = written segments ++ rest
  fit : Fit segments rest
  ends : Ends rest

/-- The first segment comes first. -/
lemma written_cons (s : Segment) (segments : List Segment) :
    written (s :: segments) = s.written ++ written segments :=
  List.flatMap_cons

/-! ## Pieces -/

/-- Whether a piece is a text. -/
def Piece.IsLiteral : Piece → Prop
  | literal _ => True
  | token _ => False

/-- The characters and tokens of which a piece consists. -/
def Piece.marks : Piece → List (Char ⊕ Token)
  | literal text => text.map .inl
  | token t => [.inr t]

/-- A piece, spelled as in a template. -/
def Piece.spelled : Piece → List Char
  | literal text => text
  | token t => t.chars

/-- The characters and tokens are seamless. -/
lemma seamless_marks : Seamless Piece.marks :=
  ⟨rfl, fun _ _ => List.map_append⟩

/-- The spelling is seamless. -/
lemma seamless_spelled : Seamless Piece.spelled :=
  ⟨rfl, fun _ _ => rfl⟩

/-- No text among pieces is empty, and none is next to another one. -/
structure Compact (pieces : List Piece) : Prop where
  nonempty : .literal [] ∉ pieces
  apart : pieces.IsChain fun p q => ¬ (p.IsLiteral ∧ q.IsLiteral)

section Compact

variable {ps : List Piece}

/-- No pieces are compact. -/
lemma compact_nil : Compact [] :=
  ⟨List.not_mem_nil, .nil⟩

/-- A token may come before any pieces. -/
lemma Compact.token_cons (h : Compact ps) (t : Token) : Compact (.token t :: ps) := by
  refine ⟨?_, List.isChain_cons.mpr ⟨fun q _ hq => hq.1, h.apart⟩⟩
  simpa using h.nonempty

/-- A text that is not empty may come before pieces that do not begin with one. -/
lemma Compact.literal_cons (h : Compact ps) {text : List Char} (htext : text ≠ [])
    (hfirst : ∀ p ∈ ps.head?, ¬ p.IsLiteral) : Compact (.literal text :: ps) := by
  refine ⟨?_, List.isChain_cons.mpr ⟨fun p hp hboth => hfirst p hp hboth.2, h.apart⟩⟩
  rw [List.mem_cons, not_or]
  exact ⟨fun heq => htext (Piece.literal.inj heq).symm, h.nonempty⟩

/-- Text before pieces joins a text with which they begin. -/
lemma Compact.consText (h : Compact ps) (text : List Char) :
    Compact (Template.consText text ps) := by
  rw [Template.consText.eq_def]
  split
  · next more rest =>
    obtain ⟨hfirst, hrest⟩ := List.isChain_cons.mp h.apart
    have hafter : Compact rest := ⟨fun hmem => h.nonempty (List.mem_cons_of_mem _ hmem), hrest⟩
    have hmore : more ≠ [] := by
      rintro rfl
      exact h.nonempty List.mem_cons_self
    refine hafter.literal_cons (List.append_ne_nil_of_right_ne_nil text hmore) ?_
    exact fun p hp hliteral => hfirst p hp ⟨trivial, hliteral⟩
  · next hother =>
    split_ifs with hempty
    · exact h
    · refine h.literal_cons (by simpa using hempty) fun p hp hliteral => ?_
      cases p with
      | literal more =>
        obtain ⟨rest, rfl⟩ := List.head?_eq_some_iff.mp hp
        exact hother more rest rfl
      | token t => exact hliteral

/-- Joined pieces are compact if those that come last are. -/
lemma Compact.join (h : Compact ps) (before : List Piece) : Compact (Template.join before ps) := by
  induction before with
  | nil => exact h
  | cons p before ih =>
    cases p with
    | literal text => exact ih.consText text
    | token t => exact ih.token_cons t

end Compact

/-! ## The segments of a template -/

/-- A segment is taken off a template in one go. -/
lemma pieces?_segment {s : Segment} {rest : List Char} (h : s.FitsBefore rest) :
    pieces? (s.written ++ rest) = (pieces? rest).map (consPiece s.piece) := by
  cases s with
  | bracketed text =>
    have hclose : closeBracket? (text ++ ']' :: rest) = some (text, rest) :=
      closeBracket?_eq_some_iff.mpr ⟨h, rfl⟩
    have hwhole : (Segment.bracketed text).written ++ rest = '[' :: (text ++ ']' :: rest) := by
      simp
    rw [hwhole, pieces?_bracket hclose]
    rfl
  | token t =>
    have hfound := Token.at?_eq_some_iff.mpr h
    obtain ⟨c, more, hchars⟩ := List.exists_cons_of_length_pos (Token.length_pos hfound)
    have hc : c ≠ '[' := by
      rintro rfl
      exact Token.bracket_not_mem t h.mem (hchars ▸ List.mem_cons_self)
    have hwhole : t.chars ++ rest = c :: (more ++ rest) := by rw [hchars, List.cons_append]
    have hdrop : (c :: (more ++ rest)).drop t.chars.length = rest := by
      rw [← hwhole, List.drop_left]
    rw [hwhole] at hfound
    rw [Segment.written_token, hwhole, pieces?_token hc hfound, hdrop]
    rfl
  | plain c =>
    rw [Segment.written_plain, List.singleton_append,
      pieces?_text h.1 (Token.at?_eq_none_iff.mpr h.2)]
    rfl

/-- Segments are taken off a template one after the other. -/
theorem pieces?_written {segments : List Segment} {rest : List Char} (h : Fit segments rest) :
    pieces? (written segments ++ rest) =
      (pieces? rest).map (join (segments.map Segment.piece)) := by
  induction segments with
  | nil => exact Option.map_id'.symm
  | cons s segments ih =>
    rw [written_cons, List.append_assoc, pieces?_segment h.1, ih h.2, Option.map_map]
    rfl

/-- The tokens among the pieces of a template are those of the table. -/
lemma mem_tokens_of_pieces? {cs : List Char} {pieces : List Piece} (h : pieces? cs = some pieces) :
    ∀ t ∈ pieces.flatMap Piece.tokens, t ∈ tokens := by
  intro t ht
  obtain ⟨p, hp, ht⟩ := List.mem_flatMap.mp ht
  have hwithin := within_of_pieces? h p hp
  cases p with
  | literal text => cases ht
  | token u =>
    obtain rfl := List.mem_singleton.mp ht
    exact hwithin

/-- At a bracket that is not closed there are no pieces. -/
lemma pieces?_open {text : List Char} (h : ']' ∉ text) : pieces? ('[' :: text) = none := by
  rw [pieces?]
  split
  · next hclose =>
    obtain ⟨-, rfl⟩ := closeBracket?_eq_some_iff.mp hclose
    simp at h
  · rfl

/-- A text begins with a segment, unless nothing is left of it or a bracket is not closed. -/
lemma exists_segment (cs : List Char) :
    Ends cs ∨ ∃ (s : Segment) (rest : List Char), cs = s.written ++ rest ∧ s.FitsBefore rest := by
  cases cs with
  | nil => exact Or.inl (Or.inl rfl)
  | cons c cs =>
    by_cases hc : c = '['
    · subst hc
      by_cases hmem : ']' ∈ cs
      · obtain ⟨text, rest, rfl, htext⟩ := List.eq_append_cons_of_mem hmem
        exact Or.inr ⟨.bracketed text, rest, by simp, htext⟩
      · exact Or.inl (Or.inr ⟨cs, rfl, hmem⟩)
    · refine Or.inr ?_
      cases hfound : Token.at? (c :: cs) with
      | none => exact ⟨.plain c, cs, rfl, hc, Token.at?_eq_none_iff.mp hfound⟩
      | some t =>
        have hlongest := Token.isLongest_of_at? hfound
        obtain ⟨rest, hrest⟩ := hlongest.begins
        refine ⟨.token t, rest, ?_, ?_⟩
        · rw [Segment.written_token, hrest]
        · rw [Segment.FitsBefore, hrest]
          exact hlongest

/-- No segment is empty. -/
lemma Segment.written_length_pos {s : Segment} {rest : List Char} (h : s.FitsBefore rest) :
    0 < s.written.length := by
  cases s with
  | bracketed text => simp
  | token t =>
    rw [written_token]
    exact Token.length_pos (Token.at?_eq_some_iff.mpr h)
  | plain c => simp

/-- A template consists of segments, one for each character at most, up to the end or to a bracket
that is not closed.

**Proof sketch.** Induction on the length: a segment is taken off, and what is left is shorter. -/
theorem exists_segments (cs : List Char) :
    ∃ segments rest, IsCut cs segments rest ∧ segments.length ≤ cs.length := by
  rcases exists_segment cs with hends | ⟨s, rest, hcs, hs⟩
  · exact ⟨[], cs, ⟨rfl, trivial, hends⟩, Nat.zero_le _⟩
  · have hpos := Segment.written_length_pos hs
    have hlength : cs.length = s.written.length + rest.length := by rw [hcs, List.length_append]
    obtain ⟨segments, final, ⟨hrest, hfit, hends⟩, hle⟩ := exists_segments rest
    refine ⟨s :: segments, final, ⟨?_, ⟨hrest ▸ hs, hfit⟩, hends⟩, ?_⟩
    · rw [written_cons, List.append_assoc, ← hrest, hcs]
    · rw [List.length_cons]
      omega
  termination_by cs.length

/-! ## Brackets -/

/-- The sign that is left out next, in brackets or outside them. -/
def nextBracket (inside : Bool) : Char :=
  if inside then ']' else '['

/-- The characters of a template that are not brackets around a text, from a place in brackets or
outside them. -/
def charsFrom (inside : Bool) : List Char → List Char
  | [] => []
  | c :: cs =>
    if c = nextBracket inside then charsFrom (!inside) cs else c :: charsFrom inside cs

/-- A template without its brackets: each opening bracket that is not in brackets itself, and the
first closing one after it. -/
def withoutBrackets (cs : List Char) : List Char :=
  charsFrom false cs

/-- A bracket is left out. -/
lemma charsFrom_bracket (inside : Bool) (cs : List Char) :
    charsFrom inside (nextBracket inside :: cs) = charsFrom (!inside) cs := by
  rw [charsFrom, if_pos rfl]

/-- A text without the sign that is left out next stays as it is. -/
lemma charsFrom_append {inside : Bool} {text : List Char} (h : nextBracket inside ∉ text)
    (cs : List Char) : charsFrom inside (text ++ cs) = text ++ charsFrom inside cs := by
  induction text with
  | nil => rfl
  | cons c text ih =>
    rw [List.mem_cons, not_or] at h
    rw [List.cons_append, charsFrom, if_neg (Ne.symm h.1), ih h.2, List.cons_append]

/-- Without brackets a segment is spelled as its piece is. -/
lemma withoutBrackets_segment {s : Segment} {rest : List Char} (h : s.FitsBefore rest)
    (cs : List Char) :
    withoutBrackets (s.written ++ cs) = s.piece.spelled ++ withoutBrackets cs := by
  cases s with
  | bracketed text =>
    have htext : nextBracket true ∉ text := h
    have hwhole : (Segment.bracketed text).written ++ cs =
        nextBracket false :: (text ++ nextBracket true :: cs) := by
      simp [nextBracket]
    rw [hwhole, withoutBrackets, charsFrom_bracket, Bool.not_false, charsFrom_append htext,
      charsFrom_bracket]
    rfl
  | token t =>
    rw [Segment.written_token]
    exact charsFrom_append (Token.bracket_not_mem t h.mem) cs
  | plain c =>
    have hc : nextBracket false ∉ [c] := by simpa [nextBracket] using Ne.symm h.1
    exact charsFrom_append hc cs

/-- Without brackets segments are spelled as their pieces are. -/
theorem withoutBrackets_written {segments : List Segment} {rest : List Char}
    (h : Fit segments rest) (cs : List Char) :
    withoutBrackets (written segments ++ cs) =
      (segments.map Segment.piece).flatMap Piece.spelled ++ withoutBrackets cs := by
  induction segments with
  | nil => rfl
  | cons s segments ih =>
    rw [written_cons, List.append_assoc, withoutBrackets_segment h.1, ih h.2, List.map_cons,
      List.flatMap_cons, List.append_assoc]

/-! ## Cuts -/

/-- The texts into which a template is cut make up the template. -/
lemma flatten_slicesOf (segments : List Segment) (rest : List Char) :
    (slicesOf segments rest).flatten = written segments ++ rest := by
  have hsegments : (segments.flatMap Segment.slices).flatten = written segments := by
    induction segments with
    | nil => rfl
    | cons s segments ih =>
      rw [List.flatMap_cons, List.flatten_append, ih, written_cons, Segment.written]
  have hrest : [rest.take 1, rest.drop 1].flatten = rest := by
    rw [List.flatten_cons, List.flatten_singleton, List.take_append_drop]
  rw [slicesOf, List.flatten_append, hsegments, hrest]

/-- Between the characters of a text lie the boundaries of its bytes. -/
lemma isValid_of_flatten_eq {template : String} {slices : List (List Char)}
    (h : slices.flatten = template.toList) (n : Nat) :
    (String.ofList (slices.take n).flatten).rawEndPos.IsValid template := by
  rw [String.Pos.Raw.isValid_iff_exists_append]
  refine ⟨String.ofList (slices.take n).flatten, String.ofList (slices.drop n).flatten, ?_, rfl⟩
  rw [← String.ofList_append, ← List.flatten_append, List.take_append_drop, h, String.ofList_toList]

/-! ## The pieces of a template -/

/-- A template is cut into segments that stand at their places, one for each character at most, and
a rest; wherever it is cut, counted in bytes, a character begins or the template ends. If a rest is
left then there are no pieces. Otherwise there are: their characters and tokens are those of the
segments, no text among them is empty or next to another one, no other token of the table shows what
one of theirs shows, and spelled one after the other they are the template without its brackets. -/
theorem pieces?_lossless (template : String) :
    ∃ segments rest, IsCut template.toList segments rest ∧ segments.length ≤ template.length ∧
      (∀ n, (String.ofList ((slicesOf segments rest).take n).flatten).rawEndPos.IsValid template) ∧
      ((rest ≠ [] ∧ pieces? template.toList = none) ∨
        (rest = [] ∧ ∃ pieces, pieces? template.toList = some pieces ∧
          pieces.flatMap Piece.marks = (segments.map Segment.piece).flatMap Piece.marks ∧
          Compact pieces ∧
          (∀ t ∈ pieces.flatMap Piece.tokens, ∀ u ∈ tokens, t.field = u.field → t = u) ∧
          pieces.flatMap Piece.spelled = withoutBrackets template.toList)) := by
  obtain ⟨segments, rest, hcut, hlength⟩ := exists_segments template.toList
  have hslices := (flatten_slicesOf segments rest).trans hcut.whole.symm
  have hpieces := pieces?_written hcut.fit
  rw [← hcut.whole] at hpieces
  refine ⟨segments, rest, hcut, hlength, isValid_of_flatten_eq hslices, ?_⟩
  rcases hcut.ends with rfl | ⟨text, rfl, htext⟩
  · have hnil : pieces? [] = some [] := by rw [pieces?]
    rw [hnil, Option.map_some] at hpieces
    refine Or.inr ⟨rfl, _, hpieces, ?_, compact_nil.join _, ?_, ?_⟩
    · rw [seamless_marks.flatMap_join, List.flatMap_nil, List.append_nil]
    · intro t ht u hu hfield
      exact Token.eq_of_field_eq (mem_tokens_of_pieces? hpieces t ht) hu hfield
    · have hspelled := withoutBrackets_written hcut.fit []
      rw [← hcut.whole] at hspelled
      rw [seamless_spelled.flatMap_join, hspelled]
      rfl
  · refine Or.inl ⟨List.cons_ne_nil _ _, ?_⟩
    rw [hpieces, pieces?_open htext, Option.map_none]

/-- Texts that stand next to each other are joined, and after the longest token no other one begins
with what is left. -/
example : pieces? "[é]YYYY-[Q]DDo".toList =
    some [.literal ['é'], .token ⟨"YYYY", .specifier "%Y"⟩, .literal ['-', 'Q'],
      .token ⟨"DD", .specifier "%d"⟩, .literal ['o']] := by
  decide +kernel

end Template

end Almanac

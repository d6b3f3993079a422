import Almanac.Proofs.Writing
import Mathlib.Data.List.Find

set_option relaxedAutoImplicit false
set_option autoImplicit false

/-!
# Joining templates

A text in brackets divides a template: what stands before it and what stands after it are cut as
they are alone. No token reaches over an opening bracket, since none has one in it, so the part
before the brackets keeps its tokens; only texts that meet become one piece. What is in the brackets
is text, even if it is spelled like a token.

## Main definitions

* `Almanac.Template.join` — pieces after other pieces.
* `Almanac.Template.tokensOf?` — the tokens of a template.

## Main results

* `Almanac.Template.pieces?_append` — a template before a bracket is cut as it is alone.
* `Almanac.Template.pieces?_bracketed` — the pieces of two templates with brackets between them.
* `Almanac.Instant.render_bracketed` — what such a template shows.
-/

namespace Almanac

namespace Template

/-- The token that a piece is, if it is one. -/
def Piece.tokens : Piece → List Token
  | literal _ => []
  | token t => [t]

/-- A piece before other pieces. A text joins the text that follows it. -/
def consPiece : Piece → List Piece → List Piece
  | .literal text, ps => consText text ps
  | .token t, ps => .token t :: ps

/-- Pieces after other pieces. Texts that meet are one piece. -/
def join (before after : List Piece) : List Piece :=
  before.foldr consPiece after

/-- The tokens of a template, one after the other. -/
def tokensOf? (cs : List Char) : Option (List Token) :=
  (pieces? cs).map fun pieces => pieces.flatMap Piece.tokens

/-! ## Texts that meet -/

/-- Empty text changes nothing. -/
@[simp] lemma consText_nil (ps : List Piece) : consText [] ps = ps := by
  rw [consText.eq_def]
  split <;> rfl

/-- A text of two parts is joined part by part. -/
lemma consText_append (text more : List Char) (ps : List Piece) :
    consText (text ++ more) ps = consText text (consText more ps) := by
  cases more with
  | nil => rw [List.append_nil, consText_nil]
  | cons c more =>
    have hempty : (text ++ c :: more).isEmpty = false := by cases text <;> rfl
    cases ps with
    | nil => simp [consText]
    | cons p ps => cases p <;> simp [consText]

/-- Text before pieces that come before others is text before all of them. -/
lemma join_consText (text : List Char) (before after : List Piece) :
    join (consText text before) after = consText text (join before after) := by
  have hcons : ∀ before, join (if text.isEmpty then before else .literal text :: before) after =
      consText text (join before after) := by
    intro before
    split_ifs with hempty
    · rw [List.isEmpty_iff.mp hempty, consText_nil]
    · rfl
  cases before with
  | nil => exact hcons []
  | cons p before =>
    cases p with
    | literal more => exact consText_append text more _
    | token t => exact hcons (.token t :: before)

/-- What is read off pieces does not show where texts meet. -/
structure Seamless {α : Type} (f : Piece → List α) : Prop where
  nil : f (.literal []) = []
  append : ∀ text more, f (.literal (text ++ more)) = f (.literal text) ++ f (.literal more)

/-- What an instant shows is seamless. -/
lemma seamless_shown (i : Instant) : Seamless (Piece.shown i) :=
  ⟨rfl, fun _ _ => rfl⟩

/-- The tokens are seamless. -/
lemma seamless_tokens : Seamless Piece.tokens :=
  ⟨rfl, fun _ _ => rfl⟩

namespace Seamless

variable {α : Type} {f : Piece → List α} (hf : Seamless f)

include hf

/-- Text is read off first, whether it joins other text or not. -/
lemma flatMap_consText (text : List Char) (ps : List Piece) :
    (consText text ps).flatMap f = f (.literal text) ++ ps.flatMap f := by
  rw [consText.eq_def]
  split
  · rw [List.flatMap_cons, List.flatMap_cons, hf.append, List.append_assoc]
  · split_ifs with hempty
    · rw [List.isEmpty_iff.mp hempty, hf.nil, List.nil_append]
    · rw [List.flatMap_cons]

/-- Joined pieces are read off one after the other. -/
lemma flatMap_join (before after : List Piece) :
    (join before after).flatMap f = before.flatMap f ++ after.flatMap f := by
  induction before with
  | nil => rfl
  | cons p before ih =>
    rw [join] at ih
    rw [join, List.foldr_cons, List.flatMap_cons, List.append_assoc, ← ih]
    cases p with
    | literal text => exact hf.flatMap_consText text _
    | token t => rfl

end Seamless

/-! ## Templates before a bracket -/

/-- A word without a sign begins a text before the sign if it begins all of it. -/
lemma prefix_append_cons_iff {word cs rest : List Char} {c : Char} (hc : c ∉ word) :
    word <+: cs ++ c :: rest ↔ word <+: cs := by
  refine ⟨fun h => ?_, fun h => h.trans (List.prefix_append cs _)⟩
  rcases Nat.le_total word.length cs.length with hle | hle
  · exact List.prefix_of_prefix_length_le h (List.prefix_append cs _) hle
  · obtain ⟨more, rfl⟩ := List.prefix_of_prefix_length_le (List.prefix_append cs _) h hle
    rw [List.prefix_append_right_inj] at h
    cases more with
    | nil => simp
    | cons d more =>
      obtain ⟨rfl, -⟩ := List.cons_prefix_cons.mp h
      simp at hc

/-- No token reaches over an opening bracket. -/
lemma Token.at?_append_bracket (cs rest : List Char) :
    Token.at? (cs ++ '[' :: rest) = Token.at? cs := by
  refine List.find?_congr fun t ht => ?_
  rw [Bool.eq_iff_iff, List.isPrefixOf_iff_prefix, List.isPrefixOf_iff_prefix]
  exact prefix_append_cons_iff (bracket_not_mem t ht)

/-- What follows a closed bracket does not matter to it. -/
lemma closeBracket?_append {cs text after : List Char}
    (h : closeBracket? cs = some (text, after)) (rest : List Char) :
    closeBracket? (cs ++ rest) = some (text, after ++ rest) := by
  obtain ⟨htext, rfl⟩ := closeBracket?_eq_some_iff.mp h
  rw [closeBracket?_eq_some_iff]
  exact ⟨htext, by simp⟩

/-- A template before a bracket is cut as it is alone, and what begins with the bracket comes after
its pieces.

**Proof sketch.** Induction as the template before the bracket is cut: a bracket in it is closed by
the same sign as before, and a token in it is the same one, since no token has a bracket. -/
theorem pieces?_append {cs : List Char} {before : List Piece} (h : pieces? cs = some before)
    (rest : List Char) :
    pieces? (cs ++ '[' :: rest) = (pieces? ('[' :: rest)).map (join before) := by
  fun_induction pieces? cs generalizing before with
  | case1 =>
    cases h
    rw [List.nil_append]
    exact Option.map_id'.symm
  | case2 cs text after hclose ih =>
    obtain ⟨later, hlater, rfl⟩ := Option.map_eq_some_iff.mp h
    rw [List.cons_append, pieces?_bracket (closeBracket?_append hclose _), ih hlater,
      Option.map_map]
    congr 1
    funext after
    exact (join_consText text later after).symm
  | case3 cs hclose => cases h
  | case4 c cs hc t htoken ih =>
    obtain ⟨later, hlater, rfl⟩ := Option.map_eq_some_iff.mp h
    have hlength : t.chars.length ≤ (c :: cs).length := by
      rw [← Token.chars_append_drop htoken, List.length_append]
      exact Nat.le_add_right _ _
    rw [← Token.at?_append_bracket _ rest, List.cons_append] at htoken
    rw [List.cons_append, pieces?_token hc htoken, ← List.cons_append,
      List.drop_append_of_le_length hlength, ih hlater, Option.map_map]
    rfl
  | case5 c cs hc htoken ih =>
    obtain ⟨later, hlater, rfl⟩ := Option.map_eq_some_iff.mp h
    rw [← Token.at?_append_bracket _ rest, List.cons_append] at htoken
    rw [List.cons_append, pieces?_text hc htoken, ih hlater, Option.map_map]
    congr 1
    funext after
    exact (join_consText [c] later after).symm

/-- A text in brackets comes between the pieces of what stands before it and after it. -/
theorem pieces?_bracketed {cs text : List Char} {before : List Piece}
    (hbefore : pieces? cs = some before) (htext : ']' ∉ text) (rest : List Char) :
    pieces? (cs ++ '[' :: (text ++ ']' :: rest)) =
      (pieces? rest).map fun after => join before (consText text after) := by
  have hclose : closeBracket? (text ++ ']' :: rest) = some (text, rest) :=
    closeBracket?_eq_some_iff.mpr ⟨htext, rfl⟩
  rw [pieces?_append hbefore, pieces?_bracket hclose, Option.map_map]
  rfl

end Template

open Template

/-! ## Templates with brackets between them -/

/-- Two templates with a text in brackets between them show what the first one shows, the text as it
is, and what the second one shows; the tokens are those of the first and those of the second, so
that no token is made of their ends, nor of the text. If the second one cannot be shown, neither can
all of it: a bracket is left open in it. -/
theorem Instant.render_bracketed (i : Instant) {before text after shown : String}
    (hbefore : '%' ∉ before.toList) (hpercent : '%' ∉ text.toList) (hafter : '%' ∉ after.toList)
    (htext : ']' ∉ text.toList) (hshown : i.render before = .ok shown) :
    (∀ later, i.render after = .ok later →
      i.render (before ++ "[" ++ text ++ "]" ++ after) = .ok (shown ++ text ++ later) ∧
        ∃ first second, tokensOf? before.toList = some first ∧
          tokensOf? after.toList = some second ∧
          tokensOf? (before ++ "[" ++ text ++ "]" ++ after).toList = some (first ++ second)) ∧
      ∀ e, i.render after = .error e →
        i.render (before ++ "[" ++ text ++ "]" ++ after) =
          .error (.invalidFormat (.unclosedBracket (before ++ "[" ++ text ++ "]" ++ after))) := by
  have hchars : (before ++ "[" ++ text ++ "]" ++ after).toList =
      before.toList ++ '[' :: (text.toList ++ ']' :: after.toList) := by
    simp
  have hwhole : '%' ∉ (before ++ "[" ++ text ++ "]" ++ after).toList := by
    simp [hbefore, hpercent, hafter]
  obtain ⟨first, hfirst, rfl⟩ := (render_eq_ok_iff hbefore).mp hshown
  have hpieces := pieces?_bracketed hfirst htext after.toList
  rw [← hchars] at hpieces
  constructor
  · intro later hlater
    obtain ⟨second, hsecond, rfl⟩ := (render_eq_ok_iff hafter).mp hlater
    rw [hsecond, Option.map_some] at hpieces
    constructor
    · rw [render_eq_ok_iff hwhole]
      refine ⟨_, hpieces, ?_⟩
      rw [(seamless_shown i).flatMap_join, (seamless_shown i).flatMap_consText]
      simp [String.append_assoc]
    · refine ⟨first.flatMap Piece.tokens, second.flatMap Piece.tokens, ?_, ?_, ?_⟩
      · rw [tokensOf?, hfirst, Option.map_some]
      · rw [tokensOf?, hsecond, Option.map_some]
      · rw [tokensOf?, hpieces, Option.map_some, seamless_tokens.flatMap_join,
          seamless_tokens.flatMap_consText]
        rfl
  · intro e he
    obtain ⟨hsecond, -⟩ := (render_eq_error_iff hafter).mp he
    rw [hsecond, Option.map_none] at hpieces
    exact (render_eq_error_iff hwhole).mpr ⟨hpieces, rfl⟩

/-- Empty brackets keep two days from being one in two digits, and a token in brackets is text. -/
theorem Instant.render_bracketed_days :
    ∃ i : Instant, i = ⟨⟨1772951400, 0, by decide⟩, -18000⟩ ∧
      '%' ∉ "D".toList ∧ '%' ∉ "".toList ∧ ']' ∉ "".toList ∧ i.render "D" = .ok "8" ∧
      i.render "DD" = .ok "08" ∧ i.render "D[]D" = .ok "88" ∧
      '%' ∉ "[é]]D".toList ∧ '%' ∉ "Do".toList ∧ ']' ∉ "Do".toList ∧
      i.render "[é]]D" = .ok "é]8" ∧ i.render "[é]]D[Do]D" = .ok "é]8Do8" ∧
      '%' ∉ "[D".toList ∧ i.render "[D" = .error (.invalidFormat (.unclosedBracket "[D")) ∧
      i.render "[é]]D[Do][D" = .error (.invalidFormat (.unclosedBracket "[é]]D[Do][D")) := by
  refine ⟨_, rfl, ?_⟩
  have hday : Instant.render ⟨⟨1772951400, 0, by decide⟩, -18000⟩ "D" = .ok "8" := by
    decide +kernel
  have hbefore : Instant.render ⟨⟨1772951400, 0, by decide⟩, -18000⟩ "[é]]D" = .ok "é]8" := by
    decide +kernel
  have hopen : Instant.render ⟨⟨1772951400, 0, by decide⟩, -18000⟩ "[D" =
      .error (.invalidFormat (.unclosedBracket "[D")) := by
    decide +kernel
  have hD : '%' ∉ "D".toList := by decide
  have hempty : '%' ∉ "".toList ∧ ']' ∉ "".toList := by decide
  have hÉ : '%' ∉ "[é]]D".toList := by decide
  have hDo : '%' ∉ "Do".toList ∧ ']' ∉ "Do".toList := by decide
  have hlast : '%' ∉ "[D".toList := by decide
  have hdays := ((render_bracketed _ hD hempty.1 hD hempty.2 hday).1 _ hday).1
  have htext := ((render_bracketed _ hÉ hDo.1 hD hDo.2 hbefore).1 _ hday).1
  have hfails := (render_bracketed _ hÉ hDo.1 hlast hDo.2 hbefore).2 _ hopen
  exact ⟨hD, hempty.1, hempty.2, hday, by decide +kernel, hdays, hÉ, hDo.1, hDo.2, hbefore, htext,
    hlast, hopen, hfails⟩

end Almanac

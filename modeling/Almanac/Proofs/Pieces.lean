import Almanac.Template
import Mathlib.Data.List.TakeWhile

set_option relaxedAutoImplicit false
set_option autoImplicit false

/-!
# The pieces of a template

A template of letters is cut into pieces if every bracket in it is closed, where a bracket inside
brackets is text. Its tokens are those of the table, and its texts have no characters but those of
the template.

## Main definitions

* `Almanac.Template.ClosesBrackets` — every bracket is closed.
* `Almanac.Template.Piece.Within` — a piece is from a template.

## Main results

* `Almanac.Template.pieces?_bracket`, `Almanac.Template.pieces?_token`,
  `Almanac.Template.pieces?_text` — how a template is cut, by the way in which it begins.
* `Almanac.Template.exists_pieces?_iff` — which templates have pieces.
* `Almanac.Template.within_of_pieces?` — what the pieces are made of.
-/

namespace Almanac

namespace Template

/-! ## Brackets -/

/-- Every bracket of a template is closed: the next closing bracket ends the text that it opens. -/
inductive ClosesBrackets : List Char → Prop
  | nil : ClosesBrackets []
  | plain {c : Char} {cs : List Char} (hc : c ≠ '[') (h : ClosesBrackets cs) :
    ClosesBrackets (c :: cs)
  | bracketed {text cs : List Char} (htext : ']' ∉ text) (h : ClosesBrackets cs) :
    ClosesBrackets ('[' :: (text ++ ']' :: cs))

/-- A closing bracket is the first one, with a text before it. -/
lemma closeBracket?_eq_some_iff {cs text after : List Char} :
    closeBracket? cs = some (text, after) ↔ ']' ∉ text ∧ cs = text ++ ']' :: after := by
  constructor
  · intro h
    have hsplit : cs.takeWhile (· != ']') ++ cs.dropWhile (· != ']') = cs :=
      List.takeWhile_append_dropWhile
    rw [closeBracket?] at h
    split at h
    · cases h
    · next bracket rest hdrop =>
      cases h
      have hbracket : bracket = ']' := by
        have hfirst := List.head?_dropWhile_not (· != ']') cs
        rw [hdrop] at hfirst
        simpa using hfirst
      refine ⟨fun hmem => ?_, ?_⟩
      · simpa using List.mem_takeWhile_imp hmem
      · rw [hdrop, hbracket] at hsplit
        exact hsplit.symm
  · rintro ⟨htext, rfl⟩
    have hall : ∀ c ∈ text, (c != ']') = true := by
      intro c hc
      rw [bne_iff_ne]
      rintro rfl
      exact htext hc
    rw [closeBracket?, List.dropWhile_append_of_pos hall, List.takeWhile_append_of_pos hall]
    simp

/-- Any other character changes nothing. -/
lemma closesBrackets_cons_iff {c : Char} (hc : c ≠ '[') {cs : List Char} :
    ClosesBrackets (c :: cs) ↔ ClosesBrackets cs := by
  refine ⟨fun h => ?_, .plain hc⟩
  generalize hwhole : c :: cs = whole at h
  cases h with
  | nil => cases hwhole
  | plain _ h =>
    cases hwhole
    exact h
  | bracketed => exact absurd (List.cons.inj hwhole).1 hc

/-- A bracket is closed by the first closing one after it. -/
lemma closesBrackets_bracket_iff {cs : List Char} :
    ClosesBrackets ('[' :: cs) ↔
      ∃ text after, closeBracket? cs = some (text, after) ∧ ClosesBrackets after := by
  constructor
  · intro h
    generalize hwhole : '[' :: cs = whole at h
    cases h with
    | nil => cases hwhole
    | plain hc _ => exact absurd (List.cons.inj hwhole).1.symm hc
    | @bracketed text after htext h =>
      obtain rfl := (List.cons.inj hwhole).2
      exact ⟨text, after, closeBracket?_eq_some_iff.mpr ⟨htext, rfl⟩, h⟩
  · rintro ⟨text, after, hclose, h⟩
    obtain ⟨htext, rfl⟩ := closeBracket?_eq_some_iff.mp hclose
    exact .bracketed htext h

/-- A text without a bracket changes nothing. -/
lemma closesBrackets_append_iff {text cs : List Char} (htext : '[' ∉ text) :
    ClosesBrackets (text ++ cs) ↔ ClosesBrackets cs := by
  induction text with
  | nil => rfl
  | cons c text ih =>
    rw [List.mem_cons, not_or] at htext
    rw [List.cons_append, closesBrackets_cons_iff (Ne.symm htext.1), ih htext.2]

/-! ## The pieces of a template -/

/-- A template that begins with a bracket. -/
lemma pieces?_bracket {cs text after : List Char} (h : closeBracket? cs = some (text, after)) :
    pieces? ('[' :: cs) = (pieces? after).map (consText text) := by
  rw [pieces?]
  split
  · next hclose =>
    rw [h] at hclose
    cases hclose
    rfl
  · next hclose =>
    rw [h] at hclose
    cases hclose

/-- A template that begins with a token. -/
lemma pieces?_token {c : Char} {cs : List Char} {t : Token} (hc : c ≠ '[')
    (h : Token.at? (c :: cs) = some t) :
    pieces? (c :: cs) = (pieces? ((c :: cs).drop t.chars.length)).map (.token t :: ·) := by
  rw [pieces?]
  · split
    · next htoken =>
      rw [h] at htoken
      cases htoken
      rfl
    · next htoken =>
      rw [h] at htoken
      cases htoken
  · exact hc

/-- A template that begins with another character. -/
lemma pieces?_text {c : Char} {cs : List Char} (hc : c ≠ '[') (h : Token.at? (c :: cs) = none) :
    pieces? (c :: cs) = (pieces? cs).map (consText [c]) := by
  rw [pieces?]
  · split
    · next htoken =>
      rw [h] at htoken
      cases htoken
    · rfl
  · exact hc

namespace Token

variable {cs : List Char} {t : Token}

/-- A token is one of the table. -/
lemma mem_of_at? (h : at? cs = some t) : t ∈ tokens :=
  List.mem_of_find?_eq_some h

/-- No token has a bracket. -/
lemma bracket_not_mem : ∀ t ∈ tokens, '[' ∉ t.chars := by
  decide

/-- A text that begins with a token is the token and the rest. -/
lemma chars_append_drop (h : at? cs = some t) : t.chars ++ cs.drop t.chars.length = cs := by
  have hprefix : t.chars <+: cs := by simpa using List.find?_some h
  obtain ⟨rest, rfl⟩ := hprefix
  rw [List.drop_left]

end Token

/-- What is made of pieces is there if they are. -/
lemma exists_map_eq_some_iff {α β : Type} {x : Option α} {f : α → β} :
    (∃ b, x.map f = some b) ↔ ∃ a, x = some a := by
  cases x <;> simp

/-- The templates with pieces are those that close every bracket.

**Proof sketch.** Induction as the template is cut: a bracket is closed by the first one after it,
and a token has no bracket, so that taking it off changes nothing. -/
theorem exists_pieces?_iff (cs : List Char) :
    (∃ pieces, pieces? cs = some pieces) ↔ ClosesBrackets cs := by
  fun_induction pieces? cs with
  | case1 => exact iff_of_true ⟨[], rfl⟩ .nil
  | case2 rest text after hclose ih =>
    rw [exists_map_eq_some_iff, ih, closesBrackets_bracket_iff]
    refine ⟨fun h => ⟨text, after, hclose, h⟩, ?_⟩
    rintro ⟨text', after', hclose', h⟩
    cases hclose.symm.trans hclose'
    exact h
  | case3 rest hclose =>
    rw [closesBrackets_bracket_iff, hclose]
    simp
  | case4 c rest hc t htoken ih =>
    have hbracket := Token.bracket_not_mem t (Token.mem_of_at? htoken)
    rw [exists_map_eq_some_iff, ih, ← closesBrackets_append_iff hbracket,
      Token.chars_append_drop htoken]
  | case5 c rest hc htoken ih =>
    rw [exists_map_eq_some_iff, ih, closesBrackets_cons_iff hc]

/-! ## What pieces are made of -/

/-- A piece is from a template: a token of the table, or a text of characters of the template. -/
def Piece.Within (cs : List Char) : Piece → Prop
  | literal text => ∀ c ∈ text, c ∈ cs
  | token t => t ∈ tokens

/-- A piece from a part of a template is from the template. -/
lemma Piece.Within.mono {cs whole : List Char} {p : Piece} (h : p.Within cs)
    (hsub : ∀ c ∈ cs, c ∈ whole) : p.Within whole := by
  cases p with
  | literal text => exact fun c hc => hsub c (h c hc)
  | token t => exact h

/-- Text from a template, before pieces from it, makes pieces from it. -/
lemma within_of_mem_consText {cs text : List Char} {pieces : List Piece}
    (htext : ∀ c ∈ text, c ∈ cs) (hpieces : ∀ p ∈ pieces, p.Within cs) :
    ∀ p ∈ consText text pieces, p.Within cs := by
  rw [consText.eq_def]
  split
  · next more rest =>
    rw [List.forall_mem_cons] at hpieces ⊢
    refine ⟨fun c hc => ?_, hpieces.2⟩
    rcases List.mem_append.mp hc with hmem | hmem
    · exact htext c hmem
    · exact hpieces.1 c hmem
  · split
    · exact hpieces
    · exact List.forall_mem_cons.mpr ⟨htext, hpieces⟩

/-- The pieces of a template are from it.

**Proof sketch.** Induction as the template is cut. -/
theorem within_of_pieces? {cs : List Char} {pieces : List Piece} (h : pieces? cs = some pieces) :
    ∀ p ∈ pieces, p.Within cs := by
  fun_induction pieces? cs generalizing pieces with
  | case1 =>
    cases h
    simp
  | case2 rest text after hclose ih =>
    obtain ⟨later, hlater, rfl⟩ := Option.map_eq_some_iff.mp h
    obtain ⟨-, rfl⟩ := closeBracket?_eq_some_iff.mp hclose
    refine within_of_mem_consText (by simp +contextual) fun p hp => (ih hlater p hp).mono ?_
    simp +contextual
  | case3 rest hclose => cases h
  | case4 c rest hc t htoken ih =>
    obtain ⟨later, hlater, rfl⟩ := Option.map_eq_some_iff.mp h
    rw [List.forall_mem_cons]
    exact ⟨Token.mem_of_at? htoken, fun p hp => (ih hlater p hp).mono fun c => List.mem_of_mem_drop⟩
  | case5 c rest hc htoken ih =>
    obtain ⟨later, hlater, rfl⟩ := Option.map_eq_some_iff.mp h
    refine within_of_mem_consText (by simp) fun p hp => (ih hlater p hp).mono ?_
    simp +contextual

end Template

end Almanac

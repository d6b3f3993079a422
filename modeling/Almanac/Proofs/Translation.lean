import Almanac.Proofs.Writing

set_option relaxedAutoImplicit false
set_option autoImplicit false

/-!
# From letter tokens to percent directives

A template of letters is translated piece by piece: a token becomes the percent specifier that it
stands for, and text stays as it is. Where every token stands for one, the translation shows the
same, although it is read in another way: no specifier is left open at the end of a piece, so that
the pieces are found again whatever stands next to them.

## Main definitions

* `Almanac.Template.Piece.directives` — the translation of a piece.
* `Almanac.Template.Faithful` — a translation that shows what it should.

## Main results

* `Almanac.Template.faithful_flatMap` — a translation is faithful if that of each piece is.
* `Almanac.Instant.render_directives` — a template and its translation show the same.
-/

namespace Almanac

namespace Template

/-- A token stands for a percent specifier. -/
def Token.Backed (t : Token) : Prop :=
  ∃ f, t.field = .specifier f

/-- What is written for a piece in percent directives: the specifier that a token stands for, and
text as it is. -/
def Piece.directives : Piece → List Char
  | literal text => text
  | token t =>
    match t.field with
    | .specifier f => f.toList
    | _ => []

/-- Percent directives that are complete and can be written, and show a given text of each
instant. -/
structure Faithful (directives : List Char) (shown : Instant → List Char) : Prop where
  /-- No specifier is left open. -/
  complete : stageAfter .text directives = .text
  write : ∀ i, writeDirectives? i directives = some (shown i)

/-! ## Pieces -/

/-- Outside a specifier a character that is no percent sign stands for itself. -/
lemma step_text {c : Char} (h : c ≠ '%') : step .text c = (.text, [.literal c]) := by
  rw [step, finished]
  exact h

/-- Text without a percent sign is read as its characters, and leaves no specifier open. -/
lemma scan_text {text : List Char} (h : '%' ∉ text) :
    stageAfter .text text = .text ∧ scan text = text.map Item.literal := by
  induction text with
  | nil => exact ⟨rfl, rfl⟩
  | cons c text ih =>
    rw [List.mem_cons, not_or] at h
    have hstep := step_text (Ne.symm h.1)
    obtain ⟨hstage, hscan⟩ := ih h.2
    constructor
    · rw [stageAfter, List.foldl_cons, hstep]
      exact hstage
    · rw [scan, scanFrom, hstep, List.map_cons]
      exact congrArg (Item.literal c :: ·) hscan

/-- Text without a percent sign is its own translation. -/
lemma faithful_literal {text : List Char} (h : '%' ∉ text) : Faithful text fun _ => text := by
  obtain ⟨hstage, hscan⟩ := scan_text h
  refine ⟨hstage, fun i => ?_⟩
  rw [writeDirectives?, hscan, writeAll?_literals]

/-- The specifier of a token is its translation. -/
lemma faithful_token {t : Token} (ht : t ∈ tokens) (h : t.Backed) :
    Faithful (Piece.token t).directives fun i => (Piece.token t).shown i := by
  obtain ⟨f, hf⟩ := h
  have hcomplete := complete_of_mem_tokens t ht
  rw [hf] at hcomplete
  simp only [Piece.directives, hf]
  refine ⟨hcomplete.1.1, fun i => ?_⟩
  have hwithin : (Piece.token t).Within [] := ht
  have hshown : (Piece.token t).write? i = some ((Piece.token t).shown i) :=
    Piece.write?_eq_some hwithin
  rwa [Piece.write?, hf] at hshown

/-! ## Templates -/

/-- A text is read as one part of it after the other. -/
lemma stageAfter_append (stage : Stage) (cs rest : List Char) :
    stageAfter stage (cs ++ rest) = stageAfter (stageAfter stage cs) rest :=
  List.foldl_append

/-- Translations one after the other show what each of them shows.

**Proof sketch.** Induction on the pieces: since the first one leaves no specifier open, the others
are read as they are alone. -/
theorem faithful_flatMap {pieces : List Piece}
    (h : ∀ p ∈ pieces, Faithful p.directives fun i => p.shown i) :
    Faithful (pieces.flatMap Piece.directives) fun i => pieces.flatMap (Piece.shown i) := by
  induction pieces with
  | nil => exact ⟨rfl, fun i => rfl⟩
  | cons p pieces ih =>
    rw [List.forall_mem_cons] at h
    obtain ⟨hfirst, hlater⟩ := h
    have hrest := ih hlater
    have hscan : scan (p.directives ++ pieces.flatMap Piece.directives) =
        scan p.directives ++ scan (pieces.flatMap Piece.directives) :=
      scanFrom_append hfirst.complete _
    refine ⟨?_, fun i => ?_⟩
    · rw [List.flatMap_cons, stageAfter_append, hfirst.complete, hrest.complete]
    · rw [List.flatMap_cons, writeDirectives?, hscan, List.flatMap_cons]
      exact writeAll?_append (hfirst.write i) (hrest.write i)

/-- A piece of a template without a percent sign has a faithful translation, if a specifier stands
for it. -/
lemma faithful_of_within {cs : List Char} (hpercent : '%' ∉ cs) {p : Piece} (hp : p.Within cs)
    (hbacked : ∀ t, p = .token t → t.Backed) : Faithful p.directives fun i => p.shown i := by
  cases p with
  | literal text => exact faithful_literal fun hmem => hpercent (hp _ hmem)
  | token t => exact faithful_token hp (hbacked t rfl)

end Template

open Template

/-- A template that has no percent sign and closes every bracket is cut into pieces. If specifiers
stand for all its tokens, of which there is one at least, then it is shown as what it is translated
to: the specifiers in the place of the tokens, and the texts as they are. -/
theorem Instant.render_directives (i : Instant) {template : String}
    (hpercent : '%' ∉ template.toList) (hcloses : ClosesBrackets template.toList) :
    ∃ pieces, pieces? template.toList = some pieces ∧
      ((∀ t, .token t ∈ pieces → t.Backed) → (∃ t, .token t ∈ pieces) →
        ∃ text, i.render template = .ok text ∧
          i.render (String.ofList (pieces.flatMap Piece.directives)) = .ok text) := by
  obtain ⟨pieces, hpieces⟩ := (exists_pieces?_iff _).mpr hcloses
  refine ⟨pieces, hpieces, fun hbacked ⟨t, ht⟩ => ?_⟩
  have hwithin := within_of_pieces? hpieces
  have hfaithful := faithful_flatMap fun p hp =>
    faithful_of_within hpercent (hwithin p hp) fun t heq => hbacked t (heq ▸ hp)
  refine ⟨String.ofList (pieces.flatMap (Piece.shown i)), ?_, ?_⟩
  · exact (render_eq_ok_iff hpercent).mpr ⟨pieces, hpieces, rfl⟩
  · have hspecifier : '%' ∈ (Piece.token t).directives := by
      obtain ⟨f, hf⟩ := hbacked t ht
      have hcomplete := complete_of_mem_tokens t (hwithin _ ht)
      rw [hf] at hcomplete
      simp only [Piece.directives, hf]
      exact hcomplete.2
    have hpercents : '%' ∈ pieces.flatMap Piece.directives :=
      List.mem_flatMap.mpr ⟨_, ht, hspecifier⟩
    have hvalid := invalid_not_mem_of_write? (hfaithful.write i)
    rw [← String.toList_ofList (l := pieces.flatMap Piece.directives)] at hpercents hvalid
    rw [render_of_valid hpercents hvalid, String.toList_ofList, hfaithful.write i, outcome]

/-- A day and a month with a word in brackets between them, on 2026-03-08 in New York. -/
theorem Instant.render_directives_march :
    '%' ∉ "D [of] MMMM".toList ∧ ClosesBrackets "D [of] MMMM".toList ∧
      Instant.render ⟨⟨1772951400, 0, by decide⟩, -18000⟩ "D [of] MMMM" = .ok "8 of March" ∧
      Instant.render ⟨⟨1772951400, 0, by decide⟩, -18000⟩ "%-d of %B" = .ok "8 of March" := by
  have hpercent : '%' ∉ "D [of] MMMM".toList := by decide
  have hcut : pieces? "D [of] MMMM".toList = some [.token ⟨"D", .specifier "%-d"⟩,
      .literal [' ', 'o', 'f', ' '], .token ⟨"MMMM", .specifier "%B"⟩] := by
    decide +kernel
  have hcloses : ClosesBrackets "D [of] MMMM".toList := (exists_pieces?_iff _).mp ⟨_, hcut⟩
  have hrender : Instant.render ⟨⟨1772951400, 0, by decide⟩, -18000⟩ "D [of] MMMM" =
      .ok "8 of March" := by
    decide +kernel
  obtain ⟨pieces, hpieces, hsame⟩ :=
    Instant.render_directives ⟨⟨1772951400, 0, by decide⟩, -18000⟩ hpercent hcloses
  obtain rfl := Option.some.inj (hcut.symm.trans hpieces)
  have hbacked : ∀ t, .token t ∈ [Piece.token ⟨"D", .specifier "%-d"⟩,
      .literal [' ', 'o', 'f', ' '], .token ⟨"MMMM", .specifier "%B"⟩] → t.Backed := by
    intro t ht
    simp only [List.mem_cons, Piece.token.injEq, reduceCtorEq, List.not_mem_nil, or_false,
      false_or] at ht
    rcases ht with rfl | rfl
    · exact ⟨_, rfl⟩
    · exact ⟨_, rfl⟩
  obtain ⟨text, htext, htranslated⟩ := hsame hbacked ⟨_, List.mem_cons_self⟩
  obtain rfl := Except.ok.inj (hrender.symm.trans htext)
  exact ⟨hpercent, hcloses, hrender, htranslated⟩

end Almanac

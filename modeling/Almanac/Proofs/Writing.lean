import Almanac.Proofs.Pieces

set_option relaxedAutoImplicit false
set_option autoImplicit false

/-!
# What can be written

The check of a template and the writing of it are apart: the check looks at brackets and specifiers,
and not at the instant. That what passes can be written is settled item by item. Every number, name,
fraction and offset of every instant has a text, so an item without a text is the offset that is for
reading only, or what is no specifier. In the specifiers of the token table there is neither; hence
a template that is cut into pieces is written, whatever the instant is.

## Main definitions

* `Almanac.Template.Writable` — directives that are complete and can be written.
* `Almanac.Template.Field.Complete` — a field whose specifier, if it has one, can be written.
* `Almanac.Template.Piece.shown` — the text of a piece.

## Main results

* `Almanac.Template.Item.write?_eq_none_iff` — which items have no text.
* `Almanac.Template.writeDirectives?_eq_none_iff` — which directives cannot be written.
* `Almanac.Template.complete_of_mem_tokens` — the specifiers of the token table can be.
* `Almanac.Template.writeAll?_pieces` — the pieces of a template can be written.
* `Almanac.Instant.render_eq_ok_iff`, `Almanac.Instant.render_eq_error_iff` — what a template of
  tokens shows.
-/

namespace Almanac

/-! ## Names -/

/-- The month of a day has a name. -/
lemma exists_monthName? (day : Int) : ∃ name, monthName? (Date.ofDay day).month = some name := by
  obtain ⟨hpos, hle, -⟩ := Date.exists_ofDay day
  obtain ⟨place, hplace⟩ := Nat.exists_eq_add_of_le' hpos
  have hlength : place < monthNames.length := by
    rw [show monthNames.length = 12 from rfl]
    omega
  rw [hplace]
  exact ⟨_, congrArg (Option.map String.toList) (List.getElem?_eq_getElem hlength)⟩

/-- The week day of a day has a name. -/
lemma exists_weekdayName? (day : Int) : ∃ name, weekdayName? (weekday day) = some name := by
  have hlength : weekday day < weekdayNames.length := by
    rw [show weekdayNames.length = 7 from rfl, weekday]
    omega
  exact ⟨_, congrArg (Option.map String.toList) (List.getElem?_eq_getElem hlength)⟩

namespace Template

/-- The month of a day lies in a quarter. -/
lemma exists_quarter? (day : Int) : ∃ quarter, quarter? (Date.ofDay day).month = some quarter := by
  obtain ⟨place, hplace⟩ := Nat.exists_eq_add_of_le' (Date.exists_ofDay day).1
  rw [hplace]
  exact ⟨_, rfl⟩

variable {i : Instant}

/-! ## Items -/

/-- An item has no text if it is for reading only, or is no specifier: names are there for the month
and the week day of every instant, and nothing else can be missing. -/
theorem Item.write?_eq_none_iff {item : Item} :
    item.write? i = none ↔ item = .readOnlyOffset ∨ item = .invalid := by
  cases item with
  | monthName short =>
    obtain ⟨name, hname⟩ : ∃ name, monthName? i.wall.date.month = some name :=
      exists_monthName? i.wall.day
    simp [write?, hname]
  | weekdayName short =>
    obtain ⟨name, hname⟩ := exists_weekdayName? i.wall.day
    simp [write?, hname]
  | _ => simp [write?]

/-! ## Lists -/

section WriteAll

variable {α : Type} {write? : α → Option (List Char)} {xs : List α}

/-- A list has no text exactly if one of its members has none. -/
lemma writeAll?_eq_none_iff : writeAll? write? xs = none ↔ ∃ x ∈ xs, write? x = none := by
  induction xs with
  | nil => simp
  | cons x xs ih => cases hx : write? x <;> simp [hx, ih]

/-- A list whose members all have a text has these texts, one after the other. -/
lemma writeAll?_eq_some {write : α → List Char} (h : ∀ x ∈ xs, write? x = some (write x)) :
    writeAll? write? xs = some (xs.flatMap write) := by
  induction xs with
  | nil => rfl
  | cons x xs ih =>
    rw [List.forall_mem_cons] at h
    rw [writeAll?_cons, h.1, Option.bind_some, ih h.2, Option.map_some, List.flatMap_cons]

/-- A list is written part by part. -/
lemma writeAll?_append {first later : List Char} {ys : List α}
    (hxs : writeAll? write? xs = some first) (hys : writeAll? write? ys = some later) :
    writeAll? write? (xs ++ ys) = some (first ++ later) := by
  induction xs generalizing first with
  | nil =>
    cases hxs
    exact hys
  | cons x xs ih =>
    obtain ⟨text, htext, hjoined⟩ := Option.bind_eq_some_iff.mp hxs
    obtain ⟨rest, hrest, rfl⟩ := Option.map_eq_some_iff.mp hjoined
    rw [List.cons_append, writeAll?_cons, htext, Option.bind_some, ih hrest, Option.map_some,
      List.append_assoc]

end WriteAll

/-- Characters that stand for themselves are written as they are. -/
lemma writeAll?_literals (text : List Char) :
    writeAll? (Item.write? i) (text.map Item.literal) = some text := by
  induction text with
  | nil => rfl
  | cons c text ih =>
    rw [List.map_cons, writeAll?_cons, ih]
    rfl

/-- Directives cannot be written exactly if something for reading only is among them, or what is no
specifier. -/
theorem writeDirectives?_eq_none_iff {cs : List Char} :
    writeDirectives? i cs = none ↔ .readOnlyOffset ∈ scan cs ∨ .invalid ∈ scan cs := by
  rw [writeDirectives?, writeAll?_eq_none_iff]
  simp only [Item.write?_eq_none_iff]
  constructor
  · rintro ⟨item, hmem, rfl | rfl⟩
    · exact Or.inl hmem
    · exact Or.inr hmem
  · rintro (hmem | hmem)
    · exact ⟨_, hmem, Or.inl rfl⟩
    · exact ⟨_, hmem, Or.inr rfl⟩

/-- Valid directives cannot be written exactly if something in them is for reading only. -/
lemma writeDirectives?_eq_none_iff_of_valid {cs : List Char} (h : .invalid ∉ scan cs) :
    writeDirectives? i cs = none ↔ .readOnlyOffset ∈ scan cs := by
  rw [writeDirectives?_eq_none_iff, or_iff_left h]

/-- What can be written is valid. -/
lemma invalid_not_mem_of_write? {cs text : List Char} (h : writeDirectives? i cs = some text) :
    .invalid ∉ scan cs := by
  intro hmem
  rw [writeDirectives?_eq_none_iff.mpr (Or.inr hmem)] at h
  cases h

/-- A specifier is complete in itself and stands for something, which can be written. -/
def Writable (cs : List Char) : Prop :=
  stageAfter .text cs = .text ∧ .invalid ∉ scan cs ∧ .readOnlyOffset ∉ scan cs

instance : DecidablePred Writable :=
  fun _ => inferInstanceAs (Decidable (_ ∧ _ ∧ _))

/-- What is writable has a text. -/
lemma Writable.exists_text {cs : List Char} (h : Writable cs) :
    ∃ text, writeDirectives? i cs = some text := by
  rw [← Option.ne_none_iff_exists', Ne, writeDirectives?_eq_none_iff, not_or]
  exact ⟨h.2.2, h.2.1⟩

/-! ## Tokens -/

/-- The specifier of a field, if it has one, can be written. -/
def Field.Complete : Field → Prop
  | specifier f => Writable f.toList ∧ '%' ∈ f.toList
  | _ => True

instance : DecidablePred Field.Complete
  | .specifier _ => inferInstanceAs (Decidable (_ ∧ _))
  | .quarter | .shortestWeekday | .ordinalDay | .hundredths | .tenths | .unixMillis =>
    isTrue trivial

/-- The specifiers of the table can be written. -/
lemma complete_of_mem_tokens : ∀ t ∈ tokens, t.field.Complete := by
  decide

/-- A field has a text, if its specifier can be written. -/
lemma Field.exists_write? {f : Field} (h : f.Complete) : ∃ text, f.write? i = some text := by
  cases f with
  | specifier format => exact h.1.exists_text
  | quarter =>
    obtain ⟨quarter, hquarter⟩ := exists_quarter? i.wall.day
    exact ⟨_, congrArg (Option.map digitsOf) hquarter⟩
  | shortestWeekday =>
    have hname : Writable ['%', 'a'] := by decide
    obtain ⟨text, htext⟩ : ∃ text, writeDirectives? i ['%', 'a'] = some text := hname.exists_text
    exact ⟨_, congrArg (Option.map (List.take 2)) htext⟩
  | _ => exact ⟨_, rfl⟩

/-! ## Pieces -/

namespace Piece

/-- The text of a piece, where it has one. -/
def shown (i : Instant) (p : Piece) : List Char :=
  (p.write? i).getD []

/-- Text shows itself. -/
@[simp] lemma shown_literal (text : List Char) : (literal text).shown i = text := rfl

/-- A piece of a template has a text. -/
lemma write?_eq_some {cs : List Char} {p : Piece} (h : p.Within cs) :
    p.write? i = some (p.shown i) := by
  have hexists : ∃ text, p.write? i = some text := by
    cases p with
    | literal text => exact ⟨text, rfl⟩
    | token t => exact Field.exists_write? (complete_of_mem_tokens t h)
  obtain ⟨text, htext⟩ := hexists
  rw [shown, htext, Option.getD_some]

end Piece

/-- The pieces of a template have a text together. -/
theorem writeAll?_pieces {cs : List Char} {pieces : List Piece} (h : pieces? cs = some pieces) :
    writeAll? (Piece.write? i) pieces = some (pieces.flatMap (Piece.shown i)) :=
  writeAll?_eq_some fun p hp => Piece.write?_eq_some (within_of_pieces? h p hp)

/-! ## Outcomes of writing -/

section Outcome

variable {template : String} {text? : Option (List Char)}

/-- Writing ends the program if there is nothing that can be written, and has no other fault. -/
lemma outcome_eq_error_iff {e : Error} :
    outcome template text? = .error e ↔ text? = none ∧ e = .readOnlySpecifier template := by
  cases text? <;> simp [outcome, eq_comm]

/-- What can be written is shown. -/
lemma exists_outcome_eq_ok_iff :
    (∃ text, outcome template text? = .ok text) ↔ text? ≠ none := by
  cases text? <;> simp [outcome]

end Outcome

end Template

/-! ## What templates show -/

namespace Instant

open Template

variable {i : Instant} {template shown : String}

section Directives

variable (hpercent : '%' ∈ template.toList)

include hpercent

/-- Directives that are not valid are not written. -/
lemma render_of_not_valid (h : .invalid ∈ scan template.toList) :
    i.render template = .error (.invalidFormat (.badSpecifier template)) := by
  rw [render, if_pos hpercent, renderDirectives, if_pos h]

/-- Valid directives are written. -/
lemma render_of_valid (h : .invalid ∉ scan template.toList) :
    i.render template = outcome template (writeDirectives? i template.toList) := by
  rw [render, if_pos hpercent, renderDirectives, if_neg h]

end Directives

variable (hpercent : '%' ∉ template.toList)

include hpercent

/-- A template that has pieces shows them one after the other. -/
lemma render_eq_ok_iff : i.render template = .ok shown ↔
    ∃ pieces, pieces? template.toList = some pieces ∧
      String.ofList (pieces.flatMap (Piece.shown i)) = shown := by
  rw [render, if_neg hpercent, renderTokens]
  cases hpieces : pieces? template.toList with
  | none => simp
  | some pieces => simp [writeAll?_pieces hpieces, outcome]

/-- A template that has no pieces leaves a bracket open. -/
lemma render_eq_error_iff {e : Error} : i.render template = .error e ↔
    pieces? template.toList = none ∧ e = .invalidFormat (.unclosedBracket template) := by
  rw [render, if_neg hpercent, renderTokens]
  cases hpieces : pieces? template.toList with
  | none => simp [eq_comm]
  | some pieces => simp [writeAll?_pieces hpieces, outcome_eq_error_iff]

end Instant

end Almanac

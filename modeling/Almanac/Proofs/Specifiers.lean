import Almanac.Proofs.Translation
import Mathlib.Data.Bool.AllAny

set_option relaxedAutoImplicit false
set_option autoImplicit false

/-!
# Outcomes of showing

Whether a template can be shown is a matter of the template alone. One of letter tokens can, unless
a bracket in it is left open. One of percent directives can if it is a text of specifiers and other
characters, and no specifier in it is the one that is for reading only. The specifiers are given
here as a grammar that does not mention the reading of single characters. Each of them is read in
one go, whatever stands next to it; and a text that is read without a fault is made of them, since
what has been read of it at any moment is the beginning of one.

## Main definitions

* `Almanac.Template.LeavesBracketOpen` — an opening bracket has no closing one after it.
* `Almanac.Template.Specifier`, `Almanac.Template.Part` — the grammar of percent directives.
* `Almanac.Template.spelling` — the text of parts.

## Main results

* `Almanac.Template.leavesBracketOpen_iff` — which templates do not close every bracket.
* `Almanac.Template.step_inside` — what one more character of a specifier does.
* `Almanac.Template.scan_spelling` — parts are read one after the other.
* `Almanac.Template.valid_iff` — the texts that are read without a fault are those of parts.
* `Almanac.Instant.render_outcome` — how the showing of a template ends.
-/

namespace Almanac

namespace Template

/-! ## Brackets -/

/-- Going from left to right, and from each bracket on to the next closing one, an opening bracket
is met that has no closing one after it. -/
inductive LeavesBracketOpen : List Char → Prop
  | opened {cs : List Char} (h : ']' ∉ cs) : LeavesBracketOpen ('[' :: cs)
  | plain {c : Char} {cs : List Char} (hc : c ≠ '[') (h : LeavesBracketOpen cs) :
    LeavesBracketOpen (c :: cs)
  | bracketed {text cs : List Char} (htext : ']' ∉ text) (h : LeavesBracketOpen cs) :
    LeavesBracketOpen ('[' :: (text ++ ']' :: cs))

/-- A template that leaves a bracket open does not close every bracket. -/
lemma LeavesBracketOpen.not_closesBrackets {cs : List Char} (h : LeavesBracketOpen cs) :
    ¬ ClosesBrackets cs := by
  induction h with
  | opened h =>
    rw [closesBrackets_bracket_iff]
    rintro ⟨text, after, hclose, -⟩
    obtain ⟨-, rfl⟩ := closeBracket?_eq_some_iff.mp hclose
    simp at h
  | plain hc _ ih => rwa [closesBrackets_cons_iff hc]
  | bracketed htext _ ih =>
    rw [closesBrackets_bracket_iff]
    rintro ⟨text, after, hclose, hcloses⟩
    rw [closeBracket?_eq_some_iff.mpr ⟨htext, rfl⟩] at hclose
    cases hclose
    exact ih hcloses

/-- A template leaves a bracket open or closes every bracket. -/
lemma leavesBracketOpen_or_closesBrackets (cs : List Char) :
    LeavesBracketOpen cs ∨ ClosesBrackets cs := by
  match cs with
  | [] => exact Or.inr .nil
  | c :: cs =>
    by_cases hc : c = '['
    · subst hc
      by_cases hmem : ']' ∈ cs
      · obtain ⟨text, after, rfl, htext⟩ := List.eq_append_cons_of_mem hmem
        exact (leavesBracketOpen_or_closesBrackets after).imp (.bracketed htext) (.bracketed htext)
      · exact Or.inl (.opened hmem)
    · exact (leavesBracketOpen_or_closesBrackets cs).imp (.plain hc) (.plain hc)
  termination_by cs.length

/-- The templates that do not close every bracket are those that leave one open. -/
theorem leavesBracketOpen_iff {cs : List Char} : LeavesBracketOpen cs ↔ ¬ ClosesBrackets cs :=
  ⟨fun h => h.not_closesBrackets, (leavesBracketOpen_or_closesBrackets cs).resolve_right⟩

/-! ## The grammar of percent directives -/

/-- The letters that stand for a number, which may have a padding of its own. -/
def numberLetters : List Char :=
  ['Y', 'C', 'y', 'G', 'g', 'q', 'm', 'd', 'e', 'j', 'w', 'u', 'V', 'U', 'W', 'H', 'k', 'I', 'l',
    'M', 'S', 'f', 's']

/-- The letters and signs that stand for anything else. -/
def otherLetters : List Char :=
  ['b', 'h', 'B', 'a', 'A', 'p', 'P', 'z', 'Z', '+', '%', 't', 'n', 'D', 'x', 'F', 'v', 'R', 'T',
    'X', 'r', 'c']

/-- The numbers of places that a fraction can be asked for in. -/
def placeCounts : List Nat := [3, 6, 9]

/-- The numbers of colons that an offset can be asked for with. -/
def colonCounts : List Nat := [1, 2, 3]

/-- The sign that asks for a padding. -/
def Padding.mark : Padding → Char
  | zero => '0'
  | blank => '_'
  | none => '-'

/-- A specifier, without its percent sign. -/
inductive Specifier
  | letter (c : Char) (h : c ∈ numberLetters ++ otherLetters)
  | padded (padding : Padding) (c : Char) (h : c ∈ numberLetters)
  /-- The offset, in the style that the colons ask for. -/
  | offset (colons : Nat) (h : colons ∈ colonCounts)
  /-- The fraction of the second in a number of places, after a point or not. -/
  | fraction (point : Bool) (places : Nat) (h : places ∈ placeCounts)
  /-- The fraction of the second in as many places as it has. -/
  | exactFraction
  /-- The offset in a form that is for reading only. -/
  | readOnlyOffset

/-- The characters of a specifier after its percent sign. -/
def Specifier.chars : Specifier → List Char
  | letter c _ => [c]
  | padded padding c _ => [padding.mark, c]
  | offset colons _ => List.replicate colons ':' ++ ['z']
  | fraction point places _ => (if point then ['.'] else []) ++ [places.digitChar, 'f']
  | exactFraction => ['.', 'f']
  | readOnlyOffset => ['#', 'z']

/-- A part of a text of percent directives. -/
inductive Part
  /-- A character that stands for itself. -/
  | text (c : Char) (h : c ≠ '%')
  | specifier (s : Specifier)

/-- The characters of a part. -/
def Part.chars : Part → List Char
  | text c _ => [c]
  | specifier s => '%' :: s.chars

/-- The text of parts. -/
def spelling (parts : List Part) : List Char :=
  parts.flatMap Part.chars

/-! ## Specifiers of one letter -/

/-- The letters that stand for a number. -/
lemma isSome_numberDirective? (c : Char) : (numberDirective? c).isSome ↔ c ∈ numberLetters := by
  unfold numberDirective?
  split <;> simp_all [numberLetters]

/-- The letters that stand for anything else. -/
lemma isSome_otherDirective? (c : Char) : (otherDirective? c).isSome ↔ c ∈ otherLetters := by
  unfold otherDirective?
  split <;> simp_all [otherLetters]

/-- What stands for something is valid. -/
lemma invalid_not_mem_of_otherDirective? {c : Char} {items : List Item}
    (h : otherDirective? c = some items) : .invalid ∉ items := by
  unfold otherDirective? at h
  split at h <;> cases h <;> decide

/-- A letter is a specifier if it stands for a number or for anything else. -/
lemma invalid_not_mem_directive_iff (c : Char) :
    .invalid ∉ directive c ↔ c ∈ numberLetters ++ otherLetters := by
  rw [List.mem_append, ← isSome_numberDirective?, ← isSome_otherDirective?, directive]
  cases hnumber : numberDirective? c with
  | some number => simp
  | none =>
    cases hother : otherDirective? c with
    | some items => simpa using invalid_not_mem_of_otherDirective? hother
    | none => simp

/-- Only a number has a padding of its own. -/
lemma invalid_ne_paddedDirective_iff (padding : Padding) (c : Char) :
    .invalid ≠ paddedDirective padding c ↔ c ∈ numberLetters := by
  rw [← isSome_numberDirective?, paddedDirective]
  cases numberDirective? c <;> simp

/-! ## Reading parts -/

/-- All specifiers can be written but the one that is for reading only. -/
lemma Specifier.writable (s : Specifier) (h : s ≠ readOnlyOffset) : Writable ('%' :: s.chars) := by
  cases s with
  | letter c hc =>
    -- the letters of the list are tried, not all characters
    have hall : ∀ c ∈ numberLetters ++ otherLetters, Writable ['%', c] :=
      List.all_iff_forall_prop.mp (by decide)
    exact hall c hc
  | padded padding c hc =>
    have hall : ∀ c ∈ numberLetters, Writable ['%', padding.mark, c] :=
      List.all_iff_forall_prop.mp (by cases padding <;> decide)
    exact hall c hc
  | offset colons hcolons =>
    have hall : ∀ n ∈ colonCounts, Writable ('%' :: (List.replicate n ':' ++ ['z'])) := by decide
    exact hall colons hcolons
  | fraction point places hplaces =>
    have hall : ∀ n ∈ placeCounts,
        Writable ('%' :: ((if point then ['.'] else []) ++ [n.digitChar, 'f'])) := by
      cases point <;> decide
    exact hall places hplaces
  | exactFraction => decide
  | readOnlyOffset => contradiction

/-- A part leaves no specifier open and is valid, and it is for reading only if it is the specifier
that is. -/
lemma Part.scan_chars (p : Part) :
    stageAfter .text p.chars = .text ∧ .invalid ∉ scan p.chars ∧
      (.readOnlyOffset ∈ scan p.chars ↔ p = specifier .readOnlyOffset) := by
  cases p with
  | text c hc =>
    have hpercent : '%' ∉ [c] := by simpa using Ne.symm hc
    obtain ⟨hstage, hscan⟩ := scan_text hpercent
    simp [chars, hstage, hscan]
  | specifier s =>
    by_cases hs : s = .readOnlyOffset
    · subst hs
      exact ⟨rfl, by decide, iff_of_true (by decide) rfl⟩
    · obtain ⟨hstage, hvalid, hwritable⟩ := s.writable hs
      exact ⟨hstage, hvalid, iff_of_false hwritable fun heq => hs (specifier.inj heq)⟩

/-- Parts are read one after the other. -/
theorem scan_spelling (parts : List Part) :
    scan (spelling parts) = parts.flatMap fun p => scan p.chars := by
  induction parts with
  | nil => rfl
  | cons p parts ih =>
    rw [List.flatMap_cons, ← ih]
    exact scanFrom_append p.scan_chars.1 _

/-- A text of parts is valid. -/
lemma invalid_not_mem_scan_spelling (parts : List Part) : .invalid ∉ scan (spelling parts) := by
  rw [scan_spelling, List.mem_flatMap]
  rintro ⟨p, -, hp⟩
  exact p.scan_chars.2.1 hp

/-- A text of parts is for reading only if one of them is. -/
lemma readOnlyOffset_mem_scan_spelling_iff (parts : List Part) :
    .readOnlyOffset ∈ scan (spelling parts) ↔ .specifier .readOnlyOffset ∈ parts := by
  simp only [scan_spelling, List.mem_flatMap, (Part.scan_chars _).2.2, exists_eq_right]

/-! ## Texts that are read without a fault -/

/-- The characters of a specifier that have been read. -/
def Stage.chars : Stage → List Char
  | text | percent => []
  | padding p => [p.mark]
  | numberSign => ['#']
  | colons count => List.replicate count ':'
  | point => ['.']
  | places pointed count => (if pointed then ['.'] else []) ++ [count.digitChar]

/-- A specifier has begun. -/
def Stage.Inside : Stage → Prop
  | text => False
  | colons count => count ∈ colonCounts
  | places _ count => count ∈ placeCounts
  | _ => True

/-- What a character does that comes after a percent sign: it begins a longer specifier, or it is
read as one by itself. -/
lemma step_percent (c : Char) :
    (∃ next, step .percent c = (next, []) ∧ next.Inside ∧ next.chars = [c]) ∨
      step .percent c = finished (directive c) := by
  unfold step
  split <;> simp_all [Stage.Inside, Stage.chars, Padding.mark, placeCounts, colonCounts]

/-- What a character does that comes after a point and is valid there. -/
lemma step_point {c : Char} (h : .invalid ∉ (step .point c).2) :
    c = 'f' ∨ ∃ n ∈ placeCounts, c = n.digitChar ∧ step .point c = (.places true n, []) := by
  unfold step at h ⊢
  split at h <;> simp_all [finished, placeCounts]

/-- What a character does that comes after colons and is valid there. -/
lemma step_colons {count : Nat} {c : Char} (h : .invalid ∉ (step (.colons count) c).2) :
    c = 'z' ∨ c = ':' ∧ count + 1 ∈ colonCounts ∧
      step (.colons count) c = (.colons (count + 1), []) := by
  unfold step at h ⊢
  split at h <;> simp_all [finished, colonCounts]

/-- Colons end with the letter of the offset. -/
lemma step_colons_offset (count : Nat) : (step (.colons count) 'z').1 = .text := by
  unfold step
  split <;> simp_all [finished]

/-- One more character of a specifier that has begun, if it is valid: the specifier goes on, or it
ends with the character. -/
theorem step_inside {stage : Stage} (hinside : stage.Inside) {c : Char}
    (h : .invalid ∉ (step stage c).2) :
    (∃ next, step stage c = (next, []) ∧ next.Inside ∧ next.chars = stage.chars ++ [c]) ∨
      (step stage c).1 = .text ∧ ∃ s : Specifier, s.chars = stage.chars ++ [c] := by
  cases stage with
  | text => contradiction
  | percent =>
    refine (step_percent c).imp_right fun hstep => ?_
    rw [hstep, finished] at h
    exact ⟨by rw [hstep, finished], .letter c ((invalid_not_mem_directive_iff c).mp h), rfl⟩
  | padding p =>
    rw [step, finished, List.mem_singleton] at h
    exact Or.inr ⟨rfl, .padded p c ((invalid_ne_paddedDirective_iff p c).mp h), rfl⟩
  | numberSign =>
    have hc : c = 'z' := by
      unfold step at h
      split at h <;> simp_all [finished]
    subst hc
    exact Or.inr ⟨rfl, .readOnlyOffset, rfl⟩
  | colons count =>
    rcases step_colons h with rfl | ⟨rfl, hcount, hstep⟩
    · exact Or.inr ⟨step_colons_offset count, .offset count hinside, rfl⟩
    · exact Or.inl ⟨_, hstep, hcount, List.replicate_succ'⟩
  | point =>
    rcases step_point h with rfl | ⟨n, hn, rfl, hstep⟩
    · exact Or.inr ⟨rfl, .exactFraction, rfl⟩
    · exact Or.inl ⟨_, hstep, hn, rfl⟩
  | places pointed count =>
    have hc : c = 'f' := by
      unfold step at h
      split at h <;> simp_all [finished]
    subst hc
    exact Or.inr ⟨rfl, .fraction pointed count hinside, by simp [Specifier.chars, Stage.chars]⟩

/-- A text that goes on from a specifier that has begun, if it is valid, ends the specifier and
goes on with a valid text.

**Proof sketch.** Induction on the text: the characters that have been read go on to be the
beginning of a specifier until they are one. -/
lemma exists_specifier {stage : Stage} (hinside : stage.Inside) {cs : List Char}
    (h : .invalid ∉ scanFrom stage cs) :
    ∃ (s : Specifier) (rest : List Char), stage.chars ++ cs = s.chars ++ rest ∧
      rest.length < cs.length ∧ .invalid ∉ scan rest := by
  induction cs generalizing stage with
  | nil => cases stage <;> simp_all [scanFrom, Stage.Inside]
  | cons c cs ih =>
    rw [scanFrom, List.mem_append, not_or] at h
    obtain ⟨hc, hcs⟩ := h
    rcases step_inside hinside hc with ⟨next, hstep, hnext, hchars⟩ | ⟨htext, s, hs⟩
    · rw [hstep] at hcs
      obtain ⟨s, rest, hsplit, hlength, hrest⟩ := ih hnext hcs
      refine ⟨s, rest, ?_, Nat.lt_succ_of_lt hlength, hrest⟩
      rw [← hsplit, hchars, List.append_assoc, List.singleton_append]
    · rw [htext] at hcs
      refine ⟨s, cs, ?_, Nat.lt_succ_self _, hcs⟩
      rw [hs, List.append_assoc, List.singleton_append]

/-- A valid text is one of parts. -/
lemma exists_spelling (cs : List Char) (h : .invalid ∉ scan cs) :
    ∃ parts, spelling parts = cs := by
  match cs with
  | [] => exact ⟨[], rfl⟩
  | c :: cs =>
    by_cases hc : c = '%'
    · subst hc
      have hinside : Stage.percent.Inside := trivial
      obtain ⟨s, rest, rfl, hlength, hrest⟩ := exists_specifier hinside h
      obtain ⟨parts, rfl⟩ := exists_spelling rest hrest
      exact ⟨.specifier s :: parts, rfl⟩
    · rw [scan, scanFrom, step_text hc] at h
      obtain ⟨parts, rfl⟩ := exists_spelling cs fun hmem => h (List.mem_cons_of_mem _ hmem)
      exact ⟨.text c hc :: parts, rfl⟩
  termination_by cs.length

/-- The texts that are read without a fault are those of specifiers and other characters. -/
theorem valid_iff {cs : List Char} : .invalid ∉ scan cs ↔ ∃ parts, spelling parts = cs := by
  refine ⟨exists_spelling cs, ?_⟩
  rintro ⟨parts, rfl⟩
  exact invalid_not_mem_scan_spelling parts

end Template

open Template

/-! ## Outcomes -/

namespace Instant

variable {i : Instant} {template : String}

/-- A template without a percent sign is shown if it closes every bracket. -/
lemma exists_render_eq_ok_iff (hpercent : '%' ∉ template.toList) :
    (∃ text, i.render template = .ok text) ↔ ClosesBrackets template.toList := by
  rw [← exists_pieces?_iff]
  simp only [render_eq_ok_iff hpercent]
  exact ⟨fun ⟨_, pieces, h, _⟩ => ⟨pieces, h⟩, fun ⟨pieces, h⟩ => ⟨_, pieces, h, rfl⟩⟩

/-- A template without a percent sign fails if it does not close every bracket. -/
lemma render_eq_unclosedBracket_iff (hpercent : '%' ∉ template.toList) :
    i.render template = .error (.invalidFormat (.unclosedBracket template)) ↔
      ¬ ClosesBrackets template.toList := by
  rw [render_eq_error_iff hpercent, ← exists_pieces?_iff]
  simp [Option.eq_none_iff_forall_ne_some]

/-- A template with a percent sign is at fault if it is not valid, or if it is valid and cannot be
written, which is so if something in it is for reading only. -/
lemma render_directives_eq_error_iff (hpercent : '%' ∈ template.toList) {e : Error} :
    i.render template = .error e ↔
      .invalid ∈ scan template.toList ∧ e = .invalidFormat (.badSpecifier template) ∨
      .invalid ∉ scan template.toList ∧ .readOnlyOffset ∈ scan template.toList ∧
        e = .readOnlySpecifier template := by
  by_cases hvalid : .invalid ∈ scan template.toList
  · rw [render_of_not_valid hpercent hvalid]
    simp [hvalid, eq_comm]
  · rw [render_of_valid hpercent hvalid, outcome_eq_error_iff,
      writeDirectives?_eq_none_iff_of_valid hvalid]
    simp [hvalid]

/-- A template with a percent sign is shown if it is valid and not for reading only. -/
lemma exists_render_directives_eq_ok_iff (hpercent : '%' ∈ template.toList) :
    (∃ text, i.render template = .ok text) ↔
      .invalid ∉ scan template.toList ∧ .readOnlyOffset ∉ scan template.toList := by
  by_cases hvalid : .invalid ∈ scan template.toList
  · rw [render_of_not_valid hpercent hvalid]
    simp [hvalid]
  · rw [render_of_valid hpercent hvalid, exists_outcome_eq_ok_iff, Ne,
      writeDirectives?_eq_none_iff_of_valid hvalid]
    simp [hvalid]

/-- How the showing of a template ends, whatever the instant is. One without a percent sign fails if
it leaves a bracket open, and is shown if not; it never ends the program. One with a percent sign
fails if it is no text of specifiers and other characters; if it is one, it ends the program if the
specifier that is for reading only is among them, and is shown if not. -/
theorem render_outcome (i : Instant) (template : String) :
    ('%' ∉ template.toList →
      (i.render template = .error (.invalidFormat (.unclosedBracket template)) ↔
        LeavesBracketOpen template.toList) ∧
      ((∃ text, i.render template = .ok text) ↔ ¬ LeavesBracketOpen template.toList) ∧
      ∀ other, i.render template ≠ .error (.readOnlySpecifier other)) ∧
    ('%' ∈ template.toList →
      (i.render template = .error (.invalidFormat (.badSpecifier template)) ↔
        ¬ ∃ parts, spelling parts = template.toList) ∧
      (i.render template = .error (.readOnlySpecifier template) ↔
        ∃ parts, spelling parts = template.toList ∧ .specifier .readOnlyOffset ∈ parts) ∧
      ((∃ text, i.render template = .ok text) ↔
        ∃ parts, spelling parts = template.toList ∧ .specifier .readOnlyOffset ∉ parts)) ∧
    ∀ (other : Instant) (e : Error),
      i.render template = .error e ↔ other.render template = .error e := by
  refine ⟨fun hpercent => ⟨?_, ?_, fun other h => ?_⟩, fun hpercent => ⟨?_, ?_, ?_⟩,
    fun other e => ?_⟩
  · rw [render_eq_unclosedBracket_iff hpercent, leavesBracketOpen_iff]
  · rw [exists_render_eq_ok_iff hpercent, leavesBracketOpen_iff, not_not]
  · obtain ⟨-, heq⟩ := (render_eq_error_iff hpercent).mp h
    cases heq
  · rw [render_directives_eq_error_iff hpercent, ← valid_iff]
    simp
  · rw [render_directives_eq_error_iff hpercent, valid_iff]
    constructor
    · rintro (⟨-, heq⟩ | ⟨⟨parts, hparts⟩, hread, -⟩)
      · cases heq
      · rw [← hparts, readOnlyOffset_mem_scan_spelling_iff] at hread
        exact ⟨parts, hparts, hread⟩
    · rintro ⟨parts, hparts, hread⟩
      rw [← readOnlyOffset_mem_scan_spelling_iff, hparts] at hread
      exact Or.inr ⟨⟨parts, hparts⟩, hread, rfl⟩
  · rw [exists_render_directives_eq_ok_iff hpercent, valid_iff]
    constructor
    · rintro ⟨⟨parts, hparts⟩, hread⟩
      rw [← hparts, readOnlyOffset_mem_scan_spelling_iff] at hread
      exact ⟨parts, hparts, hread⟩
    · rintro ⟨parts, hparts, hread⟩
      rw [← readOnlyOffset_mem_scan_spelling_iff, hparts] at hread
      exact ⟨⟨parts, hparts⟩, hread⟩
  · by_cases hpercent : '%' ∈ template.toList
    · rw [render_directives_eq_error_iff hpercent, render_directives_eq_error_iff hpercent]
    · rw [render_eq_error_iff hpercent, render_eq_error_iff hpercent]

/-- One template for each way to end, shown half a second before the end of 2016 in universal time:
a bracket left open after a closed one, two tokens that are not percent specifiers, a letter that is
no specifier, the specifier that is for reading only, and an offset with two colons. -/
theorem render_outcome_five :
    ∃ i : Instant, i = ⟨⟨1483228799, 500000000, by decide⟩, 0⟩ ∧
      '%' ∉ "[a]][of".toList ∧ LeavesBracketOpen "[a]][of".toList ∧
      i.render "[a]][of" = .error (.invalidFormat (.unclosedBracket "[a]][of")) ∧
      '%' ∉ "ddQ".toList ∧ ¬ LeavesBracketOpen "ddQ".toList ∧
      (∃ text, i.render "ddQ" = .ok text) ∧
      '%' ∈ "%d.%Q".toList ∧ (¬ ∃ parts, spelling parts = "%d.%Q".toList) ∧
      i.render "%d.%Q" = .error (.invalidFormat (.badSpecifier "%d.%Q")) ∧
      '%' ∈ "%H%#z".toList ∧
      i.render "%H%#z" = .error (.readOnlySpecifier "%H%#z") ∧
      '%' ∈ "%-H %::z".toList ∧ ∃ text, i.render "%-H %::z" = .ok text := by
  refine ⟨_, rfl, ?_⟩
  have hopen : LeavesBracketOpen "[a]][of".toList :=
    @LeavesBracketOpen.bracketed ['a'] [']', '[', 'o', 'f'] (by decide)
      (.plain (by decide) (.opened (by decide)))
  have hcloses : ¬ LeavesBracketOpen "ddQ".toList := by
    rw [leavesBracketOpen_iff, not_not]
    exact .plain (by decide) (.plain (by decide) (.plain (by decide) .nil))
  have hbad : ¬ ∃ parts, spelling parts = "%d.%Q".toList := by
    rw [← valid_iff]
    decide
  have hread : ∃ parts, spelling parts = "%H%#z".toList ∧ .specifier .readOnlyOffset ∈ parts :=
    ⟨[.specifier (.letter 'H' (by decide)), .specifier .readOnlyOffset], rfl, by simp⟩
  have hshown : ∃ parts, spelling parts = "%-H %::z".toList ∧
      .specifier .readOnlyOffset ∉ parts :=
    ⟨[.specifier (.padded .none 'H' (by decide)), .text ' ' (by decide),
      .specifier (.offset 2 (by decide))], rfl, by simp⟩
  exact ⟨by decide, hopen, ((render_outcome _ _).1 (by decide)).1.mpr hopen,
    by decide, hcloses, ((render_outcome _ _).1 (by decide)).2.1.mpr hcloses,
    by decide, hbad, ((render_outcome _ _).2.1 (by decide)).1.mpr hbad,
    by decide, ((render_outcome _ _).2.1 (by decide)).2.1.mpr hread,
    by decide, ((render_outcome _ _).2.1 (by decide)).2.2.mpr hshown⟩

end Instant

end Almanac

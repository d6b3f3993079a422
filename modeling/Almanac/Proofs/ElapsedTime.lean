import Almanac.Proofs.Alike
import Almanac.Proofs.Counting
import Almanac.Proofs.Operands
import Almanac.Zone.America
import Almanac.Zone.Asia

set_option relaxedAutoImplicit false
set_option autoImplicit false

/-!
# Elapsed time is the same in every zone

An expression of dates that carry their own offsets and of hours, minutes, seconds and milliseconds
comes to the same in every zone, but for the offset with which an instant is shown. No clock is
read on the way: moves and differences go by universal time, and so does the order of instants.

## Main definitions

* `Almanac.TimeUnit.Elapsed` — the units of elapsed time.
* `Almanac.ZoneFree`, `Almanac.ZoneFreeWords` — words that mean the same in every zone.
* `Almanac.Value.SameUpToOffset` — values that differ in no more than an offset.

## Main results

* `Almanac.operandOf_alike` — what such words denote.
* `Almanac.Step.apply_alike` — what one step does in two zones.
* `Almanac.evaluate_alike` — what such words come to.
-/

namespace Almanac

/-! ## Units of elapsed time -/

/-- The units of elapsed time. -/
def TimeUnit.Elapsed (u : TimeUnit) : Prop :=
  u ∈ [hours, minutes, seconds, milliseconds]

instance : DecidablePred TimeUnit.Elapsed :=
  fun u => inferInstanceAs (Decidable (u ∈ _))

/-- A unit of elapsed time stands for milliseconds. -/
lemma TimeUnit.Elapsed.span_eq {u : TimeUnit} (h : u.Elapsed) : ∃ per, u.span = .fixed per := by
  simp only [Elapsed, List.mem_cons, List.not_mem_nil, or_false] at h
  rcases h with rfl | rfl | rfl | rfl
  · exact ⟨_, rfl⟩
  · exact ⟨_, rfl⟩
  · exact ⟨_, rfl⟩
  · exact ⟨_, rfl⟩

/-! ## Words -/

open DateText in
/-- A word means the same in every zone: it is a text with an offset of its own or a duration in a
unit of elapsed time, or it denotes nothing anywhere, as an operator in the place of an operand. -/
def ZoneFree (word : String) : Prop :=
  (offsetText? (trim word.toList)).isSome = true ∨
    (∃ d ∈ Duration.parse? word, d.unit.Elapsed) ∨ DenotesNothing word

instance : DecidablePred ZoneFree :=
  fun word => inferInstanceAs (Decidable (_ ∨ (∃ d ∈ Duration.parse? word, _) ∨ _))

/-- The operands of a list of words mean the same in every zone, and the format, if there is one, is
no template for dates and not a unit of the calendar. -/
structure ZoneFreeWords (words : List String) : Prop where
  operands : ∀ i word, (chainWords words)[i]? = some word → i % 2 = 0 → ZoneFree word
  untemplated : ∀ f ∈ announcedFormat words, ∀ direction,
    lastOperator? (chainWords words) ≠ some (.sum direction)
  unit : ∀ f ∈ announcedFormat words, lastOperator? (chainWords words) = some .difference →
    ∀ u ∈ TimeUnit.ofWord? f, u.Elapsed

/-! ## Values -/

/-- Two values are the same, but that the offset of an instant may be another. -/
inductive Value.SameUpToOffset : Value → Value → Prop
  | instant {i j : Instant} (h : i.utc = j.utc) : SameUpToOffset (.instant i) (.instant j)
  | duration (d : Duration) : SameUpToOffset (.duration d) (.duration d)
  | truth (b : Bool) : SameUpToOffset (.truth b) (.truth b)
  | count (n : Int) : SameUpToOffset (.count n) (.count n)

/-- Two operands are the same moment, or the same duration in a unit of elapsed time. -/
inductive Operand.SameElapsed : Operand → Operand → Prop
  | instant {i j : Instant} (h : i.utc = j.utc) : SameElapsed (.instant i) (.instant j)
  | duration {d : Duration} (h : d.unit.Elapsed) : SameElapsed (.duration d) (.duration d)

/-- Operands that are the same are values that are. -/
lemma Operand.SameElapsed.toValue {o o' : Operand} (h : o.SameElapsed o') :
    o.toValue.SameUpToOffset o'.toValue := by
  cases h with
  | instant h => exact .instant h
  | duration h => exact .duration _

/-! ## What words denote -/

/-- Words that mean the same in every zone denote the same. -/
theorem operandOf_alike (p q : Present) {word : String} (h : ZoneFree word) :
    Alike Operand.SameElapsed (p.operandOf word) (q.operandOf word) := by
  cases hoffset : DateText.offsetText? (trim word.toList) with
  | some utc =>
    have hinstant : ∀ z : Zone, z.instantOf? word = some (z.express utc) := by
      intro z
      simp [Zone.instantOf?, hoffset]
    unfold Present.operandOf
    simp only [hinstant, Option.some_or]
    exact .ok (.instant rfl)
  | none =>
    rw [ZoneFree, hoffset] at h
    rcases h with hsome | ⟨d, hd, hunit⟩ | hnothing
    · cases hsome
    · rw [p.operandOf_of_parse? hd, q.operandOf_of_parse? hd]
      exact .ok (.duration hunit)
    · rw [p.operandOf_of_denotesNothing hnothing, q.operandOf_of_denotesNothing hnothing]
      exact .error rfl

/-! ## Steps in two zones -/

section Steps

variable {z z' : Zone}

/-- A duration of elapsed time moves a moment to the same one in every zone. -/
lemma move_alike {i j : Instant} (h : i.utc = j.utc) (direction : Direction) {step : Duration}
    (hunit : step.unit.Elapsed) :
    Alike (fun a b => a.utc = b.utc) (z.move i direction step) (z'.move j direction step) := by
  obtain ⟨per, hper⟩ := hunit.span_eq
  have hspan := TimeUnit.spanOf?_eq step.unit step.magnitude
  simp only [hper, Span.withCount] at hspan
  unfold Zone.move
  rw [hspan, h]
  cases step.magnitude.roundedProduct? (Span.fixed per).count with
  | none => exact .error rfl
  | some n =>
    simp only [Option.map_some]
    cases (j.utc.elapse (direction.sign * n)).check with
    | none => exact .error rfl
    | some utc => exact .ok rfl

/-- A unit of elapsed time fits between two moments as often in every zone. -/
lemma countBetween_eq (z z' : Zone) {unit : TimeUnit} (hunit : unit.Elapsed) {a b a' b' : Instant}
    (ha : a.utc = a'.utc) (hb : b.utc = b'.utc) :
    ∃ n, z.countBetween a b unit = .ok n ∧ z'.countBetween a' b' unit = .ok n := by
  obtain ⟨per, hper⟩ := hunit.span_eq
  unfold Zone.countBetween
  simp only [Zone.countUpTo_fixed _ hper, ha, hb]
  split
  · exact ⟨_, rfl, rfl⟩
  · exact ⟨_, rfl, rfl⟩

/-- Instants of the same moments are in the same order. -/
lemma Comparison.holds_eq (c : Comparison) {a b a' b' : Instant} (ha : a.utc = a'.utc)
    (hb : b.utc = b'.utc) : c.holds a b = c.holds a' b' := by
  cases c <;> simp only [holds, ha, hb]

/-- A step on values that are the same comes to the same in every zone, or fails for the same cause.

**Proof sketch.** One case for each operator, and of its operands one for each sort. -/
theorem Step.apply_alike {unit : TimeUnit} (hunit : unit.Elapsed) {left left' : Value}
    {s s' : Step} (hleft : left.SameUpToOffset left') (hs : Step.Alike Operand.SameElapsed s s') :
    Almanac.Alike Value.SameUpToOffset (s.apply z unit left) (s'.apply z' unit left') := by
  obtain ⟨operator, operand, word⟩ := s
  obtain ⟨operator', operand', word'⟩ := s'
  obtain ⟨hoperator, hoperand⟩ := hs
  simp only at hoperator hoperand
  subst hoperator
  cases operator with
  | sum direction =>
    cases hoperand with
    | instant h => exact .error rfl
    | duration hstep =>
      cases hleft with
      | instant hi => exact (move_alike hi direction hstep).map fun _ _ h => .instant h
      | duration d => exact (Alike.refl (R := Eq) _ fun _ _ => rfl).map fun a b h => h ▸ .duration a
      | truth b => exact .error rfl
      | count n => exact .error rfl
  | comparison c =>
    cases hleft with
    | instant hi =>
      cases hoperand with
      | instant hj =>
        refine .ok ?_
        rw [c.holds_eq hi hj]
        exact .truth _
      | duration hstep => exact .error rfl
    | duration d => cases hoperand <;> exact .error rfl
    | truth b => cases hoperand <;> exact .error rfl
    | count n => cases hoperand <;> exact .error rfl
  | difference =>
    cases hleft with
    | instant hi =>
      cases hoperand with
      | instant hj =>
        rw [Zone.apply_difference, Zone.apply_difference]
        obtain ⟨n, hn, hn'⟩ := countBetween_eq z z' hunit hi hj
        rw [hn, hn']
        exact .ok (.count n)
      | duration hstep => exact .error rfl
    | duration d => cases hoperand <;> exact .error rfl
    | truth b => cases hoperand <;> exact .error rfl
    | count n => cases hoperand <;> exact .error rfl

end Steps

/-! ## Evaluation in two zones -/

/-- Two results are the same up to an offset, and if they are the same they are shown alike. -/
def Evaluated.SameUpToOffset (a b : Evaluated) : Prop :=
  a.result.SameUpToOffset b.result ∧ (a.result = b.result → a.text = b.text)

/-- The unit of an expression that means the same in every zone is one of elapsed time. -/
lemma countingUnit_elapsed {p : Present} {words : List String} (h : ZoneFreeWords words)
    {e : Expression} (he : Expression.ofWords p words = .ok e) :
    e.countingUnit.Elapsed ∧ ∀ t, e.format ≠ some (.template t) := by
  obtain ⟨-, hreading⟩ := isReadingOf_of_ofWords he
  cases hf : announcedFormat words with
  | none =>
    rw [Expression.countingUnit, hreading.unformatted hf]
    exact ⟨by decide, fun t ht => by cases ht⟩
  | some f =>
    obtain ⟨op, r, hop, htakes, hr⟩ := hreading.format f hf
    rw [Expression.countingUnit, hr]
    cases htakes with
    | template direction => exact absurd hop (h.untemplated f hf direction)
    | unit hu => exact ⟨h.unit f hf hop _ hu, fun t ht => by cases ht⟩

/-- Without a template a value is shown as it is written. -/
lemma Value.render_of_untemplated (v : Value) {format : Option ResultFormat}
    (h : ∀ t, format ≠ some (.template t)) : v.render format = .ok v.text := by
  unfold render
  split
  · exact absurd rfl (h _)
  · exact absurd rfl (h _)
  · rfl

/-- Words that mean the same in every zone come to the same wherever they are evaluated, up to the
offset of an instant, or fail for the same cause. -/
theorem evaluate_alike (p q : Present) {words : List String} (h : ZoneFreeWords words) :
    Alike Evaluated.SameUpToOffset (evaluate p words) (evaluate q words) := by
  have hwords : Alike (Expression.Alike Operand.SameElapsed) (Expression.ofWords p words)
      (Expression.ofWords q words) :=
    ofWords_alike fun i word hget heven => operandOf_alike p q (h.operands i word hget heven)
  refine hwords.with_eq.bind ?_
  rintro e f ⟨hef, he⟩
  obtain ⟨hunit, htemplate⟩ := countingUnit_elapsed h he
  have hcounting : f.countingUnit = e.countingUnit := by
    rw [Expression.countingUnit, Expression.countingUnit, hef.format]
  have hresult : Alike Value.SameUpToOffset (e.result p.zone) (f.result q.zone) := by
    rw [Expression.result, Expression.result, hcounting]
    exact applySteps_alike (fun _ _ _ _ => Step.apply_alike hunit) hef.steps hef.first.toValue
  refine hresult.bind fun v w hvw => ?_
  rw [v.render_of_untemplated htemplate, w.render_of_untemplated (hef.format ▸ htemplate)]
  exact .ok ⟨hvw, fun heq => congrArg Value.text heq⟩

/-- A quarter of a second further on in the leap second at the end of 2016, in New York and in
Kathmandu. -/
theorem evaluate_alike_leapSecond :
    ∃ p q a b, p.zone = Zone.newYork ∧ q.zone = Zone.kathmandu ∧
      ZoneFreeWords ["2016-12-31T23:59:60.5Z", "+", "250ms"] ∧
      evaluate p ["2016-12-31T23:59:60.5Z", "+", "250ms"] = .ok a ∧
      evaluate q ["2016-12-31T23:59:60.5Z", "+", "250ms"] = .ok b ∧
      a.text = "2016-12-31T18:59:60-05:00" ∧ b.text = "2017-01-01T05:44:60+05:45" ∧
      a.SameUpToOffset b := by
  have hwords : ZoneFreeWords ["2016-12-31T23:59:60.5Z", "+", "250ms"] := by
    have hformat : announcedFormat ["2016-12-31T23:59:60.5Z", "+", "250ms"] = none := by decide
    refine ⟨?_, fun f hf => absurd hf (by simp [hformat]), fun f hf => absurd hf (by simp [hformat])⟩
    intro i word hget heven
    match i, heven with
    | 0, _ =>
      cases hget
      decide +kernel
    | 2, _ =>
      cases hget
      decide +kernel
    | i + 3, _ => cases hget
  let anchors (z : Zone) : Present :=
    let i := z.express ⟨1483228800, 0, by decide⟩
    ⟨z, i, i, i, i⟩
  have ha : evaluate (anchors Zone.newYork) ["2016-12-31T23:59:60.5Z", "+", "250ms"] = .ok
      ⟨.instant ⟨⟨1483228799, 1750000000, by decide⟩, -18000⟩, "2016-12-31T18:59:60-05:00"⟩ := by
    decide +kernel
  have hb : evaluate (anchors Zone.kathmandu) ["2016-12-31T23:59:60.5Z", "+", "250ms"] = .ok
      ⟨.instant ⟨⟨1483228799, 1750000000, by decide⟩, 20700⟩, "2017-01-01T05:44:60+05:45"⟩ := by
    decide +kernel
  have halike := evaluate_alike (anchors Zone.newYork) (anchors Zone.kathmandu) hwords
  rw [ha, hb] at halike
  cases halike with
  | ok h => exact ⟨_, _, _, _, rfl, rfl, hwords, ha, hb, rfl, rfl, h⟩

end Almanac

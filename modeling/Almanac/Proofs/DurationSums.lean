import Almanac.Proofs.Decimals
import Almanac.Proofs.Formats
import Almanac.Proofs.RunningSums
import Almanac.Proofs.Soundness
import Almanac.Zone.America

set_option relaxedAutoImplicit false
set_option autoImplicit false

/-!
# Chains of durations

Durations of one unit are added and subtracted exactly, as the decimals that they are written with.
The only bound is that of the count of billionths, which every sum on the way has to keep. It is not
the same on both sides of zero: a sum may come to the most negative count, but no word denotes it,
so that a duration that is subtracted is always one that can be negated.

## Main definitions

* `Almanac.WrittenSum` — words that add and subtract durations of a unit.
* `Almanac.Summand.billionths` — what a summand adds.

## Main results

* `Almanac.Duration.add_of_fits`, `Almanac.Duration.add_of_not_fits` — what one sum comes to.
* `Almanac.evaluate_durations` — what a chain of sums comes to, and how it is written.
-/

namespace Almanac

/-- Words that add and subtract durations of a unit, and the billionths that each of them adds. -/
inductive WrittenSum (u : TimeUnit) : List String → List Int → Prop
  | nil : WrittenSum u [] []
  | cons {spelling word : String} {direction : Direction} {n : Int} {rest : List String}
      {terms : List Int} (hoperator : Operator.ofSpelling? spelling = some (.sum direction))
      (hword : WrittenDuration word n u) (hrest : WrittenSum u rest terms) :
    WrittenSum u (spelling :: word :: rest) (direction.sign * n :: terms)

/-- The billionths that a summand adds. -/
def Summand.billionths (s : Summand) : Int :=
  s.direction.sign * s.duration.magnitude.billionths

/-! ## One sum -/

namespace Duration

variable {left right : Duration} (hunit : left.unit = right.unit)
  (hright : right.magnitude.billionths.natAbs < 2 ^ 127) (direction : Direction)

include hunit hright

/-- What is added to the magnitude on the left. A magnitude whose absolute value has 128 bits can be
negated, so that it is always there. -/
lemma add_eq_ofBillionths? : left.add direction right =
    match Magnitude.ofBillionths?
        (left.magnitude.billionths + direction.sign * right.magnitude.billionths) with
    | some m => .ok ⟨m, left.unit⟩
    | none => .error (.outOfRange (.sum left direction right)) := by
  cases direction with
  | forward =>
    rw [add, if_pos hunit, Direction.sign, Int.one_mul]
    rfl
  | backward =>
    have hneg : Fits128 (-right.magnitude.billionths) := by
      constructor <;> omega
    have hnegated : right.magnitude.neg? = some ⟨-right.magnitude.billionths, hneg⟩ := by
      rw [Magnitude.neg?, Magnitude.ofBillionths?, dif_pos hneg]
    rw [add, if_pos hunit, Direction.sign, Int.neg_mul, Int.one_mul, hnegated]
    rfl

/-- A sum of durations of one unit is exact if it has 128 bits. -/
theorem add_of_fits
    (h : Fits128 (left.magnitude.billionths + direction.sign * right.magnitude.billionths)) :
    left.add direction right = .ok ⟨⟨_, h⟩, left.unit⟩ := by
  rw [add_eq_ofBillionths? hunit hright, Magnitude.ofBillionths?, dif_pos h]

/-- A sum of durations of one unit is out of range if it has not 128 bits. -/
theorem add_of_not_fits
    (h : ¬ Fits128 (left.magnitude.billionths + direction.sign * right.magnitude.billionths)) :
    left.add direction right = .error (.outOfRange (.sum left direction right)) := by
  rw [add_eq_ofBillionths? hunit hright, Magnitude.ofBillionths?, dif_neg h]

end Duration

/-! ## Steps -/

/-- A value is a duration of so many billionths of a unit. -/
def TimeUnit.StandsFor (u : TimeUnit) (n : Int) (v : Value) : Prop :=
  ∃ h : Fits128 n, v = .duration ⟨⟨n, h⟩, u⟩

/-- A summand is a duration of a unit that can be negated. -/
def Summand.Negatable (s : Summand) (u : TimeUnit) : Prop :=
  s.duration.unit = u ∧ s.duration.magnitude.billionths.natAbs < 2 ^ 127

section Steps

variable {z : Zone} {unit u : TimeUnit}

/-- A sum of durations is a step. -/
lemma Summand.apply_duration (s : Summand) (d : Duration) :
    s.step.apply z unit (.duration d) = (d.add s.direction s.duration).map .duration :=
  rfl

/-- A step adds the billionths of a duration of the same unit. -/
lemma Summand.adds_billionths {s : Summand} (h : s.Negatable u) :
    s.Adds z unit u.StandsFor Fits128 s.billionths := by
  rintro n v ⟨hn, rfl⟩ hsum
  have hunit : Duration.unit ⟨⟨n, hn⟩, u⟩ = s.duration.unit := h.1.symm
  refine ⟨_, ?_, hsum, rfl⟩
  rw [s.apply_duration, Duration.add_of_fits hunit h.2 s.direction hsum]
  rfl

/-- A step is refused if the sum has not 128 bits. -/
lemma Summand.refuses_billionths {s : Summand} (h : s.Negatable u) :
    s.Refuses z unit u.StandsFor Fits128 s.billionths := by
  rintro n v ⟨hn, rfl⟩ hsum
  have hunit : Duration.unit ⟨⟨n, hn⟩, u⟩ = s.duration.unit := h.1.symm
  rw [s.apply_duration, Duration.add_of_not_fits hunit h.2 s.direction hsum]
  exact ⟨_, rfl⟩

end Steps

/-! ## Words -/

/-- A word that is written as a duration is read as one. -/
lemma WrittenDuration.exists_parse? {word : String} {n : Int} {u : TimeUnit}
    (h : WrittenDuration word n u) :
    ∃ m : Magnitude, m.billionths = n ∧ Duration.parse? word = some ⟨m, u⟩ := by
  have hfits : Fits128 n := by
    have hlt := h.natAbs_lt
    constructor <;> omega
  exact ⟨⟨n, hfits⟩, rfl, Duration.parse?_of_written h⟩

namespace WrittenSum

variable {u : TimeUnit} {rest : List String} {terms : List Int}

/-- Words that add durations are the steps of a chain.

**Proof sketch.** Induction on the words, an operator and a duration at a time. -/
lemma exists_stepsOf (p : Present) (h : WrittenSum u rest terms) : ∃ summands : List Summand,
    p.stepsOf rest = .ok (summands.map Summand.step) ∧
      summands.map Summand.billionths = terms ∧ ∀ s ∈ summands, s.Negatable u := by
  induction h with
  | nil => exact ⟨[], rfl, rfl, by simp⟩
  | @cons spelling word direction n rest terms hoperator hword _ ih =>
    obtain ⟨summands, hsteps, hterms, hall⟩ := ih
    obtain ⟨m, rfl, hparse⟩ := hword.exists_parse?
    refine ⟨⟨direction, ⟨m, u⟩, word⟩ :: summands, ?_, ?_, ?_⟩
    · rw [Present.stepsOf, Present.stepOf, operatorOf_of_spelling hoperator,
        p.operandOf_of_parse? hparse, hsteps]
      rfl
    · rw [List.map_cons, hterms]
      rfl
    · exact List.forall_mem_cons.mpr ⟨⟨rfl, hword.natAbs_lt⟩, hall⟩

/-- The words of a sum are operators and durations. -/
lemma operator_or_written (h : WrittenSum u rest terms) : ∀ word ∈ rest,
    (∃ op, Operator.ofSpelling? word = some op) ∨ ∃ n, WrittenDuration word n u := by
  induction h with
  | nil => simp
  | @cons spelling word direction n rest terms hoperator hword _ ih =>
    rw [List.forall_mem_cons, List.forall_mem_cons]
    exact ⟨Or.inl ⟨_, hoperator⟩, Or.inr ⟨n, hword⟩, ih⟩

/-- The last word of a sum is a duration. -/
lemma exists_getLast? (h : WrittenSum u rest terms) (hne : rest ≠ []) :
    ∃ word n, rest.getLast? = some word ∧ WrittenDuration word n u := by
  induction h with
  | nil => exact absurd rfl hne
  | @cons spelling word direction n rest terms hoperator hword hrest ih =>
    cases hrest with
    | nil => exact ⟨word, n, rfl, hword⟩
    | cons => exact ih (by simp)

end WrittenSum

section Words

variable (p : Present) {u : TimeUnit} {word : String} {n : Int} {rest : List String}
  {terms : List Int} (hword : WrittenDuration word n u) (hrest : WrittenSum u rest terms)
  (hne : rest ≠ [])

include hword hrest

/-- No word of a sum of durations announces a format. -/
lemma ne_formatWord_of_writtenSum : ∀ other ∈ word :: rest, other ≠ formatWord := by
  have hnothing : Duration.parse? formatWord = none := by decide
  have hwritten : ∀ {other k}, WrittenDuration other k u → other ≠ formatWord := by
    rintro other k hother rfl
    obtain ⟨m, -, hparse⟩ := hother.exists_parse?
    rw [hnothing] at hparse
    cases hparse
  refine List.forall_mem_cons.mpr ⟨hwritten hword, fun other hother => ?_⟩
  rcases hrest.operator_or_written other hother with ⟨op, hop⟩ | ⟨k, hk⟩
  · rintro rfl
    cases hop
  · exact hwritten hk

include hne

/-- Words that add durations are an expression without a format. -/
lemma ofWords_writtenSum : ∃ (m : Magnitude) (summands : List Summand), m.billionths = n ∧
    summands.map Summand.billionths = terms ∧ (∀ s ∈ summands, s.Negatable u) ∧
    Expression.ofWords p (word :: rest) =
      .ok ⟨.duration ⟨m, u⟩, summands.map Summand.step, none⟩ := by
  obtain ⟨m, hm, hparse⟩ := hword.exists_parse?
  obtain ⟨summands, hsteps, hterms, hall⟩ := hrest.exists_stepsOf p
  refine ⟨m, summands, hm, hterms, hall, ?_⟩
  have hformat := ne_formatWord_of_writtenSum hword hrest
  have hlast : (word :: rest).getLast? ≠ some formatWord :=
    fun h => hformat _ (List.mem_of_getLast? h) rfl
  have hbefore : (word :: rest).dropLast.getLast? ≠ some formatWord :=
    fun h => hformat _ (List.dropLast_subset _ (List.mem_of_getLast? h)) rfl
  have hend : ¬ EndsInOperator (word :: rest) := by
    rintro ⟨last, op, hget, hop⟩
    obtain ⟨other, k, hother, hk⟩ := hrest.exists_getLast? hne
    rw [List.getLast?_cons_of_ne_nil hne, hother] at hget
    obtain ⟨m', -, hlastParse⟩ := hk.exists_parse?
    rw [← Option.some.inj hget,
      Present.ofSpelling?_of_operandOf (p.operandOf_of_parse? hlastParse)] at hop
    cases hop
  obtain ⟨second, others, rfl⟩ := List.exists_cons_of_ne_nil hne
  rw [ofWords_unformatted hlast hbefore, chainOf_cons hend,
    p.operandOf_of_parse? hparse, hsteps]
  rfl

/-- Words that add durations come to what the steps do to the first of them. -/
lemma evaluate_writtenSum : ∃ (m : Magnitude) (summands : List Summand), m.billionths = n ∧
    summands.map Summand.billionths = terms ∧ (∀ s ∈ summands, s.Negatable u) ∧
    evaluate p (word :: rest) = (applySteps p.zone .milliseconds (.duration ⟨m, u⟩)
      (summands.map Summand.step)).map Value.plain := by
  obtain ⟨m, summands, hm, hterms, hall, hwords⟩ := ofWords_writtenSum p hword hrest hne
  refine ⟨m, summands, hm, hterms, hall, ?_⟩
  rw [evaluate_eq, hwords]
  exact Expression.evaluated_unformatted rfl

/-- They come to the sum if every sum on the way has 128 bits. -/
lemma evaluate_of_sumsWithin (hwithin : SumsWithin Fits128 n terms) :
    ∃ h : Fits128 (n + terms.sum),
      evaluate p (word :: rest) = .ok (Value.plain (.duration ⟨⟨_, h⟩, u⟩)) := by
  obtain ⟨m, summands, rfl, rfl, hall, hevaluate⟩ := evaluate_writtenSum p hword hrest hne
  have hfirst : u.StandsFor m.billionths (.duration ⟨m, u⟩) := ⟨m.fits, rfl⟩
  obtain ⟨-, happly, hsum, rfl⟩ : ∃ v, applySteps p.zone .milliseconds (.duration ⟨m, u⟩)
      (summands.map Summand.step) = .ok v ∧
        u.StandsFor (m.billionths + (summands.map Summand.billionths).sum) v :=
    applySteps_of_adds (fun s hs => s.adds_billionths (hall s hs)) hfirst hwithin
  exact ⟨hsum, by rw [hevaluate, happly]; rfl⟩

/-- Durations of one unit that are added and subtracted come to the sum of their decimals, which is
written with nothing superfluous and with the name of the unit, if every sum on the way has 128
bits. Otherwise they are out of range. A duration alone is no expression. -/
theorem evaluate_durations :
    (SumsWithin Fits128 n terms → ∃ (m : Magnitude) (d : Decimal),
      m.billionths = n + terms.sum ∧ d.billionths = n + terms.sum ∧ d.Canonical ∧
        evaluate p (word :: rest) =
          .ok ⟨.duration ⟨m, u⟩, String.ofList (d.chars ++ u.name.toList)⟩) ∧
      (¬ SumsWithin Fits128 n terms →
        ∃ f, evaluate p (word :: rest) = .error (.outOfRange f)) := by
  constructor
  · intro hwithin
    obtain ⟨hsum, hevaluate⟩ := evaluate_of_sumsWithin p hword hrest hne hwithin
    refine ⟨⟨_, hsum⟩, _, rfl, Decimal.billionths_ofBillionths _,
      Decimal.canonical_ofBillionths _, ?_⟩
    rw [hevaluate, ← Duration.text_eq ⟨⟨_, hsum⟩, u⟩]
    rfl
  · intro hout
    obtain ⟨m, summands, rfl, rfl, hall, hevaluate⟩ := evaluate_writtenSum p hword hrest hne
    have hfirst : u.StandsFor m.billionths (.duration ⟨m, u⟩) := ⟨m.fits, rfl⟩
    obtain ⟨f, happly⟩ : ∃ f, applySteps p.zone .milliseconds (.duration ⟨m, u⟩)
        (summands.map Summand.step) = .error (.outOfRange f) :=
      applySteps_of_refuses (fun s hs => s.adds_billionths (hall s hs))
        (fun s hs => s.refuses_billionths (hall s hs)) hfirst m.fits hout
    exact ⟨f, by rw [hevaluate, happly]; rfl⟩

end Words

/-- Hours under three names, one of them without a number. -/
theorem evaluate_durations_hours :
    WrittenDuration "+1.50h" 1500000000 .hours ∧
      WrittenSum .hours ["-", "0.75hours", "+", "H"] [-750000000, 1000000000] ∧
      SumsWithin Fits128 1500000000 [-750000000, 1000000000] ∧
      ∃ p, (evaluate p ["+1.50h", "-", "0.75hours", "+", "H"]).map Evaluated.text =
        .ok "1.75hours" := by
  have hword : WrittenDuration "+1.50h" 1500000000 .hours :=
    Duration.written_of_parse? (d := ⟨⟨1500000000, by decide⟩, .hours⟩) (by decide)
  have hsecond : WrittenDuration "0.75hours" 750000000 .hours :=
    Duration.written_of_parse? (d := ⟨⟨750000000, by decide⟩, .hours⟩) (by decide)
  have hrest : WrittenSum .hours ["-", "0.75hours", "+", "H"]
      [Direction.sign .backward * 750000000, Direction.sign .forward * 1000000000] :=
    .cons (by decide) hsecond (.cons (by decide) (.one (by decide)) .nil)
  have hwithin : SumsWithin Fits128 1500000000 [-750000000, 1000000000] := by decide
  let moment : Instant := ⟨⟨0, 0, by decide⟩, 0⟩
  let p : Present := ⟨Zone.newYork, moment, moment, moment, moment⟩
  obtain ⟨m, d, hm, hd, hcanonical, hevaluate⟩ :=
    (evaluate_durations p hword hrest (by decide)).1 hwithin
  refine ⟨hword, hrest, hwithin, p, ?_⟩
  rw [hevaluate, Decimal.eq_of_canonical hcanonical, hd]
  rfl

end Almanac

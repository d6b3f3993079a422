import Almanac.Proofs.Counting
import Almanac.Proofs.Moves
import Almanac.Proofs.Typing
import Almanac.Zone.Asia

set_option relaxedAutoImplicit false
set_option autoImplicit false

/-!
# Typed expressions do not go wrong

An expression of a type comes to a value of that type, or leaves the range of dates or magnitudes on
the way. An expression of no type fails at its first step that does not fit, if it comes so far.
There is one exception to both: a step may need what the clock of the zone shows at an instant at
the very ends of the calendar, where the clock is outside it.

## Main definitions

* `Almanac.Step.OffCalendar` — the steps that need a clock that is not in the calendar.
* `Almanac.Expression.OnCalendar` — the expressions without such a step.

## Main results

* `Almanac.Step.apply_of_hasType` — what a step does to a value of a type that it takes.
* `Almanac.Step.apply_of_not_hasType` — what a step does to any other value.
* `Almanac.applySteps_of_haveType`, `Almanac.applySteps_of_misfit` — the same for steps one after
  the other.
* `Almanac.Expression.type_soundness` — what expressions come to, by their type.
-/

namespace Almanac

/-! ## One step -/

/-- A step needs a clock that is not in the calendar, to set it or to count a unit on it. -/
def Step.OffCalendar (z : Zone) (unit : TimeUnit) (left : Value) (s : Step) : Prop :=
  match s.operator, left, s.operand with
  | .sum direction, .instant i, .duration step =>
    step.SetsClock direction ∧ ¬ (z.reading i).InRange
  | .difference, .instant a, .instant b => ¬ z.Countable unit a b
  | _, _, _ => False

/-- The sum of durations of one unit is a duration of that unit, or out of range. -/
lemma Duration.add_of_unit_eq {left right : Duration} (h : left.unit = right.unit)
    (direction : Direction) :
    (∃ m, left.add direction right = .ok ⟨m, left.unit⟩) ∨
      ∃ f, left.add direction right = .error (.outOfRange f) := by
  simp only [add, if_pos h]
  split
  · exact Or.inl ⟨_, rfl⟩
  · exact Or.inr ⟨_, rfl⟩

namespace Step

variable {z : Zone} {unit : TimeUnit} {left : Value} {s : Step}

/-- What a step does to a value of a type that it takes: it gives a value of the type that it turns
it into, or it is a sum and out of range.

**Proof sketch.** One case for each way of typing a step. Comparisons cannot fail, and differences
cannot if the clocks they need are in the calendar. -/
theorem apply_of_hasType {a b : ValueType} (h : s.HasType a b) (hleft : left.type = a)
    (hclock : ¬ s.OffCalendar z unit left) :
    (∃ v, s.apply z unit left = .ok v ∧ v.type = b) ∨
      ∃ direction f, s.operator = .sum direction ∧
        s.apply z unit left = .error (.outOfRange f) := by
  cases h with
  | moved direction step word =>
    obtain ⟨i, rfl⟩ := Value.eq_instant_of_type hleft
    rw [Zone.apply_sum]
    cases hmove : z.move i direction step with
    | ok moved => exact Or.inl ⟨_, rfl, rfl⟩
    | error e =>
      rcases Zone.error_of_move hmove with ⟨f, rfl⟩ | ⟨hset, hrange, -⟩
      · exact Or.inr ⟨direction, f, rfl, rfl⟩
      · exact absurd ⟨hset, hrange⟩ hclock
  | added direction step word =>
    obtain ⟨d, rfl, hunit⟩ := Value.eq_duration_of_type hleft
    have happly : Step.apply z unit (.duration d) ⟨.sum direction, .duration step, word⟩ =
        (d.add direction step).map .duration := rfl
    rw [happly]
    rcases Duration.add_of_unit_eq hunit direction with ⟨m, hm⟩ | ⟨f, hf⟩
    · rw [hm]
      exact Or.inl ⟨_, rfl, hleft⟩
    · rw [hf]
      exact Or.inr ⟨direction, f, rfl, rfl⟩
  | compared c i word =>
    obtain ⟨first, rfl⟩ := Value.eq_instant_of_type hleft
    exact Or.inl ⟨_, rfl, rfl⟩
  | counted i word =>
    obtain ⟨first, rfl⟩ := Value.eq_instant_of_type hleft
    obtain ⟨n, hn⟩ := Zone.countBetween_ok (Classical.not_not.mp hclock)
    rw [Zone.apply_difference, hn]
    exact Or.inl ⟨_, rfl, rfl⟩

/-- A step fails on a value of a type that it does not take.

**Proof sketch.** One case for each operator and each sort of value on its sides; where a step takes
the value the typing of it contradicts the assumption. -/
theorem apply_of_not_hasType (h : ∀ b, ¬ s.HasType left.type b) :
    s.apply z unit left = .error (s.typeError left.type) := by
  obtain ⟨operator, operand, word⟩ := s
  cases operator with
  | sum direction =>
    cases operand with
    | instant i => rfl
    | duration step =>
      cases left with
      | instant i => exact absurd (.moved direction step word) (h _)
      | duration d =>
        have hunit : d.unit ≠ step.unit := by
          intro heq
          refine h (.duration step.unit) ?_
          rw [Value.type, heq]
          exact .added direction step word
        have hadd : d.add direction step = .error (.incompatibleUnits d.unit step.unit) :=
          if_neg hunit
        simp only [apply, Value.add, hadd]
        rfl
      | truth t => rfl
      | count n => rfl
  | comparison c =>
    cases left with
    | instant i =>
      cases operand with
      | instant j => exact absurd (.compared c j word) (h _)
      | duration step => rfl
    | duration d => rfl
    | truth t => rfl
    | count n => rfl
  | difference =>
    cases left with
    | instant i =>
      cases operand with
      | instant j => exact absurd (.counted j word) (h _)
      | duration step => rfl
    | duration d => rfl
    | truth t => rfl
    | count n => rfl

/-- A step that needs a clock that is not in the calendar fails for that. -/
lemma apply_of_offCalendar (h : s.OffCalendar z unit left) :
    ∃ i, s.apply z unit left = .error (.offCalendar i) := by
  obtain ⟨operator, operand, word⟩ := s
  simp only [OffCalendar] at h
  split at h
  · obtain ⟨hset, hrange⟩ := h
    simp only [apply, Value.add, Zone.move_of_setsClock hset hrange]
    exact ⟨_, rfl⟩
  · obtain ⟨i, hi⟩ := Zone.countBetween_of_not_countable h
    rw [Zone.apply_difference, hi]
    exact ⟨i, rfl⟩
  · exact h.elim

/-- Among the errors of types is none of clocks. -/
lemma typeError_ne_offCalendar (a : ValueType) (i : Instant) : s.typeError a ≠ .offCalendar i := by
  unfold typeError
  split
  · exact Error.noConfusion
  · split <;> exact Error.noConfusion
  · exact Error.noConfusion

/-- A step fails for a clock that is not in the calendar exactly if it needs one. -/
theorem apply_eq_offCalendar_iff :
    (∃ i, s.apply z unit left = .error (.offCalendar i)) ↔ s.OffCalendar z unit left := by
  constructor
  · rintro ⟨i, hi⟩
    by_contra hclock
    by_cases hfit : ∃ b, s.HasType left.type b
    · obtain ⟨b, hb⟩ := hfit
      rcases apply_of_hasType hb rfl hclock with ⟨v, hv, -⟩ | ⟨-, f, -, hf⟩
      · rw [hv] at hi
        cases hi
      · rw [hf] at hi
        cases hi
    · rw [apply_of_not_hasType fun b hb => hfit ⟨b, hb⟩] at hi
      exact typeError_ne_offCalendar _ _ (Except.error.inj hi)
  · exact apply_of_offCalendar

end Step

/-! ## Steps one after the other -/

/-- No step is come to that needs a clock that is not in the calendar. -/
def StepsOnCalendar (z : Zone) (unit : TimeUnit) : Value → List Step → Prop
  | _, [] => True
  | left, s :: rest =>
    ¬ s.OffCalendar z unit left ∧
      ∀ v, s.apply z unit left = .ok v → StepsOnCalendar z unit v rest

section Steps

variable {z : Zone} {unit : TimeUnit} {left : Value}

/-- More steps go on from what the steps before them come to. -/
lemma applySteps_append (before after : List Step) :
    applySteps z unit left (before ++ after) =
      (applySteps z unit left before >>= fun v => applySteps z unit v after) := by
  induction before generalizing left with
  | nil => rfl
  | cons s rest ih =>
    rw [List.cons_append, applySteps, applySteps]
    cases happly : s.apply z unit left with
    | error e => rfl
    | ok v => exact ih

/-- What holds of more steps holds of those before them. -/
lemma StepsOnCalendar.of_append {before after : List Step}
    (h : StepsOnCalendar z unit left (before ++ after)) : StepsOnCalendar z unit left before := by
  induction before generalizing left with
  | nil => trivial
  | cons s rest ih => exact ⟨h.1, fun v hv => ih (h.2 v hv)⟩

/-- Steps that take values of one type to those of another do so, or one of them is out of range.

**Proof sketch.** Induction on the typing: the first step gives a value of the type that the others
take, or fails. -/
theorem applySteps_of_haveType {steps : List Step} {a b : ValueType}
    (h : StepsHaveType steps a b) (hleft : left.type = a)
    (hclock : StepsOnCalendar z unit left steps) :
    (∃ v, applySteps z unit left steps = .ok v ∧ v.type = b) ∨
      ∃ f, applySteps z unit left steps = .error (.outOfRange f) := by
  induction h generalizing left with
  | nil t => exact Or.inl ⟨left, rfl, hleft⟩
  | cons first later ih =>
    obtain ⟨hfirst, hlater⟩ := hclock
    rw [applySteps]
    rcases Step.apply_of_hasType first hleft hfirst with ⟨v, hv, htype⟩ | ⟨-, f, -, hf⟩
    · rw [hv]
      exact ih htype (hlater v hv)
    · rw [hf]
      exact Or.inr ⟨f, rfl⟩

/-- At the first step that does not fit the steps fail with its error, if the steps before it come
to a value. -/
theorem applySteps_of_misfit {before after : List Step} {s : Step} {b : ValueType}
    (hbefore : StepsHaveType before left.type b) (hs : ∀ c, ¬ s.HasType b c)
    (hclock : StepsOnCalendar z unit left (before ++ s :: after)) :
    ((∃ v, applySteps z unit left before = .ok v ∧ v.type = b) ∧
        applySteps z unit left (before ++ s :: after) = .error (s.typeError b)) ∨
      ∃ f, applySteps z unit left before = .error (.outOfRange f) ∧
        applySteps z unit left (before ++ s :: after) = .error (.outOfRange f) := by
  rw [applySteps_append]
  rcases applySteps_of_haveType hbefore rfl hclock.of_append with ⟨v, hv, rfl⟩ | ⟨f, hf⟩
  · refine Or.inl ⟨⟨v, hv, rfl⟩, ?_⟩
    rw [hv]
    have happly : s.apply z unit v = .error (s.typeError v.type) := Step.apply_of_not_hasType hs
    simp only [bind, Except.bind, applySteps, happly]
  · refine Or.inr ⟨f, hf, ?_⟩
    rw [hf]
    rfl

/-- Steps fail for a clock that is not in the calendar exactly if they come to one that needs it.

**Proof sketch.** Induction on the steps, by what the first one does. -/
theorem applySteps_eq_offCalendar_iff {steps : List Step} :
    (∃ i, applySteps z unit left steps = .error (.offCalendar i)) ↔
      ¬ StepsOnCalendar z unit left steps := by
  induction steps generalizing left with
  | nil => simp [applySteps, StepsOnCalendar]
  | cons s rest ih =>
    rw [applySteps, StepsOnCalendar, ← Step.apply_eq_offCalendar_iff]
    cases happly : s.apply z unit left with
    | error e => simp [bind, Except.bind]
    | ok v => simp [bind, Except.bind, ih]

end Steps

/-! ## Expressions -/

namespace Expression

/-- No step of an expression is come to that needs a clock that is not in the calendar. -/
def OnCalendar (e : Expression) (z : Zone) : Prop :=
  StepsOnCalendar z e.countingUnit e.first.toValue e.steps

/-- An expression of a type comes to a value of the type or is out of range, an expression of no
type fails at its first step that does not fit or is out of range before, and a comparison or a
difference of dates has a value — but for the steps that need a clock that is not in the calendar,
and fail for that. -/
theorem type_soundness (e : Expression) (z : Zone) :
    (e.OnCalendar z →
      (∀ t, e.HasType t → (∃ v, e.result z = .ok v ∧ v.type = t) ∨
        ∃ f, e.result z = .error (.outOfRange f)) ∧
      ((∀ t, ¬ e.HasType t) → ∃ before s after t, e.steps = before ++ s :: after ∧
        StepsHaveType before e.first.toValue.type t ∧ (∀ c, ¬ s.HasType t c) ∧
        (((∃ v, applySteps z e.countingUnit e.first.toValue before = .ok v ∧ v.type = t) ∧
            e.result z = .error (s.typeError t)) ∨
          ∃ f, applySteps z e.countingUnit e.first.toValue before = .error (.outOfRange f) ∧
            e.result z = .error (.outOfRange f)))) ∧
    (¬ e.OnCalendar z ↔ ∃ i, e.result z = .error (.offCalendar i)) ∧
    (∀ (unit : TimeUnit) (left : Value) (s : Step) (t : ValueType), s.HasType left.type t →
      (∀ direction, s.operator ≠ .sum direction) →
        ((∃ v, s.apply z unit left = .ok v) ↔ ¬ s.OffCalendar z unit left)) := by
  refine ⟨?_, applySteps_eq_offCalendar_iff.symm, ?_⟩
  · intro hclock
    constructor
    · intro t ht
      exact applySteps_of_haveType ht rfl hclock
    · intro hnone
      obtain ⟨before, s, after, t, hsteps, hbefore, hs⟩ := exists_first_misfit hnone
      refine ⟨before, s, after, t, hsteps, hbefore, hs, ?_⟩
      rw [OnCalendar, hsteps] at hclock
      rw [result, hsteps]
      exact applySteps_of_misfit hbefore hs hclock
  · intro unit left s t ht hsum
    constructor
    · rintro ⟨v, hv⟩ hoff
      obtain ⟨i, hi⟩ := Step.apply_of_offCalendar hoff
      rw [hv] at hi
      cases hi
    · intro hoff
      rcases Step.apply_of_hasType ht rfl hoff with ⟨v, hv, -⟩ | ⟨direction, -, hop, -⟩
      · exact ⟨v, hv⟩
      · exact absurd hop (hsum direction)

/-- In the last nine hours of the calendar no days are counted in Tokyo, where it is over. -/
example : (Expression.mk (.instant ⟨⟨8210266876799, 0, by decide⟩, 0⟩)
    [⟨.difference, .instant ⟨⟨8210266876799, 0, by decide⟩, 0⟩, "+262142-12-31T23:59:59Z"⟩]
    (some (.unit .days))).result Zone.tokyo =
      .error (.offCalendar ⟨⟨8210266876799, 0, by decide⟩, 32400⟩) := by
  decide +kernel

end Expression

end Almanac

import Almanac.Proofs.Shown
import Almanac.Proofs.Soundness
import Almanac.Zone.America

set_option relaxedAutoImplicit false
set_option autoImplicit false

/-!
# A format shows what is computed

A format at the end of an expression does not change what is computed. After a sum the result is the
same and only written in another way, and after a comparison no format is taken. After a difference
the format sets the unit in which all differences of the expression are counted, but of a count
nothing more is computed, so that only the last one is ever seen. What was a number of milliseconds
is then a number of the unit.

## Main definitions

* `Almanac.TimeUnit.Recounts` — what becomes of a run of steps when it counts in a unit.
* `Almanac.FormatEffect` — what becomes of an evaluation when a format is added.

## Main results

* `Almanac.ofWords_append_format` — how words with a format are read.
* `Almanac.Step.apply_recounts`, `Almanac.applySteps_recounts` — what one step does in a unit, and
  what steps one after the other do.
* `Almanac.evaluate_append_format` — what a format changes.
-/

namespace Almanac

/-- A value, written as it is. -/
def Value.plain (v : Value) : Evaluated :=
  ⟨v, v.text⟩

/-- What becomes of an outcome in milliseconds when a unit is counted in their place. -/
inductive TimeUnit.Recounts (u : TimeUnit) : Except Error Value → Except Error Value → Prop
  /-- What is not a count stays the same, and so does a failure. -/
  | same {x : Except Error Value} (h : ∀ n, x ≠ .ok (.count n)) : Recounts u x x
  /-- Of elapsed time there are as many as fit into the milliseconds. -/
  | elapsed {per : Int} (h : u.span = .fixed per) (m : Int) :
    Recounts u (.ok (.count m)) (.ok (.count (m.tdiv per)))
  /-- Months and days are counted on the clock, whatever the milliseconds are. -/
  | calendar (h : u.span.OnWall) (m n : Int) : Recounts u (.ok (.count m)) (.ok (.count n))
  /-- A clock on which months or days are counted may be outside the calendar. -/
  | offCalendar (h : u.span.OnWall) (x : Except Error Value) (i : Instant) :
    Recounts u x (.error (.offCalendar i))

/-- What becomes of an evaluation when a format is added, by the last operator. -/
inductive FormatEffect (f : String) :
    Operator → Except Error Evaluated → Except Error Evaluated → Prop
  /-- A sum that is a date is the same date, written as the format says, if it can be. -/
  | date (direction : Direction) (i : Instant) :
    FormatEffect f (.sum direction) (.ok (Value.instant i).plain)
      ((i.render f).map fun text => ⟨.instant i, text⟩)
  /-- For a sum that is a duration there is no format. -/
  | duration (direction : Direction) (d : Duration) :
    FormatEffect f (.sum direction) (.ok (Value.duration d).plain)
      (.error (.invalidFormat (.notForDates f .duration)))
  /-- A sum that fails does so in the same way. -/
  | sumFails (direction : Direction) (err : Error) :
    FormatEffect f (.sum direction) (.error err) (.error err)
  /-- After a comparison there is no format. -/
  | comparison (c : Comparison) (x : Except Error Evaluated) :
    FormatEffect f (.comparison c) x (.error (.formatOnComparison f))
  /-- After a difference a word for no unit is no format. -/
  | unknownUnit (h : TimeUnit.ofWord? f = none) (x : Except Error Evaluated) :
    FormatEffect f .difference x (.error (.unknownUnit f))
  /-- A difference is counted in the unit. -/
  | unit {u : TimeUnit} (h : TimeUnit.ofWord? f = some u) {x y : Except Error Value}
      (hxy : u.Recounts x y) : FormatEffect f .difference (x.map Value.plain) (y.map Value.plain)

/-- A number of milliseconds becomes the number of units of elapsed time that fit into them. -/
lemma FormatEffect.eq_ok_of_count {f : String} {x y : Except Error Evaluated}
    (h : FormatEffect f .difference x y) {u : TimeUnit} (hu : TimeUnit.ofWord? f = some u)
    {per : Int} (hper : u.span = .fixed per) {m : Int} (hx : x = .ok (Value.count m).plain) :
    y = .ok (Value.count (m.tdiv per)).plain := by
  cases h with
  | unknownUnit hnone => rw [hu] at hnone; cases hnone
  | @unit u' hu' x y hxy =>
    obtain rfl : u = u' := Option.some.inj (hu.symm.trans hu')
    obtain ⟨v, rfl, hv⟩ := map_eq_ok_iff.mp hx
    obtain rfl : v = .count m := congrArg Evaluated.result hv
    cases hxy with
    | same hcount => exact absurd rfl (hcount m)
    | elapsed hper' =>
      obtain rfl : per = _ := Span.fixed.inj (hper.symm.trans hper')
      rfl
    | calendar hwall => rw [hper] at hwall; exact hwall.elim
    | offCalendar hwall => rw [hper] at hwall; exact hwall.elim

/-! ## Reading with a format -/

section Reading

variable {p : Present} {words : List String} (hlast : words.getLast? ≠ some formatWord)
  (hbefore : words.dropLast.getLast? ≠ some formatWord)

include hlast hbefore

/-- Words without a format are read as a chain. -/
lemma ofWords_unformatted : Expression.ofWords p words =
    (p.chainOf words).map fun chain => ⟨chain.1, chain.2, none⟩ := by
  have hformat := announcedFormat_eq_none_iff.mpr hbefore
  rw [ofWords_of_not_dangling fun h => hlast h.2, hformat, chainWords_of_unannounced hformat]
  cases p.chainOf words <;> rfl

/-- Words with a format are read as those before it are, and the format as the last step has it. -/
theorem ofWords_append_format (f : String) : Expression.ofWords p (words ++ [formatWord, f]) = do
    let e ← Expression.ofWords p words
    let format ← resultFormat e.steps (some f)
    return { e with format } := by
  have hdangling : ¬ Dangling (words ++ [formatWord, f]) := by simp [Dangling]
  rw [ofWords_of_not_dangling hdangling, ofWords_unformatted hlast hbefore, chainWords_append,
    announcedFormat_append]
  cases p.chainOf words <;> rfl

/-- An expression without a format ends in a step with the last operator. -/
lemma exists_last_of_ofWords {e : Expression} (h : Expression.ofWords p words = .ok e) :
    e.format = none ∧
      ∃ s, e.steps.getLast? = some s ∧ lastOperator? words = some s.operator := by
  rw [ofWords_unformatted hlast hbefore] at h
  obtain ⟨⟨first, steps⟩, hchain, rfl⟩ := map_eq_ok_iff.mp h
  exact ⟨rfl, exists_last_of_chainOf hchain⟩

end Reading

/-! ## Counting in another unit -/

section Recounting

variable {z : Zone} {u : TimeUnit}

/-- A failure stays the same. -/
lemma TimeUnit.Recounts.error (u : TimeUnit) (err : Error) :
    u.Recounts (.error err) (.error err) :=
  .same fun n h => by cases h

/-- The count between two instants, in a unit in place of milliseconds. -/
lemma Zone.countBetween_recounts (z : Zone) (u : TimeUnit) (a b : Instant) :
    u.Recounts ((z.countBetween a b .milliseconds).map .count)
      ((z.countBetween a b u).map .count) := by
  rcases u.span.onWall_or_fixed with hwall | ⟨per, hper⟩
  · obtain ⟨m, hm⟩ : ∃ m : Int, z.countBetween a b .milliseconds = .ok m := countBetween_ok nofun
    rw [hm]
    by_cases hclock : z.Countable u a b
    · obtain ⟨n, hn⟩ := countBetween_ok hclock
      rw [hn]
      exact .calendar hwall m n
    · obtain ⟨i, hi⟩ := countBetween_of_not_countable hclock
      rw [hi]
      exact .offCalendar hwall _ i
  · have hmilli : TimeUnit.milliseconds.span = .fixed 1 := rfl
    unfold countBetween
    rw [countUpTo_fixed z hper, countUpTo_fixed z hper, countUpTo_fixed z hmilli,
      countUpTo_fixed z hmilli, Int.tdiv_one, Int.tdiv_one]
    split
    · exact .elapsed hper _
    · exact .elapsed hper _

/-- A sum is a date or a duration. -/
lemma Value.eq_of_add {left v : Value} {direction : Direction} {right : Operand} {word : String}
    (h : left.add z direction right word = .ok v) :
    (∃ i, v = .instant i) ∨ ∃ d, v = .duration d := by
  cases right with
  | instant i => cases h
  | duration step =>
    cases left with
    | instant i =>
      obtain ⟨moved, -, rfl⟩ := map_eq_ok_iff.mp h
      exact Or.inl ⟨moved, rfl⟩
    | duration d =>
      obtain ⟨sum, -, rfl⟩ := map_eq_ok_iff.mp h
      exact Or.inr ⟨sum, rfl⟩
    | truth b => cases h
    | count n => cases h

/-- What one step does when a unit is counted in place of milliseconds.

**Proof sketch.** Only a difference of two instants depends on the unit, and only it is a count. -/
theorem Step.apply_recounts (left : Value) (s : Step) :
    u.Recounts (s.apply z .milliseconds left) (s.apply z u left) := by
  obtain ⟨operator, operand, word⟩ := s
  cases operator with
  | sum direction =>
    refine .same fun n h => ?_
    rcases Value.eq_of_add h with ⟨i, hi⟩ | ⟨d, hd⟩
    · cases hi
    · cases hd
  | comparison c =>
    refine .same fun n h => ?_
    obtain ⟨_, -, htruth⟩ := bind_eq_ok_iff.mp h
    cases htruth
  | difference =>
    cases left with
    | instant a =>
      cases operand with
      | instant b =>
        rw [Zone.apply_difference, Zone.apply_difference]
        exact Zone.countBetween_recounts z u a b
      | duration d => exact .error u _
    | duration d => exact .error u _
    | truth b => exact .error u _
    | count n => exact .error u _

/-- No step takes a count. -/
lemma Step.apply_count (s : Step) (n : Int) :
    s.apply z u (.count n) = .error (s.typeError .count) :=
  apply_of_not_hasType nofun

/-- Steps after a count fail, unless there are none. -/
lemma applySteps_recounts_of_count {m n : Int} (h : u.Recounts (.ok (.count m)) (.ok (.count n)))
    (steps : List Step) :
    u.Recounts (applySteps z .milliseconds (.count m) steps) (applySteps z u (.count n) steps) := by
  cases steps with
  | nil => exact h
  | cons s rest =>
    rw [applySteps, applySteps, s.apply_count, s.apply_count]
    exact .error u _

/-- What steps one after the other do when a unit is counted in place of milliseconds.

**Proof sketch.** Induction on the steps. As long as there is no count the unit makes no difference,
and a count is the last value there is. -/
theorem applySteps_recounts {left : Value} (hleft : ∀ n, left ≠ .count n) (steps : List Step) :
    u.Recounts (applySteps z .milliseconds left steps) (applySteps z u left steps) := by
  induction steps generalizing left with
  | nil => exact .same fun n h => hleft n (Except.ok.inj h)
  | cons s rest ih =>
    rw [applySteps, applySteps]
    have hstep : u.Recounts (s.apply z .milliseconds left) (s.apply z u left) :=
      Step.apply_recounts left s
    generalize s.apply z .milliseconds left = x, s.apply z u left = y at hstep
    cases hstep with
    | same h =>
      cases x with
      | error err => exact .error u err
      | ok v => exact ih fun n hn => h n (congrArg Except.ok hn)
    | elapsed h m => exact applySteps_recounts_of_count (.elapsed h m) rest
    | calendar h m n => exact applySteps_recounts_of_count (.calendar h m n) rest
    | offCalendar h x i => exact .offCalendar h _ i

/-- A value that steps come to is what the last one comes to. -/
lemma exists_apply_of_applySteps {left v : Value} {steps : List Step} {s : Step}
    (hs : steps.getLast? = some s) (h : applySteps z u left steps = .ok v) :
    ∃ w, s.apply z u w = .ok v := by
  obtain ⟨before, rfl⟩ := List.getLast?_eq_some_iff.mp hs
  rw [applySteps_append] at h
  obtain ⟨w, -, hw⟩ := bind_eq_ok_iff.mp h
  obtain ⟨_, happly, hend⟩ := bind_eq_ok_iff.mp hw
  cases hend
  exact ⟨w, happly⟩

end Recounting

/-! ## Evaluation with a format -/

namespace Expression

/-- What an expression comes to, and how it is shown. -/
def evaluated (e : Expression) (z : Zone) : Except Error Evaluated :=
  e.result z >>= fun v => (v.render e.format).map fun text => ⟨v, text⟩

variable {e : Expression} {z : Zone}

/-- Without a format a value is written as it is, and differences are in milliseconds. -/
lemma evaluated_unformatted (h : e.format = none) :
    e.evaluated z = (applySteps z .milliseconds e.first.toValue e.steps).map Value.plain := by
  have hrender : ∀ v : Value, v.render none = .ok v.text := fun v => by cases v <;> rfl
  rw [evaluated, result, countingUnit, h]
  simp only [hrender]
  cases applySteps z .milliseconds e.first.toValue e.steps <;> rfl

/-- With a unit a value is written as it is, and differences are in the unit. -/
lemma evaluated_unit (u : TimeUnit) : evaluated { e with format := some (.unit u) } z =
    (applySteps z u e.first.toValue e.steps).map Value.plain := by
  have hrender : ∀ v : Value, v.render (some (.unit u)) = .ok v.text := fun v => by cases v <;> rfl
  rw [evaluated, result, countingUnit]
  simp only [hrender]
  cases applySteps z u e.first.toValue e.steps <;> rfl

/-- A sum that is evaluated with a format is the sum without it, written in another way. -/
lemma formatEffect_of_sum {s : Step} {direction : Direction} (hformat : e.format = none)
    (hs : e.steps.getLast? = some s) (hsum : s.operator = .sum direction) (f : String) :
    FormatEffect f (.sum direction) (e.evaluated z)
      (evaluated { e with format := some (.template f) } z) := by
  rw [evaluated_unformatted hformat, evaluated]
  simp only [result, countingUnit]
  cases hvalue : applySteps z .milliseconds e.first.toValue e.steps with
  | error err => exact .sumFails direction err
  | ok v =>
    obtain ⟨w, hw⟩ := exists_apply_of_applySteps hs hvalue
    rw [Step.apply, hsum] at hw
    rcases Value.eq_of_add hw with ⟨i, rfl⟩ | ⟨d, rfl⟩
    · exact .date direction i
    · exact .duration direction d

/-- A difference that is evaluated with a unit is counted in the unit. -/
lemma formatEffect_of_unit {u : TimeUnit} {f : String} (hformat : e.format = none)
    (hu : TimeUnit.ofWord? f = some u) :
    FormatEffect f .difference (e.evaluated z)
      (evaluated { e with format := some (.unit u) } z) := by
  have hfirst : ∀ n, e.first.toValue ≠ .count n := by
    intro n
    cases e.first <;> exact Value.noConfusion
  rw [evaluated_unformatted hformat, evaluated_unit]
  exact .unit hu (applySteps_recounts hfirst e.steps)

end Expression

/-- To evaluate words is to read them and to evaluate what is read. -/
lemma evaluate_eq (p : Present) (words : List String) :
    evaluate p words = Expression.ofWords p words >>= fun e => e.evaluated p.zone := by
  rw [evaluate]
  cases Expression.ofWords p words with
  | error err => rfl
  | ok e =>
    simp only [bind, Except.bind, Expression.evaluated]
    cases e.result p.zone with
    | error err => rfl
    | ok v => cases v.render e.format <;> rfl

/-- A format does not change what is computed: words that are no expression are reported as they are
without it, and of an expression its last operator tells what becomes of the result. -/
theorem evaluate_append_format (p : Present) (f : String) {words : List String}
    (hlast : words.getLast? ≠ some formatWord)
    (hbefore : words.dropLast.getLast? ≠ some formatWord) :
    (∀ err, Expression.ofWords p words = .error err →
      evaluate p words = .error err ∧ evaluate p (words ++ [formatWord, f]) = .error err) ∧
    ∀ e, Expression.ofWords p words = .ok e → ∃ op, lastOperator? words = some op ∧
      FormatEffect f op (evaluate p words) (evaluate p (words ++ [formatWord, f])) := by
  rw [evaluate_eq, evaluate_eq, ofWords_append_format hlast hbefore]
  refine ⟨fun err herr => ?_, fun e he => ?_⟩
  · rw [herr]
    exact ⟨rfl, rfl⟩
  · obtain ⟨hformat, s, hs, hop⟩ := exists_last_of_ofWords hlast hbefore he
    refine ⟨s.operator, hop, ?_⟩
    rw [he]
    simp only [resultFormat, hs, bind, Except.bind]
    cases hoperator : s.operator with
    | sum direction => exact Expression.formatEffect_of_sum hformat hs hoperator f
    | comparison c => exact .comparison c _
    | difference =>
      simp only [formatAfter]
      cases hu : TimeUnit.ofWord? f with
      | none => exact .unknownUnit hu _
      | some u => exact Expression.formatEffect_of_unit hformat hu

/-- On the day on which clocks are set forward in New York 11 hours and a half pass until half past
12. -/
theorem evaluate_append_format_hours :
    ∃ p, p.zone = Zone.newYork ∧
      evaluate p ["2026-03-08", "diff", "2026-03-08T12:30"] = .ok ⟨.count 41400000, "41400000"⟩ ∧
      evaluate p ["2026-03-08", "diff", "2026-03-08T12:30", "to", "h"] = .ok ⟨.count 11, "11"⟩ := by
  let anchor := Zone.newYork.express ⟨1772895600, 0, by decide⟩
  let p : Present := ⟨Zone.newYork, anchor, anchor, anchor, anchor⟩
  have hvalue : evaluate p ["2026-03-08", "diff", "2026-03-08T12:30"] =
      .ok (Value.count 41400000).plain := by
    decide +kernel
  obtain ⟨hfails, hcomes⟩ := @evaluate_append_format p "h" ["2026-03-08", "diff", "2026-03-08T12:30"]
    (by decide) (by decide)
  refine ⟨p, rfl, hvalue, ?_⟩
  cases hread : Expression.ofWords p ["2026-03-08", "diff", "2026-03-08T12:30"] with
  | error err =>
    rw [(hfails err hread).1] at hvalue
    cases hvalue
  | ok e =>
    obtain ⟨op, hop, heffect⟩ := hcomes e hread
    obtain rfl : Operator.difference = op := Option.some.inj hop
    exact heffect.eq_ok_of_count (by decide : TimeUnit.ofWord? "h" = some .hours) rfl hvalue

end Almanac

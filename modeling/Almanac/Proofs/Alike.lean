import Almanac.Evaluation
import Almanac.Proofs.Grammar
import Mathlib.Data.List.Forall2
import Mathlib.Data.Option.Basic

set_option relaxedAutoImplicit false
set_option autoImplicit false

/-!
# Evaluations side by side

Two evaluations are alike if both come to a value, and the values are related, or both fail for the
same cause. What is alike stays alike in the stages that follow: operands that are alike make steps
that are, steps that are alike take related values to results that are, and so do many of them.

## Main definitions

* `Almanac.Error.SameCause` — errors with the same cause, whatever else they tell.
* `Almanac.Alike` — evaluations that are alike.
* `Almanac.Step.Alike`, `Almanac.Expression.Alike` — steps and expressions with related operands.
* `Almanac.ChainsAlike`, `Almanac.WordsAlike` — words that are alike, place by place.

## Main results

* `Almanac.Alike.bind` — what is alike stays alike.
* `Almanac.stepsOf_alike`, `Almanac.chainOf_alike`, `Almanac.ofWords_alike_of_wordsAlike` — reading
  words of which the operands are alike.
* `Almanac.applySteps_alike` — steps one after the other, if each keeps values alike.
* `Almanac.evaluate_alike_of_wordsAlike` — evaluating words that denote the same.
-/

namespace Almanac

/-- Two errors have the same cause. They may tell different things of it. -/
def Error.SameCause (e f : Error) : Prop := e.ctorIdx = f.ctorIdx

/-- Two evaluations come to related values, or fail for the same cause. -/
inductive Alike {α β : Type} (R : α → β → Prop) : Except Error α → Except Error β → Prop
  | ok {a : α} {b : β} (h : R a b) : Alike R (.ok a) (.ok b)
  | error {e f : Error} (h : e.SameCause f) : Alike R (.error e) (.error f)

namespace Alike

variable {α β γ δ : Type} {R : α → β → Prop} {S : γ → δ → Prop} {x : Except Error α}
  {y : Except Error β}

/-- What is alike stays alike. -/
lemma bind {f : α → Except Error γ} {g : β → Except Error δ} (h : Alike R x y)
    (hfg : ∀ a b, R a b → Alike S (f a) (g b)) : Alike S (x >>= f) (y >>= g) := by
  cases h with
  | ok h => exact hfg _ _ h
  | error h => exact .error h

/-- Values that are related are mapped to values that are. -/
lemma map {f : α → γ} {g : β → δ} (h : Alike R x y) (hfg : ∀ a b, R a b → S (f a) (g b)) :
    Alike S (x.map f) (y.map g) := by
  cases h with
  | ok h => exact .ok (hfg _ _ h)
  | error h => exact .error h

/-- An evaluation is like itself, if its value is related to itself. -/
lemma refl {R : α → α → Prop} (x : Except Error α) (h : ∀ a, x = .ok a → R a a) : Alike R x x := by
  cases x with
  | error e => exact .error rfl
  | ok a => exact .ok (h a rfl)

/-- An evaluation that is like one that comes to a value comes to it as well. -/
lemma eq_ok {y : Except Error α} {a : α} (h : Alike Eq (.ok a) y) : y = .ok a := by
  cases h with
  | ok h => rw [h]

/-- What the first of two evaluations that are alike comes to. -/
lemma with_eq (h : Alike R x y) : Alike (fun a b => R a b ∧ x = .ok a) x y := by
  cases h with
  | ok h => exact .ok ⟨h, rfl⟩
  | error h => exact .error h

end Alike

/-! ## Reading -/

/-- Two steps have the same operator and related operands. -/
structure Step.Alike (R : Operand → Operand → Prop) (s t : Step) : Prop where
  operator : s.operator = t.operator
  operand : R s.operand t.operand

/-- Two expressions have related operands, the same operators and the same format. -/
structure Expression.Alike (R : Operand → Operand → Prop) (e f : Expression) : Prop where
  first : R e.first f.first
  steps : List.Forall₂ (Step.Alike R) e.steps f.steps
  format : e.format = f.format

section Reading

variable {p q : Present} {R : Operand → Operand → Prop}

/-- An operator and an operand make steps that are alike, if the words for the operator agree. -/
lemma stepOf_alike {spelling spelling' word word' : String}
    (hop : Operator.ofSpelling? spelling = Operator.ofSpelling? spelling')
    (ho : Alike R (p.operandOf word) (q.operandOf word')) :
    Alike (Step.Alike R) (p.stepOf spelling word) (q.stepOf spelling' word') := by
  have hoperator : Alike Eq (operatorOf spelling) (operatorOf spelling') := by
    unfold operatorOf
    rw [← hop]
    cases Operator.ofSpelling? spelling with
    | none => exact .error rfl
    | some op => exact .ok rfl
  refine hoperator.bind ?_
  rintro op _ rfl
  exact ho.bind fun _ _ h => .ok ⟨rfl, h⟩

/-- Words of which the operators agree and the operands are alike make steps that are.

**Proof sketch.** Induction on the words, two at a time. -/
lemma stepsOf_alike {words words' : List String} (hlength : words.length = words'.length)
    (hop : ∀ i a b, words[2 * i]? = some a → words'[2 * i]? = some b →
      Operator.ofSpelling? a = Operator.ofSpelling? b)
    (ho : ∀ i a b, words[2 * i + 1]? = some a → words'[2 * i + 1]? = some b →
      Alike R (p.operandOf a) (q.operandOf b)) :
    Alike (List.Forall₂ (Step.Alike R)) (p.stepsOf words) (q.stepsOf words') := by
  match words, words', hlength with
  | [], [], _ => exact .ok .nil
  | [a], [b], _ =>
    have hspelling := hop 0 a b rfl rfl
    simp only [Present.stepsOf, operatorOf, hspelling]
    cases Operator.ofSpelling? b with
    | none => exact .error rfl
    | some op => exact .error rfl
  | a :: c :: rest, b :: d :: rest', hlength =>
    simp only [Present.stepsOf]
    refine (stepOf_alike (hop 0 a b rfl rfl) (ho 0 c d rfl rfl)).bind fun s t hst => ?_
    have hrest : rest.length = rest'.length := by simpa using hlength
    have hsteps := stepsOf_alike hrest (fun i => hop (i + 1)) (fun i => ho (i + 1))
    exact hsteps.bind fun _ _ h => .ok (.cons hst h)

/-- The last steps of steps that are alike have the same operator, so that a format means the
same after both. -/
lemma resultFormat_eq {steps steps' : List Step} (h : List.Forall₂ (Step.Alike R) steps steps')
    (format : Option String) : resultFormat steps format = resultFormat steps' format := by
  have hlast : steps.getLast?.map Step.operator = steps'.getLast?.map Step.operator := by
    induction h with
    | nil => rfl
    | @cons s t rest rest' hst hrest ih =>
      cases hrest with
      | nil => exact congrArg some hst.operator
      | cons hnext hlater => simpa [List.getLast?_cons_cons] using ih
  cases format with
  | none => rfl
  | some f =>
    simp only [resultFormat]
    cases hs : steps.getLast? with
    | none =>
      rw [hs, Option.map_none, eq_comm, Option.map_eq_none_iff] at hlast
      rw [hlast]
    | some s =>
      rw [hs, Option.map_some, eq_comm, Option.map_eq_some_iff] at hlast
      obtain ⟨t, ht, hoperator⟩ := hlast
      rw [ht]
      simp only [hoperator]

/-- Formats that mean the same after the last step are the same format of the result. -/
lemma resultFormat_alike {steps : List Step} {format format' : Option String}
    (h : ∀ s, steps.getLast? = some s → Option.Rel (fun f f' =>
      Almanac.Alike Eq (formatAfter s.operator f) (formatAfter s.operator f')) format format') :
    Almanac.Alike Eq (resultFormat steps format) (resultFormat steps format') := by
  cases hs : steps.getLast? with
  | none =>
    have hnone : ∀ f, resultFormat steps f = .ok none := by
      intro f
      cases f with
      | none => rfl
      | some f => simp only [resultFormat, hs]
    rw [hnone, hnone]
    exact .ok rfl
  | some s =>
    cases h s hs with
    | none => exact .ok rfl
    | some hformat =>
      simp only [resultFormat, hs]
      exact hformat.map fun _ _ heq => congrArg some heq

/-- Two chains of words are alike: the words at each place are the same operator or none, and the
words at even places denote related operands or nothing. -/
structure ChainsAlike (R : Operand → Operand → Prop) (p q : Present) (chain chain' : List String) :
    Prop where
  operators : chain.map Operator.ofSpelling? = chain'.map Operator.ofSpelling?
  operands : ∀ i a b, i % 2 = 0 → chain[i]? = some a → chain'[i]? = some b →
    Alike R (p.operandOf a) (q.operandOf b)

/-- Two lists of words are alike: their chains are, both announce a format or neither does, and the
formats mean the same after the last operator. -/
structure WordsAlike (R : Operand → Operand → Prop) (p q : Present) (words words' : List String) :
    Prop where
  chain : ChainsAlike R p q (chainWords words) (chainWords words')
  dangling : Dangling words ↔ Dangling words'
  format : ∀ op, lastOperator? (chainWords words) = some op →
    Option.Rel (fun f f' => Alike Eq (formatAfter op f) (formatAfter op f'))
      (announcedFormat words) (announcedFormat words')

section Chains

variable {chain chain' : List String} (h : ChainsAlike R p q chain chain')

include h

/-- Chains that are alike have the same length. -/
lemma ChainsAlike.length_eq : chain.length = chain'.length := by
  simpa using congrArg List.length h.operators

/-- Words at one place of chains that are alike are the same operator, or none. -/
lemma ChainsAlike.ofSpelling?_eq {i : Nat} {a b : String} (ha : chain[i]? = some a)
    (hb : chain'[i]? = some b) : Operator.ofSpelling? a = Operator.ofSpelling? b := by
  have hplace := congrArg (·[i]?) h.operators
  simpa [ha, hb] using hplace

/-- Of chains that are alike both end in an operator or neither does. -/
lemma ChainsAlike.endsInOperator_iff : EndsInOperator chain ↔ EndsInOperator chain' := by
  have hmap : ∀ {ws : List String}, EndsInOperator ws ↔
      ∃ op, (ws.map Operator.ofSpelling?).getLast? = some (some op) := by
    intro ws
    simp only [EndsInOperator, List.getLast?_map, Option.map_eq_some_iff]
    exact exists_comm
  rw [hmap, hmap, h.operators]

/-- Chains that are alike fall into a head and a rest alike. -/
lemma headAndRest_alike : Alike (fun a b => chain = a.1 :: a.2 ∧ chain' = b.1 :: b.2)
    (headAndRest chain) (headAndRest chain') := by
  by_cases hend : EndsInOperator chain
  · obtain ⟨last, op, hlast, hop⟩ := hend
    obtain ⟨last', op', hlast', hop'⟩ := h.endsInOperator_iff.mp ⟨last, op, hlast, hop⟩
    rw [headAndRest_of_last hlast hop, headAndRest_of_last hlast' hop']
    exact .error rfl
  · have hend' : ¬ EndsInOperator chain' := h.endsInOperator_iff.not.mp hend
    unfold headAndRest
    rw [filter_getLast?_of_not_endsInOperator hend, filter_getLast?_of_not_endsInOperator hend']
    match chain, chain', h.length_eq with
    | [], [], _ => exact .error rfl
    | [a], [b], _ => exact .error rfl
    | a :: c :: rest, b :: d :: rest', _ => exact .ok ⟨rfl, rfl⟩

/-- Chains that are alike are read as operands and steps that are. -/
lemma chainOf_alike : Alike (fun a b => R a.1 b.1 ∧ List.Forall₂ (Step.Alike R) a.2 b.2)
    (p.chainOf chain) (q.chainOf chain') := by
  refine (headAndRest_alike h).bind ?_
  rintro ⟨first, rest⟩ ⟨first', rest'⟩ ⟨rfl, rfl⟩
  refine Alike.bind (h.operands 0 first first' rfl rfl rfl) fun o o' hfirst => ?_
  have hsteps : Alike (List.Forall₂ (Step.Alike R)) (p.stepsOf rest) (q.stepsOf rest') := by
    refine stepsOf_alike (by simpa using h.length_eq) ?_ ?_
    · intro i a b ha hb
      exact h.ofSpelling?_eq (i := 2 * i + 1) ha hb
    · intro i a b ha hb
      exact h.operands (2 * i + 2) a b (by omega) ha hb
  exact hsteps.bind fun _ _ hrest => .ok ⟨hfirst, hrest⟩

end Chains

/-- Lists of words that are alike are read as expressions that are. -/
theorem ofWords_alike_of_wordsAlike {words words' : List String} (h : WordsAlike R p q words words') :
    Alike (Expression.Alike R) (Expression.ofWords p words) (Expression.ofWords q words') := by
  by_cases hdangling : Dangling words
  · rw [ofWords_of_fault (.missingFormat hdangling),
      ofWords_of_fault (.missingFormat (h.dangling.mp hdangling))]
    exact .error rfl
  rw [ofWords_of_not_dangling hdangling, ofWords_of_not_dangling (h.dangling.not.mp hdangling)]
  refine (chainOf_alike h.chain).with_eq.bind ?_
  rintro ⟨o, steps⟩ ⟨o', steps'⟩ ⟨⟨hfirst, hsteps⟩, hchain⟩
  have hformat : Alike Eq (resultFormat steps (announcedFormat words))
      (resultFormat steps' (announcedFormat words')) := by
    rw [← resultFormat_eq hsteps]
    refine resultFormat_alike fun s hs => ?_
    obtain ⟨t, ht, hop⟩ := exists_last_of_chainOf hchain
    obtain rfl : t = s := Option.some.inj (ht.symm.trans hs)
    exact h.format _ hop
  refine hformat.bind ?_
  rintro format _ rfl
  exact .ok ⟨hfirst, hsteps, rfl⟩

/-- A list of words of which the operands are alike is read as expressions that are. -/
theorem ofWords_alike {words : List String}
    (ho : ∀ i word, (chainWords words)[i]? = some word → i % 2 = 0 →
      Alike R (p.operandOf word) (q.operandOf word)) :
    Alike (Expression.Alike R) (Expression.ofWords p words) (Expression.ofWords q words) := by
  refine ofWords_alike_of_wordsAlike ⟨⟨rfl, ?_⟩, Iff.rfl, ?_⟩
  · intro i a b heven ha hb
    obtain rfl : a = b := Option.some.inj (ha.symm.trans hb)
    exact ho i a ha heven
  · intro op _
    cases announcedFormat words with
    | none => exact .none
    | some f => exact .some (.refl _ fun _ _ => rfl)

end Reading

/-! ## Steps -/

/-- Steps that keep values alike do so one after the other.

**Proof sketch.** Induction on the steps. -/
theorem applySteps_alike {z z' : Zone} {unit : TimeUnit} {V : Value → Value → Prop}
    {S : Step → Step → Prop}
    (hstep : ∀ left left' s s', V left left' → S s s' →
      Alike V (s.apply z unit left) (s'.apply z' unit left'))
    {steps steps' : List Step} (h : List.Forall₂ S steps steps') {left left' : Value}
    (hleft : V left left') :
    Alike V (applySteps z unit left steps) (applySteps z' unit left' steps') := by
  induction h generalizing left left' with
  | nil => exact .ok hleft
  | cons hs hrest ih => exact (hstep _ _ _ _ hleft hs).bind fun _ _ hnext => ih hnext

/-! ## Evaluation -/

/-- Steps that differ in no more than the word that they keep of the operand come to the same, or
fail for the same cause. -/
lemma Step.apply_alike_of_eq {z : Zone} {unit : TimeUnit} (left : Value) {s t : Step}
    (h : Step.Alike Eq s t) :
    Almanac.Alike Eq (s.apply z unit left) (t.apply z unit left) := by
  obtain ⟨operator, operand, word⟩ := s
  obtain ⟨operator', operand', word'⟩ := t
  obtain ⟨rfl, rfl⟩ : operator = operator' ∧ operand = operand' := ⟨h.operator, h.operand⟩
  cases operator with
  | sum direction =>
    cases operand with
    | instant i => exact .error rfl
    | duration d => exact .refl _ fun _ _ => rfl
  | comparison c => exact .refl _ fun _ _ => rfl
  | difference => exact .refl _ fun _ _ => rfl

/-- Lists of words that are alike, and denote the same operands, come to the same and are shown
alike, or fail for the same cause. -/
theorem evaluate_alike_of_wordsAlike {p q : Present} (hzone : p.zone = q.zone)
    {words words' : List String} (h : WordsAlike Eq p q words words') :
    Alike Eq (evaluate p words) (evaluate q words') := by
  refine (ofWords_alike_of_wordsAlike h).bind fun e f hef => ?_
  have hunit : e.countingUnit = f.countingUnit := by
    rw [Expression.countingUnit, Expression.countingUnit, hef.format]
  have hresult : Alike Eq (e.result p.zone) (f.result q.zone) := by
    rw [Expression.result, Expression.result, hzone, hunit, hef.first]
    refine applySteps_alike ?_ hef.steps rfl
    rintro left _ s t rfl hst
    exact Step.apply_alike_of_eq left hst
  refine hresult.bind ?_
  rintro v _ rfl
  rw [hef.format]
  exact .refl _ fun _ _ => rfl

end Almanac

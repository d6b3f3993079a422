import Almanac.Evaluation
import Mathlib.Algebra.Ring.Int.Defs

set_option relaxedAutoImplicit false
set_option autoImplicit false

/-!
# Running sums

A chain of sums is a running sum: each step adds a number to what has been added before it, and is
refused when the number that comes out is not within bounds. What one step does to the number tells
what the chain does: it comes to the whole sum exactly if no sum on the way is out of bounds.

## Main definitions

* `Almanac.Summand` — a duration with the direction in which it is added.
* `Almanac.SumsWithin` — no sum on the way is out of bounds.
* `Almanac.Summand.Adds`, `Almanac.Summand.Refuses` — a step adds a number, and refuses to.

## Main results

* `Almanac.sumsWithin_cons` — the sums on the way, one by one.
* `Almanac.applySteps_of_adds` — steps that add numbers come to their sum.
* `Almanac.applySteps_of_refuses` — they fail if a sum on the way is out of bounds.
-/

namespace Almanac

/-! ## Summands -/

/-- A duration with the direction in which it is added, and as it is written. -/
structure Summand where
  direction : Direction
  duration : Duration
  /-- The duration as it was written. -/
  word : String
  deriving DecidableEq, Repr

/-- A direction is one way or the other. -/
@[simp] lemma Direction.natAbs_sign (direction : Direction) : direction.sign.natAbs = 1 := by
  cases direction <;> rfl

/-- A number with the sign of a direction is as large as without it. -/
lemma Direction.natAbs_sign_mul (direction : Direction) (n : Int) :
    (direction.sign * n).natAbs = n.natAbs := by
  rw [Int.natAbs_mul, natAbs_sign, Nat.one_mul]

/-- The step that adds a summand. -/
def Summand.step (s : Summand) : Step :=
  ⟨.sum s.direction, .duration s.duration, s.word⟩

/-! ## Sums on the way -/

/-- From a start on no sum on the way is out of bounds, the start and the whole sum included. -/
def SumsWithin (P : Int → Prop) (start : Int) (terms : List Int) : Prop :=
  ∀ before, before <+: terms → P (start + before.sum)

section SumsWithin

variable {P : Int → Prop} {n : Int}

/-- The start is within bounds. -/
lemma SumsWithin.start {terms : List Int} (h : SumsWithin P n terms) : P n := by
  have hnil := h [] List.nil_prefix
  rwa [List.sum_nil, Int.add_zero] at hnil

/-- Without terms there is the start alone. -/
@[simp] lemma sumsWithin_nil : SumsWithin P n [] ↔ P n := by
  refine ⟨SumsWithin.start, fun h before hbefore => ?_⟩
  rwa [List.prefix_nil.mp hbefore, List.sum_nil, Int.add_zero]

/-- After the start come the sums on the way from the next one. -/
lemma sumsWithin_cons {term : Int} {terms : List Int} :
    SumsWithin P n (term :: terms) ↔ P n ∧ SumsWithin P (n + term) terms := by
  constructor
  · refine fun h => ⟨h.start, fun before hbefore => ?_⟩
    have hcons := h (term :: before) (List.cons_prefix_cons.mpr ⟨rfl, hbefore⟩)
    rwa [List.sum_cons, ← Int.add_assoc] at hcons
  · rintro ⟨hstart, hlater⟩ before hbefore
    cases before with
    | nil => rwa [List.sum_nil, Int.add_zero]
    | cons first before =>
      obtain ⟨rfl, htail⟩ := List.cons_prefix_cons.mp hbefore
      rw [List.sum_cons, ← Int.add_assoc]
      exact hlater before htail

/-- The sums on the way are checked one by one. -/
instance decidableSumsWithin [DecidablePred P] :
    (n : Int) → (terms : List Int) → Decidable (SumsWithin P n terms)
  | _, [] => decidable_of_iff _ sumsWithin_nil.symm
  | n, term :: terms =>
    have := decidableSumsWithin (n + term) terms
    decidable_of_iff _ sumsWithin_cons.symm

end SumsWithin

/-! ## Steps that add -/

section Steps

variable (z : Zone) (unit : TimeUnit) (Stands : Int → Value → Prop) (P : Int → Prop)

/-- A step adds a term: from a value that stands for a number it comes to one that stands for the
sum, if that is within bounds. -/
def Summand.Adds (s : Summand) (term : Int) : Prop :=
  ∀ n v, Stands n v → P (n + term) → ∃ w, s.step.apply z unit v = .ok w ∧ Stands (n + term) w

/-- A step refuses to add a term: it is out of range if the sum is not within bounds. -/
def Summand.Refuses (s : Summand) (term : Int) : Prop :=
  ∀ n v, Stands n v → ¬ P (n + term) → ∃ f, s.step.apply z unit v = .error (.outOfRange f)

variable {z unit Stands P} {summands : List Summand} {term : Summand → Int} {n : Int} {v : Value}

/-- Steps that add terms come to the sum of them if no sum on the way is out of bounds.

**Proof sketch.** Induction on the summands: the first one comes to the first sum, from which the
others go on. -/
theorem applySteps_of_adds (hadds : ∀ s ∈ summands, s.Adds z unit Stands P (term s))
    (hv : Stands n v) (hwithin : SumsWithin P n (summands.map term)) :
    ∃ w, applySteps z unit v (summands.map Summand.step) = .ok w ∧
      Stands (n + (summands.map term).sum) w := by
  induction summands generalizing n v with
  | nil => exact ⟨v, rfl, by rwa [List.map_nil, List.sum_nil, Int.add_zero]⟩
  | cons s rest ih =>
    rw [List.forall_mem_cons] at hadds
    obtain ⟨-, hlater⟩ := sumsWithin_cons.mp hwithin
    obtain ⟨next, happly, hnext⟩ := hadds.1 n v hv hlater.start
    obtain ⟨w, hrest, hw⟩ := ih hadds.2 hnext hlater
    refine ⟨w, ?_, by rwa [List.map_cons, List.sum_cons, ← Int.add_assoc]⟩
    rw [List.map_cons, applySteps, happly]
    exact hrest

/-- Steps that add terms, or refuse to, are out of range if a sum on the way is out of bounds.

**Proof sketch.** Induction on the summands: the first one is refused, or it comes to the first sum
and the others are. -/
theorem applySteps_of_refuses (hadds : ∀ s ∈ summands, s.Adds z unit Stands P (term s))
    (hrefuses : ∀ s ∈ summands, s.Refuses z unit Stands P (term s)) (hv : Stands n v) (hn : P n)
    (hout : ¬ SumsWithin P n (summands.map term)) :
    ∃ f, applySteps z unit v (summands.map Summand.step) = .error (.outOfRange f) := by
  induction summands generalizing n v with
  | nil => exact absurd (sumsWithin_nil.mpr hn) hout
  | cons s rest ih =>
    rw [List.forall_mem_cons] at hadds hrefuses
    rw [List.map_cons, applySteps]
    by_cases hnext : P (n + term s)
    · obtain ⟨next, happly, hstands⟩ := hadds.1 n v hv hnext
      have hlater : ¬ SumsWithin P (n + term s) (rest.map term) :=
        fun h => hout (sumsWithin_cons.mpr ⟨hn, h⟩)
      rw [happly]
      exact ih hadds.2 hrefuses.2 hstands hnext hlater
    · obtain ⟨f, hf⟩ := hrefuses.1 n v hv hnext
      rw [hf]
      exact ⟨f, rfl⟩

end Steps

end Almanac

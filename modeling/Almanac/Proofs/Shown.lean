import Almanac.Proofs.Grammar
import Almanac.Proofs.Moves
import Almanac.Proofs.Operands

set_option relaxedAutoImplicit false
set_option autoImplicit false

/-!
# Instants on the clock of the zone

Whatever an expression is evaluated in, its instants have the offset of that zone at their moment,
wherever they come from: a text with an offset of its own, a reading of the wall clock, an anchor,
or a move. There are two ways to such an offset, from universal time and from the wall clock, and
in a regular zone they lead to the same one.

## Main definitions

* `Almanac.Zone.Shows`, `Almanac.Zone.ShowsValue` — an instant has the offset of a zone.

## Main results

* `Almanac.Zone.shows_of_resolve` — the instant of a reading has the offset of the zone.
* `Almanac.Present.ofNow_eq_ok` — what the anchors at a moment are.
* `Almanac.Step.showsValue_apply` — no step leads to another offset.
* `Almanac.Present.shows_of_evaluation` — no operand and no result on the way has another offset.
-/

namespace Almanac

/-! ## What evaluations come to -/

section Evaluations

variable {α β : Type} {x : Except Error α} {a : α} {b : β}

/-- One evaluation after another comes to a value if both do. -/
lemma bind_eq_ok_iff {f : α → Except Error β} :
    (x >>= f) = .ok b ↔ ∃ a, x = .ok a ∧ f a = .ok b := by
  cases x with
  | error e => exact ⟨nofun, nofun⟩
  | ok a =>
    constructor
    · intro h
      exact ⟨a, rfl, h⟩
    · rintro ⟨_, ⟨⟩, h⟩
      exact h

/-- An evaluation that is mapped comes to a value if it does. -/
lemma map_eq_ok_iff {f : α → β} : x.map f = .ok b ↔ ∃ a, x = .ok a ∧ f a = b := by
  cases x with
  | error e => exact ⟨nofun, nofun⟩
  | ok a => simp [Except.map]

/-- An evaluation of which the error is left out comes to the same values. -/
lemma toOption_eq_some_iff : x.toOption = some a ↔ x = .ok a := by
  cases x <;> simp [Except.toOption]

end Evaluations

/-! ## The offset of a zone -/

/-- The offset of an instant is the one that a zone has at its moment. -/
def Zone.Shows (z : Zone) (i : Instant) : Prop := z.express i.utc = i

instance (z : Zone) (i : Instant) : Decidable (z.Shows i) :=
  inferInstanceAs (Decidable (_ = _))

/-- A value that is an instant has the offset of a zone. -/
def Zone.ShowsValue (z : Zone) (v : Value) : Prop :=
  ∀ i, v = .instant i → z.Shows i

namespace Zone

variable {z : Zone}

/-- A moment that is expressed in a zone has its offset. -/
@[simp] lemma shows_express (utc : Reading) : z.Shows (z.express utc) := rfl

/-- Instants are values. -/
@[simp] lemma showsValue_instant {i : Instant} : z.ShowsValue (.instant i) ↔ z.Shows i :=
  ⟨fun h => h i rfl, fun h _ heq => Value.instant.inj heq ▸ h⟩

/-- No other values are instants. -/
lemma showsValue_of_kind {v : Value} (h : v.kind ≠ .date) : z.ShowsValue v := by
  rintro i rfl
  exact absurd rfl h

/-- The instant that a reading is resolved to has the offset of the zone. -/
theorem shows_of_resolve (hz : z.Regular) {r : Reading} {i : Instant} (h : z.resolve r = .ok i) :
    z.Shows i := by
  simp only [resolve] at h
  split at h
  · next found hfound =>
    cases h
    rcases Option.or_eq_some_iff.mp hfound with hshown | ⟨-, hskipped⟩
    · exact (reading_of_firstShowing? hz hshown).2
    · obtain ⟨s, -, hshown⟩ := Option.bind_eq_some_iff.mp hskipped
      exact (reading_of_firstShowing? hz hshown).2
  · cases h

/-! ## Where instants come from -/

/-- The instant of a text is a moment that is expressed in the zone, or a reading that is resolved
in it. -/
lemma instantOf?_eq_some {text : String} {i : Instant} (h : z.instantOf? text = some i) :
    (∃ utc, i = z.express utc) ∨ ∃ r, z.resolve r = .ok i := by
  simp only [instantOf?, Option.or_eq_some_iff, Option.map_eq_some_iff,
    Option.bind_eq_some_iff, toOption_eq_some_iff] at h
  rcases h with ⟨utc, -, rfl⟩ | ⟨-, ⟨r, -, hr⟩ | ⟨-, r, -, hr⟩⟩
  · exact Or.inl ⟨utc, rfl⟩
  · exact Or.inr ⟨r, hr⟩
  · exact Or.inr ⟨r, hr⟩

/-- The instant of a text has the offset of the zone. -/
lemma shows_of_instantOf? (hz : z.Regular) {text : String} {i : Instant}
    (h : z.instantOf? text = some i) : z.Shows i := by
  rcases instantOf?_eq_some h with ⟨utc, rfl⟩ | ⟨r, hr⟩
  · exact shows_express utc
  · exact shows_of_resolve hz hr

/-- An instant that is moved has the offset of the zone, whatever it had before. -/
lemma shows_of_move (hz : z.Regular) {start i : Instant} {direction : Direction} {step : Duration}
    (h : z.move start direction step = .ok i) : z.Shows i := by
  rcases move_eq_ok h with ⟨n, r, -, -, -, hr⟩ | ⟨n, r, -, -, -, hr⟩ | ⟨n, -, -, rfl⟩
  · exact shows_of_resolve hz hr
  · exact shows_of_resolve hz hr
  · exact shows_express _

end Zone

/-! ## Anchors and operands -/

namespace Present

/-- What the anchors at a moment are: the moment itself, and the beginnings of its day and of the
days before and after it. -/
theorem ofNow_eq_ok {z : Zone} {utc : Reading} {p : Present} (h : ofNow z utc = .ok p) :
    ∃ day, (z.reading (z.express utc)).InRange ∧ day = (z.reading (z.express utc)).day ∧
      InCalendar (day + 1) ∧ InCalendar (day - 1) ∧ p.zone = z ∧ p.now = z.express utc ∧
      z.startOfDay day = .ok p.today ∧ z.startOfDay (day + 1) = .ok p.tomorrow ∧
      z.startOfDay (day - 1) = .ok p.yesterday := by
  obtain ⟨wall, hwall, hrest⟩ := bind_eq_ok_iff.mp h
  obtain ⟨hrange, rfl⟩ := Zone.wallClock_eq_ok_iff.mp hwall
  simp only at hrest
  split at hrest
  · cases hrest
  · next hneighbours =>
    simp only [not_or, Classical.not_not] at hneighbours
    obtain ⟨today, htoday, hrest⟩ := bind_eq_ok_iff.mp hrest
    obtain ⟨tomorrow, htomorrow, hrest⟩ := bind_eq_ok_iff.mp hrest
    obtain ⟨yesterday, hyesterday, hrest⟩ := bind_eq_ok_iff.mp hrest
    cases hrest
    exact ⟨_, hrange, rfl, hneighbours.1, hneighbours.2, rfl, rfl, htoday, htomorrow, hyesterday⟩

variable {z : Zone} {utc : Reading} {p : Present}

/-- The anchors have the offset of the zone. -/
lemma shows_of_mem_anchors (hz : z.Regular) (hp : ofNow z utc = .ok p) :
    ∀ x ∈ p.anchors, z.Shows x := by
  obtain ⟨day, -, -, -, -, -, hnow, htoday, htomorrow, hyesterday⟩ := ofNow_eq_ok hp
  simp only [anchors, List.forall_mem_cons, List.not_mem_nil, false_imp_iff, implies_true, and_true]
  refine ⟨?_, Zone.shows_of_resolve hz htoday, Zone.shows_of_resolve hz htomorrow,
    Zone.shows_of_resolve hz hyesterday⟩
  rw [hnow]
  exact Zone.shows_express utc

/-- The operands have the offset of the zone. -/
lemma showsValue_of_operandOf (hz : z.Regular) (hp : ofNow z utc = .ok p) {word : String}
    {o : Operand} (h : p.operandOf word = .ok o) : z.ShowsValue o.toValue := by
  obtain ⟨-, -, -, -, -, hzone, -⟩ := ofNow_eq_ok hp
  cases p.operandOf_eq_ok_iff.mp h with
  | date hdate =>
    rw [hzone] at hdate
    exact Zone.showsValue_instant.mpr (Zone.shows_of_instantOf? hz hdate)
  | anchor hanchor =>
    have hmem := mem_anchors_of_ofWord? hanchor
    exact Zone.showsValue_instant.mpr (shows_of_mem_anchors hz hp _ hmem)
  | duration hduration => exact Zone.showsValue_of_kind (by simp [Operand.kind])

end Present

/-! ## Steps -/

section Steps

variable {z : Zone} {unit : TimeUnit}

/-- Comparisons and differences do not lead to instants. -/
lemma kind_of_apply {left v : Value} {s : Step} (hs : ∀ direction, s.operator ≠ .sum direction)
    (h : s.apply z unit left = .ok v) : v.kind ≠ .date := by
  obtain ⟨operator, operand, word⟩ := s
  cases operator with
  | sum direction => exact absurd rfl (hs direction)
  | comparison c =>
    obtain ⟨pair, -, hv⟩ := bind_eq_ok_iff.mp h
    cases hv
    exact Kind.noConfusion
  | difference =>
    obtain ⟨pair, -, hcount⟩ := bind_eq_ok_iff.mp h
    obtain ⟨n, -, hv⟩ := bind_eq_ok_iff.mp hcount
    cases hv
    exact Kind.noConfusion

/-- No step leads to an instant with another offset. -/
theorem Step.showsValue_apply (hz : z.Regular) {left v : Value} {s : Step}
    (h : s.apply z unit left = .ok v) : z.ShowsValue v := by
  obtain ⟨operator, operand, word⟩ := s
  cases operator with
  | comparison c => exact Zone.showsValue_of_kind (kind_of_apply (fun _ => Operator.noConfusion) h)
  | difference => exact Zone.showsValue_of_kind (kind_of_apply (fun _ => Operator.noConfusion) h)
  | sum direction =>
    cases operand with
    | instant i => cases h
    | duration step =>
      cases left with
      | instant i =>
        rw [Zone.apply_sum] at h
        obtain ⟨j, hmove, rfl⟩ := map_eq_ok_iff.mp h
        exact Zone.showsValue_instant.mpr (Zone.shows_of_move hz hmove)
      | duration d =>
        obtain ⟨sum, -, rfl⟩ := map_eq_ok_iff.mp h
        exact Zone.showsValue_of_kind Kind.noConfusion
      | truth b => cases h
      | count n => cases h

/-- Steps one after the other lead from an instant with the offset of the zone to no other.

**Proof sketch.** Induction on the steps: each leads to values with the offset of the zone. -/
lemma showsValue_applySteps (hz : z.Regular) {steps : List Step} {left v : Value}
    (hleft : z.ShowsValue left) (h : applySteps z unit left steps = .ok v) : z.ShowsValue v := by
  induction steps generalizing left with
  | nil =>
    cases h
    exact hleft
  | cons s rest ih =>
    obtain ⟨next, happly, hrest⟩ := bind_eq_ok_iff.mp h
    exact ih (Step.showsValue_apply hz happly) hrest

end Steps

/-! ## Evaluation -/

/-- In an evaluation in a regular zone every instant has the offset of the zone at its moment: each
operand that a word denotes, in an expression the first operand and those of the steps, and the
results of the steps up to any of them. -/
theorem Present.shows_of_evaluation {z : Zone} (hz : z.Regular) {utc : Reading} {p : Present}
    (hp : Present.ofNow z utc = .ok p) (words : List String) :
    (∀ word ∈ words, ∀ o, p.operandOf word = .ok o → z.ShowsValue o.toValue) ∧
    ∀ e, Expression.ofWords p words = .ok e →
      z.ShowsValue e.first.toValue ∧ (∀ s ∈ e.steps, z.ShowsValue s.operand.toValue) ∧
      ∀ n v, applySteps z e.countingUnit e.first.toValue (e.steps.take n) = .ok v →
        z.ShowsValue v := by
  refine ⟨fun word _ o ho => showsValue_of_operandOf hz hp ho, ?_⟩
  intro e he
  obtain ⟨-, hreading⟩ := isReadingOf_of_ofWords he
  obtain ⟨word, -, hfirst⟩ := hreading.first
  have hleft : z.ShowsValue e.first.toValue := showsValue_of_operandOf hz hp hfirst
  refine ⟨hleft, ?_, fun n v hv => showsValue_applySteps hz hleft hv⟩
  intro s hs
  obtain ⟨i, hi⟩ := List.getElem?_of_mem hs
  obtain ⟨-, -, -, -, hoperand⟩ := hreading.steps i s hi
  exact showsValue_of_operandOf hz hp hoperand

/-- A day after 2026-03-07 02:30 in New York clocks skip this reading. The sum is read an hour
later and has the offset of the summer, which the zone has from then on. -/
theorem Present.shows_of_evaluation_skipped :
    ∃ p e i, Present.ofNow Zone.newYork ⟨1772895600, 0, by decide⟩ = .ok p ∧
      Expression.ofWords p ["2026-03-07T02:30", "+", "1d", "diff", "today"] = .ok e ∧
      applySteps Zone.newYork e.countingUnit e.first.toValue (e.steps.take 1) = .ok (.instant i) ∧
      i = ⟨⟨1772955000, 0, by decide⟩, -14400⟩ ∧ Zone.newYork.Shows i := by
  have hz : Zone.newYork.Regular := by decide +kernel
  have hp : Present.ofNow Zone.newYork ⟨1772895600, 0, by decide⟩ = .ok
      ⟨Zone.newYork, ⟨⟨1772895600, 0, by decide⟩, -18000⟩, ⟨⟨1772859600, 0, by decide⟩, -18000⟩,
        ⟨⟨1772946000, 0, by decide⟩, -18000⟩, ⟨⟨1772773200, 0, by decide⟩, -18000⟩⟩ := by
    decide +kernel
  have he : Expression.ofWords
      ⟨Zone.newYork, ⟨⟨1772895600, 0, by decide⟩, -18000⟩, ⟨⟨1772859600, 0, by decide⟩, -18000⟩,
        ⟨⟨1772946000, 0, by decide⟩, -18000⟩, ⟨⟨1772773200, 0, by decide⟩, -18000⟩⟩
      ["2026-03-07T02:30", "+", "1d", "diff", "today"] = .ok
        ⟨.instant ⟨⟨1772868600, 0, by decide⟩, -18000⟩,
          [⟨.sum .forward, .duration ⟨⟨1000000000, by decide⟩, .days⟩, "1d"⟩,
            ⟨.difference, .instant ⟨⟨1772859600, 0, by decide⟩, -18000⟩, "today"⟩], none⟩ := by
    decide +kernel
  obtain ⟨-, -, hresults⟩ := (Present.shows_of_evaluation hz hp _).2 _ he
  refine ⟨_, _, _, hp, he, ?_, rfl, Zone.showsValue_instant.mp (hresults 1 _ ?_)⟩
  · decide +kernel
  · decide +kernel

end Almanac

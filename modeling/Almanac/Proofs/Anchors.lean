import Almanac.Proofs.Spelling
import Almanac.Proofs.Stamps

set_option relaxedAutoImplicit false
set_option autoImplicit false

/-!
# Anchors are names of instants

A word for an anchor stands for an instant and nothing more. What is written for the instant may
stand in its place, anywhere in an expression and as often as one likes, since it is read back as
that instant, on the clock of the zone. Without such a word an expression does not depend on the
moment at which it is evaluated.

## Main definitions

* `Almanac.Present.Restamped` — what may be written for a word for an anchor.

## Main results

* `Almanac.Present.inRange_of_mem_anchors` — the clock is in the calendar at each anchor.
* `Almanac.Present.operandOf_stamp` — the stamp of an anchor denotes it.
* `Almanac.evaluate_congr` — what an expression depends on.
* `Almanac.Present.evaluate_restamped` — anchors may be written out.
-/

namespace Almanac

/-! ## Anchors on the clock -/

/-- The clock at the instant of a reading in the calendar is in the calendar, even if it skips the
reading. -/
lemma Zone.inRange_of_resolve {z : Zone} (hz : z.Regular) {r : Reading} (hr : r.InRange)
    {i : Instant} (h : z.resolve r = .ok i) : (z.reading i).InRange := by
  rcases reading_of_resolve hz h with hshown | ⟨hskipped, hrange⟩
  · rwa [hshown]
  · rwa [hskipped]

/-- The clock of an instant with the offset of a zone is that of the zone. -/
lemma Zone.Shows.wall_eq {z : Zone} {i : Instant} (h : z.Shows i) : i.wall = z.reading i := by
  rw [reading, show z.express i.utc = i from h]

/-- The midnight of a day of the calendar is in the calendar. -/
lemma Reading.inRange_ofDay {day : Int} (h : InCalendar day) : (ofDay day 0).InRange := by
  have hday : (ofDay day 0).day = day := by
    simp only [ofDay, Reading.day]
    omega
  rwa [InRange, hday]

namespace Present

section Anchors

variable {z : Zone} {utc : Reading} {p : Present}

/-- The clock of each anchor is in the calendar. -/
lemma inRange_of_mem_anchors (hz : z.Regular) (hp : ofNow z utc = .ok p) :
    ∀ x ∈ p.anchors, x.wall.InRange := by
  obtain ⟨day, hrange, rfl, htomorrow, hyesterday, -, hnow, htodayIs, htomorrowIs, hyesterdayIs⟩ :=
    ofNow_eq_ok hp
  have hmidnight : ∀ {day : Int} {i : Instant}, InCalendar day → z.startOfDay day = .ok i →
      i.wall.InRange := by
    intro day i hday hi
    rw [(Zone.shows_of_resolve hz hi).wall_eq]
    exact Zone.inRange_of_resolve hz (Reading.inRange_ofDay hday) hi
  simp only [anchors, List.forall_mem_cons, List.not_mem_nil, false_imp_iff, implies_true, and_true]
  refine ⟨?_, hmidnight hrange htodayIs, hmidnight htomorrow htomorrowIs,
    hmidnight hyesterday hyesterdayIs⟩
  rw [hnow]
  exact hrange

/-- The stamp of an anchor denotes it, if the anchor is outside leap seconds and its offset is of
whole minutes. -/
lemma operandOf_stamp (hz : z.Regular) (hp : ofNow z utc = .ok p) {x : Instant}
    (hx : x ∈ p.anchors) (hexists : x.Exists) (hleap : ¬ x.utc.IsLeap) (hminutes : x.offset % 60 = 0)
    (zulu : Bool) : p.operandOf (String.ofList (x.stamp zulu)) = .ok (.instant x) := by
  obtain ⟨-, -, -, -, -, hzone, -⟩ := ofNow_eq_ok hp
  refine p.operandOf_of_instantOf? ?_
  rw [hzone]
  exact Zone.instantOf?_stamp (shows_of_mem_anchors hz hp x hx) hexists hleap hminutes
    (inRange_of_mem_anchors hz hp x hx) zulu

end Anchors

end Present

/-! ## What an expression depends on -/

section Congruence

variable {p q : Present} {words : List String}

/-- Steps depend on what their operands denote.

**Proof sketch.** Induction on the words, two at a time. -/
lemma stepsOf_congr
    (h : ∀ i word, words[2 * i + 1]? = some word → p.operandOf word = q.operandOf word) :
    p.stepsOf words = q.stepsOf words := by
  fun_induction p.stepsOf words with
  | case1 => rfl
  | case2 spelling => rfl
  | case3 spelling word rest ih =>
    rw [Present.stepsOf, Present.stepOf, Present.stepOf, h 0 word rfl, ih fun i => h (i + 1)]

/-- A chain depends on what its words at even places denote. -/
lemma chainOf_congr
    (h : ∀ i word, i % 2 = 0 → words[i]? = some word → p.operandOf word = q.operandOf word) :
    p.chainOf words = q.chainOf words := by
  unfold Present.chainOf
  cases hhead : headAndRest words with
  | error e => simp only [bind, Except.bind]
  | ok split =>
    obtain ⟨first, rest⟩ := split
    obtain rfl := eq_cons_of_headAndRest hhead
    have hsteps : p.stepsOf rest = q.stepsOf rest :=
      stepsOf_congr fun i word hget => h (2 * i + 2) word (by omega) hget
    simp only [bind, Except.bind, h 0 first rfl rfl, hsteps]

/-- An expression depends on the zone and on what its operands denote, and on nothing else. -/
theorem evaluate_congr (hzone : p.zone = q.zone)
    (h : ∀ i word, i % 2 = 0 → (chainWords words)[i]? = some word →
      p.operandOf word = q.operandOf word) : evaluate p words = evaluate q words := by
  have hwords : Expression.ofWords p words = Expression.ofWords q words := by
    by_cases hdangling : Dangling words
    · rw [ofWords_of_fault (.missingFormat hdangling), ofWords_of_fault (.missingFormat hdangling)]
    · rw [ofWords_of_not_dangling hdangling, ofWords_of_not_dangling hdangling, chainOf_congr h]
  rw [evaluate, evaluate, hwords, hzone]

/-- A word for no anchor denotes the same at any moment. -/
lemma Present.operandOf_congr (hzone : p.zone = q.zone) {word : String} (h : word ∉ anchorWords) :
    p.operandOf word = q.operandOf word := by
  unfold operandOf
  rw [hzone, ofWord?_eq_none_iff.mpr h, ofWord?_eq_none_iff.mpr h]

end Congruence

/-! ## Anchors written out -/

namespace Present

/-- What may be written for a word: the word itself, and for an anchor the stamp of its instant, with
offset zero as a letter or in digits. -/
inductive Restamped (p : Present) : String → String → Prop
  | same (word : String) : Restamped p word word
  | stamp {word : String} {x : Instant} (h : p.ofWord? word = some x) (zulu : Bool) :
      Restamped p word (String.ofList (x.stamp zulu))

/-- Anchors may be written out: if they are outside leap seconds and have offsets of whole minutes,
then words that are replaced by the stamps of their anchors, in whatever places before the format,
come to the same and are shown alike, or fail for the same cause. All words for one anchor denote
one instant wherever they stand, and without such words the result is the same at every moment. -/
theorem evaluate_restamped {z : Zone} (hz : z.Regular) {utc : Reading} {p : Present}
    (hp : ofNow z utc = .ok p)
    (hanchors : ∀ x ∈ p.anchors, x.Exists ∧ ¬ x.utc.IsLeap ∧ x.offset % 60 = 0) :
    (∀ words words', WordForWord p.Restamped (fun _ => Eq) words words' →
      Alike Eq (evaluate p words) (evaluate p words')) ∧
    (∀ spellings ∈ anchorSpellings, ∃ x ∈ p.anchors, ∀ word ∈ spellings,
      p.operandOf word = .ok (.instant x)) ∧
    ∀ q : Present, q.zone = z → ∀ words,
      (∀ i word, i % 2 = 0 → (chainWords words)[i]? = some word → word ∉ anchorWords) →
        evaluate q words = evaluate p words := by
  refine ⟨fun words words' h => ?_, fun spellings hspellings => ?_, fun q hq words h => ?_⟩
  · refine evaluate_alike_of_wordForWord ?_ ?_ h
    · rintro _ _ (_ | ⟨hword, zulu⟩)
      · exact .refl _
      · have hx := mem_anchors_of_ofWord? hword
        obtain ⟨hexists, hleap, hminutes⟩ := hanchors _ hx
        exact .of_operandOf (p.operandOf_of_ofWord? hword)
          (operandOf_stamp hz hp hx hexists hleap hminutes zulu)
    · rintro op f _ rfl
      exact .refl _ fun _ _ => rfl
  · obtain ⟨x, hx, hwords⟩ := p.exists_ofWord?_of_mem hspellings
    exact ⟨x, hx, fun word hword => p.operandOf_of_ofWord? (hwords word hword)⟩
  · obtain ⟨-, -, -, -, -, hzone, -⟩ := ofNow_eq_ok hp
    have hzones : q.zone = p.zone := hq.trans hzone.symm
    exact evaluate_congr hzones fun i word heven hget => operandOf_congr hzones (h i word heven hget)

/-- From the morning of a day in New York to the midnight after it. Both anchors are written out. -/
theorem evaluate_restamped_newYork :
    ∃ p, ofNow Zone.newYork ⟨1772895600, 0, by decide⟩ = .ok p ∧
      (∀ x ∈ p.anchors, x.Exists ∧ ¬ x.utc.IsLeap ∧ x.offset % 60 = 0) ∧
      WordForWord p.Restamped (fun _ => Eq) ["today", "+", "1d", "diff", "now", "to", "hours"]
        ["2026-03-07T00:00:00-05:00", "+", "1d", "diff", "2026-03-07T10:00:00-05:00", "to", "hours"] ∧
      evaluate p ["today", "+", "1d", "diff", "now", "to", "hours"] = .ok ⟨.count 14, "14"⟩ ∧
      evaluate p ["2026-03-07T00:00:00-05:00", "+", "1d", "diff", "2026-03-07T10:00:00-05:00", "to",
        "hours"] = .ok ⟨.count 14, "14"⟩ := by
  let p : Present :=
    ⟨Zone.newYork, ⟨⟨1772895600, 0, by decide⟩, -18000⟩, ⟨⟨1772859600, 0, by decide⟩, -18000⟩,
      ⟨⟨1772946000, 0, by decide⟩, -18000⟩, ⟨⟨1772773200, 0, by decide⟩, -18000⟩⟩
  have hp : ofNow Zone.newYork ⟨1772895600, 0, by decide⟩ = .ok p := by decide +kernel
  have hz : Zone.newYork.Regular := by decide +kernel
  have hanchors : ∀ x ∈ p.anchors, x.Exists ∧ ¬ x.utc.IsLeap ∧ x.offset % 60 = 0 := by
    simp only [anchors, List.forall_mem_cons, List.not_mem_nil, false_imp_iff, implies_true, and_true]
    refine ⟨?_, ?_, ?_, ?_⟩ <;> exact ⟨⟨by decide, by decide⟩, by decide, by decide⟩
  have htoday : p.Restamped "today" "2026-03-07T00:00:00-05:00" := by
    have hstamp : String.ofList (p.today.stamp false) = "2026-03-07T00:00:00-05:00" := by
      decide +kernel
    have hwritten : p.Restamped "today" (String.ofList (p.today.stamp false)) := .stamp rfl false
    rwa [hstamp] at hwritten
  have hnow : p.Restamped "now" "2026-03-07T10:00:00-05:00" := by
    have hstamp : String.ofList (p.now.stamp false) = "2026-03-07T10:00:00-05:00" := by
      decide +kernel
    have hwritten : p.Restamped "now" (String.ofList (p.now.stamp false)) := .stamp rfl false
    rwa [hstamp] at hwritten
  have hwords : WordForWord p.Restamped (fun _ => Eq)
      ["today", "+", "1d", "diff", "now", "to", "hours"]
      ["2026-03-07T00:00:00-05:00", "+", "1d", "diff", "2026-03-07T10:00:00-05:00", "to", "hours"] :=
    @WordForWord.formatted _ _ ["today", "+", "1d", "diff", "now"] _ _ _
      (.cons htoday <| .cons (.same _) <| .cons (.same _) <| .cons (.same _) <| .cons hnow .nil)
      fun _ _ => rfl
  have hvalue : evaluate p ["today", "+", "1d", "diff", "now", "to", "hours"] =
      .ok ⟨.count 14, "14"⟩ := by
    decide +kernel
  have halike := (evaluate_restamped hz hp hanchors).1 _ _ hwords
  rw [hvalue] at halike
  exact ⟨p, hp, hanchors, hwords, hvalue, halike.eq_ok⟩

end Present

end Almanac

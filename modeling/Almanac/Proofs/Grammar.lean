import Almanac.Expression
import Mathlib.Data.Nat.Find

set_option relaxedAutoImplicit false
set_option autoImplicit false

/-!
# The grammar of expressions

Which lists of words are expressions, said by the places of the words: operands stand at even places
and operators at odd ones, from an operand to an operand, and a format suits the operator before it.
A list that is no expression has a fault, and of several faults the one that is reported is fixed by
an order in which the end of the list comes first, then the words from the left, then the format.

## Main definitions

* `Almanac.announcedFormat`, `Almanac.chainWords` — the format at the end, and the words before it.
* `Almanac.IsSentence` — the lists of words that are expressions.
* `Almanac.Expression.IsReadingOf` — the expression that a list of words is.
* `Almanac.Fault` — what is reported of a list of words that is none.

## Main results

* `Almanac.chainOf_of_isChain`, `Almanac.chainOf_of_chainFault` — the words before the format.
* `Almanac.isSentence_or_fault` — what is no expression has a fault.
* `Almanac.Expression.ofWords_sound_complete` — reading follows the grammar.
-/

namespace Almanac

/-! ## The format at the end -/

/-- The format that is asked for: the last word, if the word before it announces one. -/
def announcedFormat (words : List String) : Option String :=
  if words.dropLast.getLast? = some formatWord then words.getLast? else none

/-- The words without a format and the word that announces it. -/
def chainWords (words : List String) : List String :=
  if words.dropLast.getLast? = some formatWord then words.dropLast.dropLast else words

/-- A format is announced at the end, and none follows. -/
def Dangling (words : List String) : Prop :=
  announcedFormat words = none ∧ words.getLast? = some formatWord

/-- The operator before the last word. -/
def lastOperator? (chain : List String) : Option Operator :=
  chain.dropLast.getLast?.bind Operator.ofSpelling?

/-- An operator takes a format, as a template or as a unit. -/
inductive Operator.Takes : Operator → String → ResultFormat → Prop
  /-- After a sum every format is a template. -/
  | template (direction : Direction) (format : String) :
    Takes (.sum direction) format (.template format)
  /-- After a difference a format is a word for a unit. -/
  | unit {format : String} {u : TimeUnit} (h : TimeUnit.ofWord? format = some u) :
    Takes .difference format (.unit u)

/-- An operator does not take a format. -/
inductive Operator.Refuses : Operator → String → Error → Prop
  /-- After a comparison there is no format. -/
  | comparison (c : Comparison) (format : String) :
    Refuses (.comparison c) format (.formatOnComparison format)
  /-- After a difference a word for no unit is no format. -/
  | unknownUnit {format : String} (h : TimeUnit.ofWord? format = none) :
    Refuses .difference format (.unknownUnit format)

/-! ## Words in their places -/

/-- A word suits its place: at even places it denotes something, at odd ones it is an operator. -/
def Present.Suits (p : Present) (place : Nat) (word : String) : Prop :=
  if place % 2 = 0 then ∃ o, p.operandOf word = .ok o else ∃ op, Operator.ofSpelling? word = some op

/-- The error of a word that does not suit its place. -/
def misplacedError (place : Nat) (word : String) : Error :=
  if place % 2 = 0 then .unrecognizedValue word else .unknownOperator word

/-- From a place on every word suits its own. -/
def Present.AllSuit (p : Present) (start : Nat) (words : List String) : Prop :=
  ∀ i word, words[i]? = some word → p.Suits (start + i) word

/-- The leftmost word that does not suit its place, the first word being at place `start`. -/
structure Present.FirstMisplaced (p : Present) (start : Nat) (words : List String) (i : Nat)
    (word : String) : Prop where
  get : words[i]? = some word
  misplaced : ¬ p.Suits (start + i) word
  before : ∀ j other, j < i → words[j]? = some other → p.Suits (start + j) other

/-- Operands and operators alternate, beginning and ending with an operand, and there is an
operator. -/
structure IsChain (p : Present) (chain : List String) : Prop where
  odd : chain.length % 2 = 1
  length : 3 ≤ chain.length
  suits : p.AllSuit 0 chain

/-- The lists of words that are expressions. -/
structure IsSentence (p : Present) (words : List String) : Prop where
  chain : IsChain p (chainWords words)
  format : ∀ f, announcedFormat words = some f →
    (∃ direction, lastOperator? (chainWords words) = some (.sum direction)) ∨
      (lastOperator? (chainWords words) = some .difference ∧ ∃ u, TimeUnit.ofWord? f = some u)

/-- The steps that words after the first operand are. -/
structure Present.StepsRead (p : Present) (words : List String) (steps : List Step) : Prop where
  length : words.length = 2 * steps.length
  get : ∀ i s, steps[i]? = some s → ∃ spelling, words[2 * i]? = some spelling ∧
    Operator.ofSpelling? spelling = some s.operator ∧ words[2 * i + 1]? = some s.word ∧
    p.operandOf s.word = .ok s.operand

/-- The expression that a list of words is: it has the operands, the operators and the words of the
list in their order, and the format that is announced. -/
structure Expression.IsReadingOf (e : Expression) (p : Present) (words : List String) : Prop where
  length : e.steps.length = ((chainWords words).length - 1) / 2
  first : ∃ word, (chainWords words)[0]? = some word ∧ p.operandOf word = .ok e.first
  steps : ∀ i s, e.steps[i]? = some s → ∃ spelling, (chainWords words)[2 * i + 1]? = some spelling ∧
    Operator.ofSpelling? spelling = some s.operator ∧
    (chainWords words)[2 * i + 2]? = some s.word ∧ p.operandOf s.word = .ok s.operand
  unformatted : announcedFormat words = none → e.format = none
  format : ∀ f, announcedFormat words = some f → ∃ op r,
    lastOperator? (chainWords words) = some op ∧ op.Takes f r ∧ e.format = some r

/-! ## Faults -/

/-- The last word is an operator. -/
def EndsInOperator (chain : List String) : Prop :=
  ∃ last op, chain.getLast? = some last ∧ Operator.ofSpelling? last = some op

/-- What is reported of words that are no chain: an operator at the end before all else, then that
there are too few words, then the leftmost word that does not suit its place. -/
inductive ChainFault (p : Present) (chain : List String) : Error → Prop
  | trailingOperator {last : String} {op : Operator} (hlast : chain.getLast? = some last)
      (hop : Operator.ofSpelling? last = some op) : ChainFault p chain (.trailingOperator last)
  | missingOperation (hend : ¬ EndsInOperator chain) (hlength : chain.length < 2) :
      ChainFault p chain .missingOperation
  | misplaced (hend : ¬ EndsInOperator chain) (hlength : 2 ≤ chain.length) {i : Nat} {word : String}
      (h : p.FirstMisplaced 0 chain i word) : ChainFault p chain (misplacedError i word)

/-- What is reported of a list of words that is no expression: a format that is missing before all
else, then a fault of the chain, then a format that the last operator does not take. -/
inductive Fault (p : Present) (words : List String) : Error → Prop
  | missingFormat (h : Dangling words) : Fault p words .missingFormat
  | chain (hformat : ¬ Dangling words) {e : Error} (h : ChainFault p (chainWords words) e) :
      Fault p words e
  | format (hformat : ¬ Dangling words) (hchain : IsChain p (chainWords words)) {f : String}
      {op : Operator} {e : Error} (hf : announcedFormat words = some f)
      (hop : lastOperator? (chainWords words) = some op) (h : op.Refuses f e) : Fault p words e

/-! ## Reading the end -/

/-- A word after another is a format if that one announces it. -/
lemma takeFormat_concat (before : List String) (last : String) :
    takeFormat (before ++ [last]) =
      if before.getLast? = some formatWord then .ok (before.dropLast, some last)
      else if last = formatWord then .error .missingFormat
      else .ok (before ++ [last], none) := by
  have hreverse : (before ++ [last]).reverse = last :: before.reverse := by simp
  rw [takeFormat, hreverse]
  simp [List.head?_reverse]

/-- A format that is missing is reported. -/
lemma takeFormat_of_dangling {words : List String} (h : Dangling words) :
    takeFormat words = .error .missingFormat := by
  obtain ⟨hnone, hlast⟩ := h
  obtain ⟨before, rfl⟩ := List.getLast?_eq_some_iff.mp hlast
  have hbefore : before.getLast? ≠ some formatWord := by
    intro hannounced
    simp [announcedFormat, hannounced] at hnone
  rw [takeFormat_concat, if_neg hbefore, if_pos rfl]

/-- Otherwise the list falls into its words and its format. -/
lemma takeFormat_of_not_dangling {words : List String} (h : ¬ Dangling words) :
    takeFormat words = .ok (chainWords words, announcedFormat words) := by
  rcases List.eq_nil_or_concat words with rfl | ⟨before, last, rfl⟩
  · rfl
  · rw [List.concat_eq_append] at h ⊢
    rw [takeFormat_concat]
    by_cases hbefore : before.getLast? = some formatWord
    · simp [chainWords, announcedFormat, hbefore]
    · have hlast : last ≠ formatWord := by
        rintro rfl
        exact h (by simp [Dangling, announcedFormat, hbefore])
      simp [chainWords, announcedFormat, hbefore, hlast]

/-- Words after which a format is announced are the words before it. -/
@[simp] lemma chainWords_append (chain : List String) (f : String) :
    chainWords (chain ++ [formatWord, f]) = chain := by
  have hsplit : chain ++ [formatWord, f] = (chain ++ [formatWord]) ++ [f] := by simp
  rw [chainWords, hsplit, List.dropLast_concat, List.getLast?_concat, if_pos rfl,
    List.dropLast_concat]

/-- The word after one that announces a format is the format. -/
@[simp] lemma announcedFormat_append (chain : List String) (f : String) :
    announcedFormat (chain ++ [formatWord, f]) = some f := by
  have hsplit : chain ++ [formatWord, f] = (chain ++ [formatWord]) ++ [f] := by simp
  rw [announcedFormat, hsplit, List.dropLast_concat, List.getLast?_concat, if_pos rfl,
    List.getLast?_concat]

/-- No format is announced if the word before the last one does not do it. -/
lemma announcedFormat_eq_none_iff {words : List String} :
    announcedFormat words = none ↔ words.dropLast.getLast? ≠ some formatWord := by
  unfold announcedFormat
  split_ifs with hannounced
  · refine iff_of_false ?_ (not_not_intro hannounced)
    intro hnone
    rw [List.getLast?_eq_none_iff.mp hnone] at hannounced
    cases hannounced
  · exact iff_of_true rfl hannounced

/-- Words among which no format is announced are all words of the chain. -/
lemma chainWords_of_unannounced {words : List String} (h : announcedFormat words = none) :
    chainWords words = words := by
  rw [chainWords, if_neg (announcedFormat_eq_none_iff.mp h)]

/-- What a format means after an operator that takes it. -/
lemma formatAfter_of_takes {op : Operator} {f : String} {r : ResultFormat} (h : op.Takes f r) :
    formatAfter op f = .ok r := by
  cases h with
  | template direction format => rfl
  | unit h => simp only [formatAfter, h]

/-- The error of a format after an operator that does not take it. -/
lemma formatAfter_of_refuses {op : Operator} {f : String} {e : Error} (h : op.Refuses f e) :
    formatAfter op f = .error e := by
  cases h with
  | comparison c format => rfl
  | unknownUnit h => simp only [formatAfter, h]

/-! ## Words that denote nothing -/

open DateText in
/-- A word is no date, no anchor and no duration. -/
def DenotesNothing (word : String) : Prop :=
  offsetText? (trim word.toList) = none ∧ wallText? (trim word.toList) = none ∧
    dateText? (trim word.toList) = none ∧
    word ∉ Present.todayWords ++ Present.nowWords ++ Present.tomorrowWords ++
      Present.yesterdayWords ∧ Duration.parse? word = none

instance (word : String) : Decidable (DenotesNothing word) :=
  inferInstanceAs (Decidable (_ ∧ _))

/-- What is no date, no anchor and no duration is no operand in any zone. -/
lemma Present.operandOf_of_denotesNothing (p : Present) {word : String} (h : DenotesNothing word) :
    p.operandOf word = .error (.unrecognizedValue word) := by
  obtain ⟨hoffset, hwall, hdate, hanchor, hduration⟩ := h
  have hinstant : p.zone.instantOf? word = none := by
    simp [Zone.instantOf?, hoffset, hwall, hdate]
  have hword : p.ofWord? word = none := by
    simp only [List.mem_append, not_or] at hanchor
    simp [ofWord?, hanchor]
  unfold operandOf
  rw [hinstant, hword, Option.or_none, hduration]

/-- The words for operators denote nothing. -/
lemma denotesNothing_of_spelling {word : String} {op : Operator}
    (h : Operator.ofSpelling? word = some op) : DenotesNothing word := by
  have hall : ∀ entry ∈ Operator.table, DenotesNothing entry.1 := by decide
  rw [Operator.ofSpelling?, Option.map_eq_some_iff] at h
  obtain ⟨entry, hfind, -⟩ := h
  have hword : entry.1 = word := by simpa using List.find?_some hfind
  exact hword ▸ hall entry (List.mem_of_find?_eq_some hfind)

/-! ## Reading the words from the left -/

/-- A word that denotes nothing is reported. -/
lemma Present.operandOf_eq_error {p : Present} {word : String}
    (h : ¬ ∃ o, p.operandOf word = .ok o) :
    p.operandOf word = .error (.unrecognizedValue word) := by
  unfold operandOf at h ⊢
  split
  · next i hi => exact absurd ⟨_, by rw [hi]⟩ h
  · next hnone =>
    rw [hnone] at h
    split
    · next d hd => exact absurd ⟨_, by rw [hd]⟩ h
    · rfl

/-- A word that is an operator is read as it. -/
lemma operatorOf_of_spelling {word : String} {op : Operator}
    (h : Operator.ofSpelling? word = some op) : operatorOf word = .ok op := by
  simp only [operatorOf, h]

/-- A word that is no operator is reported. -/
lemma operatorOf_of_none {word : String} (h : ¬ ∃ op, Operator.ofSpelling? word = some op) :
    operatorOf word = .error (.unknownOperator word) := by
  cases hspelling : Operator.ofSpelling? word with
  | none => simp only [operatorOf, hspelling]
  | some op => exact absurd ⟨op, hspelling⟩ h

section Steps

variable {p : Present}

/-- At an even place a word suits if it denotes something. -/
lemma Present.suits_even {place : Nat} (h : place % 2 = 0) {word : String} :
    p.Suits place word ↔ ∃ o, p.operandOf word = .ok o := by
  rw [Suits, if_pos h]

/-- At an odd place a word suits if it is an operator. -/
lemma Present.suits_odd {place : Nat} (h : place % 2 = 1) {word : String} :
    p.Suits place word ↔ ∃ op, Operator.ofSpelling? word = some op := by
  rw [Suits, if_neg (by omega)]

/-- An operator and an operand before other steps. -/
lemma Present.StepsRead.cons {spelling word : String} {rest : List String} {op : Operator}
    {o : Operand} {steps : List Step} (hop : Operator.ofSpelling? spelling = some op)
    (ho : p.operandOf word = .ok o) (h : p.StepsRead rest steps) :
    p.StepsRead (spelling :: word :: rest) (⟨op, o, word⟩ :: steps) := by
  refine ⟨?_, ?_⟩
  · simp only [List.length_cons, h.length]
    omega
  · intro i s hs
    cases i with
    | zero =>
      cases hs
      exact ⟨spelling, rfl, hop, rfl, ho⟩
    | succ i => exact h.get i s hs

/-- Words of even number that suit their places are steps.

**Proof sketch.** Induction on the words, two at a time. -/
lemma stepsOf_of_allSuit {words : List String} (heven : words.length % 2 = 0)
    (h : p.AllSuit 1 words) : ∃ steps, p.stepsOf words = .ok steps ∧ p.StepsRead words steps := by
  fun_induction p.stepsOf words with
  | case1 => exact ⟨[], rfl, rfl, by simp⟩
  | case2 spelling => simp at heven
  | case3 spelling word rest ih =>
    obtain ⟨op, hop⟩ := (Present.suits_odd rfl).mp (h 0 spelling rfl)
    obtain ⟨o, ho⟩ := (Present.suits_even rfl).mp (h 1 word rfl)
    have hrest : p.AllSuit 1 rest := by
      intro i other hget
      have hsuits := h (i + 2) other hget
      rwa [Present.Suits, show (1 + (i + 2)) % 2 = (1 + i) % 2 by omega] at hsuits
    have heven : rest.length % 2 = 0 := by
      simp only [List.length_cons] at heven
      omega
    obtain ⟨steps, hsteps, hread⟩ := ih heven hrest
    refine ⟨⟨op, o, word⟩ :: steps, ?_, hread.cons hop ho⟩
    rw [Present.stepOf, operatorOf_of_spelling hop, ho, hsteps]
    rfl

/-- Of words that do not all suit their places the leftmost is reported.

**Proof sketch.** Induction on the words, two at a time: the leftmost word that does not suit is the
operator or the operand in front, or comes later. -/
lemma stepsOf_of_firstMisplaced {words : List String} {i : Nat} {word : String}
    (h : p.FirstMisplaced 1 words i word) :
    p.stepsOf words = .error (misplacedError (1 + i) word) := by
  fun_induction p.stepsOf words generalizing i with
  | case1 => cases h.get
  | case2 spelling =>
    obtain ⟨rfl, rfl⟩ : i = 0 ∧ spelling = word := by
      cases i with
      | zero => exact ⟨rfl, Option.some.inj h.get⟩
      | succ i => cases h.get
    rw [operatorOf_of_none ((Present.suits_odd rfl).not.mp h.misplaced)]
    rfl
  | case3 spelling operand rest ih =>
    match i, h with
    | 0, h =>
      obtain rfl : spelling = word := Option.some.inj h.get
      rw [Present.stepOf, operatorOf_of_none ((Present.suits_odd rfl).not.mp h.misplaced)]
      rfl
    | 1, h =>
      obtain rfl : operand = word := Option.some.inj h.get
      obtain ⟨op, hop⟩ := (Present.suits_odd rfl).mp (h.before 0 spelling (by omega) rfl)
      rw [Present.stepOf, operatorOf_of_spelling hop,
        Present.operandOf_eq_error ((Present.suits_even rfl).not.mp h.misplaced)]
      rfl
    | i + 2, h =>
      obtain ⟨op, hop⟩ := (Present.suits_odd rfl).mp (h.before 0 spelling (by omega) rfl)
      obtain ⟨o, ho⟩ := (Present.suits_even rfl).mp (h.before 1 operand (by omega) rfl)
      have hparity : ∀ j, (1 + (j + 2)) % 2 = (1 + j) % 2 := by omega
      have hrest : p.FirstMisplaced 1 rest i word := by
        refine ⟨h.get, ?_, ?_⟩
        · have hmisplaced := h.misplaced
          rwa [Present.Suits, hparity] at hmisplaced
        · intro j other hj hget
          have hsuits := h.before (j + 2) other (by omega) hget
          rwa [Present.Suits, hparity] at hsuits
      rw [Present.stepOf, operatorOf_of_spelling hop, ho, ih hrest, misplacedError, misplacedError,
        hparity]
      rfl

end Steps

/-! ## Reading a chain -/

section Chain

variable {p : Present} {chain : List String}

/-- The operands and operators of a chain. -/
def Present.chainOf (p : Present) (chain : List String) : Except Error (Operand × List Step) := do
  let (first, rest) ← headAndRest chain
  let first ← p.operandOf first
  let steps ← p.stepsOf rest
  return (first, steps)

/-- A list of words is read end first, then from the left, and its format last. -/
lemma ofWords_eq (p : Present) (words : List String) :
    Expression.ofWords p words = do
      let (chain, format) ← takeFormat words
      let (first, steps) ← p.chainOf chain
      let format ← resultFormat steps format
      return ⟨first, steps, format⟩ := by
  unfold Expression.ofWords Present.chainOf
  cases takeFormat words with
  | error e => rfl
  | ok taken =>
    obtain ⟨chain, format⟩ := taken
    simp only [bind_assoc, pure_bind]

/-- An operator at the end is reported. -/
lemma headAndRest_of_last {last : String} {op : Operator} (hlast : chain.getLast? = some last)
    (hop : Operator.ofSpelling? last = some op) :
    headAndRest chain = .error (.trailingOperator last) := by
  unfold headAndRest
  rw [hlast, Option.filter_some_pos (by rw [hop]; rfl)]

/-- Without an operator at the end no word is reported for standing there. -/
lemma filter_getLast?_of_not_endsInOperator (hend : ¬ EndsInOperator chain) :
    chain.getLast?.filter (fun last => (Operator.ofSpelling? last).isSome) = none := by
  rw [Option.filter_eq_none_iff]
  intro last hlast hsome
  obtain ⟨op, hop⟩ := Option.isSome_iff_exists.mp hsome
  exact hend ⟨last, op, hlast, hop⟩

/-- Two words and more without an operator at the end are an operand, perhaps, and others. -/
lemma chainOf_cons {first second : String} {rest : List String}
    (hend : ¬ EndsInOperator (first :: second :: rest)) :
    p.chainOf (first :: second :: rest) = do
      let o ← p.operandOf first
      let steps ← p.stepsOf (second :: rest)
      return (o, steps) := by
  unfold Present.chainOf headAndRest
  rw [filter_getLast?_of_not_endsInOperator hend]
  rfl

/-- The head and the rest of a chain make up the chain. -/
lemma eq_cons_of_headAndRest {first : String} {rest : List String}
    (h : headAndRest chain = .ok (first, rest)) : chain = first :: rest := by
  unfold headAndRest at h
  split at h
  · cases h
  · split at h
    · cases h
      rfl
    · cases h

/-- A chain does not end in an operator, since no word for an operator denotes something. -/
lemma IsChain.not_endsInOperator (h : IsChain p chain) : ¬ EndsInOperator chain := by
  rintro ⟨last, op, hlast, hop⟩
  rw [List.getLast?_eq_getElem?] at hlast
  have hsuits := h.suits _ _ hlast
  rw [Present.suits_even (by have := h.odd; omega)] at hsuits
  obtain ⟨o, ho⟩ := hsuits
  rw [p.operandOf_of_denotesNothing (denotesNothing_of_spelling hop)] at ho
  cases ho

/-- A chain is an operand and steps. -/
lemma chainOf_of_isChain (h : IsChain p chain) :
    ∃ first word rest steps, chain = word :: rest ∧ p.operandOf word = .ok first ∧
      p.StepsRead rest steps ∧ p.chainOf chain = .ok (first, steps) := by
  obtain ⟨word, second, rest, rfl⟩ : ∃ word second rest, chain = word :: second :: rest := by
    match chain, h.length with
    | word :: second :: rest, _ => exact ⟨word, second, rest, rfl⟩
  obtain ⟨first, hfirst⟩ := (Present.suits_even rfl).mp (h.suits 0 word rfl)
  have heven : (second :: rest).length % 2 = 0 := by
    have hodd := h.odd
    simp only [List.length_cons] at hodd ⊢
    omega
  have hrest : p.AllSuit 1 (second :: rest) := by
    intro i other hget
    have hsuits := h.suits (i + 1) other hget
    rwa [show 0 + (i + 1) = 1 + i by omega] at hsuits
  obtain ⟨steps, hsteps, hread⟩ := stepsOf_of_allSuit heven hrest
  refine ⟨first, word, second :: rest, steps, rfl, hfirst, hread, ?_⟩
  rw [chainOf_cons h.not_endsInOperator, hfirst, hsteps]
  rfl

/-- The fault of words that are no chain is reported. -/
lemma chainOf_of_chainFault {e : Error} (h : ChainFault p chain e) : p.chainOf chain = .error e := by
  cases h with
  | trailingOperator hlast hop =>
    rw [Present.chainOf, headAndRest_of_last hlast hop]
    rfl
  | missingOperation hend hlength =>
    unfold Present.chainOf headAndRest
    rw [filter_getLast?_of_not_endsInOperator hend]
    match chain, hlength with
    | [], _ => rfl
    | [word], _ => rfl
  | @misplaced hend hlength i word h =>
    match chain, hlength with
    | first :: second :: rest, _ =>
      rw [chainOf_cons hend]
      cases i with
      | zero =>
        obtain rfl : first = word := Option.some.inj h.get
        rw [Present.operandOf_eq_error ((Present.suits_even rfl).not.mp h.misplaced)]
        rfl
      | succ i =>
        obtain ⟨o, ho⟩ := (Present.suits_even rfl).mp (h.before 0 first (by omega) rfl)
        have hplace : ∀ j, 0 + (j + 1) = 1 + j := by omega
        have hrest : p.FirstMisplaced 1 (second :: rest) i word := by
          refine ⟨h.get, ?_, ?_⟩
          · rw [← hplace]
            exact h.misplaced
          · intro j other hj hget
            rw [← hplace]
            exact h.before (j + 1) other (by omega) hget
        rw [ho, stepsOf_of_firstMisplaced hrest, ← hplace, Nat.zero_add]
        rfl

/-- If not every word suits its place there is a leftmost one that does not. -/
lemma exists_firstMisplaced {start : Nat} (h : ¬ p.AllSuit start chain) :
    ∃ i word, p.FirstMisplaced start chain i word := by
  classical
  have hsome : ∃ i word, chain[i]? = some word ∧ ¬ p.Suits (start + i) word := by
    by_contra hnone
    refine h fun i word hget => ?_
    by_contra hsuits
    exact hnone ⟨i, word, hget, hsuits⟩
  obtain ⟨word, hget, hmisplaced⟩ := Nat.find_spec hsome
  refine ⟨Nat.find hsome, word, hget, hmisplaced, ?_⟩
  intro j other hj hother
  by_contra hsuits
  exact Nat.find_min hsome hj ⟨other, hother, hsuits⟩

/-- Words that are no chain have a fault.

**Proof sketch.** If the words are at least two, all suit their places and the last one is no
operator, then the last one is at an even place. -/
lemma isChain_or_chainFault (p : Present) (chain : List String) :
    IsChain p chain ∨ ∃ e, ChainFault p chain e := by
  by_cases hend : EndsInOperator chain
  · obtain ⟨last, op, hlast, hop⟩ := hend
    exact Or.inr ⟨_, .trailingOperator hlast hop⟩
  by_cases hlength : chain.length < 2
  · exact Or.inr ⟨_, .missingOperation hend hlength⟩
  by_cases hsuit : p.AllSuit 0 chain
  · have hodd : chain.length % 2 = 1 := by
      by_contra heven
      obtain ⟨last, hlast⟩ : ∃ last, chain[chain.length - 1]? = some last :=
        ⟨_, List.getElem?_eq_getElem (by omega)⟩
      obtain ⟨op, hop⟩ := (Present.suits_odd (by omega)).mp (hsuit _ _ hlast)
      exact hend ⟨last, op, by rw [List.getLast?_eq_getElem?, hlast], hop⟩
    exact Or.inl ⟨hodd, by omega, hsuit⟩
  · obtain ⟨i, word, h⟩ := exists_firstMisplaced hsuit
    exact Or.inr ⟨_, .misplaced hend (by omega) h⟩

end Chain

/-! ## Reading an expression -/

/-- The operator before the last word, by its place. -/
lemma lastOperator?_eq {chain : List String} (h : 2 ≤ chain.length) :
    lastOperator? chain = chain[chain.length - 2]?.bind Operator.ofSpelling? := by
  rw [lastOperator?, List.getLast?_eq_getElem?, List.length_dropLast, List.getElem?_dropLast,
    if_pos (by omega), Nat.sub_sub]

/-- In a chain an operator stands before the last word. -/
lemma IsChain.exists_lastOperator {p : Present} {chain : List String} (h : IsChain p chain) :
    ∃ op, lastOperator? chain = some op := by
  have hodd := h.odd
  have hlength := h.length
  obtain ⟨word, hword⟩ : ∃ word, chain[chain.length - 2]? = some word :=
    ⟨_, List.getElem?_eq_getElem (by omega)⟩
  obtain ⟨op, hop⟩ := (Present.suits_odd (by omega)).mp (h.suits _ _ hword)
  exact ⟨op, by rw [lastOperator?_eq (by omega), hword]; exact hop⟩

/-- The operator before the last word is that of the last step. -/
lemma Present.StepsRead.getLast? {p : Present} {word : String} {rest : List String}
    {steps : List Step} {op : Operator} (h : p.StepsRead rest steps)
    (hop : lastOperator? (word :: rest) = some op) :
    ∃ s, steps.getLast? = some s ∧ s.operator = op := by
  have hlength := h.length
  rcases List.eq_nil_or_concat steps with rfl | ⟨before, s, rfl⟩
  · rw [List.length_eq_zero_iff.mp hlength] at hop
    cases hop
  · rw [List.concat_eq_append] at h hlength ⊢
    simp only [List.length_append, List.length_cons, List.length_nil] at hlength
    obtain ⟨spelling, hspelling, hoperator, -⟩ := h.get before.length s (by simp)
    refine ⟨s, by simp, ?_⟩
    have hplace : (word :: rest).length - 2 = 2 * before.length + 1 := by
      simp only [List.length_cons]
      omega
    rw [lastOperator?_eq (by simp only [List.length_cons]; omega), hplace,
      List.getElem?_cons_succ, hspelling] at hop
    exact Option.some.inj (hoperator.symm.trans hop)

/-- The operator before the last word of a chain is that of its last step. -/
lemma exists_last_of_chainOf {p : Present} {chain : List String} {first : Operand}
    {steps : List Step} (h : p.chainOf chain = .ok (first, steps)) :
    ∃ s, steps.getLast? = some s ∧ lastOperator? chain = some s.operator := by
  rcases isChain_or_chainFault p chain with hchain | ⟨e, he⟩
  · obtain ⟨first', word, rest, steps', hwords, -, hread, hchainOf⟩ := chainOf_of_isChain hchain
    obtain ⟨op, hop⟩ := hchain.exists_lastOperator
    rw [h] at hchainOf
    cases hchainOf
    obtain ⟨s, hs, rfl⟩ := hread.getLast? (hwords ▸ hop)
    exact ⟨s, hs, hop⟩
  · rw [chainOf_of_chainFault he] at h
    cases h

/-- An operator takes a format or refuses it. -/
lemma Operator.takes_or_refuses (op : Operator) (f : String) :
    (∃ r, op.Takes f r) ∨ ∃ e, op.Refuses f e := by
  cases op with
  | sum direction => exact Or.inl ⟨_, .template direction f⟩
  | comparison c => exact Or.inr ⟨_, .comparison c f⟩
  | difference =>
    cases hunit : TimeUnit.ofWord? f with
    | some u => exact Or.inl ⟨_, .unit hunit⟩
    | none => exact Or.inr ⟨_, .unknownUnit hunit⟩

/-- The operators that take a format are sums, and differences if it is a word for a unit. -/
lemma Operator.exists_takes_iff {op : Operator} {f : String} :
    (∃ r, op.Takes f r) ↔
      (∃ direction, op = .sum direction) ∨ (op = .difference ∧ ∃ u, TimeUnit.ofWord? f = some u) := by
  constructor
  · rintro ⟨r, h⟩
    cases h with
    | template direction format => exact Or.inl ⟨direction, rfl⟩
    | unit h => exact Or.inr ⟨rfl, _, h⟩
  · rintro (⟨direction, rfl⟩ | ⟨rfl, u, hu⟩)
    · exact ⟨_, .template direction f⟩
    · exact ⟨_, .unit hu⟩

section Words

variable {p : Present} {words : List String}

/-- A list without a dangling format is read chain first, then its format. -/
lemma ofWords_of_not_dangling (h : ¬ Dangling words) :
    Expression.ofWords p words = do
      let (first, steps) ← p.chainOf (chainWords words)
      let format ← resultFormat steps (announcedFormat words)
      return ⟨first, steps, format⟩ := by
  rw [ofWords_eq, takeFormat_of_not_dangling h]
  rfl

/-- A dangling format is an operand that denotes nothing. -/
lemma not_isChain_of_dangling (h : Dangling words) : ¬ IsChain p (chainWords words) := by
  obtain ⟨hnone, hlast⟩ := h
  intro hchain
  rw [chainWords_of_unannounced hnone] at hchain
  rw [List.getLast?_eq_getElem?] at hlast
  have hsuits := hchain.suits _ _ hlast
  rw [Present.suits_even (by have := hchain.odd; omega)] at hsuits
  obtain ⟨o, ho⟩ := hsuits
  rw [p.operandOf_of_denotesNothing (by decide)] at ho
  cases ho

/-- What is no expression has a fault. -/
theorem isSentence_or_fault (p : Present) (words : List String) :
    IsSentence p words ∨ ∃ e, Fault p words e := by
  by_cases hdangling : Dangling words
  · exact Or.inr ⟨_, .missingFormat hdangling⟩
  rcases isChain_or_chainFault p (chainWords words) with hchain | ⟨e, he⟩
  · obtain ⟨op, hop⟩ := hchain.exists_lastOperator
    cases hf : announcedFormat words with
    | none => exact Or.inl ⟨hchain, fun f hsome => by rw [hf] at hsome; cases hsome⟩
    | some f =>
      rcases op.takes_or_refuses f with htakes | ⟨e, he⟩
      · refine Or.inl ⟨hchain, fun g hg => ?_⟩
        obtain rfl : f = g := Option.some.inj (hf.symm.trans hg)
        rw [hop]
        simpa using Operator.exists_takes_iff.mp htakes
      · exact Or.inr ⟨e, .format hdangling hchain hf hop he⟩
  · exact Or.inr ⟨e, .chain hdangling he⟩

/-- A fault is reported. -/
theorem ofWords_of_fault {e : Error} (h : Fault p words e) :
    Expression.ofWords p words = .error e := by
  cases h with
  | missingFormat h =>
    rw [ofWords_eq, takeFormat_of_dangling h]
    rfl
  | chain hformat h =>
    rw [ofWords_of_not_dangling hformat, chainOf_of_chainFault h]
    rfl
  | format hformat hchain hf hop h =>
    obtain ⟨first, word, rest, steps, hwords, -, hread, hchainOf⟩ := chainOf_of_isChain hchain
    rw [hwords] at hop
    obtain ⟨s, hs, rfl⟩ := hread.getLast? hop
    have hresult : resultFormat steps (announcedFormat words) = .error e := by
      rw [hf]
      simp only [resultFormat, hs, formatAfter_of_refuses h]
      rfl
    rw [ofWords_of_not_dangling hformat, hchainOf]
    simp only [bind, Except.bind, hresult]

/-- An expression is read as what it says. -/
theorem ofWords_of_isSentence (h : IsSentence p words) :
    ∃ e, Expression.ofWords p words = .ok e ∧ e.IsReadingOf p words := by
  have hdangling : ¬ Dangling words := fun hd => not_isChain_of_dangling hd h.chain
  obtain ⟨first, word, rest, steps, hwords, hfirst, hread, hchainOf⟩ := chainOf_of_isChain h.chain
  have hlength : steps.length = ((chainWords words).length - 1) / 2 := by
    rw [hwords, List.length_cons, hread.length]
    omega
  have hsteps : ∀ i (s : Step), steps[i]? = some s → ∃ spelling,
      (chainWords words)[2 * i + 1]? = some spelling ∧
      Operator.ofSpelling? spelling = some s.operator ∧
      (chainWords words)[2 * i + 2]? = some s.word ∧ p.operandOf s.word = .ok s.operand := by
    rw [hwords]
    exact hread.get
  rw [ofWords_of_not_dangling hdangling, hchainOf]
  cases hf : announcedFormat words with
  | none =>
    exact ⟨⟨first, steps, none⟩, rfl, hlength, ⟨word, by rw [hwords]; rfl, hfirst⟩, hsteps,
      fun _ => rfl, fun f hsome => by rw [hf] at hsome; cases hsome⟩
  | some f =>
    obtain ⟨op, hop⟩ := h.chain.exists_lastOperator
    obtain ⟨r, hr⟩ : ∃ r, op.Takes f r := by
      refine Operator.exists_takes_iff.mpr ?_
      simpa [hop] using h.format f hf
    obtain ⟨s, hs, hoperator⟩ := hread.getLast? (hwords ▸ hop)
    have hresult : resultFormat steps (some f) = .ok (some r) := by
      simp only [resultFormat, hs, hoperator, formatAfter_of_takes hr]
      rfl
    refine ⟨⟨first, steps, some r⟩, by simp only [bind, Except.bind, hresult]; rfl, hlength,
      ⟨word, by rw [hwords]; rfl, hfirst⟩, hsteps, ?_, ?_⟩
    · intro hnone
      rw [hf] at hnone
      cases hnone
    · intro g hg
      obtain rfl : f = g := Option.some.inj (hf.symm.trans hg)
      exact ⟨op, r, hop, hr, rfl⟩

/-- What is read as an expression is one, and is read as what it says. -/
theorem isReadingOf_of_ofWords {e : Expression} (h : Expression.ofWords p words = .ok e) :
    IsSentence p words ∧ e.IsReadingOf p words := by
  rcases isSentence_or_fault p words with hsentence | ⟨err, hfault⟩
  · obtain ⟨e', he', hreading⟩ := ofWords_of_isSentence hsentence
    rw [h] at he'
    cases he'
    exact ⟨hsentence, hreading⟩
  · rw [ofWords_of_fault hfault] at h
    cases h

end Words

/-- Reading follows the grammar: a list of words is read exactly if it is an expression, it is read
as the expression that it is, and what is reported of any other list is its fault. -/
theorem Expression.ofWords_sound_complete (p : Present) (words : List String) :
    ((∃ e, Expression.ofWords p words = .ok e) ↔ IsSentence p words) ∧
    (∀ e, Expression.ofWords p words = .ok e → e.IsReadingOf p words) ∧
    (∀ err, Expression.ofWords p words = .error err ↔ Fault p words err) := by
  refine ⟨⟨?_, ?_⟩, fun e he => (isReadingOf_of_ofWords he).2, fun err => ⟨?_, ofWords_of_fault⟩⟩
  · rintro ⟨e, he⟩
    exact (isReadingOf_of_ofWords he).1
  · intro hsentence
    obtain ⟨e, he, -⟩ := ofWords_of_isSentence hsentence
    exact ⟨e, he⟩
  · intro herr
    rcases isSentence_or_fault p words with hsentence | ⟨err', hfault⟩
    · obtain ⟨e, he, -⟩ := ofWords_of_isSentence hsentence
      rw [he] at herr
      cases herr
    · rw [ofWords_of_fault hfault] at herr
      exact Except.error.inj herr ▸ hfault

/-- A format may be called as the word that announces it, but then there is no operation left. -/
example (p : Present) : Expression.ofWords p ["to", "to"] = .error .missingOperation := by
  rfl

end Almanac

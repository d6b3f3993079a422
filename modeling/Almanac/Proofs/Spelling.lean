import Almanac.Proofs.Alike
import Almanac.Proofs.Operands
import Almanac.Zone.America

set_option relaxedAutoImplicit false
set_option autoImplicit false

/-!
# Spelling does not matter

There are several words for a unit, for the beginning of today and for most operators. Which of them
are written makes no difference: word for word they mean the same, and a list of words is evaluated
by what its words mean. The format alone is not always read that way. After a difference it is a
word for a unit, but after a sum it is a template, in which every letter counts.

## Main definitions

* `Almanac.Present.SameMeaning` — words that mean the same.
* `Almanac.WordForWord` — lists of words that differ, word for word, in a certain way.
* `Almanac.Respelled`, `Almanac.Operator.RespelledFormat` — other spellings of a word and of a
  format.

## Main results

* `Almanac.evaluate_alike_of_wordForWord` — words that mean the same come to the same.
* `Almanac.Duration.parse?_append` — what a duration with a given word for its unit is.
* `Almanac.evaluate_respelled` — spelling does not matter.
-/

namespace Almanac

/-! ## Words that mean the same -/

/-- Two words mean the same: they are the same operator or none, and they denote the same operand or
nothing. Neither of them announces a format, unless both do. -/
structure Present.SameMeaning (p : Present) (a b : String) : Prop where
  announces : a = formatWord ↔ b = formatWord
  operator : Operator.ofSpelling? a = Operator.ofSpelling? b
  operand : Alike Eq (p.operandOf a) (p.operandOf b)

namespace Present

variable {p : Present}

/-- What denotes something does not announce a format. -/
lemma ne_formatWord_of_operandOf {word : String} {o : Operand} (h : p.operandOf word = .ok o) :
    word ≠ formatWord := by
  rintro rfl
  rw [p.operandOf_of_denotesNothing (by decide)] at h
  cases h

/-- What denotes something is no operator. -/
lemma ofSpelling?_of_operandOf {word : String} {o : Operand} (h : p.operandOf word = .ok o) :
    Operator.ofSpelling? word = none := by
  by_contra hsome
  obtain ⟨op, hop⟩ := Option.ne_none_iff_exists'.mp hsome
  rw [p.operandOf_of_denotesNothing (denotesNothing_of_spelling hop)] at h
  cases h

namespace SameMeaning

variable {a b : String}

/-- A word means the same as itself. -/
lemma refl (word : String) : p.SameMeaning word word :=
  ⟨Iff.rfl, rfl, .refl _ fun _ _ => rfl⟩

/-- Words that denote the same operand mean the same. -/
lemma of_operandOf {o : Operand} (ha : p.operandOf a = .ok o) (hb : p.operandOf b = .ok o) :
    p.SameMeaning a b := by
  refine ⟨iff_of_false (ne_formatWord_of_operandOf ha) (ne_formatWord_of_operandOf hb), ?_, ?_⟩
  · rw [ofSpelling?_of_operandOf ha, ofSpelling?_of_operandOf hb]
  · rw [ha, hb]
    exact .ok rfl

/-- Words for one operator mean the same. -/
lemma of_spelling {op : Operator} (ha : Operator.ofSpelling? a = some op)
    (hb : Operator.ofSpelling? b = some op) : p.SameMeaning a b := by
  have hannounces : ∀ {word : String}, Operator.ofSpelling? word = some op → word ≠ formatWord := by
    rintro word h rfl
    cases h
  refine ⟨iff_of_false (hannounces ha) (hannounces hb), ha.trans hb.symm, ?_⟩
  rw [p.operandOf_of_denotesNothing (denotesNothing_of_spelling ha),
    p.operandOf_of_denotesNothing (denotesNothing_of_spelling hb)]
  exact .error rfl

end SameMeaning

end Present

/-! ## Word for word -/

/-- Two lists of words differ word for word: the words of their chains at each place as `C` says, and
the formats, if there are any, as `F` says for the last operator. -/
inductive WordForWord (C : String → String → Prop) (F : Operator → String → String → Prop) :
    List String → List String → Prop
  | unformatted {words words' : List String} (hformat : announcedFormat words = none)
      (h : List.Forall₂ C words words') : WordForWord C F words words'
  | formatted {chain chain' : List String} {f f' : String} (h : List.Forall₂ C chain chain')
      (hformat : ∀ op, lastOperator? chain = some op → F op f f') :
      WordForWord C F (chain ++ [formatWord, f]) (chain' ++ [formatWord, f'])

section WordForWord

variable {p : Present} {words words' : List String}

/-- Chains of words that mean the same are alike. -/
lemma chainsAlike_of_forall₂ (h : List.Forall₂ p.SameMeaning words words') :
    ChainsAlike Eq p p words words' := by
  constructor
  · induction h with
    | nil => rfl
    | cons hab hrest ih => rw [List.map_cons, List.map_cons, hab.operator, ih]
  · intro i a b _ ha hb
    obtain ⟨hi, rfl⟩ := List.getElem?_eq_some_iff.mp ha
    obtain ⟨hi', rfl⟩ := List.getElem?_eq_some_iff.mp hb
    exact (h.get hi hi').operand

/-- Of lists of words that mean the same both end in the word for formats or neither does. -/
lemma getLast?_eq_formatWord_iff (h : List.Forall₂ p.SameMeaning words words') :
    words.getLast? = some formatWord ↔ words'.getLast? = some formatWord := by
  induction h with
  | nil => rfl
  | cons hab hrest ih =>
    cases hrest with
    | nil => simpa using hab.announces
    | cons hnext hlater => simpa [List.getLast?_cons_cons] using ih

/-- Of lists of words that mean the same both announce a format or neither does. -/
lemma announcedFormat_eq_none_iff_of_forall₂ (h : List.Forall₂ p.SameMeaning words words') :
    announcedFormat words = none ↔ announcedFormat words' = none := by
  have hbefore : List.Forall₂ p.SameMeaning words.dropLast words'.dropLast := by
    rw [List.dropLast_eq_take, List.dropLast_eq_take, h.length_eq]
    exact List.forall₂_take _ h
  rw [announcedFormat_eq_none_iff, announcedFormat_eq_none_iff]
  exact (getLast?_eq_formatWord_iff hbefore).not

variable {C : String → String → Prop} {F : Operator → String → String → Prop}

/-- Lists of words are alike that differ word for word, where the words mean the same and so do the
formats. -/
lemma wordsAlike_of_wordForWord (hC : ∀ a b, C a b → p.SameMeaning a b)
    (hF : ∀ op f f', F op f f' → Alike Eq (formatAfter op f) (formatAfter op f'))
    (h : WordForWord C F words words') : WordsAlike Eq p p words words' := by
  cases h with
  | unformatted hformat h =>
    have hmeaning := h.imp hC
    have hformat' := (announcedFormat_eq_none_iff_of_forall₂ hmeaning).mp hformat
    refine ⟨?_, ?_, ?_⟩
    · rw [chainWords_of_unannounced hformat, chainWords_of_unannounced hformat']
      exact chainsAlike_of_forall₂ hmeaning
    · rw [Dangling, Dangling, hformat, hformat', getLast?_eq_formatWord_iff hmeaning]
    · intro op _
      rw [hformat, hformat']
      exact .none
  | formatted h hformat =>
    refine ⟨?_, ?_, ?_⟩
    · rw [chainWords_append, chainWords_append]
      exact chainsAlike_of_forall₂ (h.imp hC)
    · simp [Dangling]
    · intro op hop
      rw [chainWords_append] at hop
      rw [announcedFormat_append, announcedFormat_append]
      exact .some (hF _ _ _ (hformat op hop))

/-- Lists of words that differ word for word, where the words mean the same and so do the formats,
come to the same and are shown alike, or fail for the same cause. -/
theorem evaluate_alike_of_wordForWord (hC : ∀ a b, C a b → p.SameMeaning a b)
    (hF : ∀ op f f', F op f f' → Alike Eq (formatAfter op f) (formatAfter op f'))
    (h : WordForWord C F words words') : Alike Eq (evaluate p words) (evaluate p words') :=
  evaluate_alike_of_wordsAlike rfl (wordsAlike_of_wordForWord hC hF h)

end WordForWord

/-! ## Other spellings -/

/-- Two words are spellings of one word: they are the same, or they are durations that differ in the
word for the unit, or words for one anchor, or for one operator. -/
inductive Respelled : String → String → Prop
  | same (word : String) : Respelled word word
  | duration {amount name name' : String} {u : TimeUnit} {d : Duration}
      (hamount : ∀ c ∈ amount.toList, c.isAlpha = false) (hname : name ∈ u.words)
      (hname' : name' ∈ u.words) (h : Duration.parse? (amount ++ name) = some d) :
      Respelled (amount ++ name) (amount ++ name')
  | anchor {spellings : List String} {word word' : String}
      (hspellings : spellings ∈ Present.anchorSpellings) (h : word ∈ spellings)
      (h' : word' ∈ spellings) : Respelled word word'
  | operator {op : Operator} {spelling spelling' : String}
      (h : Operator.ofSpelling? spelling = some op)
      (h' : Operator.ofSpelling? spelling' = some op) : Respelled spelling spelling'

/-- Two formats are spellings of one format: they are the same, or after a difference words for one
unit. -/
inductive Operator.RespelledFormat : Operator → String → String → Prop
  | same (op : Operator) (f : String) : RespelledFormat op f f
  | unit {u : TimeUnit} {f f' : String} (h : f ∈ u.words) (h' : f' ∈ u.words) :
    RespelledFormat .difference f f'

/-- The words for a unit are words for no other. -/
lemma TimeUnit.ofWord?_of_mem {u : TimeUnit} {word : String} (h : word ∈ u.words) :
    ofWord? word = some u := by
  have hall : ∀ word ∈ u.words, ofWord? word = some u := by cases u <;> decide
  exact hall word h

/-- A text falls at its first letter into what has no letters and a word for a unit. -/
lemma TimeUnit.takeWhile_append {cs : List Char} {name : String} {u : TimeUnit}
    (hcs : ∀ c ∈ cs, c.isAlpha = false) (hname : name ∈ u.words) :
    (cs ++ name.toList).takeWhile (fun c => !c.isAlpha) = cs ∧
      (cs ++ name.toList).dropWhile (fun c => !c.isAlpha) = name.toList := by
  have hletters : ∀ word ∈ u.words, word.toList.takeWhile (fun c => !c.isAlpha) = [] ∧
      word.toList.dropWhile (fun c => !c.isAlpha) = word.toList := by
    cases u <;> decide
  obtain ⟨htake, hdrop⟩ := hletters name hname
  have hcs' : ∀ c ∈ cs, (!c.isAlpha) = true := fun c hc => by rw [hcs c hc]; rfl
  rw [List.takeWhile_append_of_pos hcs', List.dropWhile_append_of_pos hcs', htake, hdrop,
    List.append_nil]
  exact ⟨rfl, rfl⟩

/-- What a duration is, by what stands before the word for its unit. -/
theorem Duration.parse?_append {amount name : String} {u : TimeUnit}
    (hamount : ∀ c ∈ amount.toList, c.isAlpha = false) (hname : name ∈ u.words) :
    parse? (amount ++ name) =
      (if amount.toList.isEmpty then some Magnitude.one else Magnitude.ofChars? amount.toList).map
        fun m => ⟨m, u⟩ := by
  obtain ⟨htake, hdrop⟩ := TimeUnit.takeWhile_append hamount hname
  rw [parse?, ofChars?, String.toList_append, htake, hdrop, String.ofList_toList,
    TimeUnit.ofWord?_of_mem hname]
  by_cases hempty : amount.toList.isEmpty = true
  · simp [hempty]
  · cases Magnitude.ofChars? amount.toList <;> simp [hempty]

/-- Other spellings of a duration are the same duration. -/
lemma Duration.parse?_append_eq {amount name name' : String} {u : TimeUnit}
    (hamount : ∀ c ∈ amount.toList, c.isAlpha = false) (hname : name ∈ u.words)
    (hname' : name' ∈ u.words) : parse? (amount ++ name) = parse? (amount ++ name') := by
  rw [parse?_append hamount hname, parse?_append hamount hname']

/-- The words for one anchor denote the same instant. -/
lemma Present.exists_ofWord?_of_mem (p : Present) {spellings : List String}
    (hspellings : spellings ∈ anchorSpellings) :
    ∃ i ∈ p.anchors, ∀ word ∈ spellings, p.ofWord? word = some i := by
  simp only [anchorSpellings, List.mem_cons, List.not_mem_nil, or_false] at hspellings
  rcases hspellings with rfl | rfl | rfl | rfl
  · exact ⟨p.today, by simp [anchors], fun word h => if_pos h⟩
  · exact ⟨p.now, by simp [anchors], List.forall_mem_singleton.mpr rfl⟩
  · exact ⟨p.tomorrow, by simp [anchors], List.forall_mem_singleton.mpr rfl⟩
  · exact ⟨p.yesterday, by simp [anchors], List.forall_mem_singleton.mpr rfl⟩

/-- Spellings of one word mean the same. -/
lemma Respelled.sameMeaning (p : Present) {a b : String} (h : Respelled a b) :
    p.SameMeaning a b := by
  cases h with
  | same => exact .refl _
  | duration hamount hname hname' h =>
    have h' := (Duration.parse?_append_eq hamount hname hname').symm.trans h
    exact .of_operandOf (p.operandOf_of_parse? h) (p.operandOf_of_parse? h')
  | anchor hspellings h h' =>
    obtain ⟨i, -, hi⟩ := p.exists_ofWord?_of_mem hspellings
    exact .of_operandOf (p.operandOf_of_ofWord? (hi _ h)) (p.operandOf_of_ofWord? (hi _ h'))
  | operator h h' => exact .of_spelling h h'

/-- Spellings of one format mean the same after an operator. -/
lemma Operator.RespelledFormat.alike {op : Operator} {f f' : String}
    (h : op.RespelledFormat f f') : Alike Eq (formatAfter op f) (formatAfter op f') := by
  cases h with
  | same => exact .refl _ fun _ _ => rfl
  | unit h h' =>
    rw [formatAfter_of_takes (.unit (TimeUnit.ofWord?_of_mem h)),
      formatAfter_of_takes (.unit (TimeUnit.ofWord?_of_mem h'))]
    exact .ok rfl

/-- Spelling does not matter: lists of words of which the words are spellings of the same words, and
the formats of the same format, come to the same and are shown alike, or fail for the same cause. -/
theorem evaluate_respelled (p : Present) {words words' : List String}
    (h : WordForWord Respelled Operator.RespelledFormat words words') :
    Alike Eq (evaluate p words) (evaluate p words') :=
  evaluate_alike_of_wordForWord (fun _ _ => Respelled.sameMeaning p)
    (fun _ _ _ => Operator.RespelledFormat.alike) h

/-- An hour and a half from midnight in New York, in minutes. The amount of the duration has a point,
and its unit, the operators, the anchor and the format are spelled in two ways. -/
theorem evaluate_respelled_minutes :
    ∃ p, Present.ofNow Zone.newYork ⟨1772895600, 0, by decide⟩ = .ok p ∧
      WordForWord Respelled Operator.RespelledFormat
        ["td", "+", "1.5h", "diff", "today", "to", "min"]
        ["today", "+", "1.5hours", "--", "td", "to", "minutes"] ∧
      evaluate p ["td", "+", "1.5h", "diff", "today", "to", "min"] = .ok ⟨.count 90, "90"⟩ ∧
      evaluate p ["today", "+", "1.5hours", "--", "td", "to", "minutes"] = .ok ⟨.count 90, "90"⟩ := by
  let p : Present :=
    ⟨Zone.newYork, ⟨⟨1772895600, 0, by decide⟩, -18000⟩, ⟨⟨1772859600, 0, by decide⟩, -18000⟩,
      ⟨⟨1772946000, 0, by decide⟩, -18000⟩, ⟨⟨1772773200, 0, by decide⟩, -18000⟩⟩
  have hp : Present.ofNow Zone.newYork ⟨1772895600, 0, by decide⟩ = .ok p := by decide +kernel
  have hamount : ∀ c ∈ "1.5".toList, c.isAlpha = false := by simp
  have hduration : Respelled "1.5h" "1.5hours" :=
    @Respelled.duration _ "h" "hours" .hours ⟨⟨1500000000, by decide⟩, .hours⟩ hamount (by decide)
      (by decide) (by decide +kernel)
  have hanchor : ∀ a ∈ Present.todayWords, ∀ b ∈ Present.todayWords, Respelled a b :=
    fun a ha b hb => .anchor (by decide : Present.todayWords ∈ Present.anchorSpellings) ha hb
  have hchain : List.Forall₂ Respelled ["td", "+", "1.5h", "diff", "today"]
      ["today", "+", "1.5hours", "--", "td"] :=
    .cons (hanchor _ (by decide) _ (by decide)) <| .cons (.same _) <| .cons hduration <|
      .cons (@Respelled.operator .difference _ _ rfl rfl) <|
        .cons (hanchor _ (by decide) _ (by decide)) .nil
  have hwords : WordForWord Respelled Operator.RespelledFormat
      ["td", "+", "1.5h", "diff", "today", "to", "min"]
      ["today", "+", "1.5hours", "--", "td", "to", "minutes"] := by
    refine .formatted hchain fun op hop => ?_
    have hlast : lastOperator? ["td", "+", "1.5h", "diff", "today"] = some .difference := by decide
    rw [hlast] at hop
    cases hop
    exact @Operator.RespelledFormat.unit .minutes _ _ (by decide) (by decide)
  have hvalue : evaluate p ["td", "+", "1.5h", "diff", "today", "to", "min"] =
      .ok ⟨.count 90, "90"⟩ := by
    decide +kernel
  have halike := evaluate_respelled p hwords
  rw [hvalue] at halike
  exact ⟨p, hp, hwords, hvalue, halike.eq_ok⟩

end Almanac

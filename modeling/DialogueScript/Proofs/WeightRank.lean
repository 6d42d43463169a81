import DialogueScript.Proofs.ScriptLines
import DialogueScript.Proofs.TagOpenings
import DialogueScript.Proofs.WeightTags

/-!
# How weights rank

Among the patterns of one level the weight comes first.  A weight of `2 ^ 32` or more counts as 0,
so a pattern with such a weight stands among those without one.  A weight tag is part of the text
whose words are counted: behind a space or a wildcard it is one word more, and no wildcard stands
alone beside it.
-/

namespace DialogueScript

open Pattern

/-! ## Patterns of one level -/

namespace Pattern

theorem weightLe_iff {p q : Text} :
    weightLe p q ↔ weight q < weight p ∨ weight p = weight q ∧ shapeLe p q := by
  simp [weightLe, byKey]

theorem shapeLe_iff {p q : Text} :
    shapeLe p q ↔ (shape p).precedes (shape q) ∨ shape p = shape q ∧ wordCount q ≤ wordCount p := by
  have hwords : ∀ m n : Nat, n < m ∨ m = n ↔ n ≤ m := by omega
  simp [shapeLe, byKey, hwords]

end Pattern

section OneLevel

variable {candidates : List Candidate} {level : Int}
  (hlevel : ∀ candidate ∈ candidates, candidate.rankLevel = level)

include hlevel

theorem matchOrder_of_rankLevel_eq :
    matchOrder candidates = ((candidates.map Candidate.text).mergeSort weightLe).eraseDups := by
  have hrank : ∀ a ∈ candidates, ∀ b ∈ candidates,
      (Rank.ofCandidate a).le (Rank.ofCandidate b) = weightLe a.text b.text := by
    intro a ha b hb
    rw [congrFun (congrFun Rank.le_ofCandidate_eq a) b, byKey, hlevel a ha, hlevel b hb]
    simp
  rw [matchOrder_eq_mergeSort, List.map_mergeSort hrank]

theorem idxOf_matchOrder_lt_iff
    {p q : Text} (hp : p ∈ candidates.map Candidate.text) (hq : q ∈ candidates.map Candidate.text)
    (hne : p ≠ q) :
    (matchOrder candidates).idxOf p < (matchOrder candidates).idxOf q ↔
      weightLe p q ∧ (weightLe q p →
        (candidates.map Candidate.text).idxOf p < (candidates.map Candidate.text).idxOf q) := by
  have hsorted := stablySorted_mergeSort weightLe_trans weightLe_total
    (candidates.map Candidate.text)
  rw [matchOrder_of_rankLevel_eq hlevel,
    idxOf_eraseDups_lt_iff (List.mem_mergeSort.mpr hp) (List.mem_mergeSort.mpr hq),
    hsorted.idxOf_lt_iff weightLe_total hp hq hne]

end OneLevel

theorem matchOrder_pair
    {a b : Candidate} (hlevel : a.rankLevel = b.rankLevel) (hne : a.text ≠ b.text) :
    matchOrder [a, b] =
      if weightLe a.text b.text then [a.text, b.text] else [b.text, a.text] := by
  have hpair : ∀ candidate ∈ [a, b], candidate.rankLevel = b.rankLevel := by
    simp [hlevel]
  rw [matchOrder_of_rankLevel_eq hpair]
  cases hle : weightLe a.text b.text <;>
    simp [List.mergeSort, hle, List.eraseDups_cons, hne, hne.symm]

/-! ## Weights of any size -/

namespace Pattern

/-- The number in the last weight tag of a pattern, 0 without one. -/
def statedWeight (pattern : Text) : Nat :=
  ((Text.tags Tag.weight? pattern).getLast?.map Number.ofDigits).getD 0

/-- A stated weight counts unless it is too large. -/
theorem weight_eq
    {pattern : Text}
    (hdigits : ∀ digits ∈ (Text.tags Tag.weight? pattern).getLast?, digits.all Char.isDigit) :
    weight pattern = if statedWeight pattern < 2 ^ 32 then statedWeight pattern else 0 := by
  unfold weight statedWeight
  cases hlast : (Text.tags Tag.weight? pattern).getLast? with
  | none => rfl
  | some digits =>
    have hsome := Tag.ne_nil_of_mem_tags (List.mem_of_getLast? hlast)
    have hvalue := Number.digits?_of_isDigit hsome (List.all_eq_true.mp (hdigits digits hlast))
    have hlimit : UInt32.size = 2 ^ 32 := by decide
    simp only [hvalue, hlimit, Option.map_some, Option.getD_some, Option.filter,
      decide_eq_true_eq]
    split <;> rfl

end Pattern

/-- Of two patterns of one level, the one that states the larger weight stands first, as long as the
weight is below `2 ^ 32`.  A larger one counts for nothing: the pattern then stands first only if
the other weight counts for nothing either, and shape, words and places decide. -/
theorem idxOf_matchOrder_lt_iff_of_heavier
    {candidates : List Candidate} {level : Int}
    (hlevel : ∀ candidate ∈ candidates, candidate.rankLevel = level) {p q : Text}
    (hp : p ∈ candidates.map Candidate.text) (hq : q ∈ candidates.map Candidate.text)
    (hpdigits : ∀ digits ∈ (Text.tags Tag.weight? p).getLast?, digits.all Char.isDigit)
    (hqdigits : ∀ digits ∈ (Text.tags Tag.weight? q).getLast?, digits.all Char.isDigit)
    (hheavier : statedWeight q < statedWeight p) :
    (matchOrder candidates).idxOf p < (matchOrder candidates).idxOf q ↔
      statedWeight p < 2 ^ 32 ∨
        (statedWeight q = 0 ∨ 2 ^ 32 ≤ statedWeight q) ∧ shapeLe p q ∧ (shapeLe q p →
          (candidates.map Candidate.text).idxOf p < (candidates.map Candidate.text).idxOf q) := by
  have hne : p ≠ q := fun heq => absurd (heq ▸ hheavier) (lt_irrefl _)
  have hpweight := weight_eq hpdigits
  have hqweight := weight_eq hqdigits
  rw [idxOf_matchOrder_lt_iff hlevel hp hq hne, weightLe_iff, weightLe_iff]
  by_cases hcounts : statedWeight p < 2 ^ 32
  · rw [if_pos hcounts] at hpweight
    rw [if_pos (hheavier.trans hcounts)] at hqweight
    simp only [hpweight, hqweight, hcounts, hheavier, hheavier.ne, hheavier.not_gt, true_or,
      false_and, or_self, false_implies, and_self]
  · rw [if_neg hcounts] at hpweight
    by_cases hnone : statedWeight q = 0 ∨ 2 ^ 32 ≤ statedWeight q
    · have hqzero : weight q = 0 := by
        rw [hqweight]
        split <;> omega
      simp only [hpweight, hqzero, hcounts, hnone, lt_irrefl, true_and, false_or]
    · have hqpos : 0 < weight q := by
        rw [hqweight]
        split <;> omega
      simp only [hpweight, hqpos.ne, hcounts, hnone, not_lt_zero, false_and, or_self]

theorem uncounted_weight_leaves_shapes_to_decide :
    let candidates : List Candidate :=
      [⟨none, "* you".toList⟩, ⟨none, "hello you\x7bweight=4294967296\x7d".toList⟩]
    let p := "hello you\x7bweight=4294967296\x7d".toList
    let q := "* you".toList
    statedWeight q < statedWeight p ∧ ¬statedWeight p < 2 ^ 32 ∧
      (matchOrder candidates).idxOf p < (matchOrder candidates).idxOf q := by
  intro candidates p q
  have hlevel : ∀ candidate ∈ candidates, candidate.rankLevel = -1 := by
    decide +kernel
  have horder := idxOf_matchOrder_lt_iff_of_heavier hlevel (show p ∈ _ by decide +kernel)
    (show q ∈ _ by decide +kernel) (by decide +kernel) (by decide +kernel) (by decide +kernel)
  exact ⟨by decide +kernel, by decide +kernel, horder.mpr (by decide +kernel)⟩

theorem heaviest_pattern_stands_behind_lighter :
    let candidates : List Candidate :=
      [⟨none, "* there\x7bweight=4294967296\x7d".toList⟩, ⟨none, "hello *\x7bweight=1\x7d".toList⟩]
    let p := "* there\x7bweight=4294967296\x7d".toList
    let q := "hello *\x7bweight=1\x7d".toList
    statedWeight p = 4294967296 ∧ statedWeight q = 1 ∧
      (matchOrder candidates).idxOf q < (matchOrder candidates).idxOf p := by
  decide +kernel

/-! ## One weight for all -/

namespace Numeral

variable (weight : Numeral)

theorem mem_weightTag {c : Char} :
    c ∈ weight.weightTag ↔ c ∈ "\x7bweight=".toList ∨ c ∈ weight.digits ∨ c = '\x7d' := by
  unfold weightTag
  generalize "\x7bweight=".toList = lead
  simp

theorem not_mem_weightTag
    {c : Char} (hlead : c ∉ "\x7bweight=".toList) (hend : c ≠ '\x7d') (hdigit : c.isDigit = false) :
    c ∉ weight.weightTag := by
  rw [mem_weightTag]
  rintro (hmem | hmem | hmem)
  · exact hlead hmem
  · exact Bool.false_ne_true (hdigit.symm.trans (weight.isDigit c hmem))
  · exact hend hmem

theorem separatesWords_of_mem_weightTag {c : Char} (hmem : c ∈ weight.weightTag) :
    separatesWords c = false := by
  rw [← Bool.not_eq_true]
  intro hseparates
  simp only [separatesWords, Bool.or_eq_true, decide_eq_true_eq] at hseparates
  rcases hseparates with (((rfl | rfl) | rfl) | rfl) | rfl <;>
    exact weight.not_mem_weightTag (by decide) (by decide) (by decide) hmem

theorem pieces_inherits?_weightTag :
    Text.pieces Tag.inherits? weight.weightTag = weight.weightTag.map .char := by
  have hopened : Text.Opened ["\x7binherits=".toList] "\x7bweight=".toList := by decide
  have hplain : Text.Plain (weight.digits ++ ['\x7d']) := by
    refine List.forall_mem_append.mpr ⟨fun c hc => ?_, by simp⟩
    constructor <;> rintro rfl <;> exact absurd (weight.isDigit _ hc) (by decide)
  have hfinds := (Text.opensWith_numbered? "\x7binherits=".toList "\x7d".toList).findsIn_chars
    (by decide) hopened hplain
  rw [← List.append_assoc] at hfinds
  exact hfinds.pieces_eq

end Numeral

namespace Candidate

/-- The candidate with a weight tag behind its pattern. -/
def weighted (weight : Numeral) (candidate : Candidate) : Candidate :=
  { candidate with pattern := candidate.pattern ++ weight.weightTag }

variable (weight : Numeral) (candidate : Candidate)

theorem text_weighted : (candidate.weighted weight).text = candidate.text ++ weight.weightTag := by
  rw [text, weighted, Tag.dropInherits, Text.replaceTags_append weight.stopsBefore_inherits?,
    Text.replaceTags, Text.replaceTags, weight.pieces_inherits?_weightTag]
  simp [text, Tag.dropInherits, Text.replaceTags, List.flatMap_map]

theorem rankLevel_weighted : (candidate.weighted weight).rankLevel = candidate.rankLevel := by
  have htags : Text.tags Tag.inherits? (candidate.pattern ++ weight.weightTag) =
      Text.tags Tag.inherits? candidate.pattern := by
    rw [Text.tags_append weight.stopsBefore_inherits?, Text.tags, Text.tags,
      weight.pieces_inherits?_weightTag]
    simp [List.filterMap_map]
  rw [rankLevel, rankLevel, weighted, htags]

end Candidate

namespace Pattern

/-- Whether the last character of a pattern belongs to a word. -/
def endsInWord (pattern : Text) : Bool :=
  pattern.getLast?.any fun c => !separatesWords c

/-- The shape of a pattern that gets a word more. -/
def Shape.besideWord : Shape → Shape
  | .bareAlpha => .alpha
  | .bareNumber => .number
  | .bareStar => .star
  | shape => shape

theorem wordCount_cons (c : Char) (rest : Text) :
    wordCount (c :: rest) =
      wordCount rest + if !separatesWords c && rest.head?.all separatesWords then 1 else 0 := by
  unfold wordCount
  cases hc : separatesWords c with
  | true => simp [Text.split, hc]
  | false =>
    cases rest with
    | nil => simp [Text.split, hc]
    | cons d rest =>
      cases hd : separatesWords d with
      | true => simp [Text.split, hc, hd]
      | false =>
        cases hsplit : Text.split separatesWords rest <;> simp [Text.split, hc, hd, hsplit]

theorem wordCount_append_word
    {word : Text} (hword : ∀ c ∈ word, separatesWords c = false) (hne : word ≠ [])
    (pattern : Text) :
    wordCount (pattern ++ word) = wordCount pattern + if endsInWord pattern then 0 else 1 := by
  have hhead : ∀ c ∈ word.head?, separatesWords c = false :=
    fun c hc => hword c (List.mem_of_mem_head? hc)
  have hsingle : wordCount word = 1 := by
    rw [wordCount, Text.split_eq_singleton fun c hc => by simp [hword c hc]]
    simp [hne]
  induction pattern with
  | nil => exact hsingle
  | cons c rest ih =>
    rw [List.cons_append, wordCount_cons, wordCount_cons, ih]
    cases rest with
    | nil =>
      obtain ⟨d, word, rfl⟩ := List.exists_cons_of_ne_nil hne
      have hd : separatesWords d = false := hhead d rfl
      cases hc : separatesWords c <;> simp [endsInWord, hc, hd]
    | cons d rest =>
      have hends : endsInWord (c :: d :: rest) = endsInWord (d :: rest) := by
        rw [endsInWord, endsInWord, List.getLast?_cons_cons]
      rw [hends, List.cons_append, List.head?_cons, List.head?_cons, Nat.add_right_comm]

theorem wordCount_append_weightTag (pattern : Text) (weight : Numeral) :
    wordCount (pattern ++ weight.weightTag) =
      wordCount pattern + if endsInWord pattern then 0 else 1 :=
  wordCount_append_word (fun _ hc => weight.separatesWords_of_mem_weightTag hc)
    (List.append_ne_nil_of_right_ne_nil _ (List.cons_ne_nil _ _)) pattern

theorem wordCount_pos_of_endsInWord {pattern : Text} (hends : endsInWord pattern) :
    0 < wordCount pattern := by
  induction pattern with
  | nil => simp [endsInWord] at hends
  | cons c rest ih =>
    rw [wordCount_cons]
    cases rest with
    | nil => simp_all [endsInWord]
    | cons d rest => exact Nat.lt_of_lt_of_le (ih hends) (Nat.le_add_right _ _)

theorem shape_append_weightTag (pattern : Text) (weight : Numeral) :
    shape (pattern ++ weight.weightTag) = (shape pattern).besideWord := by
  have hwords : wordCount (pattern ++ weight.weightTag) ≠ 0 := by
    rw [wordCount_append_weightTag]
    cases hends : endsInWord pattern with
    | true => exact (wordCount_pos_of_endsInWord hends).ne'
    | false => simp
  have hmem : ∀ c ∈ ['_', '#', '*', '['], c ∈ pattern ++ weight.weightTag ↔ c ∈ pattern := by
    intro c hc
    have hnot : c ∉ weight.weightTag := by
      simp only [List.mem_cons, List.not_mem_nil, or_false] at hc
      rcases hc with rfl | rfl | rfl | rfl <;>
        exact weight.not_mem_weightTag (by decide) (by decide) (by decide)
    rw [List.mem_append, or_iff_left hnot]
  simp only [List.forall_mem_cons] at hmem
  obtain ⟨halpha, hnumber, hstar, hoptional, -⟩ := hmem
  simp only [shape, hwords, halpha, hnumber, hstar, hoptional, if_false]
  split_ifs <;> rfl

theorem weight_append_weightTag (pattern : Text) (weight : Numeral) :
    Pattern.weight (pattern ++ weight.weightTag) =
      ((Number.digits? weight.digits).filter (· < UInt32.size)).getD 0 := by
  rw [Pattern.weight, weight.tags_weight?_append, List.getLast?_concat]

theorem weightLe_append_weightTag (p q : Text) (weight : Numeral) :
    weightLe (p ++ weight.weightTag) (q ++ weight.weightTag) ↔
      shapeLe (p ++ weight.weightTag) (q ++ weight.weightTag) := by
  rw [weightLe_iff, weight_append_weightTag, weight_append_weightTag]
  simp

theorem weightLe_of_untagged
    {p q : Text} (hp : Text.tags Tag.weight? p = []) (hq : Text.tags Tag.weight? q = []) :
    weightLe p q ↔ shapeLe p q := by
  simp [weightLe_iff, weight, hp, hq]

/-- A tag behind a word changes neither the shape nor the number of words. -/
theorem shapeLe_append_weightTag_of_endsInWord
    {p q : Text} (hp : endsInWord p) (hq : endsInWord q) (weight : Numeral) :
    shapeLe (p ++ weight.weightTag) (q ++ weight.weightTag) ↔ shapeLe p q := by
  have hshape : ∀ {pattern : Text}, endsInWord pattern →
      (shape pattern).besideWord = shape pattern := by
    intro pattern hends
    have hwords := (wordCount_pos_of_endsInWord hends).ne'
    simp only [shape, hwords, if_false]
    split_ifs <;> rfl
  simp only [shapeLe_iff, shape_append_weightTag, wordCount_append_weightTag, hshape hp, hshape hq,
    if_pos hp, if_pos hq, Nat.add_zero]

end Pattern

section Weighted

variable {weight : Numeral}

theorem matchOrder_map_weighted
    {candidates : List Candidate}
    (huntagged : ∀ candidate ∈ candidates, Text.tags Tag.weight? candidate.text = [])
    (hsame : ∀ a ∈ candidates, ∀ b ∈ candidates, a.rankLevel = b.rankLevel →
      (shapeLe (a.text ++ weight.weightTag) (b.text ++ weight.weightTag) ↔
        shapeLe a.text b.text)) :
    matchOrder (candidates.map (Candidate.weighted weight)) =
      (matchOrder candidates).map (· ++ weight.weightTag) := by
  have hrank : ∀ a ∈ candidates, ∀ b ∈ candidates,
      (Rank.ofCandidate a).le (Rank.ofCandidate b) =
        (Rank.ofCandidate (a.weighted weight)).le (Rank.ofCandidate (b.weighted weight)) := by
    intro a ha b hb
    have hle := fun a b => congrFun (congrFun Rank.le_ofCandidate_eq a) b
    rw [Bool.eq_iff_iff, hle, hle]
    simp only [byKey, Candidate.rankLevel_weighted, Candidate.text_weighted, Bool.or_eq_true,
      Bool.and_eq_true, decide_eq_true_eq, weightLe_append_weightTag,
      weightLe_of_untagged (huntagged a ha) (huntagged b hb)]
    exact or_congr_right (and_congr_right fun hlevel => (hsame a ha b hb hlevel).symm)
  have hinjective : Function.Injective fun text : Text => text ++ weight.weightTag :=
    fun _ _ => List.append_cancel_right
  have hsort := List.map_mergeSort (f := Candidate.weighted weight)
    (s := fun a b => (Rank.ofCandidate a).le (Rank.ofCandidate b)) hrank
  rw [matchOrder_eq_mergeSort, matchOrder_eq_mergeSort, ← hsort,
    ← eraseDups_map_of_injective hinjective, List.map_map, List.map_map]
  congr 2
  exact funext (Candidate.text_weighted weight)

theorem shapeLe_append_weightTag_of_pair
    {a b : Candidate} (ha : Text.tags Tag.weight? a.text = [])
    (hb : Text.tags Tag.weight? b.text = [])
    (hlevel : a.rankLevel = b.rankLevel)
    (hpair : matchOrder ([a, b].map (Candidate.weighted weight)) =
      (matchOrder [a, b]).map (· ++ weight.weightTag)) :
    shapeLe (a.text ++ weight.weightTag) (b.text ++ weight.weightTag) ↔ shapeLe a.text b.text := by
  by_cases hne : a.text = b.text
  · have hrefl : ∀ text, shapeLe text text := fun text => by simpa using shapeLe_total text text
    rw [hne]
    exact iff_of_true (hrefl _) (hrefl _)
  · have htagged : (a.weighted weight).text ≠ (b.weighted weight).text := by
      simpa [Candidate.text_weighted] using hne
    have hlevels : (a.weighted weight).rankLevel = (b.weighted weight).rankLevel := by
      rw [Candidate.rankLevel_weighted, Candidate.rankLevel_weighted, hlevel]
    rw [List.map_cons, List.map_cons, List.map_nil, matchOrder_pair hlevels htagged,
      matchOrder_pair hlevel hne, Candidate.text_weighted, Candidate.text_weighted] at hpair
    rw [← weightLe_append_weightTag, ← weightLe_of_untagged ha hb]
    split_ifs at hpair with htag hplain hplain
    · exact iff_of_true htag hplain
    · simp [hne] at hpair
    · simp [hne] at hpair
    · exact iff_of_false htag hplain

end Weighted

/-- One weight for all patterns keeps their order as long as the tag leaves every two patterns of
one level in their order by shape and words.  It does so behind patterns that end in a word; behind
others it is one word more, and what was a wildcard alone has a word beside it. -/
theorem matchOrder_weighted_iff
    (weight : Numeral) {admitted : Candidate → Prop}
    (huntagged : ∀ candidate, admitted candidate → Text.tags Tag.weight? candidate.text = []) :
    (∀ pattern, shape (pattern ++ weight.weightTag) = (shape pattern).besideWord ∧
      wordCount (pattern ++ weight.weightTag) =
        wordCount pattern + if endsInWord pattern then 0 else 1) ∧
    ((∀ candidates, (∀ candidate ∈ candidates, admitted candidate) →
        matchOrder (candidates.map (Candidate.weighted weight)) =
          (matchOrder candidates).map (· ++ weight.weightTag)) ↔
      ∀ a b, admitted a → admitted b → a.rankLevel = b.rankLevel →
        (shapeLe (a.text ++ weight.weightTag) (b.text ++ weight.weightTag) ↔
          shapeLe a.text b.text)) ∧
    ∀ candidates, (∀ candidate ∈ candidates, admitted candidate ∧ endsInWord candidate.text) →
      matchOrder (candidates.map (Candidate.weighted weight)) =
        (matchOrder candidates).map (· ++ weight.weightTag) := by
  refine ⟨fun pattern => ⟨shape_append_weightTag pattern weight,
    wordCount_append_weightTag pattern weight⟩, ⟨fun hall a b ha hb hlevel => ?_,
    fun hsame candidates hadmitted => ?_⟩, fun candidates hadmitted => ?_⟩
  · refine shapeLe_append_weightTag_of_pair (huntagged a ha) (huntagged b hb) hlevel ?_
    exact hall [a, b] (by simp [ha, hb])
  · exact matchOrder_map_weighted (fun a ha => huntagged a (hadmitted a ha))
      fun a ha b hb => hsame a b (hadmitted a ha) (hadmitted b hb)
  · exact matchOrder_map_weighted (fun a ha => huntagged a (hadmitted a ha).1)
      fun a ha b hb _ =>
        shapeLe_append_weightTag_of_endsInWord (hadmitted a ha).2 (hadmitted b hb).2 weight

theorem matchOrder_weighted_words :
    let weight : Numeral := ⟨['2'], by simp, by simp⟩
    let candidates : List Candidate :=
      [⟨none, "* day".toList⟩, ⟨some 0, "hello".toList⟩, ⟨none, "good [old] day".toList⟩,
        ⟨none, "good day".toList⟩]
    (∀ candidate ∈ candidates, Text.tags Tag.weight? candidate.text = []) ∧
      matchOrder (candidates.map (Candidate.weighted weight)) =
        (matchOrder candidates).map (· ++ weight.weightTag) := by
  intro weight candidates
  have huntagged : ∀ candidate ∈ candidates, Text.tags Tag.weight? candidate.text = [] := by
    decide +kernel
  have hwords : ∀ candidate ∈ candidates, endsInWord candidate.text := by
    decide +kernel
  exact ⟨huntagged, (matchOrder_weighted_iff weight huntagged).2.2 candidates fun candidate hmem =>
    ⟨hmem, hwords candidate hmem⟩⟩

theorem matchOrder_weighted_lone_wildcard :
    let weight : Numeral := ⟨['2'], by simp, by simp⟩
    let candidates : List Candidate := [⟨none, ['_']⟩, ⟨none, "* b".toList⟩]
    (∀ candidate ∈ candidates, Text.tags Tag.weight? candidate.text = []) ∧
      weight.value < 2 ^ 32 ∧
      matchOrder (candidates.map (Candidate.weighted weight)) ≠
        (matchOrder candidates).map (· ++ weight.weightTag) := by
  decide +kernel

end DialogueScript

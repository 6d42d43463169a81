import DialogueScript.Proofs.Numerals
import DialogueScript.Proofs.ShortestStars
import DialogueScript.Proofs.Trimming

/-!
# Weight tags behind a pattern

No tag is read across the front of another one, so a tag that is written behind a pattern is read
apart from it.  A weight tag does not change what a pattern accepts, with one exception: the pattern
that is a star alone takes the empty text, and with a weight tag behind it it does not.
-/

namespace DialogueScript

/-! ## Reading on both sides of a seam -/

namespace Text

/-- A mark is found within the part of a text that stands before a character it does not hold. -/
theorem strip?_append_cons {lead : Text} {c : Char} (hc : c ∉ lead) (text rest : Text) :
    strip? lead (text ++ c :: rest) = (strip? lead text).map (· ++ c :: rest) := by
  induction lead generalizing text with
  | nil => simp [strip?]
  | cons d lead ih =>
    obtain ⟨hd, hlead⟩ := not_or.mp (List.mem_cons.not.mp hc)
    cases text with
    | nil => simp [strip?, Ne.symm hd]
    | cons e text =>
      rw [List.cons_append, strip?, strip?]
      split
      · exact ih hlead text
      · rfl

section Pieces

variable {α : Type} {read? : Text → Option (α × Text)} {tail : Text}

/-- What a reader reads off a text is the same when `tail` stands behind the text. -/
def StopsBefore (read? : Text → Option (α × Text)) (tail : Text) : Prop :=
  ∀ text, text ≠ [] →
    read? (text ++ tail) = (read? text).map fun found => (found.1, found.2 ++ tail)

theorem pieces_append (hstops : StopsBefore read? tail) (text : Text) :
    pieces read? (text ++ tail) = pieces read? text ++ pieces read? tail := by
  induction text using pieces_induction read? with
  | nil => rfl
  | char c text hread ih =>
    have hapart := hstops (c :: text) (List.cons_ne_nil c text)
    rw [hread, List.cons_append] at hapart
    rw [List.cons_append, pieces_of_not_read hread, pieces_of_not_read hapart, ih]
    rfl
  | tag c text tag after hread ih =>
    have hapart := hstops (c :: text) (List.cons_ne_nil c text)
    have hlength : (text ++ tail).length - (after ++ tail).length = text.length - after.length := by
      simp only [List.length_append]
      omega
    rw [hread, List.cons_append] at hapart
    rw [List.cons_append, pieces_cons_of_read hread, pieces_cons_of_read hapart, hlength,
      List.drop_append_of_le_length (Nat.sub_le _ _), ih]
    rfl

theorem tags_append (hstops : StopsBefore read? tail) (text : Text) :
    tags read? (text ++ tail) = tags read? text ++ tags read? tail := by
  simp [tags, pieces_append hstops]

theorem replaceTags_append (hstops : StopsBefore read? tail) (f : α → Text) (text : Text) :
    replaceTags read? f (text ++ tail) = replaceTags read? f text ++ replaceTags read? f tail := by
  simp [replaceTags, pieces_append hstops]

end Pieces

end Text

/-- A tag of digits is not read across the character that opens such tags. -/
theorem Tag.stopsBefore_numbered?
    {opening closing : Text} {c : Char} (hopening : c ∉ opening) (hclosing : c ∉ closing)
    (hdigit : Text.isDecimalDigit c = false) (rest : Text) :
    Text.StopsBefore (numbered? (c :: opening) closing) (c :: rest) := by
  intro text htext
  cases text with
  | nil => exact absurd rfl htext
  | cons d text =>
    rw [numbered?, numbered?, List.cons_append, Text.strip?, Text.strip?]
    by_cases hd : c = d
    · rw [if_pos hd, if_pos hd, Text.strip?_append_cons hopening]
      cases Text.strip? opening text with
      | none => rfl
      | some after =>
        have htake : (after ++ c :: rest).takeWhile Text.isDecimalDigit =
            after.takeWhile Text.isDecimalDigit := by
          rw [List.takeWhile_append, List.takeWhile_cons_of_neg (by simp [hdigit]), List.append_nil]
          split
          · rename_i hlength
            exact ((List.takeWhile_prefix _).eq_of_length hlength).symm
          · rfl
        have hdrop : (after ++ c :: rest).dropWhile Text.isDecimalDigit =
            after.dropWhile Text.isDecimalDigit ++ c :: rest := by
          rw [List.dropWhile_append, List.dropWhile_cons_of_neg (by simp [hdigit])]
          split <;> simp_all
        simp only [Option.map_some, Option.bind_eq_bind, Option.bind_some, htake, hdrop]
        split
        · rfl
        · rw [Text.strip?_append_cons hclosing]
          cases Text.strip? closing (after.dropWhile Text.isDecimalDigit) <;> rfl
    · rw [if_neg hd, if_neg hd]
      rfl

/-! ## Weight tags -/

namespace Numeral

/-- The tag that gives a pattern this weight. -/
def weightTag (numeral : Numeral) : Text :=
  "\x7bweight=".toList ++ numeral.digits ++ ['\x7d']

variable (numeral : Numeral)

theorem pieces_weightTag : Text.pieces Tag.weight? numeral.weightTag = [.tag numeral.digits] := by
  have hdigits : ∀ d ∈ numeral.digits, Text.isDecimalDigit d :=
    fun d hd => isDecimalDigit_of_isDigit (numeral.isDigit d hd)
  have hread := Tag.numbered?_append "\x7bweight=".toList [] [] hdigits numeral.ne_nil
    (show Text.isDecimalDigit '\x7d' = false by decide)
  have hpieces := Text.pieces_of_read (by simp) hread
  rwa [List.append_nil] at hpieces

theorem stopsBefore_weight? : Text.StopsBefore Tag.weight? numeral.weightTag :=
  Tag.stopsBefore_numbered? (by decide) (by decide) (by decide) _

theorem stopsBefore_inherits? : Text.StopsBefore Tag.inherits? numeral.weightTag :=
  Tag.stopsBefore_numbered? (by decide) (by decide) (by decide) _

theorem tags_weight?_append (pattern : Text) :
    Text.tags Tag.weight? (pattern ++ numeral.weightTag) =
      Text.tags Tag.weight? pattern ++ [numeral.digits] := by
  rw [Text.tags_append numeral.stopsBefore_weight?, Text.tags, Text.tags, numeral.pieces_weightTag]
  rfl

theorem dropWeights_append (pattern : Text) :
    Tag.dropWeights (pattern ++ numeral.weightTag) = Tag.dropWeights pattern := by
  rw [Tag.dropWeights, Text.replaceTags_append numeral.stopsBefore_weight?, Text.replaceTags,
    Text.replaceTags, numeral.pieces_weightTag]
  exact List.append_nil _

end Numeral

/-! ## Matching -/

namespace Pattern

theorem trim_append_weightTag_ne (pattern : Text) (weight : Numeral) :
    Text.trim (pattern ++ weight.weightTag) ≠ bareStar := by
  intro hbare
  obtain ⟨front, back, htext, hfront, hback⟩ :=
    Text.exists_eq_append_trim (pattern ++ weight.weightTag)
  have hmem : '\x7d' ∈ pattern ++ weight.weightTag :=
    List.mem_append_right pattern (List.mem_append_right _ List.mem_cons_self)
  rw [htext, hbare] at hmem
  simp only [bareStar, List.mem_append, List.mem_singleton, Char.reduceEq, or_false] at hmem
  rcases hmem with hmem | hmem
  · exact absurd (hfront _ hmem) (by decide)
  · exact absurd (hback _ hmem) (by decide)

/-- A star alone is read as any other pattern when a weight tag stands behind it. -/
theorem parse_append_weightTag (pattern : Text) (weight : Numeral) :
    parse (pattern ++ weight.weightTag) = read (tokens (Tag.dropWeights pattern)) := by
  rw [parse, if_neg (trim_append_weightTag_ne pattern weight), weight.dropWeights_append]

theorem splits_around_star
    {mayBeEmpty : Bool} {front back text : Text} {stars : List Text}
    (hfront : ∀ c ∈ front, isWildcardChar c = false)
    (hback : ∀ c ∈ back, isWildcardChar c = false) :
    Splits mayBeEmpty (front ++ '*' :: back) text stars ↔
      ∃ star, CanTake mayBeEmpty '*' star ∧ text = front ++ star ++ back ∧ stars = [star] := by
  have hnil : ∀ {rest others}, Splits mayBeEmpty back rest others ↔ rest = back ∧ others = [] := by
    intro rest others
    rw [← List.append_nil back, splits_literal hback]
    simp [splits_nil]
  rw [splits_literal hfront]
  simp only [splits_wildcard (show isWildcardChar '*' by decide), hnil]
  constructor
  · rintro ⟨_, rfl, star, _, _, rfl, rfl, hstar, rfl, rfl⟩
    exact ⟨star, hstar, (List.append_assoc front star _).symm, rfl⟩
  · rintro ⟨star, hstar, rfl, rfl⟩
    exact ⟨star ++ back, List.append_assoc front star back, star, [], back, rfl, rfl, hstar, rfl,
      rfl⟩

/-- What stands around a single star is taken as it is, and the star takes the rest. -/
theorem matchSegments?_around_star
    {mayBeEmpty : Bool} {segments : List Segment} {front back : Text}
    (hflat : ∀ segment ∈ segments, IsFlatSegment mayBeEmpty segment)
    (hspell : spell segments = front ++ '*' :: back)
    (hfront : ∀ c ∈ front, isWildcardChar c = false)
    (hback : ∀ c ∈ back, isWildcardChar c = false) (scope : Scope) (text : Text)
    (stars : List Text) :
    matchSegments? scope segments text = some stars ↔
      ∃ star, CanTake mayBeEmpty '*' star ∧ text = front ++ star ++ back ∧ stars = [star] := by
  rw [matchSegments?_eq_some_iff hflat, hspell, ← splits_around_star hfront hback]
  refine ⟨LeastSplit.splits, fun hsplits => ⟨hsplits, fun others hothers => ?_⟩⟩
  obtain ⟨star, -, rfl, rfl⟩ := (splits_around_star hfront hback).mp hsplits
  obtain ⟨other, -, htext, rfl⟩ := (splits_around_star hfront hback).mp hothers
  rw [List.append_cancel_left (List.append_cancel_right htext)]

theorem reference?_eq_none {c : Char} (harray : c ≠ '@') (htag : c ≠ '<') (rest : Text) :
    reference? (c :: rest) = none := by
  unfold reference?
  split
  · rename_i hat
    exact absurd (List.cons.inj hat).1 harray
  · simp [variableName?, historyIndex?, Text.strip?, Ne.symm htag]

theorem weight?_eq_none {c : Char} (hc : c ≠ '\x7b') (rest : Text) :
    Tag.weight? (c :: rest) = none := by
  simp [Tag.weight?, Tag.numbered?, Text.strip?, Ne.symm hc]

/-- A star between white space that is read as any other pattern. -/
theorem read_blanks_around_star
    {front back : Text} (hfront : Blanks front) (hback : Blanks back) :
    let pattern := front ++ '*' :: back
    spell (read (tokens (Tag.dropWeights pattern))) = pattern ∧
      ∀ segment ∈ read (tokens (Tag.dropWeights pattern)), IsFlatSegment false segment := by
  intro pattern
  have hmark : ∀ d ∈ ['\x7b', '@', '<', '[', '('], ∀ c ∈ pattern, c ≠ d := by
    have hother : ∀ d ∈ ['\x7b', '@', '<', '[', '('], Text.isBlank d = false ∧ d ≠ '*' := by
      simp [Text.isBlank]
    rintro d hd _ hmem rfl
    obtain ⟨hnot, hstar⟩ := hother _ hd
    rw [← Bool.not_eq_true] at hnot
    rcases List.mem_append.mp hmem with hmem | hmem
    · exact hnot (hfront _ hmem)
    · exact hnot (hback _ ((List.mem_cons.mp hmem).resolve_left hstar))
  have hweights : Text.pieces Tag.weight? pattern = pattern.map .char :=
    Text.pieces_eq_chars fun c hc rest => weight?_eq_none (hmark '\x7b' (by decide) c hc) rest
  have hreferences : Text.pieces reference? pattern = pattern.map .char :=
    Text.pieces_eq_chars fun c hc rest =>
      reference?_eq_none (hmark '@' (by decide) c hc) (hmark '<' (by decide) c hc) rest
  have htokens : tokens (Tag.dropWeights pattern) = pattern.map .char := by
    simp [tokens, Tag.dropWeights, Text.replaceTags, hweights, hreferences, List.flatMap_map]
  rw [htokens]
  exact read_chars_spec (fun hmem => hmark '[' (by decide) _ hmem rfl)
    (fun hmem => hmark '(' (by decide) _ hmem rfl)

/-- A star alone takes every line, and with a weight tag behind it what is left between the white
space around it, if that is not empty. -/
theorem match?_append_weightTag_of_bareStar
    {pattern : Text} (hbare : Text.trim pattern = bareStar) (weight : Numeral) :
    ∃ front back, pattern = front ++ '*' :: back ∧ Blanks front ∧ Blanks back ∧
      ∀ scope text stars,
        (match? scope pattern text = some stars ↔ '\n' ∉ text ∧ stars = [text]) ∧
        (match? scope (pattern ++ weight.weightTag) text = some stars ↔
          ∃ star, star ≠ [] ∧ '\n' ∉ star ∧ text = front ++ star ++ back ∧ stars = [star]) := by
  obtain ⟨front, back, hpattern, hfront, hback⟩ := Text.exists_eq_append_trim pattern
  rw [hbare, List.append_assoc] at hpattern
  refine ⟨front, back, hpattern, hfront, hback, fun scope text stars => ⟨?_, ?_⟩⟩
  · have hflat : ∀ segment ∈ [Segment.star true], IsFlatSegment true segment := by
      simp [IsFlatSegment]
    have hspell : spell [.star true] = [] ++ '*' :: [] := rfl
    rw [match?, parse, if_pos hbare, matchSegments?_around_star hflat hspell (by simp) (by simp)]
    simp [CanTake]
  · obtain ⟨hspell, hflat⟩ := read_blanks_around_star hfront hback
    have hblanks : ∀ {blanks : Text}, Blanks blanks → ∀ c ∈ blanks, isWildcardChar c = false :=
      fun hall c hc => isWildcardChar_of_isBlank (hall c hc)
    rw [match?, parse_append_weightTag, show pattern = front ++ '*' :: back from hpattern,
      matchSegments?_around_star hflat hspell (hblanks hfront) (hblanks hback)]
    simp [CanTake, and_assoc, and_left_comm]

/-- A weight tag behind a pattern changes nothing of what the pattern accepts, unless the pattern is
a star alone: that takes every line, and with a weight tag it takes no empty line any more. -/
theorem match?_append_weightTag (pattern : Text) (weight : Numeral) :
    ((∀ scope text, match? scope (pattern ++ weight.weightTag) text = match? scope pattern text) ↔
      Text.trim pattern ≠ bareStar) ∧
    (Text.trim pattern = bareStar →
      ∃ front back, pattern = front ++ '*' :: back ∧ Blanks front ∧ Blanks back ∧
        ∀ scope text stars,
          (match? scope pattern text = some stars ↔ '\n' ∉ text ∧ stars = [text]) ∧
          (match? scope (pattern ++ weight.weightTag) text = some stars ↔
            ∃ star, star ≠ [] ∧ '\n' ∉ star ∧ text = front ++ star ++ back ∧ stars = [star])) := by
  refine ⟨⟨fun hsame hbare => ?_, fun hbare scope text => ?_⟩,
    fun hbare => match?_append_weightTag_of_bareStar hbare weight⟩
  · -- the empty text tells the two patterns apart
    obtain ⟨front, back, -, -, -, hmatch⟩ := match?_append_weightTag_of_bareStar hbare weight
    let scope : Scope := ⟨Definitions.empty, Session.new [] 0⟩
    have hempty : match? scope pattern [] = some [[]] := (hmatch scope [] _).1.mpr ⟨by simp, rfl⟩
    rw [← hsame] at hempty
    obtain ⟨star, hstar, -, htext, -⟩ := (hmatch scope [] _).2.mp hempty
    simp [hstar] at htext
  · rw [match?, match?, parse_append_weightTag, parse, if_neg hbare]

theorem weight_tag_hides_empty_text_from_star :
    let scope : Scope := ⟨Definitions.empty, Session.new [] 9⟩
    let weight : Numeral := ⟨['5'], by simp, by simp⟩
    Text.tags Tag.weight? bareStar = [] ∧ match? scope bareStar [] = some [[]] ∧
      match? scope (bareStar ++ weight.weightTag) [] = none := by
  decide

end Pattern

end DialogueScript

import DialogueScript.Pattern.Segment
import DialogueScript.Proofs.MatchOrder

/-!
# Wildcards come last

The match order goes by the characters of a pattern, and matching by its segments.  Both mean the
same by a wildcard, with one exception: the name of an array or of a variable may hold the
character of a wildcard, and a pattern that refers to it is ranked among the wildcards.
-/

namespace DialogueScript

/-! ## What the pieces of a text hold -/

namespace Text

def Piece.holds {α : Type} (p : Char → Bool) (value : α → Bool) : Piece α → Bool
  | .char c => p c
  | .tag a => value a

section Pieces

variable {α : Type} {read? : Text → Option (α × Text)} {p : Char → Bool} {value : α → Bool}

/-- Where every tag tells whether it was read off such a character, the pieces of a text tell
whether it holds one. -/
theorem any_pieces
    (hread : ∀ text a rest, read? text = some (a, rest) →
      ∃ lead, lead ≠ [] ∧ text = lead ++ rest ∧ lead.any p = value a)
    (text : Text) :
    (pieces read? text).any (Piece.holds p value) = text.any p := by
  induction text using pieces_induction read? with
  | nil => rfl
  | char c text hfound ih =>
    rw [pieces_of_not_read hfound, List.any_cons, List.any_cons, ih]
    rfl
  | tag c text a after hfound ih =>
    obtain ⟨lead, hlead, htext, hvalue⟩ := hread _ _ _ hfound
    rw [drop_eq_of_cons_eq_append hlead htext] at ih
    rw [htext] at hfound ⊢
    rw [pieces_of_read hlead hfound, List.any_cons, List.any_append, hvalue, ih]
    rfl

end Pieces

end Text

namespace Pattern

/-! ## Wildcards and names -/

def isWildcardChar (c : Char) : Bool :=
  c = '*' || c = '#' || c = '_'

def isWildcard : Segment → Bool
  | .star _ => true
  | .number => true
  | .alpha => true
  | _ => false

/-- Whether a segment refers to a name that holds the character of a wildcard. -/
def namesWildcard : Segment → Bool
  | .array name => name.any isWildcardChar
  | .botVariable name => name.any isWildcardChar
  | .userVariable name => name.any isWildcardChar
  | _ => false

mutual

/-- Whether `p` holds somewhere in a segment; an optional or a group is looked through. -/
def anySegment (p : Segment → Bool) : Segment → Bool
  | .optional alternatives => anyAlternatives p alternatives
  | .group alternatives => anyAlternatives p alternatives
  | segment => p segment

def anySequence (p : Segment → Bool) : List Segment → Bool
  | [] => false
  | segment :: segments => anySegment p segment || anySequence p segments

def anyAlternatives (p : Segment → Bool) : List (List Segment) → Bool
  | [] => false
  | alternative :: alternatives => anySequence p alternative || anyAlternatives p alternatives

end

section Reading

variable {p : Segment → Bool}

theorem anySequence_append (segments others : List Segment) :
    anySequence p (segments ++ others) = (anySequence p segments || anySequence p others) := by
  induction segments with
  | nil => rfl
  | cons segment segments ih => simp [anySequence, ih, Bool.or_assoc]

theorem anyAlternatives_append (alternatives others : List (List Segment)) :
    anyAlternatives p (alternatives ++ others) =
      (anyAlternatives p alternatives || anyAlternatives p others) := by
  induction alternatives with
  | nil => rfl
  | cons alternative alternatives ih => simp [anyAlternatives, ih, Bool.or_assoc]

theorem anySegment_bracket (bracket : Bracket) (alternatives : List (List Segment)) :
    anySegment p (bracket.segment alternatives) = anyAlternatives p alternatives := by
  cases bracket <;> rfl

/-- What a token contributes to the segments. -/
def Token.any (p : Segment → Bool) : Token → Bool
  | .char '*' => p (.star false)
  | .char '#' => p .number
  | .char '_' => p .alpha
  | .char _ => false
  | .reference segment => anySegment p segment

def Frame.any (p : Segment → Bool) (frame : Frame) : Bool :=
  anyAlternatives p frame.alternatives || anySequence p frame.outer

def Reading.any (p : Segment → Bool) (reading : Reading) : Bool :=
  reading.frames.any (Frame.any p) || anySequence p reading.sequence

theorem Token.any_char_of_not_wildcard {c : Char} (hchar : isWildcardChar c = false) :
    (Token.char c).any p = false := by
  unfold Token.any
  split <;> simp_all [isWildcardChar]

theorem isWildcardChar_eq_false
    {p : Char → Bool} (hp : p '*' = false ∧ p '#' = false ∧ p '_' = false) {c : Char} (hc : p c) :
    isWildcardChar c = false := by
  rw [Bool.eq_false_iff]
  intro hchar
  simp only [isWildcardChar, Bool.or_eq_true, decide_eq_true_eq] at hchar
  rcases hchar with (rfl | rfl) | rfl
  · exact Bool.false_ne_true (hp.1.symm.trans hc)
  · exact Bool.false_ne_true (hp.2.1.symm.trans hc)
  · exact Bool.false_ne_true (hp.2.2.symm.trans hc)

theorem isWildcardChar_of_isBlank {c : Char} (hblank : Text.isBlank c) :
    isWildcardChar c = false :=
  isWildcardChar_eq_false (by decide) hblank

theorem isWildcardChar_of_isDecimalDigit {c : Char} (hdigit : Text.isDecimalDigit c) :
    isWildcardChar c = false :=
  isWildcardChar_eq_false (by decide) hdigit

theorem any_close (frame : Frame) (frames : List Frame) (sequence : List Segment) :
    (Reading.close frame frames sequence).any p =
      (frames.any (Frame.any p) || (frame.any p || anySequence p sequence)) := by
  have hsegment : anySequence p [frame.bracket.segment (frame.alternatives ++ [sequence])] =
      (anyAlternatives p frame.alternatives || anySequence p sequence) := by
    simp [anySequence, anySegment_bracket, anyAlternatives_append, anyAlternatives]
  unfold Reading.close Reading.any Frame.any
  dsimp only
  rw [anySequence_append, hsegment]
  ac_rfl

theorem anySequence_finish (frames : List Frame) (sequence : List Segment) :
    anySequence p (Reading.finish frames sequence) =
      (frames.any (Frame.any p) || anySequence p sequence) := by
  induction frames generalizing sequence with
  | nil => rfl
  | cons frame frames ih =>
    have hclose : (frames.any (Frame.any p) ||
        anySequence p (Reading.close frame frames sequence).sequence) =
        (frames.any (Frame.any p) || (frame.any p || anySequence p sequence)) :=
      any_close frame frames sequence
    rw [Reading.finish, ih, hclose, List.any_cons]
    ac_rfl

variable (hliteral : ∀ text, p (.literal text) = false)

include hliteral

theorem anySequence_pushChar (sequence : List Segment) (c : Char) :
    anySequence p (pushChar sequence c) = anySequence p sequence := by
  unfold pushChar
  split
  · rename_i text hlast
    conv_rhs => rw [← List.dropLast_append_getLast? _ hlast]
    simp [anySequence_append, anySequence, anySegment, hliteral]
  · simp [anySequence_append, anySequence, anySegment, hliteral]

theorem anySequence_trimLast (sequence : List Segment) :
    anySequence p (trimLast sequence) = anySequence p sequence := by
  unfold trimLast
  split
  · rename_i text hlast
    conv_rhs => rw [← List.dropLast_append_getLast? _ hlast]
    split <;> simp [anySequence_append, anySequence, anySegment, hliteral]
  · rfl

theorem any_plainChar (reading : Reading) (c : Char) :
    (reading.plainChar c).any p = (reading.any p || (Token.char c).any p) := by
  have hpush : ∀ segment,
      (reading.push segment).any p = (reading.any p || anySegment p segment) := by
    intro segment
    simp [Reading.push, Reading.any, anySequence_append, anySequence, Bool.or_assoc]
  have hopen : ∀ bracket, (reading.openBracket bracket).any p = reading.any p := by
    intro bracket
    unfold Reading.openBracket Reading.any
    dsimp only
    rw [List.any_cons, Frame.any]
    cases bracket <;>
      simp [anyAlternatives, anySequence, anySequence_trimLast hliteral, Bool.or_comm]
  unfold Reading.plainChar
  split
  · exact hpush (.star false)
  · exact hpush .number
  · exact hpush .alpha
  · rw [hopen]
    exact (Bool.or_false _).symm
  · rw [hopen]
    exact (Bool.or_false _).symm
  · rename_i hstar hnumber halpha _ _
    have hchar : isWildcardChar c = false := by
      simpa [isWildcardChar] using ⟨⟨hstar, hnumber⟩, halpha⟩
    rw [Token.any_char_of_not_wildcard hchar, Bool.or_false]
    simp [Reading.any, anySequence_pushChar hliteral]

theorem any_char (reading : Reading) (c : Char) :
    (reading.char c).any p = (reading.any p || (Token.char c).any p) := by
  unfold Reading.char
  split
  · rename_i hskip
    have hblank : Text.isBlank c := (Bool.and_eq_true_iff.mp hskip).2
    rw [Token.any_char_of_not_wildcard (isWildcardChar_of_isBlank hblank), Bool.or_false]
  · dsimp only
    split
    · exact any_plainChar hliteral _ c
    · rename_i frame frames hframes
      split
      · rename_i hbar
        have hchar : isWildcardChar c = false := by rw [hbar]; decide
        rw [Token.any_char_of_not_wildcard hchar]
        simp only [Reading.any, hframes, List.any_cons, Frame.any, anyAlternatives_append,
          anyAlternatives, anySequence, Bool.or_false]
        ac_rfl
      · split
        · rename_i hclosing
          have hchar : isWildcardChar c = false := by
            rw [hclosing]
            cases frame.bracket <;> decide
          rw [Token.any_char_of_not_wildcard hchar, any_close, Bool.or_false, Reading.any, hframes,
            List.any_cons]
          ac_rfl
        · exact any_plainChar hliteral _ c

theorem any_token (reading : Reading) (token : Token) :
    (reading.token token).any p = (reading.any p || token.any p) := by
  cases token with
  | char c => exact any_char hliteral reading c
  | reference segment =>
    simp [Reading.token, Reading.push, Reading.any, Token.any, anySequence_append, anySequence,
      Bool.or_assoc]

theorem anySequence_read (tokens : List Token) :
    anySequence p (read tokens) = tokens.any (Token.any p) := by
  have hfold : ∀ reading : Reading, (tokens.foldl Reading.token reading).any p =
      (reading.any p || tokens.any (Token.any p)) := by
    induction tokens with
    | nil => simp
    | cons token tokens ih =>
      intro reading
      rw [List.foldl_cons, ih, any_token hliteral, List.any_cons, Bool.or_assoc]
  rw [read, anySequence_finish]
  exact hfold {}

end Reading

/-! ## References -/

theorem any_dropWhile_isBlank (text : Text) :
    (text.dropWhile Text.isBlank).any isWildcardChar = text.any isWildcardChar := by
  induction text with
  | nil => rfl
  | cons c text ih =>
    by_cases hblank : Text.isBlank c
    · rw [List.dropWhile_cons_of_pos hblank, ih, List.any_cons, isWildcardChar_of_isBlank hblank,
        Bool.false_or]
    · rw [List.dropWhile_cons_of_neg hblank]

theorem any_trim (text : Text) : (Text.trim text).any isWildcardChar = text.any isWildcardChar := by
  rw [Text.trim, Text.trimEnd, List.any_reverse, any_dropWhile_isBlank, List.any_reverse,
    Text.trimStart, any_dropWhile_isBlank]

theorem eq_append_of_arrayName?
    {text name rest : Text} (hread : arrayName? text = some (name, rest)) :
    text = name ++ rest := by
  unfold arrayName? at hread
  dsimp only at hread
  split at hread
  · cases hread
  · obtain ⟨rfl, rfl⟩ : _ ∧ _ := by simpa using hread
    exact (List.takeWhile_append_dropWhile).symm

theorem eq_append_of_variableName?
    {opening text name rest : Text} (hread : variableName? opening text = some (name, rest)) :
    ∃ body, text = opening ++ (body ++ '>' :: rest) ∧ name = Text.trim body := by
  simp only [variableName?, Option.bind_eq_bind, Option.bind_eq_some_iff] at hread
  obtain ⟨after, hstrip, hread⟩ := hread
  split at hread
  · cases hread
  · cases hread
  · rename_i mark tail htail _
    obtain ⟨hname, rfl⟩ := Prod.ext_iff.mp (Option.some.inj hread)
    have hmark : mark = '>' := by
      have hstop := List.head?_dropWhile_not (· ≠ '>') after
      rw [htail] at hstop
      simpa using hstop
    rw [hmark] at htail
    refine ⟨after.takeWhile (· ≠ '>'), ?_, hname.symm⟩
    rw [Text.eq_append_of_strip? hstrip, ← htail, List.takeWhile_append_dropWhile]

theorem eq_append_of_historyIndex?
    {opening text rest : Text} {index : Nat}
    (hread : historyIndex? opening text = some (index, rest)) :
    ∃ body, text = opening ++ (body ++ '>' :: rest) ∧ body.any isWildcardChar = false := by
  simp only [historyIndex?, Option.bind_eq_bind, Option.bind_eq_some_iff] at hread
  obtain ⟨after, hstrip, hread⟩ := hread
  rw [Text.eq_append_of_strip? hstrip]
  split at hread
  · obtain ⟨-, rfl⟩ : _ ∧ _ := by simpa using hread
    exact ⟨[], rfl, rfl⟩
  · rename_i c rest' _
    obtain ⟨found, hdigits, hfound⟩ := Option.map_eq_some_iff.mp hread
    obtain ⟨-, rfl⟩ : _ ∧ rest' = rest := by simpa using hfound
    have hdigit : c.isDigit := by
      by_contra hnot
      simp [Number.digits?, hnot] at hdigits
    exact ⟨[c], rfl, by simp [isWildcardChar_of_isDecimalDigit (isDecimalDigit_of_isDigit hdigit)]⟩
  · cases hread

/-- A reference holds the characters of wildcards in its name only, and is no wildcard itself. -/
theorem reference?_any
    {text rest : Text} {segment : Segment} (hread : reference? text = some (segment, rest)) :
    ∃ lead, lead ≠ [] ∧ text = lead ++ rest ∧ lead.any isWildcardChar =
      (anySegment isWildcard segment || anySegment namesWildcard segment) := by
  have htag : ∀ {opening body : Text} {value : Bool},
      text = opening ++ (body ++ '>' :: rest) → opening.any isWildcardChar = false →
        body.any isWildcardChar = value →
          ∃ lead, lead ≠ [] ∧ text = lead ++ rest ∧ lead.any isWildcardChar = value := by
    intro opening body value htext hopening hbody
    refine ⟨opening ++ (body ++ ['>']), by simp, by simp [htext], ?_⟩
    rw [List.any_append, List.any_append, hopening, hbody]
    simp [isWildcardChar]
  unfold reference? at hread
  split at hread
  · obtain ⟨⟨name, after⟩, hname, hfound⟩ := Option.map_eq_some_iff.mp hread
    obtain ⟨rfl, rfl⟩ : _ ∧ after = rest := by simpa using hfound
    exact ⟨'@' :: name, by simp, by rw [eq_append_of_arrayName? hname]; rfl, rfl⟩
  · simp only [Option.orElse_eq_orElse, Option.orElse_eq_or, Option.or_eq_some_iff,
      Option.map_eq_some_iff, Prod.mk.injEq] at hread
    rcases hread with ⟨⟨name, after⟩, hname, rfl, rfl⟩ | ⟨-, ⟨⟨name, after⟩, hname, rfl, rfl⟩ | ⟨-,
      ⟨⟨index, after⟩, hindex, rfl, rfl⟩ | ⟨-, ⟨⟨index, after⟩, hindex, rfl, rfl⟩⟩⟩⟩
    · obtain ⟨body, htext, rfl⟩ := eq_append_of_variableName? hname
      exact htag htext (by decide) (any_trim body).symm
    · obtain ⟨body, htext, rfl⟩ := eq_append_of_variableName? hname
      exact htag htext (by decide) (any_trim body).symm
    · obtain ⟨body, htext, hbody⟩ := eq_append_of_historyIndex? hindex
      exact htag htext (by decide) hbody
    · obtain ⟨body, htext, hbody⟩ := eq_append_of_historyIndex? hindex
      exact htag htext (by decide) hbody

theorem weight?_any {text digits rest : Text} (hread : Tag.weight? text = some (digits, rest)) :
    ∃ lead, lead ≠ [] ∧ text = lead ++ rest ∧ lead.any isWildcardChar = false := by
  simp only [Tag.weight?, Tag.numbered?, Option.bind_eq_bind, Option.bind_eq_some_iff] at hread
  obtain ⟨after, hopening, hread⟩ := hread
  split at hread
  · cases hread
  · simp only [Option.bind_eq_some_iff, Option.some.injEq, Prod.mk.injEq] at hread
    obtain ⟨rest', hclosing, -, rfl⟩ := hread
    have hdigits : (after.takeWhile Text.isDecimalDigit).any isWildcardChar = false := by
      rw [List.any_eq_false]
      intro c hc
      rw [isWildcardChar_of_isDecimalDigit (List.mem_takeWhile_imp hc)]
      exact Bool.false_ne_true
    refine ⟨"\x7bweight=".toList ++ (after.takeWhile Text.isDecimalDigit ++ "\x7d".toList),
      by simp, ?_, ?_⟩
    · rw [List.append_assoc, List.append_assoc, ← Text.eq_append_of_strip? hclosing,
        List.takeWhile_append_dropWhile, ← Text.eq_append_of_strip? hopening]
    · rw [List.any_append, List.any_append, hdigits]
      decide

theorem any_dropWeights (text : Text) :
    (Tag.dropWeights text).any isWildcardChar = text.any isWildcardChar := by
  rw [← Text.any_pieces (fun _ _ _ => weight?_any) text, Tag.dropWeights, Text.replaceTags,
    List.any_flatMap]
  congr 1
  funext piece
  cases piece with
  | char c => exact Bool.or_false _
  | tag digits => rfl

theorem any_tokens (text : Text) :
    (tokens text).any (fun token => token.any isWildcard || token.any namesWildcard) =
      text.any isWildcardChar := by
  have hchar : ∀ c, ((Token.char c).any isWildcard || (Token.char c).any namesWildcard) =
      isWildcardChar c := by
    intro c
    cases hc : isWildcardChar c with
    | false => simp [Token.any_char_of_not_wildcard hc]
    | true =>
      simp only [isWildcardChar, Bool.or_eq_true, decide_eq_true_eq] at hc
      rcases hc with (rfl | rfl) | rfl <;> rfl
  rw [← Text.any_pieces (fun _ _ _ => reference?_any) text, tokens, List.any_map]
  congr 1
  funext piece
  cases piece with
  | char c => exact hchar c
  | tag segment => rfl

/-- A pattern holds the character of a wildcard if its segments hold a wildcard, or refer to a name
with such a character, and only then. -/
theorem any_isWildcardChar_eq (pattern : Text) :
    pattern.any isWildcardChar =
      (anySequence isWildcard (parse pattern) || anySequence namesWildcard (parse pattern)) := by
  unfold parse
  split
  · rename_i hbare
    rw [← any_trim, hbare]
    rfl
  · rw [anySequence_read fun _ => rfl, anySequence_read fun _ => rfl, ← any_dropWeights,
      ← any_tokens, Bool.eq_iff_iff]
    simp only [List.any_eq_true, Bool.or_eq_true, and_or_left, exists_or]

/-! ## Ranks -/

theorem two_le_position_shape_iff {pattern : Text} :
    2 ≤ (shape pattern).position ↔ pattern.any isWildcardChar := by
  have hany : pattern.any isWildcardChar ↔ '_' ∈ pattern ∨ '#' ∈ pattern ∨ '*' ∈ pattern := by
    simp only [List.any_eq_true, isWildcardChar, Bool.or_eq_true, decide_eq_true_eq, and_or_left,
      exists_or, exists_eq_right]
    tauto
  rw [hany]
  unfold shape
  dsimp only
  split_ifs <;> simp_all [Shape.position]

/-! ## A pattern with a wildcard in front -/

theorem wordCount_append (pattern : Text) :
    wordCount ("x_".toList ++ pattern) = wordCount pattern + 1 := by
  simp [wordCount, Text.split, separatesWords]

theorem shape_append (pattern : Text) : shape ("x_".toList ++ pattern) = .alpha := by
  have hmem : '_' ∈ "x_".toList ++ pattern := by simp
  have hwords : wordCount ("x_".toList ++ pattern) ≠ 0 := by
    rw [wordCount_append]
    exact Nat.succ_ne_zero _
  unfold shape
  dsimp only
  rw [if_pos hmem, if_neg hwords]

theorem weight?_lead : ∀ c ∈ "x_".toList, ∀ rest, Tag.weight? (c :: rest) = none := by
  intro c hc rest
  rcases List.mem_pair.mp hc with rfl | rfl <;> rfl

theorem inherits?_lead : ∀ c ∈ "x_".toList, ∀ rest, Tag.inherits? (c :: rest) = none := by
  intro c hc rest
  rcases List.mem_pair.mp hc with rfl | rfl <;> rfl

theorem reference?_lead : ∀ c ∈ "x_".toList, ∀ rest, reference? (c :: rest) = none := by
  intro c hc rest
  rcases List.mem_pair.mp hc with rfl | rfl <;> rfl

theorem weight_append (pattern : Text) : weight ("x_".toList ++ pattern) = weight pattern := by
  rw [weight, Text.tags_append_of_not_read weight?_lead]
  rfl

theorem anySequence_isWildcard_append (pattern : Text) :
    anySequence isWildcard (parse ("x_".toList ++ pattern)) := by
  unfold parse
  split
  · rfl
  · have htokens : tokens (Tag.dropWeights ("x_".toList ++ pattern)) =
        .char 'x' :: .char '_' :: tokens (Tag.dropWeights pattern) := by
      rw [Tag.dropWeights, Text.replaceTags_append_of_not_read weight?_lead, tokens,
        Text.pieces_append_of_not_read reference?_lead]
      rfl
    rw [anySequence_read fun _ => rfl, htokens]
    rfl

end Pattern

open Pattern

namespace Candidate

/-- A candidate of which no copy was gathered at a lower level. -/
def Nearest (candidate : Candidate) (candidates : List Candidate) : Prop :=
  candidate ∈ candidates ∧
    ∀ copy ∈ candidates, copy.text = candidate.text → candidate.rankLevel ≤ copy.rankLevel

instance (candidate : Candidate) (candidates : List Candidate) :
    Decidable (candidate.Nearest candidates) :=
  inferInstanceAs (Decidable (_ ∧ _))

def withWildcard (candidate : Candidate) : Candidate :=
  ⟨candidate.level, "x_".toList ++ candidate.pattern⟩

theorem text_withWildcard (candidate : Candidate) :
    candidate.withWildcard.text = "x_".toList ++ candidate.text :=
  Text.replaceTags_append_of_not_read inherits?_lead _ candidate.pattern

theorem rankLevel_withWildcard (candidate : Candidate) :
    candidate.withWildcard.rankLevel = candidate.rankLevel := by
  obtain ⟨_ | level, pattern⟩ := candidate
  · simp only [rankLevel, withWildcard, Text.tags_append_of_not_read inherits?_lead]
  · rfl

theorem nearest_withWildcard (candidate : Candidate) :
    candidate.withWildcard.Nearest [candidate, candidate.withWildcard] := by
  refine ⟨by simp, fun copy hcopy _ => ?_⟩
  rcases List.mem_pair.mp hcopy with rfl | rfl
  · exact copy.rankLevel_withWildcard.le
  · exact le_rfl

/-- With one word more, it comes before a candidate that is ranked among the wildcards itself. -/
theorem withWildcard_precedes
    {candidate : Candidate} (hshape : 2 ≤ (shape candidate.text).position) :
    let order := matchOrder [candidate, candidate.withWildcard]
    order.idxOf candidate.withWildcard.text < order.idxOf candidate.text := by
  intro order
  refine idxOf_matchOrder_lt_of_rank (by simp) ?_
  intro copy hcopy htext hle
  rcases List.mem_pair.mp hcopy with rfl | rfl
  · rw [Rank.le_iff, Rank.shape_eq_iff] at hle
    simp only [Rank.ofCandidate, text_withWildcard, rankLevel_withWildcard, weight_append,
      shape_append, wordCount_append] at hle
    have hposition : Shape.alpha.position = 2 := rfl
    omega
  · have hlength := congrArg List.length (candidate.text_withWildcard.symm.trans htext)
    rw [List.length_append] at hlength
    exact absurd hlength (Nat.ne_of_gt (Nat.lt_add_of_pos_left (by decide)))

end Candidate

/-- A pattern without wildcards precedes all patterns with wildcards of its level and weight exactly
if no array or variable that it refers to has the character of a wildcard in its name. -/
theorem exact_pattern_precedes_wildcards_iff
    (p : Candidate) (hexact : anySequence isWildcard (parse p.text) = false) :
    (∀ (candidates : List Candidate) (q : Candidate), p ∈ candidates → q.Nearest candidates →
      q.rankLevel = p.rankLevel → weight q.text = weight p.text →
        anySequence isWildcard (parse q.text) →
          (matchOrder candidates).idxOf p.text < (matchOrder candidates).idxOf q.text) ↔
      anySequence namesWildcard (parse p.text) = false := by
  have hpshape : 2 ≤ (shape p.text).position ↔ anySequence namesWildcard (parse p.text) := by
    rw [two_le_position_shape_iff, any_isWildcardChar_eq, hexact, Bool.false_or]
  constructor
  · intro hprecedes
    rw [← Bool.not_eq_true, ← hpshape]
    intro hshape
    have hbefore := Candidate.withWildcard_precedes hshape
    have hafter := hprecedes [p, p.withWildcard] p.withWildcard (by simp) p.nearest_withWildcard
      p.rankLevel_withWildcard (by rw [p.text_withWildcard, weight_append])
      (by rw [p.text_withWildcard]; exact anySequence_isWildcard_append p.text)
    exact absurd hbefore hafter.asymm
  · intro hnames candidates q hp ⟨hq, hnearest⟩ hlevel hweight hwild
    rw [hnames] at hpshape
    have hqshape : 2 ≤ (shape q.text).position := by
      rw [two_le_position_shape_iff, any_isWildcardChar_eq, hwild, Bool.true_or]
    refine idxOf_matchOrder_lt_of_rank hp ?_
    intro copy hcopy htext hle
    have hcopylevel := hnearest copy hcopy htext
    rw [Rank.le_iff, Rank.shape_eq_iff] at hle
    simp only [Rank.ofCandidate, htext] at hle
    simp only [Bool.false_eq_true, iff_false] at hpshape
    omega

theorem pattern_with_array_precedes_wildcard :
    let p : Candidate := ⟨some 0, "i like @colors and <get name>".toList⟩
    let q : Candidate := ⟨some 0, "i like _ and <get name>".toList⟩
    anySequence isWildcard (parse p.text) = false ∧
      (matchOrder [q, p]).idxOf p.text < (matchOrder [q, p]).idxOf q.text := by
  intro p q
  have hexact : anySequence isWildcard (parse p.text) = false := by
    decide +kernel
  have hnames : anySequence namesWildcard (parse p.text) = false := by
    decide +kernel
  refine ⟨hexact, ?_⟩
  exact (exact_pattern_precedes_wildcards_iff p hexact).mpr hnames [q, p] q (by simp)
    (by decide +kernel) (by decide +kernel) (by decide +kernel) (by decide +kernel)

/-- An underscore in the name of an array ranks a pattern without wildcards behind one with. -/
theorem wildcard_precedes_array_with_underscore :
    let p : Candidate := ⟨none, "@kind_words".toList⟩
    let q : Candidate := ⟨none, "_ [so very much]".toList⟩
    p.rankLevel = q.rankLevel ∧ weight p.text = weight q.text ∧
      anySequence isWildcard (parse p.text) = false ∧ anySequence isWildcard (parse q.text) ∧
      (matchOrder [p, q]).idxOf q.text < (matchOrder [p, q]).idxOf p.text := by
  decide +kernel

end DialogueScript

import DialogueScript.Proofs.WeightTags

/-!
# Writing patterns

A tree of segments has one written form, and reading that form gives the tree back when the tree is
in normal form.  The normal form asks of a segment that what is written for it means nothing else,
and of two segments that stand side by side that neither takes anything from the other: two literals
would be read as one, an array would take letters into its name, and an optional the blanks around
it.

Reading goes through the written form from left to right.  Behind each segment it stands at the
segments so far, and whether it skips blanks there is told by the last of them.
-/

namespace DialogueScript

/-! ## Written forms -/

namespace Segment

mutual

/-- The text of a pattern that a segment is written as; the index of a history tag is one digit. -/
def written : Segment → Text
  | .literal text => text
  | .star _ => ['*']
  | .number => ['#']
  | .alpha => ['_']
  | .optional alternatives => '[' :: Text.join ['|'] (writtenAlternatives alternatives) ++ [']']
  | .group alternatives => '(' :: Text.join ['|'] (writtenAlternatives alternatives) ++ [')']
  | .array name => '@' :: name
  | .botVariable name => '<' :: "bot ".toList ++ name ++ ['>']
  | .userVariable name => '<' :: "get ".toList ++ name ++ ['>']
  | .input index => '<' :: "input".toList ++ [Nat.digitChar index, '>']
  | .reply index => '<' :: "reply".toList ++ [Nat.digitChar index, '>']

def writtenSequence : List Segment → Text
  | [] => []
  | segment :: segments => written segment ++ writtenSequence segments

def writtenAlternatives : List (List Segment) → List Text
  | [] => []
  | alternative :: alternatives => writtenSequence alternative :: writtenAlternatives alternatives

end

/-! ## Normal forms -/

/-- The characters that have a meaning of their own in a pattern. -/
def markers : List Char :=
  ['*', '#', '_', '[', ']', '(', ')', '|', '@', '<', '>', '\x7b', '\x7d']

def isPlainChar (c : Char) : Bool :=
  !markers.contains c

/-- The characters of the name of an array. -/
def inArrayName (c : Char) : Bool :=
  Text.isAlphanumeric c || c = '_'

def isVariableName (name : Text) : Bool :=
  !name.isEmpty && Text.trim name = name && name.all fun c => isPlainChar c || c = '_'

def isOptional : Segment → Bool
  | .optional _ => true
  | _ => false

/-- Whether two segments that stand side by side are read as they are written. -/
def mayPrecede : Segment → Segment → Bool
  | .literal _, .literal _ => false
  | .literal text, .optional _ => text.getLast?.any fun c => !Text.isBlank c
  | .optional _, .literal text => text.head?.any fun c => !Text.isBlank c
  | .array _, .alpha => false
  | .array _, .literal text => text.head?.any fun c => !Text.isAlphanumeric c
  | _, _ => true

mutual

def isNormal : Segment → Bool
  | .literal text => !text.isEmpty && text.all isPlainChar
  | .star mayBeEmpty => !mayBeEmpty
  | .number => true
  | .alpha => true
  | .optional alternatives => !alternatives.isEmpty && areNormal alternatives
  | .group alternatives => !alternatives.isEmpty && areNormal alternatives
  | .array name => !name.isEmpty && name.all inArrayName
  | .botVariable name => isVariableName name
  | .userVariable name => isVariableName name
  | .input index => index < 10
  | .reply index => index < 10

def isNormalSequence : List Segment → Bool
  | [] => true
  | segment :: segments =>
    segment.isNormal && segments.head?.all segment.mayPrecede && isNormalSequence segments

def areNormal : List (List Segment) → Bool
  | [] => true
  | alternative :: alternatives => isNormalSequence alternative && areNormal alternatives

end

theorem isVariableName_iff {name : Text} :
    isVariableName name ↔
      name ≠ [] ∧ Text.trim name = name ∧ ∀ c ∈ name, isPlainChar c ∨ c = '_' := by
  simp [isVariableName, and_assoc]

theorem not_mem_markers_of_isPlainChar {c : Char} (hplain : isPlainChar c) : c ∉ markers := by
  simpa [isPlainChar] using hplain

theorem not_inArrayName_of_mem_markers {c : Char} (hmarker : c ∈ markers) (hc : c ≠ '_') :
    inArrayName c = false := by
  have hall : ∀ c ∈ markers, c = '_' ∨ inArrayName c = false := by
    simp [markers, inArrayName, Text.isAlphanumeric]
  exact (hall c hmarker).resolve_left hc

/-- Whether a segment takes nothing of the text behind it. -/
def endsBefore (segment : Segment) (rest : Text) : Prop :=
  match segment with
  | .array _ => ∀ c ∈ rest.head?, c ≠ '\x7b' ∧ inArrayName c = false
  | _ => True

theorem endsBefore_written
    {segment next : Segment} (hprecedes : segment.mayPrecede next) (hnext : next.isNormal)
    (rest : Text) :
    segment.endsBefore (next.written ++ rest) := by
  cases segment with
  | array name =>
    have hmarker : ∀ {lead : Text} {c : Char}, c ∈ markers → c ≠ '_' → c ≠ '\x7b' →
        ∀ d ∈ (c :: lead).head?, d ≠ '\x7b' ∧ inArrayName d = false := by
      intro lead c hc hne hbrace d hd
      obtain rfl : c = d := by simpa using hd
      exact ⟨hbrace, not_inArrayName_of_mem_markers hc hne⟩
    cases next with
    | literal text =>
      intro c hc
      simp only [isNormal, Bool.and_eq_true, List.all_eq_true] at hnext
      cases text with
      | nil => simp at hnext
      | cons d text =>
        obtain rfl : d = c := by simpa [written] using hc
        have hplain := not_mem_markers_of_isPlainChar (hnext.2 d List.mem_cons_self)
        have hletter : Text.isAlphanumeric d = false := by simpa [mayPrecede] using hprecedes
        simp only [markers, List.mem_cons, not_or] at hplain
        simp [inArrayName, hletter, hplain]
    | alpha => cases hprecedes
    | star | number | optional | group | array | botVariable | userVariable | input | reply =>
      exact hmarker (by decide) (by decide) (by decide)
  | _ => trivial

end Segment

namespace Pattern

open Segment

/-! ## Reading the front of a text -/

/-- The reading of a pattern up to its end, from some reading on. -/
def readOn (reading : Reading) (text : Text) : Reading :=
  (tokens (Tag.dropWeights text)).foldl Reading.token reading

theorem dropWeights_append {lead : Text} (hlead : '\x7b' ∉ lead) (rest : Text) :
    Tag.dropWeights (lead ++ rest) = lead ++ Tag.dropWeights rest := by
  refine Text.replaceTags_append_of_not_read (fun c hc rest => ?_) _ rest
  have hne : '\x7b' ≠ c := fun heq => hlead (heq ▸ hc)
  simp [Tag.weight?, Tag.numbered?, Text.strip?, hne]

theorem readOn_char
    {c : Char} (harray : c ≠ '@') (htag : c ≠ '<') (hweight : c ≠ '\x7b') (reading : Reading)
    (rest : Text) :
    readOn reading (c :: rest) = readOn (reading.char c) rest := by
  have hdrop : Tag.dropWeights ([c] ++ rest) = [c] ++ Tag.dropWeights rest :=
    dropWeights_append (by simpa using hweight.symm) rest
  rw [List.singleton_append, List.singleton_append] at hdrop
  rw [readOn, hdrop, tokens, Text.pieces_of_not_read (reference?_eq_none harray htag _)]
  rfl

theorem readOn_reference
    {lead rest : Text} {segment : Segment} (hlead : lead ≠ []) (hbrace : '\x7b' ∉ lead)
    (hread : reference? (lead ++ Tag.dropWeights rest) = some (segment, Tag.dropWeights rest))
    (reading : Reading) :
    readOn reading (lead ++ rest) = readOn (reading.token (.reference segment)) rest := by
  rw [readOn, dropWeights_append hbrace, tokens, Text.pieces_of_read hlead hread]
  rfl

/-! ## References -/

theorem arrayName?_append
    {name rest : Text} (hsome : name ≠ []) (hname : ∀ c ∈ name, inArrayName c)
    (hrest : ∀ c ∈ rest.head?, inArrayName c = false) :
    arrayName? (name ++ rest) = some (name, rest) := by
  have htake : (name ++ rest).takeWhile inArrayName = name := by
    rw [List.takeWhile_append_of_pos hname]
    cases rest with
    | nil => simp
    | cons c rest => simp [hrest c rfl]
  have hdrop : (name ++ rest).dropWhile inArrayName = rest := by
    rw [List.dropWhile_append_of_pos hname]
    cases rest with
    | nil => rfl
    | cons c rest => simp [hrest c rfl]
  unfold arrayName?
  rw [show (fun c => Text.isAlphanumeric c || (c = '_' : Bool)) = inArrayName from rfl]
  dsimp only
  rw [htake, hdrop]
  cases name with
  | nil => exact absurd rfl hsome
  | cons c name => rfl

theorem variableName?_append
    (opening : Text) {name : Text} (hname : isVariableName name) (rest : Text) :
    variableName? opening (opening ++ name ++ '>' :: rest) = some (name, rest) := by
  obtain ⟨hsome, htrim, hchars⟩ := isVariableName_iff.mp hname
  have hinside : ∀ c ∈ name, (c ≠ '>' : Bool) := by
    intro c hc
    rcases hchars c hc with hplain | rfl
    · have hmarker := not_mem_markers_of_isPlainChar hplain
      simp only [markers, List.mem_cons, not_or] at hmarker
      simp [hmarker]
    · decide
  have htake : (name ++ '>' :: rest).takeWhile (· ≠ '>') = name := by
    rw [List.takeWhile_append_of_pos hinside]
    simp
  have hdrop : (name ++ '>' :: rest).dropWhile (· ≠ '>') = '>' :: rest := by
    rw [List.dropWhile_append_of_pos hinside]
    simp
  rw [variableName?, List.append_assoc, Text.strip?_append]
  simp only [Option.bind_eq_bind, Option.bind_some, htake, hdrop]
  cases name with
  | nil => exact absurd rfl hsome
  | cons c name => simp [htrim]

theorem historyIndex?_append (opening : Text) {index : Nat} (hindex : index < 10) (rest : Text) :
    historyIndex? opening (opening ++ Nat.digitChar index :: '>' :: rest) = some (index, rest) := by
  have hdigit : ∀ index < 10, Number.digits? [Nat.digitChar index] = some index := by
    decide
  rw [historyIndex?, Text.strip?_append]
  simp [hdigit index hindex]

theorem variableName?_eq_none {opening text : Text} (hopening : Text.strip? opening text = none) :
    variableName? opening text = none := by
  simp [variableName?, hopening]

theorem historyIndex?_eq_none {opening text : Text} (hopening : Text.strip? opening text = none) :
    historyIndex? opening text = none := by
  simp [historyIndex?, hopening]

/-- A segment that is written in several characters of no other meaning. -/
def isReference : Segment → Bool
  | .array _ | .botVariable _ | .userVariable _ | .input _ | .reply _ => true
  | _ => false

theorem reference?_written
    {segment : Segment} (hreference : isReference segment) (hnormal : segment.isNormal)
    {rest : Text} (hrest : segment.endsBefore rest) :
    reference? (segment.written ++ rest) = some (segment, rest) := by
  cases segment with
  | array name =>
    simp only [isNormal, Bool.and_eq_true, List.all_eq_true] at hnormal
    have hread := arrayName?_append (by simpa using hnormal.1) hnormal.2 fun c hc => (hrest c hc).2
    simp [written, reference?, hread]
  | botVariable name =>
    have hread := variableName?_append "<bot ".toList hnormal rest
    simp only [String.reduceToList, List.cons_append, List.nil_append] at hread
    simp [written, reference?, hread]
  | userVariable name =>
    have hread := variableName?_append "<get ".toList hnormal rest
    simp only [String.reduceToList, List.cons_append, List.nil_append] at hread
    simp [written, reference?, hread, variableName?_eq_none, Text.strip?]
  | input index =>
    have hread := historyIndex?_append "<input".toList (of_decide_eq_true hnormal) rest
    simp only [String.reduceToList, List.cons_append, List.nil_append] at hread
    simp [written, reference?, hread, variableName?_eq_none, Text.strip?]
  | reply index =>
    have hread := historyIndex?_append "<reply".toList (of_decide_eq_true hnormal) rest
    simp only [String.reduceToList, List.cons_append, List.nil_append] at hread
    simp [written, reference?, hread, variableName?_eq_none, historyIndex?_eq_none, Text.strip?]
  | literal | star | number | alpha | optional | group => cases hreference

/-! ## Reading what is written -/

/-- The reading that has come to the end of these segments, in these open brackets. -/
def behind (frames : List Frame) (done : List Segment) : Reading :=
  { frames, sequence := done, skipBlanks := done.getLast?.any isOptional }

section Chars

variable {frames : List Frame} {done : List Segment}

theorem char_behind
    {c : Char} (hblank : Text.isBlank c → done.getLast?.any isOptional = false) (hbar : c ≠ '|')
    (hsquare : c ≠ ']') (hround : c ≠ ')') :
    (behind frames done).char c = Reading.plainChar { frames, sequence := done } c := by
  have hskip : (done.getLast?.any isOptional && Text.isBlank c) = false := by
    cases hc : Text.isBlank c with
    | false => exact Bool.and_false _
    | true => rw [hblank hc, Bool.false_and]
  have hclosing : ∀ bracket : Bracket, c ≠ bracket.closing := by
    intro bracket
    cases bracket
    · exact hsquare
    · exact hround
  unfold Reading.char behind
  simp only [hskip, Bool.false_eq_true, if_false]
  cases frames with
  | nil => rfl
  | cons frame frames => simp [hbar, hclosing]

theorem plainChar_of_isPlainChar {c : Char} (hplain : isPlainChar c) (reading : Reading) :
    reading.plainChar c = { reading with sequence := pushChar reading.sequence c } := by
  have hmarker := not_mem_markers_of_isPlainChar hplain
  unfold Reading.plainChar
  split
  iterate 5
    exact absurd (by decide) hmarker
  rfl

theorem readOn_plain
    {c : Char} (hplain : isPlainChar c)
    (hblank : Text.isBlank c → done.getLast?.any isOptional = false) (rest : Text) :
    readOn (behind frames done) (c :: rest) =
      readOn { frames, sequence := pushChar done c } rest := by
  have hmarker := not_mem_markers_of_isPlainChar hplain
  simp only [markers, List.mem_cons, not_or] at hmarker
  rw [readOn_char (by simp [hmarker]) (by simp [hmarker]) (by simp [hmarker]),
    char_behind hblank (by simp [hmarker]) (by simp [hmarker]) (by simp [hmarker]),
    plainChar_of_isPlainChar hplain]

/-- Once a literal has been begun, it takes the plain characters that follow. -/
theorem readOn_literal
    (front : Text) {text : Text} (htext : ∀ c ∈ text, isPlainChar c) (rest : Text) :
    readOn (behind frames (done ++ [.literal front])) (text ++ rest) =
      readOn (behind frames (done ++ [.literal (front ++ text)])) rest := by
  induction text generalizing front with
  | nil => simp
  | cons c text ih =>
    rw [List.forall_mem_cons] at htext
    have hpush : pushChar (done ++ [.literal front]) c = done ++ [.literal (front ++ [c])] := by
      simp [pushChar]
    rw [List.cons_append, readOn_plain htext.1 (by simp [isOptional]), hpush]
    have hnext := ih (front ++ [c]) htext.2
    simpa [behind, isOptional] using hnext

end Chars

/-- Whether a segment may stand behind those that have been read. -/
def mayFollow (done : List Segment) (segment : Segment) : Prop :=
  ∀ last ∈ done.getLast?, last.mayPrecede segment

theorem readOn_writtenLiteral
    {text : Text} (hnormal : (Segment.literal text).isNormal) {done : List Segment}
    (hdone : mayFollow done (.literal text)) (frames : List Frame) (rest : Text) :
    readOn (behind frames done) (text ++ rest) =
      readOn (behind frames (done ++ [.literal text])) rest := by
  simp only [isNormal, Bool.and_eq_true, List.all_eq_true] at hnormal
  cases text with
  | nil => simp at hnormal
  | cons c text =>
    obtain ⟨hplain, htext⟩ := List.forall_mem_cons.mp hnormal.2
    have hblank : Text.isBlank c → done.getLast?.any isOptional = false := by
      intro hc
      cases hlast : done.getLast? with
      | none => rfl
      | some last =>
        have hprecedes := hdone last hlast
        cases last <;> simp_all [mayPrecede, isOptional]
    have hpush : pushChar done c = done ++ [.literal [c]] := by
      unfold pushChar
      split
      · rename_i hlast
        cases hdone _ hlast
      · rfl
    have hbegun : ({ frames, sequence := done ++ [.literal [c]] } : Reading) =
        behind frames (done ++ [.literal [c]]) := by
      simp [behind, isOptional]
    rw [List.cons_append, readOn_plain hplain hblank, hpush, hbegun, readOn_literal [c] htext]
    rfl

/-- A wildcard is read off its mark. -/
theorem readOn_wildcard
    {c : Char} {segment : Segment} (hc : c ∈ ['*', '#', '_'])
    (hpush : ∀ reading : Reading, reading.plainChar c = reading.push segment)
    (hoptional : segment.isOptional = false) (frames : List Frame) (done : List Segment)
    (rest : Text) :
    readOn (behind frames done) (c :: rest) = readOn (behind frames (done ++ [segment])) rest := by
  have hmark : ∀ c ∈ ['*', '#', '_'], c ≠ '@' ∧ c ≠ '<' ∧ c ≠ '\x7b' ∧ c ≠ '|' ∧ c ≠ ']' ∧
      c ≠ ')' ∧ Text.isBlank c = false := by
    simp [Text.isBlank]
  obtain ⟨harray, htag, hweight, hbar, hsquare, hround, hblank⟩ := hmark c hc
  rw [readOn_char harray htag hweight,
    char_behind (fun h => absurd h (by simp [hblank])) hbar hsquare hround, hpush]
  simp [Reading.push, behind, hoptional]

theorem trimLast_of_mayFollow
    {done : List Segment} {alternatives : List (List Segment)}
    (hdone : mayFollow done (.optional alternatives)) :
    trimLast done = done := by
  unfold trimLast
  split
  · rename_i text hlast
    have hprecedes := hdone _ hlast
    have htrim : Text.trimEnd text = text := by
      apply List.rdropWhile_eq_self_iff.mpr
      intro hsome
      simpa [mayPrecede, List.getLast?_eq_some_getLast hsome] using hprecedes
    have hdone : done.dropLast ++ [.literal text] = done :=
      List.dropLast_append_getLast? _ hlast
    rw [htrim]
    cases text with
    | nil => cases hprecedes
    | cons c text => exact hdone
  · rfl

/-! ### Brackets -/

theorem char_bar
    (bracket : Bracket) (finished : List (List Segment)) (outer : List Segment)
    (frames : List Frame) (sequence : List Segment) :
    (behind (⟨bracket, finished, outer⟩ :: frames) sequence).char '|' =
      behind (⟨bracket, finished ++ [sequence], outer⟩ :: frames) [] := by
  have hblank : Text.isBlank '|' = false := by decide
  simp [Reading.char, behind, hblank]

theorem char_closing
    (bracket : Bracket) (finished : List (List Segment)) (outer : List Segment)
    (frames : List Frame) (sequence : List Segment) :
    (behind (⟨bracket, finished, outer⟩ :: frames) sequence).char bracket.closing =
      behind frames (outer ++ [bracket.segment (finished ++ [sequence])]) := by
  have hblank : Text.isBlank bracket.closing = false := by
    cases bracket <;> decide
  have hbar : bracket.closing ≠ '|' := by
    cases bracket <;> decide
  have hoptional : ∀ alternatives, (bracket.segment alternatives).isOptional =
      decide (bracket = .square) := by
    intro alternatives
    cases bracket <;> rfl
  simp [Reading.char, Reading.close, behind, hblank, hbar, hoptional]

/-! ### References -/

theorem endsBefore_dropWeights
    {segment : Segment} {rest : Text} (hrest : segment.endsBefore rest) :
    segment.endsBefore (Tag.dropWeights rest) := by
  cases segment with
  | array name =>
    cases rest with
    | nil => exact hrest
    | cons c rest =>
      have hne : '\x7b' ∉ [c] := by simpa using (hrest c rfl).1.symm
      have hdrop : Tag.dropWeights (c :: rest) = c :: Tag.dropWeights rest :=
        dropWeights_append hne rest
      rw [hdrop]
      exact hrest
  | _ => trivial

theorem not_mem_writtenReference
    {segment : Segment} (hreference : isReference segment) (hnormal : segment.isNormal) :
    '\x7b' ∉ segment.written := by
  have hvariable : ∀ {name}, isVariableName name → '\x7b' ∉ name := by
    intro name hname hmem
    obtain ⟨-, -, hchars⟩ := isVariableName_iff.mp hname
    simpa [isPlainChar, markers] using hchars _ hmem
  have hdigit : ∀ index < 10, '\x7b' ≠ Nat.digitChar index := by
    decide
  cases segment with
  | array name =>
    simp only [isNormal, Bool.and_eq_true, List.all_eq_true] at hnormal
    have hname : '\x7b' ∉ name := by
      intro hmem
      have hchar := hnormal.2 _ hmem
      rw [not_inArrayName_of_mem_markers (by decide) (by decide)] at hchar
      cases hchar
    simp [written, hname]
  | botVariable name => simp [written, hvariable hnormal]
  | userVariable name => simp [written, hvariable hnormal]
  | input index => simp [written, hdigit index (of_decide_eq_true hnormal)]
  | reply index => simp [written, hdigit index (of_decide_eq_true hnormal)]
  | literal | star | number | alpha | optional | group => cases hreference

theorem readOn_writtenReference
    {segment : Segment} (hreference : isReference segment) (hnormal : segment.isNormal)
    {rest : Text} (hrest : segment.endsBefore rest) (frames : List Frame) (done : List Segment) :
    readOn (behind frames done) (segment.written ++ rest) =
      readOn (behind frames (done ++ [segment])) rest := by
  have hsome : segment.written ≠ [] := by
    cases segment <;> simp_all [written, isReference]
  have hoptional : segment.isOptional = false := by
    cases segment <;> simp_all [isOptional, isReference]
  rw [readOn_reference hsome (not_mem_writtenReference hreference hnormal)
    (reference?_written hreference hnormal (endsBefore_dropWeights hrest))]
  simp [Reading.token, Reading.push, behind, hoptional]

mutual

theorem readOn_written :
    ∀ {segment : Segment}, segment.isNormal → ∀ {done : List Segment}, mayFollow done segment →
      ∀ {rest : Text}, segment.endsBefore rest → ∀ frames,
        readOn (behind frames done) (segment.written ++ rest) =
          readOn (behind frames (done ++ [segment])) rest
  | .literal text, hnormal, done, hdone, rest, _, frames =>
    readOn_writtenLiteral hnormal hdone frames rest
  | .star mayBeEmpty, hnormal, done, _, rest, _, frames => by
    obtain rfl : mayBeEmpty = false := by simpa [isNormal] using hnormal
    exact readOn_wildcard (by decide) (fun _ => rfl) rfl frames done rest
  | .number, _, done, _, rest, _, frames =>
    readOn_wildcard (by decide) (fun _ => rfl) rfl frames done rest
  | .alpha, _, done, _, rest, _, frames =>
    readOn_wildcard (by decide) (fun _ => rfl) rfl frames done rest
  | .optional alternatives, hnormal, done, hdone, rest, _, frames => by
    simp only [isNormal, Bool.and_eq_true] at hnormal
    have hopen : (behind frames done).char '[' = behind (⟨.square, [], done⟩ :: frames) [] := by
      rw [char_behind (fun h => absurd h (by decide)) (by decide) (by decide) (by decide)]
      simp [Reading.plainChar, Reading.openBracket, trimLast_of_mayFollow hdone, behind]
    have hread := readOn_writtenAlternatives (by simpa using hnormal.1) hnormal.2 .square [] done
      frames rest
    rw [written, List.append_assoc, List.cons_append,
      readOn_char (by decide) (by decide) (by decide), hopen]
    exact hread
  | .group alternatives, hnormal, done, _, rest, _, frames => by
    simp only [isNormal, Bool.and_eq_true] at hnormal
    have hopen : (behind frames done).char '(' = behind (⟨.round, [], done⟩ :: frames) [] := by
      rw [char_behind (fun h => absurd h (by decide)) (by decide) (by decide) (by decide)]
      rfl
    have hread := readOn_writtenAlternatives (by simpa using hnormal.1) hnormal.2 .round [] done
      frames rest
    rw [written, List.append_assoc, List.cons_append,
      readOn_char (by decide) (by decide) (by decide), hopen]
    exact hread
  | .array name, hnormal, done, _, rest, hrest, frames =>
    readOn_writtenReference rfl hnormal hrest frames done
  | .botVariable name, hnormal, done, _, rest, hrest, frames =>
    readOn_writtenReference rfl hnormal hrest frames done
  | .userVariable name, hnormal, done, _, rest, hrest, frames =>
    readOn_writtenReference rfl hnormal hrest frames done
  | .input index, hnormal, done, _, rest, hrest, frames =>
    readOn_writtenReference rfl hnormal hrest frames done
  | .reply index, hnormal, done, _, rest, hrest, frames =>
    readOn_writtenReference rfl hnormal hrest frames done

theorem readOn_writtenSequence :
    ∀ {segments : List Segment}, isNormalSequence segments → ∀ {done : List Segment},
      (∀ next ∈ segments.head?, mayFollow done next) → ∀ {rest : Text},
        (∀ c ∈ rest.head?, c ≠ '\x7b' ∧ inArrayName c = false) → ∀ frames,
          readOn (behind frames done) (writtenSequence segments ++ rest) =
            readOn (behind frames (done ++ segments)) rest
  | [], _, done, _, rest, _, frames => by simp [writtenSequence]
  | segment :: segments, hnormal, done, hdone, rest, hrest, frames => by
    simp only [isNormalSequence, Bool.and_eq_true] at hnormal
    obtain ⟨⟨hsegment, hnext⟩, hsegments⟩ := hnormal
    have hends : segment.endsBefore (writtenSequence segments ++ rest) := by
      cases segments with
      | nil =>
        cases segment with
        | array name => exact hrest
        | _ => trivial
      | cons next segments =>
        simp only [isNormalSequence, Bool.and_eq_true] at hsegments
        rw [writtenSequence, List.append_assoc]
        exact endsBefore_written hnext hsegments.1.1 _
    have hfollow : ∀ next ∈ segments.head?, mayFollow (done ++ [segment]) next := by
      intro next hmem last hlast
      obtain rfl : segment = last := by simpa using hlast
      rw [Option.mem_def.mp hmem] at hnext
      exact hnext
    rw [writtenSequence, List.append_assoc, readOn_written hsegment (hdone segment rfl) hends,
      readOn_writtenSequence hsegments hfollow hrest, List.append_assoc, List.singleton_append]

theorem readOn_writtenAlternatives :
    ∀ {alternatives : List (List Segment)}, alternatives ≠ [] → areNormal alternatives →
      ∀ (bracket : Bracket) (finished : List (List Segment)) (outer : List Segment) frames rest,
        readOn (behind (⟨bracket, finished, outer⟩ :: frames) [])
            (Text.join ['|'] (writtenAlternatives alternatives) ++ bracket.closing :: rest) =
          readOn (behind frames (outer ++ [bracket.segment (finished ++ alternatives)])) rest
  | [], hne, _, _, _, _, _, _ => absurd rfl hne
  | [alternative], _, hnormal, bracket, finished, outer, frames, rest => by
    simp only [areNormal, Bool.and_eq_true] at hnormal
    have hclosing : bracket.closing ≠ '@' ∧ bracket.closing ≠ '<' ∧ bracket.closing ≠ '\x7b' ∧
        inArrayName bracket.closing = false := by
      cases bracket <;> decide
    obtain ⟨harray, htag, hweight, hname⟩ := hclosing
    rw [writtenAlternatives, writtenAlternatives, Text.join,
      readOn_writtenSequence hnormal.1 (by simp [mayFollow]) (by simp [hweight, hname]),
      List.nil_append, readOn_char harray htag hweight, char_closing]
  | alternative :: next :: others, _, hnormal, bracket, finished, outer, frames, rest => by
    rw [areNormal, Bool.and_eq_true] at hnormal
    have hread := readOn_writtenAlternatives (List.cons_ne_nil next others) hnormal.2 bracket
      (finished ++ [alternative]) outer frames rest
    have hjoin : Text.join ['|'] (writtenAlternatives (alternative :: next :: others)) =
        writtenSequence alternative ++
          '|' :: Text.join ['|'] (writtenAlternatives (next :: others)) := by
      simp [writtenAlternatives, Text.join]
    have hbar : '|' ≠ '\x7b' ∧ inArrayName '|' = false := by
      decide
    rw [hjoin, List.append_assoc, List.cons_append,
      readOn_writtenSequence hnormal.1 (by simp [mayFollow]) (by simpa using hbar),
      List.nil_append, readOn_char (by decide) (by decide) (by decide), char_bar, hread,
      List.append_assoc, List.singleton_append]

end

/-- Reading the written form of a tree in normal form gives the tree back.  The one exception is the
star alone, which is read as the star that may be empty. -/
theorem parse_writtenSequence
    {segments : List Segment} (hnormal : isNormalSequence segments)
    (hbare : Text.trim (writtenSequence segments) ≠ bareStar) :
    parse (writtenSequence segments) = segments := by
  have hfirst : ∀ next ∈ segments.head?, mayFollow [] next := by
    simp [mayFollow]
  have hlast : ∀ c ∈ ([] : Text).head?, c ≠ '\x7b' ∧ inArrayName c = false := by
    simp
  have hread := readOn_writtenSequence hnormal hfirst hlast []
  have hend : ∀ reading, readOn reading [] = reading := fun _ => rfl
  rw [List.append_nil, List.nil_append, hend] at hread
  rw [parse, if_neg hbare, read]
  exact congrArg (fun reading : Reading => Reading.finish reading.frames reading.sequence) hread

theorem parse_writtenSequence_of_nested :
    let segments : List Segment :=
      [.literal "i".toList,
        .optional [[.literal " am".toList, .alpha], [], [.group [[.array "moods_2".toList]]]],
        .literal "with, ".toList, .array "names".toList, .literal "'s ".toList,
        .group [[.star false, .optional [[.number]]], [.input 0, .literal " or ".toList]],
        .botVariable "first_name".toList, .userVariable "né le".toList, .reply 9]
    writtenSequence segments =
        "i[ am_||(@moods_2)]with, @names's (*[#]|<input0> or )".toList ++
          "<bot first_name><get né le><reply9>".toList ∧
      isNormalSequence segments ∧ parse (writtenSequence segments) = segments := by
  intro segments
  have hnormal : isNormalSequence segments := by decide +kernel
  exact ⟨by decide +kernel, hnormal, parse_writtenSequence hnormal (by decide +kernel)⟩

end Pattern

end DialogueScript

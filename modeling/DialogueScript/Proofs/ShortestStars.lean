import DialogueScript.Proofs.PatternMatching
import DialogueScript.Proofs.TagReading
import DialogueScript.Proofs.WildcardRank
import Mathlib.Data.List.Forall2
import Mathlib.Data.List.Lex

/-!
# The stars of a pattern without brackets

A pattern of literal text and wildcards splits a text when stars, written in place of its wildcards,
make up that text.  Of all the ways to split a text, matching takes the one whose first star is the
shortest, among those the one whose second star is the shortest, and so on to the end.
-/

namespace DialogueScript

namespace Pattern

open Marks

/-! ## Splitting a text -/

/-- A star that a wildcard can take; `mayBeEmpty` says whether a `*` can take nothing. -/
def CanTake (mayBeEmpty : Bool) (wildcard : Char) (star : Text) : Prop :=
  match wildcard with
  | '*' => '\n' ∉ star ∧ (star = [] → mayBeEmpty)
  | '#' => star ≠ [] ∧ ∀ c ∈ star, Text.isDecimalDigit c
  | _ => star ≠ [] ∧ ∀ c ∈ star, ('a' ≤ c ∧ c ≤ 'z') ∨ c = ' '

/-- A pattern with its stars, from left to right, in place of its wildcards. -/
def interleave : Text → List Text → Text
  | [], _ => []
  | c :: pattern, stars =>
    if isWildcardChar c then stars.headD [] ++ interleave pattern stars.tail
    else c :: interleave pattern stars

structure Splits (mayBeEmpty : Bool) (pattern text : Text) (stars : List Text) : Prop where
  interleave_eq : interleave pattern stars = text
  canTake : List.Forall₂ (CanTake mayBeEmpty) (pattern.filter isWildcardChar) stars

/-- Only the pattern that is a star alone has a star that may be empty. -/
def IsSplit (pattern text : Text) (stars : List Text) : Prop :=
  Splits (pattern = bareStar) pattern text stars

section Splits

variable {mayBeEmpty : Bool} {c : Char} {pattern text : Text} {stars others : List Text}

theorem splits_nil : Splits mayBeEmpty [] text stars ↔ text = [] ∧ stars = [] := by
  constructor
  · rintro ⟨rfl, htake⟩
    exact ⟨rfl, List.forall₂_nil_left_iff.mp htake⟩
  · rintro ⟨rfl, rfl⟩
    exact ⟨rfl, .nil⟩

theorem splits_wildcard (hc : isWildcardChar c) :
    Splits mayBeEmpty (c :: pattern) text stars ↔
      ∃ star rest back, stars = star :: rest ∧ text = star ++ back ∧
        CanTake mayBeEmpty c star ∧ Splits mayBeEmpty pattern back rest := by
  constructor
  · rintro ⟨rfl, htake⟩
    rw [List.filter_cons_of_pos hc] at htake
    obtain ⟨star, rest, hstar, hrest, rfl⟩ := List.forall₂_cons_left_iff.mp htake
    exact ⟨star, rest, interleave pattern rest, rfl, by simp [interleave, hc], hstar, rfl, hrest⟩
  · rintro ⟨star, rest, back, rfl, rfl, hstar, rfl, hrest⟩
    refine ⟨by simp [interleave, hc], ?_⟩
    rw [List.filter_cons_of_pos hc]
    exact .cons hstar hrest

theorem splits_char (hc : isWildcardChar c = false) :
    Splits mayBeEmpty (c :: pattern) text stars ↔
      ∃ back, text = c :: back ∧ Splits mayBeEmpty pattern back stars := by
  have hfilter : (c :: pattern).filter isWildcardChar = pattern.filter isWildcardChar :=
    List.filter_cons_of_neg (by simp [hc])
  constructor
  · rintro ⟨rfl, htake⟩
    rw [hfilter] at htake
    exact ⟨interleave pattern stars, by simp [interleave, hc], rfl, htake⟩
  · rintro ⟨back, rfl, rfl, htake⟩
    exact ⟨by simp [interleave, hc], by rwa [hfilter]⟩

theorem splits_literal {word : Text} (hword : ∀ c ∈ word, isWildcardChar c = false) :
    Splits mayBeEmpty (word ++ pattern) text stars ↔
      ∃ back, text = word ++ back ∧ Splits mayBeEmpty pattern back stars := by
  induction word generalizing text with
  | nil => simp
  | cons c word ih =>
    obtain ⟨hc, hword⟩ := List.forall_mem_cons.mp hword
    simp only [List.cons_append, splits_char hc, ih hword]
    constructor
    · rintro ⟨_, rfl, back, rfl, hsplits⟩
      exact ⟨back, rfl, hsplits⟩
    · rintro ⟨back, rfl, hsplits⟩
      exact ⟨word ++ back, rfl, back, rfl, hsplits⟩

/-- A split is known by the lengths of its stars. -/
theorem Splits.eq_of_lengths_eq
    (hstars : Splits mayBeEmpty pattern text stars)
    (hothers : Splits mayBeEmpty pattern text others)
    (hlengths : stars.map List.length = others.map List.length) :
    stars = others := by
  induction pattern generalizing text stars others with
  | nil => rw [(splits_nil.mp hstars).2, (splits_nil.mp hothers).2]
  | cons c pattern ih =>
    cases hc : isWildcardChar c with
    | false =>
      obtain ⟨back, rfl, hrest⟩ := (splits_char hc).mp hstars
      obtain ⟨other, hback, hothers⟩ := (splits_char hc).mp hothers
      obtain rfl := (List.cons.inj hback).2
      exact ih hrest hothers hlengths
    | true =>
      obtain ⟨star, rest, back, rfl, rfl, -, hrest⟩ := (splits_wildcard hc).mp hstars
      obtain ⟨other, later, behind, rfl, htext, -, hlater⟩ := (splits_wildcard hc).mp hothers
      obtain ⟨hlength, htail⟩ := List.cons.inj hlengths
      obtain ⟨rfl, rfl⟩ := List.append_inj htext hlength
      rw [ih hrest hlater htail]

end Splits

/-! ## Patterns of literal text and wildcards -/

/-- A pattern without brackets, arrays and tags, and without white space around it. -/
structure IsFlat (pattern : Text) : Prop where
  trimmed : Text.trim pattern = pattern
  no_optional : '[' ∉ pattern
  no_group : '(' ∉ pattern
  no_reference : Text.tags reference? pattern = []
  no_weight : Text.tags Tag.weight? pattern = []

/-- How literal text and wildcards are written. -/
def spellSegment : Segment → Text
  | .literal word => word
  | .star _ => ['*']
  | .number => ['#']
  | .alpha => ['_']
  | _ => []

def spell (segments : List Segment) : Text :=
  segments.flatMap spellSegment

def IsFlatSegment (mayBeEmpty : Bool) : Segment → Prop
  | .literal word => ∀ c ∈ word, isWildcardChar c = false
  | .star flag => flag = mayBeEmpty
  | .number => True
  | .alpha => True
  | _ => False

theorem spell_append (segments others : List Segment) :
    spell (segments ++ others) = spell segments ++ spell others :=
  List.flatMap_append

theorem spell_pushChar (sequence : List Segment) (c : Char) :
    spell (pushChar sequence c) = spell sequence ++ [c] := by
  unfold pushChar
  split
  · rename_i word hlast
    obtain ⟨front, rfl⟩ := List.getLast?_eq_some_iff.mp hlast
    simp [spell, spellSegment]
  · simp [spell, spellSegment]

theorem isFlatSegment_pushChar
    {mayBeEmpty : Bool} {sequence : List Segment} {c : Char} (hc : isWildcardChar c = false)
    (hsequence : ∀ segment ∈ sequence, IsFlatSegment mayBeEmpty segment) :
    ∀ segment ∈ pushChar sequence c, IsFlatSegment mayBeEmpty segment := by
  unfold pushChar
  split
  · rename_i word hlast
    obtain ⟨front, rfl⟩ := List.getLast?_eq_some_iff.mp hlast
    simp only [List.forall_mem_append, List.forall_mem_singleton, List.dropLast_concat]
      at hsequence ⊢
    refine ⟨hsequence.1, fun d hd => ?_⟩
    rcases List.mem_append.mp hd with hd | hd
    · exact hsequence.2 d hd
    · obtain rfl := List.mem_singleton.mp hd
      exact hc
  · simp only [List.forall_mem_append, List.forall_mem_singleton]
    refine ⟨hsequence, fun d hd => ?_⟩
    obtain rfl := List.mem_singleton.mp hd
    exact hc

/-- Outside of brackets, the next character is written behind what has been read so far. -/
structure ReadsFlat (reading : Reading) (pattern : Text) : Prop where
  frames_eq : reading.frames = []
  keepsBlanks : reading.skipBlanks = false
  spell_eq : spell reading.sequence = pattern
  flat : ∀ segment ∈ reading.sequence, IsFlatSegment false segment

theorem ReadsFlat.push
    {reading : Reading} {pattern : Text} {segment : Segment} (hreads : ReadsFlat reading pattern)
    (hsegment : IsFlatSegment false segment) :
    ReadsFlat (reading.push segment) (pattern ++ spellSegment segment) where
  frames_eq := hreads.frames_eq
  keepsBlanks := hreads.keepsBlanks
  spell_eq := by
    rw [Reading.push, spell_append, hreads.spell_eq]
    simp [spell]
  flat := by simpa [Reading.push, or_imp, forall_and] using ⟨hreads.flat, hsegment⟩

theorem ReadsFlat.char
    {reading : Reading} {pattern : Text} {c : Char} (hreads : ReadsFlat reading pattern)
    (hsquare : c ≠ '[') (hround : c ≠ '(') :
    ReadsFlat (reading.token (.char c)) (pattern ++ [c]) := by
  have htoken : reading.token (.char c) = reading.plainChar c := by
    obtain ⟨frames, sequence, skipBlanks⟩ := reading
    obtain ⟨rfl, rfl⟩ : frames = [] ∧ skipBlanks = false := ⟨hreads.frames_eq, hreads.keepsBlanks⟩
    rfl
  rw [htoken]
  unfold Reading.plainChar
  split
  · exact hreads.push rfl
  · exact hreads.push trivial
  · exact hreads.push trivial
  · exact absurd rfl hsquare
  · exact absurd rfl hround
  · rename_i hstar hnumber halpha _ _
    have hc : isWildcardChar c = false := by
      simp only [isWildcardChar, Bool.or_eq_false_iff, decide_eq_false_iff_not]
      exact ⟨⟨hstar, hnumber⟩, halpha⟩
    exact ⟨hreads.frames_eq, hreads.keepsBlanks,
      by rw [spell_pushChar, hreads.spell_eq], isFlatSegment_pushChar hc hreads.flat⟩

theorem ReadsFlat.text
    {reading : Reading} {pattern text : Text} (hreads : ReadsFlat reading pattern)
    (hsquare : '[' ∉ text) (hround : '(' ∉ text) :
    ReadsFlat ((text.map Token.char).foldl Reading.token reading) (pattern ++ text) := by
  induction text generalizing reading pattern with
  | nil => simpa using hreads
  | cons c text ih =>
    rw [List.mem_cons, not_or] at hsquare hround
    have hnext := hreads.char (Ne.symm hsquare.1) (Ne.symm hround.1)
    simpa using ih hnext hsquare.2 hround.2

/-- Characters that open no bracket are read to segments that spell them. -/
theorem read_chars_spec {text : Text} (hsquare : '[' ∉ text) (hround : '(' ∉ text) :
    spell (read (text.map .char)) = text ∧
      ∀ segment ∈ read (text.map .char), IsFlatSegment false segment := by
  have hstart : ReadsFlat {} [] := ⟨rfl, rfl, rfl, by simp⟩
  have hreads := hstart.text hsquare hround
  rw [read, hreads.frames_eq]
  exact ⟨hreads.spell_eq, hreads.flat⟩

/-- A flat pattern is read to segments that spell it. -/
theorem IsFlat.parse_spec {pattern : Text} (hflat : IsFlat pattern) :
    spell (parse pattern) = pattern ∧
      ∀ segment ∈ parse pattern, IsFlatSegment (pattern = bareStar) segment := by
  unfold parse
  rw [hflat.trimmed]
  by_cases hbare : pattern = bareStar
  · subst hbare
    simp [spell, spellSegment, IsFlatSegment, bareStar]
  · have htokens : tokens (Tag.dropWeights pattern) = pattern.map .char := by
      rw [Tag.dropWeights, Text.replaceTags_of_tags_eq_nil _ hflat.no_weight, tokens,
        Text.pieces_of_tags_eq_nil hflat.no_reference]
      simp
    rw [if_neg hbare, htokens, decide_eq_false hbare]
    exact read_chars_spec hflat.no_optional hflat.no_group

theorem depth_extentSequence_le
    {mayBeEmpty : Bool} {segments : List Segment} (scope : Scope)
    (hflat : ∀ segment ∈ segments, IsFlatSegment mayBeEmpty segment) :
    (extentSequence scope segments).depth ≤ 4 := by
  induction segments with
  | nil => simp [extentSequence, Extent.ofWord]
  | cons segment segments ih =>
    obtain ⟨hsegment, hsegments⟩ := List.forall_mem_cons.mp hflat
    have hdepth : (extent scope segment).depth ≤ 4 := by
      cases segment <;> simp [IsFlatSegment, extent, Extent.ofWord] at hsegment ⊢
    exact max_le hdepth (ih hsegments)

theorem tooDeep_eq_false_of_flat
    {mayBeEmpty : Bool} {segments : List Segment} (scope : Scope)
    (hflat : ∀ segment ∈ segments, IsFlatSegment mayBeEmpty segment) :
    tooDeep scope segments = false := by
  have hdepth := depth_extentSequence_le scope hflat
  have hlimit : depthLimit = 250 := rfl
  rw [tooDeep, decide_eq_false_iff_not]
  omega

/-! ## The shortest way -/

theorem shortestRun?_le
    {p : Char → Bool} {text front back : Text} {marks : Marks} {n : Nat}
    (hshortest : shortestRun? p text marks = some n) (htext : text = front ++ back)
    (hrun : Run p front) (hhere : here (marks.drop front.length)) :
    n ≤ front.length := by
  induction text generalizing marks n front with
  | nil => simp [shortestRun?] at hshortest
  | cons c text ih =>
    cases front with
    | nil => exact absurd hrun run_nil
    | cons d front =>
      obtain ⟨rfl, rfl⟩ := List.cons.inj htext
      obtain ⟨hc, hfront⟩ := run_cons.mp hrun
      rw [shortestRun?, if_pos hc] at hshortest
      split at hshortest
      · obtain rfl := Option.some.inj hshortest
        simp
      · rename_i hmarks
        obtain ⟨m, hm, rfl⟩ := Option.map_eq_some_iff.mp hshortest
        have hhere : here (marks.tail.drop front.length) := by simpa [List.drop_tail] using hhere
        have hrun : Run p front :=
          hfront.resolve_left fun hnil => hmarks (by simpa [hnil] using hhere)
        simpa using ih hm rfl hrun hhere

theorem exists_shortest_of_runWay?
    {p : Char → Bool} {text : Text} {marks : Marks} {way : Way}
    (hway : runWay? p text marks = some way) :
    ∃ star back, text = star ++ back ∧ way = { stars := [star], taken := star.length } ∧
      Run p star ∧
      ∀ front rest, text = front ++ rest → Run p front → here (marks.drop front.length) →
        star.length ≤ front.length := by
  obtain ⟨n, hn, rfl⟩ := Option.map_eq_some_iff.mp hway
  obtain ⟨star, back, rfl, hrun, rfl, -⟩ := (finds_shortestRun? p text marks).exists_of_eq_some hn
  exact ⟨star, back, rfl, by simp, hrun, fun _ _ => shortestRun?_le hn⟩

/-- The way through a wildcard takes the shortest star that leads to a marked place. -/
def TakesShortest (scope : Scope) (segment : Segment) : Prop :=
  ∀ {text : Text} {marks : Marks} {way : Way}, way? scope segment text marks = some way →
    ∃ star back, text = star ++ back ∧ way = { stars := [star], taken := star.length } ∧
      Accepts scope segment star ∧
      ∀ front rest, text = front ++ rest → Accepts scope segment front →
        here (marks.drop front.length) → star.length ≤ front.length

theorem takesShortest_of_run
    {scope : Scope} {segment : Segment} (p : Char → Bool)
    (hway : ∀ text marks, way? scope segment text marks = runWay? p text marks)
    (haccepts : ∀ text, Accepts scope segment text ↔ Run p text) :
    TakesShortest scope segment := by
  intro text marks way hfound
  rw [hway] at hfound
  simpa only [haccepts] using exists_shortest_of_runWay? hfound

/-- A star that may be empty takes nothing where it can, and a run everywhere else. -/
theorem takesShortest_star (scope : Scope) (mayBeEmpty : Bool) :
    TakesShortest scope (.star mayBeEmpty) := by
  intro text marks way hway
  rw [way?] at hway
  split at hway
  · rename_i hempty
    obtain ⟨rfl, hhere⟩ : mayBeEmpty = true ∧ here marks = true := by simpa using hempty
    obtain rfl := Option.some.inj hway
    exact ⟨[], text, rfl, rfl, accepts_star.mpr (.inl ⟨rfl, rfl⟩), fun _ _ _ _ _ => Nat.zero_le _⟩
  · rename_i hempty
    obtain ⟨star, back, rfl, rfl, hrun, hleast⟩ := exists_shortest_of_runWay? hway
    refine ⟨star, back, rfl, rfl, accepts_star.mpr (.inr hrun), ?_⟩
    intro front rest htext haccepts hhere
    rcases accepts_star.mp haccepts with ⟨hmay, rfl⟩ | hfront
    · exact absurd (by simpa [hmay] using hhere) hempty
    · exact hleast front rest htext hfront hhere

/-- A flat segment is literal text, or a wildcard that takes its shortest star. -/
theorem IsFlatSegment.literal_or_wildcard
    {mayBeEmpty : Bool} {segment : Segment} (hflat : IsFlatSegment mayBeEmpty segment)
    (scope : Scope) :
    (∃ word, segment = .literal word ∧ ∀ c ∈ word, isWildcardChar c = false) ∨
      ∃ c, isWildcardChar c ∧ spellSegment segment = [c] ∧ TakesShortest scope segment ∧
        ∀ star, Accepts scope segment star ↔ CanTake mayBeEmpty c star := by
  cases segment with
  | literal word => exact .inl ⟨word, rfl, hflat⟩
  | star flag =>
    obtain rfl : flag = mayBeEmpty := hflat
    exact .inr ⟨'*', rfl, rfl, takesShortest_star scope flag, fun _ => by simp [Accepts, CanTake]⟩
  | number =>
    have hshortest : TakesShortest scope .number :=
      takesShortest_of_run Text.isDecimalDigit (fun _ _ => by rw [way?])
        fun _ => by rw [Accepts]
    exact .inr ⟨'#', rfl, rfl, hshortest, fun _ => by simp [Accepts, CanTake, Run]⟩
  | alpha =>
    have hshortest : TakesShortest scope .alpha :=
      takesShortest_of_run isLowerLetterOrSpace (fun _ _ => by rw [way?]) fun _ => accepts_alpha
    exact .inr ⟨'_', rfl, rfl, hshortest, fun _ => by simp [Accepts, CanTake, Run]⟩
  | optional _ | group _ | array _ | botVariable _ | userVariable _ | input _ | reply _ =>
    exact hflat.elim

/-! ## Least splits -/

/-- A split whose stars are as short as they can be, an earlier one before a later one. -/
structure LeastSplit (mayBeEmpty : Bool) (pattern text : Text) (stars : List Text) : Prop where
  splits : Splits mayBeEmpty pattern text stars
  least : ∀ others, Splits mayBeEmpty pattern text others →
    stars.map List.length ≤ others.map List.length

section Least

variable {scope : Scope} {mayBeEmpty : Bool} {segments : List Segment} {c : Char}
  {pattern text front back : Text} {stars : List Text} {way : Way}

theorem LeastSplit.literal
    {word : Text} (hleast : LeastSplit mayBeEmpty pattern back stars)
    (hword : ∀ c ∈ word, isWildcardChar c = false) :
    LeastSplit mayBeEmpty (word ++ pattern) (word ++ back) stars := by
  refine ⟨(splits_literal hword).mpr ⟨back, rfl, hleast.splits⟩, fun others hothers => ?_⟩
  obtain ⟨rest, hrest, hsplits⟩ := (splits_literal hword).mp hothers
  obtain rfl := List.append_cancel_left hrest
  exact hleast.least others hsplits

theorem LeastSplit.wildcard
    {star : Text} (hleast : LeastSplit mayBeEmpty pattern back stars) (hc : isWildcardChar c)
    (htake : CanTake mayBeEmpty c star)
    (hstar : ∀ other rest others, star ++ back = other ++ rest → CanTake mayBeEmpty c other →
      Splits mayBeEmpty pattern rest others → star.length ≤ other.length) :
    LeastSplit mayBeEmpty (c :: pattern) (star ++ back) (star :: stars) := by
  refine ⟨(splits_wildcard hc).mpr ⟨star, stars, back, rfl, rfl, htake, hleast.splits⟩, ?_⟩
  intro _ hothers
  obtain ⟨other, others, rest, rfl, htext, hother, hsplits⟩ := (splits_wildcard hc).mp hothers
  rcases (hstar other rest others htext hother hsplits).lt_or_eq with hshorter | hlength
  · exact le_of_lt (List.Lex.rel hshorter)
  · obtain ⟨rfl, rfl⟩ := List.append_inj htext hlength
    exact List.cons_le_cons _ (hleast.least others hsplits)

theorem drop_atEnd (front back : Text) :
    (atEnd (front ++ back)).drop front.length = atEnd back := by
  have hmap : (atEnd (front ++ back)) = (front.map fun _ => false) ++ atEnd back := by
    rw [atEnd, List.map_append, List.append_assoc, atEnd]
  rw [hmap, List.drop_left' (List.length_map _)]

/-- Flat segments accept the texts that they split. -/
theorem acceptsSequence_iff_exists_splits
    (hflat : ∀ segment ∈ segments, IsFlatSegment mayBeEmpty segment) :
    AcceptsSequence scope segments text ↔
      ∃ stars, Splits mayBeEmpty (spell segments) text stars := by
  induction segments generalizing text with
  | nil => simp [AcceptsSequence, spell, splits_nil]
  | cons segment segments ih =>
    obtain ⟨hsegment, hsegments⟩ := List.forall_mem_cons.mp hflat
    have hspell : spell (segment :: segments) = spellSegment segment ++ spell segments := by
      simp [spell]
    rw [AcceptsSequence, hspell]
    simp only [Both, ih hsegments]
    rcases hsegment.literal_or_wildcard scope with ⟨word, rfl, hword⟩ | ⟨c, hc, hone, -, htake⟩
    · simp only [Accepts, spellSegment, splits_literal hword]
      constructor
      · rintro ⟨_, back, rfl, rfl, stars, hsplits⟩
        exact ⟨stars, back, rfl, hsplits⟩
      · rintro ⟨stars, back, rfl, hsplits⟩
        exact ⟨word, back, rfl, rfl, stars, hsplits⟩
    · simp only [hone, List.singleton_append, splits_wildcard hc, htake]
      constructor
      · rintro ⟨star, back, rfl, hstar, stars, hsplits⟩
        exact ⟨star :: stars, star, stars, back, rfl, rfl, hstar, hsplits⟩
      · rintro ⟨_, star, stars, back, rfl, rfl, hstar, hsplits⟩
        exact ⟨star, back, rfl, hstar, stars, hsplits⟩

theorem here_beforeSequence_iff :
    here ((beforeSequence scope segments (front ++ back) (atEnd (front ++ back))).drop
        front.length) ↔ AcceptsSequence scope segments back := by
  have hbefore := isBefore_beforeSequence scope segments (length_atEnd (front ++ back))
  rw [hbefore.here_iff front back rfl, drop_atEnd, leads_atEnd]

/-- By induction on the segments: the rest of the text is split least, and no shorter star of the
first wildcard leaves a rest that can be split. -/
theorem leastSplit_of_sequenceWay?
    (hflat : ∀ segment ∈ segments, IsFlatSegment mayBeEmpty segment)
    (hway : sequenceWay? scope segments text (atEnd text) = some way) :
    LeastSplit mayBeEmpty (spell segments) text way.stars := by
  induction segments generalizing text way with
  | nil =>
    have hfinds := finds_sequenceWay? scope [] (length_atEnd text)
    have haccepts : AcceptsSequence scope [] text :=
      leads_atEnd.mp (hfinds.isSome_iff.mp (by simp [hway]))
    have hstars : way.stars = [] := List.eq_nil_of_length_eq_zero (stars_sequenceWay? scope [] hway)
    obtain rfl : text = [] := haccepts
    rw [hstars]
    exact ⟨splits_nil.mpr ⟨rfl, rfl⟩, fun others hothers => by rw [(splits_nil.mp hothers).2]⟩
  | cons segment segments ih =>
    obtain ⟨hsegment, hsegments⟩ := List.forall_mem_cons.mp hflat
    have hspell : spell (segment :: segments) = spellSegment segment ++ spell segments := by
      simp [spell]
    simp only [sequenceWay?, Option.bind_eq_bind, Option.pure_def, Option.bind_eq_some_iff,
      Option.some.injEq] at hway
    obtain ⟨first, hfirst, next, hnext, rfl⟩ := hway
    rw [hspell]
    rcases hsegment.literal_or_wildcard scope with ⟨word, rfl, hword⟩ | ⟨c, hc, hone, hshort, htake⟩
    · unfold way? at hfirst
      obtain ⟨found, hfind, rfl⟩ := Option.map_eq_some_iff.mp hfirst
      obtain rfl : found = word := by simpa [words] using List.mem_of_find?_eq_some hfind
      obtain ⟨_, back, rfl, rfl, -⟩ := leads_word.mp (List.find?_some hfind)
      rw [List.drop_left, drop_atEnd] at hnext
      exact (ih hsegments hnext).literal hword
    · obtain ⟨star, back, rfl, rfl, haccepts, hleast⟩ := hshort hfirst
      rw [List.drop_left, drop_atEnd] at hnext
      rw [hone]
      refine (ih hsegments hnext).wildcard hc ((htake star).mp haccepts) ?_
      intro other rest others htext hother hsplits
      refine hleast other rest htext ((htake other).mpr hother) ?_
      rw [htext, here_beforeSequence_iff, acceptsSequence_iff_exists_splits hsegments]
      exact ⟨others, hsplits⟩

/-- Matching flat segments takes the least of the splits of a text. -/
theorem matchSegments?_eq_some_iff
    (hflat : ∀ segment ∈ segments, IsFlatSegment mayBeEmpty segment) :
    matchSegments? scope segments text = some stars ↔
      LeastSplit mayBeEmpty (spell segments) text stars := by
  rw [matchSegments?, tooDeep_eq_false_of_flat scope hflat, if_neg Bool.false_ne_true,
    Option.map_eq_some_iff]
  constructor
  · rintro ⟨way, hway, rfl⟩
    exact leastSplit_of_sequenceWay? hflat hway
  · intro hstars
    have haccepts : AcceptsSequence scope segments text :=
      (acceptsSequence_iff_exists_splits hflat).mpr ⟨stars, hstars.splits⟩
    have hfinds := (finds_sequenceWay? scope segments (length_atEnd text)).isSome_iff
    rw [Option.isSome_map, leads_atEnd] at hfinds
    obtain ⟨way, hway⟩ := Option.isSome_iff_exists.mp (hfinds.mpr haccepts)
    have hfound := leastSplit_of_sequenceWay? hflat hway
    have hlengths : way.stars.map List.length = stars.map List.length :=
      le_antisymm (hfound.least stars hstars.splits) (hstars.least way.stars hfound.splits)
    exact ⟨way, hway, hfound.splits.eq_of_lengths_eq hstars.splits hlengths⟩

end Least

/-- Matching a pattern of literal text and wildcards takes the least of its splits of the text. -/
theorem match?_eq_some_iff_least_split
    {pattern : Text} (hflat : IsFlat pattern) (scope : Scope) (text : Text) (stars : List Text) :
    match? scope pattern text = some stars ↔
      IsSplit pattern text stars ∧
        ∀ others, IsSplit pattern text others →
          stars.map List.length ≤ others.map List.length := by
  obtain ⟨hspell, hsegments⟩ := hflat.parse_spec
  rw [match?, matchSegments?_eq_some_iff hsegments, hspell]
  exact ⟨fun hleast => ⟨hleast.splits, hleast.least⟩, fun ⟨hsplit, hother⟩ => ⟨hsplit, hother⟩⟩

theorem stars_of_two_splits :
    IsSplit "* is *".toList "a is b is c".toList ["a".toList, "b is c".toList] ∧
      ∀ others, IsSplit "* is *".toList "a is b is c".toList others →
        [1, 6] ≤ others.map List.length := by
  refine (match?_eq_some_iff_least_split ?_ ⟨Definitions.empty, Session.new [] 0⟩ _ _).mp ?_
  · exact ⟨by decide, by decide, by decide, by decide, by decide⟩
  · decide

end Pattern

end DialogueScript

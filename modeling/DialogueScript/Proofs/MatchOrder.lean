import DialogueScript.Proofs.FirstPlaces
import DialogueScript.Proofs.Numerals
import DialogueScript.Proofs.StableSort
import DialogueScript.Proofs.TagReading
import DialogueScript.Topic.Order

/-!
# Match order as one stable sort

The nested groups of the match order are one stable sort of the candidates by rank: level, weight,
shape, and number of words.  Ranks are read off candidates as they are written, with the level in
an inheritance tag; for that, the digits in the tags have to be numbers in range.
-/

namespace DialogueScript

/-! ## Ranks -/

namespace Pattern.Shape

def position : Shape → Nat
  | .atomic => 0
  | .optional => 1
  | .alpha => 2
  | .number => 3
  | .star => 4
  | .bareAlpha => 5
  | .bareNumber => 6
  | .bareStar => 7

theorem position_injective : Function.Injective position := by
  intro a b heq
  cases a <;> cases b <;> simp_all [position]

def precedes (a b : Shape) : Prop :=
  a.position < b.position

instance : DecidableRel precedes :=
  fun a b => inferInstanceAs (Decidable (a.position < b.position))

instance : IsStrictTotalOrder Shape precedes where
  irrefl a := Nat.lt_irrefl a.position
  trans _ _ _ := Nat.lt_trans
  trichotomous _ _ hab hba :=
    position_injective (Nat.le_antisymm (Nat.not_lt.mp hba) (Nat.not_lt.mp hab))

theorem all_pairwise : all.Pairwise precedes := by
  decide

theorem mem_all (shape : Shape) : shape ∈ all := by
  cases shape <;> decide

end Pattern.Shape

structure Rank where
  level : Int
  weight : Nat
  shape : Pattern.Shape
  words : Nat
deriving Repr, DecidableEq

namespace Rank

/-- `a` may stand before `b`. -/
def le (a b : Rank) : Bool :=
  a.level < b.level || (a.level = b.level &&
    (b.weight < a.weight || (a.weight = b.weight &&
      (a.shape.position < b.shape.position || (a.shape = b.shape && b.words ≤ a.words)))))

theorem le_iff {a b : Rank} :
    a.le b ↔ a.level < b.level ∨ a.level = b.level ∧
      (b.weight < a.weight ∨ a.weight = b.weight ∧
        (a.shape.position < b.shape.position ∨ a.shape = b.shape ∧ b.words ≤ a.words)) := by
  simp [le]

theorem shape_eq_iff {a b : Rank} : a.shape = b.shape ↔ a.shape.position = b.shape.position :=
  Pattern.Shape.position_injective.eq_iff.symm

theorem le_trans (a b c : Rank) (hab : a.le b) (hbc : b.le c) : a.le c := by
  simp only [le_iff, shape_eq_iff] at *
  omega

theorem le_total (a b : Rank) : a.le b || b.le a := by
  simp only [Bool.or_eq_true, le_iff, shape_eq_iff]
  omega

theorem tied_le_iff {a b : Rank} : tied le a b ↔ b = a := by
  constructor
  · intro htied
    simp only [tied, Bool.and_eq_true, le_iff, shape_eq_iff] at htied
    have hshape : b.shape = a.shape := shape_eq_iff.mpr (by omega)
    have hrest : b.level = a.level ∧ b.weight = a.weight ∧ b.words = a.words := by omega
    cases a
    cases b
    simp_all
  · rintro rfl
    simp [tied, le_iff]

/-- The rank of a candidate as the order takes it. -/
def ofCandidate (candidate : Candidate) : Rank :=
  { level := candidate.rankLevel
    weight := Pattern.weight candidate.text
    shape := Pattern.shape candidate.text
    words := Pattern.wordCount candidate.text }

end Rank

/-! ## The groups sort by rank -/

namespace Pattern

/-- Patterns of one level and one weight: by shape, then more words first. -/
def shapeLe : Text → Text → Bool :=
  byKey Shape.precedes shape (byKey (· > ·) wordCount fun _ _ => true)

/-- Patterns of one level: the heavier first. -/
def weightLe : Text → Text → Bool :=
  byKey (· > ·) weight shapeLe

theorem shapeLe_trans (a b c : Text) (hab : shapeLe a b) (hbc : shapeLe b c) : shapeLe a c :=
  byKey_trans (byKey_trans fun _ _ _ _ _ => rfl) a b c hab hbc

theorem shapeLe_total (a b : Text) : shapeLe a b || shapeLe b a :=
  byKey_total (byKey_total fun _ _ => rfl) a b

theorem weightLe_trans (a b c : Text) (hab : weightLe a b) (hbc : weightLe b c) : weightLe a c :=
  byKey_trans shapeLe_trans a b c hab hbc

theorem weightLe_total (a b : Text) : weightLe a b || weightLe b a :=
  byKey_total shapeLe_total a b

theorem stablySorted_shapeOrder (patterns : List Text) :
    StablySorted shapeLe patterns (shapeOrder patterns) := by
  have hwords : ∀ patterns : List Text,
      StablySorted (byKey (· > ·) wordCount fun _ _ => true) patterns
        (Groups.ofList wordCount patterns).descending.flatten := by
    intro patterns
    have hgroup : ∀ group : List Text, StablySorted (fun _ _ => true) group (id group) :=
      fun group => ⟨List.pairwise_of_forall fun _ _ => rfl, fun _ => rfl⟩
    simpa using StablySorted.descending_flatMap (fun _ => rfl) hgroup patterns
  exact StablySorted.flatMap_parts (fun a => by simp [byKey]) Shape.all_pairwise
    (fun a _ => Shape.mem_all (shape a)) fun bucket _ => hwords _

theorem stablySorted_weightOrder (patterns : List Text) :
    StablySorted weightLe patterns (weightOrder patterns) :=
  StablySorted.descending_flatMap (fun a => by simpa using shapeLe_total a a)
    stablySorted_shapeOrder patterns

end Pattern

/-- The rank of a candidate is its level, and then what its text is sorted by. -/
theorem Rank.le_ofCandidate_eq :
    (fun a b => (Rank.ofCandidate a).le (Rank.ofCandidate b)) =
      byKey (· < ·) Candidate.rankLevel fun a b => Pattern.weightLe a.text b.text := by
  have hwords : ∀ m n : Nat, n < m ∨ m = n ↔ n ≤ m := by omega
  funext a b
  rw [Bool.eq_iff_iff]
  simp only [byKey, Pattern.weightLe, Pattern.shapeLe, Bool.or_eq_true,
    Bool.and_eq_true, decide_eq_true_eq, gt_iff_lt, and_true, hwords, Rank.le_iff,
    Rank.ofCandidate]
  rfl

/-- Candidates are sorted by rank; a text keeps the first of its places. -/
theorem matchOrder_eq_mergeSort (candidates : List Candidate) :
    matchOrder candidates =
      ((candidates.mergeSort fun a b => (Rank.ofCandidate a).le (Rank.ofCandidate b)).map
        Candidate.text).eraseDups := by
  let textLe : Candidate → Candidate → Bool := fun a b => Pattern.weightLe a.text b.text
  have htrans : ∀ a b c, textLe a b → textLe b c → textLe a c :=
    fun a b c => Pattern.weightLe_trans a.text b.text c.text
  have htotal : ∀ a b, textLe a b || textLe b a :=
    fun a b => Pattern.weightLe_total a.text b.text
  have hgroup : ∀ group : List Candidate,
      Pattern.weightOrder (group.map Candidate.text) =
        (group.mergeSort textLe).map Candidate.text := by
    intro group
    have hsorted := Pattern.stablySorted_weightOrder (group.map Candidate.text)
    rw [hsorted.eq_mergeSort Pattern.weightLe_trans Pattern.weightLe_total]
    have hmap : ∀ a ∈ group, ∀ b ∈ group, textLe a b = Pattern.weightLe a.text b.text :=
      fun _ _ _ _ => rfl
    exact (List.map_mergeSort hmap).symm
  have hlevels : StablySorted (byKey (· < ·) Candidate.rankLevel textLe) candidates
      ((Groups.ofList Candidate.rankLevel candidates).ascending.flatMap
        fun group => group.mergeSort textLe) :=
    StablySorted.ascending_flatMap (fun a => by simpa using htotal a a)
      (stablySorted_mergeSort htrans htotal) candidates
  rw [matchOrder, Rank.le_ofCandidate_eq,
    ← hlevels.eq_mergeSort (byKey_trans htrans) (byKey_total htotal)]
  simp only [hgroup, List.map_flatMap]

theorem mem_matchOrder {candidates : List Candidate} {pattern : Text} :
    pattern ∈ matchOrder candidates ↔ ∃ candidate ∈ candidates, candidate.text = pattern := by
  simp [matchOrder_eq_mergeSort, List.mem_eraseDups]

theorem nodup_matchOrder (candidates : List Candidate) : (matchOrder candidates).Nodup :=
  nodup_eraseDups _

theorem pairwise_rank_mergeSort (candidates : List Candidate) :
    (candidates.mergeSort fun a b => (Rank.ofCandidate a).le (Rank.ofCandidate b)).Pairwise
      fun a b => (Rank.ofCandidate a).le (Rank.ofCandidate b) :=
  List.pairwise_mergeSort (fun _ b _ => Rank.le_trans _ (Rank.ofCandidate b) _)
    (fun _ _ => Rank.le_total _ _) candidates

/-- A candidate stands before a text all of whose candidates have to stand behind it. -/
theorem idxOf_matchOrder_lt_of_rank
    {candidates : List Candidate} {first : Candidate} {text : Text} (hfirst : first ∈ candidates)
    (hbehind : ∀ candidate ∈ candidates, candidate.text = text →
      ¬(Rank.ofCandidate candidate).le (Rank.ofCandidate first)) :
    (matchOrder candidates).idxOf first.text < (matchOrder candidates).idxOf text := by
  have hsorted := pairwise_rank_mergeSort candidates
  rw [matchOrder_eq_mergeSort]
  generalize hranked : candidates.mergeSort
    (fun a b => (Rank.ofCandidate a).le (Rank.ofCandidate b)) = ranked at *
  have hmem : ∀ candidate, candidate ∈ ranked ↔ candidate ∈ candidates := by
    intro candidate
    rw [← hranked]
    exact (List.mergeSort_perm _ _).mem_iff
  obtain ⟨front, back, hsplit⟩ := List.append_of_mem ((hmem first).mpr hfirst)
  have hfront : ∀ candidate ∈ front ++ [first],
      (Rank.ofCandidate candidate).le (Rank.ofCandidate first) := by
    intro candidate hcandidate
    rw [hsplit] at hsorted
    rcases List.mem_append.mp hcandidate with hcandidate | hcandidate
    · exact (List.pairwise_append.mp hsorted).2.2 candidate hcandidate first List.mem_cons_self
    · obtain rfl := List.mem_singleton.mp hcandidate
      simp [Rank.le]
  have happend : ranked = front ++ [first] ++ back := by simp [hsplit]
  have hnot : text ∉ (front ++ [first]).map Candidate.text := by
    intro hfound
    obtain ⟨candidate, hcandidate, htext⟩ := List.mem_map.mp hfound
    have hmember : candidate ∈ candidates :=
      (hmem candidate).mp (happend ▸ List.mem_append_left back hcandidate)
    exact hbehind candidate hmember htext (hfront candidate hcandidate)
  rw [happend, List.map_append]
  exact idxOf_eraseDups_lt (List.mem_map_of_mem (by simp)) hnot

/-! ## Candidates as they are written -/

/-- Digits that are a number below a limit. -/
def InRange (limit : Nat) (digits : Text) : Prop :=
  digits.all Char.isDigit ∧ Number.ofDigits digits < limit

instance (limit : Nat) (digits : Text) : Decidable (InRange limit digits) :=
  inferInstanceAs (Decidable (_ ∧ _))

theorem digits?_of_inRange
    {limit : Nat} {digits : Text} (hrange : InRange limit digits) (hsome : digits ≠ []) :
    (Number.digits? digits).filter (· < limit) = some (Number.ofDigits digits) := by
  have hdigits := Number.digits?_of_isDigit hsome (List.all_eq_true.mp hrange.1)
  simp [hdigits, Option.filter, hrange.2]

namespace Candidate

/-- The pattern with a tag for the level at which it was gathered.  Every text is the writing of a
candidate that was gathered at no level. -/
def written (candidate : Candidate) : Text :=
  match candidate.level with
  | some level =>
    "\x7binherits=".toList ++ Number.natText level ++ "\x7d".toList ++ candidate.pattern
  | none => candidate.pattern

theorem pieces_written (level : Nat) (pattern : Text) :
    Text.pieces Tag.inherits? (written ⟨some level, pattern⟩) =
      .tag (Number.natText level) :: Text.pieces Tag.inherits? pattern := by
  have hdigits : ∀ d ∈ Number.natText level, Text.isDecimalDigit d := fun d hd =>
    isDecimalDigit_of_isDigit (Number.isDigit_of_mem_natText hd)
  exact Text.pieces_of_read (by simp)
    (Tag.numbered?_append _ _ pattern hdigits (Number.natText_ne_nil level) (by decide))

theorem tags_written (candidate : Candidate) :
    Text.tags Tag.inherits? candidate.written =
      (candidate.level.map Number.natText).toList ++ Text.tags Tag.inherits? candidate.pattern := by
  obtain ⟨_ | level, pattern⟩ := candidate
  · rfl
  · simp [Text.tags, pieces_written]

theorem dropInherits_written (candidate : Candidate) :
    Tag.dropInherits candidate.written = candidate.text := by
  obtain ⟨_ | level, pattern⟩ := candidate
  · rfl
  · simp [Tag.dropInherits, Text.replaceTags, pieces_written, text]

end Candidate

namespace Rank

/-- The rank of a candidate as its writing states it: the number in the first inheritance tag, -1
without one, and of the text without these tags the number in the last weight tag, 0 without
one. -/
def ofWritten (written : Text) : Rank :=
  let pattern := Tag.dropInherits written
  { level := ((Text.tags Tag.inherits? written).head?.map fun digits =>
      (Number.ofDigits digits : Int)).getD (-1)
    weight := ((Text.tags Tag.weight? pattern).getLast?.map Number.ofDigits).getD 0
    shape := Pattern.shape pattern
    words := Pattern.wordCount pattern }

theorem level_ofWritten
    {candidate : Candidate}
    (hrange : ∀ digits ∈ Text.tags Tag.inherits? candidate.written, InRange (2 ^ 63) digits) :
    (ofWritten candidate.written).level = candidate.rankLevel := by
  obtain ⟨_ | level, pattern⟩ := candidate
  · simp only [ofWritten, Candidate.rankLevel, Candidate.written] at hrange ⊢
    cases hhead : (Text.tags Tag.inherits? pattern).head? with
    | none => rfl
    | some digits =>
      have hmem := List.mem_of_mem_head? hhead
      have hdigits := digits?_of_inRange (hrange digits hmem) (Tag.ne_nil_of_mem_tags hmem)
      have hlimit : UInt64.size / 2 = 2 ^ 63 := by decide
      simp only [hlimit, hdigits, Option.map_some, Option.getD_some, Option.elim_some]
      rfl
  · simp [ofWritten, Candidate.rankLevel, Candidate.tags_written, Number.ofDigits_natText]

theorem weight_ofWritten
    {candidate : Candidate}
    (hrange : ∀ digits ∈ Text.tags Tag.weight? (Tag.dropInherits candidate.written),
      InRange (2 ^ 32) digits) :
    (ofWritten candidate.written).weight = Pattern.weight candidate.text := by
  rw [Candidate.dropInherits_written] at hrange
  simp only [ofWritten, Pattern.weight, Candidate.dropInherits_written]
  cases hlast : (Text.tags Tag.weight? candidate.text).getLast? with
  | none => rfl
  | some digits =>
    have hmem := List.mem_of_getLast? hlast
    have hdigits := digits?_of_inRange (hrange digits hmem) (Tag.ne_nil_of_mem_tags hmem)
    have hlimit : UInt32.size = 2 ^ 32 := by decide
    simp only [hlimit, hdigits, Option.map_some, Option.getD_some]

theorem ofWritten_eq_ofCandidate
    {candidate : Candidate}
    (hinherits : ∀ digits ∈ Text.tags Tag.inherits? candidate.written, InRange (2 ^ 63) digits)
    (hweights : ∀ digits ∈ Text.tags Tag.weight? (Tag.dropInherits candidate.written),
      InRange (2 ^ 32) digits) :
    ofWritten candidate.written = ofCandidate candidate := by
  have hlevel := level_ofWritten hinherits
  have hweight := weight_ofWritten hweights
  simp_all [ofWritten, ofCandidate, Candidate.dropInherits_written]

end Rank

theorem map_written_mergeSort
    {candidates : List Candidate}
    (hinherits : ∀ candidate ∈ candidates, ∀ digits ∈ Text.tags Tag.inherits? candidate.written,
      InRange (2 ^ 63) digits)
    (hweights : ∀ candidate ∈ candidates,
      ∀ digits ∈ Text.tags Tag.weight? (Tag.dropInherits candidate.written),
        InRange (2 ^ 32) digits) :
    (candidates.mergeSort fun a b => (Rank.ofCandidate a).le (Rank.ofCandidate b)).map
        Candidate.written =
      (candidates.map Candidate.written).mergeSort
        fun a b => (Rank.ofWritten a).le (Rank.ofWritten b) := by
  have hrank : ∀ candidate ∈ candidates,
      Rank.ofWritten candidate.written = Rank.ofCandidate candidate :=
    fun candidate hmem =>
      Rank.ofWritten_eq_ofCandidate (hinherits candidate hmem) (hweights candidate hmem)
  apply List.map_mergeSort
  intro a ha b hb
  rw [hrank a ha, hrank b hb]

/-- The match order is one stable sort of what is written, by level, weight, shape and words, with
the inheritance tags dropped and every later duplicate left out. -/
theorem matchOrder_eq_stable_sort_of_written
    (candidates : List Candidate)
    (hinherits : ∀ candidate ∈ candidates, ∀ digits ∈ Text.tags Tag.inherits? candidate.written,
      InRange (2 ^ 63) digits)
    (hweights : ∀ candidate ∈ candidates,
      ∀ digits ∈ Text.tags Tag.weight? (Tag.dropInherits candidate.written),
        InRange (2 ^ 32) digits) :
    let written := candidates.map Candidate.written
    let ranked := written.mergeSort fun a b => (Rank.ofWritten a).le (Rank.ofWritten b)
    matchOrder candidates = (ranked.map Tag.dropInherits).eraseDups ∧
      ranked.Perm written ∧
      (ranked.Pairwise fun a b => (Rank.ofWritten a).le (Rank.ofWritten b)) ∧
      (∀ text, (ranked.filter fun other => Rank.ofWritten other = Rank.ofWritten text) =
        written.filter fun other => Rank.ofWritten other = Rank.ofWritten text) ∧
      (matchOrder candidates).Nodup ∧
      ∀ pattern, pattern ∈ matchOrder candidates ↔ pattern ∈ written.map Tag.dropInherits := by
  intro written ranked
  let le : Text → Text → Bool := fun a b => (Rank.ofWritten a).le (Rank.ofWritten b)
  have hsorted : StablySorted le written ranked :=
    stablySorted_mergeSort (fun a b c => Rank.le_trans (Rank.ofWritten a) _ (Rank.ofWritten c))
      (fun a b => Rank.le_total (Rank.ofWritten a) (Rank.ofWritten b)) written
  have htexts : (fun candidate : Candidate => Tag.dropInherits candidate.written) =
      Candidate.text :=
    funext Candidate.dropInherits_written
  refine ⟨?_, List.mergeSort_perm _ _, hsorted.pairwise, ?_, nodup_matchOrder candidates, ?_⟩
  · have hranked := map_written_mergeSort hinherits hweights
    rw [matchOrder_eq_mergeSort, ← htexts, ← Function.comp_def, ← List.map_map, hranked]
  · intro text
    have htied : ∀ other, decide (Rank.ofWritten other = Rank.ofWritten text) = tied le text other :=
      fun other => by rw [Bool.eq_iff_iff, decide_eq_true_eq, ← Rank.tied_le_iff]; rfl
    simp only [htied]
    exact hsorted.filter_tied text
  · intro pattern
    rw [mem_matchOrder, List.map_map, Function.comp_def, htexts, List.mem_map]

theorem matchOrder_eq_stable_sort_of_inherited_and_weighted :
    let candidates : List Candidate :=
      [⟨some 1, "hello *".toList⟩, ⟨some 0, "hello * \x7bweight=20\x7d".toList⟩, ⟨none, "hello".toList⟩,
        ⟨some 0, "hello *".toList⟩]
    let written := candidates.map Candidate.written
    let ranked := written.mergeSort fun a b => (Rank.ofWritten a).le (Rank.ofWritten b)
    matchOrder candidates = (ranked.map Tag.dropInherits).eraseDups ∧
      matchOrder candidates =
        ["hello".toList, "hello * \x7bweight=20\x7d".toList, "hello *".toList] := by
  intro candidates written ranked
  have hinherits : ∀ candidate ∈ candidates,
      ∀ digits ∈ Text.tags Tag.inherits? candidate.written, InRange (2 ^ 63) digits := by
    decide
  have hweights : ∀ candidate ∈ candidates,
      ∀ digits ∈ Text.tags Tag.weight? (Tag.dropInherits candidate.written),
        InRange (2 ^ 32) digits := by
    decide
  exact ⟨(matchOrder_eq_stable_sort_of_written candidates hinherits hweights).1, by decide +kernel⟩

end DialogueScript

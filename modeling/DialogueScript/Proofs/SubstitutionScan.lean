import DialogueScript.Substitution
import Mathlib.Data.List.Basic

/-!
# What a substitution pass replaces

A pass goes over a text from the left and either keeps or replaces what it finds.  The documented
pass replaces, at every place, the longest of the patterns that stand there on word boundaries.  The
pass that is made looks for the longest of all patterns that match at a place, and tries no shorter
one when this pattern begins or ends inside a word.  What it has found it looks up again in lower
case, so a letter that matches a pattern in another form of its own can be left as it is.
-/

namespace DialogueScript

namespace Text

theorem stripCase?_spec
    {lead text front rest : Text} (hstrip : stripCase? lead text = some (front, rest)) :
    text = front ++ rest ∧ front.length = lead.length := by
  induction lead generalizing text front with
  | nil =>
    obtain ⟨rfl, rfl⟩ : [] = front ∧ text = rest := by simpa [stripCase?] using hstrip
    exact ⟨rfl, rfl⟩
  | cons c lead ih =>
    cases text with
    | nil => simp [stripCase?] at hstrip
    | cons d text =>
      rw [stripCase?] at hstrip
      split at hstrip
      · obtain ⟨⟨inside, after⟩, hinside, heq⟩ := Option.map_eq_some_iff.mp hstrip
        obtain ⟨rfl, rfl⟩ : d :: inside = front ∧ after = rest := by simpa using heq
        obtain ⟨rfl, hlength⟩ := ih hinside
        exact ⟨rfl, by simp [hlength]⟩
      · cases hstrip

end Text

namespace Substitutions

/-! ## Edits -/

/-- What a pass does with a part of the text. -/
inductive Edit where
  | keep (part : Text)
  | replace (found output : Text)
deriving Repr, DecidableEq

namespace Edit

def read : Edit → Text
  | .keep part => part
  | .replace found _ => found

def written : Edit → Text
  | .keep part => part
  | .replace _ output => output

end Edit

/-- The places of a text that a pass comes to: the character before, and the text from there on. -/
def places (previous : Option Char) : List Edit → List (Option Char × Text)
  | [] => []
  | edit :: edits =>
    (previous, (edit :: edits).flatMap Edit.read) :: places edit.read.getLast? edits

/-- A pattern with its output, what it finds at the front of a text, and the text after that. -/
structure Candidate where
  pattern : Text
  output : Text
  found : Text
  after : Text

namespace Candidate

structure Matches
    (substitutions : Substitutions) (text : Text) (candidate : Candidate) : Prop where
  pattern_ne_nil : candidate.pattern ≠ []
  get_pattern : substitutions.table.get? candidate.pattern = some candidate.output
  strip_pattern :
    Text.stripCase? candidate.pattern text = some (candidate.found, candidate.after)

/-- No letter or digit stands directly before or after what is found. -/
structure OnBoundaries (previous : Option Char) (candidate : Candidate) : Prop where
  free_before : ∀ c ∈ previous, Text.isAlphanumeric c = false
  free_after : ∀ c ∈ candidate.after.head?, Text.isAlphanumeric c = false

variable {substitutions : Substitutions} {previous : Option Char} {text : Text}
  {candidate other : Candidate}

theorem Matches.text_eq (hmatch : candidate.Matches substitutions text) :
    text = candidate.found ++ candidate.after :=
  (Text.stripCase?_spec hmatch.strip_pattern).1

theorem Matches.length_found (hmatch : candidate.Matches substitutions text) :
    candidate.found.length = candidate.pattern.length :=
  (Text.stripCase?_spec hmatch.strip_pattern).2

theorem Matches.found_ne_nil (hmatch : candidate.Matches substitutions text) :
    candidate.found ≠ [] := by
  intro hnil
  have hlength := hmatch.length_found
  rw [hnil] at hlength
  exact hmatch.pattern_ne_nil (List.eq_nil_of_length_eq_zero hlength.symm)

theorem Matches.length_after_lt (hmatch : candidate.Matches substitutions text) :
    candidate.after.length < text.length := by
  have hpositive := List.length_pos_iff.mpr hmatch.found_ne_nil
  rw [hmatch.text_eq, List.length_append]
  omega

/-- Patterns of one length find the same. -/
theorem Matches.same_found
    (hmatch : candidate.Matches substitutions text) (hother : other.Matches substitutions text)
    (hlength : candidate.pattern.length = other.pattern.length) :
    candidate.found = other.found ∧ candidate.after = other.after := by
  have htext := hmatch.text_eq.symm.trans hother.text_eq
  exact List.append_inj htext (by rw [hmatch.length_found, hother.length_found, hlength])

theorem onBoundaries_iff :
    candidate.OnBoundaries previous ↔ onWordBoundary previous candidate.after := by
  have hany : ∀ o : Option Char,
      (∀ c ∈ o, Text.isAlphanumeric c = false) ↔ (!o.any Text.isAlphanumeric) = true := by
    intro o
    cases o <;> simp
  rw [onWordBoundary, Bool.and_eq_true, ← hany, ← hany]
  exact ⟨fun hboundaries => ⟨hboundaries.1, hboundaries.2⟩, fun h => ⟨h.1, h.2⟩⟩

/-- The longest of the candidates that satisfy `p`. -/
structure IsLongest (p : Candidate → Prop) (candidate : Candidate) : Prop where
  holds : p candidate
  length_le : ∀ other, p other → other.pattern.length ≤ candidate.pattern.length

theorem IsLongest.same_found
    (hlongest : candidate.IsLongest (Matches substitutions text))
    (hother : other.IsLongest (Matches substitutions text)) :
    candidate.found = other.found ∧ candidate.after = other.after := by
  have hlength := Nat.le_antisymm (hother.length_le _ hlongest.holds)
    (hlongest.length_le _ hother.holds)
  exact hlongest.holds.same_found hother.holds hlength

end Candidate

/-! ## The documented pass -/

variable (substitutions : Substitutions)

/-- A candidate at the front of a text, on word boundaries. -/
def Fits (previous : Option Char) (text : Text) (candidate : Candidate) : Prop :=
  candidate.Matches substitutions text ∧ candidate.OnBoundaries previous

/-- The edits of the documented pass over a text that follows `previous`. -/
inductive Documented : Option Char → Text → List Edit → Prop where
  | done (previous : Option Char) : Documented previous [] []
  | replace {previous : Option Char} {text : Text} {edits : List Edit} (candidate : Candidate)
      (hlongest : candidate.IsLongest (substitutions.Fits previous text))
      (hrest : Documented candidate.found.getLast? candidate.after edits) :
      Documented previous text (.replace candidate.found candidate.output :: edits)
  | copy {previous : Option Char} {c : Char} {rest : Text} {edits : List Edit}
      (hnone : ∀ candidate, ¬ substitutions.Fits previous (c :: rest) candidate)
      (hrest : Documented (some c) rest edits) :
      Documented previous (c :: rest) (.keep [c] :: edits)

/-! ## The pass that is made -/

/-- What is written for a text that was found. -/
def editOf (found : Text) : Edit :=
  match substitutions.table.get? (Text.lower found) with
  | some output => .replace found output
  | none => .keep found

/-- The edits of a pass over a text whose first `skip` characters are replaced already. -/
def scanAfter (previous : Option Char) : Nat → Text → List Edit
  | _, [] => []
  | skip + 1, c :: rest => scanAfter (some c) skip rest
  | 0, c :: rest =>
    match match? substitutions.patterns (c :: rest) with
    | none => .keep [c] :: scanAfter (some c) 0 rest
    | some (found, after) =>
      if onWordBoundary previous after then
        substitutions.editOf found :: scanAfter (some c) (found.length - 1) rest
      else .keep [c] :: scanAfter (some c) 0 rest

def scan (text : Text) : List Edit :=
  substitutions.scanAfter none 0 text

/-- The edits of the pass that is made: a pattern is replaced if it is the longest of all that
match, and stands on word boundaries. -/
inductive Scanned : Option Char → Text → List Edit → Prop where
  | done (previous : Option Char) : Scanned previous [] []
  | take {previous : Option Char} {text : Text} {edits : List Edit} (candidate : Candidate)
      (hlongest : candidate.IsLongest (Candidate.Matches substitutions text))
      (hboundaries : candidate.OnBoundaries previous)
      (hrest : Scanned candidate.found.getLast? candidate.after edits) :
      Scanned previous text (substitutions.editOf candidate.found :: edits)
  | copy {previous : Option Char} {c : Char} {rest : Text} {edits : List Edit}
      (hnone : ∀ candidate : Candidate,
        candidate.IsLongest (Candidate.Matches substitutions (c :: rest)) →
          ¬ candidate.OnBoundaries previous)
      (hrest : Scanned (some c) rest edits) :
      Scanned previous (c :: rest) (.keep [c] :: edits)

variable {substitutions : Substitutions} {previous : Option Char} {text : Text}
  {candidate : Candidate} {edits : List Edit}

@[simp]
theorem read_editOf (found : Text) : (substitutions.editOf found).read = found := by
  unfold editOf
  split <;> rfl

theorem mem_patterns {pattern : Text} :
    pattern ∈ substitutions.patterns ↔
      pattern ≠ [] ∧ ∃ output, substitutions.table.get? pattern = some output := by
  rw [patterns, List.mem_mergeSort, List.mem_filter, and_comm, Table.keys, Table.get?,
    ← Option.isSome_iff_exists, List.lookup_isSome_iff, List.mem_map]
  refine and_congr (by simp) (exists_congr fun entry => and_congr_right fun _ => ?_)
  rw [beq_iff_eq, eq_comm]

theorem pairwise_patterns (substitutions : Substitutions) :
    substitutions.patterns.Pairwise fun s t => t.length ≤ s.length := by
  have htrans : ∀ s t u : Text, decide (t.length ≤ s.length) → decide (u.length ≤ t.length) →
      decide (u.length ≤ s.length) := by
    simp only [decide_eq_true_eq]
    exact fun s t u hst htu => Nat.le_trans htu hst
  have htotal : ∀ s t : Text, decide (t.length ≤ s.length) || decide (s.length ≤ t.length) := by
    simp only [Bool.or_eq_true, decide_eq_true_eq]
    exact fun s t => Nat.le_total t.length s.length
  exact (List.pairwise_mergeSort htrans htotal _).imp of_decide_eq_true

theorem not_matches_of_match?_eq_none
    (hmatch : match? substitutions.patterns text = none) (candidate : Candidate) :
    ¬ candidate.Matches substitutions text := by
  intro hcandidate
  have hmem := mem_patterns.mpr ⟨hcandidate.pattern_ne_nil, _, hcandidate.get_pattern⟩
  have hstrip := List.findSome?_eq_none_iff.mp hmatch _ hmem
  rw [hcandidate.strip_pattern] at hstrip
  cases hstrip

/-- The patterns are tried from the longest to the shortest. -/
theorem isLongest_of_match?
    {found after : Text} (hmatch : match? substitutions.patterns text = some (found, after)) :
    ∃ candidate : Candidate, candidate.IsLongest (Candidate.Matches substitutions text) ∧
      candidate.found = found ∧ candidate.after = after := by
  obtain ⟨longer, pattern, shorter, hpatterns, hstrip, hlonger⟩ :=
    List.findSome?_eq_some_iff.mp hmatch
  have hpattern : pattern ∈ substitutions.patterns := by simp [hpatterns]
  obtain ⟨hne, output, hget⟩ := mem_patterns.mp hpattern
  refine ⟨⟨pattern, output, found, after⟩, ⟨⟨hne, hget, hstrip⟩, fun other hother => ?_⟩, rfl, rfl⟩
  have hmem := mem_patterns.mpr ⟨hother.pattern_ne_nil, _, hother.get_pattern⟩
  have hpairwise := substitutions.pairwise_patterns
  rw [hpatterns] at hmem hpairwise
  rcases List.mem_append.mp hmem with hfirst | hlast
  · have hstrip := hother.strip_pattern
    rw [hlonger _ hfirst] at hstrip
    cases hstrip
  · rcases List.mem_cons.mp hlast with heq | hshorter
    · exact Nat.le_of_eq (congrArg List.length heq)
    · exact (List.pairwise_cons.mp (List.pairwise_append.mp hpairwise).2.1).1 _ hshorter

/-! ## From places to passes -/

/-- What has been replaced is passed over. -/
theorem scanAfter_append (previous : Option Char) (skipped rest : Text) :
    substitutions.scanAfter previous skipped.length (skipped ++ rest) =
      substitutions.scanAfter (skipped.getLast?.or previous) 0 rest := by
  induction skipped generalizing previous with
  | nil => rfl
  | cons c skipped ih =>
    have hlast : (c :: skipped).getLast? = skipped.getLast?.or (some c) :=
      List.getLast?_append (l := [c])
    rw [hlast, Option.or_assoc, Option.some_or, ← ih (some c)]
    rfl

/-- Behind what it has found, the pass goes on. -/
theorem scanAfter_found
    {found after : Text} (hfound : found ≠ [])
    (hmatch : match? substitutions.patterns (found ++ after) = some (found, after))
    (hboundary : onWordBoundary previous after) :
    substitutions.scanAfter previous 0 (found ++ after) =
      substitutions.editOf found :: substitutions.scanAfter found.getLast? 0 after := by
  obtain ⟨c, inside, rfl⟩ := List.exists_cons_of_ne_nil hfound
  have hlast : (c :: inside).getLast? = inside.getLast?.or (some c) :=
    List.getLast?_append (l := [c])
  rw [List.cons_append] at hmatch ⊢
  simp only [scanAfter, hmatch, hboundary, if_true, List.length_cons, Nat.add_sub_cancel,
    scanAfter_append, hlast]

theorem scanned_scanAfter (previous : Option Char) (text : Text) :
    substitutions.Scanned previous text (substitutions.scanAfter previous 0 text) := by
  induction hn : text.length using Nat.strongRecOn generalizing previous text with
  | ind n ih =>
    subst hn
    cases text with
    | nil => exact .done previous
    | cons c rest =>
      have hrest := ih rest.length (Nat.lt_succ_self _) (some c) rest rfl
      cases hmatch : match? substitutions.patterns (c :: rest) with
      | none =>
        have hnone := not_matches_of_match?_eq_none hmatch
        rw [scanAfter, hmatch]
        exact .copy (fun candidate hlongest => absurd hlongest.holds (hnone candidate)) hrest
      | some part =>
        obtain ⟨found, after⟩ := part
        obtain ⟨candidate, hlongest, rfl, rfl⟩ := isLongest_of_match? hmatch
        by_cases hboundary : onWordBoundary previous candidate.after
        · have hlater := ih _ hlongest.holds.length_after_lt candidate.found.getLast? _ rfl
          have htext := hlongest.holds.text_eq
          have hscan := scanAfter_found hlongest.holds.found_ne_nil (htext ▸ hmatch) hboundary
          rw [htext, hscan, ← htext]
          exact .take candidate hlongest (Candidate.onBoundaries_iff.mpr hboundary) hlater
        · simp only [scanAfter, hmatch, hboundary, if_false, Bool.false_eq_true]
          refine .copy (fun other hother hboundaries => hboundary ?_) hrest
          rw [(hlongest.same_found hother).2]
          exact Candidate.onBoundaries_iff.mp hboundaries

theorem Scanned.flatMap_read (hscanned : substitutions.Scanned previous text edits) :
    edits.flatMap Edit.read = text := by
  induction hscanned with
  | done previous => rfl
  | take candidate hlongest _ _ ih =>
    rw [List.flatMap_cons, ih, read_editOf, ← hlongest.holds.text_eq]
  | copy _ _ ih =>
    rw [List.flatMap_cons, ih]
    rfl

theorem flatMap_written_scanAfter (previous : Option Char) (skip : Nat) (text : Text) :
    (substitutions.scanAfter previous skip text).flatMap Edit.written =
      applyAfter substitutions.table substitutions.patterns previous skip text := by
  have hwritten : ∀ found, (substitutions.editOf found).written =
      (substitutions.table.get? (Text.lower found)).getD found := by
    intro found
    unfold editOf
    cases substitutions.table.get? (Text.lower found) <;> rfl
  induction text generalizing previous skip with
  | nil => cases skip <;> rfl
  | cons c rest ih =>
    cases skip with
    | succ skip => exact ih (some c) skip
    | zero =>
      rw [scanAfter, applyAfter]
      cases match? substitutions.patterns (c :: rest) with
      | none => simp [ih, Edit.written]
      | some part =>
        obtain ⟨found, after⟩ := part
        dsimp only
        split
        · rw [List.flatMap_cons, hwritten, ih]
        · simp [ih, Edit.written]

/-! ## Where the two agree -/

/-- If any pattern stands at the front of a text on word boundaries, one does that is as long as all
patterns that match there, and its output is also the one of the text that it finds. -/
def KeepsRule (substitutions : Substitutions) (place : Option Char × Text) : Prop :=
  (∃ candidate, substitutions.Fits place.1 place.2 candidate) →
    ∃ candidate : Candidate, candidate.IsLongest (Candidate.Matches substitutions place.2) ∧
      candidate.OnBoundaries place.1 ∧
      substitutions.table.get? (Text.lower candidate.found) = some candidate.output

theorem documented_replace_iff {found output : Text} :
    substitutions.Documented previous text (.replace found output :: edits) ↔
      ∃ candidate : Candidate, candidate.IsLongest (substitutions.Fits previous text) ∧
        candidate.found = found ∧ candidate.output = output ∧
        substitutions.Documented found.getLast? candidate.after edits := by
  constructor
  · intro hdocumented
    cases hdocumented with
    | replace candidate hlongest hrest => exact ⟨candidate, hlongest, rfl, rfl, hrest⟩
  · rintro ⟨candidate, hlongest, rfl, rfl, hrest⟩
    exact .replace candidate hlongest hrest

theorem documented_keep_iff {part : Text} :
    substitutions.Documented previous text (.keep part :: edits) ↔
      (∀ candidate, ¬ substitutions.Fits previous text candidate) ∧
        ∃ c rest, part = [c] ∧ text = c :: rest ∧
          substitutions.Documented (some c) rest edits := by
  constructor
  · intro hdocumented
    cases hdocumented with
    | copy hnone hrest => exact ⟨hnone, _, _, rfl, rfl, hrest⟩
  · rintro ⟨hnone, c, rest, rfl, rfl, hrest⟩
    exact .copy hnone hrest

/-- Where the longest of all patterns that match stands on word boundaries. -/
theorem documented_editOf_iff
    (hlongest : candidate.IsLongest (Candidate.Matches substitutions text))
    (hboundaries : candidate.OnBoundaries previous) :
    substitutions.Documented previous text (substitutions.editOf candidate.found :: edits) ↔
      substitutions.KeepsRule (previous, text) ∧
        substitutions.Documented candidate.found.getLast? candidate.after edits := by
  have hfits : substitutions.Fits previous text candidate := ⟨hlongest.holds, hboundaries⟩
  constructor
  · intro hdocumented
    cases hget : substitutions.table.get? (Text.lower candidate.found) with
    | none =>
      rw [editOf, hget] at hdocumented
      exact absurd hfits ((documented_keep_iff.mp hdocumented).1 candidate)
    | some output =>
      rw [editOf, hget] at hdocumented
      obtain ⟨other, hother, hfound, rfl, hrest⟩ := documented_replace_iff.mp hdocumented
      have hlength : candidate.pattern.length = other.pattern.length := by
        rw [← hlongest.holds.length_found, ← hother.holds.1.length_found, hfound]
      have hall : other.IsLongest (Candidate.Matches substitutions text) :=
        ⟨hother.holds.1, hlength ▸ hlongest.length_le⟩
      refine ⟨fun _ => ⟨other, hall, hother.holds.2, by rw [hfound, hget]⟩, ?_⟩
      rwa [(hlongest.same_found hall).2]
  · rintro ⟨hkeeps, hrest⟩
    obtain ⟨other, hother, hstands, hget⟩ := hkeeps ⟨candidate, hfits⟩
    obtain ⟨hfound, hafter⟩ := hlongest.same_found hother
    rw [editOf, hfound, hget]
    rw [hfound, hafter] at hrest
    exact .replace other ⟨⟨hother.holds, hstands⟩, fun _ hfit => hother.length_le _ hfit.1⟩ hrest

/-- By induction on the pass that is made, place by place. -/
theorem Scanned.documented_iff (hscanned : substitutions.Scanned previous text edits) :
    substitutions.Documented previous text edits ↔
      ∀ place ∈ places previous edits, substitutions.KeepsRule place := by
  induction hscanned with
  | done previous => simp [places, Documented.done]
  | @take previous text edits candidate hlongest hboundaries hrest ih =>
    have hread : (substitutions.editOf candidate.found :: edits).flatMap Edit.read = text :=
      (Scanned.take candidate hlongest hboundaries hrest).flatMap_read
    rw [documented_editOf_iff hlongest hboundaries, ih, places, List.forall_mem_cons, hread,
      read_editOf]
  | @copy previous c rest edits hnone hrest ih =>
    have hread : (Edit.keep [c] :: edits).flatMap Edit.read = c :: rest :=
      (Scanned.copy hnone hrest).flatMap_read
    have hkeeps : substitutions.KeepsRule (previous, c :: rest) ↔
        ∀ candidate, ¬ substitutions.Fits previous (c :: rest) candidate := by
      constructor
      · intro hkeeps candidate hfits
        obtain ⟨longest, hlongest, hboundaries, -⟩ := hkeeps ⟨candidate, hfits⟩
        exact hnone longest hlongest hboundaries
      · rintro hnot ⟨candidate, hfits⟩
        exact absurd hfits (hnot candidate)
    have hlast : (Edit.keep [c]).read.getLast? = some c := rfl
    rw [documented_keep_iff, places, List.forall_mem_cons, hread, hkeeps, hlast, ← ih]
    simp

/-- A pass replaces the longest of all patterns that match at a place, if this one stands on word
boundaries and its text is written in the table.  This is the documented pass exactly when, at every
place that it comes to, the longest of all patterns that match there stands on word boundaries as
soon as any pattern does, and the table has its output under what it found. -/
theorem scan_is_documented_iff (substitutions : Substitutions) (text : Text) :
    substitutions.Scanned none text (substitutions.scan text) ∧
      (substitutions.scan text).flatMap Edit.read = text ∧
      (substitutions.scan text).flatMap Edit.written = substitutions.apply text ∧
      (substitutions.Documented none text (substitutions.scan text) ↔
        ∀ place ∈ places none (substitutions.scan text), substitutions.KeepsRule place) := by
  have hscanned := substitutions.scanned_scanAfter none text
  exact ⟨hscanned, hscanned.flatMap_read, flatMap_written_scanAfter none 0 text,
    hscanned.documented_iff⟩

/-! ## A phrase and its first word -/

def phraseTable : Substitutions :=
  (empty.set "a b".toList "x".toList).set "a".toList "y".toList

theorem entries_phraseTable :
    phraseTable.table.entries = [("a b".toList, "x".toList), ("a".toList, "y".toList)] := by
  decide

theorem Candidate.Matches.of_phraseTable (hmatch : candidate.Matches phraseTable text) :
    candidate.pattern = "a b".toList ∨
      candidate.pattern = "a".toList ∧ candidate.output = "y".toList := by
  have hget := hmatch.get_pattern
  rw [Table.get?, entries_phraseTable, List.lookup_cons, List.lookup_cons] at hget
  split at hget
  · rename_i hphrase
    exact .inl (eq_of_beq hphrase)
  · split at hget
    · rename_i hword
      exact .inr ⟨eq_of_beq hword, (Option.some.inj hget).symm⟩
    · cases hget

theorem not_fits_phraseTable {c : Char} (hletter : Text.sameLetter 'a' c = false) (rest : Text) :
    ¬ phraseTable.Fits previous (c :: rest) candidate := by
  obtain ⟨pattern, output, found, after⟩ := candidate
  rintro ⟨hmatch, -⟩
  have hstrip := hmatch.strip_pattern
  rcases hmatch.of_phraseTable with rfl | ⟨rfl, -⟩ <;> simp [Text.stripCase?, hletter] at hstrip

/-- The phrase ends inside a word. -/
theorem Fits.of_phraseTable (hfits : phraseTable.Fits none "a bc".toList candidate) :
    candidate.pattern = "a".toList ∧ candidate.output = "y".toList := by
  obtain ⟨pattern, output, found, after⟩ := candidate
  obtain ⟨hmatch, hboundaries⟩ := hfits
  refine hmatch.of_phraseTable.resolve_left ?_
  rintro rfl
  have hstrip := hmatch.strip_pattern
  have hphrase : Text.stripCase? "a b".toList "a bc".toList = some ("a b".toList, ['c']) := by
    decide
  obtain ⟨-, rfl⟩ := Prod.mk.inj (Option.some.inj (hphrase.symm.trans hstrip))
  exact absurd (hboundaries.free_after 'c' rfl) (by decide)

theorem apply_phraseTable : phraseTable.apply "a bc".toList = "a bc".toList := by
  have hpatterns : phraseTable.patterns = ["a b".toList, "a".toList] := by
    rw [patterns, Table.keys, entries_phraseTable]
    exact List.mergeSort_of_pairwise (by decide)
  rw [apply, hpatterns]
  decide

/-- In `a bc` the phrase `a b` ends inside a word, and the word `a` is not tried. -/
theorem shorter_pattern_is_left_out :
    (∃ edits, phraseTable.Documented none "a bc".toList edits ∧
        edits.flatMap Edit.written = "y bc".toList) ∧
      ∀ edits, phraseTable.Documented none "a bc".toList edits →
        edits.flatMap Edit.written ≠ phraseTable.apply "a bc".toList := by
  have hword : phraseTable.Fits none "a bc".toList ⟨['a'], ['y'], ['a'], " bc".toList⟩ := by
    refine ⟨⟨by decide, by decide, by decide⟩, nofun, fun c hc => ?_⟩
    obtain rfl : ' ' = c := Option.some.inj hc
    decide
  constructor
  · refine ⟨[.replace ['a'] ['y'], .keep [' '], .keep ['b'], .keep ['c']], ?_, by decide⟩
    refine .replace _ ⟨hword, fun other hother => by rw [hother.of_phraseTable.1]; decide⟩ ?_
    refine .copy (fun _ => not_fits_phraseTable (by decide) _) ?_
    refine .copy (fun _ => not_fits_phraseTable (by decide) _) ?_
    exact .copy (fun _ => not_fits_phraseTable (by decide) _) (.done _)
  · intro edits hdocumented
    rw [apply_phraseTable]
    cases edits with
    | nil => nomatch hdocumented
    | cons edit edits =>
      cases edit with
      | keep part => exact absurd hword ((documented_keep_iff.mp hdocumented).1 _)
      | replace found output =>
        obtain ⟨candidate, hlongest, -, rfl, -⟩ := documented_replace_iff.mp hdocumented
        rw [List.flatMap_cons, Edit.written, hlongest.holds.of_phraseTable.2]
        simp

end Substitutions

end DialogueScript

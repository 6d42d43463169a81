import DialogueScript.Proofs.PatternLanguage

/-!
# Matching decides the language

From the front of a text, matching takes for each segment the first of its ways that leads to a
marked place.  Because the marks tell whether the rest can be matched, such a way is found exactly
when there is one, and none has to be given up.
-/

namespace DialogueScript

namespace Pattern

open Marks

/-- How far a text of `L` leads to a marked place, when one does. -/
structure Finds (L : Text → Prop) (text : Text) (marks : Marks) (found : Option Nat) : Prop where
  isSome_of_leads : Leads L text marks → found.isSome
  exists_of_eq_some : ∀ {n}, found = some n → ∃ front back, text = front ++ back ∧ L front ∧
    front.length = n ∧ here (marks.drop front.length)

namespace Finds

variable {L M : Text → Prop} {text : Text} {marks middle : Marks} {found other : Option Nat}

theorem isSome_iff (hfinds : Finds L text marks found) : found.isSome ↔ Leads L text marks := by
  refine ⟨fun hsome => ?_, hfinds.isSome_of_leads⟩
  obtain ⟨n, hn⟩ := Option.isSome_iff_exists.mp hsome
  obtain ⟨front, back, htext, hfront, -, hhere⟩ := hfinds.exists_of_eq_some hn
  exact ⟨front, back, htext, hfront, hhere⟩

/-- Only the fronts of the text matter. -/
theorem congr
    (hfinds : Finds L text marks found)
    (hiff : ∀ front back, text = front ++ back → (L front ↔ M front)) :
    Finds M text marks found := by
  refine ⟨?_, fun heq => ?_⟩
  · rintro ⟨front, back, htext, hfront, hhere⟩
    exact hfinds.isSome_of_leads ⟨front, back, htext, (hiff front back htext).mpr hfront, hhere⟩
  · obtain ⟨front, back, htext, hfront, hlength, hhere⟩ := hfinds.exists_of_eq_some heq
    exact ⟨front, back, htext, (hiff front back htext).mp hfront, hlength, hhere⟩

theorem congr_all (hfinds : Finds L text marks found) (hiff : ∀ text, L text ↔ M text) :
    Finds M text marks found :=
  hfinds.congr fun front _ _ => hiff front

theorem nothing : Finds (fun _ => False) text marks none :=
  ⟨fun ⟨_, _, _, hfalse, _⟩ => hfalse.elim, fun heq => nomatch heq⟩

/-- Another way is taken only when there is no first one. -/
theorem orElse (hfound : Finds L text marks found) (hother : Finds M text marks other) :
    Finds (fun text => L text ∨ M text) text marks (found <|> other) := by
  cases found with
  | some n =>
    refine ⟨fun _ => rfl, fun heq => ?_⟩
    obtain ⟨front, back, htext, hfront, hlength, hhere⟩ := hfound.exists_of_eq_some heq
    exact ⟨front, back, htext, .inl hfront, hlength, hhere⟩
  | none =>
    refine ⟨fun hleads => ?_, fun heq => ?_⟩
    · rcases leads_or.mp hleads with hleads | hleads
      · exact absurd (hfound.isSome_of_leads hleads) (by simp)
      · exact hother.isSome_of_leads hleads
    · obtain ⟨front, back, htext, hfront, hlength, hhere⟩ := hother.exists_of_eq_some heq
      exact ⟨front, back, htext, .inr hfront, hlength, hhere⟩

/-- The first way leads to a place from which the second one leads on. -/
theorem both
    {next : Nat → Option Nat} (hfound : Finds L text middle found)
    (hbefore : IsBefore M text marks middle)
    (hnext : ∀ front back, text = front ++ back →
      Finds M back (marks.drop front.length) (next front.length)) :
    Finds (Both L M) text marks (found.bind fun n => (next n).map (n + ·)) := by
  refine ⟨?_, fun {total} heq => ?_⟩
  · rintro ⟨_, back, htext, ⟨first, second, rfl, hfirst, hsecond⟩, hhere⟩
    have hmiddle : Leads L text middle := by
      refine ⟨first, second ++ back, by simp [htext], hfirst, ?_⟩
      rw [hbefore.here_iff first (second ++ back) (by simp [htext])]
      exact ⟨second, back, rfl, hsecond, by simpa [List.drop_drop] using hhere⟩
    obtain ⟨n, hn⟩ := Option.isSome_iff_exists.mp (hfound.isSome_of_leads hmiddle)
    obtain ⟨front, rest, hfront, -, rfl, hrest⟩ := hfound.exists_of_eq_some hn
    have hleads := (hbefore.here_iff front rest hfront).mp hrest
    obtain ⟨m, hm⟩ := Option.isSome_iff_exists.mp ((hnext front rest hfront).isSome_of_leads hleads)
    simp [hn, hm]
  · obtain ⟨n, hn, hmap⟩ := Option.bind_eq_some_iff.mp heq
    obtain ⟨m, hm, rfl⟩ := Option.map_eq_some_iff.mp hmap
    obtain ⟨first, rest, htext, hfirst, rfl, -⟩ := hfound.exists_of_eq_some hn
    obtain ⟨second, back, hrest, hsecond, rfl, hhere⟩ :=
      (hnext first rest htext).exists_of_eq_some hm
    refine ⟨first ++ second, back, by simp [htext, hrest], ⟨first, second, rfl, hfirst, hsecond⟩,
      by simp, ?_⟩
    simpa [List.drop_drop] using hhere

theorem zero : Finds (· = []) text marks (if here marks then some 0 else none) := by
  by_cases hhere : here marks
  · rw [if_pos hhere]
    refine ⟨fun _ => rfl, fun heq => ?_⟩
    obtain rfl := Option.some.inj heq
    exact ⟨[], text, rfl, rfl, rfl, hhere⟩
  · rw [if_neg hhere]
    exact ⟨fun hleads => absurd (leads_nil.mp hleads) hhere, fun heq => nomatch heq⟩

theorem succ {c : Char} (hfinds : Finds L text marks.tail found) :
    Finds (fun front => ∃ rest, front = c :: rest ∧ L rest) (c :: text) marks
      (found.map (· + 1)) := by
  refine ⟨?_, fun heq => ?_⟩
  · rintro ⟨_, back, htext, ⟨rest, rfl, hrest⟩, hhere⟩
    have hleads : Leads L text marks.tail :=
      ⟨rest, back, (List.cons.inj htext).2, hrest, by simpa [List.drop_tail] using hhere⟩
    simpa using hfinds.isSome_of_leads hleads
  · obtain ⟨n, hn, rfl⟩ := Option.map_eq_some_iff.mp heq
    obtain ⟨rest, back, rfl, hrest, rfl, hhere⟩ := hfinds.exists_of_eq_some hn
    exact ⟨c :: rest, back, rfl, ⟨rest, rfl, hrest⟩, rfl, by simpa [List.drop_tail] using hhere⟩

end Finds

/-! ## Runs, blanks and words -/

theorem run_front
    {p : Char → Bool} {c : Char} {text front back : Text} (hc : p c)
    (htext : c :: text = front ++ back) :
    (∃ rest, front = c :: rest ∧ (rest = [] ∨ Run p rest)) ↔ Run p front := by
  cases front with
  | nil => simp [run_nil]
  | cons d front =>
    obtain ⟨rfl, -⟩ := List.cons.inj htext
    simp [run_cons, hc]

theorem finds_none_of_not
    {p : Char → Bool} {c : Char} {text : Text} {marks : Marks} (hc : ¬ p c) :
    Finds (Run p) (c :: text) marks none :=
  ⟨fun hleads => absurd (leads_run_cons.mp hleads).1 hc, fun heq => nomatch heq⟩

theorem finds_shortestRun? (p : Char → Bool) (text : Text) (marks : Marks) :
    Finds (Run p) text marks (shortestRun? p text marks) := by
  induction text generalizing marks with
  | nil =>
    refine Finds.nothing.congr fun front back htext => ?_
    obtain ⟨rfl, -⟩ := List.append_eq_nil_iff.mp htext.symm
    simp [run_nil]
  | cons c text ih =>
    unfold shortestRun?
    by_cases hc : p c
    · have hsplit : (if here marks.tail then some 1
          else (shortestRun? p text marks.tail).map (· + 1)) =
            ((if here marks.tail then some 0 else none) <|> shortestRun? p text marks.tail).map
              (· + 1) := by
        split <;> rfl
      rw [if_pos hc, hsplit]
      exact (Finds.zero.orElse (ih marks.tail)).succ.congr fun _ _ => run_front hc
    · rw [if_neg hc]
      exact finds_none_of_not hc

theorem finds_mostBlanks? (text : Text) (marks : Marks) :
    Finds Blanks text marks (mostBlanks? text marks) := by
  induction text generalizing marks with
  | nil =>
    refine Finds.zero.congr fun front back htext => ?_
    obtain ⟨rfl, -⟩ := List.append_eq_nil_iff.mp htext.symm
    simp [Blanks]
  | cons c text ih =>
    have hmore : Finds (Run Text.isBlank) (c :: text) marks
        (if Text.isBlank c then (mostBlanks? text marks.tail).map (· + 1) else none) := by
      by_cases hc : Text.isBlank c
      · rw [if_pos hc]
        refine (ih marks.tail).succ.congr fun front back htext => ?_
        simp only [blanks_iff, run_front hc htext]
      · rw [if_neg hc]
        exact finds_none_of_not hc
    unfold mostBlanks?
    exact (hmore.orElse Finds.zero).congr_all fun _ => by rw [blanks_iff, or_comm]

theorem finds_wordWay? (choices : List Text) (text : Text) (marks : Marks) :
    Finds (· ∈ choices) text marks ((wordWay? choices text marks).map Way.taken) := by
  refine ⟨fun hleads => ?_, fun heq => ?_⟩
  · obtain ⟨word, hmem, hword⟩ := List.any_eq_true.mp (any_leads.mpr hleads)
    simpa [wordWay?] using ⟨word, hmem, hword⟩
  · obtain ⟨way, hway, rfl⟩ := Option.map_eq_some_iff.mp heq
    obtain ⟨word, hfind, rfl⟩ := Option.map_eq_some_iff.mp hway
    obtain ⟨_, back, htext, rfl, hhere⟩ := leads_word.mp (List.find?_some hfind)
    exact ⟨_, back, htext, List.mem_of_find?_eq_some hfind, rfl, hhere⟩

/-! ## Segments -/

theorem length_drop_eq
    {text front back : Text} {marks : Marks} (hlength : marks.length = text.length + 1)
    (htext : text = front ++ back) :
    (marks.drop front.length).length = back.length + 1 := by
  subst htext
  simp [hlength]
  omega

theorem taken_runWay? (p : Char → Bool) (text : Text) (marks : Marks) :
    (runWay? p text marks).map Way.taken = shortestRun? p text marks := by
  simp [runWay?, Function.comp_def]

theorem taken_sequenceWay?_cons
    (scope : Scope) (segment : Segment) (segments : List Segment) (text : Text) (marks : Marks) :
    (sequenceWay? scope (segment :: segments) text marks).map Way.taken =
      ((way? scope segment text (beforeSequence scope segments text marks)).map Way.taken).bind
        fun n => ((sequenceWay? scope segments (text.drop n) (marks.drop n)).map Way.taken).map
          (n + ·) := by
  rw [sequenceWay?]
  cases way? scope segment text (beforeSequence scope segments text marks) with
  | none => rfl
  | some way =>
    simp only [Option.bind_eq_bind, Option.bind_some, Option.map_some]
    cases sequenceWay? scope segments (text.drop way.taken) (marks.drop way.taken) with
    | none => rfl
    | some next => rfl

/-- A way through one alternative of an optional and the blanks on both sides of it. -/
theorem taken_optionalWay?_cons
    (scope : Scope) (alternative : List Segment) (alternatives : List (List Segment))
    (text : Text) (marks : Marks) :
    (optionalWay? scope (alternative :: alternatives) text marks).map Way.taken =
      (((mostBlanks? text (beforeSequence scope alternative text (beforeBlanks text marks))).bind
        fun lead =>
          (((sequenceWay? scope alternative (text.drop lead)
            ((beforeBlanks text marks).drop lead)).map Way.taken).bind fun inside =>
              (mostBlanks? ((text.drop lead).drop inside) ((marks.drop lead).drop inside)).map
                (inside + ·)).map (lead + ·)) <|>
        (optionalWay? scope alternatives text marks).map Way.taken) := by
  rw [optionalWay?]
  simp only [Option.bind_eq_bind, Option.pure_def]
  cases mostBlanks? text (beforeSequence scope alternative text (beforeBlanks text marks)) with
  | none => simp
  | some lead =>
    simp only [Option.bind_some]
    cases sequenceWay? scope alternative (text.drop lead) ((beforeBlanks text marks).drop lead) with
    | none => simp
    | some inside =>
      simp only [Option.bind_some, Option.map_some, List.drop_drop]
      cases mostBlanks? (text.drop (lead + inside.taken)) (marks.drop (lead + inside.taken)) with
      | none => simp
      | some trail => simp [Nat.add_assoc]

theorem both_false {L : Text → Prop} {text : Text} :
    ¬ Both L (Both (fun _ => False) Blanks) text := by
  rintro ⟨_, _, -, -, _, _, -, hfalse, -⟩
  exact hfalse

theorem both_blanks_or {L M : Text → Prop} {text : Text} :
    Both Blanks (Both (fun text => L text ∨ M text) Blanks) text ↔
      Both Blanks (Both L Blanks) text ∨ Both Blanks (Both M Blanks) text := by
  constructor
  · rintro ⟨lead, _, rfl, hlead, inside, trail, rfl, hinside | hinside, htrail⟩
    · exact .inl ⟨lead, _, rfl, hlead, inside, trail, rfl, hinside, htrail⟩
    · exact .inr ⟨lead, _, rfl, hlead, inside, trail, rfl, hinside, htrail⟩
  · rintro (⟨lead, _, rfl, hlead, inside, trail, rfl, hinside, htrail⟩ |
      ⟨lead, _, rfl, hlead, inside, trail, rfl, hinside, htrail⟩)
    · exact ⟨lead, _, rfl, hlead, inside, trail, rfl, .inl hinside, htrail⟩
    · exact ⟨lead, _, rfl, hlead, inside, trail, rfl, .inr hinside, htrail⟩

mutual

theorem finds_way? (scope : Scope) :
    ∀ (segment : Segment) {text : Text} {marks : Marks}, marks.length = text.length + 1 →
      Finds (Accepts scope segment) text marks ((way? scope segment text marks).map Way.taken)
  | .star mayBeEmpty, text, marks, hlength => by
    have hrun := finds_shortestRun? Tag.staysOnLine text marks
    rw [← taken_runWay?] at hrun
    cases mayBeEmpty with
    | false =>
      have hway : way? scope (.star false) text marks = runWay? Tag.staysOnLine text marks := by
        simp [way?]
      rw [hway]
      exact hrun.congr_all fun _ => by simp [accepts_star]
    | true =>
      have hway : (way? scope (.star true) text marks).map Way.taken =
          ((if here marks then some 0 else none) <|>
            (runWay? Tag.staysOnLine text marks).map Way.taken) := by
        cases hhere : here marks <;> simp [way?, hhere]
      rw [hway]
      exact (Finds.zero.orElse hrun).congr_all fun _ => by simp [accepts_star]
  | .number, text, marks, _ => by
    have hrun := finds_shortestRun? Text.isDecimalDigit text marks
    rw [← taken_runWay?] at hrun
    unfold way? Accepts
    exact hrun
  | .alpha, text, marks, _ => by
    have hrun := finds_shortestRun? isLowerLetterOrSpace text marks
    rw [← taken_runWay?] at hrun
    unfold way?
    exact hrun.congr_all fun _ => accepts_alpha.symm
  | .optional alternatives, text, marks, hlength => by
    have hblanks := finds_mostBlanks? text marks
    have hway : (way? scope (.optional alternatives) text marks).map Way.taken =
        ((optionalWay? scope alternatives text marks).map Way.taken <|> mostBlanks? text marks) := by
      unfold way? blanksWay?
      cases optionalWay? scope alternatives text marks <;> simp [Function.comp_def]
    rw [hway]
    unfold Accepts
    exact ((finds_optionalWay? scope alternatives hlength).orElse hblanks).congr_all
      fun _ => or_comm
  | .group alternatives, text, marks, hlength => by
    unfold way? Accepts
    simpa [Function.comp_def] using finds_groupWay? scope alternatives 0 hlength
  | .literal _, text, marks, _ | .botVariable _, text, marks, _ | .userVariable _, text, marks, _
  | .input _, text, marks, _ | .reply _, text, marks, _ => by
    unfold way? Accepts
    exact (finds_wordWay? _ text marks).congr_all fun _ => List.mem_singleton
  | .array name, text, marks, _ => by
    unfold way?
    exact (finds_wordWay? _ text marks).congr_all fun _ => mem_words_array

theorem finds_sequenceWay? (scope : Scope) :
    ∀ (segments : List Segment) {text : Text} {marks : Marks}, marks.length = text.length + 1 →
      Finds (AcceptsSequence scope segments) text marks
        ((sequenceWay? scope segments text marks).map Way.taken)
  | [], text, marks, _ => by
    unfold sequenceWay? AcceptsSequence
    have hzero : (if here marks then some { taken := 0 : Way } else none).map Way.taken =
        if here marks then some 0 else none := by
      split <;> rfl
    rw [hzero]
    exact Finds.zero
  | segment :: segments, text, marks, hlength => by
    have hbefore := isBefore_beforeSequence scope segments hlength
    rw [taken_sequenceWay?_cons]
    unfold AcceptsSequence
    refine (finds_way? scope segment hbefore.length_eq).both hbefore fun front back htext => ?_
    have hrest := finds_sequenceWay? scope segments (length_drop_eq hlength htext)
    simpa [htext] using hrest

/-- The blanks on both sides belong to the way through an optional. -/
theorem finds_optionalWay? (scope : Scope) :
    ∀ (alternatives : List (List Segment)) {text : Text} {marks : Marks},
      marks.length = text.length + 1 →
      Finds (Both Blanks (Both (AcceptsOne scope alternatives) Blanks)) text marks
        ((optionalWay? scope alternatives text marks).map Way.taken)
  | [], text, marks, _ => by
    unfold optionalWay? AcceptsOne
    exact Finds.nothing.congr_all fun _ => (iff_false_intro both_false).symm
  | alternative :: alternatives, text, marks, hlength => by
    have hafter := isBefore_beforeBlanks hlength
    have hinside := isBefore_beforeSequence scope alternative hafter.length_eq
    have hfirst := finds_mostBlanks? text
      (beforeSequence scope alternative text (beforeBlanks text marks))
    rw [taken_optionalWay?_cons]
    refine (Finds.orElse (hfirst.both (hinside.trans hafter) fun lead rest htext => ?_)
      (finds_optionalWay? scope alternatives hlength)).congr_all
        fun _ => by rw [AcceptsOne, both_blanks_or]
    subst htext
    have hrest : IsBefore Blanks rest (marks.drop lead.length)
        ((beforeBlanks (lead ++ rest) marks).drop lead.length) := hafter.drop
    rw [List.drop_left]
    refine (finds_sequenceWay? scope alternative hrest.length_eq).both hrest
      fun inside trail hsplit => ?_
    subst hsplit
    rw [List.drop_left]
    exact finds_mostBlanks? trail _

theorem finds_groupWay? (scope : Scope) :
    ∀ (alternatives : List (List Segment)) (passed : Nat) {text : Text} {marks : Marks},
      marks.length = text.length + 1 →
      Finds (AcceptsOne scope alternatives) text marks
        ((groupWay? scope passed alternatives text marks).map Way.taken)
  | [], _, text, marks, _ => by
    unfold groupWay? AcceptsOne
    exact Finds.nothing
  | alternative :: alternatives, passed, text, marks, hlength => by
    have hfirst := finds_sequenceWay? scope alternative hlength
    have hothers := finds_groupWay? scope alternatives (passed + starCountSequence alternative)
      hlength
    unfold AcceptsOne
    have hway : (groupWay? scope passed (alternative :: alternatives) text marks).map Way.taken =
        ((sequenceWay? scope alternative text marks).map Way.taken <|>
          (groupWay? scope (passed + starCountSequence alternative) alternatives text marks).map
            Way.taken) := by
      rw [groupWay?]
      cases sequenceWay? scope alternative text marks <;> simp
    rw [hway]
    exact hfirst.orElse hothers

end

/-! ## Stars -/

theorem stars_runWay?
    {p : Char → Bool} {text : Text} {marks : Marks} {way : Way}
    (hway : runWay? p text marks = some way) :
    way.stars.length = 1 := by
  obtain ⟨n, -, rfl⟩ := Option.map_eq_some_iff.mp hway
  rfl

theorem stars_wordWay?
    {choices : List Text} {text : Text} {marks : Marks} {way : Way}
    (hway : wordWay? choices text marks = some way) :
    way.stars.length = 0 := by
  obtain ⟨word, -, rfl⟩ := Option.map_eq_some_iff.mp hway
  rfl

/-- What is inside of an optional takes no star. -/
theorem stars_optionalWay?
    {scope : Scope} {alternatives : List (List Segment)} {text : Text} {marks : Marks} {way : Way}
    (hway : optionalWay? scope alternatives text marks = some way) :
    way.stars.length = 0 := by
  induction alternatives with
  | nil => simp [optionalWay?] at hway
  | cons alternative alternatives ih =>
    rw [optionalWay?, Option.orElse_eq_orElse, Option.orElse_eq_or, Option.or_eq_some_iff] at hway
    rcases hway with hway | ⟨-, hway⟩
    · simp only [Option.bind_eq_bind, Option.pure_def, Option.bind_eq_some_iff,
        Option.some.injEq] at hway
      obtain ⟨_, -, _, -, _, -, rfl⟩ := hway
      rfl
    · exact ih hway

mutual

theorem stars_way? (scope : Scope) :
    ∀ (segment : Segment) {text : Text} {marks : Marks} {way : Way},
      way? scope segment text marks = some way → way.stars.length = starCount segment
  | .star mayBeEmpty, text, marks, way, hway => by
    rw [way?] at hway
    split at hway
    · obtain rfl := Option.some.inj hway
      rfl
    · exact stars_runWay? hway
  | .number, _, _, _, hway => by
    rw [way?] at hway
    exact stars_runWay? hway
  | .alpha, _, _, _, hway => by
    rw [way?] at hway
    exact stars_runWay? hway
  | .optional alternatives, text, marks, way, hway => by
    rw [way?, Option.orElse_eq_orElse, Option.orElse_eq_or, Option.or_eq_some_iff] at hway
    rcases hway with hway | ⟨-, hway⟩
    · exact stars_optionalWay? hway
    · obtain ⟨n, -, rfl⟩ := Option.map_eq_some_iff.mp hway
      rfl
  | .group alternatives, text, marks, way, hway => by
    rw [way?] at hway
    obtain ⟨inside, hinside, rfl⟩ := Option.map_eq_some_iff.mp hway
    have hstars := stars_groupWay? scope alternatives 0 hinside
    simp [starCount, hstars, Nat.add_comm]
  | .literal _, _, _, _, hway | .array _, _, _, _, hway | .botVariable _, _, _, _, hway
  | .userVariable _, _, _, _, hway | .input _, _, _, _, hway | .reply _, _, _, _, hway => by
    unfold way? at hway
    exact stars_wordWay? hway

theorem stars_sequenceWay? (scope : Scope) :
    ∀ (segments : List Segment) {text : Text} {marks : Marks} {way : Way},
      sequenceWay? scope segments text marks = some way →
        way.stars.length = starCountSequence segments
  | [], text, marks, way, hway => by
    rw [sequenceWay?] at hway
    split at hway
    · obtain rfl := Option.some.inj hway
      rfl
    · cases hway
  | segment :: segments, text, marks, way, hway => by
    simp only [sequenceWay?, Option.bind_eq_bind, Option.pure_def, Option.bind_eq_some_iff,
      Option.some.injEq] at hway
    obtain ⟨first, hfirst, next, hnext, rfl⟩ := hway
    have hstars := stars_way? scope segment hfirst
    have hrest := stars_sequenceWay? scope segments hnext
    simp [Way.andThen, starCountSequence, hstars, hrest]

/-- The stars of the alternatives that are not taken stay empty. -/
theorem stars_groupWay? (scope : Scope) :
    ∀ (alternatives : List (List Segment)) (passed : Nat) {text : Text} {marks : Marks} {way : Way},
      groupWay? scope passed alternatives text marks = some way →
        way.stars.length = passed + starCountAlternatives alternatives
  | [], _, _, _, _, hway => by
    simp [groupWay?] at hway
  | alternative :: alternatives, passed, text, marks, way, hway => by
    rw [groupWay?, Option.orElse_eq_orElse, Option.orElse_eq_or, Option.or_eq_some_iff] at hway
    rcases hway with hway | ⟨-, hway⟩
    · obtain ⟨inside, hinside, rfl⟩ := Option.map_eq_some_iff.mp hway
      have hstars := stars_sequenceWay? scope alternative hinside
      simp only [List.length_append, List.length_replicate, starCountAlternatives, hstars]
      omega
    · have hstars := stars_groupWay? scope alternatives (passed + starCountSequence alternative) hway
      simp [starCountAlternatives, hstars, Nat.add_assoc]

end

/-! ## Whole texts -/

theorem length_atEnd (text : Text) : (atEnd text).length = text.length + 1 := by
  simp [atEnd]

theorem leads_atEnd {L : Text → Prop} {text : Text} : Leads L text (atEnd text) ↔ L text := by
  have hhere : ∀ front back : Text, here ((atEnd (front ++ back)).drop front.length) ↔ back = [] := by
    intro front back
    have hend : atEnd (front ++ back) = (front.map fun _ => false) ++ atEnd back := by
      rw [atEnd, List.map_append, List.append_assoc]
      rfl
    rw [hend, List.drop_left' (List.length_map _)]
    cases back <;> simp [atEnd, here]
  constructor
  · rintro ⟨front, back, rfl, hfront, hmarked⟩
    obtain rfl := (hhere front back).mp hmarked
    simpa using hfront
  · intro htext
    exact ⟨text, [], by simp, htext, by simpa using (hhere text []).mpr rfl⟩

theorem isSome_matchSegments?_iff (scope : Scope) (segments : List Segment) (text : Text) :
    (matchSegments? scope segments text).isSome ↔
      tooDeep scope segments = false ∧ AcceptsSequence scope segments text := by
  have hfinds := (finds_sequenceWay? scope segments (length_atEnd text)).isSome_iff
  rw [Option.isSome_map, leads_atEnd] at hfinds
  unfold matchSegments?
  cases tooDeep scope segments with
  | true => simp
  | false => simpa using hfinds

/-- A pattern accepts exactly the texts of its language, unless it nests too deep, and takes a star
for each wildcard and each group outside of optionals. -/
theorem matching_decides_language (scope : Scope) (pattern text : Text) :
    ((match? scope pattern text).isSome ↔
      tooDeep scope (parse pattern) = false ∧ AcceptsSequence scope (parse pattern) text) ∧
    ∀ stars, match? scope pattern text = some stars →
      stars.length = starCountSequence (parse pattern) := by
  refine ⟨isSome_matchSegments?_iff scope (parse pattern) text, fun stars hstars => ?_⟩
  unfold match? matchSegments? at hstars
  split at hstars
  · cases hstars
  · obtain ⟨way, hway, rfl⟩ := Option.map_eq_some_iff.mp hstars
    exact stars_sequenceWay? scope (parse pattern) hway

end Pattern

end DialogueScript

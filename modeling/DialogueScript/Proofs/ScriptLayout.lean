import DialogueScript.Proofs.MovedLines
import DialogueScript.Proofs.ScriptLines
import DialogueScript.Proofs.Trimming
import Mathlib.Data.List.Nodup
import Mathlib.Logic.Relation

/-!
# The layout of a script

A script that opens no object is read as its filled lines: those that hold more than white space,
trimmed, each under its number.  Gathering passes over the other lines and trims what it looks at,
as reading does.  So white space at the ends of lines, lines of white space and the choice of line
ends change nothing but the numbers of the lines.
-/

namespace DialogueScript

namespace Text

/-! ## Filled lines -/

/-- The lines that hold more than white space, trimmed. -/
def filledLines (text : Text) : List Text :=
  ((lines text).map trim).filter (· ≠ [])

theorem filledLines_eq_split (text : Text) :
    filledLines text = ((split (· = '\n') text).map trim).filter (· ≠ []) := by
  unfold filledLines lines
  dsimp only
  split
  · rename_i hlast
    obtain ⟨parts, hparts⟩ := List.getLast?_eq_some_iff.mp hlast
    rw [hparts, List.dropLast_concat]
    simp [trim, trimStart, trimEnd]
  · rfl

theorem filledLines_append_mark (above below : Text) :
    filledLines (above ++ '\n' :: below) = filledLines above ++ filledLines below := by
  have hsplit : split (· = '\n') (above ++ '\n' :: below) =
      split (· = '\n') above ++ split (· = '\n') below :=
    split_append_mark (by simp) above below
  simp only [filledLines_eq_split, hsplit, List.map_append, List.filter_append]

theorem filledLines_cons_of_isBlank {c : Char} (hblank : isBlank c) (text : Text) :
    filledLines (c :: text) = filledLines text := by
  by_cases hmark : c = '\n'
  · subst hmark
    exact filledLines_append_mark [] text
  · rw [filledLines_eq_split, filledLines_eq_split, split]
    cases hsplit : split (· = '\n') text with
    | nil => exact absurd hsplit (split_ne_nil _ text)
    | cons line lines => simp [hmark, trim_cons_of_isBlank hblank]

/-- A character at the end of a text belongs to its last line. -/
theorem split_concat {p : Char → Bool} {c : Char} (hc : ¬ p c) (text : Text) :
    ∃ front last, split p text = front ++ [last] ∧
      split p (text ++ [c]) = front ++ [last ++ [c]] := by
  obtain ⟨front, last, first, back, htext, hmore, happend⟩ := split_append p text [c]
  obtain ⟨rfl, rfl⟩ : [c] = first ∧ [] = back := by
    simpa [split, hc] using hmore
  exact ⟨front, last, htext, happend⟩

theorem filledLines_concat_of_isBlank {c : Char} (hblank : isBlank c) (text : Text) :
    filledLines (text ++ [c]) = filledLines text := by
  by_cases hmark : c = '\n'
  · subst hmark
    rw [filledLines_append_mark]
    exact List.append_nil _
  · obtain ⟨front, last, hsplit, hconcat⟩ := split_concat (p := (· = '\n')) (by simpa using hmark) text
    rw [filledLines_eq_split, filledLines_eq_split, hsplit, hconcat]
    simp [trim_concat_of_isBlank hblank]

/-! ## Layouts -/

/-- The place between two parts of a text is the start or the end of a line. -/
def AtMargin (front back : Text) : Prop :=
  (front = [] ∨ front.getLast? = some '\n') ∨ back = [] ∨ back.head? = some '\n'

/-- White space has been put in at the start or at the end of a line.  With a line feed in it, this
makes lines of white space; a carriage return at the end of a line makes another line end. -/
def Pads (text padded : Text) : Prop :=
  ∃ front blanks back, AtMargin front back ∧ (∀ c ∈ blanks, isBlank c) ∧
    text = front ++ back ∧ padded = front ++ blanks ++ back

/-- The texts come from each other by putting in and taking out white space at the margins. -/
def Relaid : Text → Text → Prop :=
  Relation.EqvGen Pads

theorem filledLines_insert
    {front back : Text} (hmargin : AtMargin front back) {c : Char} (hblank : isBlank c) :
    filledLines (front ++ c :: back) = filledLines (front ++ back) := by
  rcases hmargin with (rfl | hstart) | rfl | hend
  · exact filledLines_cons_of_isBlank hblank back
  · obtain ⟨above, rfl⟩ := List.getLast?_eq_some_iff.mp hstart
    rw [List.append_assoc, List.append_assoc, List.singleton_append, List.singleton_append,
      filledLines_append_mark, filledLines_append_mark, filledLines_cons_of_isBlank hblank]
  · rw [filledLines_concat_of_isBlank hblank, List.append_nil]
  · obtain ⟨below, rfl⟩ := List.head?_eq_some_iff.mp hend
    rw [List.append_cons, filledLines_append_mark, filledLines_append_mark,
      filledLines_concat_of_isBlank hblank]

theorem Pads.filledLines_eq {text padded : Text} (hpads : Pads text padded) :
    filledLines padded = filledLines text := by
  obtain ⟨front, blanks, back, hmargin, hblanks, rfl, rfl⟩ := hpads
  -- White space is put in from its end at the start of a line, and from its start at the end of one.
  rcases hmargin with hstart | hend
  · induction blanks with
    | nil => simp
    | cons c blanks ih =>
      rw [List.forall_mem_cons] at hblanks
      rw [List.append_assoc, List.cons_append, filledLines_insert (.inl hstart) hblanks.1,
        ← List.append_assoc, ih hblanks.2]
  · induction blanks using List.reverseRecOn with
    | nil => simp
    | append_singleton blanks c ih =>
      rw [List.forall_mem_append, List.forall_mem_singleton] at hblanks
      rw [List.append_assoc, List.append_assoc, List.singleton_append, ← List.append_assoc,
        filledLines_insert (.inr hend) hblanks.2, ih hblanks.1]

theorem Relaid.filledLines_eq {text other : Text} (hrelaid : Relaid text other) :
    filledLines other = filledLines text := by
  induction hrelaid with
  | rel text padded hpads => exact hpads.filledLines_eq
  | refl text => rfl
  | symm text other _ ih => exact ih.symm
  | trans first second third _ _ ihFirst ihSecond => exact ihSecond.trans ihFirst

end Text

namespace Script

/-! ## Reading the filled lines -/

/-- The filled lines from a number on, each under its number. -/
def filledFrom (number : Nat) : List Text → List (Nat × Text)
  | [] => []
  | line :: following =>
    if Text.trim line = [] then filledFrom (number + 1) following
    else (number, Text.trim line) :: filledFrom (number + 1) following

theorem texts_filledFrom (number : Nat) (lines : List Text) :
    (filledFrom number lines).map (·.2) = (lines.map Text.trim).filter (· ≠ []) := by
  induction lines generalizing number with
  | nil => rfl
  | cons line following ih =>
    unfold filledFrom
    split
    · rename_i hblank
      simp [ih, hblank]
    · rename_i hfilled
      simp [ih, hfilled]

theorem nodup_numbers_filledFrom (number : Nat) (lines : List Text) :
    ((filledFrom number lines).map (·.1)).Nodup ∧
      ∀ line ∈ filledFrom number lines, number ≤ line.1 := by
  induction lines generalizing number with
  | nil => simp [filledFrom]
  | cons line following ih =>
    obtain ⟨hnodup, hle⟩ := ih (number + 1)
    have hnext : ∀ line ∈ filledFrom (number + 1) following, number ≤ line.1 :=
      fun line hline => Nat.le_of_succ_le (hle line hline)
    unfold filledFrom
    split
    · exact ⟨hnodup, hnext⟩
    · refine ⟨?_, List.forall_mem_cons.mpr ⟨Nat.le_refl number, hnext⟩⟩
      rw [List.map_cons, List.nodup_cons]
      refine ⟨fun hmem => ?_, hnodup⟩
      obtain ⟨later, hlater, heq⟩ := List.mem_map.mp hmem
      have hlt := hle later hlater
      omega

/-- Gathering looks at no line of white space, and trims what it looks at. -/
theorem gather_filledFrom (command : Char) (text : Text) (number : Nat) (lines : List Text) :
    gather command text ((filledFrom number lines).map (·.2)) = gather command text lines := by
  induction lines generalizing text number with
  | nil => rfl
  | cons line following ih =>
    unfold filledFrom
    cases htrim : Text.trim line with
    | nil =>
      rw [if_pos rfl, ih, gather, htrim]
    | cons next rest =>
      have hagain : Text.trim (next :: rest) = next :: rest := by
        rw [← htrim, Text.trim_trim]
      rw [if_neg (List.cons_ne_nil next rest), List.map_cons, gather, gather, hagain, htrim]
      simp only [ih]

theorem gatherFor_filledFrom (command : Char) (text : Text) (number : Nat) (lines : List Text) :
    gatherFor command text ((filledFrom number lines).map (·.2)) =
      gatherFor command text lines := by
  unfold gatherFor
  rw [gather_filledFrom]

/-- Reading opens no object: it stands in the body of one neither here nor below any of the lines
that it comes to. -/
def Mode.staysOutside (mode : Mode) : List Text → Bool
  | [] => !mode.inObject
  | line :: following =>
    !mode.inObject && (mode.next line following).all fun mode => mode.staysOutside following

@[simp]
theorem readsLine_nil (inComment : Bool) : readsLine inComment [] = (inComment, false) := by
  simp [readsLine, Text.beginsWith, Text.contains, Text.strip?, Text.cut?]

theorem Mode.next_of_trim_eq_nil
    {mode : Mode} (hmode : mode.inObject = false) {line : Text} (hblank : Text.trim line = [])
    (following : List Text) :
    mode.next line following = some mode := by
  obtain ⟨inComment, inObject⟩ := mode
  obtain rfl : inObject = false := hmode
  simp [Mode.next, hblank]

theorem Mode.next_filled (mode : Mode) (line : Text) (number : Nat) (following : List Text) :
    mode.next (Text.trim line) ((filledFrom number following).map (·.2)) =
      mode.next line following := by
  simp only [Mode.next, Text.trim_trim, gatherFor_filledFrom]

/-- Whether an object is opened depends on the filled lines only. -/
theorem Mode.staysOutside_filledFrom (mode : Mode) (number : Nat) (lines : List Text) :
    mode.staysOutside ((filledFrom number lines).map (·.2)) = mode.staysOutside lines := by
  induction lines generalizing mode number with
  | nil => rfl
  | cons line following ih =>
    cases hmode : mode.inObject with
    | true =>
      cases hfilled : (filledFrom number (line :: following)).map (·.2) <;>
        simp [staysOutside, hmode]
    | false =>
      unfold filledFrom
      by_cases hblank : Text.trim line = []
      · rw [if_pos hblank, ih, staysOutside, next_of_trim_eq_nil hmode hblank, hmode]
        rfl
      · rw [if_neg hblank, List.map_cons, staysOutside, staysOutside, next_filled]
        simp only [ih]

theorem object_eq_none_of_staysOutside
    {state : State} {lines : List Text} (houtside : state.mode.staysOutside lines) :
    state.object = none := by
  have hmode : state.mode.inObject = false := by
    cases lines <;> simp_all [Mode.staysOutside]
  simpa [State.mode] using hmode

variable (collaborators : Collaborators)

theorem readLine_of_trim_eq_nil
    {line : Text} (hblank : Text.trim line = []) (place : Place) (following : List Text)
    {state : State} (hobject : state.object = none) :
    readLine collaborators place line following state = .ok state := by
  unfold readLine
  rw [hblank, hobject]
  simp [← hobject]

theorem readLine_filled
    (place : Place) (line : Text) (number : Nat) (following : List Text) {state : State}
    (hobject : state.object = none) :
    readLine collaborators place (Text.trim line) ((filledFrom number following).map (·.2)) state =
      readLine collaborators place line following state := by
  unfold readLine
  rw [Text.trim_trim, hobject]
  simp only [gatherFor_filledFrom]

/-- Read lines that stand under numbers of their own. -/
def readFilled (source : Text) : List (Nat × Text) → State → State × Option Problem
  | [], state => (state, none)
  | (number, line) :: following, state =>
    match readLine collaborators ⟨source, number⟩ line (following.map (·.2)) state with
    | .error problem => (state, some problem)
    | .ok state => readFilled source following state

theorem readLines_eq_readFilled
    (source : Text) {first : Nat} {lines : List Text} {state : State}
    (houtside : state.mode.staysOutside lines) :
    readLines collaborators ⟨source, first⟩ lines state =
      readFilled collaborators source (filledFrom first lines) state := by
  induction lines generalizing first state with
  | nil => rfl
  | cons line following ih =>
    have hobject := object_eq_none_of_staysOutside houtside
    have hnext : ∀ next, readLine collaborators ⟨source, first⟩ line following state = .ok next →
        next.mode.staysOutside following := by
      intro next hread
      have hmode : some next.mode = state.mode.next line following := by
        rw [← mode_readLine ⟨source, first⟩ collaborators, hread]
        rfl
      rw [Mode.staysOutside, ← hmode, Bool.and_eq_true] at houtside
      exact houtside.2
    unfold readLines filledFrom
    by_cases hblank : Text.trim line = []
    · have hread := readLine_of_trim_eq_nil collaborators hblank ⟨source, first⟩ following hobject
      rw [if_pos hblank, hread]
      exact ih (hnext state hread)
    · rw [if_neg hblank, readFilled, readLine_filled collaborators _ line _ following hobject]
      cases hread : readLine collaborators ⟨source, first⟩ line following state with
      | error problem => rfl
      | ok next => exact ih (hnext next hread)

theorem moved_readFilled
    (f : Nat → Nat) (source : Text) (lines : List (Nat × Text)) (state : State) :
    let reading := readFilled collaborators source lines state
    readFilled collaborators source (lines.map fun line => (f line.1, line.2))
        (state.moved f [] []) =
      (reading.1.moved f [] [], reading.2.map (Problem.renumber f)) := by
  induction lines generalizing state with
  | nil => rfl
  | cons line following ih =>
    have hplace : (⟨source, f line.1⟩ : Place) = Place.renumber f ⟨source, line.1⟩ := rfl
    have htexts : (following.map fun line => (f line.1, line.2)).map (·.2) =
        following.map (·.2) := by
      simp
    rw [List.map_cons, readFilled, readFilled, htexts, hplace, ← moved_readLine]
    cases readLine collaborators ⟨source, line.1⟩ line.2 (following.map (·.2)) state with
    | error problem => rfl
    | ok next => exact ih next

/-! ## Other layouts -/

/-- The number in `others` of the filled line that stands under a number in `lines`. -/
def renumbering (lines others : List Text) (number : Nat) : Nat :=
  let numbers := (filledFrom 1 lines).map (·.1)
  let others := (filledFrom 1 others).map (·.1)
  ((numbers.zip others).lookup number).getD number

theorem eq_map_lookup
    {filled others : List (Nat × Text)} (htexts : others.map (·.2) = filled.map (·.2))
    (hnodup : (filled.map (·.1)).Nodup) :
    others = filled.map fun line =>
      ((((filled.map (·.1)).zip (others.map (·.1))).lookup line.1).getD line.1, line.2) := by
  induction filled generalizing others with
  | nil => simpa using htexts
  | cons line filled ih =>
    cases others with
    | nil => cases htexts
    | cons other others =>
      obtain ⟨htext, htexts⟩ := List.cons.inj htexts
      rw [List.map_cons, List.nodup_cons] at hnodup
      have hlater : ∀ later ∈ filled, later.1 ≠ line.1 := by
        intro later hlater heq
        exact hnodup.1 (heq ▸ List.mem_map_of_mem hlater)
      have hrest : ∀ later ∈ filled,
          ((((line :: filled).map (·.1)).zip ((other :: others).map (·.1))).lookup later.1).getD
              later.1 =
            (((filled.map (·.1)).zip (others.map (·.1))).lookup later.1).getD later.1 := by
        intro later hmem
        have hother : (later.1 == line.1) = false := by
          simpa using hlater later hmem
        simp [List.lookup_cons, hother]
      have hothers := ih htexts hnodup.2
      rw [← List.map_congr_left fun later hmem => by rw [← hrest later hmem]] at hothers
      rw [List.map_cons, ← hothers]
      simp [← htext]

theorem texts_filledFrom_of_relaid {script other : Text} (hrelaid : Text.Relaid script other) :
    (filledFrom 1 (Text.lines other)).map (·.2) = (filledFrom 1 (Text.lines script)).map (·.2) := by
  rw [texts_filledFrom, texts_filledFrom]
  exact hrelaid.filledLines_eq

/-- The filled lines have kept their order, and each stands under its new number. -/
theorem filledFrom_of_relaid {script other : Text} (hrelaid : Text.Relaid script other) :
    let number := renumbering (Text.lines script) (Text.lines other)
    filledFrom 1 (Text.lines other) =
      (filledFrom 1 (Text.lines script)).map fun line => (number line.1, line.2) :=
  eq_map_lookup (texts_filledFrom_of_relaid hrelaid) (nodup_numbers_filledFrom 1 _).1

/-- What the script leaves behind when its lines have other numbers. -/
def Reading.relaid (number : Nat → Nat) (count : Nat) (reading : Reading) : Reading :=
  { reading with
    result :=
      match reading.result with
      | .error problem => .error (problem.renumber number)
      | .ok report =>
        .ok { report with lines := count, warnings := report.warnings.map (Problem.renumber number) } }

theorem relaid_conclude
    (number : Nat → Nat) (source : Text) (count others : Nat) (reading : State × Option Problem) :
    (conclude source count reading).relaid number others =
      conclude source others
        (reading.1.moved number [] [], reading.2.map (Problem.renumber number)) := by
  obtain ⟨state, fatal⟩ := reading
  cases fatal with
  | some problem => rfl
  | none =>
    simp only [conclude, Option.map_none, ← moved_finish]
    rfl

/-- However a script that opens no object is laid out, its filled lines are the same and are read
alike: the persona, the requests and the fatal problem or the warnings are the same, up to the
numbers of the lines. -/
theorem read_relaid
    (collaborators : Collaborators) (persona : Persona) (source : Text) {script other : Text}
    (hrelaid : Text.Relaid script other)
    (houtside : Mode.staysOutside {} (Text.lines script)) :
    let number := renumbering (Text.lines script) (Text.lines other)
    filledFrom 1 (Text.lines other) =
        (filledFrom 1 (Text.lines script)).map (fun line => (number line.1, line.2)) ∧
      read collaborators persona source other =
        (read collaborators persona source script).relaid number (Text.lines other).length := by
  intro number
  have hfilled := filledFrom_of_relaid hrelaid
  have hother : Mode.staysOutside {} (Text.lines other) := by
    rwa [← Mode.staysOutside_filledFrom {} 1, texts_filledFrom_of_relaid hrelaid,
      Mode.staysOutside_filledFrom]
  have hreads : ∀ text, Mode.staysOutside {} (Text.lines text) →
      readLines collaborators ⟨source, 1⟩ (Text.lines text) { persona } =
        readFilled collaborators source (filledFrom 1 (Text.lines text)) { persona } :=
    fun text houtside => readLines_eq_readFilled collaborators source houtside
  refine ⟨hfilled, ?_⟩
  rw [read_eq_conclude, read_eq_conclude, relaid_conclude, hreads script houtside,
    hreads other hother, hfilled]
  exact congrArg _ (moved_readFilled collaborators number source _ { persona })

/-- A carriage return at the end of the first line, and a line of white space above the indented
continuation of a reply. -/
theorem read_relaid_with_blank_line :
    let script := "+ hi\n- hello\n^ there\n// so long\n? odd\n< label".toList
    let ended := "+ hi\r\n- hello\n^ there\n// so long\n? odd\n< label".toList
    let other := "+ hi\r\n- hello\n \t\n  ^ there\n// so long\n? odd\n< label".toList
    let persona := Persona.new 50
    let source := "greetings".toList
    let problems : List Problem :=
      [⟨source, 6, .unknownCommand '?'⟩, ⟨source, 7, .unknownEndLabel "label".toList⟩]
    Text.Pads script ended ∧ Text.Pads ended other ∧ Mode.staysOutside {} (Text.lines script) ∧
      read {} persona source other =
        (read {} persona source script).relaid
          (renumbering (Text.lines script) (Text.lines other)) 7 ∧
      (read {} persona source other).result.toOption = some ⟨source, 7, problems⟩ := by
  intro script ended other persona source problems
  have hend : Text.Pads script ended :=
    ⟨"+ hi".toList, ['\r'], script.drop 4, .inr (.inr (by decide)), List.all_eq_true.1 (by decide),
      by decide, by decide⟩
  have hstart : Text.Pads ended other :=
    ⟨ended.take 14, " \t\n  ".toList, ended.drop 14, .inl (.inr (by decide)),
      List.all_eq_true.1 (by decide), by decide, by decide⟩
  have hrelaid : Text.Relaid script other := .trans _ ended _ (.rel _ _ hend) (.rel _ _ hstart)
  have houtside : Mode.staysOutside {} (Text.lines script) := by
    decide +kernel
  obtain ⟨-, hread⟩ := read_relaid {} persona source hrelaid houtside
  exact ⟨hend, hstart, houtside, hread, by decide +kernel⟩

end Script

end DialogueScript

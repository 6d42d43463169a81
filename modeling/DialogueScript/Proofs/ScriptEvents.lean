import DialogueScript.Proofs.ScriptLines

/-!
# What the lines of a script come to

Reading can be done in two passes.  The first one looks at the lines alone and says what each of
them comes to: a directive with all that it gathers, a line or the end of an object, or nothing but
a comment.  The second one carries this out.  So two scripts whose lines come to the same are read
alike.
-/

namespace DialogueScript.Script

theorem fst_readsLine_of_read
    {inComment : Bool} {line : Text} (hread : (readsLine inComment line).2) :
    (readsLine inComment line).1 = false := by
  unfold readsLine at hread ⊢
  split at hread
  · cases hread
  · split at hread
    · cases hread
    · split at hread
      · cases hread
      · rename_i hslashes hslash hcloses
        rw [if_neg hslashes, if_neg hslash, if_neg hcloses]
        cases inComment with
        | false => rfl
        | true => cases hread

/-! ## The first pass -/

inductive Event where
  | pass (inComment : Bool)
  | directive (command : Char) (text : Text) (previous : Option Text)
  | code (line : Text)
  | close
deriving Repr, DecidableEq

namespace Mode

/-- The command and the text of a line that is a directive of its own.  A line that continues
another one, or names the previous reply of a trigger, is none. -/
def directive? (mode : Mode) (line : Text) : Option (Char × Text) :=
  match Text.trim line with
  | [] => none
  | command :: rest =>
    if mode.inObject || !(readsLine mode.inComment (command :: rest)).2 || command = '^'
        || command = '%' then none
    else some (command, Text.before commentMark (Text.trim rest))

def event (mode : Mode) (line : Text) (following : List Text) : Event :=
  if mode.inObject then
    if endsObject (Text.trim line) then .close else .code (Text.trim line)
  else
    match mode.directive? line with
    | some (command, text) =>
      let gathered := gather command text following
      .directive command gathered.1 gathered.2
    | none => .pass (readsLine mode.inComment (Text.trim line)).1

theorem not_inObject_of_directive?
    {mode : Mode} {line : Text} {directive : Char × Text}
    (hdirective : mode.directive? line = some directive) :
    ¬ mode.inObject := by
  intro hobject
  unfold directive? at hdirective
  split at hdirective <;> simp [hobject] at hdirective

theorem exists_trim_of_directive?
    {mode : Mode} {line : Text} {command : Char} {text : Text}
    (hdirective : mode.directive? line = some (command, text)) :
    ∃ rest, Text.trim line = command :: rest ∧ rest ≠ [] ∧
      text = Text.before commentMark (Text.trim rest) := by
  unfold directive? at hdirective
  split at hdirective
  · cases hdirective
  · rename_i next rest htrim
    split at hdirective
    · cases hdirective
    · have hread : (readsLine mode.inComment (Text.trim line)).2 := by
        simp_all
      obtain ⟨rfl, rfl⟩ : next = command ∧ Text.before commentMark (Text.trim rest) = text := by
        simpa using hdirective
      exact ⟨rest, htrim, ne_nil_of_readsLine hread htrim, rfl⟩

theorem event_eq_of_directive?
    {mode : Mode} {line : Text} {command : Char} {text : Text}
    (hdirective : mode.directive? line = some (command, text)) (following : List Text) :
    mode.event line following =
      .directive command (gather command text following).1 (gather command text following).2 := by
  rw [event, if_neg (not_inObject_of_directive? hdirective), hdirective]

theorem event_of_directive?_eq_none
    {mode : Mode} {line : Text} (hdirective : mode.directive? line = none)
    (following others : List Text) :
    mode.event line following = mode.event line others := by
  rw [event, event, hdirective]

end Mode

/-- Where reading stands after a line. -/
def Event.next (mode : Mode) : Event → Option Mode
  | .pass inComment => some { inComment }
  | .directive command text _ => Mode.afterDirective {} command text
  | .code _ => some mode
  | .close => some { mode with inObject := false }

namespace Mode

def events (mode : Mode) : List Text → List Event
  | [] => []
  | line :: following =>
    let event := mode.event line following
    event ::
      match event.next mode with
      | none => []
      | some mode => mode.events following

/-- Where reading stands after the first ones of some lines. -/
def through (mode : Mode) (below : List Text) : List Text → Option Mode
  | [] => some mode
  | line :: above =>
    ((mode.event line (above ++ below)).next mode).bind fun mode => mode.through below above

theorem next_event (mode : Mode) (line : Text) (following : List Text) :
    (mode.event line following).next mode = mode.next line following := by
  unfold event next directive?
  dsimp only
  by_cases hobject : mode.inObject
  · rw [if_pos hobject, if_pos hobject]
    obtain ⟨inComment, inObject⟩ := mode
    obtain rfl : inObject = true := hobject
    cases endsObject (Text.trim line) <;> rfl
  · rw [if_neg hobject, if_neg hobject]
    cases htrim : Text.trim line with
    | nil => cases (readsLine mode.inComment []).2 <;> rfl
    | cons command rest =>
      dsimp only
      cases hread : (readsLine mode.inComment (command :: rest)).2 with
      | false => simp [Event.next, hobject]
      | true =>
        have hcomment := fst_readsLine_of_read hread
        by_cases hcontinues : command = '^' ∨ command = '%'
        · rcases hcontinues with rfl | rfl <;> simp [Event.next, hcomment, afterDirective]
        · obtain ⟨hcaret, hpercent⟩ := not_or.mp hcontinues
          simp [Event.next, hobject, hcomment, hcaret, hpercent, gatherFor]

end Mode

theorem mode_readLine_eq_next
    (collaborators : Collaborators) (place : Place) (state : State) (line : Text)
    (following : List Text) :
    (readLine collaborators place line following state).toOption.map State.mode =
      (state.mode.event line following).next state.mode := by
  rw [Mode.next_event]
  exact mode_readLine place collaborators line following

/-! ## The second pass -/

namespace State

variable (collaborators : Collaborators) (place : Place)

/-- Carry out what a line comes to. -/
def perform (state : State) : Event → Except Problem State
  | .pass inComment => .ok { state with inComment }
  | .directive command text previous =>
    readDirective { state with inComment := false } place command text previous
  | .code line =>
    .ok { state with
      object := state.object.map fun object => { object with code := object.code ++ [line] } }
  | .close => .ok ((state.object.map (closeObject collaborators state)).getD state)

theorem readLine_eq_perform (state : State) (line : Text) (following : List Text) :
    readLine collaborators place line following state =
      state.perform collaborators place (state.mode.event line following) := by
  unfold readLine Mode.event Mode.directive?
  dsimp only
  cases hobject : state.object with
  | some object =>
    have hmode : state.mode.inObject := by
      simp [mode, hobject]
    rw [if_pos hmode]
    dsimp only
    split <;> simp [perform, hobject]
  | none =>
    have hmode : ¬ state.mode.inObject := by
      simp [mode, hobject]
    have hcomment : state.mode.inComment = state.inComment := rfl
    rw [if_neg hmode, hcomment]
    dsimp only
    cases htrim : Text.trim line with
    | nil => cases (readsLine state.inComment []).2 <;> simp [perform, hobject]
    | cons command rest =>
      cases hread : (readsLine state.inComment (command :: rest)).2 with
      | false => simp [perform, hmode, hread, hobject]
      | true =>
        have hopen := fst_readsLine_of_read hread
        by_cases hcontinues : command = '^' ∨ command = '%'
        · rcases hcontinues with rfl | rfl <;> simp [perform, readDirective, hobject]
        · obtain ⟨hcaret, hpercent⟩ := not_or.mp hcontinues
          simp [perform, hmode, hread, hopen, hobject, hcaret, hpercent, gatherFor]

end State

/-- Carry out what lines from a place on come to, up to a fatal problem if there is one. -/
def performAll (collaborators : Collaborators) (place : Place) :
    List Event → State → State × Option Problem
  | [], state => (state, none)
  | event :: events, state =>
    match state.perform collaborators place event with
    | .error problem => (state, some problem)
    | .ok state =>
      performAll collaborators { place with line := place.line + 1 } events state

theorem readLines_eq_performAll
    (collaborators : Collaborators) (place : Place) (lines : List Text) (state : State) :
    readLines collaborators place lines state =
      performAll collaborators place (state.mode.events lines) state := by
  induction lines generalizing place state with
  | nil => rfl
  | cons line following ih =>
    have hmode := mode_readLine_eq_next collaborators place state line following
    rw [readLines, Mode.events, performAll, ← State.readLine_eq_perform]
    cases hread : readLine collaborators place line following state with
    | error problem => rfl
    | ok after =>
      rw [hread] at hmode
      dsimp only
      rw [← hmode]
      exact ih _ after

/-- Scripts whose lines come to the same leave the same behind. -/
theorem read_eq_of_events_eq
    {script other : Text}
    (hevents : Mode.events {} (Text.lines other) = Mode.events {} (Text.lines script))
    (hlength : (Text.lines other).length = (Text.lines script).length)
    (collaborators : Collaborators) (persona : Persona) (source : Text) :
    read collaborators persona source other = read collaborators persona source script := by
  have hmode : (State.mode { persona }) = {} := rfl
  rw [read_eq_conclude, read_eq_conclude, readLines_eq_performAll, readLines_eq_performAll, hmode,
    hevents, hlength]

end DialogueScript.Script

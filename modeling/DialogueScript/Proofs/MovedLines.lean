import DialogueScript.Proofs.Directives
import DialogueScript.Proofs.ScriptEvents

/-!
# Lines read in another place

What a line does to the persona, the topic and the open trigger depends neither on the number of
the line nor on the problems and requests that the lines before it have left.  So lines that stand
in another place, below other lines, are read alike up to the numbers in their problems.
-/

namespace DialogueScript.Script

def Place.renumber (f : Nat → Nat) (place : Place) : Place :=
  { place with line := f place.line }

def Problem.renumber (f : Nat → Nat) (problem : Problem) : Problem :=
  { problem with line := f problem.line }

def OpenObject.renumber (f : Nat → Nat) (object : OpenObject) : OpenObject :=
  { object with line := f object.line }

/-- The state in another place, where warnings and requests have come before. -/
def State.moved
    (f : Nat → Nat) (warnings : List Problem) (requests : List Request) (state : State) : State :=
  { state with
    object := state.object.map (OpenObject.renumber f)
    warnings := warnings ++ state.warnings.map (Problem.renumber f)
    requests := requests ++ state.requests }

section

variable (f : Nat → Nat) (warnings : List Problem) (requests : List Request)

/-- What becomes of a state, or of a fatal problem, in another place. -/
def movedResult : Except Problem State → Except Problem State
  | .ok state => .ok (state.moved f warnings requests)
  | .error problem => .error (problem.renumber f)

variable (state : State) (place : Place) (text : Text)

theorem moved_warn (cause : Cause) :
    (state.warn place cause).moved f warnings requests =
      (state.moved f warnings requests).warn (place.renumber f) cause := by
  simp [State.warn, State.moved, Place.problem, Place.renumber, Problem.renumber]

theorem moved_openTrigger (previous : Option Text) :
    (openTrigger state text previous).moved f warnings requests =
      openTrigger (state.moved f warnings requests) text previous := by
  cases previous <;> rfl

theorem moved_addPart (part : Part) :
    (addPart state place part text).moved f warnings requests =
      addPart (state.moved f warnings requests) (place.renumber f) part text := by
  unfold addPart
  have htrigger : (state.moved f warnings requests).trigger = state.trigger := rfl
  rw [htrigger]
  cases state.trigger with
  | none => exact moved_warn f warnings requests state place _
  | some key => rfl

theorem moved_run (instruction : Instruction) :
    movedResult f warnings requests (instruction.run place state) =
      instruction.run (place.renumber f) (state.moved f warnings requests) := by
  cases instruction with
  | warn cause => exact congrArg Except.ok (moved_warn f warnings requests state place cause)
  | openTrigger pattern previous =>
    exact congrArg Except.ok (moved_openTrigger f warnings requests state pattern previous)
  | addPart part text =>
    exact congrArg Except.ok (moved_addPart f warnings requests state place text part)
  | _ => rfl

theorem moved_readDirective (command : Char) (previous : Option Text) :
    movedResult f warnings requests (readDirective state place command text previous) =
      readDirective (state.moved f warnings requests) (place.renumber f) command text
        previous := by
  obtain ⟨instruction, hread⟩ := exists_run_readDirective command text previous
  rw [hread, hread, moved_run]

theorem moved_closeObject (collaborators : Collaborators) (object : OpenObject) :
    (closeObject collaborators state object).moved f warnings requests =
      closeObject collaborators (state.moved f warnings requests) (object.renumber f) := by
  unfold closeObject
  have hlanguage : (object.renumber f).language = object.language := rfl
  rw [hlanguage]
  cases collaborators.handler? object.language with
  | none => rfl
  | some handler => simp [State.moved, OpenObject.renumber]

theorem moved_perform (collaborators : Collaborators) (event : Event) :
    movedResult f warnings requests (state.perform collaborators place event) =
      (state.moved f warnings requests).perform collaborators (place.renumber f) event := by
  cases event with
  | pass inComment => rfl
  | directive command text previous =>
    exact moved_readDirective f warnings requests { state with inComment := false } place text
      command previous
  | code line =>
    cases hobject : state.object <;>
      simp [State.perform, movedResult, State.moved, OpenObject.renumber, hobject]
  | close =>
    cases hobject : state.object with
    | none => simp [State.perform, movedResult, State.moved, hobject]
    | some object =>
      have hclose := moved_closeObject f warnings requests state collaborators object
      simpa [State.perform, movedResult, State.moved, hobject] using hclose

theorem moved_readLine
    (collaborators : Collaborators) (line : Text) (following : List Text) :
    movedResult f warnings requests (readLine collaborators place line following state) =
      readLine collaborators (place.renumber f) line following
        (state.moved f warnings requests) := by
  have hmode : (state.moved f warnings requests).mode = state.mode := by
    simp [State.mode, State.moved]
  rw [State.readLine_eq_perform, State.readLine_eq_perform, hmode, moved_perform]

end

/-- Lines that are moved as a whole are read alike, up to their numbers and to what has come
before. -/
theorem moved_readLines
    {f : Nat → Nat} {lines : List Text} {first target : Nat}
    (hmoved : ∀ i < lines.length, f (first + i) = target + i) (warnings : List Problem)
    (requests : List Request) (collaborators : Collaborators) (source : Text) (state : State) :
    let reading := readLines collaborators ⟨source, first⟩ lines state
    readLines collaborators ⟨source, target⟩ lines (state.moved f warnings requests) =
      (reading.1.moved f warnings requests, reading.2.map (Problem.renumber f)) := by
  induction lines generalizing first target state with
  | nil => rfl
  | cons line following ih =>
    obtain rfl : f first = target := hmoved 0 (Nat.zero_lt_succ _)
    have hrest : ∀ i < following.length, f (first + 1 + i) = f first + 1 + i := by
      intro i hi
      have hline := hmoved (i + 1) (Nat.succ_lt_succ hi)
      rwa [Nat.add_comm i, ← Nat.add_assoc, ← Nat.add_assoc] at hline
    have hfirst : (⟨source, f first⟩ : Place) = Place.renumber f ⟨source, first⟩ := rfl
    rw [readLines, readLines, hfirst, ← moved_readLine]
    cases readLine collaborators ⟨source, first⟩ line following state with
    | error problem => rfl
    | ok next => exact ih hrest next

theorem moved_finish
    (f : Nat → Nat) (warnings : List Problem) (requests : List Request) (source : Text)
    (state : State) :
    (finish source state).moved f warnings requests =
      finish source (state.moved f warnings requests) := by
  unfold finish
  cases hobject : state.object with
  | none => simp [State.moved, hobject]
  | some object =>
    have hmoved : (state.moved f warnings requests).object = some (object.renumber f) := by
      simp [State.moved, hobject]
    rw [hmoved]
    exact moved_warn f warnings requests state _ _

end DialogueScript.Script

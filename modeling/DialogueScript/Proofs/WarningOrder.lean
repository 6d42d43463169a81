import DialogueScript.Proofs.Directives
import Mathlib.Data.List.Basic

/-!
# The order of warnings

A line gives one warning at the most, and none as long as an object is open.  So the header of an
object that is never closed stands below every line that has given a warning, and the warning about
the object, which is added at the end of the script, comes at its place in the order of the lines.
-/

namespace DialogueScript.Script

/-! ## What a directive does -/

/-- What a directive does about warnings and objects. -/
inductive Outcome (place : Place) (state next : State) : Prop
  | warned (cause : Cause) (hnext : next = state.warn place cause)
  | opened (object : OpenObject) (hline : object.line = place.line)
    (hobject : next.object = some object) (hwarnings : next.warnings = state.warnings)
  | quiet (hobject : next.object = state.object) (hwarnings : next.warnings = state.warnings)

section Directives

variable {place : Place} {state next : State} {text : Text}

theorem outcome_openTrigger (previous : Option Text) :
    Outcome place state (openTrigger state text previous) := by
  cases previous <;> exact .quiet rfl rfl

theorem outcome_addPart (part : Part) : Outcome place state (addPart state place part text) := by
  unfold addPart
  split
  · exact .warned _ rfl
  · exact .quiet rfl rfl

theorem outcome_run
    {instruction : Instruction} (hrun : instruction.run place state = .ok next) :
    Outcome place state next := by
  cases instruction <;> cases hrun
  case keep => exact .quiet rfl rfl
  case warn cause => exact .warned cause rfl
  case setLanguage language => exact .quiet rfl rfl
  case setGlobal name value => exact .quiet rfl rfl
  case define f hglobals => exact .quiet rfl rfl
  case openTopic name words => exact .quiet rfl rfl
  case openObject name language => exact .opened _ rfl rfl rfl
  case leaveTopic => exact .quiet rfl rfl
  case openTrigger pattern previous => exact outcome_openTrigger previous
  case addPart part text => exact outcome_addPart part

end Directives

/-! ## The lines that are warned about -/

/-- The lines that there would be warnings about, if the script ended here. -/
def State.notedLines (state : State) : List Nat :=
  state.warnings.map Problem.line ++ (state.object.map OpenObject.line).toList

theorem lines_warnings_finish (source : Text) (state : State) :
    (finish source state).warnings.map Problem.line = state.notedLines := by
  unfold finish State.notedLines
  cases state.object with
  | none => exact (List.append_nil _).symm
  | some object => simp [State.warn, Place.problem]

section Lines

variable {place : Place} {state next : State}

theorem notedLines_of_object_eq_none (hobject : state.object = none) :
    state.notedLines = state.warnings.map Problem.line := by
  simp [State.notedLines, hobject]

/-- Outside of objects, a directive adds its own line at the most. -/
theorem Outcome.notedLines_sublist
    (houtcome : Outcome place state next) (hobject : state.object = none) :
    next.notedLines.Sublist (state.notedLines ++ [place.line]) := by
  cases houtcome with
  | warned cause hnext =>
    have hwarned : (state.warn place cause).object = none := hobject
    rw [hnext, notedLines_of_object_eq_none hobject, notedLines_of_object_eq_none hwarned]
    simp [State.warn, Place.problem]
  | opened object hline hopened hwarnings =>
    rw [notedLines_of_object_eq_none hobject, State.notedLines, hopened, hwarnings]
    simp [hline]
  | quiet hsame hwarnings =>
    have hnoted : next.notedLines = state.notedLines := by
      rw [State.notedLines, State.notedLines, hsame, hwarnings]
    rw [hnoted]
    exact List.sublist_append_left _ _

/-- The line that closes an object takes the object's own line away again. -/
theorem notedLines_closeObject_sublist
    (collaborators : Collaborators) (state : State) (object : OpenObject) :
    (closeObject collaborators state object).notedLines.Sublist state.notedLines := by
  have hclosed : (closeObject collaborators state object).notedLines =
      state.warnings.map Problem.line := by
    unfold closeObject
    cases collaborators.handler? object.language <;> exact List.append_nil _
  rw [hclosed]
  exact List.sublist_append_left _ _

theorem notedLines_readLine_sublist
    {collaborators : Collaborators} {line : Text} {following : List Text}
    (hread : readLine collaborators place line following state = .ok next) :
    next.notedLines.Sublist (state.notedLines ++ [place.line]) := by
  have hfront := List.sublist_append_left state.notedLines [place.line]
  cases lineStep_of_readLine hread with
  | code object hobject line =>
    -- a line of code leaves the object open where it was opened
    have hnoted : state.notedLines = state.warnings.map Problem.line ++ [object.line] := by
      rw [State.notedLines, hobject]
      rfl
    rw [hnoted] at hfront ⊢
    exact hfront
  | close object hobject =>
    exact (notedLines_closeObject_sublist collaborators state object).trans hfront
  | run hobject inComment instruction hrun => exact (outcome_run hrun).notedLines_sublist hobject

/-- The lines of a script are taken up one after the other, each of them once or not at all. -/
theorem notedLines_readLines_sublist
    {collaborators : Collaborators} {lines : List Text} {last : State}
    (hread : readLines collaborators place lines state = (last, none)) :
    last.notedLines.Sublist (state.notedLines ++ List.range' place.line lines.length) := by
  induction lines generalizing place state with
  | nil =>
    obtain ⟨rfl, -⟩ := Prod.mk.inj hread
    exact List.sublist_append_left _ _
  | cons line following ih =>
    rw [readLines] at hread
    split at hread
    · cases hread
    · rename_i next hnext
      have hline := notedLines_readLine_sublist hnext
      have hrest := (ih hread).trans (hline.append_right _)
      rwa [List.append_assoc, List.singleton_append, ← List.range'_succ] at hrest

end Lines

/-! ## The warnings of a report -/

/-- The warnings of a script that is read to its end stand in the order of its lines, and no line
has two of them. -/
theorem warnings_stand_in_line_order
    {collaborators : Collaborators} {persona : Persona} {source script : Text} {report : Report}
    (hread : (read collaborators persona source script).result = .ok report) :
    report.lines = (Text.lines script).length ∧
      (report.warnings.map Problem.line).Pairwise (· < ·) ∧
      ∀ warning ∈ report.warnings, 1 ≤ warning.line ∧ warning.line ≤ report.lines := by
  unfold read at hread
  dsimp only at hread
  split at hread
  · cases hread
  · rename_i hnone
    obtain rfl := Except.ok.inj hread
    have hlines := notedLines_readLines_sublist (Prod.ext rfl hnone)
    rw [← lines_warnings_finish source] at hlines
    refine ⟨rfl, (List.pairwise_lt_range' 1).sublist hlines, fun warning hwarning => ?_⟩
    have hline := hlines.subset (List.mem_map_of_mem hwarning)
    obtain ⟨hfirst, hlast⟩ := List.mem_range'_1.mp hline
    rw [Nat.add_comm] at hlast
    exact ⟨hfirst, Nat.le_of_lt_succ hlast⟩

/-- A reply without a trigger, a definition of an unknown kind, and an object that stays open. -/
theorem warnings_stand_in_line_order_before_open_object :
    let script := "- stray\n! mood calm = yes\n+ hi\n> object rev test\n? ok".toList
    ∃ report, (read {} (Persona.new 50) "(test)".toList script).result = .ok report ∧
      report.warnings.map Problem.line = [1, 2, 4] ∧
      (report.warnings.map Problem.line).Pairwise (· < ·) ∧
      ∀ warning ∈ report.warnings, 1 ≤ warning.line ∧ warning.line ≤ report.lines := by
  intro script
  have hread : (read {} (Persona.new 50) "(test)".toList script).result =
      .ok
        { source := "(test)".toList
          lines := 5
          warnings :=
            [⟨"(test)".toList, 1, .outsideTrigger .reply⟩,
              ⟨"(test)".toList, 2, .unknownDefinition "mood".toList⟩,
              ⟨"(test)".toList, 4, .unterminatedObject "rev".toList⟩] } := by
    decide +kernel
  exact ⟨_, hread, rfl, (warnings_stand_in_line_order hread).2⟩

end DialogueScript.Script

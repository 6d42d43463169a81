import DialogueScript.Proofs.Changes
import DialogueScript.Proofs.MovedLines
import DialogueScript.Proofs.ScriptLines
import DialogueScript.Proofs.TagReading

/-!
# Comment lines

A line that begins with two slashes is not read, but gathering stops at it.  So a script with such
a line added outside of objects is read as the lines above it alone and then the lines below it:
what would continue a directive above the comment, or name the previous reply of a trigger, no
longer does.  Where there is no such line, the comment only moves the numbers of the lines.
-/

namespace DialogueScript.Script

/-! ## Numbers of lines -/

def State.renumber (f : Nat → Nat) (state : State) : State :=
  { state with
    object := state.object.map (OpenObject.renumber f)
    warnings := state.warnings.map (Problem.renumber f) }

theorem State.renumber_eq_moved (f : Nat → Nat) (state : State) :
    state.renumber f = state.moved f [] [] :=
  rfl

/-- Lines that are moved as a whole are read alike, up to their numbers. -/
theorem renumber_readLines
    {f : Nat → Nat} {lines : List Text} {first moved : Nat}
    (hmoved : ∀ i < lines.length, f (first + i) = moved + i)
    (collaborators : Collaborators) (source : Text) (state : State) :
    let reading := readLines collaborators ⟨source, first⟩ lines state
    readLines collaborators ⟨source, moved⟩ lines (state.renumber f) =
      (reading.1.renumber f, reading.2.map (Problem.renumber f)) := by
  intro reading
  simp only [State.renumber_eq_moved]
  exact moved_readLines hmoved [] [] collaborators source state

/-- The report of a script that has one more line. -/
def Report.withLine (f : Nat → Nat) (report : Report) : Report :=
  { report with lines := report.lines + 1, warnings := report.warnings.map (Problem.renumber f) }

/-- What the script leaves behind once a line has been added that nothing comes of. -/
def Reading.withLine (f : Nat → Nat) (reading : Reading) : Reading :=
  { reading with
    result :=
      match reading.result with
      | .error problem => .error (problem.renumber f)
      | .ok report => .ok (report.withLine f) }

theorem withLine_conclude
    (f : Nat → Nat) (source : Text) (count : Nat) (reading : State × Option Problem) :
    (conclude source count reading).withLine f =
      conclude source (count + 1) (reading.1.renumber f, reading.2.map (Problem.renumber f)) := by
  obtain ⟨state, fatal⟩ := reading
  cases fatal with
  | some problem => rfl
  | none =>
    have hfinish : (finish source state).renumber f = finish source (state.renumber f) :=
      moved_finish f [] [] source state
    simp only [conclude, Option.map_none, ← hfinish]
    rfl

/-! ## Comments -/

/-- A line that is a comment as a whole. -/
def isComment (line : Text) : Bool :=
  Text.beginsWith "//".toList (Text.trim line)

theorem exists_trim_of_isComment {line : Text} (hcomment : isComment line) :
    ∃ rest, Text.trim line = '/' :: '/' :: rest := by
  obtain ⟨rest, hrest⟩ := Option.isSome_iff_exists.mp hcomment
  exact ⟨rest, Text.eq_append_of_strip? hrest⟩

theorem not_continues_of_isComment {line : Text} (hcomment : isComment line) (below : List Text) :
    continues (line :: below) = false := by
  obtain ⟨rest, htrim⟩ := exists_trim_of_isComment hcomment
  exact continues_cons htrim (List.cons_ne_nil _ _) below

theorem readLine_of_isComment
    {line : Text} (hcomment : isComment line) (collaborators : Collaborators) (place : Place)
    (following : List Text) {state : State} (hobject : state.object = none) :
    readLine collaborators place line following state = .ok state := by
  obtain ⟨rest, htrim⟩ := exists_trim_of_isComment hcomment
  have hskip : readsLine state.inComment (Text.trim line) = (state.inComment, false) := by
    rw [htrim]
    simp [readsLine, Text.beginsWith, Text.strip?]
  unfold readLine
  rw [hobject]
  dsimp only
  rw [hskip]
  simp [← hobject]

theorem object_eq_none_of_readLines
    {collaborators : Collaborators} {place : Place} {lines : List Text} {state last : State}
    (hread : readLines collaborators place lines state = (last, none))
    (houtside : ∀ mode, state.mode.after lines = some mode → mode.inObject = false) :
    last.object = none := by
  rw [after_mode place collaborators, hread] at houtside
  simpa [State.mode] using houtside last.mode rfl

theorem readLines_with_comment
    (collaborators : Collaborators) {above : List Text} {comment : Text} {state : State}
    (hcomment : isComment comment)
    (houtside : ∀ mode, state.mode.after above = some mode → mode.inObject = false) (place : Place)
    (below : List Text) :
    readLines collaborators place (above ++ comment :: below) state =
      readOn collaborators { place with line := place.line + above.length + 1 } below
        (readLines collaborators place above state) := by
  have happart := apart_of_not_continues (not_continues_of_isComment hcomment below) above
  rw [readLines_append collaborators happart]
  rcases habove : readLines collaborators place above state with ⟨last, _ | problem⟩
  · have hobject : last.object = none := object_eq_none_of_readLines habove houtside
    simp only [readOn, readLines, readLine_of_isComment hcomment collaborators _ below hobject]
  · rfl

/-- The number that a line has once a line is added below the first ones. -/
def numberBelow (count line : Nat) : Nat :=
  if line ≤ count then line else line + 1

theorem readOn_below
    (collaborators : Collaborators) (persona : Persona) (source : Text) (above below : List Text) :
    let number := numberBelow above.length
    let first := readLines collaborators ⟨source, 1⟩ above { persona }
    let reading := readOn collaborators ⟨source, 1 + above.length⟩ below first
    readOn collaborators ⟨source, 1 + above.length + 1⟩ below first =
      (reading.1.renumber number, reading.2.map (Problem.renumber number)) := by
  intro number first reading
  -- The numbers of the lines above stay, and those of the lines below go up by one.
  have hstays : ∀ i < above.length, number (1 + i) = 1 + i := by
    intro i hi
    exact if_pos (by omega)
  have hmoves : ∀ i < below.length, number (1 + above.length + i) = 1 + above.length + 1 + i := by
    intro i hi
    have hnumber : number (1 + above.length + i) = 1 + above.length + i + 1 := if_neg (by omega)
    omega
  have habove : first = (first.1.renumber number, first.2.map (Problem.renumber number)) :=
    renumber_readLines hstays collaborators source { persona }
  obtain ⟨state, _ | problem⟩ := first
  · have hstate : state = state.renumber number := congrArg Prod.fst habove
    have hbelow := renumber_readLines hmoves collaborators source state
    rwa [← hstate] at hbelow
  · exact habove

/-- Reading a script with a comment added outside of objects is reading what stands above the
comment and, from there on, what stands below it.  Where no line above gathers from the lines below,
this is reading the script without the comment. -/
theorem read_with_comment
    (collaborators : Collaborators) (persona : Persona) (source : Text) {script commented : Text}
    {above below : List Text} {comment : Text} (hscript : Text.lines script = above ++ below)
    (hcommented : Text.lines commented = above ++ comment :: below) (hcomment : isComment comment)
    (houtside : ∀ mode, Mode.after {} above = some mode → mode.inObject = false) :
    read collaborators persona source commented =
        conclude source (above.length + below.length + 1)
          (readOn collaborators ⟨source, 1 + above.length + 1⟩ below
            (readLines collaborators ⟨source, 1⟩ above { persona })) ∧
      (apart below above →
        read collaborators persona source commented =
          (read collaborators persona source script).withLine (numberBelow above.length)) := by
  have hread := read_eq_conclude collaborators persona source commented
  have hstart : ∀ mode, (State.mode { persona }).after above = some mode →
      mode.inObject = false := houtside
  rw [hcommented, readLines_with_comment collaborators hcomment hstart, List.length_append,
    List.length_cons] at hread
  refine ⟨hread, fun happart => ?_⟩
  have hplain := read_eq_conclude collaborators persona source script
  rw [hscript, readLines_append collaborators happart, List.length_append] at hplain
  rw [hread, hplain, withLine_conclude]
  exact congrArg _ (readOn_below collaborators persona source above below)

/-- A comment between two triggers only moves the warning below it. -/
theorem read_with_comment_between_triggers :
    let above := ["+ hi".toList, "- hello".toList]
    let below := ["+ bye".toList, "? odd".toList]
    let comment := "  // so long".toList
    let script := Text.unlines (above ++ below)
    let commented := Text.unlines (above ++ comment :: below)
    let persona := Persona.new 50
    let report : Report := ⟨Mind.streamed, 5, [⟨Mind.streamed, 5, .unknownCommand '?'⟩]⟩
    read {} persona Mind.streamed commented =
        (read {} persona Mind.streamed script).withLine (numberBelow 2) ∧
      (read {} persona Mind.streamed commented).result.toOption = some report := by
  intro above below comment script commented persona report
  have hscript : Text.lines script = above ++ below := by
    decide +kernel
  have hcommented : Text.lines commented = above ++ comment :: below := by
    decide +kernel
  have houtside : ∀ mode, Mode.after {} above = some mode → mode.inObject = false := by
    decide +kernel
  obtain ⟨-, hread⟩ := read_with_comment {} persona Mind.streamed hscript hcommented
    (by decide +kernel) houtside
  exact ⟨hread (by decide +kernel), by decide +kernel⟩

/-- A comment hides the previous reply of the trigger above it, and the rest of the reply above
it. -/
theorem comment_hides_line_below :
    let comment := "// and then".toList
    let trigger := "+ yes".toList
    let previous :=
      ["% are you well".toList, "- glad".toList, "+ *".toList, "- are you well".toList]
    let paired := Text.unlines (trigger :: previous)
    let unpaired := Text.unlines (trigger :: comment :: previous)
    let reply := ["+ hi".toList, "- hello".toList]
    let rest := ["^ there".toList]
    let whole := Text.unlines (reply ++ rest)
    let cut := Text.unlines (reply ++ comment :: rest)
    isComment comment ∧ ¬ Text.contains "*/".toList comment ∧
      Mode.after {} [trigger] = some {} ∧ Mode.after {} reply = some {} ∧
      (Bot.ofScript unpaired).mind.draft ≠ (Bot.ofScript paired).mind.draft ∧
      ((Bot.ofScript paired).answer ['u'] "yes".toList).2.reply = "are you well".toList ∧
      ((Bot.ofScript unpaired).answer ['u'] "yes".toList).2.reply = "glad".toList ∧
      ((Bot.ofScript whole).answer ['u'] "hi".toList).2.reply = "hellothere".toList ∧
      ((Bot.ofScript cut).answer ['u'] "hi".toList).2.reply = "hello".toList := by
  decide +kernel

end DialogueScript.Script

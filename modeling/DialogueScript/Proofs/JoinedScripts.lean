import DialogueScript.Proofs.MovedLines
import DialogueScript.Proofs.ScriptLines

/-!
# Scripts one below the other

Reading a script and then another one is reading the two as one script.  For this the first one
must leave reading where it starts, and the first line with a body of the second one must not
continue a directive of the first.  It may name a previous reply, though: a trigger that could be
paired with it has been closed by a line of the first script, and gathering ends at that line.
-/

namespace DialogueScript.Script

/-- Where the reading of a script starts. -/
structure State.AtRest (state : State) : Prop where
  topic_eq : state.topic = defaultTopic
  trigger_eq : state.trigger = none
  inComment_eq : state.inComment = false
  object_eq : state.object = none

/-- Whether gathering ends within the lines, whatever follows them. -/
def endsGathering (lines : List Text) : Bool :=
  lines.any fun line => (command? line).any (· ≠ '^')

/-! ## Gathering -/

theorem gather_append_of_endsGathering
    {above : List Text} (hends : endsGathering above) (command : Char) (text : Text)
    (below : List Text) :
    gather command text (above ++ below) = gather command text above := by
  induction above generalizing text with
  | nil => cases hends
  | cons line above ih =>
    unfold endsGathering at hends ih
    rw [List.any_cons, Bool.or_eq_true] at hends
    obtain ⟨hnone, hgather⟩ | ⟨next, body, hsome, hgather⟩ := gather_cons_cases line
    · rw [List.cons_append, hgather, hgather]
      rw [hnone] at hends
      exact ih (hends.resolve_left Bool.false_ne_true) text
    · rw [List.cons_append, hgather, hgather]
      by_cases hnext : next = '^'
      · rw [hsome, hnext] at hends
        simp only [ih (hends.resolve_left Bool.false_ne_true)]
      · simp only [hnext, if_false]

variable (collaborators : Collaborators)

theorem readLine_of_continues
    {line : Text} (hline : ∀ next ∈ command? line, next = '^') (place : Place)
    (following : List Text) {state : State} (hobject : state.object = none) :
    ∃ inComment, readLine collaborators place line following state =
      .ok { state with inComment } := by
  refine ⟨(readsLine state.inComment (Text.trim line)).1, ?_⟩
  unfold readLine
  rw [hobject]
  dsimp only
  split
  · rename_i command rest hread htrim
    have hcommand : command? line = some command :=
      command?_eq_some htrim (ne_nil_of_readsLine hread htrim)
    obtain rfl : command = '^' := hline command hcommand
    rfl
  · rfl

theorem object_openTrigger (state : State) (text : Text) (previous : Option Text) :
    (openTrigger state text previous).object = state.object := by
  cases previous <;> rfl

theorem trigger_openTrigger (state : State) (text : Text) (previous : Option Text) :
    (openTrigger state text previous).trigger ≠ none := by
  cases previous <;> exact Option.some_ne_none _

/-- A line that closes a trigger ends the gathering of the lines above it. -/
theorem endsGathering_of_trigger_eq_none
    {place : Place} {lines : List Text} {state last : State} (hobject : state.object = none)
    (hopen : state.trigger ≠ none)
    (hread : readLines collaborators place lines state = (last, none))
    (hclosed : last.trigger = none) :
    endsGathering lines := by
  induction lines generalizing place state with
  | nil =>
    obtain rfl : state = last := congrArg Prod.fst hread
    exact absurd hclosed hopen
  | cons line lines ih =>
    by_cases hline : ∀ next ∈ command? line, next = '^'
    · obtain ⟨inComment, hsame⟩ :=
        readLine_of_continues collaborators hline place lines hobject
      rw [readLines, hsame] at hread
      have hends : endsGathering lines := by
        refine ih ?_ ?_ hread
        · exact hobject
        · exact hopen
      unfold endsGathering at hends ⊢
      rw [List.any_cons, hends, Bool.or_true]
    · push Not at hline
      obtain ⟨next, hnext, hother⟩ := hline
      rw [Option.mem_def] at hnext
      simp [endsGathering, hnext, hother]

theorem leaves_of_firstCommand?
    {line : Text} {above below : List Text} (hfirst : firstCommand? below ≠ some '^')
    (hends : ∀ rest, Text.trim line = '+' :: rest → endsGathering above) :
    leaves below line above := by
  unfold leaves gatherFor
  cases htrim : Text.trim line with
  | nil => rfl
  | cons command rest =>
    by_cases hcommand : command = '+'
    · subst hcommand
      simp [gather_append_of_endsGathering (hends rest htrim)]
    · have hsilent : ∀ text, gather command text below = (text, none) := by
        refine gather_of_firstCommand? fun next hnext => ⟨?_, fun hplus => absurd hplus hcommand⟩
        rintro rfl
        exact hfirst hnext
      simp [gather_append hsilent]

/-- A trigger that one of the lines above closes gathers nothing from the lines below. -/
theorem readLine_append_of_closed
    {place : Place} {line : Text} {above below : List Text} {state next last : State}
    (hfirst : firstCommand? below ≠ some '^')
    (hline : readLine collaborators place line above state = .ok next)
    (hread : readLines collaborators { place with line := place.line + 1 } above next =
      (last, none))
    (hclosed : last.trigger = none) :
    readLine collaborators place line (above ++ below) state = .ok next := by
  by_cases hleaves : leaves below line above
  · rw [readLine_append collaborators hleaves, hline]
  have hopens : ∃ rest, Text.trim line = '+' :: rest ∧ ¬ endsGathering above := by
    by_contra hnone
    push Not at hnone
    exact hleaves (leaves_of_firstCommand? hfirst hnone)
  obtain ⟨rest, htrim, hends⟩ := hopens
  unfold readLine at hline ⊢
  rw [htrim] at hline ⊢
  cases hobject : state.object with
  | some object =>
    rw [hobject] at hline
    exact hline
  | none =>
    rw [hobject] at hline
    dsimp only at hline ⊢
    cases hisRead : (readsLine state.inComment ('+' :: rest)).2 with
    | false =>
      rw [hisRead] at hline
      exact hline
    | true =>
      rw [hisRead] at hline
      obtain rfl := Except.ok.inj hline
      exact absurd (endsGathering_of_trigger_eq_none collaborators (object_openTrigger _ _ _)
        (trigger_openTrigger _ _ _) hread hclosed) hends

/-- Where the lines above leave no trigger open and those below do not begin by continuing a
directive, the lines above are read as if nothing followed. -/
theorem readLines_append_of_closed
    {place : Place} {above below : List Text} {state last : State}
    (hfirst : firstCommand? below ≠ some '^')
    (hread : readLines collaborators place above state = (last, none))
    (hclosed : last.trigger = none) :
    readLines collaborators place (above ++ below) state =
      readLines collaborators { place with line := place.line + above.length } below last := by
  induction above generalizing place state with
  | nil =>
    obtain rfl : state = last := congrArg Prod.fst hread
    rfl
  | cons line above ih =>
    rw [readLines] at hread
    cases hline : readLine collaborators place line above state with
    | error problem =>
      rw [hline] at hread
      cases hread
    | ok next =>
      rw [hline] at hread
      rw [List.cons_append, readLines,
        readLine_append_of_closed collaborators hfirst hline hread hclosed]
      dsimp only
      rw [ih hread]
      simp only [List.length_cons, Nat.add_assoc, Nat.add_comm 1]

/-! ## Both scripts -/

theorem State.AtRest.eq_moved
    {state : State} (hrests : state.AtRest) (f : Nat → Nat) :
    state = State.moved f state.warnings state.requests { persona := state.persona } := by
  obtain ⟨persona, topic, trigger, inComment, object, warnings, requests⟩ := state
  obtain ⟨rfl, rfl, rfl, rfl⟩ := hrests
  simp [State.moved]

theorem exists_readLines_of_read_eq_ok
    {persona : Persona} {source script : Text} {report : Report}
    (hok : (read collaborators persona source script).result = .ok report) :
    ∃ last, readLines collaborators ⟨source, 1⟩ (Text.lines script) { persona } = (last, none) ∧
      read collaborators persona source script =
        conclude source (Text.lines script).length (last, none) := by
  rw [read_eq_conclude] at hok ⊢
  generalize readLines collaborators ⟨source, 1⟩ (Text.lines script) { persona } = reading
    at hok ⊢
  obtain ⟨last, fatal⟩ := reading
  cases fatal with
  | none => exact ⟨last, rfl, rfl⟩
  | some problem => cases hok

/-- From where the lines above leave reading, those below are read as a script of their own. -/
theorem readLines_append_of_rests
    {source : Text} {above below : List Text} {state middle : State}
    (hfirst : firstCommand? below ≠ some '^')
    (hread : readLines collaborators ⟨source, 1⟩ above state = (middle, none))
    (hrests : middle.AtRest) :
    let number := fun line => line + above.length
    let reading := readLines collaborators ⟨source, 1⟩ below { persona := middle.persona }
    readLines collaborators ⟨source, 1⟩ (above ++ below) state =
      (reading.1.moved number middle.warnings middle.requests,
        reading.2.map (Problem.renumber number)) := by
  intro number reading
  have hnumber : ∀ i < below.length, number (1 + i) = 1 + above.length + i :=
    fun i _ => Nat.add_right_comm 1 i above.length
  have hmoved := moved_readLines hnumber middle.warnings middle.requests collaborators source
    { persona := middle.persona }
  rw [← hrests.eq_moved number] at hmoved
  rw [readLines_append_of_closed collaborators hfirst hread hrests.trigger_eq]
  exact hmoved

/-- Reading two scripts one after the other is reading them as one, when the first is ended and
leaves reading where it starts, and the second does not begin by continuing a directive. -/
theorem read_append
    (persona : Persona) (source : Text) {above below : Text} {reportAbove reportBelow : Report}
    (hended : above.getLast? = some '\n')
    (habove : (read collaborators persona source above).result = .ok reportAbove)
    (hbelow : (read collaborators (read collaborators persona source above).persona source
      below).result = .ok reportBelow)
    (hrests : (readLines collaborators ⟨source, 1⟩ (Text.lines above) { persona }).1.AtRest)
    (hfirst : firstCommand? (Text.lines below) ≠ some '^') :
    let first := read collaborators persona source above
    let second := read collaborators first.persona source below
    read collaborators persona source (above ++ below) =
      { persona := second.persona
        requests := first.requests ++ second.requests
        result := .ok
          { source
            lines := reportAbove.lines + reportBelow.lines
            warnings := reportAbove.warnings ++
              reportBelow.warnings.map (Problem.renumber (· + reportAbove.lines)) } } := by
  intro first second
  obtain ⟨middle, hmiddle, hfirstRead⟩ := exists_readLines_of_read_eq_ok collaborators habove
  obtain ⟨last, hlast, hsecondRead⟩ := exists_readLines_of_read_eq_ok collaborators hbelow
  rw [hmiddle] at hrests
  have hfinish : finish source middle = middle := by
    unfold finish
    rw [hrests.object_eq]
  rw [conclude, hfinish] at hfirstRead
  have hsecond : second = conclude source (Text.lines below).length (last, none) := hsecondRead
  have hresult : (conclude source (Text.lines below).length (last, none)).result =
      .ok reportBelow := by
    rw [← hsecondRead]
    exact hbelow
  rw [hfirstRead] at habove hlast
  have hjoined := readLines_append_of_rests collaborators hfirst hmiddle hrests
  rw [hlast] at hjoined
  rw [read_eq_conclude, Text.lines_append hended, hjoined, List.length_append, hsecond]
  simp only [first, hfirstRead]
  cases habove
  cases hresult
  simp only [conclude, Option.map_none, ← moved_finish]
  rfl

/-- The first line with a body of the second script names a previous reply, which nothing above
gathers; the warning below it moves with the lines. -/
theorem read_append_of_talks :
    let source := "talks".toList
    let above := "- lost\n> topic talk\n+ hi\n- hello\n< topic\n".toList
    let below := "\n% how are you\n? odd\n+ bye\n- ciao".toList
    let persona := Persona.new 50
    let first := read {} persona source above
    let second := read {} first.persona source below
    let joined := read {} persona source (above ++ below)
    joined.persona = second.persona ∧
      joined.result = .ok ⟨source, 10,
        [⟨source, 1, .outsideTrigger .reply⟩, ⟨source, 8, .unknownCommand '?'⟩]⟩ := by
  intro source above below persona first second joined
  have habove : first.result =
      .ok ⟨source, 5, [⟨source, 1, .outsideTrigger .reply⟩]⟩ := by
    decide +kernel
  have hbelow : second.result =
      .ok ⟨source, 5, [⟨source, 3, .unknownCommand '?'⟩]⟩ := by
    decide +kernel
  have hrests : (readLines {} ⟨source, 1⟩ (Text.lines above) { persona }).1.AtRest :=
    ⟨by decide +kernel, by decide +kernel, by decide +kernel, by decide +kernel⟩
  have hjoined : joined = _ := read_append {} persona source (by decide +kernel) habove
    hbelow hrests (by decide +kernel)
  rw [hjoined]
  exact ⟨rfl, rfl⟩

end DialogueScript.Script

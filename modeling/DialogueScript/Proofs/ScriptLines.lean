import DialogueScript.Script.Reader
import Mathlib.Data.List.DropRight

/-!
# Scripts line by line

A line knows the lines above it by the state that they leave, and of the lines below it only what
its directive gathers.  Gathering ends at the first line that has a body and neither continues a
directive nor names a previous reply.  So at such a line a script can be cut: what stands above is
read as a script of its own, and what stands below is read on from there.
-/

namespace DialogueScript

/-! ## Texts as lines -/

namespace Text

/-- The lines one after the other, each of them ended. -/
def unlines (lines : List Text) : Text :=
  lines.flatMap fun line => line ++ ['\n']

theorem split_ne_nil (p : Char → Bool) (text : Text) : split p text ≠ [] := by
  cases text with
  | nil => exact List.cons_ne_nil _ _
  | cons c rest =>
    unfold split
    split
    · exact List.cons_ne_nil _ _
    · split <;> exact List.cons_ne_nil _ _

theorem forall_mem_split (p : Char → Bool) (text : Text) :
    ∀ part ∈ split p text, ∀ c ∈ part, ¬ p c := by
  induction text with
  | nil => simp [split]
  | cons c rest ih =>
    unfold split
    by_cases hmark : p c
    · simpa [hmark] using ih
    · rw [if_neg hmark]
      cases hsplit : split p rest with
      | nil => exact absurd hsplit (split_ne_nil p rest)
      | cons part parts =>
        rw [hsplit, List.forall_mem_cons] at ih
        simpa [hmark] using ih

theorem split_eq_singleton {p : Char → Bool} {part : Text} (hpart : ∀ c ∈ part, ¬ p c) :
    split p part = [part] := by
  induction part with
  | nil => rfl
  | cons c part ih =>
    rw [List.forall_mem_cons] at hpart
    simp [split, hpart.1, ih hpart.2]

theorem split_append_mark {p : Char → Bool} {mark : Char} (hmark : p mark) (front rest : Text) :
    split p (front ++ mark :: rest) = split p front ++ split p rest := by
  induction front with
  | nil => simp [split, hmark]
  | cons c front ih =>
    rw [List.cons_append, split, split, ih]
    split
    · rfl
    · cases hsplit : split p front with
      | nil => exact absurd hsplit (split_ne_nil p front)
      | cons part parts => rfl

/-- Where two texts meet, the last part of the first one and the first part of the second one are a
part together. -/
theorem split_append (p : Char → Bool) (text more : Text) :
    ∃ front last first back, split p text = front ++ [last] ∧ split p more = first :: back ∧
      split p (text ++ more) = front ++ (last ++ first) :: back := by
  induction text with
  | nil =>
    obtain ⟨first, back, hmore⟩ := List.exists_cons_of_ne_nil (split_ne_nil p more)
    exact ⟨[], [], first, back, rfl, hmore, hmore⟩
  | cons c text ih =>
    obtain ⟨front, last, first, back, htext, hmore, happend⟩ := ih
    rw [List.cons_append, split, split, htext, happend]
    by_cases hc : p c
    · exact ⟨[] :: front, last, first, back, by simp [hc], hmore, by simp [hc]⟩
    · cases front with
      | nil => exact ⟨[], c :: last, first, back, by simp [hc], hmore, by simp [hc]⟩
      | cons part front =>
        exact ⟨(c :: part) :: front, last, first, back, by simp [hc], hmore, by simp [hc]⟩

theorem not_mem_of_mem_lines {text line : Text} (hline : line ∈ lines text) : '\n' ∉ line := by
  have hpart : line ∈ split (· = '\n') text := by
    unfold lines at hline
    dsimp only at hline
    split at hline
    · exact List.dropLast_subset _ hline
    · exact hline
  intro hmem
  exact forall_mem_split _ _ line hpart '\n' hmem (by simp)

theorem lines_unlines {parts : List Text} (hparts : ∀ line ∈ parts, '\n' ∉ line) :
    lines (unlines parts) = parts := by
  have hsplit : split (· = '\n') (unlines parts) = parts ++ [[]] := by
    induction parts with
    | nil => rfl
    | cons line parts ih =>
      rw [List.forall_mem_cons] at hparts
      have hline : ∀ c ∈ line, ¬ (c = '\n' : Bool) := by
        intro c hc
        have hne : c ≠ '\n' := fun heq => hparts.1 (heq ▸ hc)
        simpa using hne
      have hfirst : unlines (line :: parts) = line ++ '\n' :: unlines parts := by
        simp [unlines]
      rw [hfirst, split_append_mark (by simp), split_eq_singleton hline, ih hparts.2]
      rfl
  simp [lines, hsplit]

/-- Below an ended line, the lines are those of each text. -/
theorem lines_append {above : Text} (hended : above.getLast? = some '\n') (below : Text) :
    lines (above ++ below) = lines above ++ lines below := by
  obtain ⟨front, rfl⟩ := List.getLast?_eq_some_iff.mp hended
  have hsplit : split (· = '\n') (front ++ '\n' :: below) =
      split (· = '\n') front ++ split (· = '\n') below :=
    split_append_mark (by simp) front below
  have habove : lines (front ++ ['\n']) = split (· = '\n') front := by
    simp [lines, split_append_mark, split]
  have hbelow : split (· = '\n') below ≠ [] := split_ne_nil _ below
  rw [habove, List.append_assoc, List.singleton_append]
  unfold lines
  rw [hsplit]
  dsimp only
  rw [List.getLast?_append_of_ne_nil _ hbelow, List.dropLast_append_of_ne_nil hbelow]
  split <;> rfl

theorem trim_ne_nil_of_trim_cons
    {line : Text} {c : Char} {rest : Text} (htrim : trim line = c :: rest) (hrest : rest ≠ []) :
    trim rest ≠ [] := by
  have hne : (trimStart line).rdropWhile isBlank ≠ [] := by
    intro hnil
    rw [show trim line = [] from hnil] at htrim
    cases htrim
  have hlast : ¬ isBlank (rest.getLast hrest) := by
    have hend : ¬ isBlank ((trim line).getLast hne) := List.rdropWhile_last_not _ _ hne
    simpa only [htrim, List.getLast_cons hrest] using hend
  intro hnil
  have hstart : ∀ c ∈ trimStart rest, isBlank c := by
    simpa [trim, trimEnd] using hnil
  have hmem : rest.getLast hrest ∈ rest.takeWhile isBlank ++ trimStart rest := by
    rw [trimStart, List.takeWhile_append_dropWhile]
    exact List.getLast_mem hrest
  rcases List.mem_append.mp hmem with hlead | hmem
  · exact hlast (List.mem_takeWhile_imp hlead)
  · exact hlast (hstart _ hmem)

end Text

namespace Script

/-! ## What a directive gathers -/

/-- The command of a line that has a body. -/
def command? (line : Text) : Option Char :=
  match Text.trim line with
  | [] => none
  | command :: rest => if (Text.trim rest).isEmpty then none else some command

/-- The command of the first line that has a body. -/
def firstCommand? (lines : List Text) : Option Char :=
  lines.findSome? command?

theorem command?_eq_some
    {line : Text} {next : Char} {rest : Text} (htrim : Text.trim line = next :: rest)
    (hrest : rest ≠ []) :
    command? line = some next := by
  simp [command?, htrim, Text.trim_ne_nil_of_trim_cons htrim hrest]

/-- A line without a body is passed over; any other is gathered by its command. -/
theorem gather_cons_cases (line : Text) :
    (command? line = none ∧
      ∀ command text below, gather command text (line :: below) = gather command text below) ∨
    ∃ next body, command? line = some next ∧
      ∀ command text below, gather command text (line :: below) =
        if command = '+' && next = '%' then (text, some body)
        else if next = '^' then
          gather command ((if command = '!' then text ++ Definitions.lineMark else text) ++ body)
            below
        else (text, none) := by
  cases htrim : Text.trim line with
  | nil =>
    left
    simp [command?, gather, htrim]
  | cons next rest =>
    by_cases hbody : (Text.trim rest).isEmpty
    · left
      simp [command?, gather, htrim, hbody]
    · right
      refine ⟨next, Text.trim rest, by simp [command?, htrim, hbody], ?_⟩
      intro command text below
      simp only [gather, htrim, hbody, Bool.false_eq_true, if_false]

/-- Lines gather nothing into a directive when the first body neither continues it nor names the
previous reply of a trigger. -/
theorem gather_of_firstCommand?
    {below : List Text} {command : Char}
    (hfirst : ∀ next ∈ firstCommand? below, next ≠ '^' ∧ (command = '+' → next ≠ '%'))
    (text : Text) :
    gather command text below = (text, none) := by
  induction below with
  | nil => rfl
  | cons line below ih =>
    rw [firstCommand?, List.findSome?_cons] at hfirst
    obtain ⟨hnone, hgather⟩ | ⟨next, body, hsome, hgather⟩ := gather_cons_cases line
    · rw [hnone] at hfirst
      rw [hgather]
      exact ih hfirst
    · rw [hsome] at hfirst
      obtain ⟨hcontinues, hnames⟩ := hfirst next rfl
      have hpair : ¬ (command = '+' ∧ next = '%') := fun hboth => hnames hboth.1 hboth.2
      simp [hgather, hcontinues, hpair]

/-- Whether the first line with a body continues a directive, or names a previous reply. -/
def continues : List Text → Bool
  | [] => false
  | line :: following =>
    match Text.trim line with
    | [] => continues following
    | next :: rest =>
      if (Text.trim rest).isEmpty then continues following else next = '^' || next = '%'

theorem continues_eq (lines : List Text) :
    continues lines = (firstCommand? lines).any fun next => next = '^' || next = '%' := by
  induction lines with
  | nil => rfl
  | cons line following ih =>
    rw [firstCommand?, List.findSome?_cons, command?, continues]
    cases Text.trim line with
    | nil => exact ih
    | cons next rest =>
      dsimp only
      split
      · exact ih
      · rfl

theorem continues_cons
    {line : Text} {next : Char} {rest : Text} (htrim : Text.trim line = next :: rest)
    (hrest : rest ≠ []) (below : List Text) :
    continues (line :: below) = (next = '^' || next = '%' : Bool) := by
  rw [continues_eq, firstCommand?, List.findSome?_cons, command?_eq_some htrim hrest]
  rfl

theorem gather_of_not_continues
    {below : List Text} (hbelow : continues below = false) (command : Char) (text : Text) :
    gather command text below = (text, none) := by
  refine gather_of_firstCommand? (fun next hnext => ?_) text
  rw [continues_eq, Option.mem_def.mp hnext, Option.any_some, Bool.or_eq_false_iff] at hbelow
  exact ⟨of_decide_eq_false hbelow.1, fun _ => of_decide_eq_false hbelow.2⟩

theorem gather_append
    {below : List Text} {command : Char} (hbelow : ∀ text, gather command text below = (text, none))
    (text : Text) (above : List Text) :
    gather command text (above ++ below) = gather command text above := by
  induction above generalizing text with
  | nil => exact hbelow text
  | cons line above ih =>
    rw [List.cons_append]
    obtain ⟨-, hgather⟩ | ⟨next, body, -, hgather⟩ := gather_cons_cases line
    · rw [hgather, hgather, ih]
    · rw [hgather, hgather, ih]

theorem gather_append_text (command : Char) (front text : Text) (lines : List Text) :
    gather command (front ++ text) lines =
      (front ++ (gather command text lines).1, (gather command text lines).2) := by
  induction lines generalizing text with
  | nil => rfl
  | cons line following ih =>
    obtain ⟨-, hgather⟩ | ⟨next, body, -, hgather⟩ := gather_cons_cases line
    · rw [hgather, hgather, ih]
    · rw [hgather, hgather]
      split
      · rfl
      · split
        · split
          · rw [List.append_assoc, List.append_assoc, ih, List.append_assoc]
          · rw [List.append_assoc, ih]
        · rfl

theorem gatherFor_append_text (command : Char) (front text : Text) (lines : List Text) :
    gatherFor command (front ++ text) lines =
      (front ++ (gatherFor command text lines).1, (gatherFor command text lines).2) := by
  unfold gatherFor
  split
  · rfl
  · exact gather_append_text command front text lines

/-- Whether a line gathers nothing from the lines below, with those above them in between. -/
def leaves (below : List Text) (line : Text) (above : List Text) : Bool :=
  match Text.trim line with
  | [] => true
  | command :: _ => gatherFor command [] (above ++ below) = gatherFor command [] above

/-- Whether no line above gathers anything from the lines below. -/
def apart (below : List Text) : List Text → Bool
  | [] => true
  | line :: above => leaves below line above && apart below above

theorem gatherFor_append
    {below above : List Text} {line : Text} (hline : leaves below line above) {command : Char}
    {rest : Text} (htrim : Text.trim line = command :: rest) (text : Text) :
    gatherFor command text (above ++ below) = gatherFor command text above := by
  rw [leaves, htrim] at hline
  have hgather : gatherFor command [] (above ++ below) = gatherFor command [] above := by
    simpa using hline
  have htext := gatherFor_append_text command text []
  rw [List.append_nil] at htext
  rw [htext, htext, hgather]

theorem leaves_of_not_continues
    {below : List Text} (hbelow : continues below = false) (line : Text) (above : List Text) :
    leaves below line above := by
  unfold leaves gatherFor
  cases Text.trim line with
  | nil => rfl
  | cons command rest => simp [gather_append (gather_of_not_continues hbelow command)]

theorem apart_of_not_continues
    {below : List Text} (hbelow : continues below = false) (above : List Text) :
    apart below above := by
  induction above with
  | nil => rfl
  | cons line above ih => rw [apart, leaves_of_not_continues hbelow, ih, Bool.true_and]

variable (collaborators : Collaborators) {above below : List Text}

theorem readLine_append
    {line : Text} (hline : leaves below line above) (place : Place) (state : State) :
    readLine collaborators place line (above ++ below) state =
      readLine collaborators place line above state := by
  unfold readLine
  dsimp only
  split
  · rfl
  · split
    · rename_i htrim
      rw [gatherFor_append hline htrim]
    · rfl

/-- Read on from where other lines have been read, unless they hold a fatal problem. -/
def readOn (place : Place) (lines : List Text) : State × Option Problem → State × Option Problem
  | (state, some problem) => (state, some problem)
  | (state, none) => readLines collaborators place lines state

/-- Where no line below continues a directive above, the lines above are read as if nothing
followed, and those below from the state on that they leave. -/
theorem readLines_append (happart : apart below above) (place : Place) (state : State) :
    readLines collaborators place (above ++ below) state =
      readOn collaborators { place with line := place.line + above.length } below
        (readLines collaborators place above state) := by
  induction above generalizing place state with
  | nil => rfl
  | cons line above ih =>
    rw [apart, Bool.and_eq_true] at happart
    rw [List.cons_append, readLines, readLines, readLine_append collaborators happart.1]
    cases readLine collaborators place line above state with
    | error problem => rfl
    | ok next =>
      dsimp only
      rw [ih happart.2]
      simp only [List.length_cons, Nat.add_assoc, Nat.add_comm 1]

/-- A line that is read is more than its command. -/
theorem ne_nil_of_readsLine
    {inComment : Bool} {line : Text} (hread : (readsLine inComment (Text.trim line)).2)
    {command : Char} {rest : Text} (htrim : Text.trim line = command :: rest) :
    rest ≠ [] := by
  rintro rfl
  unfold readsLine at hread
  split at hread
  · cases hread
  · split at hread
    · cases hread
    · split at hread
      · cases hread
      · simp [htrim] at hread

/-! ## Comments and objects -/

/-- Where reading stands: whether in a comment, and whether in the body of an object. -/
structure Mode where
  inComment : Bool := false
  inObject : Bool := false
deriving Repr, DecidableEq

def State.mode (state : State) : Mode :=
  { inComment := state.inComment, inObject := state.object.isSome }

def opensObject (text : Text) : Bool :=
  Text.lower ((Text.words text).head?.getD []) = "object".toList

/-- Whether a definition is of a version that is too new. -/
def isTooNew (text : Text) : Bool :=
  let (left, value) := definitionSides text
  (definitionHead left).1 = "version".toList &&
    (Number.Double.ofText? (Text.replaceAll Definitions.lineMark [] value)).any fun version =>
      version.exceeds supportedVersion

namespace Mode

/-- Where reading stands after a directive, which comes to nothing when it is fatal. -/
def afterDirective (mode : Mode) (command : Char) (text : Text) : Option Mode :=
  if command = '!' && isTooNew text then none
  else some { mode with inObject := command = '>' && opensObject text }

/-- Where reading stands after a line. -/
def next (mode : Mode) (line : Text) (following : List Text) : Option Mode :=
  let line := Text.trim line
  if mode.inObject then some { mode with inObject := !endsObject line }
  else
    let (inComment, isRead) := readsLine mode.inComment line
    match isRead, line with
    | true, command :: rest =>
      let text := Text.before commentMark (Text.trim rest)
      afterDirective { inComment } command (gatherFor command text following).1
    | _, _ => some { inComment }

/-- Where reading stands after lines that nothing follows. -/
def after (mode : Mode) : List Text → Option Mode
  | [] => some mode
  | line :: following => (mode.next line following).bind fun mode => mode.after following

end Mode

section

variable {state : State} (place : Place) (text : Text)

theorem mode_openLabel (hobject : state.object = none) :
    (openLabel state place text).mode =
      { inComment := state.inComment, inObject := opensObject text } := by
  unfold openLabel opensObject
  dsimp only
  generalize Text.lower ((Text.words text).head?.getD []) = label
  by_cases hbegin : label = "begin".toList
  · subst hbegin
    rw [if_pos rfl]
    simp [openTopic, State.mode, hobject]
  rw [if_neg hbegin]
  by_cases htopic : label = "topic".toList
  · subst htopic
    rw [if_pos rfl]
    split <;> simp [openTopic, State.warn, State.mode, hobject]
  rw [if_neg htopic]
  by_cases hlabel : label = "object".toList
  · rw [if_pos hlabel]
    simp [openObject, State.mode, hlabel]
  · rw [if_neg hlabel, decide_eq_false hlabel]
    simp [State.warn, State.mode, hobject]

theorem mode_closeLabel : (closeLabel state place text).mode = state.mode := by
  unfold closeLabel
  dsimp only
  split
  · rfl
  · split <;> rfl

theorem mode_openTrigger (previous : Option Text) :
    (openTrigger state text previous).mode = state.mode := by
  cases previous <;> rfl

theorem mode_addPart (part : Part) : (addPart state place part text).mode = state.mode := by
  unfold addPart
  cases state.trigger <;> rfl

theorem toOption_readVersion (value : Text) :
    (readVersion state place value).toOption.map State.mode =
      if (Number.Double.ofText? value).any fun version => version.exceeds supportedVersion
      then none else some state.mode := by
  unfold readVersion
  cases Number.Double.ofText? value with
  | none => rfl
  | some version =>
    dsimp only [Option.any_some]
    split <;> rfl

theorem mode_readDefinition :
    (readDefinition state place text).toOption.map State.mode =
      if isTooNew text then none else some state.mode := by
  unfold readDefinition isTooNew
  obtain ⟨left, value⟩ := definitionSides text
  dsimp only
  by_cases hversion : (definitionHead left).1 = "version".toList
  · have harray : (definitionHead left).1 ≠ "array".toList := by
      rw [hversion]
      decide
    rw [if_pos hversion, if_neg harray, toOption_readVersion]
    simp only [hversion, decide_true, Bool.true_and]
  · simp only [hversion, decide_false, Bool.false_and, Bool.false_eq_true, if_false]
    generalize (if (definitionHead left).1 = "array".toList then value
      else Text.replaceAll Definitions.lineMark [] value) = value
    split
    · rfl
    · split
      · rfl
      · split
        · rfl
        · split <;> rfl

theorem mode_readDirective_of_ne
    {command : Char} (hdefinition : command ≠ '!') (hlabel : command ≠ '>')
    (previous : Option Text) :
    (readDirective state place command text previous).toOption.map State.mode =
      some state.mode := by
  unfold readDirective
  split
  · exact absurd rfl hdefinition
  · exact absurd rfl hlabel
  · exact congrArg some (mode_closeLabel place text)
  · exact congrArg some (mode_openTrigger text previous)
  iterate 5
    exact congrArg some (mode_addPart place text _)
  all_goals rfl

theorem mode_readDirective
    (hobject : state.object = none) (command : Char) (previous : Option Text) :
    (readDirective state place command text previous).toOption.map State.mode =
      Mode.afterDirective { inComment := state.inComment } command text := by
  have hmode : state.mode = { inComment := state.inComment } := by
    simp [State.mode, hobject]
  unfold Mode.afterDirective
  by_cases hdefinition : command = '!'
  · subst hdefinition
    have hread : (readDefinition state place text).toOption.map State.mode =
        if isTooNew text then none else some state.mode := mode_readDefinition place text
    simpa [readDirective, hmode] using hread
  by_cases hlabel : command = '>'
  · subst hlabel
    simpa [readDirective, Except.toOption] using mode_openLabel place text hobject
  rw [mode_readDirective_of_ne place text hdefinition hlabel, hmode]
  simp [hdefinition, hlabel]

theorem mode_closeObject (collaborators : Collaborators) (object : OpenObject) :
    (closeObject collaborators state object).mode = { state.mode with inObject := false } := by
  unfold closeObject
  cases collaborators.handler? object.language <;> rfl

theorem mode_readLine
    (collaborators : Collaborators) (line : Text) (following : List Text) :
    (readLine collaborators place line following state).toOption.map State.mode =
      state.mode.next line following := by
  unfold readLine Mode.next
  dsimp only
  generalize Text.trim line = line
  cases hobject : state.object with
  | some object =>
    have hmode : state.mode.inObject = true := by
      simp [State.mode, hobject]
    rw [if_pos hmode]
    dsimp only
    by_cases hends : endsObject line
    · simp [Except.toOption, hends, mode_closeObject]
    · simp [Except.toOption, hends, State.mode]
  | none =>
    have hmode : ¬ state.mode.inObject = true := by
      simp [State.mode, hobject]
    have hcomment : state.mode.inComment = state.inComment := rfl
    rw [if_neg hmode, hcomment]
    dsimp only
    cases line with
    | nil =>
      cases (readsLine state.inComment []).2 <;> rfl
    | cons command rest =>
      cases (readsLine state.inComment (command :: rest)).2 with
      | false => rfl
      | true => exact mode_readDirective place _ rfl command _

theorem exists_readLine_eq_error
    (collaborators : Collaborators) {line : Text} {following : List Text}
    (hfatal : state.mode.next line following = none) :
    ∃ problem, readLine collaborators place line following state = .error problem := by
  rw [← mode_readLine place collaborators] at hfatal
  cases hread : readLine collaborators place line following state with
  | error problem => exact ⟨problem, rfl⟩
  | ok after =>
    rw [hread] at hfatal
    cases hfatal

theorem after_mode (collaborators : Collaborators) (lines : List Text) :
    state.mode.after lines =
      match readLines collaborators place lines state with
      | (_, some _) => none
      | (last, none) => some last.mode := by
  induction lines generalizing place state with
  | nil => rfl
  | cons line following ih =>
    rw [Mode.after, ← mode_readLine place collaborators, readLines]
    cases readLine collaborators place line following state with
    | error problem => rfl
    | ok next => exact ih { place with line := place.line + 1 }

theorem exists_readLines_of_after_eq_some
    (collaborators : Collaborators) {lines : List Text} {mode : Mode}
    (hafter : state.mode.after lines = some mode) :
    ∃ last, readLines collaborators place lines state = (last, none) ∧ last.mode = mode := by
  rw [after_mode place collaborators] at hafter
  rcases hread : readLines collaborators place lines state with ⟨last, _ | problem⟩
  · rw [hread] at hafter
    exact ⟨last, rfl, Option.some_inj.mp hafter⟩
  · rw [hread] at hafter
    cases hafter

end

namespace Mode

theorem next_append
    {line : Text} {above below : List Text} (hline : leaves below line above) (mode : Mode) :
    mode.next line (above ++ below) = mode.next line above := by
  unfold next
  dsimp only
  split
  · rfl
  · split
    · rename_i htrim
      rw [gatherFor_append hline htrim]
    · rfl

end Mode

/-! ## The end of a script -/

/-- What reading leaves behind that has come to its end, or to a fatal problem. -/
def conclude (source : Text) (count : Nat) : State × Option Problem → Reading
  | (state, some problem) =>
    { persona := state.persona, requests := state.requests, result := .error problem }
  | (state, none) =>
    let state := finish source state
    { persona := state.persona
      requests := state.requests
      result := .ok { source, lines := count, warnings := state.warnings } }

theorem read_eq_conclude
    (collaborators : Collaborators) (persona : Persona) (source script : Text) :
    read collaborators persona source script =
      conclude source (Text.lines script).length
        (readLines collaborators ⟨source, 1⟩ (Text.lines script) { persona }) := by
  unfold read
  dsimp only
  rcases readLines collaborators ⟨source, 1⟩ (Text.lines script) { persona } with ⟨state, _ | fatal⟩
  · rfl
  · rfl

end Script

end DialogueScript

import DialogueScript.Script.Reader

/-!
# What a directive comes to

The text of a directive settles what it asks for.  The state that it is read in neither chooses
between a definition, a label and a warning, nor says whether a version is too new: it is only what
the directive is carried out on.  So every directive is one of a few instructions, and what holds of
each instruction holds of every line.
-/

namespace DialogueScript

/-! ## Definitions -/

/-- Either every persona refuses a global, or it changes the globals of every persona, and the depth
at the most. -/
theorem Persona.setGlobal?_cases (name : Text) (value : Option Text) :
    (∀ persona : Persona, persona.setGlobal? name value = none) ∨
      ∃ (f : Table Text → Table Text) (depth? : Option UInt64), ∀ persona : Persona,
        persona.setGlobal? name value = some
          { persona with
            definitions := { persona.definitions with globals := f persona.definitions.globals }
            depth := depth?.getD persona.depth } := by
  unfold setGlobal?
  cases given value with
  | none => exact .inr ⟨fun globals => globals.erase name, none, fun _ => rfl⟩
  | some value =>
    dsimp only
    split
    · cases Number.word? (Text.trim value) with
      | none => exact .inl fun _ => rfl
      | some depth =>
        exact .inr ⟨fun globals => globals.insert name value, some (UInt64.ofNat depth),
          fun _ => rfl⟩
    split
    · exact .inl fun _ => rfl
    · exact .inr ⟨fun globals => globals.insert name value, none, fun _ => rfl⟩

namespace Script

/-- What entering a definition does, whatever the persona is. -/
inductive Defining (kind name value : Text) : Prop
  | unknown (hdefine : ∀ persona, define? persona kind name value = none)
  | setGlobal
    (hdefine : ∀ persona, define? persona kind name value =
      some ((persona.setGlobal? name (some value)).getD persona))
  | change (f : Definitions → Definitions)
    (hglobals : ∀ definitions, (f definitions).globals = definitions.globals)
    (hdefine : ∀ persona, define? persona kind name value =
      some { persona with definitions := f persona.definitions })

/-- The change that an entry makes, seen on a persona that has the definitions and nothing else. -/
def changeBy (enter : Persona → Persona) (definitions : Definitions) : Definitions :=
  (enter { Persona.new 0 with definitions }).definitions

theorem defining (kind name value : Text) : Defining kind name value := by
  have hdefine := fun persona => define?.eq_def persona kind name value
  split at hdefine
  · exact .setGlobal hdefine
  split at hdefine
  · exact .change (changeBy fun persona => persona.setVariable name (some value)) (fun _ => rfl)
      hdefine
  split at hdefine
  · exact .change (changeBy fun persona => persona.setArray name (some value)) (fun _ => rfl)
      hdefine
  split at hdefine
  · exact .change (changeBy fun persona => persona.setSubstitution name (some value))
      (fun _ => rfl) hdefine
  split at hdefine
  · exact .change (changeBy fun persona => persona.setPerson name (some value)) (fun _ => rfl)
      hdefine
  · exact .unknown hdefine

/-! ## Instructions -/

/-- What a directive may ask for. -/
inductive Instruction where
  | keep
  | refuse (version : Number.Double) (hexceeds : version.exceeds supportedVersion)
  | warn (cause : Cause)
  | setLanguage (language : Language)
  | setGlobal (name value : Text)
  | define (f : Definitions → Definitions)
    (hglobals : ∀ definitions, (f definitions).globals = definitions.globals)
  | openTopic (name : Text) (words : List Text)
  | openObject (name : Text) (language : Option Text)
  | leaveTopic
  | openTrigger (pattern : Text) (previous : Option Text)
  | addPart (part : Part) (text : Text)

/-- Carry out an instruction of the line at `place`. -/
def Instruction.run (place : Place) (state : State) : Instruction → Except Problem State
  | .keep => .ok state
  | .refuse version _ => .error (place.problem (.unsupportedVersion version))
  | .warn cause => .ok (state.warn place cause)
  | .setLanguage language => .ok { state with persona := { state.persona with language } }
  | .setGlobal name value =>
    let persona := (state.persona.setGlobal? name (some value)).getD state.persona
    .ok { state with persona }
  | .define f _ =>
    let definitions := f state.persona.definitions
    .ok { state with persona := { state.persona with definitions } }
  | .openTopic name words => .ok (Script.openTopic state name words)
  | .openObject name language => .ok (Script.openObject state place name language)
  | .leaveTopic => .ok { state with topic := defaultTopic, trigger := none }
  | .openTrigger pattern previous => .ok (Script.openTrigger state pattern previous)
  | .addPart part text => .ok (Script.addPart state place part text)

theorem exists_run_readVersion (value : Text) :
    ∃ instruction : Instruction, ∀ place state,
      readVersion state place value = instruction.run place state := by
  unfold readVersion
  cases Number.Double.ofText? value with
  | none => exact ⟨.warn (.invalidVersion value), fun _ _ => rfl⟩
  | some version =>
    dsimp only
    split
    · rename_i hexceeds
      exact ⟨.refuse version hexceeds, fun _ _ => rfl⟩
    · exact ⟨.keep, fun _ _ => rfl⟩

theorem exists_run_readDefinition (text : Text) :
    ∃ instruction : Instruction, ∀ place state,
      readDefinition state place text = instruction.run place state := by
  unfold readDefinition
  obtain ⟨left, value⟩ := definitionSides text
  dsimp only
  obtain ⟨kind, name⟩ := definitionHead left
  dsimp only
  -- the value is of no concern, whether its marks are taken out or not
  generalize (if kind = "array".toList then value
    else Text.replaceAll Definitions.lineMark [] value) = value
  split
  · exact exists_run_readVersion value
  split
  · exact ⟨.setLanguage (Language.ofText value), fun _ _ => rfl⟩
  split
  · exact ⟨.warn (.missingName kind), fun _ _ => rfl⟩
  split
  · exact ⟨.warn (.missingValue kind), fun _ _ => rfl⟩
  cases defining kind name value with
  | unknown hdefine =>
    exact ⟨.warn (.unknownDefinition kind), fun _ state => by rw [hdefine]; rfl⟩
  | setGlobal hdefine => exact ⟨.setGlobal name value, fun _ state => by rw [hdefine]; rfl⟩
  | change f hglobals hdefine => exact ⟨.define f hglobals, fun _ state => by rw [hdefine]; rfl⟩

theorem exists_run_openLabel (text : Text) :
    ∃ instruction : Instruction, ∀ place state,
      .ok (openLabel state place text) = instruction.run place state := by
  unfold openLabel
  dsimp only
  generalize ((Text.words text)[1]?).getD [] = name
  split
  · exact ⟨.openTopic beginTopic ((Text.words text).drop 2), fun _ _ => rfl⟩
  split
  · split
    · exact ⟨.warn (.missingName _), fun _ _ => rfl⟩
    · exact ⟨.openTopic name ((Text.words text).drop 2), fun _ _ => rfl⟩
  split
  · exact ⟨.openObject name (Text.words text)[2]?, fun _ _ => rfl⟩
  · exact ⟨.warn (.unknownLabel _), fun _ _ => rfl⟩

theorem exists_run_closeLabel (text : Text) :
    ∃ instruction : Instruction, ∀ place state,
      .ok (closeLabel state place text) = instruction.run place state := by
  unfold closeLabel
  dsimp only
  split
  · exact ⟨.leaveTopic, fun _ _ => rfl⟩
  split
  · exact ⟨.keep, fun _ _ => rfl⟩
  · exact ⟨.warn (.unknownEndLabel _), fun _ _ => rfl⟩

/-- Every directive is an instruction, the same one in every place and every state. -/
theorem exists_run_readDirective (command : Char) (text : Text) (previous : Option Text) :
    ∃ instruction : Instruction, ∀ place state,
      readDirective state place command text previous = instruction.run place state := by
  unfold readDirective
  split
  · exact exists_run_readDefinition text
  · exact exists_run_openLabel text
  · exact exists_run_closeLabel text
  · exact ⟨.openTrigger text previous, fun _ _ => rfl⟩
  · exact ⟨.addPart .reply text, fun _ _ => rfl⟩
  · exact ⟨.addPart .action text, fun _ _ => rfl⟩
  · exact ⟨.addPart .learn text, fun _ _ => rfl⟩
  · exact ⟨.addPart .redirect text, fun _ _ => rfl⟩
  · exact ⟨.addPart .condition text, fun _ _ => rfl⟩
  · exact ⟨.keep, fun _ _ => rfl⟩
  · exact ⟨.keep, fun _ _ => rfl⟩
  · exact ⟨.warn (.unknownCommand command), fun _ _ => rfl⟩

/-! ## Lines -/

/-- What a line that is not fatal may do to the state. -/
inductive LineStep (collaborators : Collaborators) (place : Place) (state : State) : State → Prop
  | code (object : OpenObject) (hobject : state.object = some object) (line : Text) :
    LineStep collaborators place state
      { state with object := some { object with code := object.code ++ [line] } }
  | close (object : OpenObject) (hobject : state.object = some object) :
    LineStep collaborators place state (closeObject collaborators state object)
  | run (hobject : state.object = none) (inComment : Bool) (instruction : Instruction)
    {next : State} (hrun : instruction.run place { state with inComment } = .ok next) :
    LineStep collaborators place state next

theorem lineStep_of_readLine
    {collaborators : Collaborators} {place : Place} {line : Text} {following : List Text}
    {state next : State}
    (hread : readLine collaborators place line following state = .ok next) :
    LineStep collaborators place state next := by
  unfold readLine at hread
  dsimp only at hread
  split at hread
  · rename_i object hobject
    split at hread
    · obtain rfl := Except.ok.inj hread
      exact .close object hobject
    · obtain rfl := Except.ok.inj hread
      exact .code object hobject _
  · rename_i hobject
    split at hread
    · obtain ⟨instruction, hrun⟩ := exists_run_readDirective _ _ _
      rw [hrun] at hread
      exact .run hobject _ instruction hread
    · exact .run hobject _ .keep hread

end Script

end DialogueScript

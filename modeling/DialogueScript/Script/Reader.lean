import DialogueScript.Collaborator
import DialogueScript.Persona
import DialogueScript.Session
import DialogueScript.Script.Problem

/-!
# Reading scripts

A script is read line by line into a persona.  The first character of a line selects its
directive.  Lines that continue a directive, and the previous reply that a trigger is paired with,
are gathered from the lines that follow it.  The body of an object goes to the handler of its
language as it stands.
-/

namespace DialogueScript.Script

structure Report where
  source : Text
  lines : Nat
  warnings : List Problem
deriving Repr, DecidableEq

/-- An object whose lines are being collected. -/
structure OpenObject where
  name : Text
  language : Text
  line : Nat
  code : List Text
deriving Repr, DecidableEq

structure State where
  persona : Persona
  topic : Text := defaultTopic
  trigger : Option Trigger.Key := none
  inComment : Bool := false
  object : Option OpenObject := none
  warnings : List Problem := []
  requests : List Request := []
deriving Repr, DecidableEq

/-- The topic of the block that opens every turn. -/
def beginTopic : Text := "__begin__".toList

def defaultObjectLanguage : Text := "javascript".toList

/-- Where a line stands: its source and its number. -/
structure Place where
  source : Text
  line : Nat
deriving Repr, DecidableEq

def Place.problem (place : Place) (cause : Cause) : Problem :=
  { source := place.source, line := place.line, cause }

def State.warn (state : State) (place : Place) (cause : Cause) : State :=
  { state with warnings := state.warnings ++ [place.problem cause] }

/-- The text of a directive together with the lines that continue it and, for a trigger, the
previous reply that the first line after these names. -/
def gather (command : Char) (text : Text) : List Text → Text × Option Text
  | [] => (text, none)
  | line :: following =>
    match Text.trim line with
    | [] => gather command text following
    | next :: rest =>
      let body := Text.trim rest
      if body.isEmpty then gather command text following
      else if command = '+' && next = '%' then (text, some body)
      else if next = '^' then
        let text := if command = '!' then text ++ Definitions.lineMark else text
        gather command (text ++ body) following
      else (text, none)

def gatherFor (command : Char) (text : Text) (following : List Text) : Text × Option Text :=
  if command = '^' || command = '%' then (text, none) else gather command text following

/-- The kind and the name on the left of a definition. -/
def definitionHead (left : Text) : Text × Text :=
  let kind := left.takeWhile fun c => !Text.isBlank c
  (kind, Text.lower (Text.trim (left.drop kind.length)))

/-- The two sides of a definition. -/
def definitionSides (text : Text) : Text × Text :=
  match Text.cut? ['='] text with
  | some (left, value) => (Text.trim left, Text.trim value)
  | none => (Text.trim text, [])

def readVersion (state : State) (place : Place) (value : Text) : Except Problem State :=
  match Number.Double.ofText? value with
  | none => .ok (state.warn place (.invalidVersion value))
  | some version =>
    if version.exceeds supportedVersion then .error (place.problem (.unsupportedVersion version))
    else .ok state

/-- Enter a definition of a known kind into the persona. -/
def define? (persona : Persona) (kind name value : Text) : Option Persona :=
  if kind = "global".toList then some ((persona.setGlobal? name (some value)).getD persona)
  else if kind = "var".toList then some (persona.setVariable name (some value))
  else if kind = "array".toList then some (persona.setArray name (some value))
  else if kind = "sub".toList then some (persona.setSubstitution name (some value))
  else if kind = "person".toList then some (persona.setPerson name (some value))
  else none

def readDefinition (state : State) (place : Place) (text : Text) : Except Problem State :=
  let (left, value) := definitionSides text
  let (kind, name) := definitionHead left
  let value :=
    if kind = "array".toList then value else Text.replaceAll Definitions.lineMark [] value
  if kind = "version".toList then readVersion state place value
  else if kind = "language".toList then
    .ok { state with persona := { state.persona with language := Language.ofText value } }
  else if name.isEmpty then .ok (state.warn place (.missingName kind))
  else if value.isEmpty then .ok (state.warn place (.missingValue kind))
  else
    match define? state.persona kind name value with
    | some persona => .ok { state with persona }
    | none => .ok (state.warn place (.unknownDefinition kind))

/-- The relation that the words of a topic label are read under, and the topic with its edges so
far. -/
def addEdges (topic : Topic) : Option Topic.Relation → List Text → Topic
  | _, [] => topic
  | relation, word :: words =>
    if Text.lower word = "includes".toList then addEdges topic (some .includes) words
    else if Text.lower word = "inherits".toList then addEdges topic (some .inherits) words
    else
      match relation with
      | some known => addEdges (topic.addEdge known word) relation words
      | none => addEdges topic relation words

def openTopic (state : State) (name : Text) (words : List Text) : State :=
  let graph := state.persona.graph.modifyTopic name fun topic => addEdges topic none words
  { state with persona := { state.persona with graph }, topic := name, trigger := none }

def openObject (state : State) (place : Place) (name : Text) (language : Option Text) : State :=
  let language := (language.map Text.lower).getD defaultObjectLanguage
  { state with
    trigger := none
    object := some { name, language, line := place.line, code := [] } }

def openLabel (state : State) (place : Place) (text : Text) : State :=
  let words := Text.words text
  let label := Text.lower (words.head?.getD [])
  let name := (words[1]?).getD []
  if label = "begin".toList then openTopic state beginTopic (words.drop 2)
  else if label = "topic".toList then
    if name.isEmpty then state.warn place (.missingName label)
    else openTopic state name (words.drop 2)
  else if label = "object".toList then openObject state place name words[2]?
  else state.warn place (.unknownLabel label)

def closeLabel (state : State) (place : Place) (text : Text) : State :=
  let label := Text.lower (Text.trim text)
  if label = "begin".toList || label = "topic".toList then
    { state with topic := defaultTopic, trigger := none }
  else if label = "object".toList then state
  else state.warn place (.unknownEndLabel label)

/-- Hand a finished object to the handler of its language; without one it is dropped. -/
def closeObject (collaborators : Collaborators) (state : State) (object : OpenObject) : State :=
  let state := { state with object := none }
  match collaborators.handler? object.language with
  | none => state
  | some handler =>
    let objects := state.persona.objects.insert object.name object.language
    { state with
      persona := { state.persona with objects }
      requests := state.requests ++ [.load handler.language object.name object.code] }

def modifyTrigger (state : State) (key : Trigger.Key) (f : Trigger → Trigger) : State :=
  let graph := state.persona.graph.modifyTrigger state.topic key f
  { state with persona := { state.persona with graph } }

def openTrigger (state : State) (pattern : Text) (previous : Option Text) : State :=
  let (state, key) :=
    match previous with
    | some previous =>
      (modifyTrigger state (Trigger.Key.read pattern) fun trigger =>
          { trigger with hasPaired := true },
        Trigger.Key.paired pattern previous)
    | none => (state, Trigger.Key.read pattern)
  { modifyTrigger state key id with trigger := some key }

def Part.add (part : Part) (text : Text) (trigger : Trigger) : Trigger :=
  match part with
  | .reply => { trigger with replies := trigger.replies ++ [text] }
  | .action => { trigger with searches := trigger.searches ++ [text] }
  | .learn => { trigger with learns := true, replies := trigger.replies ++ [text] }
  | .redirect => { trigger with redirects := trigger.redirects ++ [text] }
  | .condition => { trigger with conditions := trigger.conditions ++ [text] }

def addPart (state : State) (place : Place) (part : Part) (text : Text) : State :=
  match state.trigger with
  | none => state.warn place (.outsideTrigger part)
  | some key => modifyTrigger state key (part.add text)

def readDirective (state : State) (place : Place) (command : Char) (text : Text)
    (previous : Option Text) : Except Problem State :=
  match command with
  | '!' => readDefinition state place text
  | '>' => .ok (openLabel state place text)
  | '<' => .ok (closeLabel state place text)
  | '+' => .ok (openTrigger state text previous)
  | '-' => .ok (addPart state place .reply text)
  | '&' => .ok (addPart state place .action text)
  | '=' => .ok (addPart state place .learn text)
  | '@' => .ok (addPart state place .redirect text)
  | '*' => .ok (addPart state place .condition text)
  | '%' | '^' => .ok state
  | command => .ok (state.warn place (.unknownCommand command))

/-- A line outside of objects: what it does to the comment it may stand in, and whether it is
read. -/
def readsLine (inComment : Bool) (line : Text) : Bool × Bool :=
  if Text.beginsWith "/*".toList line then (inComment || !Text.contains "*/".toList line, false)
  else if Text.beginsWith ['/'] line then (inComment, false)
  else if Text.contains "*/".toList line then (false, false)
  else (inComment, !inComment && 2 ≤ line.length)

def endsObject (line : Text) : Bool :=
  Text.beginsWith "<object".toList line || Text.beginsWith "< object".toList line

/-- The mark of a comment at the end of a line. -/
def commentMark : Text := " // ".toList

def readLine (collaborators : Collaborators) (place : Place) (line : Text) (following : List Text)
    (state : State) : Except Problem State :=
  let line := Text.trim line
  match state.object with
  | some object =>
    if endsObject line then .ok (closeObject collaborators state object)
    else .ok { state with object := some { object with code := object.code ++ [line] } }
  | none =>
    let (inComment, isRead) := readsLine state.inComment line
    let state := { state with inComment }
    match isRead, line with
    | true, command :: rest =>
      let text := Text.before commentMark (Text.trim rest)
      let (text, previous) := gatherFor command text following
      readDirective state place command text previous
    | _, _ => .ok state

/-- Read lines from a place on, up to a fatal problem if there is one. -/
def readLines (collaborators : Collaborators) (place : Place) :
    List Text → State → State × Option Problem
  | [], state => (state, none)
  | line :: following, state =>
    match readLine collaborators place line following state with
    | .error problem => (state, some problem)
    | .ok state => readLines collaborators { place with line := place.line + 1 } following state

/-- An object that is still open at the end is a problem of the line that opened it. -/
def finish (source : Text) (state : State) : State :=
  match state.object with
  | none => state
  | some object => state.warn ⟨source, object.line⟩ (.unterminatedObject object.name)

/-- What a script leaves behind: the persona with everything read before a fatal problem, the
requests to handlers, and the report or that problem. -/
structure Reading where
  persona : Persona
  requests : List Request
  result : Except Problem Report

def read (collaborators : Collaborators) (persona : Persona) (source script : Text) : Reading :=
  let lines := Text.lines script
  let (state, fatal) := readLines collaborators ⟨source, 1⟩ lines { persona }
  match fatal with
  | some problem =>
    { persona := state.persona, requests := state.requests, result := .error problem }
  | none =>
    let state := finish source state
    { persona := state.persona
      requests := state.requests
      result := .ok { source, lines := lines.length, warnings := state.warnings } }

end DialogueScript.Script

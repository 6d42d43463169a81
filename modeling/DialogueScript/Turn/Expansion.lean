import DialogueScript.Arithmetic
import DialogueScript.Template
import DialogueScript.Turn.State

/-!
# Expanding a reply

The tags of a reply are expanded kind by kind in a fixed order, each kind over the whole text and
from left to right.  So stars are filled in before a variable is set, all variables are set before
any is read, and what a redirect answers goes through no more than the last kind.
-/

namespace DialogueScript.Turn

def chooseRandom (text : Text) : TurnM Text :=
  replaceTagsM Template.randomTag? (fun body => do
    let options := Text.split (· = '|') body
    let index ← choose options.length fun random => random.choose options.length
    pure ((options[index]?).getD []))
    text

/-- Read the variables of the bot, and the globals. -/
def readPersona (text : Text) : TurnM Text := do
  let persona := (← get).persona
  let variableOf := fun name => (persona.getVariable? name).getD undefined
  let globalOf := fun name => (persona.getGlobal? name).getD undefined
  let text := Text.replaceTags Template.botTag? variableOf text
  pure (Text.replaceTags Template.globalTag? globalOf text)

def runCode (text : Text) : TurnM Text :=
  replaceTagsM Template.codeTag? (fun code => do
    change (.code (Template.codeScript code))
    pure [])
    text

def transform (text : Text) : TurnM Text := do
  pure (Template.transformAll (← get).persona.definitions.persons text)

def setVariables (text : Text) : TurnM Text :=
  replaceTagsM Template.setTag? (fun (name, value) => do
    assign name value
    pure [])
    text

def compute (operation : Arithmetic) (text : Text) : TurnM Text :=
  replaceTagsM operation.tag? (fun (name, value) => do
    match operation.evaluate (← get).session name value with
    | .ok result =>
      assign name (Number.intText result)
      pure []
    | .error failure => pure failure.message)
    text

def readVariables (text : Text) : TurnM Text := do
  let session := (← get).session
  pure (Text.replaceTags Template.getTag? session.get text)

def changeTopic (text : Text) : TurnM Text :=
  replaceTagsM Template.topicTag? (fun topic => do
    assign Session.topicName topic
    pure [])
    text

/-- Answer each redirect in the text as a message of its own. -/
def redirect (answer : Text → TurnM Text) (text : Text) : TurnM Text :=
  replaceTagsM Template.redirectTag? (fun target => do
    let target := (← get).persona.normalize (Text.trim target)
    countRedirect
    answer target)
    text

def objectNotFound : Text := "[ERR: Object Not Found]".toList

def callObject (data : Text) : TurnM Text := do
  let turn ← get
  let words := Text.split (· = ' ') data
  let name := words.head?.getD []
  let arguments := words.drop 1
  match (turn.persona.objects.get? name).bind turn.mind.collaborators.handler? with
  | none => pure objectNotFound
  | some handler =>
    modifyMind fun mind => mind.request (.call handler.language name turn.session.id arguments)
    pure (handler.call name turn.session.id arguments)

def callObjects (text : Text) : TurnM Text :=
  replaceTagsM Template.callTag? callObject text

/-- The assignments and topic changes of a reply: all that the opening reply of a turn may do. -/
def settle (text : Text) : TurnM Text := do
  changeTopic (← setVariables text)

/-- Expand all tags of a text; `answer` replies to the redirects in it. -/
def expand (answer : Text → TurnM Text) (stars : Stars) (text : Text) : TurnM Text := do
  let text := Template.fill (← get).session stars text
  let text ← chooseRandom text
  let text ← readPersona text
  let text ← runCode text
  let text ← transform text
  let text ← setVariables text
  let text ← Arithmetic.all.foldlM (fun text operation => compute operation text) text
  let text ← readVariables text
  let text ← changeTopic text
  let text ← redirect answer text
  callObjects text

end DialogueScript.Turn

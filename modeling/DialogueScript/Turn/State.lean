import DialogueScript.Memory
import DialogueScript.Random.Choice
import DialogueScript.Script.Reader
import DialogueScript.Session

/-!
# The state of a turn

The mind of a bot is what all its users share: the draft of its persona and the live snapshot, the
matchers that are kept for it, the random stream, the long-term memory and the requests made to
collaborators.  A turn changes the mind and the session of one user, and keeps a trace of how the
reply was reached, of what was chosen and assigned on the way, and of what it changed for all users.
-/

namespace DialogueScript

/-- What a reply changes for all users: by code that it contains, or by facts to learn. -/
inductive Change where
  | code (script : Text)
  | facts (facts : List (Text × Text))
deriving Repr, DecidableEq

structure Mind where
  draft : Persona
  live : Snapshot
  cache : Cache := Cache.empty
  random : Random.Stream
  memory : Option Memory := none
  collaborators : Collaborators := {}
  requests : List Request := []

namespace Mind

def new (depth seed : UInt64) : Mind :=
  { draft := Persona.new depth
    live := (Persona.new depth).publish
    random := Random.Stream.ofSeed seed }

def request (mind : Mind) (request : Request) : Mind :=
  { mind with requests := mind.requests ++ [request] }

/-- Make the draft the live snapshot; no matcher is kept for it yet. -/
def publish (mind : Mind) : Mind :=
  { mind with live := mind.draft.publish, cache := Cache.empty }

/-- Change the draft and publish it. -/
def update (mind : Mind) (f : Persona → Persona) : Mind :=
  publish { mind with draft := f mind.draft }

/-- Read a script into the draft. -/
def read (mind : Mind) (source script : Text) : Mind × Except Script.Problem Script.Report :=
  let reading := Script.read mind.collaborators mind.draft source script
  ({ mind with draft := reading.persona, requests := mind.requests ++ reading.requests },
    reading.result)

/-- The source that is named for scripts that come from no file. -/
def streamed : Text := "(streamed)".toList

/-- Change the draft and publish it at once; code is read as far as it can be. -/
def change (mind : Mind) : Change → Mind
  | .code script => (mind.read streamed script).1.publish
  | .facts facts =>
    mind.update fun persona =>
      facts.foldl (fun persona (name, value) => persona.setVariable name (some value)) persona

def find (mind : Mind) (memory : Memory) (query : Text) (tags : List Text) : Mind × Option Text :=
  let found := memory.find? query tags
  (mind.request (.find query tags found), found)

/-- Save a record in the memory, if there is one. -/
def save (mind : Mind) (key content : Text) (tags : List Text) : Mind :=
  match mind.memory with
  | none => mind
  | some memory =>
    { mind.request (.save key content tags) with memory := some (memory.save key content tags) }

end Mind

/-- One step of a turn: the message it looked for in a topic, and the trigger it found. -/
structure Step where
  step : Nat
  topic : Text
  message : Text
  matched : Option Text := none
  owner : Option Text := none
  viaPrevious : Bool := false
  opening : Bool
deriving Repr, DecidableEq

structure Trace where
  steps : List Step := []
  redirects : Nat := 0
  changes : List Change := []
  /-- How many options there were for each random choice. -/
  choices : List Nat := []
  /-- The variables that replies have set, the topic among them. -/
  assignments : List (Text × Text) := []
deriving Repr, DecidableEq

namespace Trace

def deepest (trace : Trace) : Nat :=
  (trace.steps.map (·.step)).foldl max 0

/-- Note a choice; where there are no options, none is made. -/
def noteChoice (trace : Trace) (options : Nat) : Trace :=
  { trace with
    choices := if options = 0 then trace.choices else trace.choices ++ [options] }

/-- The step that answered the message itself. -/
def mainStep? (trace : Trace) : Option Step :=
  trace.steps.find? fun step => !step.opening && step.step = 0

end Trace

structure Turn where
  mind : Mind
  session : Session
  trace : Trace := {}

abbrev TurnM := StateM Turn

namespace Turn

def persona (turn : Turn) : Persona :=
  turn.mind.live.persona

def modifySession (f : Session → Session) : TurnM Unit :=
  modify fun turn => { turn with session := f turn.session }

def modifyMind (f : Mind → Mind) : TurnM Unit :=
  modify fun turn => { turn with mind := f turn.mind }

def record (step : Step) : TurnM Unit :=
  modify fun turn => { turn with trace := { turn.trace with steps := turn.trace.steps ++ [step] } }

def countRedirect : TurnM Unit :=
  modify fun turn =>
    { turn with trace := { turn.trace with redirects := turn.trace.redirects + 1 } }

def change (change : Change) : TurnM Unit :=
  modify fun turn =>
    { turn with
      mind := turn.mind.change change
      trace := { turn.trace with changes := turn.trace.changes ++ [change] } }

/-- Set a variable of the session, as a reply demands. -/
def assign (name value : Text) : TurnM Unit :=
  modify fun turn =>
    { turn with
      session := turn.session.set name value
      trace := { turn.trace with assignments := turn.trace.assignments ++ [(name, value)] } }

/-- Take a choice among some options from the random stream. -/
def choose (options : Nat) (f : Random.Stream → α × Random.Stream) : TurnM α :=
  modifyGet fun turn =>
    let (a, random) := f turn.mind.random
    (a, { turn with
      mind := { turn.mind with random }, trace := turn.trace.noteChoice options })

/-- Replace every tag by what `f` makes of it, from left to right. -/
def replaceTagsM (read? : Text → Option (α × Text)) (f : α → TurnM Text) (text : Text) :
    TurnM Text := do
  let parts ← (Text.pieces read? text).mapM fun
    | .char c => pure [c]
    | .tag a => f a
  pure parts.flatten

end Turn

end DialogueScript

import DialogueScript.Disk
import DialogueScript.Turn.Resolution

/-!
# Bots

A bot loads scripts into the draft of its persona, sorts them to make them live, and answers the
messages of any number of users, each in a session of their own.
-/

namespace DialogueScript

structure Options where
  depth : UInt64 := 50
  historySize : UInt64 := 9
  seed : UInt64
  extensions : List Text := ["rive".toList]
deriving Repr, DecidableEq

structure Bot where
  options : Options
  mind : Mind
  sessions : Table Session := Table.empty

/-- Why scripts could not be loaded, or not be sorted without cutting a cycle. -/
inductive LoadFailure where
  | unreadable (path : Text) (cause : ReadFailure)
  | rejected (problem : Script.Problem)
  | cyclic (cycle : Graph.Cycle)
deriving Repr, DecidableEq

def LoadFailure.message : LoadFailure → Text
  | .unreadable path cause => "cannot read ".toList ++ path ++ ": ".toList ++ cause.message
  | .rejected problem => problem.message
  | .cyclic cycle =>
    "topic ".toList ++ Text.quoted cycle.topic
      ++ " reaches itself through includes/inherits: ".toList ++ Text.join " -> ".toList cycle.path

/-- How a reply was reached. -/
structure Answer where
  reply : Text
  startingTopic : Text
  trace : Trace
deriving Repr, DecidableEq

/-- A topic with its patterns in match order. -/
structure TopicListing where
  name : Text
  includes : List Text
  inherits : List Text
  patterns : List Text
deriving Repr, DecidableEq

namespace Bot

def new (options : Options) (collaborators : Collaborators) (memory : Option Memory) : Bot :=
  { options, mind := { Mind.new options.depth options.seed with collaborators, memory } }

/-! ### Loading -/

def load (bot : Bot) (source script : Text) : Bot × Except Script.Problem Script.Report :=
  let (mind, result) := bot.mind.read source script
  ({ bot with mind }, result)

def stream (bot : Bot) (script : Text) : Bot × Except Script.Problem Script.Report :=
  bot.load Mind.streamed script

def loadFile (bot : Bot) (disk : Disk) (path : Text) : Bot × Except LoadFailure Script.Report :=
  match disk.readText path with
  | .error cause => (bot, .error (.unreadable path cause))
  | .ok script =>
    let (bot, result) := bot.load path script
    (bot, result.mapError LoadFailure.rejected)

/-- Whether a file is a script by its extension. -/
def isScript (bot : Bot) (entry : DirectoryEntry) : Bool :=
  match Disk.extension? entry.name with
  | none => false
  | some extension =>
    entry.isFile
      && bot.options.extensions.any fun wanted =>
        wanted.map Char.toLower = extension.map Char.toLower

/-- Load the scripts of a directory by name; those that cannot be loaded are left out. -/
def loadDirectory (bot : Bot) (disk : Disk) (directory : Text) :
    Bot × Except LoadFailure (List Script.Report) :=
  match disk.list directory with
  | .error cause => (bot, .error (.unreadable directory cause))
  | .ok entries =>
    let names := Text.sortDistinct ((entries.filter bot.isScript).map (·.name))
    let (bot, reports) := names.foldl
      (fun (bot, reports) name =>
        match bot.loadFile disk (Disk.entryPath directory name) with
        | (bot, .ok report) => (bot, reports ++ [report])
        | (bot, .error _) => (bot, reports))
      (bot, [])
    (bot, .ok reports)

/-- Make everything loaded live; a cycle of topics is cut and reported. -/
def sort (bot : Bot) : Bot × Except LoadFailure Unit :=
  let mind := bot.mind.publish
  ({ bot with mind },
    match mind.live.persona.graph.cycles.head? with
    | some cycle => .error (.cyclic cycle)
    | none => .ok ())

/-! ### Conversation -/

def session? (bot : Bot) (user : Text) : Option Session :=
  bot.sessions.get? user

/-- The session of a user, a new one when there is none. -/
def session (bot : Bot) (user : Text) : Session :=
  (bot.session? user).getD (Session.new user bot.options.historySize.toNat)

def setSession (bot : Bot) (user : Text) (session : Session) : Bot :=
  { bot with sessions := bot.sessions.insert user session }

def answer (bot : Bot) (user message : Text) : Bot × Answer :=
  let session := bot.session user
  let (reply, turn) := (Turn.reply message).run { mind := bot.mind, session }
  ({ bot with mind := turn.mind }.setSession user turn.session,
    { reply, startingTopic := session.topic, trace := turn.trace })

/-! ### Definitions -/

def setGlobal (bot : Bot) (name : Text) (value : Option Text) : Bot × Bool :=
  let changed := bot.mind.draft.setGlobal? name value
  ({ bot with mind := bot.mind.update fun persona => changed.getD persona }, changed.isSome)

def setVariable (bot : Bot) (name : Text) (value : Option Text) : Bot :=
  { bot with mind := bot.mind.update fun persona => persona.setVariable name value }

def setSubstitution (bot : Bot) (pattern : Text) (output : Option Text) : Bot :=
  { bot with mind := bot.mind.update fun persona => persona.setSubstitution pattern output }

def setPerson (bot : Bot) (pattern : Text) (output : Option Text) : Bot :=
  { bot with mind := bot.mind.update fun persona => persona.setPerson pattern output }

def getGlobal? (bot : Bot) (name : Text) : Option Text :=
  bot.mind.live.persona.getGlobal? name

def getVariable? (bot : Bot) (name : Text) : Option Text :=
  bot.mind.live.persona.getVariable? name

/-! ### Users -/

def userVariables? (bot : Bot) (user : Text) : Option (Table Text) :=
  (bot.session? user).map (·.values)

def userVariable? (bot : Bot) (user name : Text) : Option Text :=
  (bot.userVariables? user).bind (·.get? name)

def setUserVariable (bot : Bot) (user name : Text) (value : Option Text) : Bot :=
  let session := bot.session user
  bot.setSession user <|
    match value with
    | some value => session.set name value
    | none => session.delete name

def setUserVariables (bot : Bot) (user : Text) (values : Table Text) : Bot :=
  bot.setSession user ((bot.session user).replaceVariables values)

def users (bot : Bot) : List Text :=
  Text.sortDistinct bot.sessions.keys

/-- The pattern that the user's last message matched. -/
def lastMatch? (bot : Bot) (user : Text) : Option Text :=
  (bot.userVariable? user Turn.lastMatchName).filter fun pattern => !pattern.isEmpty

/-! ### Inspection -/

/-- The live topics by name. -/
def topics (bot : Bot) : List TopicListing :=
  let graph := bot.mind.live.persona.graph
  (graph.topics.mergeSort fun a b => Text.le a.name b.name).map fun topic =>
    { name := topic.name
      includes := topic.includes
      inherits := topic.inherits
      patterns := bot.mind.live.order topic.name }

end Bot

end DialogueScript

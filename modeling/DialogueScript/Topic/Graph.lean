import DialogueScript.Topic.Trigger

/-!
# Topics

A topic holds triggers in the order of their declaration, one under each key, and names the topics
that it includes and inherits.  A graph of topics lists them in the order in which they were first
mentioned; an edge may name a topic that does not exist until `link` creates it.
-/

namespace DialogueScript

structure Topic where
  name : Text
  triggers : List Trigger := []
  includes : List Text := []
  inherits : List Text := []
deriving Repr, DecidableEq

namespace Topic

def trigger? (topic : Topic) (key : Trigger.Key) : Option Trigger :=
  topic.triggers.find? fun trigger => trigger.key = key

/-- Change the trigger under a key, which is declared first if there is none. -/
def modifyTrigger (topic : Topic) (key : Trigger.Key) (f : Trigger → Trigger) : Topic :=
  if (topic.trigger? key).isSome then
    { topic with
      triggers := topic.triggers.map fun trigger =>
        if trigger.key = key then f trigger else trigger }
  else { topic with triggers := topic.triggers ++ [f { topic := topic.name, key }] }

inductive Relation where
  | includes
  | inherits
deriving Repr, DecidableEq

/-- The edges of a topic in the order in which they are followed. -/
def edges (topic : Topic) : List (Relation × Text) :=
  topic.includes.map (Relation.includes, ·) ++ topic.inherits.map (Relation.inherits, ·)

def targets (topic : Topic) : List Text :=
  topic.includes ++ topic.inherits

def addEdge (topic : Topic) (relation : Relation) (target : Text) : Topic :=
  match relation with
  | .includes => { topic with includes := topic.includes ++ [target] }
  | .inherits => { topic with inherits := topic.inherits ++ [target] }

/-- The patterns that answer messages whatever the bot said before. -/
def patterns (topic : Topic) : List Text :=
  (topic.triggers.filter Trigger.answersAlone).map fun trigger => trigger.key.pattern

/-- The patterns for previous replies in code point order, each with the patterns paired with it. -/
def previousIndex (topic : Topic) : List (Text × List Text) :=
  let previous := Text.sortDistinct (topic.triggers.filterMap fun trigger => trigger.key.previous)
  previous.map fun previous =>
    (previous, (topic.triggers.filter (·.key.previous = some previous)).map (·.key.pattern))

/-- Both sides of every pair. -/
def pairedPatterns (topic : Topic) : List Text :=
  topic.previousIndex.flatMap fun (previous, patterns) => previous :: patterns

end Topic

structure Graph where
  topics : List Topic
deriving Repr, DecidableEq

namespace Graph

def empty : Graph :=
  ⟨[]⟩

def topic? (graph : Graph) (name : Text) : Option Topic :=
  graph.topics.find? fun topic => topic.name = name

def contains (graph : Graph) (name : Text) : Bool :=
  (graph.topic? name).isSome

/-- Change a topic, which is created first if there is none of that name. -/
def modifyTopic (graph : Graph) (name : Text) (f : Topic → Topic) : Graph :=
  if graph.contains name then
    ⟨graph.topics.map fun topic => if topic.name = name then f topic else topic⟩
  else ⟨graph.topics ++ [f { name }]⟩

def modifyTrigger (graph : Graph) (name : Text) (key : Trigger.Key) (f : Trigger → Trigger) :
    Graph :=
  graph.modifyTopic name fun topic => topic.modifyTrigger key f

/-- Create the topics that edges name and no script declares. -/
def link (graph : Graph) : Graph :=
  (graph.topics.flatMap Topic.targets).foldl (fun graph name => graph.modifyTopic name id) graph

end Graph

end DialogueScript

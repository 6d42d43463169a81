import DialogueScript.Definitions
import DialogueScript.Language
import DialogueScript.Number.Integer
import DialogueScript.Pattern.Expression
import DialogueScript.Topic.Order

/-!
# Personas

A persona is all that scripts declare: topics, definitions, the languages of objects, the bot's
own language and how deep its redirects may nest.  Scripts and callers change a draft; publishing
links its topics and ranks their patterns, and replies read that snapshot until the next one.
-/

namespace DialogueScript

structure Persona where
  graph : Graph
  definitions : Definitions
  /-- The language in which each object is written. -/
  objects : Table Text
  language : Language
  depth : UInt64
deriving Repr, DecidableEq

namespace Persona

def new (depth : UInt64) : Persona :=
  { graph := Graph.empty
    definitions := Definitions.empty
    objects := Table.empty
    language := Language.english
    depth }

/-- The value that undoes a definition. -/
def undefine : Text := "<undef>".toList

/-- A given value, or nothing when the definition is to be undone. -/
def given (value : Option Text) : Option Text :=
  value.filter (· ≠ undefine)

def booleanWords : List Text :=
  ["true".toList, "1".toList, "yes".toList, "false".toList, "0".toList, "no".toList]

/-- Set or remove a global; `depth` has to be a number and `debug` a boolean word. -/
def setGlobal? (persona : Persona) (name : Text) (value : Option Text) : Option Persona :=
  let put := fun (persona : Persona) (globals : Table Text) =>
    { persona with definitions := { persona.definitions with globals } }
  let globals := persona.definitions.globals
  match given value with
  | none => some (put persona (globals.erase name))
  | some value =>
    if name = "depth".toList then
      (Number.word? (Text.trim value)).map fun depth =>
        put { persona with depth := UInt64.ofNat depth } (globals.insert name value)
    else if name = "debug".toList && !booleanWords.contains (Text.lower value) then none
    else some (put persona (globals.insert name value))

def setVariable (persona : Persona) (name : Text) (value : Option Text) : Persona :=
  let values := persona.definitions.values
  let values :=
    match given value with
    | some value => values.insert name value
    | none => values.erase name
  { persona with definitions := { persona.definitions with values } }

def setArray (persona : Persona) (name : Text) (value : Option Text) : Persona :=
  let arrays := persona.definitions.arrays
  let arrays :=
    match given value with
    | some value => arrays.insert name (Definitions.arrayItems value)
    | none => arrays.erase name
  { persona with definitions := { persona.definitions with arrays } }

def substitute (substitutions : Substitutions) (pattern : Text) (output : Option Text) :
    Substitutions :=
  match given output with
  | some output => substitutions.set pattern output
  | none => substitutions.remove pattern

def setSubstitution (persona : Persona) (pattern : Text) (output : Option Text) : Persona :=
  let substitutions := substitute persona.definitions.substitutions pattern output
  { persona with definitions := { persona.definitions with substitutions } }

def setPerson (persona : Persona) (pattern : Text) (output : Option Text) : Persona :=
  let persons := substitute persona.definitions.persons pattern output
  { persona with definitions := { persona.definitions with persons } }

def getVariable? (persona : Persona) (name : Text) : Option Text :=
  persona.definitions.values.get? name

def getGlobal? (persona : Persona) (name : Text) : Option Text :=
  persona.definitions.globals.get? name

/-- The letters whose accents a message may leave out. -/
def unaccented (c : Char) : Char :=
  if c ∈ ['á', 'à', 'ä', 'â'] then 'a'
  else if c ∈ ['é', 'è', 'ë', 'ê'] then 'e'
  else if c ∈ ['í', 'ì', 'ï', 'î'] then 'i'
  else if c ∈ ['ó', 'ò', 'ö', 'ô'] then 'o'
  else if c ∈ ['ú', 'ù', 'ü', 'û'] then 'u'
  else if c = 'ñ' then 'n'
  else if c = 'ç' then 'c'
  else c

/-- The form of a message that patterns are matched against. -/
def normalize (persona : Persona) (message : Text) : Text :=
  Text.trim (persona.definitions.substitutions.apply ((Text.lower message).map unaccented))

end Persona

/-- A published persona, every topic of its graph with its patterns in match order, and every
pattern that matching may try with the segments that it was compiled to, and with its matcher if it
has one for all sessions. -/
structure Snapshot where
  persona : Persona
  orders : Table (List Text)
  compiled : Table (List Segment)
  fixed : Table (Option Matcher)
  fixed_eq : fixed = Pattern.fixAll persona.definitions compiled
deriving Repr, DecidableEq

namespace Persona

def publish (persona : Persona) : Snapshot :=
  let graph := persona.graph.link
  let orders := graph.topics.map fun topic => (topic.name, graph.order topic.name)
  let compiled :=
    Pattern.compile (orders.flatMap (·.2) ++ graph.topics.flatMap Topic.pairedPatterns)
  { persona := { persona with graph }
    orders := ⟨orders⟩
    compiled
    fixed := Pattern.fixAll persona.definitions compiled
    fixed_eq := rfl }

end Persona

namespace Snapshot

def order (snapshot : Snapshot) (topic : Text) : List Text :=
  (snapshot.orders.get? topic).getD []

end Snapshot

end DialogueScript

import DialogueScript.Template
import DialogueScript.Topic.Order
import DialogueScript.Persona

/-!
# Selecting a trigger

A message is first tried on the triggers that are paired with the bot's previous reply, in the
topic and all topics reachable from it, and then on the patterns of the topic in match order.
`select?` says what is selected; `search` selects the same with compiled patterns, and keeps the
matchers that it makes on the way.
-/

namespace DialogueScript

/-- A trigger that accepted a message, under the pattern that did so. -/
structure Selection where
  trigger : Trigger
  pattern : Text
  stars : Stars
  viaPrevious : Bool
deriving Repr, DecidableEq

namespace Snapshot

def scope (snapshot : Snapshot) (session : Session) : Scope :=
  { definitions := snapshot.persona.definitions, session }

/-- The stars of a text that a pattern accepts.  A pattern that publishing did not compile accepts
nothing. -/
def match? (snapshot : Snapshot) (session : Session) (pattern text : Text) : Option (List Text) :=
  (snapshot.compiled.get? pattern).bind fun segments =>
    Pattern.matchSegments? (snapshot.scope session) segments text

/-- The trigger that a topic of the family pairs with its previous reply. -/
def selectPaired? (snapshot : Snapshot) (session : Session) (topic : Topic)
    (lastReply message : Text) : Option Selection :=
  topic.previousIndex.findSome? fun (previous, patterns) =>
    (snapshot.match? session previous lastReply).bind fun previousStars =>
      patterns.findSome? fun pattern =>
        (snapshot.match? session pattern message).bind fun messageStars =>
          (topic.trigger? (Trigger.Key.paired pattern previous)).map fun trigger =>
            { trigger, pattern, viaPrevious := true
              stars := { message := messageStars, previous := previousStars } }

def selectByPrevious? (snapshot : Snapshot) (session : Session) (topic message : Text) :
    Option Selection :=
  let lastReply := Text.trim (snapshot.persona.normalize (session.reply 1))
  (snapshot.persona.graph.family topic).findSome? fun name =>
    (snapshot.persona.graph.topic? name).bind fun topic =>
      snapshot.selectPaired? session topic lastReply message

/-- The trigger that answers for a pattern of a topic: its own, or else an inherited one. -/
def ownerOf? (snapshot : Snapshot) (topic pattern : Text) : Option Trigger :=
  let key := Trigger.Key.read pattern
  ((snapshot.persona.graph.topic? topic).bind fun topic => topic.trigger? key)
    <|> snapshot.persona.graph.inherited? topic key

/-- The first pattern of a topic that accepts the message decides, whether or not a trigger
answers for it. -/
def selectByOrder? (snapshot : Snapshot) (session : Session) (topic message : Text) :
    Option Selection :=
  let accepted := (snapshot.order topic).findSome? fun pattern =>
    (snapshot.match? session pattern message).map fun stars => (pattern, stars)
  accepted.bind fun (pattern, stars) =>
    (snapshot.ownerOf? topic pattern).map fun trigger =>
      { trigger, pattern, viaPrevious := false, stars := { message := stars } }

/-- The trigger for a message in a step of a turn; only the first step looks at the previous
reply. -/
def select? (snapshot : Snapshot) (session : Session) (topic message : Text) (step : Nat) :
    Option Selection :=
  (if step = 0 then snapshot.selectByPrevious? session topic message else none)
    <|> snapshot.selectByOrder? session topic message

/-! ## Searching with compiled patterns -/

/-- The stars of a text that a compiled pattern accepts.  A pattern that reads something of the
session is rendered for it, and its matcher is kept. -/
def tryPattern (snapshot : Snapshot) (session : Session) (pattern text : Text) :
    StateM Cache (Option (List Text)) :=
  match snapshot.compiled.get? pattern with
  | none => pure none
  | some segments =>
    match (snapshot.fixed.get? pattern).join with
    | some matcher => pure (matcher.stars? text)
    | none =>
      if Pattern.isSessionBoundSequence segments then do
        let definitions := snapshot.persona.definitions
        let matcher ← Cache.compile (Expression.render definitions (some session) segments)
        pure (matcher.bind fun matcher => matcher.stars? text)
      else pure none

def searchPaired (snapshot : Snapshot) (session : Session) (topic : Topic)
    (lastReply message : Text) : StateM Cache (Option Selection) :=
  topic.previousIndex.findSomeM? fun (previous, patterns) => do
    match ← snapshot.tryPattern session previous lastReply with
    | none => pure none
    | some previousStars =>
      patterns.findSomeM? fun pattern => do
        let messageStars ← snapshot.tryPattern session pattern message
        pure (messageStars.bind fun messageStars =>
          (topic.trigger? (Trigger.Key.paired pattern previous)).map fun trigger =>
            { trigger, pattern, viaPrevious := true
              stars := { message := messageStars, previous := previousStars } })

def searchByPrevious (snapshot : Snapshot) (session : Session) (topic message : Text) :
    StateM Cache (Option Selection) :=
  let lastReply := Text.trim (snapshot.persona.normalize (session.reply 1))
  (snapshot.persona.graph.family topic).findSomeM? fun name =>
    match snapshot.persona.graph.topic? name with
    | none => pure none
    | some topic => snapshot.searchPaired session topic lastReply message

def searchByOrder (snapshot : Snapshot) (session : Session) (topic message : Text) :
    StateM Cache (Option Selection) := do
  let accepted ← (snapshot.order topic).findSomeM? fun pattern => do
    let stars ← snapshot.tryPattern session pattern message
    pure (stars.map fun stars => (pattern, stars))
  pure (accepted.bind fun (pattern, stars) =>
    (snapshot.ownerOf? topic pattern).map fun trigger =>
      { trigger, pattern, viaPrevious := false, stars := { message := stars } })

def search (snapshot : Snapshot) (session : Session) (topic message : Text) (step : Nat) :
    StateM Cache (Option Selection) := do
  let paired ← if step = 0 then snapshot.searchByPrevious session topic message else pure none
  match paired with
  | some selection => pure (some selection)
  | none => snapshot.searchByOrder session topic message

end Snapshot

end DialogueScript

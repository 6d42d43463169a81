import DialogueScript.Table

/-!
# Sessions

A session is what the bot remembers of one user: variables, among them the topic the user is in,
and the latest messages and replies.  Entry 1 of the history is the latest; what was never set or
is no longer remembered reads as `undefined`.
-/

namespace DialogueScript

def undefined : Text := "undefined".toList

/-- The topic where every session begins. -/
def defaultTopic : Text := "random".toList

structure Session where
  id : Text
  values : Table Text
  inputs : List Text
  replies : List Text
  historySize : Nat
deriving Repr, DecidableEq

namespace Session

def topicName : Text := "topic".toList

def new (id : Text) (historySize : Nat) : Session :=
  { id
    values := Table.empty.insert topicName defaultTopic
    inputs := []
    replies := []
    historySize }

def get (session : Session) (name : Text) : Text :=
  (session.values.get? name).getD undefined

def set (session : Session) (name value : Text) : Session :=
  { session with values := session.values.insert name value }

def topic (session : Session) : Text :=
  session.get topicName

def setTopic (session : Session) (topic : Text) : Session :=
  session.set topicName topic

/-- Forget a variable.  A session is always in a topic, so forgetting the topic returns to the
first. -/
def delete (session : Session) (name : Text) : Session :=
  if name = topicName then session.setTopic defaultTopic
  else { session with values := session.values.erase name }

def replaceVariables (session : Session) (values : Table Text) : Session :=
  let values :=
    if values.contains topicName then values else values.insert topicName defaultTopic
  { session with values }

def entry (history : List Text) : Nat → Text
  | 0 => undefined
  | index + 1 => (history[index]?).getD undefined

def input (session : Session) (index : Nat) : Text :=
  entry session.inputs index

def reply (session : Session) (index : Nat) : Text :=
  entry session.replies index

/-- Remember a finished turn, and forget what is older than the history is long. -/
def push (session : Session) (input reply : Text) : Session :=
  { session with
    inputs := (input :: session.inputs).take session.historySize
    replies := (reply :: session.replies).take session.historySize }

end Session

end DialogueScript

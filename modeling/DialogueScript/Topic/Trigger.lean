import DialogueScript.Text.Basic

/-!
# Triggers

A trigger answers the messages that its pattern accepts.  It may be paired with a pattern for the
bot's previous reply; then it has its own key, apart from the unpaired trigger of the same
pattern.
-/

namespace DialogueScript

/-- What a trigger is declared under.  In writing, the two parts of a paired key stand around a
mark. -/
structure Trigger.Key where
  pattern : Text
  previous : Option Text
deriving Repr, DecidableEq

structure Trigger where
  topic : Text
  key : Trigger.Key
  replies : List Text := []
  redirects : List Text := []
  conditions : List Text := []
  /-- The arguments of its knowledge searches. -/
  searches : List Text := []
  /-- Its first reply is a template of facts to learn. -/
  learns : Bool := false
  /-- A trigger of the same pattern is paired with a previous reply. -/
  hasPaired : Bool := false
deriving Repr, DecidableEq

namespace Trigger

def previousMark : Text := "\x7bprevious\x7d".toList

/-- Read a key as it is written: the first mark in it divides its parts. -/
def Key.read (text : Text) : Key :=
  match Text.cut? previousMark text with
  | some (pattern, previous) => ⟨pattern, some previous⟩
  | none => ⟨text, none⟩

def Key.paired (pattern previous : Text) : Key :=
  Key.read (pattern ++ previousMark ++ previous)

def isEmpty (trigger : Trigger) : Bool :=
  trigger.replies.isEmpty && trigger.redirects.isEmpty && trigger.conditions.isEmpty
    && trigger.searches.isEmpty

/-- It answers messages on its own, whatever the bot said before. -/
def answersAlone (trigger : Trigger) : Bool :=
  trigger.key.previous.isNone && !(trigger.hasPaired && trigger.isEmpty)

end Trigger

end DialogueScript

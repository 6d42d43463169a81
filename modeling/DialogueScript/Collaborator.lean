import DialogueScript.Keywords
import DialogueScript.Language
import DialogueScript.Memory

/-!
# Collaborators

A bot may be given partners: handlers that run objects written in some language, a source of
knowledge, a translator and a way to find keywords.  Every request to one of them, or to the
long-term memory, is recorded in the order of the requests.
-/

namespace DialogueScript

/-- Runs the objects of one language: `call` takes the object, the user and the arguments. -/
structure ObjectHandler where
  language : Text
  call : Text → Text → List Text → Text

structure KnowledgeSource where
  language : Language
  answer? : Text → Option Text

structure Collaborators where
  handlers : List ObjectHandler := []
  knowledge : Option KnowledgeSource := none
  translate : Option (Text → Language → Text) := none
  keywords : Text → List Text := Keywords.ofText

namespace Collaborators

/-- The handler for a language in lower case; one that is registered later replaces an earlier
one. -/
def handler? (collaborators : Collaborators) (language : Text) : Option ObjectHandler :=
  collaborators.handlers.reverse.find? fun handler => Text.lower handler.language = language

def keywordSet (collaborators : Collaborators) (text : Text) : List Text :=
  Keywords.ofList (collaborators.keywords text)

end Collaborators

inductive Request where
  | load (language name : Text) (code : List Text)
  | call (language name user : Text) (arguments : List Text)
  | find (query : Text) (tags : List Text) (found : Option Text)
  | save (key content : Text) (tags : List Text)
  | answer (question : Text)
  | translate (text : Text) (target : Language)
deriving Repr, DecidableEq

end DialogueScript

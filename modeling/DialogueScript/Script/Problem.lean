import DialogueScript.Number.Double
import DialogueScript.Text.Quoted

/-!
# Problems in scripts

A problem is found on one line of a source and has one cause.  Only a version that is too new
stops the reading of a script; any other cause costs its line alone.
-/

namespace DialogueScript.Script

/-- The directives that belong to a trigger. -/
inductive Part where
  | reply
  | action
  | learn
  | redirect
  | condition
deriving Repr, DecidableEq

def Part.word : Part → Text
  | .reply => "reply".toList
  | .action => "action".toList
  | .learn => "learn".toList
  | .redirect => "redirect".toList
  | .condition => "condition".toList

inductive Cause where
  | unsupportedVersion (version : Number.Double)
  | invalidVersion (value : Text)
  | missingName (kind : Text)
  | missingValue (kind : Text)
  | unknownDefinition (kind : Text)
  | outsideTrigger (part : Part)
  | unknownLabel (label : Text)
  | unknownEndLabel (label : Text)
  | unknownCommand (command : Char)
  | unterminatedObject (name : Text)
deriving Repr, DecidableEq

/-- The newest version of the script language that is read. -/
def supportedVersion : Nat := 2

namespace Cause

def isFatal : Cause → Bool
  | .unsupportedVersion _ => true
  | _ => false

def message : Cause → Text
  | .unsupportedVersion version =>
    "cannot parse script version ".toList ++ version.text ++ " (supported up to ".toList
      ++ Number.natText supportedVersion ++ [')']
  | .invalidVersion value =>
    "script version ".toList ++ Text.quoted value ++ " is not a number".toList
  | .missingName kind => "missing a ".toList ++ kind ++ " variable name".toList
  | .missingValue kind => "missing a ".toList ++ kind ++ " value".toList
  | .unknownDefinition kind => "unknown definition type ".toList ++ Text.quoted kind
  | .outsideTrigger part => part.word ++ " found before any trigger".toList
  | .unknownLabel label => "unknown label type ".toList ++ Text.quoted label
  | .unknownEndLabel label => "unknown end label type ".toList ++ Text.quoted label
  | .unknownCommand command => "unrecognized command ".toList ++ Text.quotedChar command
  | .unterminatedObject name => "object ".toList ++ Text.quoted name ++ " is never closed".toList

end Cause

structure Problem where
  source : Text
  line : Nat
  cause : Cause
deriving Repr, DecidableEq

def Problem.message (problem : Problem) : Text :=
  problem.source ++ ':' :: Number.natText problem.line ++ ": ".toList ++ problem.cause.message

end DialogueScript.Script

import DialogueScript.Text.Blank
import DialogueScript.Text.LetterCase

/-!
# Languages

A language is named by a tag, which is the same tag in any letter case.
-/

namespace DialogueScript

structure Language where
  tag : Text
deriving Repr, DecidableEq

namespace Language

def ofText (text : Text) : Language :=
  ⟨Text.lower (Text.trim text)⟩

def english : Language :=
  ⟨"english".toList⟩

end Language

end DialogueScript

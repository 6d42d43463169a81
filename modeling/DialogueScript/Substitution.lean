import DialogueScript.Table
import DialogueScript.Text.Alphanumeric
import DialogueScript.Text.CaseFold

/-!
# Substitutions

A substitution table replaces whole words and phrases.  One pass goes over the text from the left:
at each position the longest pattern that matches there is replaced if it neither begins nor ends
inside a word, and what has been written is not looked at again.
-/

namespace DialogueScript

structure Substitutions where
  table : Table Text
deriving Repr, DecidableEq

namespace Substitutions

def empty : Substitutions :=
  ⟨Table.empty⟩

def set (substitutions : Substitutions) (pattern output : Text) : Substitutions :=
  ⟨substitutions.table.insert (Text.lower pattern) output⟩

def remove (substitutions : Substitutions) (pattern : Text) : Substitutions :=
  ⟨substitutions.table.erase (Text.lower pattern)⟩

/-- The patterns to try at a position, the longest first. -/
def patterns (substitutions : Substitutions) : List Text :=
  (substitutions.table.keys.filter fun pattern => !pattern.isEmpty).mergeSort
    fun s t => t.length ≤ s.length

/-- The first pattern that matches at the front of a text: what it matched, and the rest. -/
def match? (patterns : List Text) (text : Text) : Option (Text × Text) :=
  patterns.findSome? fun pattern => Text.stripCase? pattern text

def onWordBoundary (previous : Option Char) (after : Text) : Bool :=
  !previous.any Text.isAlphanumeric && !after.head?.any Text.isAlphanumeric

/-- The text that follows `previous`, with its first `skip` characters replaced already. -/
def applyAfter (table : Table Text) (patterns : List Text) (previous : Option Char) :
    Nat → Text → Text
  | _, [] => []
  | skip + 1, c :: rest => applyAfter table patterns (some c) skip rest
  | 0, c :: rest =>
    match match? patterns (c :: rest) with
    | none => c :: applyAfter table patterns (some c) 0 rest
    | some (found, after) =>
      if onWordBoundary previous after then
        (table.get? (Text.lower found)).getD found
          ++ applyAfter table patterns (some c) (found.length - 1) rest
      else c :: applyAfter table patterns (some c) 0 rest

def apply (substitutions : Substitutions) (text : Text) : Text :=
  applyAfter substitutions.table substitutions.patterns none 0 text

end Substitutions

end DialogueScript

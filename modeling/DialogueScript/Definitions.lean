import DialogueScript.Substitution
import DialogueScript.Text.Blank

/-!
# Definitions

What a script defines apart from its topics: global settings, variables of the bot, arrays of
alternatives for patterns, and the two substitution tables, one for messages and one for the
change of person in a reply.
-/

namespace DialogueScript

structure Definitions where
  globals : Table Text
  values : Table Text
  arrays : Table (List Text)
  substitutions : Substitutions
  persons : Substitutions
deriving Repr, DecidableEq

namespace Definitions

def empty : Definitions :=
  { globals := Table.empty
    values := Table.empty
    arrays := Table.empty
    substitutions := Substitutions.empty
    persons := Substitutions.empty }

/-- The mark between the lines of a definition that is continued over several. -/
def lineMark : Text := "<crlf>".toList

/-- The items of an array: each line is divided at its bars, or into words when it has none. -/
def arrayItems (value : Text) : List Text :=
  let items := (Text.splitOn lineMark value).flatMap fun line =>
    if '|' ∈ line then (Text.split (· = '|') line).map Text.trim else Text.words line
  items.filter fun item => !item.isEmpty

end Definitions

end DialogueScript

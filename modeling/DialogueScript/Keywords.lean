import DialogueScript.Text.Alphanumeric
import DialogueScript.Text.LetterCase

/-!
# Keywords

The keywords of a text are a set of words, listed in code point order.
-/

namespace DialogueScript.Keywords

/-- A list of words as a set. -/
def ofList (words : List Text) : List Text :=
  Text.sortDistinct words

def shortestWord : Nat := 3

/-- The words of letters and digits in a text, in lower case, short ones left out. -/
def ofText (text : Text) : List Text :=
  let words := Text.split (fun c => !Text.isAlphanumeric c) text
  ofList ((words.filter fun word => shortestWord ≤ word.length).map Text.lower)

end DialogueScript.Keywords

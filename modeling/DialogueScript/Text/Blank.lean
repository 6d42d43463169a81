import DialogueScript.Text.Basic

/-!
# White space

The blank characters of every script, and what follows from them: trimming, words, and the
runs of blanks that a reader may pass over.
-/

namespace DialogueScript.Text

def isBlank (c : Char) : Bool :=
  let n := c.toNat
  (9 ≤ n && n ≤ 13) || n = 0x20 || n = 0x85 || n = 0xA0 || n = 0x1680 || (0x2000 ≤ n && n ≤ 0x200A)
    || n = 0x2028 || n = 0x2029 || n = 0x202F || n = 0x205F || n = 0x3000

def trimStart (text : Text) : Text :=
  text.dropWhile isBlank

def trimEnd (text : Text) : Text :=
  (text.reverse.dropWhile isBlank).reverse

def trim (text : Text) : Text :=
  trimEnd (trimStart text)

/-- The non-empty parts between blanks. -/
def words (text : Text) : List Text :=
  (split isBlank text).filter fun word => !word.isEmpty

end DialogueScript.Text

/-!
# Blocks of code points

A set of characters is given by its blocks, each a first and a last code point.
-/

namespace DialogueScript.Text

def inBlocks (blocks : List (Nat × Nat)) (c : Char) : Bool :=
  blocks.any fun (first, last) => first ≤ c.toNat && c.toNat ≤ last

end DialogueScript.Text

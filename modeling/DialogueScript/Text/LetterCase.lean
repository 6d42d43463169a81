import DialogueScript.Text.Basic
import DialogueScript.Text.Block
import DialogueScript.Text.LetterCaseTable

/-!
# Letter case

Lower and upper case of a text in every script.  A letter may have a case form of several
characters, and a capital sigma is lowered by its place: to the final form when it ends a word,
that is, when a cased letter comes before it and none after it, characters that case ignores left
aside.
-/

namespace DialogueScript.Text

/-- The image of a code point under the runs of a case table, itself when no run covers it. -/
def throughRuns (runs : List (Nat × Nat × Nat × Nat)) (n : Nat) : Nat :=
  let covers := fun ((first, last, step, _) : Nat × Nat × Nat × Nat) =>
    first ≤ n && n ≤ last && (n - first) % step = 0
  match runs.find? covers with
  | some (first, _, _, image) => image + (n - first)
  | none => n

/-- The lower case of a letter that has a single one. -/
def lowerLetter (c : Char) : Char :=
  if c.toNat < 128 then c.toLower else Char.ofNat (throughRuns lowerRuns c.toNat)

/-- The lower case of a letter, apart from its place in a word. -/
def lowerChar (c : Char) : Text :=
  if c = 'İ' then ['i', '\u0307'] else [lowerLetter c]

def upperChar (c : Char) : Text :=
  if c.toNat < 128 then [c.toUpper]
  else
    match upperExpansions.lookup c.toNat with
    | some image => image.map Char.ofNat
    | none => [Char.ofNat (throughRuns upperRuns c.toNat)]

def isCased (c : Char) : Bool :=
  inBlocks casedBlocks c

def isCaseIgnorable (c : Char) : Bool :=
  inBlocks caseIgnorableBlocks c

/-- The first character that case does not ignore is a cased letter. -/
def meetsCased (text : Text) : Bool :=
  match text.dropWhile isCaseIgnorable with
  | [] => false
  | c :: _ => isCased c

/-- Lower case of a text that follows `before`, which is written backwards. -/
def lowerAfter (before : Text) : Text → Text
  | [] => []
  | c :: rest =>
    let image :=
      if c = 'Σ' then
        if meetsCased before && !meetsCased rest then ['ς'] else ['σ']
      else lowerChar c
    image ++ lowerAfter (c :: before) rest

def lower (text : Text) : Text :=
  lowerAfter [] text

def upper (text : Text) : Text :=
  text.flatMap upperChar

/-- The text with its first character in upper case. -/
def capitalize : Text → Text
  | [] => []
  | c :: rest => upperChar c ++ rest

end DialogueScript.Text

import DialogueScript.Text.LetterCase

/-!
# Matching without regard to case

Two characters match when they are case forms of one letter.  A few letters have several lower-case
forms, which match each other: the long and the round `s`, the two sigmas, some Greek symbols and
Cyrillic hands.  The youngest alphabets are matched as they are written.
-/

namespace DialogueScript.Text

/-- The lower-case letters that stand for another one. -/
def variantForms : List (Char × Char) :=
  [('\u00B5', 'μ'), ('ſ', 's'), ('\u0345', 'ι'), ('ς', 'σ'), ('ϐ', 'β'), ('ϑ', 'θ'), ('ϕ', 'φ'),
   ('ϖ', 'π'), ('ϰ', 'κ'), ('ϱ', 'ρ'), ('ϵ', 'ε'), ('ᲀ', 'в'), ('ᲁ', 'д'), ('ᲂ', 'о'), ('ᲃ', 'с'),
   ('ᲄ', 'т'), ('ᲅ', 'т'), ('ᲆ', 'ъ'), ('ᲇ', 'ѣ'), ('ᲈ', 'ꙋ'), ('ẛ', 'ṡ'), ('\u1FBE', 'ι'),
   ('\u1FD3', '\u0390'), ('\u1FE3', '\u03B0'), ('\uFB05', '\uFB06')]

/-- The letters with two cases that match only themselves: ranges of code points, both ends
included. -/
def unpairedLetters : List (Nat × Nat) :=
  [(0xA7CE, 0xA7CF), (0xA7D2, 0xA7D5), (0x16EA0, 0x16EB8), (0x16EBB, 0x16ED3)]

def isUnpaired (c : Char) : Bool :=
  unpairedLetters.any fun (first, last) => first ≤ c.toNat && c.toNat ≤ last

/-- One character for all the case forms of a letter. -/
def caseKey (c : Char) : Char :=
  if c.toNat < 128 then c.toLower
  else if isUnpaired c then c
  else lowerLetter ((variantForms.lookup c).getD c)

def sameLetter (c d : Char) : Bool :=
  caseKey c = caseKey d

/-- The part of a text that matches `lead` at its front without regard to case, and the rest. -/
def stripCase? : Text → Text → Option (Text × Text)
  | [], text => some ([], text)
  | _ :: _, [] => none
  | c :: lead, d :: text =>
    if sameLetter c d then (stripCase? lead text).map fun (front, rest) => (d :: front, rest)
    else none

end DialogueScript.Text

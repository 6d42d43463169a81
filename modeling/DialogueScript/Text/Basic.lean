/-!
# Text

A text is the list of its characters.  This module finds, cuts, splits and replaces parts of a
text.  Tags of every kind are read by a *reader*, a function that reads a value off the front of a
text and returns it with the rest; `pieces` applies a reader at every position from the left, and
text that has been read as a tag is not read again.
-/

namespace DialogueScript

abbrev Text := List Char

namespace Text

/-- The rest of a text after `lead`, when the text begins with `lead`. -/
def strip? : Text → Text → Option Text
  | [], text => some text
  | _ :: _, [] => none
  | c :: lead, d :: text => if c = d then strip? lead text else none

def beginsWith (lead text : Text) : Bool :=
  (strip? lead text).isSome

/-- The parts before and after the first occurrence of `mark`. -/
def cut? (mark : Text) : Text → Option (Text × Text)
  | [] => if mark.isEmpty then some ([], []) else none
  | c :: rest =>
    match strip? mark (c :: rest) with
    | some after => some ([], after)
    | none => (cut? mark rest).map fun (before, after) => (c :: before, after)

def contains (part text : Text) : Bool :=
  (cut? part text).isSome

/-- The part before the first occurrence of `mark`, or the whole text. -/
def before (mark text : Text) : Text :=
  match cut? mark text with
  | some (front, _) => front
  | none => text

/-- A character that begins no tag, or a tag. -/
inductive Piece (α : Type) where
  | char (c : Char)
  | tag (a : α)
deriving Repr, DecidableEq

/-- The pieces of a text whose first `skip` characters belong to a tag that has been read already.
-/
def piecesAfter (read? : Text → Option (α × Text)) : Nat → Text → List (Piece α)
  | _, [] => []
  | skip + 1, _ :: rest => piecesAfter read? skip rest
  | 0, c :: rest =>
    match read? (c :: rest) with
    | some (a, after) => .tag a :: piecesAfter read? (rest.length - after.length) rest
    | none => .char c :: piecesAfter read? 0 rest

def pieces (read? : Text → Option (α × Text)) (text : Text) : List (Piece α) :=
  piecesAfter read? 0 text

/-- Write `f a` in place of every tag `a`. -/
def replaceTags (read? : Text → Option (α × Text)) (f : α → Text) (text : Text) : Text :=
  (pieces read? text).flatMap fun
    | .char c => [c]
    | .tag a => f a

def tags (read? : Text → Option (α × Text)) (text : Text) : List α :=
  (pieces read? text).filterMap fun
    | .char _ => none
    | .tag a => some a

def literal? (word : Text) (text : Text) : Option (Unit × Text) :=
  (strip? word text).map fun rest => ((), rest)

def replaceAll (old new text : Text) : Text :=
  replaceTags (literal? old) (fun _ => new) text

/-- The parts between the characters that satisfy `p`; there is always at least one. -/
def split (p : Char → Bool) : Text → List Text
  | [] => [[]]
  | c :: rest =>
    if p c then [] :: split p rest
    else
      match split p rest with
      | [] => [[c]]
      | part :: parts => (c :: part) :: parts

/-- The parts between the occurrences of `mark`. -/
def splitOn (mark text : Text) : List Text :=
  (pieces (literal? mark) text).foldr
    (fun piece parts =>
      match piece, parts with
      | .tag _, _ => [] :: parts
      | .char c, [] => [[c]]
      | .char c, part :: parts => (c :: part) :: parts)
    [[]]

def join (mark : Text) : List Text → Text
  | [] => []
  | [part] => part
  | part :: parts => part ++ mark ++ join mark parts

/-- The lines of a text; the last one need not be ended. -/
def lines (text : Text) : List Text :=
  let parts := split (· = '\n') text
  if parts.getLast? = some [] then parts.dropLast else parts

/-- Code point order. -/
def le : Text → Text → Bool
  | [], _ => true
  | _ :: _, [] => false
  | c :: s, d :: t => c < d || (c = d && le s t)

def insertSorted (text : Text) : List Text → List Text
  | [] => [text]
  | other :: texts =>
    if text = other then other :: texts
    else if le text other then text :: other :: texts
    else other :: insertSorted text texts

/-- The different texts of a list, in code point order. -/
def sortDistinct (texts : List Text) : List Text :=
  texts.foldl (fun sorted text => insertSorted text sorted) []

end Text

end DialogueScript

import DialogueScript.Definitions
import DialogueScript.Pattern.Segment
import DialogueScript.Session

/-!
# Matching

A pattern accepts a text as a whole.  Matching goes through the pattern twice.  From its end to its
front, `before` marks the places of the text from which a segment, and what comes after it, leads
to the end of the text.  From the front to the end, `way?` then takes for each segment the preferred
of the ways that lead to a marked place: wildcards take as little as they can, blanks around an
optional as much as they can, and alternatives go from left to right.  No way has to be given up
again, so matching takes polynomial time.

The stars of a match are what the wildcards and groups outside of optionals took, from left to
right.
-/

namespace DialogueScript

/-- What the references of a pattern are read from. -/
structure Scope where
  definitions : Definitions
  session : Session

/-- Which places of a text are marked: its front first, then the place after each character. -/
abbrev Marks := List Bool

namespace Marks

/-- Whether the front of the text is marked. -/
def here (marks : Marks) : Bool :=
  marks.headD false

def nowhere (text : Text) : Marks :=
  false :: text.map fun _ => false

def union (marks others : Marks) : Marks :=
  List.zipWith (· || ·) marks others

/-- Only the end of the text. -/
def atEnd (text : Text) : Marks :=
  (text.map fun _ => false) ++ [true]

end Marks

/-- How far a way through a segment leads, and the stars that are taken on it. -/
structure Way where
  stars : List Text := []
  taken : Nat
deriving Repr, DecidableEq

namespace Way

/-- A way followed by another one from where it ends. -/
def andThen (way next : Way) : Way :=
  { stars := way.stars ++ next.stars, taken := way.taken + next.taken }

end Way

namespace Pattern

def isLowerLetterOrSpace (c : Char) : Bool :=
  ('a' ≤ c && c ≤ 'z') || c = ' '

/-- The texts that a literal or a reference stands for; an array without items stands for the empty
text. -/
def words (scope : Scope) : Segment → List Text
  | .literal word => [word]
  | .array name =>
    match scope.definitions.arrays.get? name with
    | none => [[]]
    | some [] => [[]]
    | some items => items.map Text.lower
  | .botVariable name => [Text.lower ((scope.definitions.values.get? name).getD undefined)]
  | .userVariable name => [Text.lower (scope.session.get name)]
  | .input index => [Text.lower (scope.session.input index)]
  | .reply index => [Text.lower (scope.session.reply index)]
  | _ => []

/-! ## From the end to the front -/

/-- The places from which a non-empty run of `p` leads to a marked place. -/
def beforeRun (p : Char → Bool) : Text → Marks → Marks
  | [], _ => [false]
  | c :: rest, marks =>
    let later := beforeRun p rest marks.tail
    (p c && (Marks.here marks.tail || Marks.here later)) :: later

def beforeBlanks (text : Text) (marks : Marks) : Marks :=
  marks.union (beforeRun Text.isBlank text marks)

/-- Whether a word stands at the front of a text and leads to a marked place. -/
def leads (text : Text) (marks : Marks) (word : Text) : Bool :=
  word.isPrefixOf text && Marks.here (marks.drop word.length)

/-- The places from which one of `choices` leads to a marked place. -/
def beforeWords (choices : List Text) : Text → Marks → Marks
  | [], marks => [choices.any (leads [] marks)]
  | c :: rest, marks =>
    choices.any (leads (c :: rest) marks) :: beforeWords choices rest marks.tail

mutual

/-- The places from which a segment leads to a marked place. -/
def before (scope : Scope) : Segment → Text → Marks → Marks
  | .star mayBeEmpty, text, marks =>
    let run := beforeRun Tag.staysOnLine text marks
    if mayBeEmpty then marks.union run else run
  | .number, text, marks => beforeRun Text.isDecimalDigit text marks
  | .alpha, text, marks => beforeRun isLowerLetterOrSpace text marks
  | .optional alternatives, text, marks =>
    let after := beforeBlanks text marks
    after.union (beforeBlanks text (beforeAlternatives scope alternatives text after))
  | .group alternatives, text, marks => beforeAlternatives scope alternatives text marks
  | segment, text, marks => beforeWords (words scope segment) text marks

def beforeSequence (scope : Scope) : List Segment → Text → Marks → Marks
  | [], _, marks => marks
  | segment :: segments, text, marks =>
    before scope segment text (beforeSequence scope segments text marks)

def beforeAlternatives (scope : Scope) : List (List Segment) → Text → Marks → Marks
  | [], text, _ => Marks.nowhere text
  | alternative :: alternatives, text, marks =>
    (beforeSequence scope alternative text marks).union
      (beforeAlternatives scope alternatives text marks)

end

/-! ## From the front to the end -/

mutual

/-- How many stars a segment takes. -/
def starCount : Segment → Nat
  | .star _ => 1
  | .number => 1
  | .alpha => 1
  | .group alternatives => 1 + starCountAlternatives alternatives
  | _ => 0

def starCountSequence : List Segment → Nat
  | [] => 0
  | segment :: segments => starCount segment + starCountSequence segments

def starCountAlternatives : List (List Segment) → Nat
  | [] => 0
  | alternative :: alternatives =>
    starCountSequence alternative + starCountAlternatives alternatives

end

/-- The length of the shortest non-empty run of `p` that leads to a marked place. -/
def shortestRun? (p : Char → Bool) : Text → Marks → Option Nat
  | [], _ => none
  | c :: rest, marks =>
    if p c then
      if Marks.here marks.tail then some 1 else (shortestRun? p rest marks.tail).map (· + 1)
    else none

/-- The largest number of blanks that lead to a marked place. -/
def mostBlanks? : Text → Marks → Option Nat
  | [], marks => if marks.here then some 0 else none
  | c :: rest, marks =>
    let more := if Text.isBlank c then (mostBlanks? rest marks.tail).map (· + 1) else none
    more <|> if marks.here then some 0 else none

def runWay? (p : Char → Bool) (text : Text) (marks : Marks) : Option Way :=
  (shortestRun? p text marks).map fun length =>
    { stars := [text.take length], taken := length }

def blanksWay? (text : Text) (marks : Marks) : Option Way :=
  (mostBlanks? text marks).map fun length => { taken := length }

def wordWay? (choices : List Text) (text : Text) (marks : Marks) : Option Way :=
  (choices.find? (leads text marks)).map fun word => { taken := word.length }

mutual

/-- The preferred way through a segment to a marked place. -/
def way? (scope : Scope) : Segment → Text → Marks → Option Way
  | .star mayBeEmpty, text, marks =>
    if mayBeEmpty && marks.here then some { stars := [[]], taken := 0 }
    else runWay? Tag.staysOnLine text marks
  | .number, text, marks => runWay? Text.isDecimalDigit text marks
  | .alpha, text, marks => runWay? isLowerLetterOrSpace text marks
  | .optional alternatives, text, marks =>
    optionalWay? scope alternatives text marks <|> blanksWay? text marks
  | .group alternatives, text, marks =>
    (groupWay? scope 0 alternatives text marks).map fun way =>
      { way with stars := text.take way.taken :: way.stars }
  | segment, text, marks => wordWay? (words scope segment) text marks

def sequenceWay? (scope : Scope) : List Segment → Text → Marks → Option Way
  | [], _, marks => if marks.here then some { taken := 0 } else none
  | segment :: segments, text, marks => do
    let way ← way? scope segment text (beforeSequence scope segments text marks)
    let next ← sequenceWay? scope segments (text.drop way.taken) (marks.drop way.taken)
    pure (way.andThen next)

/-- A way through one of the alternatives of an optional and the blanks around it; it takes no
stars. -/
def optionalWay? (scope : Scope) : List (List Segment) → Text → Marks → Option Way
  | [], _, _ => none
  | alternative :: alternatives, text, marks =>
    let after := beforeBlanks text marks
    let through := do
      let lead ← mostBlanks? text (beforeSequence scope alternative text after)
      let inside ← sequenceWay? scope alternative (text.drop lead) (after.drop lead)
      let reached := lead + inside.taken
      let trail ← mostBlanks? (text.drop reached) (marks.drop reached)
      pure { taken := reached + trail }
    through <|> optionalWay? scope alternatives text marks

/-- A way through one of the alternatives of a group, after others of which `passed` stars were not
taken; a star that is not taken is empty. -/
def groupWay? (scope : Scope) (passed : Nat) : List (List Segment) → Text → Marks → Option Way
  | [], _, _ => none
  | alternative :: alternatives, text, marks =>
    let missing := List.replicate (starCountAlternatives alternatives) []
    let through := (sequenceWay? scope alternative text marks).map fun way =>
      { way with stars := List.replicate passed [] ++ way.stars ++ missing }
    through <|> groupWay? scope (passed + starCountSequence alternative) alternatives text marks

end

/-! ## Whole patterns -/

/-- The expressions that a part of a pattern is written with: how many stand in sequence, and how
deep the deepest of them is. -/
structure Extent where
  count : Nat
  depth : Nat
deriving Repr, DecidableEq

namespace Extent

def followedBy (extent next : Extent) : Extent :=
  { count := extent.count + next.count, depth := max extent.depth next.depth }

/-- The depth as one expression: a sequence of several is one deeper than they are. -/
def sequenceDepth (extent : Extent) : Nat :=
  if extent.count ≤ 1 then extent.depth else extent.depth + 1

def ofWord (word : Text) : Extent :=
  { count := word.length, depth := 0 }

/-- The blanks on both sides of an alternative: two repetitions. -/
def blanks : Extent :=
  { count := 2, depth := 1 }

/-- Alternatives in brackets; a choice between several is one deeper than they are. -/
def bracketed (alternatives : List Extent) : Extent :=
  let deepest := (alternatives.map sequenceDepth).foldl max 0
  { count := 1, depth := 1 + if alternatives.length ≤ 1 then deepest else deepest + 1 }

end Extent

mutual

def extent (scope : Scope) : Segment → Extent
  | .star _ => { count := 1, depth := 2 }
  | .number => { count := 1, depth := 2 }
  | .alpha => { count := 1, depth := 4 }
  | .optional alternatives =>
    let extents := extentAlternatives scope alternatives
    .bracketed (extents.map Extent.blanks.followedBy ++ [{ count := 1, depth := 1 }])
  | .group alternatives => .bracketed (extentAlternatives scope alternatives)
  | .array name =>
    match scope.definitions.arrays.get? name with
    | none => .ofWord []
    | some items => .bracketed (items.map fun item => .ofWord (Text.lower item))
  | segment => .ofWord ((words scope segment).headD [])

def extentSequence (scope : Scope) : List Segment → Extent
  | [] => .ofWord []
  | segment :: segments => (extent scope segment).followedBy (extentSequence scope segments)

def extentAlternatives (scope : Scope) : List (List Segment) → List Extent
  | [] => []
  | alternative :: alternatives =>
    extentSequence scope alternative :: extentAlternatives scope alternatives

end

def depthLimit : Nat := 250

/-- Whether the expressions of a pattern, in sequence with the two ends of the text, nest too deep:
such a pattern accepts nothing. -/
def tooDeep (scope : Scope) (segments : List Segment) : Bool :=
  depthLimit < 1 + (extentSequence scope segments).depth

/-- The stars of the preferred match of a whole text. -/
def matchSegments? (scope : Scope) (segments : List Segment) (text : Text) : Option (List Text) :=
  if tooDeep scope segments then none
  else (sequenceWay? scope segments text (Marks.atEnd text)).map Way.stars

def match? (scope : Scope) (pattern text : Text) : Option (List Text) :=
  matchSegments? scope (parse pattern) text

end Pattern

end DialogueScript

import DialogueScript.Groups
import DialogueScript.Tag
import DialogueScript.Topic.Walk

/-!
# Match order

The first pattern that accepts a message answers it, so the order of the patterns of a topic is
its whole ranking.  The patterns are put into groups within groups: own patterns before inherited
ones and nearer before farther, then heavier before lighter, then by shape from no wildcard to
nothing but wildcards, then more words before fewer.
-/

namespace DialogueScript

/-- A pattern visible from a topic, with the inheritance level at which it was gathered. -/
structure Candidate where
  level : Option Nat
  pattern : Text
deriving Repr, DecidableEq

namespace Candidate

/-- The text to match: an inheritance tag is no part of it. -/
def text (candidate : Candidate) : Text :=
  Tag.dropInherits candidate.pattern

/-- The level in the order, below every other for a pattern without one.  A tag in the pattern
states a level for a pattern that was gathered at none. -/
def rankLevel (candidate : Candidate) : Int :=
  match candidate.level with
  | some level => level
  | none =>
    match (Text.tags Tag.inherits? candidate.pattern).head? with
    | some digits => ((Number.digits? digits).filter (· < UInt64.size / 2)).elim (-1) Int.ofNat
    | none => -1

end Candidate

namespace Pattern

/-- The weight that the last weight tag gives a pattern. -/
def weight (pattern : Text) : Nat :=
  match (Text.tags Tag.weight? pattern).getLast? with
  | some digits => ((Number.digits? digits).filter (· < UInt32.size)).getD 0
  | none => 0

def separatesWords (c : Char) : Bool :=
  c = ' ' || c = '|' || c = '*' || c = '#' || c = '_'

def wordCount (pattern : Text) : Nat :=
  (Text.split separatesWords pattern).countP fun word => !word.isEmpty

inductive Shape where
  | atomic
  | optional
  | alpha
  | number
  | star
  | bareAlpha
  | bareNumber
  | bareStar
deriving Repr, DecidableEq

/-- The shapes in the order of their patterns. -/
def Shape.all : List Shape :=
  [.atomic, .optional, .alpha, .number, .star, .bareAlpha, .bareNumber, .bareStar]

/-- The shape by the first of `_`, `#`, `*` and `[` that occurs in the pattern. -/
def shape (pattern : Text) : Shape :=
  let bare := wordCount pattern = 0
  if '_' ∈ pattern then if bare then .bareAlpha else .alpha
  else if '#' ∈ pattern then if bare then .bareNumber else .number
  else if '*' ∈ pattern then if bare then .bareStar else .star
  else if '[' ∈ pattern then .optional
  else .atomic

/-- The patterns of one weight: shape by shape, and in each shape those of more words first. -/
def shapeOrder (patterns : List Text) : List Text :=
  Shape.all.flatMap fun bucket =>
    let patterns := patterns.filter fun pattern => shape pattern = bucket
    (Groups.ofList wordCount patterns).descending.flatten

/-- The patterns of one level, the heavier first. -/
def weightOrder (patterns : List Text) : List Text :=
  (Groups.ofList weight patterns).descending.flatMap shapeOrder

end Pattern

/-- The patterns in match order, each at its first place. -/
def matchOrder (candidates : List Candidate) : List Text :=
  let levels := (Groups.ofList Candidate.rankLevel candidates).ascending
  (levels.flatMap fun level => Pattern.weightOrder (level.map Candidate.text)).eraseDups

namespace Graph

def candidates (graph : Graph) (name : Text) : List Candidate :=
  (graph.visits name).flatMap fun
    | .gather topic level => topic.patterns.map fun pattern => ⟨level, pattern⟩
    | .cut _ _ => []

def order (graph : Graph) (name : Text) : List Text :=
  matchOrder (graph.candidates name)

/-- A walk along edges whose last topic occurs in it before. -/
structure Cycle where
  topic : Text
  path : List Text
deriving Repr, DecidableEq

/-- The cycles that the walks from all topics meet, the first one for each topic that they return
to. -/
def cycles (graph : Graph) : List Cycle :=
  let met := graph.topics.flatMap fun topic =>
    (graph.visits topic.name).filterMap fun
      | .gather _ _ => none
      | .cut path name => some { topic := name, path := path ++ [name] : Cycle }
  met.foldl
    (fun found cycle => if found.any (·.topic = cycle.topic) then found else found ++ [cycle])
    []

end Graph

end DialogueScript

import DialogueScript.Table
import DialogueScript.Tag
import DialogueScript.Text.Blank

/-!
# Patterns

A pattern is a sequence of segments: literal text, wildcards, optionals and groups of
alternatives, arrays, and references to variables and to the history.  It is read in two steps:
`tokens` finds the tags and array names, and `read` arranges them by brackets.  A bracket that is
left open is closed by the end of the pattern, and one that nothing opened is literal.
-/

namespace DialogueScript

inductive Segment where
  | literal (text : Text)
  /-- Any characters of one line; at least one, except for the pattern that is a star alone. -/
  | star (mayBeEmpty : Bool)
  | number
  | alpha
  | optional (alternatives : List (List Segment))
  | group (alternatives : List (List Segment))
  | array (name : Text)
  | botVariable (name : Text)
  | userVariable (name : Text)
  | input (index : Nat)
  | reply (index : Nat)
deriving Repr

namespace Segment

mutual

def same : Segment → Segment → Bool
  | .literal s, .literal t => s = t
  | .star s, .star t => s = t
  | .number, .number => true
  | .alpha, .alpha => true
  | .optional s, .optional t => sameAlternatives s t
  | .group s, .group t => sameAlternatives s t
  | .array s, .array t => s = t
  | .botVariable s, .botVariable t => s = t
  | .userVariable s, .userVariable t => s = t
  | .input m, .input n => m = n
  | .reply m, .reply n => m = n
  | _, _ => false

def sameSequence : List Segment → List Segment → Bool
  | [], [] => true
  | segment :: segments, other :: others => same segment other && sameSequence segments others
  | _, _ => false

def sameAlternatives : List (List Segment) → List (List Segment) → Bool
  | [], [] => true
  | sequence :: sequences, other :: others =>
    sameSequence sequence other && sameAlternatives sequences others
  | _, _ => false

end

mutual

theorem same_iff : ∀ s t : Segment, same s t ↔ s = t
  | s, t => by
    cases s <;> cases t <;> simp [same, sameAlternatives_iff]

theorem sameSequence_iff : ∀ s t : List Segment, sameSequence s t ↔ s = t
  | [], t => by cases t <;> simp [sameSequence]
  | _ :: _, t => by cases t <;> simp [sameSequence, same_iff, sameSequence_iff]

theorem sameAlternatives_iff : ∀ s t : List (List Segment), sameAlternatives s t ↔ s = t
  | [], t => by cases t <;> simp [sameAlternatives]
  | _ :: _, t => by cases t <;> simp [sameAlternatives, sameSequence_iff, sameAlternatives_iff]

end

instance : DecidableEq Segment :=
  fun s t => decidable_of_iff (same s t) (same_iff s t)

end Segment

namespace Pattern

/-- A character, or a reference written in several. -/
inductive Token where
  | char (c : Char)
  | reference (segment : Segment)
deriving Repr

/-- The name of an array after its `@`. -/
def arrayName? (text : Text) : Option (Text × Text) :=
  let inName := fun c => Text.isAlphanumeric c || c = '_'
  match text.takeWhile inName with
  | [] => none
  | name => some (name, text.dropWhile inName)

/-- The name of a variable up to the end of its tag. -/
def variableName? (opening text : Text) : Option (Text × Text) := do
  let rest ← Text.strip? opening text
  match rest.takeWhile (· ≠ '>'), rest.dropWhile (· ≠ '>') with
  | [], _ => none
  | _, [] => none
  | name, _ :: rest => some (Text.trim name, rest)

/-- The index of a history tag, 1 when it is left out. -/
def historyIndex? (opening text : Text) : Option (Nat × Text) := do
  let rest ← Text.strip? opening text
  match rest with
  | '>' :: rest => some (1, rest)
  | c :: '>' :: rest => (Number.digits? [c]).map fun index => (index, rest)
  | _ => none

def reference? (text : Text) : Option (Segment × Text) :=
  match text with
  | '@' :: rest => (arrayName? rest).map fun (name, rest) => (.array name, rest)
  | _ =>
    ((variableName? "<bot ".toList text).map fun (name, rest) => (.botVariable name, rest))
      <|> ((variableName? "<get ".toList text).map fun (name, rest) => (.userVariable name, rest))
      <|> ((historyIndex? "<input".toList text).map fun (index, rest) => (.input index, rest))
      <|> ((historyIndex? "<reply".toList text).map fun (index, rest) => (.reply index, rest))

def tokens (text : Text) : List Token :=
  (Text.pieces reference? text).map fun
    | .char c => .char c
    | .tag segment => .reference segment

inductive Bracket where
  | square
  | round
deriving Repr, DecidableEq

def Bracket.closing : Bracket → Char
  | .square => ']'
  | .round => ')'

def Bracket.segment : Bracket → List (List Segment) → Segment
  | .square => .optional
  | .round => .group

/-- An open bracket: its finished alternatives, and the sequence that it interrupts. -/
structure Frame where
  bracket : Bracket
  alternatives : List (List Segment)
  outer : List Segment
deriving Repr

/-- A pattern that is read up to some token: the open brackets, the innermost first, and the
sequence that is being read.  After an optional, blanks are skipped. -/
structure Reading where
  frames : List Frame := []
  sequence : List Segment := []
  skipBlanks : Bool := false
deriving Repr

def pushChar (sequence : List Segment) (c : Char) : List Segment :=
  match sequence.getLast? with
  | some (.literal text) => sequence.dropLast ++ [.literal (text ++ [c])]
  | _ => sequence ++ [.literal [c]]

/-- The sequence without blanks at the end of its last literal. -/
def trimLast (sequence : List Segment) : List Segment :=
  match sequence.getLast? with
  | some (.literal text) =>
    match Text.trimEnd text with
    | [] => sequence.dropLast
    | text => sequence.dropLast ++ [.literal text]
  | _ => sequence

namespace Reading

def push (reading : Reading) (segment : Segment) : Reading :=
  { reading with sequence := reading.sequence ++ [segment] }

/-- End the sequence of the innermost bracket, and that bracket. -/
def close (frame : Frame) (frames : List Frame) (sequence : List Segment) : Reading :=
  { frames
    sequence := frame.outer ++ [frame.bracket.segment (frame.alternatives ++ [sequence])]
    skipBlanks := frame.bracket = .square }

def openBracket (reading : Reading) (bracket : Bracket) : Reading :=
  let outer := if bracket = .square then trimLast reading.sequence else reading.sequence
  { frames := { bracket, alternatives := [], outer } :: reading.frames }

/-- A character that neither divides nor closes a bracket. -/
def plainChar (reading : Reading) (c : Char) : Reading :=
  match c with
  | '*' => reading.push (.star false)
  | '#' => reading.push .number
  | '_' => reading.push .alpha
  | '[' => reading.openBracket .square
  | '(' => reading.openBracket .round
  | c => { reading with sequence := pushChar reading.sequence c }

def char (reading : Reading) (c : Char) : Reading :=
  if reading.skipBlanks && Text.isBlank c then reading
  else
    let reading := { reading with skipBlanks := false }
    match reading.frames with
    | [] => reading.plainChar c
    | frame :: frames =>
      if c = '|' then
        let alternatives := frame.alternatives ++ [reading.sequence]
        { frames := { frame with alternatives } :: frames }
      else if c = frame.bracket.closing then close frame frames reading.sequence
      else reading.plainChar c

def token (reading : Reading) : Token → Reading
  | .char c => reading.char c
  | .reference segment => { reading with skipBlanks := false }.push segment

/-- Close the brackets that are still open. -/
def finish : List Frame → List Segment → List Segment
  | [], sequence => sequence
  | frame :: frames, sequence => finish frames (close frame frames sequence).sequence

end Reading

def read (tokens : List Token) : List Segment :=
  let reading := tokens.foldl Reading.token {}
  Reading.finish reading.frames reading.sequence

def bareStar : Text := ['*']

/-- The segments of a pattern; weight tags are no part of it. -/
def parse (pattern : Text) : List Segment :=
  if Text.trim pattern = bareStar then [.star true] else read (tokens (Tag.dropWeights pattern))

/-- The segments of every pattern of a list, read once each. -/
def compile (patterns : List Text) : Table (List Segment) :=
  ⟨patterns.eraseDups.map fun pattern => (pattern, parse pattern)⟩

end Pattern

end DialogueScript

import DialogueScript.Text.Alphanumeric
import DialogueScript.Number.Integer

/-!
# Tags

The readers of the tags that stand in patterns, replies and conditions.  A body is the shortest
run of at least one character that ends before the closing mark; it stays on its line.
-/

namespace DialogueScript.Tag

def staysOnLine (c : Char) : Bool :=
  c ≠ '\n'

/-- The text up to `closing`, made of `allowed` characters. -/
def upTo? (allowed : Char → Bool) (closing : Text) : Text → Option (Text × Text)
  | [] => none
  | c :: rest =>
    match Text.strip? closing (c :: rest) with
    | some after => some ([], after)
    | none =>
      if allowed c then (upTo? allowed closing rest).map fun (body, after) => (c :: body, after)
      else none

/-- A body: its first character may begin a closing mark, the others may not. -/
def body? (allowed : Char → Bool) (closing : Text) : Text → Option (Text × Text)
  | [] => none
  | c :: rest =>
    if allowed c then (upTo? allowed closing rest).map fun (body, after) => (c :: body, after)
    else none

def enclosed? (opening closing text : Text) : Option (Text × Text) := do
  let rest ← Text.strip? opening text
  body? staysOnLine closing rest

/-- A name and a value with an equals sign between them, in an angle tag. -/
def assignment? (opening text : Text) : Option ((Text × Text) × Text) := do
  let rest ← Text.strip? opening text
  let (name, rest) ← body? staysOnLine ['='] rest
  let (value, rest) ← body? staysOnLine ['>'] rest
  some ((name, value), rest)

/-- The decimal digits between `opening` and `closing`. -/
def numbered? (opening closing text : Text) : Option (Text × Text) := do
  let rest ← Text.strip? opening text
  let digits := rest.takeWhile Text.isDecimalDigit
  if digits.isEmpty then none
  else
    let rest ← Text.strip? closing (rest.dropWhile Text.isDecimalDigit)
    some (digits, rest)

def weight? : Text → Option (Text × Text) :=
  numbered? "\x7bweight=".toList "\x7d".toList

def inherits? : Text → Option (Text × Text) :=
  numbered? "\x7binherits=".toList "\x7d".toList

/-- The text without its weight tags. -/
def dropWeights (text : Text) : Text :=
  Text.replaceTags weight? (fun _ => []) text

def dropInherits (text : Text) : Text :=
  Text.replaceTags inherits? (fun _ => []) text

end DialogueScript.Tag

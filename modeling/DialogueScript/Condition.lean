import DialogueScript.Number.Integer
import DialogueScript.Text.Blank

/-!
# Conditions

A condition compares two sides and names the reply that it stands for when they compare.  Sides are
compared as texts where that decides, otherwise as integers.
-/

namespace DialogueScript

namespace Condition

inductive Operator where
  | equal
  | same
  | startsWith
  | unequal
  | differs
  | diamond
  | less
  | atMost
  | greater
  | atLeast
deriving Repr, DecidableEq

namespace Operator

def spellings : List (Text × Operator) :=
  [("==".toList, .equal), ("eq".toList, .same), ("startsWith".toList, .startsWith),
   ("!=".toList, .unequal), ("ne".toList, .differs), ("<>".toList, .diamond), ("<".toList, .less),
   ("<=".toList, .atMost), (">".toList, .greater), (">=".toList, .atLeast)]

def ofText? (text : Text) : Option Operator :=
  spellings.lookup text

/-- How an operator compares integers; some compare texts only. -/
def compareIntegers (operator : Operator) (a b : Int) : Bool :=
  match operator with
  | .equal => a = b
  | .unequal | .diamond => a ≠ b
  | .less => a < b
  | .atMost => a ≤ b
  | .greater => a > b
  | .atLeast => a ≥ b
  | .same | .differs | .startsWith => false

/-- The integer comparison of two sides that are 64-bit integers but for blanks around them. -/
def compareNumbers (operator : Operator) (left right : Text) : Bool :=
  match Number.integer64? (Text.trim left), Number.integer64? (Text.trim right) with
  | some a, some b => operator.compareIntegers a b
  | _, _ => false

def compare (operator : Operator) (left right : Text) : Bool :=
  match operator with
  | .startsWith => Text.beginsWith right left
  | .equal | .same => left = right || operator.compareNumbers left right
  | .unequal | .differs | .diamond => left ≠ right || operator.compareNumbers left right
  | _ => operator.compareNumbers left right

end Operator

structure Clause where
  left : Text
  operator : Operator
  right : Text
deriving Repr, DecidableEq

/-- An operator between blanks, and the side after it, which ends on its line. -/
def operation? (text : Text) : Option (Operator × Text) := do
  let text := text.dropWhile Text.isBlank
  let word := text.takeWhile fun c => !Text.isBlank c
  let operator ← Operator.ofText? word
  let rest := text.drop word.length
  let right := rest.dropWhile Text.isBlank
  if right.isEmpty || '\n' ∈ right then none else some (operator, right)

/-- The clause whose left side begins with `left`, written backwards; it ends before the first
blanks that an operator follows. -/
def clauseAfter (left : Text) : Text → Option Clause
  | [] => none
  | c :: rest =>
    let found :=
      if !left.isEmpty && Text.isBlank c then operation? (c :: rest) else none
    match found with
    | some (operator, right) => some { left := left.reverse, operator, right }
    | none => if c = '\n' then none else clauseAfter (c :: left) rest

def clause? (text : Text) : Option Clause :=
  clauseAfter [] (Text.trim text)

/-- The mark between a clause and its outcome. -/
def arrow : Text := "=>".toList

/-- The clause and the outcome of a condition as it is written. -/
def read? (condition : Text) : Option (Clause × Text) := do
  let (test, outcome) ← Text.cut? arrow condition
  let clause ← clause? test
  some (clause, Text.trim outcome)

end Condition

end DialogueScript

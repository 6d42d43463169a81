import DialogueScript.Session
import DialogueScript.Tag

/-!
# Arithmetic on variables

A variable of the user is changed by a 64-bit integer.  One that was never set counts as zero.
Whatever has no exact result in 64 bits leaves the variable alone and a note in the reply.
-/

namespace DialogueScript

inductive Arithmetic where
  | add
  | sub
  | mult
  | div
deriving Repr, DecidableEq

namespace Arithmetic

def all : List Arithmetic :=
  [.add, .sub, .mult, .div]

def name : Arithmetic → Text
  | .add => "add".toList
  | .sub => "sub".toList
  | .mult => "mult".toList
  | .div => "div".toList

def tag? (operation : Arithmetic) : Text → Option ((Text × Text) × Text) :=
  Tag.assignment? ('<' :: operation.name ++ [' '])

/-- The exact result; a quotient is rounded toward zero. -/
def result (operation : Arithmetic) (current operand : Int) : Int :=
  match operation with
  | .add => current + operand
  | .sub => current - operand
  | .mult => current * operand
  | .div => current.tdiv operand

inductive Failure where
  | notNumeric (operation : Arithmetic) (name : Text)
  | notNumber (operation : Arithmetic) (operand : Text)
  | divisionByZero
  | outOfRange (operation : Arithmetic) (name : Text)
deriving Repr, DecidableEq

def cannot (operation : Arithmetic) : Text :=
  "[ERR: Can't \"".toList ++ operation.name ++ "\" ".toList

def Failure.message : Failure → Text
  | .notNumeric operation name =>
    operation.cannot ++ "non-numeric variable ".toList ++ name ++ [']']
  | .notNumber operation operand =>
    operation.cannot ++ "non-numeric value ".toList ++ operand ++ [']']
  | .divisionByZero => "[ERR: Can't divide by zero!]".toList
  | .outOfRange operation name => operation.cannot ++ name ++ " out of range]".toList

/-- The value of a variable as a number. -/
def current? (session : Session) (name : Text) : Option Int :=
  if session.get name = undefined then some 0 else Number.integer64? (session.get name)

def evaluate (operation : Arithmetic) (session : Session) (name value : Text) :
    Except Failure Int :=
  match current? session name, Number.integer64? value with
  | none, _ => .error (.notNumeric operation name)
  | some _, none => .error (.notNumber operation value)
  | some current, some operand =>
    if operation = .div && operand = 0 then .error .divisionByZero
    else if Number.fits (operation.result current operand) then
      .ok (operation.result current operand)
    else .error (.outOfRange operation name)

end Arithmetic

end DialogueScript

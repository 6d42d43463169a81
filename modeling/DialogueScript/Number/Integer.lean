import DialogueScript.Text.Basic

/-!
# Whole numbers in text

Numbers are spelled with the digits `0` to `9` and an optional sign, with nothing around them.  The
reading functions take a number of any length; those for 64-bit words refuse what does not fit.
-/

namespace DialogueScript.Number

open DialogueScript

def wordLimit : Nat := UInt64.size

/-- The value of a run of digits, the most significant first. -/
def ofDigits (text : Text) : Nat :=
  text.foldl (fun n c => 10 * n + (c.toNat - '0'.toNat)) 0

def digits? (text : Text) : Option Nat :=
  if !text.isEmpty && text.all Char.isDigit then some (ofDigits text) else none

/-- A natural number, with an optional plus sign. -/
def natural? : Text → Option Nat
  | '+' :: text => digits? text
  | text => digits? text

/-- A natural number that fits an unsigned 64-bit word. -/
def word? (text : Text) : Option Nat :=
  (natural? text).filter (· < wordLimit)

def integer? : Text → Option Int
  | '+' :: text => (digits? text).map Int.ofNat
  | '-' :: text => (digits? text).map fun n => -(Int.ofNat n)
  | text => (digits? text).map Int.ofNat

/-- The integers of a signed 64-bit word, from `-2 ^ 63` to `2 ^ 63 - 1`. -/
def fits (i : Int) : Bool :=
  -9223372036854775808 ≤ i && i ≤ 9223372036854775807

def integer64? (text : Text) : Option Int :=
  (integer? text).filter fits

def natText (n : Nat) : Text :=
  Nat.toDigits 10 n

def intText : Int → Text
  | .ofNat n => natText n
  | .negSucc n => '-' :: natText (n + 1)

end DialogueScript.Number

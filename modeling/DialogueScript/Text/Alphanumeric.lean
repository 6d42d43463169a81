import DialogueScript.Text.Basic
import DialogueScript.Text.Block
import DialogueScript.Text.AlphanumericTable
import DialogueScript.Text.DecimalDigitTable

/-!
# Letters and digits

Alphanumeric characters are the letters and numerals of every script; decimal digits are those
written zero to nine in some script.  Numbers are read from the digits `0` to `9` alone, so a text
of decimal digits need not be a number.
-/

namespace DialogueScript.Text

def isAlphanumeric (c : Char) : Bool :=
  if c.toNat < 128 then c.isAlphanum else inBlocks alphanumericBlocks c

def isDecimalDigit (c : Char) : Bool :=
  if c.toNat < 128 then c.isDigit else inBlocks decimalDigitBlocks c

end DialogueScript.Text

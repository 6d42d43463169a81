import DialogueScript.Text.Basic
import DialogueScript.Text.Block
import DialogueScript.Text.PrintableTable

/-!
# Quoted text

Text in messages stands in double quotes and a single character in single quotes.  The quote that
encloses, the backslash and line breaks are escaped; a character that shows nothing by itself, or
that attaches to the one before it, is written by its code point in hexadecimal.
-/

namespace DialogueScript.Text

def isPrintable (c : Char) : Bool :=
  if c.toNat < 128 then 0x20 ≤ c.toNat && c.toNat < 0x7F else !inBlocks unprintableBlocks c

def isCombining (c : Char) : Bool :=
  !(c.toNat < 128) && inBlocks combiningBlocks c

def codePointEscape (c : Char) : Text :=
  "\\u\x7b".toList ++ Nat.toDigits 16 c.toNat ++ ['}']

def escape (quote c : Char) : Text :=
  if c = '\x00' then ['\\', '0']
  else if c = '\t' then ['\\', 't']
  else if c = '\r' then ['\\', 'r']
  else if c = '\n' then ['\\', 'n']
  else if c = '\\' || c = quote then ['\\', c]
  else if isCombining c || !isPrintable c then codePointEscape c
  else [c]

def quoted (text : Text) : Text :=
  '"' :: text.flatMap (escape '"') ++ ['"']

def quotedChar (c : Char) : Text :=
  '\'' :: escape '\'' c ++ ['\'']

end DialogueScript.Text

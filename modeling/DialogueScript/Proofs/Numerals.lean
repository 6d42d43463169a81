import DialogueScript.Number.Integer
import DialogueScript.Text.Alphanumeric
import Mathlib.Algebra.Group.Int.Defs

/-!
# Numerals

Numbers as they are written in the digits `0` to `9`: what they are read as, with or without the
limits of a word, and that a number reads back as it was written.
-/

namespace DialogueScript

theorem isDecimalDigit_of_isDigit {c : Char} (hdigit : c.isDigit) : Text.isDecimalDigit c := by
  have hascii : c.toNat < 128 := by
    simp only [Char.isDigit, Bool.and_eq_true, decide_eq_true_eq] at hdigit
    have hle : c.toNat ≤ '9'.toNat := hdigit.2
    exact Nat.lt_of_le_of_lt hle (by decide)
  simp [Text.isDecimalDigit, hascii, hdigit]

namespace Number

section Digits

variable {digits : Text} (hsome : digits ≠ []) (hdigits : ∀ c ∈ digits, c.isDigit)

include hsome hdigits

theorem digits?_of_isDigit : digits? digits = some (ofDigits digits) := by
  rw [digits?, if_pos]
  simpa [hsome] using hdigits

/-- A numeral is a word unless its number is too large for one. -/
theorem word?_of_isDigit :
    word? digits = if ofDigits digits < wordLimit then some (ofDigits digits) else none := by
  have hnatural : natural? digits = some (ofDigits digits) := by
    rw [← digits?_of_isDigit hsome hdigits]
    unfold natural?
    split
    · exact absurd (hdigits '+' List.mem_cons_self) (by decide)
    · rfl
  rw [word?, hnatural]
  split <;> simp [Option.filter, *]

end Digits

theorem isDigit_of_mem_natText {n : Nat} {c : Char} (hc : c ∈ natText n) : c.isDigit :=
  Nat.isDigit_of_mem_toDigits (by decide) (by decide) hc

theorem natText_ne_nil (n : Nat) : natText n ≠ [] :=
  Nat.toDigits_ne_nil

theorem ofDigits_natText (n : Nat) : ofDigits (natText n) = n :=
  Nat.ofDigitChars_ten_toDigits

end Number

/-- A natural number as it is written, in the digits `0` to `9`; zeros may stand in front. -/
structure Numeral where
  digits : Text
  ne_nil : digits ≠ []
  isDigit : ∀ c ∈ digits, c.isDigit

namespace Numeral

def value (numeral : Numeral) : Nat :=
  Number.ofDigits numeral.digits

def ofNat (n : Nat) : Numeral where
  digits := Number.natText n
  ne_nil := Number.natText_ne_nil n
  isDigit _ := Number.isDigit_of_mem_natText

theorem value_ofNat (n : Nat) : (ofNat n).value = n :=
  Number.ofDigits_natText n

end Numeral

end DialogueScript

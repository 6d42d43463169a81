import DialogueScript.Condition
import Mathlib.Order.Defs.LinearOrder

/-!
# Comparing two sides

Two sides are equal when they are one text or spell one integer, and unequal when they are not one
text.  So two spellings of one integer are equal and unequal at once, and no other sides are.  The
other comparisons go by the text alone or by the integers alone, and agree with each other.
-/

namespace DialogueScript.Condition

/-- The integer that a side spells, blanks around it left aside. -/
def spelled? (side : Text) : Option Int :=
  Number.integer64? (Text.trim side)

/-- Whether the operator with this spelling holds between two sides. -/
def holds (left spelling right : Text) : Bool :=
  (Operator.ofText? spelling).any fun operator => operator.compare left right

/-- Two texts that spell the same integer. -/
def SpellAlike (a b : Text) : Prop :=
  a ≠ b ∧ ∃ number, spelled? a = some number ∧ spelled? b = some number

namespace Operator

variable {operator : Operator} {a b : Text} {m n : Int}

theorem compareNumbers_of_spelled (ha : spelled? a = some m) (hb : spelled? b = some n) :
    operator.compareNumbers a b = operator.compareIntegers m n := by
  rw [spelled?] at ha hb
  rw [compareNumbers, ha, hb]

theorem exists_spelled_of_compareNumbers (hcompare : operator.compareNumbers a b) :
    ∃ m n, spelled? a = some m ∧ spelled? b = some n ∧ operator.compareIntegers m n := by
  rw [compareNumbers] at hcompare
  split at hcompare
  · rename_i m n ha hb
    exact ⟨m, n, ha, hb, hcompare⟩
  · cases hcompare

theorem compare_equal_iff :
    equal.compare a b ↔ a = b ∨ ∃ number, spelled? a = some number ∧ spelled? b = some number := by
  have hnumbers : equal.compareNumbers a b ↔
      ∃ number, spelled? a = some number ∧ spelled? b = some number := by
    constructor
    · intro hcompare
      obtain ⟨m, n, ha, hb, heq⟩ := exists_spelled_of_compareNumbers hcompare
      obtain rfl : m = n := by simpa [compareIntegers] using heq
      exact ⟨m, ha, hb⟩
    · rintro ⟨number, ha, hb⟩
      simp [compareNumbers_of_spelled ha hb, compareIntegers]
  rw [← hnumbers]
  simp [compare]

theorem compare_same_iff : same.compare a b ↔ a = b := by
  have hnumbers : same.compareNumbers a b = false := by
    rw [compareNumbers]
    split <;> rfl
  simp [compare, hnumbers]

/-- The operators for sides that differ do so as texts: where the texts are one, so is the integer.
-/
theorem compare_iff_ne (hoperator : operator ∈ [unequal, differs, diamond]) :
    operator.compare a b ↔ a ≠ b := by
  have hcompare : operator.compare a b = (decide (a ≠ b) || operator.compareNumbers a b) := by
    simp only [List.mem_cons, List.not_mem_nil, or_false] at hoperator
    rcases hoperator with rfl | rfl | rfl <;> rfl
  have hnever : ∀ number, operator.compareIntegers number number = false := by
    simp only [List.mem_cons, List.not_mem_nil, or_false] at hoperator
    rcases hoperator with rfl | rfl | rfl <;> simp [compareIntegers]
  rw [hcompare, Bool.or_eq_true, decide_eq_true_eq, or_iff_left_iff_imp]
  rintro hnumbers rfl
  obtain ⟨m, n, ha, hb, hdiffer⟩ := exists_spelled_of_compareNumbers hnumbers
  obtain rfl : m = n := Option.some.inj (ha.symm.trans hb)
  rw [hnever] at hdiffer
  cases hdiffer

/-- An order between two integers is that of the integers. -/
theorem compare_of_spelled (ha : spelled? a = some m) (hb : spelled? b = some n) :
    (less.compare a b ↔ m < n) ∧ (equal.compare a b ↔ m = n) ∧ (greater.compare a b ↔ n < m) ∧
      (atMost.compare a b ↔ m ≤ n) ∧ (atLeast.compare a b ↔ n ≤ m) := by
  have horder : ∀ operator ∈ [less, greater, atMost, atLeast],
      operator.compare a b = operator.compareIntegers m n := by
    intro operator hoperator
    rw [← compareNumbers_of_spelled ha hb]
    simp only [List.mem_cons, List.not_mem_nil, or_false] at hoperator
    rcases hoperator with rfl | rfl | rfl | rfl <;> rfl
  have hequal : equal.compare a b ↔ m = n := by
    rw [compare_equal_iff]
    constructor
    · rintro (rfl | ⟨number, hnumber, hother⟩)
      · exact Option.some.inj (ha.symm.trans hb)
      · rw [ha] at hnumber
        rw [hb] at hother
        exact Option.some.inj (hnumber.trans hother.symm)
    · rintro rfl
      exact .inr ⟨m, ha, hb⟩
  refine ⟨?_, hequal, ?_, ?_, ?_⟩ <;> rw [horder _ (by decide)] <;> simp [compareIntegers]

end Operator

/-- `!=` and `<>` hold exactly where `==` does not, unless the sides are two spellings of one
integer: then all three hold.  `ne` holds exactly where `eq` does not.  Of `<`, `==` and `>`,
exactly one holds between two integers, and `<=` and `>=` join two of them. -/
theorem comparisons_cohere_iff_not_spelled_alike (a b : Text) :
    (∀ unequal ∈ ["!=".toList, "<>".toList],
      ((holds a unequal b ↔ ¬ holds a "==".toList b) ↔ ¬ SpellAlike a b) ∧
      (holds a unequal b ∨ holds a "==".toList b)) ∧
    (holds a "ne".toList b ↔ ¬ holds a "eq".toList b) ∧
    ∀ m n, spelled? a = some m → spelled? b = some n →
      (holds a "<".toList b ∧ ¬ holds a "==".toList b ∧ ¬ holds a ">".toList b ∨
        ¬ holds a "<".toList b ∧ holds a "==".toList b ∧ ¬ holds a ">".toList b ∨
        ¬ holds a "<".toList b ∧ ¬ holds a "==".toList b ∧ holds a ">".toList b) ∧
      (holds a "<=".toList b ↔ holds a "<".toList b ∨ holds a "==".toList b) ∧
      (holds a ">=".toList b ↔ holds a ">".toList b ∨ holds a "==".toList b) := by
  have hequal : holds a "==".toList b ↔
      a = b ∨ ∃ number, spelled? a = some number ∧ spelled? b = some number :=
    Operator.compare_equal_iff
  have hunequal : ∀ unequal ∈ ["!=".toList, "<>".toList], (holds a unequal b ↔ a ≠ b) := by
    rw [List.forall_mem_cons, List.forall_mem_singleton]
    exact ⟨@Operator.compare_iff_ne .unequal a b (by decide),
      @Operator.compare_iff_ne .diamond a b (by decide)⟩
  have hdiffers : holds a "ne".toList b ↔ a ≠ b :=
    @Operator.compare_iff_ne .differs a b (by decide)
  have hsame : holds a "eq".toList b ↔ a = b := Operator.compare_same_iff
  refine ⟨fun unequal hmem => ?_, ?_, fun m n ha hb => ?_⟩
  · rw [hunequal unequal hmem, hequal, SpellAlike]
    by_cases heq : a = b <;> simp [heq]
  · rw [hdiffers, hsame]
  · obtain ⟨hless, hequal, hgreater, hatMost, hatLeast⟩ := Operator.compare_of_spelled ha hb
    have hless : holds a "<".toList b ↔ m < n := hless
    have hequal : holds a "==".toList b ↔ m = n := hequal
    have hgreater : holds a ">".toList b ↔ n < m := hgreater
    have hatMost : holds a "<=".toList b ↔ m ≤ n := hatMost
    have hatLeast : holds a ">=".toList b ↔ n ≤ m := hatLeast
    rw [hless, hequal, hgreater, hatMost, hatLeast]
    omega

/-- Two spellings of five are equal, and they are unequal as well. -/
theorem spellings_of_five_are_equal_and_unequal :
    holds "05".toList "==".toList "5".toList ∧ holds "05".toList "!=".toList "5".toList ∧
      holds "05".toList "<>".toList "5".toList := by
  decide

end DialogueScript.Condition

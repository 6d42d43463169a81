import DialogueScript.Text.Blank
import Mathlib.Data.List.DropRight

/-!
# Trimmed texts

Trimming takes all white space off both ends of a text, so white space that is added at an end does
not change what is left, and nothing is left to take off a second time.
-/

namespace DialogueScript.Text

theorem trim_trim (text : Text) : trim (trim text) = trim text := by
  have hstart : trimStart (trim text) = trim text := by
    have hlead : trim text <+: trimStart text := List.rdropWhile_prefix isBlank (trimStart text)
    rw [trimStart, List.dropWhile_eq_self_iff]
    intro hlength
    have hfront : trimStart (trimStart text) = trimStart text := List.dropWhile_idempotent ..
    rw [trimStart, List.dropWhile_eq_self_iff] at hfront
    rw [hlead.getElem hlength]
    exact hfront (hlength.trans_le hlead.length_le)
  rw [trim, hstart]
  exact List.rdropWhile_idempotent ..

theorem trim_cons_of_isBlank {c : Char} (hblank : isBlank c) (text : Text) :
    trim (c :: text) = trim text := by
  rw [trim, trim, trimStart, List.dropWhile_cons_of_pos hblank, trimStart]

theorem trimEnd_concat_of_isBlank {c : Char} (hblank : isBlank c) (text : Text) :
    trimEnd (text ++ [c]) = trimEnd text :=
  List.rdropWhile_concat_pos isBlank text c hblank

theorem trim_concat_of_isBlank {c : Char} (hblank : isBlank c) (text : Text) :
    trim (text ++ [c]) = trim text := by
  induction text with
  | nil => exact trim_cons_of_isBlank hblank []
  | cons d text ih =>
    by_cases hlead : isBlank d
    · rw [List.cons_append, trim_cons_of_isBlank hlead, trim_cons_of_isBlank hlead, ih]
    · have hfront : ∀ rest, trimStart (d :: rest) = d :: rest :=
        fun rest => List.dropWhile_cons_of_neg hlead
      rw [List.cons_append, trim, trim, hfront, hfront, ← List.cons_append,
        trimEnd_concat_of_isBlank hblank]

theorem trim_eq_self_iff {text : Text} :
    trim text = text ↔
      (∀ c ∈ text.head?, ¬ isBlank c) ∧ ∀ c ∈ text.getLast?, ¬ isBlank c := by
  have hstart : trimStart text = text ↔ ∀ c ∈ text.head?, ¬ isBlank c := by
    cases text with
    | nil => simp [trimStart]
    | cons c text => simp [trimStart, List.dropWhile_eq_self_iff]
  have hend : trimEnd text = text ↔ ∀ c ∈ text.getLast?, ¬ isBlank c := by
    rw [show trimEnd text = text.rdropWhile isBlank from rfl, List.rdropWhile_eq_self_iff]
    refine ⟨fun hlast c hc => ?_, fun hlast hne => hlast _ (List.getLast?_eq_some_getLast hne)⟩
    have hne : text ≠ [] := by
      rintro rfl
      cases hc
    rw [List.getLast?_eq_some_getLast hne] at hc
    exact Option.some.inj hc ▸ hlast hne
  constructor
  · intro htrim
    -- a text that loses nothing at both ends loses nothing at either
    have hlength := congrArg List.length htrim
    have hfront : (trimStart text).length ≤ text.length := (List.dropWhile_suffix _).length_le
    have hback : trim text <+: trimStart text := List.rdropWhile_prefix isBlank (trimStart text)
    have hkept : trimStart text = text :=
      (List.dropWhile_suffix _).eq_of_length (Nat.le_antisymm hfront (hlength ▸ hback.length_le))
    rw [trim, hkept] at htrim
    exact ⟨hstart.mp hkept, hend.mp htrim⟩
  · rintro ⟨hfront, hback⟩
    rw [trim, hstart.mpr hfront, hend.mpr hback]

/-- What is taken off is white space. -/
theorem exists_eq_append_trim (text : Text) :
    ∃ front back, text = front ++ trim text ++ back ∧ (∀ c ∈ front, isBlank c) ∧
      ∀ c ∈ back, isBlank c := by
  refine ⟨text.takeWhile isBlank, (trimStart text).rtakeWhile isBlank, ?_,
    fun _ => List.mem_takeWhile_imp, fun _ => List.mem_rtakeWhile_imp⟩
  have hend : trim text ++ (trimStart text).rtakeWhile isBlank = trimStart text :=
    List.rdropWhile_append_rtakeWhile
  rw [List.append_assoc, hend]
  exact List.takeWhile_append_dropWhile.symm

end DialogueScript.Text

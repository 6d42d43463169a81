import DialogueScript.Text.LetterCase
import Mathlib.Data.List.Basic

/-!
# Texts in lower case

A text is its own lower case when each of its characters is, since no capital sigma stands for
itself.  Every letter of a lower case is its own: the runs of the case table lead to code points that
no run covers.
-/

namespace DialogueScript.Text

theorem lowerAfter_eq_self_iff (before text : Text) :
    lowerAfter before text = text ↔ ∀ c ∈ text, lowerChar c = [c] := by
  induction text generalizing before with
  | nil => simp [lowerAfter]
  | cons c rest ih =>
    rw [lowerAfter, List.forall_mem_cons, ← ih (c :: before)]
    by_cases hsigma : c = 'Σ'
    · have hlower : lowerChar 'Σ' ≠ ['Σ'] := by
        decide +kernel
      subst hsigma
      simp only [if_true, hlower, false_and, iff_false]
      split <;> simp
    · by_cases hdotted : c = 'İ'
      · subst hdotted
        simp [lowerChar]
      · simp [hsigma, lowerChar, hdotted]

theorem lower_eq_self_iff {text : Text} : lower text = text ↔ ∀ c ∈ text, lowerChar c = [c] :=
  lowerAfter_eq_self_iff [] text

/-- A run of a case table covers a code point. -/
structure Covers (run : Nat × Nat × Nat × Nat) (n : Nat) : Prop where
  first_le : run.1 ≤ n
  le_last : n ≤ run.2.1
  on_step : (n - run.1) % run.2.2.1 = 0

def runImage (run : Nat × Nat × Nat × Nat) (n : Nat) : Nat :=
  run.2.2.2 + (n - run.1)

theorem throughRuns_cases (runs : List (Nat × Nat × Nat × Nat)) (n : Nat) :
    throughRuns runs n = n ∨
      ∃ run ∈ runs, Covers run n ∧ throughRuns runs n = runImage run n := by
  unfold throughRuns
  dsimp only
  split
  · rename_i first last step image hfound
    have hcovers := List.find?_some hfound
    simp only [Bool.and_eq_true, decide_eq_true_eq] at hcovers
    exact .inr ⟨_, List.mem_of_find?_eq_some hfound,
      ⟨hcovers.1.1, hcovers.1.2, hcovers.2⟩, rfl⟩
  · exact .inl rfl

theorem lowerChar_of_throughRuns
    {c : Char} (hlarge : 128 ≤ c.toNat) (hdotted : c ≠ 'İ')
    (hsame : throughRuns lowerRuns c.toNat = c.toNat) : lowerChar c = [c] := by
  rw [lowerChar, if_neg hdotted, lowerLetter, if_neg (Nat.not_lt.mpr hlarge), hsame,
    Char.ofNat_toNat]

section Runs

variable {run : Nat × Nat × Nat × Nat} (hrun : run ∈ lowerRuns) {n : Nat} (hcovers : Covers run n)

include hrun hcovers

/-- The images of a run lie apart from all runs: behind or before them, or between their steps. -/
theorem throughRuns_runImage : throughRuns lowerRuns (runImage run n) = runImage run n := by
  have hapart : lowerRuns.all fun run => lowerRuns.all fun other =>
      run.2.2.2 + (run.2.1 - run.1) < other.1 || other.2.1 < run.2.2.2 ||
        (other.2.2.1 = 2 && (run.2.2.2 + other.1) % 2 = 1 &&
          (run.2.2.1 = 2 || run.2.1 = run.1)) := by
    decide +kernel
  simp only [List.all_eq_true, Bool.or_eq_true, Bool.and_eq_true, decide_eq_true_eq] at hapart
  rcases throughRuns_cases lowerRuns (runImage run n) with hsame | ⟨other, hother, hother_covers, -⟩
  · exact hsame
  · obtain ⟨hfirst, hlast, hstep⟩ := hcovers
    obtain ⟨hfirst', hlast', hstep'⟩ := hother_covers
    unfold runImage at hfirst' hlast' hstep'
    rcases hapart _ hrun _ hother with (hbehind | hbefore) | ⟨⟨htwo, hodd⟩, heven⟩
    · omega
    · omega
    · rw [htwo] at hstep'
      rcases heven with heven | hsingle
      · rw [heven] at hstep
        omega
      · omega

theorem lowerChar_runImage :
    lowerChar (Char.ofNat (runImage run n)) = [Char.ofNat (runImage run n)] := by
  have himages : ∀ run ∈ lowerRuns,
      (128 ≤ run.2.2.2 ∨ run.2.2.2 = 'k'.toNat ∧ run.2.1 = run.1) ∧
        (run.2.2.2 + (run.2.1 - run.1) < 'İ'.toNat ∨ 'İ'.toNat < run.2.2.2) := by
    decide +kernel
  obtain ⟨hascii, hdotted⟩ := himages _ hrun
  have hsame := throughRuns_runImage hrun hcovers
  obtain ⟨hfirst, hlast, -⟩ := hcovers
  by_cases hvalid : (runImage run n).isValidChar
  · have hcode : (Char.ofNat (runImage run n)).toNat = runImage run n := by
      rw [Char.ofNat, dif_pos hvalid]
      rfl
    rcases hascii with hlarge | ⟨hkelvin, hsingle⟩
    · refine lowerChar_of_throughRuns ?_ (fun heq => ?_) (by rw [hcode, hsame])
      · rw [hcode, runImage]
        omega
      · rw [heq, runImage] at hcode
        omega
    · have himage : runImage run n = 'k'.toNat := by
        rw [runImage]
        omega
      rw [himage]
      decide
  · rw [Char.ofNat, dif_neg hvalid]
    decide

end Runs

/-- Lower case is reached in one step. -/
theorem lowerChar_of_mem_lowerChar {c d : Char} (hmem : d ∈ lowerChar c) : lowerChar d = [d] := by
  by_cases hdotted : c = 'İ'
  · have himages : (lowerChar 'İ').all fun d => lowerChar d = [d] := by
      decide +kernel
    exact of_decide_eq_true (List.all_eq_true.mp himages d (hdotted ▸ hmem))
  · obtain rfl : d = lowerLetter c := by simpa [lowerChar, hdotted] using hmem
    by_cases hascii : c.toNat < 128
    · have hletters : ∀ n < 128, lowerChar (Char.ofNat n).toLower = [(Char.ofNat n).toLower] := by
        decide +kernel
      rw [lowerLetter, if_pos hascii, ← Char.ofNat_toNat c]
      exact hletters c.toNat hascii
    · rw [lowerLetter, if_neg hascii]
      rcases throughRuns_cases lowerRuns c.toNat with hsame | ⟨run, hrun, hcovers, himage⟩
      · rw [hsame, Char.ofNat_toNat]
        exact lowerChar_of_throughRuns (Nat.not_lt.mp hascii) hdotted hsame
      · rw [himage]
        exact lowerChar_runImage hrun hcovers

theorem lowerChar_of_mem_lowerAfter
    {before text : Text} {c : Char} (hmem : c ∈ lowerAfter before text) : lowerChar c = [c] := by
  induction text generalizing before with
  | nil => cases hmem
  | cons d rest ih =>
    rw [lowerAfter, List.mem_append] at hmem
    rcases hmem with hfirst | hrest
    · split at hfirst
      · have hsigmas : lowerChar 'ς' = ['ς'] ∧ lowerChar 'σ' = ['σ'] := by
          decide +kernel
        split at hfirst
        · rw [List.mem_singleton.mp hfirst, hsigmas.1]
        · rw [List.mem_singleton.mp hfirst, hsigmas.2]
      · exact lowerChar_of_mem_lowerChar hfirst
    · exact ih hrest

end DialogueScript.Text

import DialogueScript.Text.Basic
import Mathlib.Data.Char
import Mathlib.Data.List.Nodup
import Mathlib.Order.Basic

/-!
# Texts in order

The order of texts is total, and the different texts of a list stand in it without repetition.
-/

namespace DialogueScript.Text

theorem le_total (s t : Text) : le s t ∨ le t s := by
  induction s generalizing t with
  | nil => exact .inl rfl
  | cons c s ih =>
    cases t with
    | nil => exact .inr rfl
    | cons d t =>
      rcases lt_trichotomy c d with hlt | rfl | hlt
      · simp [le, hlt]
      · simpa [le] using ih t
      · simp [le, hlt]

theorem le_trans {s t u : Text} (hfirst : le s t) (hsecond : le t u) : le s u := by
  induction s generalizing t u with
  | nil => rfl
  | cons c s ih =>
    cases t with
    | nil => cases hfirst
    | cons d t =>
      cases u with
      | nil => cases hsecond
      | cons e u =>
        simp only [le, Bool.or_eq_true, decide_eq_true_eq, Bool.and_eq_true] at hfirst hsecond ⊢
        rcases hfirst with hlt | ⟨rfl, hfirst⟩
        · rcases hsecond with hnext | ⟨rfl, -⟩
          · exact .inl (hlt.trans hnext)
          · exact .inl hlt
        · rcases hsecond with hnext | ⟨rfl, hsecond⟩
          · exact .inl hnext
          · exact .inr ⟨rfl, ih hfirst hsecond⟩

theorem le_antisymm {s t : Text} (hle : le s t) (hge : le t s) : s = t := by
  induction s generalizing t with
  | nil =>
    cases t with
    | nil => rfl
    | cons d t => cases hge
  | cons c s ih =>
    cases t with
    | nil => cases hle
    | cons d t =>
      simp only [le, Bool.or_eq_true, decide_eq_true_eq, Bool.and_eq_true] at hle hge
      rcases hle with hlt | ⟨rfl, hle⟩
      · rcases hge with hgt | ⟨rfl, -⟩
        · exact absurd hgt hlt.asymm
        · exact absurd hlt (lt_irrefl _)
      · rcases hge with hgt | ⟨-, hge⟩
        · exact absurd hgt (lt_irrefl _)
        · rw [ih hle hge]

/-! ## Different texts -/

theorem mem_insertSorted {text other : Text} {texts : List Text} :
    other ∈ insertSorted text texts ↔ other = text ∨ other ∈ texts := by
  induction texts with
  | nil => simp [insertSorted]
  | cons first texts ih =>
    unfold insertSorted
    split
    · rename_i heq
      simp [heq]
    · split
      · simp
      · simp [ih, or_left_comm]

theorem mem_sortDistinct {text : Text} {texts : List Text} :
    text ∈ sortDistinct texts ↔ text ∈ texts := by
  have hfold : ∀ sorted, text ∈ texts.foldl (fun sorted text => insertSorted text sorted) sorted ↔
      text ∈ sorted ∨ text ∈ texts := by
    induction texts with
    | nil => simp
    | cons first texts ih =>
      intro sorted
      rw [List.foldl_cons, ih, mem_insertSorted, List.mem_cons, or_comm (a := text = first),
        or_assoc]
  rw [sortDistinct, hfold]
  simp

theorem pairwise_insertSorted
    {text : Text} {texts : List Text} (htexts : texts.Pairwise fun s t => le s t) :
    (insertSorted text texts).Pairwise fun s t => le s t := by
  induction texts with
  | nil => exact List.pairwise_singleton _ text
  | cons first texts ih =>
    obtain ⟨hfirst, hrest⟩ := List.pairwise_cons.mp htexts
    unfold insertSorted
    split
    · exact htexts
    · split
      · rename_i hle
        refine List.pairwise_cons.mpr ⟨fun other hother => ?_, htexts⟩
        rcases List.mem_cons.mp hother with rfl | hother
        · exact hle
        · exact le_trans hle (hfirst other hother)
      · rename_i hle
        refine List.pairwise_cons.mpr ⟨fun other hother => ?_, ih hrest⟩
        rcases mem_insertSorted.mp hother with rfl | hother
        · exact (le_total first other).resolve_right hle
        · exact hfirst other hother

theorem pairwise_sortDistinct (texts : List Text) :
    (sortDistinct texts).Pairwise fun s t => le s t := by
  apply List.foldlRecOn (motive := fun sorted : List Text => sorted.Pairwise fun s t => le s t)
  · exact .nil
  · intro sorted hsorted text _
    exact pairwise_insertSorted hsorted

theorem nodup_insertSorted
    {text : Text} {texts : List Text} (htexts : texts.Pairwise fun s t => le s t)
    (hnodup : texts.Nodup) :
    (insertSorted text texts).Nodup := by
  induction texts with
  | nil => exact List.nodup_singleton text
  | cons first texts ih =>
    obtain ⟨hfirst, hrest⟩ := List.pairwise_cons.mp htexts
    obtain ⟨hnew, hnodup'⟩ := List.nodup_cons.mp hnodup
    unfold insertSorted
    split
    · exact hnodup
    · rename_i hne
      split
      · rename_i hle
        refine List.nodup_cons.mpr ⟨fun hmem => ?_, hnodup⟩
        rcases List.mem_cons.mp hmem with heq | hmem
        · exact hne heq
        · exact hne (le_antisymm hle (hfirst text hmem))
      · refine List.nodup_cons.mpr ⟨fun hmem => ?_, ih hrest hnodup'⟩
        rcases mem_insertSorted.mp hmem with heq | hmem
        · exact hne heq.symm
        · exact hnew hmem

theorem nodup_sortDistinct (texts : List Text) : (sortDistinct texts).Nodup := by
  have hsorted : (sortDistinct texts).Pairwise (fun s t => le s t) ∧
      (sortDistinct texts).Nodup := by
    apply List.foldlRecOn (motive := fun sorted : List Text =>
      sorted.Pairwise (fun s t => le s t) ∧ sorted.Nodup)
    · exact ⟨.nil, .nil⟩
    · intro sorted hsorted text _
      exact ⟨pairwise_insertSorted hsorted.1, nodup_insertSorted hsorted.1 hsorted.2⟩
  exact hsorted.2

theorem sortDistinct_filter (p : Text → Bool) (texts : List Text) :
    sortDistinct (texts.filter p) = (sortDistinct texts).filter p := by
  have hperm : (sortDistinct (texts.filter p)).Perm ((sortDistinct texts).filter p) := by
    rw [List.perm_ext_iff_of_nodup (nodup_sortDistinct _) ((nodup_sortDistinct texts).filter p)]
    intro text
    simp only [mem_sortDistinct, List.mem_filter]
  exact hperm.eq_of_pairwise (fun s t _ _ => le_antisymm) (pairwise_sortDistinct _)
    ((pairwise_sortDistinct texts).filter p)

end DialogueScript.Text

import Mathlib.Data.List.Nodup
import Mathlib.Data.List.TakeWhile
import Mathlib.Order.Defs.LinearOrder

/-!
# Items at their first places

A list is freed of repetitions by keeping each item at its first place.  What stands in front decides
what is left of the rest, and of two items the one that comes first stays first.
-/

namespace DialogueScript

variable {α : Type} [BEq α]

/-- A list by its first item and what is left of the others without that item. -/
theorem eraseDups_induction
    {motive : List α → Prop} (nil : motive [])
    (cons : ∀ item items, motive (items.filter fun other => !other == item) →
      motive (item :: items))
    (items : List α) : motive items := by
  induction hlength : items.length using Nat.strong_induction_on generalizing items with
  | _ length ih =>
    cases items with
    | nil => exact nil
    | cons item items =>
      have hshorter : (items.filter fun other => !other == item).length < length := by
        rw [← hlength]
        exact Nat.lt_succ_of_le (List.length_filter_le _ items)
      exact cons item items (ih _ hshorter _ rfl)

variable [LawfulBEq α]

theorem nodup_eraseDups (items : List α) : items.eraseDups.Nodup := by
  induction items using eraseDups_induction with
  | nil => simp
  | cons item items ih =>
    rw [List.eraseDups_cons, List.nodup_cons]
    exact ⟨by simp [List.mem_eraseDups], ih⟩

theorem eraseDups_eq_self {items : List α} (hnodup : items.Nodup) : items.eraseDups = items := by
  induction items with
  | nil => rfl
  | cons item items ih =>
    obtain ⟨hnew, hrest⟩ := List.nodup_cons.mp hnodup
    have hkept : (items.filter fun other => !other == item) = items := by
      apply List.filter_eq_self.mpr
      intro other hother
      have hne : other ≠ item := ne_of_mem_of_not_mem hother hnew
      simpa using hne
    rw [List.eraseDups_cons, hkept, ih hrest]

theorem eraseDups_map_of_injective {β : Type} [BEq β] [LawfulBEq β] {f : α → β}
    (hf : Function.Injective f) (items : List α) :
    (items.map f).eraseDups = items.eraseDups.map f := by
  induction items using eraseDups_induction with
  | nil => rfl
  | cons item items ih =>
    have hfilter : (items.map f).filter (fun other => !other == f item) =
        (items.filter fun other => !other == item).map f := by
      rw [List.filter_map]
      congr 1
      exact List.filter_congr fun other _ => by simp [hf.eq_iff]
    rw [List.map_cons, List.eraseDups_cons, List.eraseDups_cons, List.map_cons, hfilter, ih]

/-! ## What stands in front -/

theorem eraseDups_eraseDups_append (front back : List α) :
    (front.eraseDups ++ back).eraseDups = (front ++ back).eraseDups := by
  have hremove : back.removeAll front.eraseDups = back.removeAll front :=
    List.filter_congr fun a _ => by simp
  rw [List.eraseDups_append, List.eraseDups_append, eraseDups_eq_self (nodup_eraseDups front),
    hremove]

theorem eraseDups_append_append_of_subset {front again back : List α}
    (hagain : ∀ a ∈ again, a ∈ front) :
    (front ++ (again ++ back)).eraseDups = (front ++ back).eraseDups := by
  have hnone : again.removeAll front = [] :=
    List.filter_eq_nil_iff.mpr fun a ha => by simpa using hagain a ha
  have hremove : (again ++ back).removeAll front = back.removeAll front := by
    unfold List.removeAll at hnone ⊢
    rw [List.filter_append, hnone, List.nil_append]
  rw [List.eraseDups_append, List.eraseDups_append, hremove]

/-! ## Which item stands first -/

theorem idxOf_eraseDups_lt {front back : List α} {a b : α} (ha : a ∈ front) (hb : b ∉ front) :
    (front ++ back).eraseDups.idxOf a < (front ++ back).eraseDups.idxOf b := by
  rw [List.eraseDups_append]
  have hfirst : a ∈ front.eraseDups := List.mem_eraseDups.mpr ha
  have hnot : b ∉ front.eraseDups := fun hmem => hb (List.mem_eraseDups.mp hmem)
  rw [List.idxOf_append_of_mem hfirst, List.idxOf_append_of_notMem hnot]
  have hlt := List.idxOf_lt_length_of_mem hfirst
  omega

theorem idxOf_eraseDups_lt_iff {items : List α} {a b : α} (ha : a ∈ items) (hb : b ∈ items) :
    items.eraseDups.idxOf a < items.eraseDups.idxOf b ↔ items.idxOf a < items.idxOf b := by
  have hfirst : ∀ {a b : α}, a ∈ items → items.idxOf a < items.idxOf b →
      items.eraseDups.idxOf a < items.eraseDups.idxOf b := by
    intro a b ha hlt
    have hfront : a ∈ items.take (items.idxOf b) := (List.mem_take_iff_idxOf_lt ha).mpr hlt
    have hbehind : b ∉ items.take (items.idxOf b) := by
      intro hmem
      exact absurd ((List.mem_take_iff_idxOf_lt (List.mem_of_mem_take hmem)).mp hmem) (lt_irrefl _)
    obtain ⟨front, back, hitems, hplace⟩ : ∃ front back, items = front ++ back ∧
        front = items.take (items.idxOf b) :=
      ⟨_, _, (List.take_append_drop (items.idxOf b) items).symm, rfl⟩
    rw [← hplace] at hfront hbehind
    rw [hitems]
    exact idxOf_eraseDups_lt hfront hbehind
  refine ⟨fun hlt => ?_, hfirst ha⟩
  rcases lt_trichotomy (items.idxOf a) (items.idxOf b) with hless | heq | hgreater
  · exact hless
  · rw [(List.idxOf_inj ha).mp heq] at hlt
    exact absurd hlt (lt_irrefl _)
  · exact absurd (hfirst hb hgreater) hlt.asymm

end DialogueScript

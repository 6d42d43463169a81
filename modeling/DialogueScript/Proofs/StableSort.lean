import DialogueScript.Groups
import Mathlib

/-!
# Stable sorting by groups

A list is sorted stably when its items stand in order and tied items stand as they did before.
There is only one such order, so putting items into groups by a key, and sorting each group, is
the same as one stable sort that looks at the key first.
-/

namespace DialogueScript

variable {α β κ : Type}

/-- Two items that may stand in either order. -/
def tied (le : α → α → Bool) (a b : α) : Bool :=
  le a b && le b a

/-- `sorted` holds the items in order, and those that are tied as they stood in `items`. -/
structure StablySorted (le : α → α → Bool) (items sorted : List α) : Prop where
  pairwise : sorted.Pairwise fun a b => le a b
  filter_tied : ∀ a, sorted.filter (tied le a) = items.filter (tied le a)

theorem mem_of_filter_tied
    {le : α → α → Bool} (hrefl : ∀ a, le a a) {items sorted : List α}
    (hfilter : ∀ a, sorted.filter (tied le a) = items.filter (tied le a))
    {a : α} (hmem : a ∈ sorted) :
    a ∈ items := by
  have hself : a ∈ sorted.filter (tied le a) :=
    List.mem_filter.mpr ⟨hmem, by simp [tied, hrefl]⟩
  rw [hfilter] at hself
  exact (List.mem_filter.mp hself).1

theorem StablySorted.mem_iff
    {le : α → α → Bool} (hrefl : ∀ a, le a a) {items sorted : List α}
    (hsorted : StablySorted le items sorted) {a : α} :
    a ∈ sorted ↔ a ∈ items :=
  ⟨mem_of_filter_tied hrefl hsorted.filter_tied,
    mem_of_filter_tied hrefl fun b => (hsorted.filter_tied b).symm⟩

/-! ## One order only -/

/-- Two lists in order that agree on every class of tied items have the same head. -/
private theorem head_eq_of_filter_tied
    {le : α → α → Bool} (hrefl : ∀ a, le a a) {a b : α} {s t : List α}
    (hs : (a :: s).Pairwise fun a b => le a b)
    (ht : (b :: t).Pairwise fun a b => le a b)
    (hfilter : ∀ c, (a :: s).filter (tied le c) = (b :: t).filter (tied le c)) :
    a = b := by
  have hba : le b a := by
    have hmem : a ∈ b :: t := mem_of_filter_tied hrefl hfilter List.mem_cons_self
    rcases List.mem_cons.mp hmem with rfl | hmem
    · exact hrefl a
    · exact List.rel_of_pairwise_cons ht hmem
  have hab : le a b := by
    have hmem : b ∈ a :: s :=
      mem_of_filter_tied hrefl (fun c => (hfilter c).symm) List.mem_cons_self
    rcases List.mem_cons.mp hmem with rfl | hmem
    · exact hrefl b
    · exact List.rel_of_pairwise_cons hs hmem
  have hclass := hfilter a
  rw [List.filter_cons_of_pos (by simp [tied, hrefl]),
    List.filter_cons_of_pos (by simp [tied, hab, hba])] at hclass
  exact (List.cons.inj hclass).1

theorem eq_of_filter_tied
    {le : α → α → Bool} (hrefl : ∀ a, le a a) {s t : List α}
    (hs : s.Pairwise fun a b => le a b) (ht : t.Pairwise fun a b => le a b)
    (hfilter : ∀ a, s.filter (tied le a) = t.filter (tied le a)) :
    s = t := by
  induction s generalizing t with
  | nil =>
    symm
    refine List.eq_nil_iff_forall_not_mem.mpr fun a hmem => ?_
    have hnil : a ∈ ([] : List α) :=
      mem_of_filter_tied hrefl (fun b => (hfilter b).symm) hmem
    simp at hnil
  | cons a s ih =>
    cases t with
    | nil =>
      have hnil : a ∈ ([] : List α) := mem_of_filter_tied hrefl hfilter List.mem_cons_self
      simp at hnil
    | cons b t =>
      obtain rfl := head_eq_of_filter_tied hrefl hs ht hfilter
      congr 1
      refine ih hs.tail ht.tail fun c => ?_
      have hclass := hfilter c
      simp only [List.filter_cons] at hclass
      split at hclass
      · exact (List.cons.inj hclass).2
      · exact hclass

theorem stablySorted_mergeSort
    {le : α → α → Bool}
    (htrans : ∀ a b c, le a b → le b c → le a c) (htotal : ∀ a b, le a b || le b a)
    (items : List α) :
    StablySorted le items (items.mergeSort le) where
  pairwise := List.pairwise_mergeSort htrans htotal items
  filter_tied a := by
    -- The tied items are a sorted part of the list, so the sort keeps them in their order.
    have htied : (items.filter (tied le a)).Pairwise fun b c => le b c := by
      refine List.pairwise_of_forall_mem_list fun b hb c hc => ?_
      simp only [List.mem_filter, tied, Bool.and_eq_true] at hb hc
      exact htrans b a c hb.2.2 hc.2.1
    have hsub :
        (items.filter (tied le a)).Sublist ((items.mergeSort le).filter (tied le a)) := by
      have hkept := List.sublist_mergeSort htrans htotal htied List.filter_sublist
      simpa using hkept.filter (tied le a)
    have hlength : (items.filter (tied le a)).length
        = ((items.mergeSort le).filter (tied le a)).length :=
      ((List.mergeSort_perm items le).filter (tied le a)).length_eq.symm
    exact (hsub.eq_of_length hlength).symm

theorem StablySorted.eq_mergeSort
    {le : α → α → Bool}
    (htrans : ∀ a b c, le a b → le b c → le a c) (htotal : ∀ a b, le a b || le b a)
    {items sorted : List α} (hsorted : StablySorted le items sorted) :
    sorted = items.mergeSort le := by
  have hrefl : ∀ a, le a a := fun a => by simpa using htotal a a
  have hmerge := stablySorted_mergeSort htrans htotal items
  exact eq_of_filter_tied hrefl hsorted.pairwise hmerge.pairwise fun a =>
    (hsorted.filter_tied a).trans (hmerge.filter_tied a).symm

/-! ## Which of two items stands first -/

section Places

variable [BEq α] [LawfulBEq α] {le : α → α → Bool} {items sorted : List α} {a b : α}

/-- Of two items that satisfy `p`, the same one comes first when all others are left out. -/
theorem idxOf_filter_lt_iff {p : α → Bool} (ha : p a) (hb : p b) :
    (items.filter p).idxOf a < (items.filter p).idxOf b ↔ items.idxOf a < items.idxOf b := by
  induction items with
  | nil => simp
  | cons item items ih =>
    by_cases hia : item = a
    · subst hia
      by_cases heq : item = b
      · simp [heq]
      · simp [ha, heq]
    · by_cases hib : item = b
      · subst hib
        simp [hb, hia]
      · cases hp : p item <;> simp [hp, hia, hib, ih]

theorem le_of_idxOf_lt
    (hsorted : sorted.Pairwise fun a b => le a b) (hb : b ∈ sorted)
    (hlt : sorted.idxOf a < sorted.idxOf b) :
    le a b := by
  have hlength := List.idxOf_lt_length_of_mem hb
  have hpair := List.pairwise_iff_getElem.mp hsorted _ _ (hlt.trans hlength) hlength hlt
  rwa [List.getElem_idxOf, List.getElem_idxOf] at hpair

/-- Of two items, the first in order is the one that has to stand first; when they are tied, it is
the one that came first. -/
theorem StablySorted.idxOf_lt_iff
    (hsorted : StablySorted le items sorted) (htotal : ∀ a b, le a b || le b a) (ha : a ∈ items)
    (hb : b ∈ items) (hne : a ≠ b) :
    sorted.idxOf a < sorted.idxOf b ↔ le a b ∧ (le b a → items.idxOf a < items.idxOf b) := by
  have hrefl : ∀ a, le a a := fun a => by simpa using htotal a a
  have ha := (hsorted.mem_iff hrefl).mpr ha
  have hb := (hsorted.mem_iff hrefl).mpr hb
  cases hab : le a b with
  | false =>
    simp only [Bool.false_eq_true, false_and, iff_false]
    intro hlt
    exact Bool.false_ne_true (hab.symm.trans (le_of_idxOf_lt hsorted.pairwise hb hlt))
  | true =>
    cases hba : le b a with
    | false =>
      simp only [Bool.false_eq_true, false_implies, and_self, iff_true]
      by_contra hnot
      have hlt : sorted.idxOf b < sorted.idxOf a :=
        lt_of_le_of_ne (not_lt.mp hnot) fun heq => hne ((List.idxOf_inj hb).mp heq).symm
      exact Bool.false_ne_true (hba.symm.trans (le_of_idxOf_lt hsorted.pairwise ha hlt))
    | true =>
      have htied : tied le a a ∧ tied le a b := by simp [tied, hrefl, hab, hba]
      rw [← idxOf_filter_lt_iff htied.1 htied.2, hsorted.filter_tied,
        idxOf_filter_lt_iff htied.1 htied.2]
      simp

end Places

/-! ## Sorting by a key first -/

/-- Order by a key, and items of one key by `le`. -/
def byKey [DecidableEq κ] (lt : κ → κ → Prop) [DecidableRel lt] (key : α → κ) (le : α → α → Bool)
    (a b : α) : Bool :=
  lt (key a) (key b) || (key a = key b && le a b)

section Keys

variable [DecidableEq κ] {lt : κ → κ → Prop} [DecidableRel lt] [IsStrictTotalOrder κ lt]
  {key : α → κ} {le : α → α → Bool}

theorem byKey_trans
    (htrans : ∀ a b c, le a b → le b c → le a c) (a b c : α)
    (hab : byKey lt key le a b) (hbc : byKey lt key le b c) :
    byKey lt key le a c := by
  simp only [byKey, Bool.or_eq_true, Bool.and_eq_true, decide_eq_true_eq] at *
  rcases hab with hab | ⟨hab, hle⟩ <;> rcases hbc with hbc | ⟨hbc, hle'⟩
  · exact Or.inl (trans_of lt hab hbc)
  · exact Or.inl (hbc ▸ hab)
  · exact Or.inl (hab ▸ hbc)
  · exact Or.inr ⟨hab.trans hbc, htrans a b c hle hle'⟩

theorem byKey_total
    (htotal : ∀ a b, le a b || le b a) (a b : α) :
    byKey lt key le a b || byKey lt key le b a := by
  have hle := htotal a b
  simp only [byKey, Bool.or_eq_true, Bool.and_eq_true, decide_eq_true_eq] at *
  rcases trichotomous_of lt (key a) (key b) with hlt | heq | hlt
  · exact Or.inl (Or.inl hlt)
  · exact hle.imp (fun h => Or.inr ⟨heq, h⟩) (fun h => Or.inr ⟨heq.symm, h⟩)
  · exact Or.inr (Or.inl hlt)

theorem tied_byKey (a b : α) :
    tied (byKey lt key le) a b = (key b = key a && tied le a b) := by
  by_cases heq : key a = key b
  · simp [tied, byKey, heq, irrefl_of lt]
  · have hasymm : ¬ (lt (key a) (key b) ∧ lt (key b) (key a)) := fun h => asymm h.1 h.2
    simpa [tied, byKey, heq, Ne.symm heq] using fun h h' => hasymm ⟨h, h'⟩

/-- Among parts for different keys, the tied items all stand in the part of their key. -/
theorem filter_flatMap_parts
    {keys : List κ} {part : κ → List α} (hkeys : keys.Nodup)
    (hpart : ∀ k ∈ keys, ∀ a ∈ part k, key a = k) (k : κ) (p : α → Bool) :
    (keys.flatMap part).filter (fun a => key a = k && p a) =
      if k ∈ keys then (part k).filter p else [] := by
  induction keys with
  | nil => simp
  | cons first keys ih =>
    have hrest := ih (List.nodup_cons.mp hkeys).2 fun k hk => hpart k (List.mem_cons_of_mem _ hk)
    have hfirst := hpart first List.mem_cons_self
    rw [List.flatMap_cons, List.filter_append, hrest]
    by_cases hk : k = first
    · subst hk
      have hnot : k ∉ keys := (List.nodup_cons.mp hkeys).1
      have hsame : (part k).filter (fun a => key a = k && p a) = (part k).filter p :=
        List.filter_congr fun a ha => by simp [hfirst a ha]
      simp [hnot, hsame]
    · have hnone : (part first).filter (fun a => key a = k && p a) = [] :=
        List.filter_eq_nil_iff.mpr fun a ha => by simp [hfirst a ha, Ne.symm hk]
      simp [hnone, hk]

theorem StablySorted.flatMap_parts
    (hrefl : ∀ a, le a a) {items : List α} {keys : List κ} {part : κ → List α}
    (hkeys : keys.Pairwise lt) (hcover : ∀ a ∈ items, key a ∈ keys)
    (hpart : ∀ k ∈ keys, StablySorted le (items.filter fun a => key a = k) (part k)) :
    StablySorted (byKey lt key le) items (keys.flatMap part) := by
  have hkey : ∀ k ∈ keys, ∀ a ∈ part k, key a = k := by
    intro k hk a ha
    have hmem := ((hpart k hk).mem_iff hrefl).mp ha
    simpa using (List.mem_filter.mp hmem).2
  constructor
  · rw [List.pairwise_flatMap]
    constructor
    · intro k hk
      refine (hpart k hk).pairwise.imp_of_mem fun {a b} ha hb hle => ?_
      simp [byKey, hkey k hk a ha, hkey k hk b hb, hle]
    · refine hkeys.imp_of_mem fun {k l} hk hl hlt a ha b hb => ?_
      simp [byKey, hkey k hk a ha, hkey l hl b hb, hlt]
  · intro a
    have hnodup : keys.Nodup := hkeys.imp fun {k l} hlt heq => by
      subst heq
      exact irrefl_of lt k hlt
    have htied : tied (byKey lt key le) a = fun b => key b = key a && tied le a b :=
      funext (tied_byKey a)
    rw [htied, filter_flatMap_parts hnodup hkey]
    split
    · rename_i hmem
      rw [(hpart _ hmem).filter_tied, List.filter_filter]
      exact List.filter_congr fun b _ => by simp [Bool.and_comm]
    · rename_i hmem
      symm
      refine List.filter_eq_nil_iff.mpr fun b hb htrue => hmem ?_
      simp only [Bool.and_eq_true, decide_eq_true_eq] at htrue
      exact htrue.1 ▸ hcover b hb

end Keys

/-! ## Groups -/

section Groups

variable [LinearOrder κ]

theorem map_part_of_ne
    (key : κ) (item : α) (part : κ → List α) {keys : List κ} (hkeys : ∀ k ∈ keys, k ≠ key) :
    (keys.map fun k => (k, part k)) =
      keys.map fun k => (k, if k = key then part k ++ [item] else part k) :=
  List.map_congr_left fun k hk => by simp [hkeys k hk]

/-- Adding an item to groups that list some parts by ascending keys. -/
theorem Groups.exists_add_map
    (key : κ) (item : α) (part : κ → List α) {keys : List κ}
    (hkeys : keys.Pairwise (· < ·)) (hempty : key ∉ keys → part key = []) :
    ∃ more : List κ, more.Pairwise (· < ·) ∧ (∀ k, k ∈ more ↔ k = key ∨ k ∈ keys) ∧
      Groups.add key item (keys.map fun k => (k, part k)) =
        more.map fun k => (k, if k = key then part k ++ [item] else part k) := by
  induction keys with
  | nil =>
    refine ⟨[key], by simp, by simp, ?_⟩
    simp [Groups.add, hempty]
  | cons first keys ih =>
    obtain ⟨hfirst, hrest⟩ := List.pairwise_cons.mp hkeys
    rw [List.map_cons, Groups.add]
    by_cases heq : key = first
    · subst heq
      have hother := map_part_of_ne key item part fun k hk => (hfirst k hk).ne'
      exact ⟨key :: keys, hkeys, by simp, by simp [hother]⟩
    · by_cases hlt : key < first
      · have hbelow : ∀ k ∈ first :: keys, key < k := by
          intro k hk
          rcases List.mem_cons.mp hk with rfl | hk
          · exact hlt
          · exact hlt.trans (hfirst k hk)
        have hnot : key ∉ first :: keys := fun hmem => (hbelow key hmem).false
        have hother := map_part_of_ne key item part fun k hk => (hbelow k hk).ne'
        refine ⟨key :: first :: keys, List.pairwise_cons.mpr ⟨hbelow, hkeys⟩, by simp, ?_⟩
        rw [if_neg heq, if_pos hlt, List.map_cons, ← hother, if_pos rfl, hempty hnot]
        rfl
      · have hempty' : key ∉ keys → part key = [] := fun hnot => hempty (by simp [heq, hnot])
        obtain ⟨more, hmore, hmem, hadd⟩ := ih hrest hempty'
        have habove : ∀ k ∈ more, first < k := by
          intro k hk
          rcases (hmem k).mp hk with rfl | hk
          · exact lt_of_le_of_ne (not_lt.mp hlt) (Ne.symm heq)
          · exact hfirst k hk
        refine ⟨first :: more, List.pairwise_cons.mpr ⟨habove, hmore⟩, ?_, ?_⟩
        · intro k
          simp only [List.mem_cons, hmem k]
          tauto
        · rw [if_neg heq, if_neg hlt, hadd, List.map_cons, if_neg (Ne.symm heq)]

/-- The groups of a list are its parts of equal keys. -/
theorem Groups.exists_ofList_eq_map
    (key : α → κ) (items : List α) :
    ∃ keys : List κ, keys.Pairwise (· < ·) ∧ (∀ k, k ∈ keys ↔ ∃ a ∈ items, key a = k) ∧
      Groups.ofList key items = keys.map fun k => (k, items.filter fun a => key a = k) := by
  induction items using List.reverseRecOn with
  | nil => exact ⟨[], by simp, by simp, rfl⟩
  | append_singleton items item ih =>
    obtain ⟨keys, hkeys, hmem, hof⟩ := ih
    have hempty : key item ∉ keys → (items.filter fun a => key a = key item) = [] := by
      intro hnot
      refine List.filter_eq_nil_iff.mpr fun a ha htrue => hnot ?_
      exact (hmem _).mpr ⟨a, ha, by simpa using htrue⟩
    obtain ⟨more, hmore, hmem', hadd⟩ := Groups.exists_add_map (key item) item
      (fun k => items.filter fun a => key a = k) hkeys hempty
    refine ⟨more, hmore, ?_, ?_⟩
    · intro k
      rw [hmem', hmem]
      simp only [List.mem_append, List.mem_singleton, or_and_right, exists_or, exists_eq_left,
        eq_comm (a := k), or_comm]
    · have hstep : Groups.ofList key (items ++ [item]) =
          Groups.add (key item) item (Groups.ofList key items) := by
        simp [Groups.ofList]
      rw [hstep, hof, hadd]
      refine List.map_congr_left fun k _ => ?_
      by_cases hk : k = key item
      · subst hk
        simp
      · simp [hk, Ne.symm hk]

variable {key : α → κ} {le : α → α → Bool} {sort : List α → List α}

theorem StablySorted.ascending_flatMap
    (hrefl : ∀ a, le a a) (hsort : ∀ items, StablySorted le items (sort items)) (items : List α) :
    StablySorted (byKey (· < ·) key le) items
      ((Groups.ofList key items).ascending.flatMap sort) := by
  obtain ⟨keys, hkeys, hmem, hof⟩ := Groups.exists_ofList_eq_map key items
  have hflat : (Groups.ofList key items).ascending.flatMap sort =
      keys.flatMap fun k => sort (items.filter fun a => key a = k) := by
    simp [Groups.ascending, hof, List.flatMap_map]
  rw [hflat]
  exact StablySorted.flatMap_parts hrefl hkeys (fun a ha => (hmem _).mpr ⟨a, ha, rfl⟩)
    fun k _ => hsort _

theorem StablySorted.descending_flatMap
    (hrefl : ∀ a, le a a) (hsort : ∀ items, StablySorted le items (sort items)) (items : List α) :
    StablySorted (byKey (· > ·) key le) items
      ((Groups.ofList key items).descending.flatMap sort) := by
  obtain ⟨keys, hkeys, hmem, hof⟩ := Groups.exists_ofList_eq_map key items
  have hflat : (Groups.ofList key items).descending.flatMap sort =
      keys.reverse.flatMap fun k => sort (items.filter fun a => key a = k) := by
    simp [Groups.descending, hof, ← List.map_reverse, List.flatMap_map]
  rw [hflat]
  exact StablySorted.flatMap_parts hrefl (List.pairwise_reverse.mpr hkeys)
    (fun a ha => List.mem_reverse.mpr ((hmem _).mpr ⟨a, ha, rfl⟩)) fun k _ => hsort _

end Groups

end DialogueScript

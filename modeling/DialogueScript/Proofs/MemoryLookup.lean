import DialogueScript.Memory
import DialogueScript.Proofs.SessionVariables
import DialogueScript.Proofs.SortedTexts
import Mathlib.Data.Finset.Card
import Mathlib.Data.List.MinMax
import Mathlib.Data.Prod.Lex

/-!
# What the memory finds

The saves that were made decide what a question finds, in five steps.  The memory takes these steps
for every history of saves and every question, except that a record under the question itself, even
an empty one, keeps it from looking under the tags.
-/

namespace DialogueScript

namespace Table

variable {α : Type}

theorem keys_insert (table : Table α) (key : Text) (value : α) :
    (table.insert key value).keys =
      if key ∈ table.keys then table.keys else table.keys ++ [key] := by
  unfold insert keys
  dsimp only
  induction table.entries with
  | nil => simp [put]
  | cons entry entries ih =>
    by_cases hentry : entry.1 = key
    · simp [put, hentry]
    · simp only [put, if_neg hentry, List.map_cons, ih, List.mem_cons, Ne.symm hentry, false_or]
      split <;> simp

theorem nodup_keys_insert {table : Table α} (hkeys : table.keys.Nodup) (key : Text) (value : α) :
    (table.insert key value).keys.Nodup := by
  rw [keys_insert]
  split
  · exact hkeys
  · rename_i hnew
    exact hkeys.append (List.nodup_singleton key) (by simpa using hnew)

/-- A table without repeated keys holds what is read under its keys, in their order. -/
theorem entries_eq_filterMap_keys {table : Table α} (hkeys : table.keys.Nodup) :
    table.entries =
      table.keys.filterMap fun key => (table.get? key).map fun value => (key, value) := by
  obtain ⟨entries⟩ := table
  unfold keys get? at *
  dsimp only at *
  induction entries with
  | nil => rfl
  | cons entry entries ih =>
    rw [List.map_cons, List.nodup_cons] at hkeys
    have hrest : ∀ key ∈ entries.map (·.1), (entry :: entries).lookup key = entries.lookup key := by
      intro key hkey
      have hne : (key == entry.1) = false := by
        simp only [beq_eq_false_iff_ne, ne_eq]
        rintro rfl
        exact hkeys.1 hkey
      rw [List.lookup_cons, hne]
    have hfirst : (entry :: entries).lookup entry.1 = some entry.2 := by
      rw [List.lookup_cons, beq_self_eq_true]
    have hothers : (entries.map (·.1)).filterMap (fun key =>
        ((entry :: entries).lookup key).map fun value => (key, value)) = entries := by
      conv_rhs => rw [ih hkeys.2]
      apply List.filterMap_congr
      intro key hkey
      rw [hrest key hkey]
    rw [List.map_cons, List.filterMap_cons, hfirst, hothers]
    rfl

end Table

namespace Memory

/-! ## Histories of saves -/

structure Save where
  key : Text
  content : Text
  tags : List Text
deriving Repr, DecidableEq

/-- The memory after a history of saves, the earliest first. -/
def ofSaves (saves : List Save) : Memory :=
  saves.foldl (fun memory save => memory.save save.key save.content save.tags) empty

namespace Save

/-- The tags under which a save is found; one without tags has its key for a tag. -/
def tagSet (save : Save) : Finset Text :=
  if save.tags = [] then {save.key} else save.tags.toFinset

/-- How many tags a save shares with a question. -/
def shared (save : Save) (tags : List Text) : Nat :=
  (save.tagSet ∩ tags.toFinset).card

/-- What the memory keeps of a save. -/
def record (save : Save) (number : Nat) : Record :=
  { content := save.content
    tags := if save.tags.isEmpty then [save.key] else Keywords.ofList save.tags
    savedAt := number }

end Save

/-- The last save under a key, with its number in the history. -/
def latest? (saves : List Save) (key : Text) : Option (Save × Nat) :=
  saves.zipIdx.reverse.find? fun entry => entry.1.key = key

/-- The saves that no later one has replaced, in the order in which their keys came up. -/
def standing (saves : List Save) : List (Save × Nat) :=
  (saves.map (·.key)).eraseDups.filterMap (latest? saves)

/-! ## The five steps -/

def underKey? (saves : List Save) (query : Text) : Option Text :=
  ((latest? saves query).map (·.1.content)).filter (· ≠ [])

/-- The content under the first tag that is a key, unless it is empty. -/
def underTag? (saves : List Save) (tags : List Text) : Option Text :=
  ((tags.findSome? (latest? saves)).map (·.1.content)).filter (· ≠ [])

/-- Saves are ranked by the tags they share, equals by their number. -/
def rank (tags : List Text) (entry : Save × Nat) : Nat ×ₗ Nat :=
  toLex (entry.1.shared tags, entry.2)

/-- The content of the save that shares the most tags, of several the latest. -/
def nearest? (saves : List Save) (tags : List Text) : Option Text :=
  let sharing := (standing saves).filter fun entry => 0 < entry.1.shared tags
  (sharing.argmax (rank tags)).map (·.1.content)

/-- The first key under which this content is kept. -/
def withContent? (saves : List Save) (content : Text) : Option Text :=
  ((standing saves).find? fun entry => entry.1.content = content).map (·.1.key)

/-- The steps that do not look under keys. -/
def beyondKeys? (saves : List Save) (query : Text) (tags : List Text) : Option Text :=
  nearest? saves tags <|> withContent? saves query <|> tags.findSome? (withContent? saves)

/-- What the first of the five steps finds that finds anything. -/
def lookup? (saves : List Save) (query : Text) (tags : List Text) : Option Text :=
  let tags := tags.map Text.trim
  underKey? saves query <|> underTag? saves tags <|> beyondKeys? saves query tags

/-! ## What is kept of a history -/

theorem ofSaves_append (saves : List Save) (save : Save) :
    ofSaves (saves ++ [save]) = (ofSaves saves).save save.key save.content save.tags := by
  simp [ofSaves]

theorem saves_ofSaves (saves : List Save) : (ofSaves saves).saves = saves.length := by
  induction saves using List.reverseRecOn with
  | nil => rfl
  | append_singleton saves save ih => simp [ofSaves_append, Memory.save, ih]

theorem latest?_append (saves : List Save) (save : Save) (key : Text) :
    latest? (saves ++ [save]) key =
      if save.key = key then some (save, saves.length) else latest? saves key := by
  unfold latest?
  rw [List.zipIdx_append, List.reverse_append]
  by_cases hkey : save.key = key <;> simp [hkey]

theorem key_of_latest? {saves : List Save} {key : Text} {entry : Save × Nat}
    (hlatest : latest? saves key = some entry) :
    entry.1.key = key := by
  simpa using List.find?_some hlatest

theorem get?_ofSaves (saves : List Save) (key : Text) :
    (ofSaves saves).records.get? key =
      (latest? saves key).map fun entry => entry.1.record entry.2 := by
  induction saves using List.reverseRecOn with
  | nil => rfl
  | append_singleton saves save ih =>
    have hrecords : (ofSaves (saves ++ [save])).records =
        (ofSaves saves).records.insert save.key (save.record saves.length) := by
      rw [ofSaves_append, ← saves_ofSaves]
      rfl
    rw [hrecords, latest?_append]
    by_cases hkey : save.key = key
    · rw [if_pos hkey, ← hkey, Table.get?_insert_self, Option.map_some]
    · rw [if_neg hkey, Table.get?_insert_of_ne _ _ (Ne.symm hkey), ih]

theorem keys_ofSaves (saves : List Save) :
    (ofSaves saves).records.keys = (saves.map (·.key)).eraseDups := by
  induction saves using List.reverseRecOn with
  | nil => rfl
  | append_singleton saves save ih =>
    have hkeys : (ofSaves (saves ++ [save])).records.keys =
        if save.key ∈ (ofSaves saves).records.keys then (ofSaves saves).records.keys
        else (ofSaves saves).records.keys ++ [save.key] := by
      rw [ofSaves_append]
      exact Table.keys_insert _ _ _
    rw [hkeys, ih, List.map_append, List.eraseDups_append, List.map_singleton, List.removeAll,
      List.filter_singleton]
    by_cases hmem : save.key ∈ saves.map (·.key)
    · have hold : (saves.map (·.key)).elem save.key = true := List.elem_eq_true_of_mem hmem
      rw [if_pos (List.mem_eraseDups.mpr hmem), hold]
      exact (List.append_nil _).symm
    · have hnew : (saves.map (·.key)).elem save.key = false := by
        simpa using hmem
      rw [if_neg (List.mem_eraseDups.not.mpr hmem), hnew]
      rfl

theorem nodup_keys_ofSaves (saves : List Save) : (ofSaves saves).records.keys.Nodup := by
  induction saves using List.reverseRecOn with
  | nil => exact List.nodup_nil
  | append_singleton saves save ih =>
    rw [ofSaves_append]
    exact Table.nodup_keys_insert ih _ _

theorem entries_ofSaves (saves : List Save) :
    (ofSaves saves).records.entries =
      (standing saves).map fun entry => (entry.1.key, entry.1.record entry.2) := by
  rw [Table.entries_eq_filterMap_keys (nodup_keys_ofSaves saves), keys_ofSaves, standing,
    List.map_filterMap]
  apply List.filterMap_congr
  intro key _
  rw [get?_ofSaves, Option.map_map]
  cases hlatest : latest? saves key with
  | none => rfl
  | some entry => simp [key_of_latest? hlatest]

theorem getElem?_of_mem_standing
    {saves : List Save} {entry : Save × Nat} (hmem : entry ∈ standing saves) :
    saves[entry.2]? = some entry.1 := by
  obtain ⟨key, -, hlatest⟩ := List.mem_filterMap.mp hmem
  have hentry : entry ∈ saves.zipIdx := by
    simpa using List.mem_of_find?_eq_some hlatest
  simpa using List.mem_zipIdx_iff_getElem?.mp hentry

/-! ## The steps of the memory -/

theorem contentAt?_ofSaves (saves : List Save) (key : Text) :
    (ofSaves saves).contentAt? key = (latest? saves key).map (·.1.content) := by
  rw [contentAt?, get?_ofSaves, Option.map_map]
  rfl

/-- A record under the question keeps the memory from looking under the tags. -/
theorem byKey?_ofSaves (saves : List Save) (query : Text) (tags : List Text) :
    (ofSaves saves).byKey? query tags =
      (underKey? saves query <|>
        if (latest? saves query).isSome then none else underTag? saves tags) := by
  have hfilter : ∀ found : Option Text, (found.filter fun content => !content.isEmpty) =
      found.filter (· ≠ []) := by
    intro found
    congr 1
    funext content
    cases content <;> rfl
  have htags : tags.findSome? (ofSaves saves).contentAt? =
      (tags.findSome? (latest? saves)).map (·.1.content) := by
    rw [List.map_findSome?]
    congr 1
    funext key
    exact contentAt?_ofSaves saves key
  unfold byKey? underKey? underTag?
  rw [hfilter, contentAt?_ofSaves, htags]
  cases latest? saves query with
  | none => rfl
  | some entry => simp

theorem overlap_record (save : Save) (number : Nat) (tags : List Text) :
    (save.record number).overlap tags = save.shared tags := by
  have hcard : ∀ kept : List Text, kept.Nodup →
      kept.countP (fun tag => tags.contains tag) = (kept.toFinset ∩ tags.toFinset).card := by
    intro kept hkept
    rw [List.countP_eq_length_filter, ← List.toFinset_card_of_nodup (hkept.filter _)]
    congr 1
    ext tag
    simp
  unfold Record.overlap Save.record Save.shared Save.tagSet
  by_cases htags : save.tags = []
  · simpa [htags] using hcard [save.key] (List.nodup_singleton _)
  · have hset : (Keywords.ofList save.tags).toFinset = save.tags.toFinset := by
      ext tag
      simp [Keywords.ofList, Text.mem_sortDistinct]
    have hnodup : (Keywords.ofList save.tags).Nodup := Text.nodup_sortDistinct save.tags
    simpa [htags, hset] using hcard _ hnodup

theorem beats_record_iff {entry best : Save × Nat} {tags : List Text} :
    (entry.1.record entry.2).beats tags (best.1.record best.2) ↔
      rank tags best ≤ rank tags entry := by
  rw [rank, rank, Prod.Lex.toLex_le_toLex, Record.beats, overlap_record, overlap_record]
  simp [Save.record]

/-- Keeping the later of equals makes no difference where no two saves have one rank. -/
theorem foldl_beats_eq_argmax {entries : List (Save × Nat)} {tags : List Text}
    (hrank : ∀ a ∈ entries, ∀ b ∈ entries, rank tags a = rank tags b → a = b) :
    entries.foldl (fun (best : Option Record) entry =>
      match best with
      | none => some (entry.1.record entry.2)
      | some record =>
        if (entry.1.record entry.2).beats tags record then some (entry.1.record entry.2)
        else some record) none =
    (entries.argmax (rank tags)).map fun entry => entry.1.record entry.2 := by
  induction entries using List.reverseRecOn with
  | nil => rfl
  | append_singleton entries entry ih =>
    rw [List.foldl_append, ih fun a ha b hb => hrank a (by simp [ha]) b (by simp [hb]),
      List.argmax_concat]
    cases hbest : entries.argmax (rank tags) with
    | none => rfl
    | some best =>
      have hmem : best ∈ entries := List.argmax_mem hbest
      rcases lt_trichotomy (rank tags best) (rank tags entry) with hlt | heq | hgt
      · simp [beats_record_iff, hlt, hlt.le]
      · obtain rfl := hrank best (by simp [hmem]) entry (by simp) heq
        simp
      · simp [beats_record_iff, hgt.not_gt, hgt.not_ge]

theorem byTags?_ofSaves (saves : List Save) (tags : List Text) :
    (ofSaves saves).byTags? tags = nearest? saves tags := by
  let sharing := (standing saves).filter fun entry => 0 < entry.1.shared tags
  have hrank : ∀ a ∈ sharing, ∀ b ∈ sharing, rank tags a = rank tags b → a = b := by
    intro a ha b hb heq
    have hnumber : a.2 = b.2 := (Prod.ext_iff.mp (toLex.injective heq)).2
    have hasave := getElem?_of_mem_standing (List.mem_of_mem_filter ha)
    have hbsave := getElem?_of_mem_standing (List.mem_of_mem_filter hb)
    rw [hnumber, hbsave] at hasave
    exact Prod.ext (Option.some.inj hasave).symm hnumber
  have hentries : ((ofSaves saves).records.entries.filter fun entry => 0 < entry.2.overlap tags) =
      sharing.map fun entry => (entry.1.key, entry.1.record entry.2) := by
    rw [entries_ofSaves, List.filter_map]
    congr 2
    funext entry
    simp [overlap_record]
  have hbest := congrArg (Option.map (·.content)) (foldl_beats_eq_argmax hrank)
  unfold byTags? nearest?
  dsimp only
  rw [hentries, List.foldl_map]
  refine hbest.trans ?_
  rw [Option.map_map]
  rfl

theorem keyOf?_ofSaves (saves : List Save) : (ofSaves saves).keyOf? = withContent? saves := by
  funext content
  rw [keyOf?, entries_ofSaves, List.find?_map, Option.map_map]
  rfl

theorem find?_ofSaves (saves : List Save) (query : Text) (tags : List Text) :
    (ofSaves saves).find? query tags =
      ((ofSaves saves).byKey? query (tags.map Text.trim) <|>
        beyondKeys? saves query (tags.map Text.trim)) := by
  unfold find? beyondKeys?
  dsimp only
  rw [byTags?_ofSaves, keyOf?_ofSaves]

/-- The memory takes the five steps, without the second where the question itself is a key.  So it
finds what they find unless the record under the question is empty and the later steps do not find
the content under a tag. -/
theorem find?_looks_under_tags_iff_no_record
    (saves : List Save) (query : Text) (tags : List Text) :
    let trimmed := tags.map Text.trim
    (ofSaves saves).find? query tags =
        (underKey? saves query <|>
          (if (latest? saves query).isSome then none else underTag? saves trimmed) <|>
          beyondKeys? saves query trimmed) ∧
      ((ofSaves saves).find? query tags = lookup? saves query tags ↔
        ((latest? saves query).map (·.1.content) = some [] →
          ∀ content, underTag? saves trimmed = some content →
            beyondKeys? saves query trimmed = some content)) := by
  intro trimmed
  have hfind : (ofSaves saves).find? query tags =
      (underKey? saves query <|>
        (if (latest? saves query).isSome then none else underTag? saves trimmed) <|>
        beyondKeys? saves query trimmed) := by
    rw [find?_ofSaves, byKey?_ofSaves]
    cases underKey? saves query <;> rfl
  refine ⟨hfind, ?_⟩
  rw [hfind]
  unfold lookup?
  cases hlatest : latest? saves query with
  | none => simp [trimmed]
  | some entry =>
    by_cases hempty : entry.1.content = []
    · have hunder : underKey? saves query = none := by simp [underKey?, hlatest, hempty]
      cases htag : underTag? saves trimmed with
      | none => simp [hunder, htag, trimmed]
      | some content => simp [hunder, htag, trimmed, hempty]
    · have hunder : underKey? saves query = some entry.1.content := by
        simp [underKey?, hlatest, hempty]
      simp [hunder, hempty]

/-- A record that was emptied hides what is kept under a tag. -/
theorem empty_record_hides_tag :
    let saves : List Save :=
      [{ key := "cats".toList, content := [], tags := ["pets".toList] },
       { key := "feline".toList, content := "a small animal".toList, tags := ["zoo".toList] }]
    lookup? saves "cats".toList ["feline".toList] = some "a small animal".toList ∧
      (ofSaves saves).find? "cats".toList ["feline".toList] = none := by
  decide +kernel

end Memory

end DialogueScript

import DialogueScript.Tag
import Mathlib.Data.List.Basic

/-!
# Reading tags

What a reader finds in a text: a tag at its front is the first piece, and the pieces after it are
those of the rest.  A text without tags is left as it is by every replacement.
-/

namespace DialogueScript

namespace Text

theorem strip?_append (lead text : Text) :
    strip? lead (lead ++ text) = some text := by
  induction lead with
  | nil => cases text <;> rfl
  | cons c lead ih => simpa [strip?] using ih

theorem eq_append_of_strip? {lead text rest : Text} (hstrip : strip? lead text = some rest) :
    text = lead ++ rest := by
  induction lead generalizing text with
  | nil => simpa [strip?] using hstrip
  | cons c lead ih =>
    cases text with
    | nil => simp [strip?] at hstrip
    | cons d text =>
      by_cases heq : c = d
      · subst heq
        have hrest : strip? lead text = some rest := by
          simpa [strip?] using hstrip
        rw [ih hrest, List.cons_append]
      · simp [strip?, heq] at hstrip

theorem eq_append_of_cut?
    {mark text front back : Text} (hcut : cut? mark text = some (front, back)) :
    text = front ++ mark ++ back := by
  induction text generalizing front with
  | nil =>
    simp only [cut?] at hcut
    split at hcut <;> simp_all
  | cons c text ih =>
    rw [cut?] at hcut
    split at hcut
    · rename_i after hstrip
      obtain ⟨rfl, rfl⟩ : [] = front ∧ after = back := by simpa using hcut
      exact eq_append_of_strip? hstrip
    · obtain ⟨⟨before, after⟩, hfound, heq⟩ := Option.map_eq_some_iff.mp hcut
      obtain ⟨rfl, rfl⟩ : c :: before = front ∧ after = back := by simpa using heq
      rw [ih hfound]
      simp

section Pieces

variable {α : Type} {read? : Text → Option (α × Text)}

/-- The characters to skip are passed over whatever they are. -/
theorem piecesAfter_eq_pieces_drop (skip : Nat) (text : Text) :
    piecesAfter read? skip text = pieces read? (text.drop skip) := by
  induction text generalizing skip with
  | nil => cases skip <;> rfl
  | cons c text ih =>
    cases skip with
    | zero => rfl
    | succ skip => exact ih skip

theorem pieces_cons_of_read
    {c : Char} {tag : α} {text after : Text} (hread : read? (c :: text) = some (tag, after)) :
    pieces read? (c :: text) =
      .tag tag :: pieces read? (text.drop (text.length - after.length)) := by
  rw [pieces, piecesAfter, hread]
  dsimp only
  rw [piecesAfter_eq_pieces_drop]

/-- A text is read from the front: behind a character that begins no tag, or behind a tag. -/
theorem pieces_induction
    (read? : Text → Option (α × Text)) {motive : Text → Prop} (nil : motive [])
    (char : ∀ c text, read? (c :: text) = none → motive text → motive (c :: text))
    (tag : ∀ c text tag after, read? (c :: text) = some (tag, after) →
      motive (text.drop (text.length - after.length)) → motive (c :: text))
    (text : Text) :
    motive text := by
  suffices hskip : ∀ skip, motive (text.drop skip) from hskip 0
  induction text with
  | nil =>
    intro skip
    rw [List.drop_nil]
    exact nil
  | cons c text ih =>
    intro skip
    cases skip with
    | succ skip => exact ih skip
    | zero =>
      cases hread : read? (c :: text) with
      | none => exact char c text hread (ih 0)
      | some found => exact tag c text found.1 found.2 hread (ih _)

/-- What stands behind the front of a text, by its length. -/
theorem drop_eq_of_cons_eq_append
    {c : Char} {text lead after : Text} (hlead : lead ≠ []) (htext : c :: text = lead ++ after) :
    text.drop (text.length - after.length) = after := by
  cases lead with
  | nil => exact absurd rfl hlead
  | cons d lead =>
    rw [List.cons_append, List.cons.injEq] at htext
    obtain ⟨-, rfl⟩ := htext
    have hskip : (lead ++ after).length - after.length = lead.length := by simp
    rw [hskip, List.drop_left]

theorem pieces_of_read
    {tag : α} {lead rest : Text} (hlead : lead ≠ [])
    (hread : read? (lead ++ rest) = some (tag, rest)) :
    pieces read? (lead ++ rest) = .tag tag :: pieces read? rest := by
  have hsome := List.append_ne_nil_of_left_ne_nil hlead rest
  obtain ⟨c, text, htext⟩ := List.exists_cons_of_ne_nil hsome
  rw [htext] at hread ⊢
  rw [pieces_cons_of_read hread, drop_eq_of_cons_eq_append hlead htext.symm]

theorem pieces_of_not_read
    {c : Char} {text : Text} (hread : read? (c :: text) = none) :
    pieces read? (c :: text) = .char c :: pieces read? text := by
  rw [pieces, piecesAfter, hread]
  rfl

theorem pieces_append_of_not_read
    {lead : Text} (hread : ∀ c ∈ lead, ∀ rest, read? (c :: rest) = none) (text : Text) :
    pieces read? (lead ++ text) = lead.map .char ++ pieces read? text := by
  induction lead with
  | nil => rfl
  | cons c lead ih =>
    rw [List.cons_append, pieces_of_not_read (hread c List.mem_cons_self _),
      ih fun d hd => hread d (List.mem_cons_of_mem c hd)]
    rfl

theorem tags_append_of_not_read
    {lead : Text} (hread : ∀ c ∈ lead, ∀ rest, read? (c :: rest) = none) (text : Text) :
    tags read? (lead ++ text) = tags read? text := by
  simp [tags, pieces_append_of_not_read hread, List.filterMap_map]

theorem replaceTags_append_of_not_read
    {lead : Text} (hread : ∀ c ∈ lead, ∀ rest, read? (c :: rest) = none) (f : α → Text)
    (text : Text) :
    replaceTags read? f (lead ++ text) = lead ++ replaceTags read? f text := by
  simp [replaceTags, pieces_append_of_not_read hread, List.flatMap_map]

/-- What a reader finds in a part of a text, whatever stands behind the part. -/
def FindsIn (read? : Text → Option (α × Text)) (part : Text) (found : List (Piece α)) : Prop :=
  ∀ rest, pieces read? (part ++ rest) = found ++ pieces read? rest

theorem FindsIn.pieces_eq
    {text : Text} {found : List (Piece α)} (hfinds : FindsIn read? text found) :
    pieces read? text = found := by
  have hpieces := hfinds []
  rwa [List.append_nil, show pieces read? [] = [] from rfl, List.append_nil] at hpieces

theorem pieces_eq_chars
    {text : Text} (hread : ∀ c ∈ text, ∀ rest, read? (c :: rest) = none) :
    pieces read? text = text.map .char :=
  FindsIn.pieces_eq (pieces_append_of_not_read hread)

theorem FindsIn.tag
    {part : Text} {tag : α} (hpart : part ≠ [])
    (hread : ∀ rest, read? (part ++ rest) = some (tag, rest)) :
    FindsIn read? part [.tag tag] :=
  fun rest => pieces_of_read hpart (hread rest)

/-- What the replacement of tags makes of a part of a text, whatever stands behind the part. -/
def Becomes (read? : Text → Option (α × Text)) (f : α → Text) (part result : Text) : Prop :=
  ∀ rest, replaceTags read? f (part ++ rest) = result ++ replaceTags read? f rest

theorem FindsIn.becomes_self
    {part : Text} (hfinds : FindsIn read? part (part.map .char)) (f : α → Text) :
    Becomes read? f part part := by
  intro rest
  simp [replaceTags, hfinds rest, List.flatMap_map]

theorem FindsIn.becomes_value
    {part : Text} {tag : α} (hfinds : FindsIn read? part [.tag tag]) (f : α → Text) :
    Becomes read? f part (f tag) := by
  intro rest
  simp [replaceTags, hfinds rest]

/-- The replacement of tags goes through a text part by part. -/
theorem replaceTags_flatMap
    {ι : Type} {f : α → Text} {written result : ι → Text} {parts : List ι}
    (hparts : ∀ part ∈ parts, Becomes read? f (written part) (result part)) :
    replaceTags read? f (parts.flatMap written) = parts.flatMap result := by
  induction parts with
  | nil => rfl
  | cons part parts ih =>
    obtain ⟨hpart, hparts⟩ := List.forall_mem_cons.mp hparts
    rw [List.flatMap_cons, List.flatMap_cons, hpart, ih hparts]

theorem pieces_of_tags_eq_nil
    {text : Text} (htags : tags read? text = []) :
    pieces read? text = text.map .char := by
  induction text with
  | nil => rfl
  | cons c text ih =>
    cases hread : read? (c :: text) with
    | some found =>
      simp [tags, pieces, piecesAfter, hread] at htags
    | none =>
      have hpieces := pieces_of_not_read hread
      have hrest : tags read? text = [] := by
        simpa [tags, hpieces] using htags
      rw [hpieces, ih hrest]
      rfl

theorem replaceTags_of_tags_eq_nil
    {text : Text} (f : α → Text) (htags : tags read? text = []) :
    replaceTags read? f text = text := by
  simp [replaceTags, pieces_of_tags_eq_nil htags, List.flatMap_map]

/-- Every tag of a text is read at some place of it. -/
theorem exists_read_of_mem_tags
    {text : Text} {tag : α} (hmem : tag ∈ tags read? text) :
    ∃ before after rest, text = before ++ after ∧ read? after = some (tag, rest) := by
  induction text using pieces_induction read? with
  | nil => cases hmem
  | char c text hread ih =>
    rw [tags, pieces_of_not_read hread] at hmem
    obtain ⟨before, after, rest, rfl, hfound⟩ := ih hmem
    exact ⟨c :: before, after, rest, rfl, hfound⟩
  | tag c text first behind hread ih =>
    rw [tags, pieces_cons_of_read hread] at hmem
    rcases List.mem_cons.mp hmem with rfl | hlater
    · exact ⟨[], c :: text, behind, rfl, hread⟩
    · obtain ⟨before, after, rest, hbehind, hfound⟩ := ih hlater
      refine ⟨c :: (text.take (text.length - behind.length) ++ before), after, rest, ?_, hfound⟩
      rw [List.cons_append, List.append_assoc, ← hbehind, List.take_append_drop]

end Pieces

end Text

namespace Tag

theorem upTo?_append
    {allowed : Char → Bool} {c : Char} {body : Text} (hbody : ∀ d ∈ body, allowed d ∧ d ≠ c)
    (rest : Text) :
    upTo? allowed [c] (body ++ c :: rest) = some (body, rest) := by
  induction body with
  | nil => simp [upTo?, Text.strip?]
  | cons d body ih =>
    obtain ⟨⟨hallowed, hne⟩, hrest⟩ := List.forall_mem_cons.mp hbody
    simp [upTo?, Text.strip?, hne.symm, hallowed, ih hrest]

/-- A body without the closing mark is read as it is written. -/
theorem body?_append
    {allowed : Char → Bool} {c : Char} {body : Text} (hsome : body ≠ [])
    (hbody : ∀ d ∈ body, allowed d ∧ d ≠ c) (rest : Text) :
    body? allowed [c] (body ++ c :: rest) = some (body, rest) := by
  cases body with
  | nil => exact absurd rfl hsome
  | cons d body =>
    obtain ⟨⟨hallowed, -⟩, hrest⟩ := List.forall_mem_cons.mp hbody
    simp [body?, hallowed, upTo?_append hrest]

theorem enclosed?_append
    (opening : Text) {c : Char} {body : Text} (hsome : body ≠ [])
    (hbody : ∀ d ∈ body, staysOnLine d ∧ d ≠ c) (rest : Text) :
    enclosed? opening [c] (opening ++ body ++ c :: rest) = some (body, rest) := by
  simp only [enclosed?, List.append_assoc, Text.strip?_append, Option.bind_eq_bind,
    Option.bind_some, body?_append hsome hbody]

/-- A number between its marks is read as it is written; the closing mark begins with no digit. -/
theorem numbered?_append
    (opening closing rest : Text) {digits : Text} {c : Char}
    (hdigits : ∀ d ∈ digits, Text.isDecimalDigit d) (hsome : digits ≠ [])
    (hclosing : Text.isDecimalDigit c = false) :
    numbered? opening (c :: closing) (opening ++ digits ++ c :: closing ++ rest) =
      some (digits, rest) := by
  have htake :
      (digits ++ (c :: closing ++ rest)).takeWhile Text.isDecimalDigit = digits := by
    simp [List.takeWhile_append_of_pos hdigits, hclosing]
  have hdrop :
      (digits ++ (c :: closing ++ rest)).dropWhile Text.isDecimalDigit = c :: closing ++ rest := by
    rw [List.dropWhile_append_of_pos hdigits]
    simp [hclosing]
  have hempty : digits.isEmpty = false := by simpa using hsome
  simp only [numbered?, List.append_assoc, Text.strip?_append, Option.bind_eq_bind,
    Option.bind_some, htake, hdrop, hempty, Bool.false_eq_true, if_false]

theorem ne_nil_of_numbered?
    {opening closing text digits rest : Text}
    (hread : numbered? opening closing text = some (digits, rest)) :
    digits ≠ [] := by
  rintro rfl
  simp only [numbered?, Option.bind_eq_bind, Option.bind_eq_some_iff] at hread
  obtain ⟨after, -, hread⟩ := hread
  split at hread
  · simp at hread
  · rename_i hsome
    simp only [Option.bind_eq_some_iff, Option.some.injEq, Prod.mk.injEq] at hread
    obtain ⟨_, -, hempty, -⟩ := hread
    simp [hempty] at hsome

theorem ne_nil_of_mem_tags
    {opening closing text digits : Text}
    (hmem : digits ∈ Text.tags (numbered? opening closing) text) :
    digits ≠ [] := by
  obtain ⟨_, _, _, -, hread⟩ := Text.exists_read_of_mem_tags hmem
  exact ne_nil_of_numbered? hread

end Tag

end DialogueScript

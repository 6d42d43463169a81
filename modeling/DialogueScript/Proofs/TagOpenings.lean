import DialogueScript.Proofs.TagReading
import DialogueScript.Template

/-!
# Openings of tags

Every tag begins with an opening, a text that starts with an angle or a brace.  A reader finds
nothing in a text that lacks the openings it looks for, and it passes over a part of a text that
opens in another way.
-/

namespace DialogueScript

namespace Text

/-- No character of the text begins a tag. -/
def Plain (text : Text) : Prop :=
  ∀ c ∈ text, c ≠ '<' ∧ c ≠ '\x7b'

instance (text : Text) : Decidable text.Plain :=
  List.decidableBAll (fun c => c ≠ '<' ∧ c ≠ '\x7b') text

theorem Plain.append {text other : Text} (htext : text.Plain) (hother : other.Plain) :
    Plain (text ++ other) :=
  List.forall_mem_append.mpr ⟨htext, hother⟩

def OpensTag (opening : Text) : Prop :=
  opening.head? = some '<' ∨ opening.head? = some '\x7b'

instance (opening : Text) : Decidable opening.OpensTag :=
  inferInstanceAs (Decidable (_ ∨ _))

/-! ## Telling openings apart -/

/-- The two texts differ at a place that both of them have. -/
def clashes : Text → Text → Bool
  | c :: text, d :: other => c ≠ d || clashes text other
  | _, _ => false

theorem clashes_append (lead text other : Text) :
    clashes (lead ++ text) (lead ++ other) = clashes text other := by
  induction lead with
  | nil => rfl
  | cons c lead ih => simpa [clashes] using ih

/-- Two texts that a mark ends differ before the mark. -/
theorem clashes_of_ne
    {c : Char} {text other : Text} (htext : c ∉ text) (hother : c ∉ other) (hne : text ≠ other) :
    clashes (text ++ [c]) (other ++ [c]) := by
  induction text generalizing other with
  | nil =>
    cases other with
    | nil => exact absurd rfl hne
    | cons d other => simp [clashes, List.ne_of_not_mem_cons hother]
  | cons d text ih =>
    cases other with
    | nil => simp [clashes, (List.ne_of_not_mem_cons htext).symm]
    | cons e other =>
      by_cases heq : d = e
      · subst heq
        have hrest : text ≠ other := fun hrest => hne (hrest ▸ rfl)
        simpa [clashes] using ih (List.not_mem_of_not_mem_cons htext)
          (List.not_mem_of_not_mem_cons hother) hrest
      · simp [clashes, heq]

theorem strip?_append_of_clashes
    {opening lead : Text} (hclash : clashes opening lead) (rest : Text) :
    strip? opening (lead ++ rest) = none := by
  induction opening generalizing lead with
  | nil => simp [clashes] at hclash
  | cons c opening ih =>
    cases lead with
    | nil => simp [clashes] at hclash
    | cons d lead =>
      rw [List.cons_append, strip?]
      split
      · rename_i heq
        exact ih (by simpa [clashes, heq] using hclash)
      · rfl

theorem strip?_eq_none_of_ne
    {opening : Text} (hopening : opening.OpensTag) {c : Char} (hc : c ≠ '<' ∧ c ≠ '\x7b')
    (rest : Text) :
    strip? opening (c :: rest) = none := by
  cases opening with
  | nil => simp [OpensTag] at hopening
  | cons d opening =>
    have hne : d ≠ c := by
      rintro rfl
      simp [OpensTag, hc] at hopening
    simp [strip?, hne]

/-- What a part of a text may begin with, to be told apart from the openings at its first character:
nothing, or an opening that differs from them. -/
def Opened (openings : List Text) (lead : Text) : Prop :=
  lead = [] ∨ (∀ opening ∈ openings, clashes opening lead) ∧ Plain lead.tail

instance (openings : List Text) (lead : Text) : Decidable (Opened openings lead) :=
  inferInstanceAs (Decidable (_ ∨ _ ∧ _))

theorem Opened.mono
    {openings more : List Text} {lead : Text} (hlead : Opened more lead) (hsub : openings ⊆ more) :
    Opened openings lead :=
  hlead.imp_right fun ⟨hclash, htail⟩ =>
    ⟨fun opening hopening => hclash opening (hsub hopening), htail⟩

/-- A part of a text that opens in none of these ways, but perhaps in another one. -/
def Apart (openings : List Text) (part : Text) : Prop :=
  ∃ lead body, part = lead ++ body ∧ Opened openings lead ∧ Plain body

theorem Apart.mono
    {openings more : List Text} {part : Text} (hpart : Apart more part) (hsub : openings ⊆ more) :
    Apart openings part := by
  obtain ⟨lead, body, rfl, hlead, hbody⟩ := hpart
  exact ⟨lead, body, rfl, hlead.mono hsub, hbody⟩

theorem Plain.apart {part : Text} (hplain : part.Plain) (openings : List Text) :
    Apart openings part :=
  ⟨[], part, rfl, .inl rfl, hplain⟩

/-- None of the openings stands in the text. -/
def Lacks (text : Text) (openings : List Text) : Prop :=
  ∀ back, back <:+ text → ∀ opening ∈ openings, strip? opening back = none

section Lacks

variable {text : Text} {openings : List Text}

theorem Lacks.mono {more : List Text} (hlacks : text.Lacks more) (hsub : openings ⊆ more) :
    text.Lacks openings :=
  fun back hback opening hopening => hlacks back hback opening (hsub hopening)

theorem Lacks.cons
    {c : Char} (hlacks : text.Lacks openings)
    (hfront : ∀ opening ∈ openings, strip? opening (c :: text) = none) :
    Lacks (c :: text) openings := by
  intro back hback
  rcases List.suffix_cons_iff.mp hback with rfl | hback
  · exact hfront
  · exact hlacks back hback

variable (hopens : ∀ opening ∈ openings, opening.OpensTag)

include hopens

theorem Lacks.append {front : Text} (hfront : front.Plain) (hlacks : text.Lacks openings) :
    Lacks (front ++ text) openings := by
  induction front with
  | nil => exact hlacks
  | cons c front ih =>
    obtain ⟨hc, hfront⟩ := List.forall_mem_cons.mp hfront
    exact (ih hfront).cons fun opening hopening =>
      strip?_eq_none_of_ne (hopens opening hopening) hc _

theorem Lacks.append_opened
    {lead body : Text} (hlead : Opened openings lead) (hbody : body.Plain)
    (hlacks : text.Lacks openings) :
    Lacks (lead ++ body ++ text) openings := by
  rcases hlead with rfl | ⟨hclash, htail⟩
  · exact hlacks.append hopens hbody
  · cases lead with
    | nil => exact hlacks.append hopens hbody
    | cons c lead =>
      have hplain : Plain (lead ++ body) := htail.append hbody
      refine (hlacks.append hopens hplain).cons fun opening hopening => ?_
      simpa using strip?_append_of_clashes (hclash opening hopening) (body ++ text)

theorem lacks_nil : Lacks [] openings := by
  intro back hback opening hopening
  rw [List.suffix_nil.mp hback]
  cases opening with
  | nil => simpa [OpensTag] using hopens [] hopening
  | cons c opening => rfl

theorem lacks_flatMap
    {ι : Type} {written : ι → Text} {parts : List ι}
    (hparts : ∀ part ∈ parts, Apart openings (written part)) :
    Lacks (parts.flatMap written) openings := by
  induction parts with
  | nil => exact lacks_nil hopens
  | cons part parts ih =>
    obtain ⟨hpart, hparts⟩ := List.forall_mem_cons.mp hparts
    obtain ⟨lead, body, heq, hlead, hbody⟩ := hpart
    rw [List.flatMap_cons, heq]
    exact (ih hparts).append_opened hopens hlead hbody

theorem Plain.lacks (hplain : text.Plain) : text.Lacks openings := by
  have hlacks := (lacks_nil hopens).append hopens hplain
  rwa [List.append_nil] at hlacks

end Lacks

/-! ## Readers -/

section Readers

variable {α : Type} {read? : Text → Option (α × Text)} {openings : List Text} {text : Text}

/-- The reader reads nothing where none of the openings stands. -/
def OpensWith (read? : Text → Option (α × Text)) (openings : List Text) : Prop :=
  ∀ text, (∀ opening ∈ openings, strip? opening text = none) → read? text = none

theorem OpensWith.tags_eq_nil (hread : OpensWith read? openings) (hlacks : text.Lacks openings) :
    tags read? text = [] := by
  rw [List.eq_nil_iff_forall_not_mem]
  intro tag hmem
  obtain ⟨front, back, rest, rfl, hfound⟩ := exists_read_of_mem_tags hmem
  rw [hread back (hlacks back (List.suffix_append front back))] at hfound
  simp at hfound

theorem OpensWith.replaceTags_eq
    (hread : OpensWith read? openings) (hlacks : text.Lacks openings) (f : α → Text) :
    replaceTags read? f text = text :=
  replaceTags_of_tags_eq_nil f (hread.tags_eq_nil hlacks)

/-- A reader passes over a part of a text that opens in no way that it looks for. -/
theorem OpensWith.findsIn_chars
    (hread : OpensWith read? openings) (hopens : ∀ opening ∈ openings, opening.OpensTag)
    {lead body : Text} (hlead : Opened openings lead) (hbody : body.Plain) :
    FindsIn read? (lead ++ body) ((lead ++ body).map .char) := by
  have hplain : ∀ {part : Text}, part.Plain → FindsIn read? part (part.map .char) :=
    fun {part} hpart => pieces_append_of_not_read fun c hc rest => hread (c :: rest)
      fun opening hopening => strip?_eq_none_of_ne (hopens opening hopening) (hpart c hc) rest
  rcases hlead with rfl | ⟨hclash, htail⟩
  · exact hplain hbody
  · cases lead with
    | nil => exact hplain hbody
    | cons c lead =>
      intro rest
      have hplainRest : Plain (lead ++ body) := htail.append hbody
      have hfront : read? (c :: (lead ++ body ++ rest)) = none :=
        hread _ fun opening hopening => by
          simpa using strip?_append_of_clashes (hclash opening hopening) (body ++ rest)
      rw [List.cons_append, List.cons_append, pieces_of_not_read hfront, hplain hplainRest]
      rfl

theorem OpensWith.becomes_self
    (hread : OpensWith read? openings) (hopens : ∀ opening ∈ openings, opening.OpensTag)
    {part : Text} (hpart : Apart openings part) (f : α → Text) :
    Becomes read? f part part := by
  obtain ⟨lead, body, rfl, hlead, hbody⟩ := hpart
  exact (hread.findsIn_chars hopens hlead hbody).becomes_self f

theorem opensWith_literal? (opening : Text) : OpensWith (literal? opening) [opening] := by
  intro text hstrip
  rw [literal?, hstrip opening List.mem_cons_self]
  rfl

theorem opensWith_enclosed? (opening closing : Text) :
    OpensWith (Tag.enclosed? opening closing) [opening] := by
  intro text hstrip
  rw [Tag.enclosed?, hstrip opening List.mem_cons_self]
  rfl

theorem opensWith_assignment? (opening : Text) :
    OpensWith (Tag.assignment? opening) [opening] := by
  intro text hstrip
  rw [Tag.assignment?, hstrip opening List.mem_cons_self]
  rfl

theorem opensWith_numbered? (opening closing : Text) :
    OpensWith (Tag.numbered? opening closing) [opening] := by
  intro text hstrip
  rw [Tag.numbered?, hstrip opening List.mem_cons_self]
  rfl

theorem opensWith_historyIndex? (opening : Text) :
    OpensWith (Template.historyIndex? opening) [opening] := by
  intro text hstrip
  rw [Template.historyIndex?, hstrip opening List.mem_cons_self]
  rfl

theorem opensWith_codeTag? : OpensWith Template.codeTag? [Template.codeMark] := by
  intro text hstrip
  rw [Template.codeTag?, hstrip Template.codeMark List.mem_cons_self]
  rfl

theorem opensWith_starTag? :
    OpensWith Template.starTag? ["<star".toList, "<botstar".toList] := by
  intro text hstrip
  obtain ⟨hmessage, hprevious, -⟩ := by simpa only [List.forall_mem_cons] using hstrip
  rw [Template.starTag?, opensWith_numbered? _ _ text (List.forall_mem_singleton.mpr hmessage),
    opensWith_numbered? _ _ text (List.forall_mem_singleton.mpr hprevious)]
  rfl

theorem opensWith_historyTag? :
    OpensWith Template.historyTag? ["<input".toList, "<reply".toList] := by
  intro text hstrip
  obtain ⟨hinput, hreply, -⟩ := by simpa only [List.forall_mem_cons] using hstrip
  rw [Template.historyTag?, opensWith_historyIndex? _ text (List.forall_mem_singleton.mpr hinput),
    opensWith_historyIndex? _ text (List.forall_mem_singleton.mpr hreply)]
  rfl

end Readers

/-! ## Texts with one opening -/

/-- Whatever begins a tag in the text begins `lead`. -/
def OpensOnly (lead : Text) : Text → Prop
  | [] => True
  | c :: text => (c ≠ '<' ∧ c ≠ '\x7b' ∨ lead <+: c :: text) ∧ OpensOnly lead text

section OpensOnly

variable {lead text : Text}

theorem OpensOnly.append_plain
    {front : Text} (hfront : front.Plain) (hopens : OpensOnly lead text) :
    OpensOnly lead (front ++ text) := by
  induction front with
  | nil => exact hopens
  | cons c front ih =>
    obtain ⟨hc, hfront⟩ := List.forall_mem_cons.mp hfront
    exact ⟨.inl hc, ih hfront⟩

theorem OpensOnly.append_lead (htail : Plain lead.tail) (hopens : OpensOnly lead text) :
    OpensOnly lead (lead ++ text) := by
  cases lead with
  | nil => exact hopens
  | cons c lead => exact ⟨.inr (List.prefix_append _ _), hopens.append_plain htail⟩

theorem opensOnly_flatMap
    {ι : Type} {written : ι → Text} {parts : List ι} (htail : Plain lead.tail)
    (hparts : ∀ part ∈ parts, (written part).Plain ∨ written part = lead) :
    OpensOnly lead (parts.flatMap written) := by
  induction parts with
  | nil => trivial
  | cons part parts ih =>
    obtain ⟨hpart, hparts⟩ := List.forall_mem_cons.mp hparts
    rw [List.flatMap_cons]
    rcases hpart with hplain | heq
    · exact (ih hparts).append_plain hplain
    · rw [heq]
      exact (ih hparts).append_lead htail

theorem OpensOnly.drop (hopens : OpensOnly lead text) (count : Nat) :
    OpensOnly lead (text.drop count) := by
  induction text generalizing count with
  | nil => rwa [List.drop_nil]
  | cons c text ih =>
    cases count with
    | zero => exact hopens
    | succ count => exact ih hopens.2 count

theorem OpensOnly.lacks
    {openings : List Text} (hopens : OpensOnly lead text)
    (hopenings : ∀ opening ∈ openings, opening.OpensTag ∧ clashes opening lead) :
    text.Lacks openings := by
  induction text with
  | nil => exact lacks_nil fun opening hopening => (hopenings opening hopening).1
  | cons c text ih =>
    obtain ⟨hfront, hrest⟩ := hopens
    refine (ih hrest).cons fun opening hopening => ?_
    obtain ⟨hopensTag, hclash⟩ := hopenings opening hopening
    rcases hfront with hc | ⟨rest, hlead⟩
    · exact strip?_eq_none_of_ne hopensTag hc text
    · rw [← hlead]
      exact strip?_append_of_clashes hclash rest

/-- What is left when tags that begin with `lead` have been taken out still has no other opening. -/
theorem OpensOnly.replaceTags
    {α : Type} {read? : Text → Option (α × Text)} (hread : OpensWith read? [lead])
    (hlead : lead.OpensTag) (htail : Plain lead.tail) (hopens : OpensOnly lead text) :
    OpensOnly lead (Text.replaceTags read? (fun _ => []) text) := by
  have hunread : ∀ c, c ≠ '<' ∧ c ≠ '\x7b' → ∀ rest, read? (c :: rest) = none :=
    fun c hc rest => hread _ (List.forall_mem_singleton.mpr (strip?_eq_none_of_ne hlead hc rest))
  induction text using pieces_induction read? with
  | nil => trivial
  | tag c text tag after hfound ih =>
    rw [Text.replaceTags, pieces_cons_of_read hfound]
    exact ih (hopens.2.drop _)
  | char c text hfound ih =>
    obtain ⟨hfront, hrest⟩ := hopens
    rw [Text.replaceTags, pieces_of_not_read hfound]
    refine ⟨?_, ih hrest⟩
    rcases hfront with hc | hprefix
    · exact .inl hc
    · -- what follows the opening of a tag that is not read is left as it is
      cases lead with
      | nil => simp [OpensTag] at hlead
      | cons d lead =>
        obtain ⟨rfl, rest, rfl⟩ := List.cons_prefix_cons.mp hprefix
        have hlead : ∀ c ∈ lead, ∀ rest, read? (c :: rest) = none :=
          fun c hc => hunread c (htail c hc)
        have hkept := replaceTags_append_of_not_read hlead (fun _ : α => []) rest
        refine .inr (List.cons_prefix_cons.mpr ⟨rfl, ?_⟩)
        change lead <+: Text.replaceTags read? _ (lead ++ rest)
        rw [hkept]
        exact List.prefix_append _ _

end OpensOnly

end Text

end DialogueScript

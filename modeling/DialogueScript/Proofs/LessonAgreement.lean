import DialogueScript.Proofs.LearnedFacts
import DialogueScript.Proofs.LookupTags
import DialogueScript.Proofs.RememberedAnswers
import DialogueScript.Proofs.VariableTags
import DialogueScript.Proofs.WeightedChoice

/-!
# Lessons and sessions

The template of a trigger that learns is read twice: its facts become variables of the bot, and as a
reply it sets the same variables in the session.  Both readings fill in the stars in their own way,
and find the same tags; but only what the bot learns is trimmed.
-/

namespace DialogueScript

namespace Template

theorem starValue_one (stars : List Text) : starValue stars 1 = stars.head?.getD undefined := by
  rw [← star_eq_starValue (by decide)]
  cases stars <;> simp [star]

theorem starValue_of_exists
    {stars : List Text} {n : Nat} (hexists : 1 ≤ n ∧ n ≤ stars.length ∧ n < Number.wordLimit) :
    starValue stars n = (stars[n - 1]?).getD [] := by
  rw [starValue, dif_pos hexists, List.getElem?_eq_getElem (by omega)]
  rfl

/-! ## Templates that set variables -/

/-- Text that stays as it is. -/
structure Words where
  text : Text
  inert : text.Inert

/-- A piece of a value: text, or a star of the message. -/
inductive Slot where
  | prose (words : Words)
  | star (number : Option Nat)

/-- Text, or a tag that sets a variable. -/
inductive LessonPart where
  | prose (words : Words)
  | set (name : Words) (value : List Slot)

namespace Slot

def written : Slot → Text
  | .prose words => words.text
  | .star none => "<star>".toList
  | .star (some n) => "<star".toList ++ Number.natText n ++ ['>']

/-- The piece with its star, if this exists; the first of no stars is `undefined`. -/
def filled (stars : List Text) : Slot → Text
  | .prose words => words.text
  | .star none => stars.head?.getD undefined
  | .star (some n) => (stars[n - 1]?).getD []

/-- The number of the star, if it has one, is that of a star that exists. -/
def Within (stars : List Text) : Slot → Prop
  | .star (some n) => 1 ≤ n ∧ n ≤ stars.length ∧ n < Number.wordLimit
  | _ => True

instance (stars : List Text) (slot : Slot) : Decidable (slot.Within stars) :=
  match slot with
  | .prose _ => inferInstanceAs (Decidable True)
  | .star none => inferInstanceAs (Decidable True)
  | .star (some _) => inferInstanceAs (Decidable (_ ∧ _))

def fragment : Slot → Fragment
  | .prose words => .prose words.text
  | .star number => .lookup (.star .user (number.map Numeral.ofNat))

theorem written_fragment (slot : Slot) : slot.fragment.written = slot.written := by
  rcases slot with words | _ | n <;> rfl

theorem value_fragment
    {slot : Slot} {stars : Stars} (hwithin : slot.Within stars.message) (turn : Turn) :
    slot.fragment.value turn stars = slot.filled stars.message := by
  rcases slot with words | _ | n
  · rfl
  · exact starValue_one stars.message
  · change starValue stars.message (Numeral.ofNat n).value = _
    rw [Numeral.value_ofNat]
    exact starValue_of_exists hwithin

end Slot

namespace LessonPart

def written : LessonPart → Text
  | .prose words => words.text
  | .set name value => "<set ".toList ++ name.text ++ '=' :: value.flatMap Slot.written ++ ['>']

def filled (stars : List Text) : LessonPart → Text
  | .prose words => words.text
  | .set name value =>
    "<set ".toList ++ name.text ++ '=' :: value.flatMap (Slot.filled stars) ++ ['>']

def Within (stars : List Text) : LessonPart → Prop
  | .prose _ => True
  | .set _ value => ∀ slot ∈ value, slot.Within stars

instance (stars : List Text) (part : LessonPart) : Decidable (part.Within stars) :=
  match part with
  | .prose _ => inferInstanceAs (Decidable True)
  | .set _ value => inferInstanceAs (Decidable (∀ slot ∈ value, slot.Within stars))

def fragments : LessonPart → List Fragment
  | .prose words => [.prose words.text]
  | .set name value =>
    .prose "<set ".toList :: .prose name.text :: .prose ['='] ::
      (value.map Slot.fragment ++ [.prose ['>']])

theorem flatMap_fragments_set
    {f : Fragment → Text} (hprose : ∀ text, f (.prose text) = text) (name : Words)
    (value : List Slot) :
    (set name value).fragments.flatMap f =
      "<set ".toList ++ name.text ++
        '=' :: value.flatMap (fun slot => f slot.fragment) ++ ['>'] := by
  simp [fragments, hprose, List.flatMap_map]

theorem flatMap_written_fragments (part : LessonPart) :
    part.fragments.flatMap Fragment.written = part.written := by
  cases part with
  | prose words => exact List.append_nil _
  | set name value =>
    have hset := @flatMap_fragments_set Fragment.written (fun _ => rfl) name value
    simp only [Slot.written_fragment] at hset
    exact hset

theorem flatMap_value_fragments
    {part : LessonPart} {stars : Stars} (hwithin : part.Within stars.message) (turn : Turn) :
    part.fragments.flatMap (Fragment.value turn stars) = part.filled stars.message := by
  cases part with
  | prose words => exact List.append_nil _
  | set name value =>
    have hvalue : value.flatMap (fun slot => slot.fragment.value turn stars) =
        value.flatMap (Slot.filled stars.message) :=
      List.flatMap_congr fun slot hmem => Slot.value_fragment (hwithin slot hmem) turn
    have hset := @flatMap_fragments_set (Fragment.value turn stars) (fun _ => rfl) name value
    rw [hvalue] at hset
    exact hset

end LessonPart

/-- What a template that sets variables is made of. -/
inductive InLesson (stars : List Text) : Fragment → Prop
  | prose {text : Text} (hinert : text.Inert) : InLesson stars (.prose text)
  | opening : InLesson stars (.prose "<set ".toList)
  | star : InLesson stars (.lookup (.star .user none))
  | numbered {n : Nat} (hone : 1 ≤ n) (hlength : n ≤ stars.length) (hlimit : n < Number.wordLimit) :
    InLesson stars (.lookup (.star .user (some (.ofNat n))))

theorem Slot.inLesson_fragment
    {slot : Slot} {stars : List Text} (hwithin : slot.Within stars) :
    InLesson stars slot.fragment := by
  rcases slot with words | _ | n
  · exact .prose words.inert
  · exact .star
  · exact .numbered hwithin.1 hwithin.2.1 hwithin.2.2

theorem LessonPart.inLesson_fragments
    {part : LessonPart} {stars : List Text} (hwithin : part.Within stars) :
    ∀ fragment ∈ part.fragments, InLesson stars fragment := by
  cases part with
  | prose words => exact List.forall_mem_singleton.mpr (.prose words.inert)
  | set name value =>
    simp only [fragments, List.forall_mem_cons, List.forall_mem_append, List.forall_mem_map]
    exact ⟨.opening, .prose name.inert, .prose (by decide),
      fun slot hmem => slot.inLesson_fragment (hwithin slot hmem), .prose (by decide),
      List.forall_mem_nil _⟩

/-! ## Filling in for the session -/

namespace InLesson

variable {stars : List Text} {fragment : Fragment}

theorem plain_starValue (hplain : ∀ star ∈ stars, star.Plain) (n : Nat) :
    (starValue stars n).Plain := by
  have hundefined : undefined.Plain := by decide
  unfold starValue
  split_ifs with hexists hnone
  · exact hplain _ (List.getElem_mem _)
  · exact hundefined
  · exact List.forall_mem_nil _

theorem plain_value_or_eq
    {stars : Stars} (hplain : ∀ star ∈ stars.message, star.Plain)
    (hlesson : InLesson stars.message fragment) (turn : Turn) :
    (fragment.value turn stars).Plain ∨ fragment.value turn stars = "<set ".toList := by
  cases hlesson with
  | prose hinert => exact .inl hinert.1
  | opening => exact .inr rfl
  | star | numbered => exact .inl (plain_starValue hplain _)

end InLesson

theorem fillable_of_inLesson
    {stars : Stars} {fragments : List Fragment} (hplain : ∀ star ∈ stars.message, star.Plain)
    (hlesson : ∀ fragment ∈ fragments, InLesson stars.message fragment) (turn : Turn) :
    Fillable turn stars fragments where
  apart fragment hmem _ := by
    rcases (hlesson fragment hmem).plain_value_or_eq hplain turn with hvalue | hvalue
    · exact hvalue.apart _
    · rw [hvalue]
      exact ⟨"<set ".toList, [], rfl, by decide, by decide⟩
  unescaped fragment hmem hsettled := by
    cases hlesson fragment hmem with
    | prose hinert => exact hinert.2
    | opening => exact (by decide : '\\' ∉ "<set ".toList)
    | star => exact absurd hsettled (by decide)
    | numbered => exact absurd hsettled (by decide : Kind.star ∉ earlyKinds)

theorem fill_of_inLesson
    {stars : Stars} {fragments : List Fragment} (hplain : ∀ star ∈ stars.message, star.Plain)
    (hlesson : ∀ fragment ∈ fragments, InLesson stars.message fragment) (turn : Turn) :
    fill turn.session stars (writeFragments fragments) =
      fragments.flatMap (Fragment.value turn stars) := by
  rw [(fillable_of_inLesson hplain hlesson turn).fill_writeFragments, List.flatMap_map]
  refine List.flatMap_congr fun fragment hmem => ?_
  cases hlesson fragment hmem <;> rfl

/-! ## Filling in for the bot -/

/-- A fragment when the stars up to this one have been filled in. -/
def taught (stars : List Text) (count : Nat) : Fragment → Text
  | .lookup (.star .user none) => stars.head?.getD undefined
  | .lookup (.star .user (some number)) =>
    if number.value ≤ count then (stars[number.value - 1]?).getD []
    else (Lookup.star .user (some number)).written
  | fragment => fragment.written

section Taught

variable {stars : List Text}

/-- The tag of the star with this number. -/
def starMark (n : Nat) : Text :=
  "<star".toList ++ Number.natText n ++ ['>']

theorem not_mem_natText_of_not_isDigit {c : Char} (hc : c.isDigit = false) (n : Nat) :
    c ∉ Number.natText n := by
  intro hmem
  rw [Number.isDigit_of_mem_natText hmem] at hc
  cases hc

theorem apart_starMark {n m : Nat} (hne : n ≠ m) : Text.Apart [starMark n] (starMark m) := by
  have hmark : ∀ n, '>' ∉ Number.natText n := not_mem_natText_of_not_isDigit (by decide)
  have hdiffer : Number.natText n ≠ Number.natText m := by
    intro heq
    have hvalue := congrArg Number.ofDigits heq
    rw [Number.ofDigits_natText, Number.ofDigits_natText] at hvalue
    exact hne hvalue
  have hdigits : (Number.natText m).Inert :=
    Lookup.inert_of_isDigit fun _ => Number.isDigit_of_mem_natText
  have htail : Text.Plain ("star".toList ++ Number.natText m ++ ['>']) := by
    have hname : Text.Plain "star".toList := by decide
    have hend : Text.Plain ['>'] := by decide
    exact (hname.append hdigits.1).append hend
  have hclash : Text.clashes (starMark n) (starMark m) := by
    have hdigits := Text.clashes_of_ne (hmark n) (hmark m) hdiffer
    rw [← Text.clashes_append "<star".toList, ← List.append_assoc, ← List.append_assoc] at hdigits
    exact hdigits
  exact ⟨starMark m, [], (List.append_nil _).symm,
    .inr ⟨List.forall_mem_singleton.mpr hclash, htail⟩, List.forall_mem_nil _⟩

theorem taught_numbered (count n : Nat) :
    taught stars count (.lookup (.star .user (some (.ofNat n)))) =
      if n ≤ count then (stars[n - 1]?).getD [] else starMark n := by
  rw [taught, Numeral.value_ofNat]
  rfl

variable {fragments : List Fragment} (hlesson : ∀ fragment ∈ fragments, InLesson stars fragment)

include hlesson

theorem replaceAll_bareStar :
    Text.replaceAll "<star>".toList (stars.head?.getD undefined) (writeFragments fragments) =
      fragments.flatMap (taught stars 0) := by
  have hread := Text.opensWith_literal? "<star>".toList
  refine Text.replaceTags_flatMap fun fragment hmem => ?_
  cases hlesson fragment hmem with
  | prose hinert => exact hread.becomes_self (by decide) (hinert.1.apart _) _
  | opening =>
    exact hread.becomes_self (by decide) ⟨"<set ".toList, [], rfl, by decide, by decide⟩ _
  | star => exact Lookup.becomes_literal (by decide) _
  | @numbered n hone hlength hlimit =>
    rw [taught_numbered, if_neg (by omega)]
    have hkind : (Lookup.star .user (some (.ofNat n))).kind ∉ [Kind.bareStar .user] := by
      simp [Lookup.kind]
    exact hread.becomes_self (by decide) (Lookup.apart_written (by decide) hkind) _

variable (hplain : ∀ star ∈ stars, star.Plain)

include hplain

theorem replaceAll_star (count : Nat) (hcount : count < stars.length) :
    Text.replaceAll (starMark (count + 1)) stars[count] (fragments.flatMap (taught stars count)) =
      fragments.flatMap (taught stars (count + 1)) := by
  have hread := Text.opensWith_literal? (starMark (count + 1))
  have hopens : ∀ opening ∈ [starMark (count + 1)], opening.OpensTag :=
    List.forall_mem_singleton.mpr (.inl rfl)
  refine Text.replaceTags_flatMap fun fragment hmem => ?_
  cases hlesson fragment hmem with
  | prose hinert => exact hread.becomes_self hopens (hinert.1.apart _) _
  | opening =>
    have hopened : Text.Opened [starMark (count + 1)] "<set ".toList :=
      .inr ⟨List.forall_mem_singleton.mpr rfl, by decide⟩
    exact hread.becomes_self hopens ⟨"<set ".toList, [], rfl, hopened, by decide⟩ _
  | star =>
    have hfirst : (stars.head?.getD undefined).Plain := by
      cases stars with
      | nil => exact (by decide : undefined.Plain)
      | cons star stars => exact hplain star List.mem_cons_self
    exact hread.becomes_self hopens (hfirst.apart _) _
  | @numbered n hone hlength hlimit =>
    rw [taught_numbered, taught_numbered]
    rcases Nat.lt_trichotomy n (count + 1) with hbefore | rfl | hafter
    · have hvalue : ((stars[n - 1]?).getD []).Plain := by
        rw [List.getElem?_eq_getElem (by omega)]
        exact hplain _ (List.getElem_mem _)
      rw [if_pos (by omega), if_pos (by omega)]
      exact hread.becomes_self hopens (hvalue.apart _) _
    · rw [if_neg (by omega), if_pos (Nat.le_refl _), Nat.add_sub_cancel,
        List.getElem?_eq_getElem hcount]
      have hsome : starMark (count + 1) ≠ [] :=
        List.append_ne_nil_of_right_ne_nil _ (List.cons_ne_nil _ _)
      exact Lookup.becomes_literal hsome _
    · rw [if_neg (by omega), if_neg (by omega)]
      exact hread.becomes_self hopens (apart_starMark (by omega)) _

theorem fillLesson_of_inLesson :
    Turn.fillLesson stars (writeFragments fragments) =
      fragments.flatMap (taught stars stars.length) := by
  -- the stars that are left when the first ones have been filled in
  suffices hleft : ∀ left front : List Text, stars = front ++ left →
      (left.zipIdx front.length).foldl
          (fun text entry => Text.replaceAll (starMark (entry.2 + 1)) entry.1 text)
          (fragments.flatMap (taught stars front.length)) =
        fragments.flatMap (taught stars stars.length) by
    refine Eq.trans ?_ (hleft stars [] rfl)
    exact congrArg (fun text => List.foldl _ text _) (replaceAll_bareStar hlesson)
  intro left
  induction left with
  | nil =>
    rintro front rfl
    rw [List.append_nil]
    rfl
  | cons star left ih =>
    rintro front rfl
    have hlength : (front ++ [star]).length = front.length + 1 := List.length_append
    have hstar := replaceAll_star hlesson hplain front.length (by simp)
    have hrest := ih (front ++ [star]) (by simp)
    rw [List.getElem_append_right (Nat.le_refl _)] at hstar
    simp only [Nat.sub_self, List.getElem_cons_zero] at hstar
    rw [List.zipIdx_cons, List.foldl_cons]
    dsimp only
    rw [hstar, ← hlength]
    exact hrest

end Taught

/-! ## One text -/

/-- A template as it is written. -/
def writeLesson (template : List LessonPart) : Text :=
  template.flatMap LessonPart.written

/-- A template with its stars. -/
def filledLesson (stars : List Text) (template : List LessonPart) : Text :=
  template.flatMap (LessonPart.filled stars)

theorem writeLesson_eq (template : List LessonPart) :
    writeLesson template = writeFragments (template.flatMap LessonPart.fragments) := by
  rw [writeFragments, List.flatMap_assoc]
  exact List.flatMap_congr fun part _ => part.flatMap_written_fragments.symm

section Lesson

variable {stars : Stars} {template : List LessonPart}
  (hplain : ∀ star ∈ stars.message, star.Plain)
  (hwithin : ∀ part ∈ template, part.Within stars.message)

include hwithin

theorem inLesson_of_within :
    ∀ fragment ∈ template.flatMap LessonPart.fragments, InLesson stars.message fragment := by
  intro fragment hmem
  obtain ⟨part, hpart, hfragment⟩ := List.mem_flatMap.mp hmem
  exact LessonPart.inLesson_fragments (hwithin part hpart) fragment hfragment

theorem filledLesson_eq (turn : Turn) :
    filledLesson stars.message template =
      (template.flatMap LessonPart.fragments).flatMap (Fragment.value turn stars) := by
  rw [List.flatMap_assoc]
  exact List.flatMap_congr fun part hmem =>
    (LessonPart.flatMap_value_fragments (hwithin part hmem) turn).symm

include hplain

/-- For the session, the template is filled in with its stars. -/
theorem fill_writeLesson (turn : Turn) :
    fill turn.session stars (writeLesson template) = filledLesson stars.message template := by
  rw [writeLesson_eq, filledLesson_eq hwithin turn]
  exact fill_of_inLesson hplain (inLesson_of_within hwithin) turn

/-- For the bot, the template is filled in to the same text. -/
theorem fillLesson_writeLesson (turn : Turn) :
    Turn.fillLesson stars.message (writeLesson template) = filledLesson stars.message template := by
  rw [writeLesson_eq, filledLesson_eq hwithin turn,
    fillLesson_of_inLesson (inLesson_of_within hwithin) hplain]
  refine List.flatMap_congr fun fragment hmem => ?_
  cases inLesson_of_within hwithin fragment hmem with
  | prose hinert => rfl
  | opening => rfl
  | star => exact (starValue_one stars.message).symm
  | numbered hone hlength hlimit =>
    rw [taught_numbered, if_pos hlength, ← starValue_of_exists ⟨hone, hlength, hlimit⟩]
    change _ = starValue stars.message (Numeral.ofNat _).value
    rw [Numeral.value_ofNat]

theorem opensOnly_filledLesson (turn : Turn) :
    Text.OpensOnly "<set ".toList (filledLesson stars.message template) := by
  rw [filledLesson_eq hwithin turn]
  exact Text.opensOnly_flatMap (by decide) fun fragment hmem =>
    (inLesson_of_within hwithin fragment hmem).plain_value_or_eq hplain turn

end Lesson

end Template

namespace Turn

/-! ## Setting variables -/

/-- A tag is carried out, and nothing is left of it. -/
def setPiece : Text.Piece (Text × Text) → TurnM Text
  | .char c => pure [c]
  | .tag assignment => do
    assign assignment.1 assignment.2
    pure []

/-- All tags that set variables are carried out. -/
theorem run_setVariables (text : Text) (turn : Turn) :
    (setVariables text).run turn =
      (Text.replaceTags Template.setTag? (fun _ => []) text,
        turn.assignAll (Text.tags Template.setTag? text)) := by
  have hset : setVariables text =
      (do
        let parts ← (Text.pieces Template.setTag? text).mapM setPiece
        pure parts.flatten : TurnM Text) := by
    unfold setVariables replaceTagsM
    congr 2
    funext piece
    cases piece <;> rfl
  rw [hset, Text.replaceTags, Text.tags]
  generalize Text.pieces Template.setTag? text = pieces
  induction pieces generalizing turn with
  | nil => exact congrArg _ turn.assignAll_nil.symm
  | cons piece pieces ih =>
    simp only [List.mapM_cons, bind_assoc, pure_bind, List.flatten_cons, List.flatMap_cons]
    have hrest : ∀ turn, (((pieces.mapM setPiece).run turn).1.flatten,
        ((pieces.mapM setPiece).run turn).2) = _ := ih
    rw [run_bind, run_bind]
    cases piece with
    | char c =>
      obtain ⟨hleft, hmade⟩ := Prod.mk.inj (hrest turn)
      exact Prod.ext (congrArg (c :: ·) hleft) hmade
    | tag assignment =>
      obtain ⟨hleft, hmade⟩ := Prod.mk.inj (hrest (turn.assignAll [assignment]))
      rw [← assignAll_append] at hmade
      exact Prod.ext hleft hmade

/-- A template that only sets variables does no more than this. -/
theorem run_expand_of_opensOnly
    {turn : Turn} {stars : Stars} {template text : Text}
    (hfill : Template.fill turn.session stars template = text)
    (hopens : Text.OpensOnly "<set ".toList text) (answer : Text → TurnM Text) :
    (expand answer stars template).run turn =
      (Text.replaceTags Template.setTag? (fun _ => []) text,
        turn.assignAll (Text.tags Template.setTag? text)) := by
  have htagless : text.EarlyTagless :=
    Template.earlyTagless_of_lacks (hopens.lacks (by decide))
  have hleft : Text.OpensOnly "<set ".toList
      (Text.replaceTags Template.setTag? (fun _ => []) text) :=
    hopens.replaceTags (Text.opensWith_assignment? _) (by decide) (by decide)
  rw [run_expand_of_earlyTagless hfill htagless, useVariables, bind_assoc, run_bind,
    run_setVariables]
  dsimp only
  generalize Text.replaceTags Template.setTag? (fun _ => []) text = left at hleft ⊢
  have hcompute : ∀ operation ∈ Arithmetic.all, compute operation left = pure left := by
    have hclash : ∀ operation ∈ Arithmetic.all,
        Text.clashes ('<' :: operation.name ++ [' ']) "<set ".toList := by
      decide
    intro operation hoperation
    refine replaceTagsM_of_tags_eq_nil ((Text.opensWith_assignment? _).tags_eq_nil ?_) _
    exact hleft.lacks (List.forall_mem_singleton.mpr ⟨.inl rfl, hclash operation hoperation⟩)
  have hread : readVariables left = pure left := by
    have hget : ∀ f, Text.replaceTags Template.getTag? f left = left := fun f =>
      (Text.opensWith_enclosed? _ _).replaceTags_eq (hleft.lacks (by decide)) f
    simp only [readVariables, hget]
    rfl
  have hconclude : conclude answer left = pure left :=
    conclude_of_tags_eq_nil
      ((Text.opensWith_enclosed? _ _).tags_eq_nil (hleft.lacks (by decide)))
      ((Text.opensWith_enclosed? _ _).tags_eq_nil (hleft.lacks (by decide)))
      ((Text.opensWith_enclosed? _ _).tags_eq_nil (hleft.lacks (by decide))) answer
  simp (disch := decide) only [Arithmetic.all, List.foldlM_cons, List.foldlM_nil, hcompute,
    pure_bind, hread, hconclude]
  rfl

/-! ## Learning -/

/-- What is stored, as the bot learns it. -/
def trimmed (fact : Text × Text) : Text × Text :=
  (Text.trim fact.1, Text.trim fact.2)

/-- What has been learned, and that the session has no part in it. -/
structure Learned (facts : List (Text × Text)) (before after : Turn) : Prop where
  session_eq : after.session = before.session
  assignments_eq : after.trace.assignments = before.trace.assignments
  changes_eq : after.trace.changes =
    before.trace.changes ++ if facts = [] then [] else [.facts facts]
  draft_eq : after.mind.draft = (⟨before.mind.draft, facts⟩ : Lesson).learnt
  live_eq : after.mind.live = if facts = [] then before.mind.live else after.mind.draft.publish

/-- Saving in the memory is no part of it. -/
theorem Learned.save
    {facts : List (Text × Text)} {before after : Turn} (hlearned : Learned facts before after)
    (key content : Text) (tags : List Text) :
    Learned facts before { after with mind := after.mind.save key content tags } := by
  obtain ⟨-, hdraft, hlive⟩ := after.mind.persona_save key content tags
  constructor
  · exact hlearned.session_eq
  · exact hlearned.assignments_eq
  · exact hlearned.changes_eq
  · exact hdraft.trans hlearned.draft_eq
  · rw [hdraft, hlive, hlearned.live_eq]

theorem learned_learn
    {trigger : Trigger} {template : Text} (hreplies : trigger.replies = [template])
    (stars : List Text) (turn : Turn) :
    Learned (lesson stars template) turn ((learn trigger stars).run turn).2 := by
  unfold learn
  rw [hreplies]
  dsimp only [List.head?_cons, Option.map_some, Option.getD_some]
  generalize lesson stars template = facts
  by_cases hfacts : facts = []
  · rw [if_pos (by simp [hfacts]), hfacts]
    exact ⟨rfl, rfl, (List.append_nil _).symm, rfl, rfl⟩
  · have hentered : Learned facts turn ((change (.facts facts)).run turn).2 := by
      refine ⟨rfl, rfl, ?_, rfl, ?_⟩ <;> rw [if_neg hfacts] <;> rfl
    rw [if_neg (by simpa using hfacts), run_bind, run_saveDefinition]
    split
    · exact hentered.save _ _ _
    · exact hentered

/-! ## Steps that learn -/

/-- A step within the depth of the persona selects a trigger that learns its only reply and has
nothing else to answer with. -/
structure Instructs (turn : Turn) (step : Nat) (message : Text) (selection : Selection)
    (template : List Template.LessonPart) : Prop where
  within : ¬ turn.mind.live.persona.depth.toNat < step
  selected : ((enter step false message).run turn).1 = some selection
  learns : selection.trigger.learns = true
  replies : selection.trigger.replies = [Template.writeLesson template]
  redirects : selection.trigger.redirects = []
  conditions : selection.trigger.conditions = []

/-- The assignments that a template makes. -/
def stored (stars : List Text) (template : List Template.LessonPart) : List (Text × Text) :=
  Text.tags Template.setTag? (Template.filledLesson stars template)

/-- What a template stores in the session has been stored, the bot has learned the same without the
blanks around it, and nothing else has become of their variables. -/
structure Agrees (stored : List (Text × Text)) (before after : Turn) : Prop where
  assignments_eq : after.trace.assignments = before.trace.assignments ++ stored
  changes_eq : after.trace.changes =
    before.trace.changes ++ if stored = [] then [] else [.facts (stored.map trimmed)]
  values_eq : after.session.values = (before.session.assignAll stored).values
  draft_eq : after.mind.draft = (⟨before.mind.draft, stored.map trimmed⟩ : Lesson).learnt
  live_eq : after.mind.live = if stored = [] then before.mind.live else after.mind.draft.publish

section Instructs

variable {turn : Turn} {step : Nat} {message : Text} {selection : Selection}
  {template : List Template.LessonPart}
  (hplain : ∀ star ∈ selection.stars.message, star.Plain)
  (hwithin : ∀ part ∈ template, part.Within selection.stars.message)

include hplain hwithin

theorem lesson_writeLesson (turn : Turn) :
    lesson selection.stars.message (Template.writeLesson template) =
      (stored selection.stars.message template).map trimmed := by
  rw [lesson, Template.fillLesson_writeLesson hplain hwithin turn]
  rfl

/-- As a reply, the template stores what it states. -/
theorem run_finishReply
    {position : Position} (hposition : position.opening = false) (answer : Text → TurnM Text)
    (turn : Turn) :
    ((finishReply answer position selection.stars (Template.writeLesson template)).run turn).2 =
      turn.assignAll (stored selection.stars.message template) := by
  have hfill := Template.fill_writeLesson hplain hwithin turn
  unfold finishReply
  split
  · rename_i hempty
    have hnone : stored selection.stars.message template = [] := by
      rw [List.isEmpty_iff.mp hempty, Template.fill_of_inert (by decide)] at hfill
      rw [stored, ← hfill]
      rfl
    rw [hnone, assignAll_nil]
    rfl
  · have hopens := Template.opensOnly_filledLesson hplain hwithin turn
    rw [hposition, if_neg Bool.false_ne_true, run_expand_of_opensOnly hfill hopens]
    rfl

theorem agrees_resolve (hinstructs : turn.Instructs step message selection template) :
    Agrees (stored selection.stars.message template) ((enter step false message).run turn).2
      ((resolve step false message).run turn).2 := by
  have hchoices : choices selection.trigger = [.reply (Template.writeLesson template)] := by
    rw [choices, hinstructs.redirects, hinstructs.replies]
    rfl
  have hlearned := learned_learn hinstructs.replies selection.stars.message
    ((enter step false message).run turn).2
  rw [lesson_writeLesson hplain hwithin turn] at hlearned
  rw [run_resolve_of_enter hinstructs.within hinstructs.selected, answerSelected]
  dsimp only
  rw [if_pos hinstructs.learns, run_bind, answerBy_eq_choose _ _ _ hinstructs.conditions]
  generalize ((enter step false message).run turn).2 = entered at hlearned ⊢
  generalize (learn selection.trigger selection.stars.message).run entered = learnt at hlearned ⊢
  obtain ⟨random, hchosen⟩ := run_chooseAnswer_of_single hchoices learnt.2
  rw [run_bind, hchosen]
  dsimp only
  rw [run_finishReply hplain hwithin rfl]
  constructor
  · exact congrArg (· ++ _) hlearned.assignments_eq
  · have hchanges := hlearned.changes_eq
    simp only [List.map_eq_nil_iff] at hchanges
    exact hchanges
  · change (learnt.2.session.assignAll _).values = _
    rw [hlearned.session_eq]
  · exact hlearned.draft_eq
  · have hlive := hlearned.live_eq
    simp only [List.map_eq_nil_iff] at hlive
    exact hlive

end Instructs

namespace Agrees

variable {stored : List (Text × Text)} {before after : Turn} (hagrees : Agrees stored before after)

include hagrees

theorem push (message reply : Text) :
    Agrees stored before { after with session := after.session.push message reply } :=
  { hagrees with }

theorem get?_values (name : Text) :
    after.session.values.get? name =
      (stored.reverse.lookup name).or (before.session.values.get? name) := by
  rw [hagrees.values_eq, Session.get?_values_assignAll]

theorem getVariable?_draft
    (hdefined : ∀ fact ∈ stored.map trimmed, fact.2 ≠ Persona.undefine) (name : Text) :
    after.mind.draft.getVariable? name =
      ((stored.map trimmed).reverse.lookup name).or (before.mind.draft.getVariable? name) := by
  rw [hagrees.draft_eq, Lesson.getVariable?_learnt hdefined]
  rfl

theorem persona_eq (hsome : stored ≠ []) (name : Text) :
    after.persona.getVariable? name = after.mind.draft.getVariable? name := by
  rw [persona, hagrees.live_eq, if_neg hsome]
  rfl

end Agrees

/-- A name that is confused with no other is found under its trimmed form. -/
theorem lookup_map_trimmed
    {stored : List (Text × Text)} {name : Text}
    (hname : ∀ fact ∈ stored, Text.trim fact.1 = Text.trim name → fact.1 = name) :
    (stored.map trimmed).lookup (Text.trim name) = (stored.lookup name).map Text.trim := by
  induction stored with
  | nil => rfl
  | cons fact stored ih =>
    obtain ⟨hfact, hrest⟩ := List.forall_mem_cons.mp hname
    rw [List.map_cons, trimmed, List.lookup_cons, List.lookup_cons, ih hrest]
    by_cases heq : name = fact.1
    · simp [heq]
    · have htrim : Text.trim name ≠ Text.trim fact.1 := fun htrim => heq (hfact htrim.symm).symm
      simp [beq_false_of_ne heq, beq_false_of_ne htrim]

/-- What a template stores in the session of the user is what the bot learns, but for the blanks
around names and values.  A variable that no other stored one is confused with, once trimmed, has
the trimmed value of the session's; in general the last stored value counts.  The bot learns nothing
else. -/
theorem lesson_agrees_with_session
    {turn : Turn} {step : Nat} {message : Text} {selection : Selection}
    {template : List Template.LessonPart}
    (hinstructs : turn.Instructs step message selection template)
    (hplain : ∀ star ∈ selection.stars.message, star.Plain)
    (hwithin : ∀ part ∈ template, part.Within selection.stars.message) :
    let entered := ((enter step false message).run turn).2
    let stored := stored selection.stars.message template
    ∀ after, (after = ((resolve step false message).run turn).2 ∨
        ∃ text, step = 0 ∧ turn.persona.graph.contains Script.beginTopic = false ∧
          turn.persona.normalize text = message ∧ after = ((reply text).run turn).2) →
      after.trace.assignments = entered.trace.assignments ++ stored ∧
      after.trace.changes =
        entered.trace.changes ++ (if stored = [] then [] else [.facts (stored.map trimmed)]) ∧
      (∀ name, after.session.values.get? name =
        (stored.reverse.lookup name).or (entered.session.values.get? name)) ∧
      (∀ name, after.mind.draft.getVariable? name =
        ((stored.map trimmed).reverse.lookup name).or (turn.mind.draft.getVariable? name)) ∧
      (stored ≠ [] → after.mind.live = after.mind.draft.publish) ∧
      ∀ name ∈ stored.map Prod.fst,
        (∀ other ∈ stored.map Prod.fst, Text.trim other = Text.trim name → other = name) →
          ∃ value, after.session.values.get? name = some value ∧
            after.persona.getVariable? (Text.trim name) = some (Text.trim value) := by
  intro entered stored after hafter
  have hagrees : Agrees stored entered after := by
    have hstep := agrees_resolve hplain hwithin hinstructs
    rcases hafter with rfl | ⟨text, rfl, hclosed, hnormalize, rfl⟩
    · exact hstep
    · rw [run_reply hnormalize (run_answer_of_closed hclosed message)]
      exact hstep.push _ _
  have hdraft : entered.mind.draft = turn.mind.draft := by
    obtain ⟨cache, hentered⟩ := exists_mind_enter step false message turn
    rw [hentered]
  have hdefined : ∀ fact ∈ stored.map trimmed, fact.2 ≠ Persona.undefine := by
    rw [← lesson_writeLesson hplain hwithin turn]
    exact fun fact hmem => ne_undefine_of_mem_lesson hmem
  have hlearned := hagrees.getVariable?_draft hdefined
  rw [hdraft] at hlearned
  refine ⟨hagrees.assignments_eq, hagrees.changes_eq, hagrees.get?_values, hlearned, ?_, ?_⟩
  · intro hsome
    rw [hagrees.live_eq, if_neg hsome]
  · intro name hmem hname
    have hsome : stored ≠ [] := by
      intro hnone
      rw [hnone] at hmem
      cases hmem
    obtain ⟨value, hvalue⟩ : ∃ value, stored.reverse.lookup name = some value := by
      obtain ⟨fact, hfact, rfl⟩ := List.mem_map.mp hmem
      rw [← Option.isSome_iff_exists, List.lookup_isSome_iff]
      exact ⟨fact, List.mem_reverse.mpr hfact, beq_self_eq_true _⟩
    have htrimmed :
        (stored.map trimmed).reverse.lookup (Text.trim name) = some (Text.trim value) := by
      rw [← List.map_reverse, lookup_map_trimmed, hvalue]
      · rfl
      · intro fact hfact
        exact hname fact.1 (List.mem_map_of_mem (List.mem_reverse.mp hfact))
    refine ⟨value, ?_, ?_⟩
    · rw [hagrees.get?_values, hvalue]
      rfl
    · rw [hagrees.persona_eq hsome, hlearned, htrimmed]
      rfl

theorem lesson_agrees_with_session_of_language :
    let turn := (Bot.ofScript
      "+ * is *\n= I see.<set subject=<star>><set  about =<star2> >".toList).turnFor ['u']
    let text := "Rust is  a language".toList
    let message := "rust is  a language".toList
    let after := ((reply text).run turn).2
    let template : List Template.LessonPart :=
      [.prose ⟨"I see.".toList, by decide⟩,
        .set ⟨"subject".toList, by decide⟩ [.star none],
        .set ⟨" about ".toList, by decide⟩ [.star (some 2), .prose ⟨[' '], by decide⟩]]
    ∃ selection, turn.Instructs 0 message selection template ∧
      (∀ star ∈ selection.stars.message, star.Plain) ∧
      (∀ part ∈ template, part.Within selection.stars.message) ∧
      turn.persona.graph.contains Script.beginTopic = false ∧
      turn.persona.normalize text = message ∧
      after.session.values.get? " about ".toList = some " a language ".toList ∧
      after.persona.getVariable? "about".toList = some "a language".toList := by
  intro turn text message after template
  let selection := ((enter 0 false message).run turn).1.get (by decide +kernel)
  obtain ⟨hlearns, hreplies, hredirects, hconditions, hplain, hwithin, hclosed, hnormalize⟩ :
      selection.trigger.learns = true ∧
      selection.trigger.replies = [Template.writeLesson template] ∧
      selection.trigger.redirects = [] ∧ selection.trigger.conditions = [] ∧
      (∀ star ∈ selection.stars.message, star.Plain) ∧
      (∀ part ∈ template, part.Within selection.stars.message) ∧
      turn.persona.graph.contains Script.beginTopic = false ∧
      turn.persona.normalize text = message := by decide +kernel
  have hinstructs : turn.Instructs 0 message selection template :=
    ⟨Nat.not_lt_zero _, (Option.some_get _).symm, hlearns, hreplies, hredirects, hconditions⟩
  obtain ⟨-, -, hvalues, hvariables, hlive, -⟩ := lesson_agrees_with_session hinstructs hplain
    hwithin after (.inr ⟨text, rfl, hclosed, hnormalize, rfl⟩)
  refine ⟨selection, hinstructs, hplain, hwithin, hclosed, hnormalize, ?_, ?_⟩
  · rw [hvalues]
    decide +kernel
  · rw [persona, hlive (by decide +kernel)]
    refine (hvariables "about".toList).trans ?_
    decide +kernel

/-- The session keeps the blank in front of a star, and the bot learns the star without it. -/
theorem lesson_trims_what_session_keeps :
    let bot := Bot.ofScript "+ my name is *\n= <set name=<star>>ok".toList
    let answered := bot.answer ['u'] "my name is  bob".toList
    let name := "name".toList
    answered.2.trace.assignments = [(name, " bob".toList)] ∧
      answered.2.trace.changes = [.facts [(name, "bob".toList)]] ∧
      answered.1.userVariable? ['u'] name = some " bob".toList ∧
      answered.1.getVariable? name = some "bob".toList := by
  decide +kernel

end Turn

end DialogueScript

import DialogueScript.Proofs.TagOpenings
import DialogueScript.Proofs.TurnMoves

/-!
# Plain text

A text without angles and braces has no tags of any kind.  When a template has no tags any more once
the stars, the user and the history have been filled in, expanding it does no more than that, and
the turn is left as it is.
-/

namespace DialogueScript

/-! ## Filling in -/

namespace Text

/-- No character of the text begins a tag or an escape. -/
def Inert (text : Text) : Prop :=
  text.Plain ∧ '\\' ∉ text

instance (text : Text) : Decidable text.Inert :=
  inferInstanceAs (Decidable (_ ∧ _))

theorem Inert.append
    {text other : Text} (htext : text.Inert) (hother : other.Inert) :
    Inert (text ++ other) :=
  ⟨htext.1.append hother.1, List.not_mem_append htext.2 hother.2⟩

end Text

namespace Template

theorem unescape_of_not_mem {text : Text} (hescape : '\\' ∉ text) : unescape text = text := by
  induction text with
  | nil => rfl
  | cons c text ih =>
    obtain ⟨hc, hrest⟩ := not_or.mp (List.mem_cons.not.mp hescape)
    unfold unescape
    split <;> simp_all

theorem expandAbbreviations_of_lacks
    {text : Text} (hlacks : text.Lacks (abbreviations.map (·.1))) :
    expandAbbreviations text = text := by
  apply List.foldlRecOn (motive := fun filled => filled = text) abbreviations _ rfl
  rintro _ rfl ⟨short, long⟩ hmem
  refine (Text.opensWith_literal? short).replaceTags_eq (hlacks.mono ?_) _
  exact List.cons_subset.mpr ⟨List.mem_map_of_mem hmem, List.nil_subset _⟩

/-- The openings of all that is filled in. -/
def fillOpenings : List Text :=
  abbreviations.map (·.1) ++
    ["\x7bweight=".toList, "<input>".toList, "<reply>".toList, "<id>".toList, "<star>".toList,
      "<botstar>".toList, "<star".toList, "<botstar".toList, "<input".toList, "<reply".toList]

/-- The openings of what is filled in by its name alone. -/
def namedOpenings : List Text :=
  fillOpenings.erase "\x7bweight=".toList

/-- Filling in leaves a text as it is that has nothing to fill in, no weight and no escape. -/
theorem fill_eq_self
    {text : Text} (hlacks : text.Lacks namedOpenings)
    (hweights : Text.tags Tag.weight? text = []) (hescape : unescape text = text)
    (session : Session) (stars : Stars) :
    fill session stars text = text := by
  have hreplace : ∀ old new : Text, old ∈ namedOpenings → Text.replaceAll old new text = text :=
    fun old new hold =>
      (Text.opensWith_literal? old).replaceTags_eq (hlacks.mono (by simpa using hold)) _
  have habbreviations : expandAbbreviations text = text :=
    expandAbbreviations_of_lacks (hlacks.mono (by decide))
  have hdropped : Tag.dropWeights text = text := Text.replaceTags_of_tags_eq_nil _ hweights
  have hstars : fillStars stars text = text := by
    simp (disch := decide) only [fillStars, hreplace,
      Text.opensWith_starTag?.replaceTags_eq (hlacks.mono (by decide))]
  have hhistory : fillHistory session text = text :=
    Text.opensWith_historyTag?.replaceTags_eq (hlacks.mono (by decide)) _
  simp (disch := decide) only [fill, habbreviations, hdropped, hreplace, hescape, hstars, hhistory]

theorem fill_of_lacks
    {text : Text} (hlacks : text.Lacks fillOpenings) (hescape : '\\' ∉ text) (session : Session)
    (stars : Stars) :
    fill session stars text = text :=
  fill_eq_self (hlacks.mono List.erase_subset)
    ((Text.opensWith_numbered? _ _).tags_eq_nil (hlacks.mono (by decide)))
    (unescape_of_not_mem hescape) session stars

theorem fill_of_inert
    {text : Text} (hinert : text.Inert) (session : Session) (stars : Stars) :
    fill session stars text = text :=
  fill_of_lacks (hinert.1.lacks (by decide)) hinert.2 session stars

end Template

/-! ## Expanding -/

namespace Template

/-- What a text between two tags may be transformed to. -/
def transformations : List Text :=
  ["person".toList, "formal".toList, "sentence".toList, "uppercase".toList, "lowercase".toList]

def transformTag? (name : Text) : Text → Option (Text × Text) :=
  Tag.enclosed? ('\x7b' :: name ++ ['\x7d']) ("\x7b/".toList ++ name ++ ['\x7d'])

end Template

/-- None of the tags that are expanded once a text has been filled in stands in the text. -/
structure Text.Tagless (text : Text) : Prop where
  random : tags Template.randomTag? text = []
  bot : tags Template.botTag? text = []
  global : tags Template.globalTag? text = []
  code : tags Template.codeTag? text = []
  transformed : ∀ name ∈ Template.transformations, tags (Template.transformTag? name) text = []
  set : tags Template.setTag? text = []
  computed : ∀ operation ∈ Arithmetic.all, tags operation.tag? text = []
  get : tags Template.getTag? text = []
  topic : tags Template.topicTag? text = []
  redirect : tags Template.redirectTag? text = []
  call : tags Template.callTag? text = []

instance (text : Text) : Decidable text.Tagless :=
  decidable_of_iff (_ ∧ _ ∧ _ ∧ _ ∧ _ ∧ _ ∧ _ ∧ _ ∧ _ ∧ _ ∧ _)
    ⟨fun ⟨h₁, h₂, h₃, h₄, h₅, h₆, h₇, h₈, h₉, h₁₀, h₁₁⟩ =>
      ⟨h₁, h₂, h₃, h₄, h₅, h₆, h₇, h₈, h₉, h₁₀, h₁₁⟩,
    fun ⟨h₁, h₂, h₃, h₄, h₅, h₆, h₇, h₈, h₉, h₁₀, h₁₁⟩ =>
      ⟨h₁, h₂, h₃, h₄, h₅, h₆, h₇, h₈, h₉, h₁₀, h₁₁⟩⟩

theorem Text.Plain.tagless {text : Text} (hplain : text.Plain) : text.Tagless where
  random := (opensWith_enclosed? _ _).tags_eq_nil (hplain.lacks (by decide))
  bot := (opensWith_enclosed? _ _).tags_eq_nil (hplain.lacks (by decide))
  global := (opensWith_enclosed? _ _).tags_eq_nil (hplain.lacks (by decide))
  code := opensWith_codeTag?.tags_eq_nil (hplain.lacks (by decide))
  transformed _ _ :=
    (opensWith_enclosed? _ _).tags_eq_nil (hplain.lacks (List.forall_mem_singleton.mpr (.inr rfl)))
  set := (opensWith_assignment? _).tags_eq_nil (hplain.lacks (by decide))
  computed _ _ :=
    (opensWith_assignment? _).tags_eq_nil (hplain.lacks (List.forall_mem_singleton.mpr (.inl rfl)))
  get := (opensWith_enclosed? _ _).tags_eq_nil (hplain.lacks (by decide))
  topic := (opensWith_enclosed? _ _).tags_eq_nil (hplain.lacks (by decide))
  redirect := (opensWith_enclosed? _ _).tags_eq_nil (hplain.lacks (by decide))
  call := (opensWith_enclosed? _ _).tags_eq_nil (hplain.lacks (by decide))

/-- None of the tags stands in the text that are expanded before variables are set and read. -/
structure Text.EarlyTagless (text : Text) : Prop where
  random : tags Template.randomTag? text = []
  bot : tags Template.botTag? text = []
  global : tags Template.globalTag? text = []
  code : tags Template.codeTag? text = []
  transformed : ∀ name ∈ Template.transformations, tags (Template.transformTag? name) text = []

theorem Text.Tagless.early {text : Text} (htagless : text.Tagless) : text.EarlyTagless :=
  ⟨htagless.random, htagless.bot, htagless.global, htagless.code, htagless.transformed⟩

namespace Template

/-- The openings of the tags that are expanded before variables are set and read. -/
def earlyOpenings : List Text :=
  ["\x7brandom\x7d".toList, "<bot ".toList, "<env ".toList, codeMark] ++
    transformations.map fun name => '\x7b' :: name ++ ['\x7d']

theorem earlyTagless_of_lacks {text : Text} (hlacks : text.Lacks earlyOpenings) :
    text.EarlyTagless where
  random := (Text.opensWith_enclosed? _ _).tags_eq_nil (hlacks.mono (by decide))
  bot := (Text.opensWith_enclosed? _ _).tags_eq_nil (hlacks.mono (by decide))
  global := (Text.opensWith_enclosed? _ _).tags_eq_nil (hlacks.mono (by decide))
  code := Text.opensWith_codeTag?.tags_eq_nil (hlacks.mono (by decide))
  transformed name hname := by
    refine (Text.opensWith_enclosed? _ _).tags_eq_nil (hlacks.mono ?_)
    exact List.cons_subset.mpr ⟨List.mem_append_right _ (List.mem_map_of_mem hname), by simp⟩

end Template

theorem Template.transformAll_of_tags_eq_nil
    {text : Text}
    (htransformed : ∀ name ∈ transformations, Text.tags (transformTag? name) text = [])
    (persons : Substitutions) :
    transformAll persons text = text := by
  have htransform : ∀ name ∈ transformations, ∀ f, transform name f text = text := by
    intro name hname f
    exact Text.replaceTags_of_tags_eq_nil f (htransformed name hname)
  simp (disch := decide) only [transformAll, htransform]

namespace Turn

theorem mapM_char
    {α : Type} {f : Text.Piece α → TurnM Text} (hf : ∀ c, f (.char c) = pure [c]) (text : Text) :
    (text.map Text.Piece.char).mapM f = pure (text.map fun c => [c]) := by
  induction text with
  | nil => rfl
  | cons c text ih => simp [List.mapM_cons, hf, ih]

section Parts

variable {α : Type} {read? : Text → Option (α × Text)} {part : Text}

end Parts

theorem replaceTagsM_of_tags_eq_nil
    {α : Type} {read? : Text → Option (α × Text)} {text : Text}
    (htags : Text.tags read? text = []) (f : α → TurnM Text) :
    replaceTagsM read? f text = pure text := by
  unfold replaceTagsM
  rw [Text.pieces_of_tags_eq_nil htags, mapM_char (fun _ => rfl), pure_bind, ← List.flatMap_def]
  simp

/-- Set and change the variables of the session, and read them. -/
def useVariables (text : Text) : TurnM Text := do
  let text ← setVariables text
  let text ← Arithmetic.all.foldlM (fun text operation => compute operation text) text
  readVariables text

/-- The tags that are expanded last. -/
def conclude (answer : Text → TurnM Text) (text : Text) : TurnM Text := do
  let text ← changeTopic text
  let text ← redirect answer text
  callObjects text

/-- Where nothing is to be chosen, run or transformed, the variables of the session come next when
those of the bot have been read. -/
theorem run_expand_of_filled
    {turn : Turn} {stars : Stars} {template filled text : Text}
    (hfill : Template.fill turn.session stars template = filled)
    (hrandom : Text.tags Template.randomTag? filled = [])
    (hpersona : (readPersona filled).run turn = (text, turn))
    (hcode : Text.tags Template.codeTag? text = [])
    (htransformed : ∀ name ∈ Template.transformations,
      Text.tags (Template.transformTag? name) text = [])
    (answer : Text → TurnM Text) :
    (expand answer stars template).run turn =
      (useVariables text >>= conclude answer).run turn := by
  have hchoose : chooseRandom filled = pure filled := replaceTagsM_of_tags_eq_nil hrandom _
  have hrun : runCode text = pure text := replaceTagsM_of_tags_eq_nil hcode _
  have htransform : transform text = pure text := by
    simp only [transform, Template.transformAll_of_tags_eq_nil htransformed]
    rfl
  unfold expand
  rw [run_get_bind]
  dsimp only
  rw [hfill, hchoose, pure_bind, run_bind, hpersona]
  simp only [hrun, htransform, useVariables, pure_bind, bind_assoc]
  rfl

/-- Where none of the early tags is left once a text has been filled in, what is left to do begins
with the variables. -/
theorem run_expand_of_earlyTagless
    {turn : Turn} {stars : Stars} {template text : Text}
    (hfill : Template.fill turn.session stars template = text) (htagless : text.EarlyTagless)
    (answer : Text → TurnM Text) :
    (expand answer stars template).run turn =
      (useVariables text >>= conclude answer).run turn := by
  have hpersona : readPersona text = pure text := by
    have hbot : ∀ f, Text.replaceTags Template.botTag? f text = text :=
      fun f => Text.replaceTags_of_tags_eq_nil f htagless.bot
    have hglobal : ∀ f, Text.replaceTags Template.globalTag? f text = text :=
      fun f => Text.replaceTags_of_tags_eq_nil f htagless.global
    simp only [readPersona, hbot, hglobal]
    rfl
  exact run_expand_of_filled hfill htagless.random (congrArg (fun m => m.run turn) hpersona)
    htagless.code htagless.transformed answer

theorem conclude_of_tags_eq_nil
    {text : Text} (htopic : Text.tags Template.topicTag? text = [])
    (hredirect : Text.tags Template.redirectTag? text = [])
    (hcall : Text.tags Template.callTag? text = []) (answer : Text → TurnM Text) :
    conclude answer text = pure text := by
  have htopic : changeTopic text = pure text := replaceTagsM_of_tags_eq_nil htopic _
  have hredirect : redirect answer text = pure text := replaceTagsM_of_tags_eq_nil hredirect _
  have hcall : callObjects text = pure text := replaceTagsM_of_tags_eq_nil hcall _
  simp only [conclude, htopic, hredirect, hcall, pure_bind]

theorem useVariables_of_tags_eq_nil
    {text : Text} (hset : Text.tags Template.setTag? text = [])
    (hcomputed : ∀ operation ∈ Arithmetic.all, Text.tags operation.tag? text = []) :
    useVariables text = readVariables text := by
  have hset : setVariables text = pure text := replaceTagsM_of_tags_eq_nil hset _
  have hcompute : ∀ operation ∈ Arithmetic.all, compute operation text = pure text :=
    fun operation hoperation => replaceTagsM_of_tags_eq_nil (hcomputed operation hoperation) _
  simp (disch := decide) only [useVariables, hset, Arithmetic.all, List.foldlM_cons,
    List.foldlM_nil, hcompute, pure_bind]

theorem useVariables_of_tagless {text : Text} (htagless : text.Tagless) :
    useVariables text = pure text := by
  have hget : ∀ f, Text.replaceTags Template.getTag? f text = text :=
    fun f => Text.replaceTags_of_tags_eq_nil f htagless.get
  rw [useVariables_of_tags_eq_nil htagless.set htagless.computed]
  simp only [readVariables, hget]
  rfl

/-- Where no tag is left once a text has been filled in, there is nothing more to expand. -/
theorem run_expand_of_tagless
    {turn : Turn} {stars : Stars} {template : Text}
    (htagless : (Template.fill turn.session stars template).Tagless)
    (answer : Text → TurnM Text) :
    (expand answer stars template).run turn =
      (Template.fill turn.session stars template, turn) := by
  rw [run_expand_of_earlyTagless rfl htagless.early, useVariables_of_tagless htagless, pure_bind,
    conclude_of_tags_eq_nil htagless.topic htagless.redirect htagless.call]
  rfl

/-- Expanding an inert text is to leave it and the turn as they are. -/
theorem run_expand_of_inert
    {text : Text} (hinert : text.Inert) (answer : Text → TurnM Text) (stars : Stars)
    (turn : Turn) :
    (expand answer stars text).run turn = (text, turn) := by
  have hfill : Template.fill turn.session stars text = text :=
    Template.fill_of_inert hinert turn.session stars
  have htagless : (Template.fill turn.session stars text).Tagless := by
    rw [hfill]
    exact hinert.1.tagless
  rw [run_expand_of_tagless htagless, hfill]

end Turn

end DialogueScript

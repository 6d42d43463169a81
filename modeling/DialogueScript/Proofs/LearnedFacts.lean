import DialogueScript.Proofs.Changes
import DialogueScript.Proofs.LineEffects
import DialogueScript.Proofs.SessionVariables
import DialogueScript.Proofs.TagReading

/-!
# What lessons save

A trigger that learns enters the facts of its template as variables of the bot and then saves the
subject with its definition, if the bot has both.  These variables are shared: what the template
does not state is whatever was entered before, in another turn or for another user.
-/

namespace DialogueScript

namespace Tag

theorem not_mem_of_upTo?
    {allowed : Char → Bool} {c : Char} {text body after : Text}
    (hread : upTo? allowed [c] text = some (body, after)) :
    c ∉ body := by
  induction text generalizing body after with
  | nil => cases hread
  | cons d text ih =>
    rw [upTo?] at hread
    split at hread
    · obtain ⟨rfl, -⟩ := Prod.mk.inj (Option.some.inj hread)
      exact List.not_mem_nil
    · rename_i hopen
      split at hread
      · obtain ⟨⟨rest, _⟩, hrest, heq⟩ := Option.map_eq_some_iff.mp hread
        obtain ⟨rfl, -⟩ := Prod.mk.inj heq
        have hne : c ≠ d := by
          rintro rfl
          cases text <;> simp [Text.strip?] at hopen
        exact List.not_mem_cons_of_ne_of_not_mem hne (ih hrest)
      · cases hread

/-- Only the first character of a body can be its closing mark. -/
theorem not_mem_tail_of_body?
    {allowed : Char → Bool} {c : Char} {text body after : Text}
    (hread : body? allowed [c] text = some (body, after)) :
    c ∉ body.tail := by
  cases text with
  | nil => cases hread
  | cons d text =>
    rw [body?] at hread
    split at hread
    · obtain ⟨⟨rest, _⟩, hrest, heq⟩ := Option.map_eq_some_iff.mp hread
      obtain ⟨rfl, -⟩ := Prod.mk.inj heq
      exact not_mem_of_upTo? hrest
    · cases hread

end Tag

namespace Text

theorem trim_infix (text : Text) : trim text <:+: text := by
  have hend : trimEnd (trimStart text) <+: trimStart text := by
    have hsuffix := List.dropWhile_suffix isBlank (l := (trimStart text).reverse)
    rw [← List.reverse_prefix, List.reverse_reverse] at hsuffix
    exact hsuffix
  exact hend.isInfix.trans (List.dropWhile_suffix isBlank).isInfix

end Text

/-- A template cannot state that something is not defined. -/
theorem Turn.ne_undefine_of_mem_lesson
    {stars : List Text} {template : Text} {fact : Text × Text}
    (hfact : fact ∈ lesson stars template) :
    fact.2 ≠ Persona.undefine := by
  obtain ⟨⟨name, value⟩, hmem, rfl⟩ := List.mem_map.mp hfact
  obtain ⟨_, text, rest, -, hread⟩ := Text.exists_read_of_mem_tags hmem
  obtain ⟨after, -, hread⟩ := Option.bind_eq_some_iff.mp hread
  obtain ⟨⟨_, after⟩, -, hread⟩ := Option.bind_eq_some_iff.mp hread
  obtain ⟨⟨body, _⟩, hbody, heq⟩ := Option.bind_eq_some_iff.mp hread
  obtain ⟨⟨-, rfl⟩, -⟩ : (_ ∧ body = value) ∧ _ := by simpa using heq
  intro hundefine
  have hinfix := Text.trim_infix body
  rw [show Text.trim body = Persona.undefine from hundefine] at hinfix
  obtain ⟨before, later, hwritten⟩ := hinfix
  -- the mark that closes the tag would stand behind the first character
  have hclosing : '>' ∈ body.tail := by
    have hmark : '>' ∈ Persona.undefine.tail := by
      decide
    rw [← hwritten]
    cases before with
    | nil => exact List.mem_append_left later hmark
    | cons first before =>
      exact List.mem_append_left later
        (List.mem_append_right before (List.mem_of_mem_tail hmark))
  exact Tag.not_mem_tail_of_body? hbody hclosing

/-- The key and the content that a request saves. -/
def Request.fact? : Request → Option (Text × Text)
  | .save key content _ => some (key, content)
  | _ => none

theorem Request.fact?_of_not_saves {request : Request} (hsaves : ¬ request.saves) :
    request.fact? = none := by
  cases request with
  | save key content tags => exact absurd rfl hsaves
  | _ => rfl

theorem Persona.getVariable?_setVariable
    (persona : Persona) {value : Text} (hvalue : value ≠ undefine) (name other : Text) :
    (persona.setVariable name (some value)).getVariable? other =
      if other = name then some value else persona.getVariable? other := by
  have hgiven : given (some value) = some value := by
    simp [given, hvalue]
  unfold setVariable getVariable?
  dsimp only
  rw [hgiven]
  by_cases hname : other = name
  · rw [if_pos hname, hname]
    exact Table.get?_insert_self _ _ _
  · rw [if_neg hname]
    exact Table.get?_insert_of_ne _ _ hname

/-! ## Lessons -/

/-- The facts that a template has stated, and the draft that they were entered in. -/
structure Lesson where
  draft : Persona
  facts : List (Text × Text)

namespace Lesson

variable (lesson : Lesson)

/-- What the template has stated last under a name. -/
def stated? (name : Text) : Option Text :=
  lesson.facts.reverse.lookup name

def learnt : Persona :=
  lesson.facts.foldl (fun persona (name, value) => persona.setVariable name (some value))
    lesson.draft

def pair? (valueOf? : Text → Option Text) : Option (Text × Text) :=
  match valueOf? Turn.subjectName, valueOf? Turn.definitionName with
  | some subject, some definition => some (subject, definition)
  | _, _ => none

/-- The subject and the definition that the template states. -/
def own? : Option (Text × Text) :=
  pair? lesson.stated?

/-- The subject and the definition that are saved, when there is a memory. -/
def saved? : Option (Text × Text) :=
  pair? lesson.learnt.getVariable?

variable {lesson : Lesson}

theorem getVariable?_learnt
    (hfacts : ∀ fact ∈ lesson.facts, fact.2 ≠ Persona.undefine) (name : Text) :
    lesson.learnt.getVariable? name =
      (lesson.stated? name).or (lesson.draft.getVariable? name) := by
  refine get?_foldl (fun fact hfact persona name => ?_) lesson.draft name
  exact persona.getVariable?_setVariable (hfacts fact hfact) fact.1 name

/-- A lesson saves what it states, unless it leaves out what something else has stated before. -/
theorem saved?_eq_own?_iff (hfacts : ∀ fact ∈ lesson.facts, fact.2 ≠ Persona.undefine) :
    lesson.saved? = lesson.own? ↔ lesson.own?.isSome ∨
      ∃ name ∈ [Turn.subjectName, Turn.definitionName],
        lesson.stated? name = none ∧ lesson.draft.getVariable? name = none := by
  have hsubject := getVariable?_learnt hfacts Turn.subjectName
  have hdefinition := getVariable?_learnt hfacts Turn.definitionName
  rw [saved?, own?, pair?, pair?, hsubject, hdefinition]
  simp only [List.mem_cons, List.not_mem_nil, or_false, exists_eq_or_imp, exists_eq_left]
  cases lesson.stated? Turn.subjectName <;> cases lesson.stated? Turn.definitionName <;>
    cases lesson.draft.getVariable? Turn.subjectName <;>
      cases lesson.draft.getVariable? Turn.definitionName <;> simp

end Lesson

/-- The lessons among the changes of a draft. -/
def lessons (collaborators : Collaborators) : Persona → List Change → List Lesson
  | _, [] => []
  | draft, .code script :: changes =>
    lessons collaborators (Change.apply collaborators draft (.code script)) changes
  | draft, .facts facts :: changes =>
    ⟨draft, facts⟩ ::
      lessons collaborators (Change.apply collaborators draft (.facts facts)) changes

theorem lessons_append
    (collaborators : Collaborators) (draft : Persona) (changes later : List Change) :
    lessons collaborators draft (changes ++ later) =
      lessons collaborators draft changes ++
        lessons collaborators (changes.foldl (Change.apply collaborators) draft) later := by
  induction changes generalizing draft with
  | nil => rfl
  | cons change changes ih =>
    cases change with
    | code script => exact ih _
    | facts facts => exact congrArg _ (ih _)

theorem exists_facts_of_mem_lessons
    {collaborators : Collaborators} {draft : Persona} {changes : List Change} {lesson : Lesson}
    (hmem : lesson ∈ lessons collaborators draft changes) :
    Change.facts lesson.facts ∈ changes := by
  induction changes generalizing draft with
  | nil => cases hmem
  | cons change changes ih =>
    cases change with
    | code script => exact List.mem_cons_of_mem _ (ih hmem)
    | facts facts =>
      rcases List.mem_cons.mp hmem with rfl | hmem
      · exact List.mem_cons_self
      · exact List.mem_cons_of_mem _ (ih hmem)

namespace Turn

/-! ## The lessons of a turn -/

/-- What has been changed and requested.  Where there is a memory, every lesson has saved its pair,
and `exact` tells for which collaborators nothing else has been saved. -/
structure Saves (exact : Collaborators → Prop) (turn after : Turn) (changes : List Change)
    (asked : List Request) : Prop where
  changes_eq : after.trace.changes = turn.trace.changes ++ changes
  requests_eq : after.mind.requests = turn.mind.requests ++ asked
  collaborators_eq : after.mind.collaborators = turn.mind.collaborators
  memory_eq : after.mind.memory.isSome = turn.mind.memory.isSome
  draft_eq :
    after.mind.draft = changes.foldl (Change.apply turn.mind.collaborators) turn.mind.draft
  stated : ∀ facts, .facts facts ∈ changes → ∃ stars template, facts = lesson stars template
  saved : turn.mind.memory.isSome →
    ((lessons turn.mind.collaborators turn.mind.draft changes).filterMap Lesson.saved?).Sublist
      (asked.filterMap Request.fact?)
  exactly : turn.mind.memory.isSome → exact turn.mind.collaborators →
    (lessons turn.mind.collaborators turn.mind.draft changes).filterMap Lesson.saved? =
      asked.filterMap Request.fact?

def Teaches (exact : Collaborators → Prop) (turn after : Turn) : Prop :=
  ∃ changes asked, Saves exact turn after changes asked

namespace Teaches

variable {exact : Collaborators → Prop} {turn middle after : Turn}

theorem trans (hfirst : Teaches exact turn middle) (hsecond : Teaches exact middle after) :
    Teaches exact turn after := by
  obtain ⟨changes, asked, hfirst⟩ := hfirst
  obtain ⟨later, more, hsecond⟩ := hsecond
  have hcollaborators := hfirst.collaborators_eq
  have hlessons : lessons turn.mind.collaborators turn.mind.draft (changes ++ later) =
      lessons turn.mind.collaborators turn.mind.draft changes ++
        lessons middle.mind.collaborators middle.mind.draft later := by
    rw [lessons_append, hcollaborators, hfirst.draft_eq]
  refine ⟨changes ++ later, asked ++ more, ?_⟩
  constructor
  · rw [hsecond.changes_eq, hfirst.changes_eq, List.append_assoc]
  · rw [hsecond.requests_eq, hfirst.requests_eq, List.append_assoc]
  · rw [hsecond.collaborators_eq, hcollaborators]
  · rw [hsecond.memory_eq, hfirst.memory_eq]
  · rw [hsecond.draft_eq, hfirst.draft_eq, hcollaborators, List.foldl_append]
  · intro facts hmem
    rcases List.mem_append.mp hmem with hmem | hmem
    · exact hfirst.stated facts hmem
    · exact hsecond.stated facts hmem
  · intro hmemory
    rw [hlessons, List.filterMap_append, List.filterMap_append]
    exact (hfirst.saved hmemory).append (hsecond.saved (hfirst.memory_eq.trans hmemory))
  · intro hmemory hexact
    rw [hlessons, List.filterMap_append, List.filterMap_append, hfirst.exactly hmemory hexact,
      hsecond.exactly (hfirst.memory_eq.trans hmemory) (by rwa [hcollaborators])]

/-- Without lessons, nothing or something else may have been saved. -/
theorem of_asked
    {changes : List Change} {asked : List Request}
    (hchanges : after.trace.changes = turn.trace.changes ++ changes)
    (hrequests : after.mind.requests = turn.mind.requests ++ asked)
    (hcollaborators : after.mind.collaborators = turn.mind.collaborators)
    (hmemory : after.mind.memory.isSome = turn.mind.memory.isSome)
    (hdraft : after.mind.draft =
      changes.foldl (Change.apply turn.mind.collaborators) turn.mind.draft)
    (hcode : ∀ facts, Change.facts facts ∉ changes)
    (hexact : exact turn.mind.collaborators → ∀ request ∈ asked, request.fact? = none) :
    Teaches exact turn after := by
  have hnone : lessons turn.mind.collaborators turn.mind.draft changes = [] :=
    List.eq_nil_iff_forall_not_mem.mpr fun lesson hmem =>
      hcode lesson.facts (exists_facts_of_mem_lessons hmem)
  refine ⟨changes, asked, hchanges, hrequests, hcollaborators, hmemory, hdraft,
    fun facts hmem => absurd hmem (hcode facts), ?_, ?_⟩
  · intro _
    rw [hnone]
    exact List.nil_sublist _
  · intro _ hsilent
    rw [hnone, List.filterMap_eq_nil_iff.mpr (hexact hsilent)]
    rfl

theorem of_same
    (hchanges : after.trace.changes = turn.trace.changes)
    (hrequests : after.mind.requests = turn.mind.requests)
    (hcollaborators : after.mind.collaborators = turn.mind.collaborators)
    (hmemory : after.mind.memory = turn.mind.memory)
    (hdraft : after.mind.draft = turn.mind.draft) :
    Teaches exact turn after := by
  have hchanges : after.trace.changes = turn.trace.changes ++ [] := by
    rw [hchanges, List.append_nil]
  have hrequests : after.mind.requests = turn.mind.requests ++ [] := by
    rw [hrequests, List.append_nil]
  exact of_asked hchanges hrequests hcollaborators (by rw [hmemory]) hdraft
    (fun _ => List.not_mem_nil) fun _ _ hmem => absurd hmem List.not_mem_nil

theorem refl (turn : Turn) : Teaches exact turn turn :=
  of_same rfl rfl rfl rfl rfl

theorem request {request : Request} (hrequest : ¬ request.saves) (turn : Turn) :
    Teaches exact turn { turn with mind := turn.mind.request request } :=
  of_asked (List.append_nil _).symm rfl rfl rfl rfl (fun _ => List.not_mem_nil)
    fun _ _ hmem => List.mem_singleton.mp hmem ▸ Request.fact?_of_not_saves hrequest

theorem code (script : Text) (turn : Turn) :
    Teaches exact turn ((change (.code script)).run turn).2 :=
  of_asked rfl rfl rfl rfl rfl (by simp) fun _ _ hmem =>
    Request.fact?_of_not_saves (Script.not_saves_of_mem_requests hmem)

/-- One lesson, and what it saves where there is a memory. -/
theorem of_lesson
    {facts : List (Text × Text)} {asked : List Request}
    (hstated : ∃ stars template, facts = lesson stars template)
    (hchanges : after.trace.changes = turn.trace.changes ++ [.facts facts])
    (hrequests : after.mind.requests = turn.mind.requests ++ asked)
    (hcollaborators : after.mind.collaborators = turn.mind.collaborators)
    (hmemory : after.mind.memory.isSome = turn.mind.memory.isSome)
    (hdraft : after.mind.draft = (⟨turn.mind.draft, facts⟩ : Lesson).learnt)
    (hasked : turn.mind.memory.isSome →
      asked.filterMap Request.fact? = (⟨turn.mind.draft, facts⟩ : Lesson).saved?.toList) :
    Teaches exact turn after := by
  have hlessons : lessons turn.mind.collaborators turn.mind.draft [.facts facts] =
      [⟨turn.mind.draft, facts⟩] := rfl
  have hsaved : turn.mind.memory.isSome →
      (lessons turn.mind.collaborators turn.mind.draft [.facts facts]).filterMap Lesson.saved? =
        asked.filterMap Request.fact? := by
    intro hmemory
    rw [hlessons, hasked hmemory]
    cases hpair : (⟨turn.mind.draft, facts⟩ : Lesson).saved? <;> simp [hpair]
  refine ⟨[.facts facts], asked, hchanges, hrequests, hcollaborators, hmemory, hdraft, ?_,
    fun hmemory => ?_, fun hmemory _ => hsaved hmemory⟩
  · rintro _ hmem
    obtain ⟨⟩ := List.mem_singleton.mp hmem
    exact hstated
  · rw [hsaved hmemory]

/-- What is saved when it is no lesson. -/
theorem save (key content : Text) (tags : List Text) (turn : Turn) :
    Teaches (fun _ => False) turn { turn with mind := turn.mind.save key content tags } := by
  unfold Mind.save
  split
  · exact refl turn
  · exact of_asked (List.append_nil _).symm rfl rfl (by simp_all) rfl (fun _ => List.not_mem_nil)
      False.elim

end Teaches

theorem closed_teaches (exact : Collaborators → Prop) : Closed fun _ => Teaches exact where
  refl := .refl
  trans := .trans
  assign _ _ _ := .of_same rfl rfl rfl rfl rfl
  choose _ _ _ := .of_same rfl rfl rfl rfl rfl
  request _ turn hrequest := .request hrequest turn
  code := .code
  count _ := .of_same rfl rfl rfl rfl rfl

theorem run_saveDefinition (turn : Turn) :
    (saveDefinition.run turn).2 =
      match Lesson.pair? turn.persona.getVariable? with
      | some (subject, definition) =>
        { turn with
          mind := turn.mind.save subject definition
            (turn.mind.collaborators.keywordSet (subject ++ ' ' :: definition)) }
      | none => turn := by
  rw [saveDefinition, run_get_bind]
  dsimp only
  unfold Lesson.pair?
  cases turn.persona.getVariable? subjectName <;>
    cases turn.persona.getVariable? definitionName <;> rfl

/-- A lesson is entered and then saved. -/
theorem teaches_learn
    (exact : Collaborators → Prop) (trigger : Trigger) (stars : List Text) (turn : Turn) :
    Teaches exact turn ((learn trigger stars).run turn).2 := by
  unfold learn
  dsimp only
  split
  · exact .refl turn
  · rename_i hfacts
    generalize hstated : (trigger.replies.head?.map (lesson stars)).getD [] = facts at hfacts ⊢
    have htemplate : ∃ stars template, facts = lesson stars template := by
      cases hreply : trigger.replies.head? with
      | none =>
        rw [hreply] at hstated
        exact absurd (hstated ▸ rfl) hfacts
      | some template =>
        rw [hreply] at hstated
        exact ⟨stars, template, hstated.symm⟩
    have hsaved : Lesson.pair? ((change (.facts facts)).run turn).2.persona.getVariable? =
        (⟨turn.mind.draft, facts⟩ : Lesson).saved? := rfl
    rw [run_bind, run_saveDefinition, hsaved]
    cases hpair : (⟨turn.mind.draft, facts⟩ : Lesson).saved? with
    | none =>
      have hnothing : turn.mind.memory.isSome → ([] : List Request).filterMap Request.fact? =
          (⟨turn.mind.draft, facts⟩ : Lesson).saved?.toList := fun _ => by rw [hpair]; rfl
      exact .of_lesson htemplate rfl (List.append_nil _).symm rfl rfl rfl hnothing
    | some pair =>
      obtain ⟨subject, definition⟩ := pair
      dsimp only
      unfold Mind.save
      split
      · rename_i hmemory
        have hforgets : turn.mind.memory.isSome → ([] : List Request).filterMap Request.fact? =
            (⟨turn.mind.draft, facts⟩ : Lesson).saved?.toList := fun hsome => by
          rw [show turn.mind.memory = none from hmemory] at hsome
          cases hsome
        exact .of_lesson htemplate rfl (List.append_nil _).symm rfl rfl rfl hforgets
      · rename_i memory hmemory
        have hsome : turn.mind.memory = some memory := hmemory
        refine .of_lesson htemplate rfl rfl rfl ?_ rfl fun _ => ?_
        · rw [hsome]
          rfl
        · rw [hpair]
          rfl

theorem teaches_askMemory
    (exact : Collaborators → Prop) (message : Text) (stars : List Text) (turn : Turn) :
    Teaches exact turn ((askMemory message stars).run turn).2 := by
  rw [askMemory, run_get_bind]
  dsimp only
  split
  · exact .refl turn
  · exact (closed_teaches exact).request _ turn Bool.false_ne_true

theorem Teaches.of_not_exact
    {exact : Collaborators → Prop} {turn after : Turn} (hexact : ¬ exact turn.mind.collaborators)
    (hteaches : Teaches (fun _ => False) turn after) :
    Teaches exact turn after := by
  obtain ⟨changes, asked, hsaves⟩ := hteaches
  exact ⟨changes, asked, { hsaves with exactly := fun _ hsilent => absurd hsilent hexact }⟩

theorem run_searchKnowledge_of_none
    {turn : Turn} (hknowledge : turn.mind.collaborators.knowledge = none) (message : Text)
    (stars : List Text) :
    ((searchKnowledge message stars).run turn).2 = ((askMemory message stars).run turn).2 := by
  have hasked : ((askMemory message stars).run turn).2.mind.collaborators.knowledge = none := by
    obtain ⟨_, _, hsaves⟩ := teaches_askMemory (fun _ => False) message stars turn
    rw [hsaves.collaborators_eq, hknowledge]
  rw [searchKnowledge, run_bind]
  split
  · rfl
  · rw [run_get_bind, hasked]
    rfl

/-- What a source of knowledge answers is saved too, but it is no lesson. -/
theorem teaches_searchKnowledge (message : Text) (stars : List Text) (turn : Turn) :
    Teaches (fun collaborators => collaborators.knowledge = none) turn
      ((searchKnowledge message stars).run turn).2 := by
  by_cases hknowledge : turn.mind.collaborators.knowledge = none
  · rw [run_searchKnowledge_of_none hknowledge]
    exact teaches_askMemory _ message stars turn
  · have hsearch := (closed_teaches fun _ => False).compatible.searchKnowledge
      (fun key content _ turn => .save key content _ turn) (teaches_askMemory _) message stars turn
    exact .of_not_exact hknowledge hsearch

theorem compatibleFrom_teaches :
    CompatibleFrom 0 fun _ _ m _ =>
      ∀ turn,
        Teaches (fun collaborators => collaborators.knowledge = none) turn (m.run turn).2 where
  toCompatible := (closed_teaches _).compatible
  leave _ := .of_same rfl rfl rfl rfl rfl
  select _ _ _ _ _ := .of_same rfl rfl rfl rfl rfl
  note _ _ _ _ _ _ _ := .of_same rfl rfl rfl rfl rfl
  search := teaches_searchKnowledge
  learn := teaches_learn _

theorem teaches_reply (message : Text) (turn : Turn) :
    Teaches (fun collaborators => collaborators.knowledge = none) turn
      ((reply message).run turn).2 := by
  have hanswer := @CompatibleFrom.answerOr 0 _ compatibleFrom_teaches (pure deepRecursion)
    (pure deepRecursion) .refl rfl (turn.persona.normalize message) turn
  rw [reply_eq_replyOr, run_replyOr rfl (Prod.eta _).symm]
  exact hanswer.trans (.of_same rfl rfl rfl rfl rfl)

end Turn

namespace Bot

/-! ## Lessons of conversations -/

/-- Every lesson of a turn saves the subject and the definition that the bot has when the facts of
the template have been entered; without a source of knowledge, the turn saves nothing else.  This is
the pair that the template states, and nothing when it does not state both, exactly if the template
states both or something that it leaves out has never been stated before. -/
theorem lessons_save_shared_definition
    (bot : Bot) (hmemory : bot.mind.memory.isSome) (user message : Text) :
    let answered := bot.answer user message
    let lessons := lessons bot.mind.collaborators bot.mind.draft answered.2.trace.changes
    let facts := (answered.1.mind.requests.drop bot.mind.requests.length).filterMap Request.fact?
    (lessons.filterMap Lesson.saved?).Sublist facts ∧
      (bot.mind.collaborators.knowledge.isSome ∨ lessons.filterMap Lesson.saved? = facts) ∧
      ∀ lesson ∈ lessons,
        (∃ stars template, lesson.facts = Turn.lesson stars template) ∧
          (lesson.saved? = lesson.own? ↔ lesson.own?.isSome ∨
            ∃ name ∈ [Turn.subjectName, Turn.definitionName],
              lesson.stated? name = none ∧ lesson.draft.getVariable? name = none) := by
  intro answered lessons facts
  obtain ⟨changes, asked, hsaves⟩ :=
    Turn.teaches_reply message { mind := bot.mind, session := bot.session user }
  have hchanges : answered.2.trace.changes = changes := hsaves.changes_eq
  have hasked : answered.1.mind.requests.drop bot.mind.requests.length = asked := by
    rw [show answered.1.mind.requests = bot.mind.requests ++ asked from hsaves.requests_eq]
    exact List.drop_left
  have hlessons : lessons =
      DialogueScript.lessons bot.mind.collaborators bot.mind.draft changes := by
    rw [← hchanges]
  have hfacts : facts = asked.filterMap Request.fact? := by
    rw [← hasked]
  rw [hlessons, hfacts]
  refine ⟨hsaves.saved hmemory, ?_, fun lesson hmem => ?_⟩
  · cases hknowledge : bot.mind.collaborators.knowledge with
    | none => exact .inr (hsaves.exactly hmemory hknowledge)
    | some source => exact .inl rfl
  · obtain ⟨stars, template, hstated⟩ := hsaves.stated _ (exists_facts_of_mem_lessons hmem)
    refine ⟨⟨stars, template, hstated⟩, Lesson.saved?_eq_own?_iff fun fact hfact => ?_⟩
    rw [hstated] at hfact
    exact Turn.ne_undefine_of_mem_lesson hfact

/-- A bot with a memory that learns a subject with its definition, or a subject alone. -/
def learner : Bot :=
  let bot := Bot.ofScript ("+ * is *\n= <set subject=<star1>><set definition=<star2>>ok\n".toList
    ++ "+ call it *\n= <set subject=<star1>>ok\n".toList)
  { bot with mind := { bot.mind with memory := some Memory.empty } }

/-- A template that states both has its own pair saved. -/
theorem lesson_saves_own_definition :
    let answered := learner.answer ['a'] "rust is a language".toList
    learner.mind.memory.isSome ∧
      answered.1.mind.requests.filterMap Request.fact? =
        [("rust".toList, "a language".toList)] ∧
      ∀ lesson ∈ lessons learner.mind.collaborators learner.mind.draft answered.2.trace.changes,
        lesson.saved? = lesson.own? := by
  intro answered
  have hstates : ∀ lesson ∈ lessons learner.mind.collaborators learner.mind.draft
      answered.2.trace.changes, lesson.own?.isSome := by
    decide +kernel
  obtain ⟨-, -, hlessons⟩ :=
    learner.lessons_save_shared_definition rfl ['a'] "rust is a language".toList
  refine ⟨rfl, by decide +kernel, fun lesson hmem => ?_⟩
  exact (hlessons lesson hmem).2.mpr (.inl (hstates lesson hmem))

/-- A template that states a subject alone has it saved with the definition of another subject,
which another user has stated in another turn. -/
theorem lesson_saves_definition_of_other_user :
    let before := (learner.answer ['a'] "rust is a language".toList).1
    let answered := before.answer ['b'] "call it go".toList
    answered.2.trace.changes = [.facts [(Turn.subjectName, "go".toList)]] ∧
      answered.1.mind.requests.drop before.mind.requests.length =
        [.save "go".toList "a language".toList ["language".toList]] := by
  decide +kernel

end Bot

end DialogueScript

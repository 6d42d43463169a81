import DialogueScript.Proofs.EndlessRedirects

/-!
# Like turns

Two minds may differ and a turn still go the same way in both of them.  A likeness says how their
drafts and live snapshots may differ; their random streams and the matchers that they keep may
differ in any case.  As long as the turn makes no real choice, runs no code but what the likeness
permits, and leaves the user in topics that it admits, both minds give the same replies and leave
the same session, and they stay alike.
-/

namespace DialogueScript

theorem Turn.mem_choices_choose
    {α : Type} {options more : Nat} {f : Random.Stream → α × Random.Stream} {turn : Turn}
    (hmore : more ∈ turn.trace.choices) :
    more ∈ ((choose options f).run turn).2.trace.choices := by
  have hrun : ((choose options f).run turn).2.trace.choices =
      if options = 0 then turn.trace.choices else turn.trace.choices ++ [options] := rfl
  rw [hrun]
  split
  · exact hmore
  · exact List.mem_append_left _ hmore

theorem Turn.le_of_choices_choose
    {α : Type} {options bound : Nat} {f : Random.Stream → α × Random.Stream} {turn : Turn}
    (hbound : ∀ more ∈ ((choose options f).run turn).2.trace.choices, more ≤ bound) :
    options ≤ bound := by
  have hrun : ((choose options f).run turn).2.trace.choices =
      if options = 0 then turn.trace.choices else turn.trace.choices ++ [options] := rfl
  rw [hrun] at hbound
  by_cases hnone : options = 0
  · exact hnone ▸ Nat.zero_le bound
  · rw [if_neg hnone] at hbound
    exact hbound options (List.mem_append_right _ (List.mem_singleton_self options))

/-- How two minds may differ: in their drafts, which the code that is permitted keeps alike, and in
live snapshots that select the same triggers for users in the topics that are admitted. -/
structure Likeness where
  admits : Text → Prop
  permits : Text → Prop
  draft : Persona → Persona → Prop
  live : Snapshot → Snapshot → Prop
  admits_default : admits defaultTopic
  setVariable : ∀ {persona persona' : Persona}, draft persona persona' → ∀ name value,
    draft (persona.setVariable name value) (persona'.setVariable name value)
  read : ∀ {persona persona' : Persona}, draft persona persona' → ∀ {script : Text},
    permits script → ∀ collaborators,
      let reading := Script.read collaborators persona Mind.streamed script
      let reading' := Script.read collaborators persona' Mind.streamed script
      draft reading.persona reading'.persona ∧ reading'.requests = reading.requests
  publish : ∀ {persona persona' : Persona}, draft persona persona' →
    live persona.publish persona'.publish
  definitions_eq : ∀ {snapshot snapshot' : Snapshot}, live snapshot snapshot' →
    snapshot'.persona.definitions = snapshot.persona.definitions
  objects_eq : ∀ {snapshot snapshot' : Snapshot}, live snapshot snapshot' →
    snapshot'.persona.objects = snapshot.persona.objects
  language_eq : ∀ {snapshot snapshot' : Snapshot}, live snapshot snapshot' →
    snapshot'.persona.language = snapshot.persona.language
  depth_eq : ∀ {snapshot snapshot' : Snapshot}, live snapshot snapshot' →
    snapshot'.persona.depth = snapshot.persona.depth
  contains_eq : ∀ {snapshot snapshot' : Snapshot}, live snapshot snapshot' → ∀ {name : Text},
    admits name → snapshot'.persona.graph.contains name = snapshot.persona.graph.contains name
  select?_eq : ∀ {snapshot snapshot' : Snapshot}, live snapshot snapshot' → ∀ {name : Text},
    admits name → ∀ session message step,
      snapshot'.select? session name message step = snapshot.select? session name message step

namespace Likeness

/-- The turn has chosen among one option at most, has run permitted code only, and has brought the
user to admitted topics only. -/
structure Calm (likeness : Likeness) (trace : Trace) : Prop where
  choices : ∀ options ∈ trace.choices, options ≤ 1
  code : ∀ script, Change.code script ∈ trace.changes → likeness.permits script
  topics : ∀ topic, (Session.topicName, topic) ∈ trace.assignments → likeness.admits topic

/-- The two turns are at the same place, in minds that differ as the likeness says. -/
structure Alike (likeness : Likeness) (turn turn' : Turn) : Prop where
  session : turn'.session = turn.session
  topic : likeness.admits turn.session.topic
  memory : turn'.mind.memory = turn.mind.memory
  collaborators : turn'.mind.collaborators = turn.mind.collaborators
  requests : turn'.mind.requests = turn.mind.requests
  draft : likeness.draft turn.mind.draft turn'.mind.draft
  live : likeness.live turn.mind.live turn'.mind.live

variable {likeness : Likeness}

theorem setFacts
    (likeness : Likeness) {persona persona' : Persona} (hdraft : likeness.draft persona persona')
    (facts : List (Text × Text)) :
    likeness.draft
      (facts.foldl (fun persona (name, value) => persona.setVariable name (some value)) persona)
      (facts.foldl (fun persona (name, value) => persona.setVariable name (some value))
        persona') := by
  induction facts generalizing persona persona' with
  | nil => exact hdraft
  | cons fact facts ih => exact ih (likeness.setVariable hdraft fact.1 (some fact.2))

theorem calm_before_move
    {turn after : Turn} (hmove : Turn.Move turn after) (hcalm : likeness.Calm after.trace) :
    likeness.Calm turn.trace := by
  obtain ⟨hchoices, hcode, htopics⟩ := hcalm
  cases hmove with
  | assign name value =>
    exact ⟨hchoices, hcode, fun topic htopic => htopics topic (List.mem_append_left _ htopic)⟩
  | draw options f =>
    refine ⟨fun more hmore => hchoices more ?_, hcode, htopics⟩
    exact Turn.mem_choices_choose hmore
  | code script =>
    exact ⟨hchoices, fun other hother => hcode other (List.mem_append_left _ hother), htopics⟩
  | learn facts _ =>
    exact ⟨hchoices, fun other hother => hcode other (List.mem_append_left _ hother), htopics⟩
  | _ => exact ⟨hchoices, hcode, htopics⟩

theorem calm_before_moves
    {turn after : Turn} (hmoves : Turn.Moves turn after) (hcalm : likeness.Calm after.trace) :
    likeness.Calm turn.trace := by
  induction hmoves with
  | refl => exact hcalm
  | tail _ hmove ih => exact ih (calm_before_move hmove hcalm)

/-- From these two turns on, the computations give the same result and the turns stay alike, if the
first of them is calm to the end. -/
def AgreeAt (likeness : Likeness) {α : Type} (m m' : TurnM α) (turn turn' : Turn) : Prop :=
  likeness.Calm (m.run turn).2.trace →
    (m'.run turn').1 = (m.run turn).1 ∧ likeness.Alike (m.run turn).2 (m'.run turn').2

structure Mirrors (likeness : Likeness) {α : Type} (m m' : TurnM α) : Prop where
  makes : Turn.Makes m
  agrees : ∀ {turn turn' : Turn}, likeness.Alike turn turn' → likeness.AgreeAt m m' turn turn'

section Combinators

variable {α β : Type}

theorem AgreeAt.bind
    {m m' : TurnM α} {f f' : α → TurnM β} {turn turn' : Turn}
    (hm : likeness.AgreeAt m m' turn turn')
    (hmoves : Turn.Moves (m.run turn).2 ((f (m.run turn).1).run (m.run turn).2).2)
    (hf : likeness.Alike (m.run turn).2 (m'.run turn').2 →
      likeness.AgreeAt (f (m.run turn).1) (f' (m.run turn).1) (m.run turn).2 (m'.run turn').2) :
    likeness.AgreeAt (m >>= f) (m' >>= f') turn turn' := by
  intro hcalm
  rw [Turn.run_bind] at hcalm
  obtain ⟨hresult, halike⟩ := hm (calm_before_moves hmoves hcalm)
  rw [Turn.run_bind, Turn.run_bind, hresult]
  exact hf halike hcalm

/-- Two first computations that are known to end alike are left to what follows them. -/
theorem AgreeAt.bind_of_run
    {m m' : TurnM α} {f f' : α → TurnM β} {turn turn' middle middle' : Turn} {a : α}
    (hm : m.run turn = (a, middle)) (hm' : m'.run turn' = (a, middle'))
    (hf : likeness.AgreeAt (f a) (f' a) middle middle') :
    likeness.AgreeAt (m >>= f) (m' >>= f') turn turn' := by
  intro hcalm
  rw [Turn.run_bind, hm] at hcalm
  rw [Turn.run_bind, Turn.run_bind, hm, hm']
  exact hf hcalm

namespace Mirrors

theorem pure (a : α) : likeness.Mirrors (Pure.pure a : TurnM α) (Pure.pure a) :=
  ⟨.pure a, fun halike _ => ⟨rfl, halike⟩⟩

theorem bind
    {m m' : TurnM α} {f f' : α → TurnM β} (hm : likeness.Mirrors m m')
    (hf : ∀ a, likeness.Mirrors (f a) (f' a)) :
    likeness.Mirrors (m >>= f) (m' >>= f') :=
  ⟨hm.makes.bind fun a => (hf a).makes,
    fun halike => (hm.agrees halike).bind ((hf _).makes _) fun hmiddle => (hf _).agrees hmiddle⟩

/-- What is read off the turns has to be the same in both. -/
theorem get_bind
    {f f' : Turn → TurnM β} (hmakes : Turn.Makes (get >>= f))
    (hf : ∀ turn turn', likeness.Alike turn turn' → likeness.Mirrors (f turn) (f' turn')) :
    likeness.Mirrors (get >>= f) (get >>= f') :=
  ⟨hmakes, fun halike => (hf _ _ halike).agrees halike⟩

theorem mapM {f f' : α → TurnM β} (hf : ∀ a, likeness.Mirrors (f a) (f' a)) (items : List α) :
    likeness.Mirrors (items.mapM f) (items.mapM f') := by
  induction items with
  | nil => exact pure []
  | cons item items ih =>
    rw [List.mapM_cons, List.mapM_cons]
    exact (hf item).bind fun _ => ih.bind fun _ => pure _

theorem foldlM
    {f f' : β → α → TurnM β} (hf : ∀ b a, likeness.Mirrors (f b a) (f' b a)) (items : List α)
    (b : β) :
    likeness.Mirrors (items.foldlM f b) (items.foldlM f' b) := by
  induction items generalizing b with
  | nil => exact pure b
  | cons item items ih =>
    rw [List.foldlM_cons, List.foldlM_cons]
    exact (hf b item).bind ih

theorem replaceTagsM
    {read? : Text → Option (α × Text)} {f f' : α → TurnM Text}
    (hf : ∀ a, likeness.Mirrors (f a) (f' a)) (text : Text) :
    likeness.Mirrors (Turn.replaceTagsM read? f text) (Turn.replaceTagsM read? f' text) := by
  unfold Turn.replaceTagsM
  refine (mapM (fun piece => ?_) _).bind fun _ => pure _
  cases piece with
  | char c => exact pure [c]
  | tag a => exact hf a

end Mirrors

end Combinators

end Likeness

namespace Turn

open Likeness

variable {likeness : Likeness}

/-! ## Single moves -/

theorem mirrors_assign (name value : Text) :
    likeness.Mirrors (assign name value) (assign name value) := by
  refine ⟨makes_assign name value, ?_⟩
  intro turn turn' halike hcalm
  have hsession : turn'.session.set name value = turn.session.set name value := by
    rw [halike.session]
  have htopic : likeness.admits (turn.session.set name value).topic := by
    by_cases hname : Session.topicName = name
    · subst hname
      have hset : (turn.session.set Session.topicName value).topic = value :=
        Session.topic_setTopic turn.session value
      rw [hset]
      exact hcalm.topics value (List.mem_append_right _ (List.mem_singleton_self _))
    · rw [Session.topic_set_of_ne turn.session value hname]
      exact halike.topic
  exact ⟨rfl, { halike with session := hsession, topic := htopic }⟩

theorem mirrors_choose
    {α : Type} {options : Nat} {f : Random.Stream → α × Random.Stream}
    (hf : options ≤ 1 → ∀ random random', (f random').1 = (f random).1) :
    likeness.Mirrors (choose options f) (choose options f) := by
  refine ⟨makes_choose options f, ?_⟩
  intro turn turn' halike hcalm
  have hsingle : options ≤ 1 := le_of_choices_choose hcalm.choices
  exact ⟨hf hsingle turn.mind.random turn'.mind.random, { halike with }⟩

theorem mirrors_request (request : Request) :
    likeness.Mirrors (modifyMind fun mind => mind.request request)
      (modifyMind fun mind => mind.request request) := by
  refine ⟨makes_request request, ?_⟩
  intro turn turn' halike _
  have hrequests : turn'.mind.requests ++ [request] = turn.mind.requests ++ [request] := by
    rw [halike.requests]
  exact ⟨rfl, { halike with requests := hrequests }⟩

theorem mirrors_save (key content : Text) (tags : Collaborators → List Text) :
    likeness.Mirrors
      (modifyMind fun mind => mind.save key content (tags mind.collaborators))
      (modifyMind fun mind => mind.save key content (tags mind.collaborators)) := by
  refine ⟨Makes.of_move fun _ => .save _ _ _, ?_⟩
  intro turn turn' halike _
  refine ⟨rfl, ?_⟩
  have hrun : ∀ turn : Turn, ((modifyMind fun mind =>
      mind.save key content (tags mind.collaborators)).run turn).2 =
        { turn with mind := turn.mind.save key content (tags turn.mind.collaborators) } :=
    fun _ => rfl
  rw [hrun, hrun, halike.collaborators]
  unfold Mind.save
  cases hmemory : turn.mind.memory with
  | none =>
    rw [halike.memory.trans hmemory]
    exact { halike with }
  | some memory =>
    have hrequests : turn'.mind.requests ++ [.save key content (tags turn.mind.collaborators)] =
        turn.mind.requests ++ [.save key content (tags turn.mind.collaborators)] := by
      rw [halike.requests]
    rw [halike.memory.trans hmemory]
    exact { halike with memory := rfl, requests := hrequests }

/-- Learning facts keeps minds alike, since they publish like drafts. -/
theorem agreeAt_changeFacts
    {turn turn' : Turn} (halike : likeness.Alike turn turn') (facts : List (Text × Text)) :
    likeness.AgreeAt (change (.facts facts)) (change (.facts facts)) turn turn' := by
  have hdraft := likeness.setFacts halike.draft facts
  exact fun _ => ⟨rfl, { halike with draft := hdraft, live := likeness.publish hdraft }⟩

theorem mirrors_changeCode (script : Text) :
    likeness.Mirrors (change (.code script)) (change (.code script)) := by
  refine ⟨Makes.of_move fun _ => .code script, ?_⟩
  intro turn turn' halike hcalm
  have hpermitted : likeness.permits script :=
    hcalm.code script (List.mem_append_right _ (List.mem_singleton_self _))
  let reading := Script.read turn.mind.collaborators turn.mind.draft Mind.streamed script
  let reading' := Script.read turn'.mind.collaborators turn'.mind.draft Mind.streamed script
  obtain ⟨hdraft, hread⟩ : likeness.draft reading.persona reading'.persona ∧
      reading'.requests = reading.requests := by
    dsimp only [reading']
    rw [halike.collaborators]
    exact likeness.read halike.draft hpermitted turn.mind.collaborators
  have hrequests : turn'.mind.requests ++ reading'.requests =
      turn.mind.requests ++ reading.requests := by
    rw [halike.requests, hread]
  refine ⟨rfl, ?_⟩
  exact { halike with
    requests := hrequests, draft := hdraft, live := likeness.publish hdraft }

/-! ## Expanding a reply -/

theorem mirrors_chooseRandom (text : Text) :
    likeness.Mirrors (chooseRandom text) (chooseRandom text) := by
  refine Mirrors.replaceTagsM (fun body => ?_) text
  refine (mirrors_choose fun hsingle random random' => ?_).bind fun _ => .pure _
  rw [Random.Stream.choose, if_pos hsingle, Random.Stream.choose, if_pos hsingle]

theorem mirrors_readPersona (text : Text) :
    likeness.Mirrors (readPersona text) (readPersona text) := by
  refine .get_bind (makes_readPersona text) fun turn turn' halike => ?_
  have hdefinitions : turn'.persona.definitions = turn.persona.definitions :=
    likeness.definitions_eq halike.live
  simp only [Persona.getVariable?, Persona.getGlobal?, hdefinitions]
  exact .pure _

theorem mirrors_runCode (text : Text) : likeness.Mirrors (runCode text) (runCode text) :=
  .replaceTagsM (fun _ => (mirrors_changeCode _).bind fun _ => .pure _) text

theorem mirrors_transform (text : Text) : likeness.Mirrors (transform text) (transform text) := by
  refine .get_bind (makes_transform text) fun turn turn' halike => ?_
  have hdefinitions : turn'.persona.definitions = turn.persona.definitions :=
    likeness.definitions_eq halike.live
  rw [hdefinitions]
  exact .pure _

theorem mirrors_setVariables (text : Text) :
    likeness.Mirrors (setVariables text) (setVariables text) :=
  .replaceTagsM (fun (name, value) => (mirrors_assign name value).bind fun _ => .pure _) text

theorem mirrors_compute (operation : Arithmetic) (text : Text) :
    likeness.Mirrors (compute operation text) (compute operation text) := by
  refine .replaceTagsM (fun (name, value) => .get_bind ?_ fun turn turn' halike => ?_) text
  · refine Makes.get_bind fun turn => ?_
    split
    · exact ((makes_assign name _).bind fun _ => Makes.pure _) turn
    · exact .refl
  · rw [halike.session]
    split
    · exact (mirrors_assign name _).bind fun _ => .pure _
    · exact .pure _

theorem mirrors_readVariables (text : Text) :
    likeness.Mirrors (readVariables text) (readVariables text) := by
  refine .get_bind (makes_readVariables text) fun turn turn' halike => ?_
  rw [halike.session]
  exact .pure _

theorem mirrors_changeTopic (text : Text) :
    likeness.Mirrors (changeTopic text) (changeTopic text) :=
  .replaceTagsM (fun topic => (mirrors_assign Session.topicName topic).bind fun _ => .pure _) text

theorem mirrors_settle (text : Text) : likeness.Mirrors (settle text) (settle text) :=
  (mirrors_setVariables text).bind fun text => mirrors_changeTopic text

theorem mirrors_callObject (data : Text) :
    likeness.Mirrors (callObject data) (callObject data) := by
  refine .get_bind (makes_callObject data) fun turn turn' halike => ?_
  have hobjects : turn'.persona.objects = turn.persona.objects := likeness.objects_eq halike.live
  dsimp only
  rw [hobjects, halike.collaborators, halike.session]
  split
  · exact .pure _
  · exact (mirrors_request _).bind fun _ => .pure _

theorem mirrors_countRedirect : likeness.Mirrors countRedirect countRedirect :=
  ⟨Makes.of_move fun _ => .redirect, fun halike _ => ⟨rfl, { halike with }⟩⟩

section Answer

variable {answer answer' : Text → TurnM Text}
  (hanswer : ∀ message, likeness.Mirrors (answer message) (answer' message))

include hanswer

theorem mirrors_redirect (text : Text) :
    likeness.Mirrors (redirect answer text) (redirect answer' text) := by
  refine .replaceTagsM (fun target => .get_bind ?_ fun turn turn' halike => ?_) text
  · refine Makes.get_bind fun turn => ?_
    exact ((Makes.of_move fun _ => .redirect).bind fun _ => (hanswer _).makes) turn
  · have hdefinitions : turn'.persona.definitions = turn.persona.definitions :=
      likeness.definitions_eq halike.live
    simp only [Persona.normalize, hdefinitions]
    exact mirrors_countRedirect.bind fun _ => hanswer _

theorem mirrors_expand (stars : Stars) (text : Text) :
    likeness.Mirrors (expand answer stars text) (expand answer' stars text) := by
  refine .get_bind (makes_expand (fun message => (hanswer message).makes) stars text)
    fun turn turn' halike => ?_
  rw [halike.session]
  refine (mirrors_chooseRandom _).bind fun text => ?_
  refine (mirrors_readPersona text).bind fun text => ?_
  refine (mirrors_runCode text).bind fun text => ?_
  refine (mirrors_transform text).bind fun text => ?_
  refine (mirrors_setVariables text).bind fun text => ?_
  refine (Mirrors.foldlM (fun text operation => mirrors_compute operation text) _ text).bind
    fun text => ?_
  refine (mirrors_readVariables text).bind fun text => ?_
  refine (mirrors_changeTopic text).bind fun text => ?_
  refine (mirrors_redirect hanswer text).bind fun text => ?_
  exact .replaceTagsM mirrors_callObject text

theorem mirrors_expandSide (stars : Stars) (side : Text) :
    likeness.Mirrors (expandSide answer stars side) (expandSide answer' stars side) :=
  (mirrors_expand hanswer stars side).bind fun _ => .pure _

theorem mirrors_checkConditions (stars : Stars) (conditions : List Text) :
    likeness.Mirrors (checkConditions answer stars conditions)
      (checkConditions answer' stars conditions) := by
  induction conditions with
  | nil => exact .pure []
  | cons condition conditions ih =>
    unfold checkConditions
    split
    · exact ih
    · refine (mirrors_expandSide hanswer stars _).bind fun left => ?_
      refine (mirrors_expandSide hanswer stars _).bind fun right => ?_
      split
      · exact .pure _
      · exact ih

theorem mirrors_finishReply (position : Position) (stars : Stars) (reply : Text) :
    likeness.Mirrors (finishReply answer position stars reply)
      (finishReply answer' position stars reply) := by
  unfold finishReply
  split
  · exact .pure _
  · split
    · exact mirrors_settle reply
    · exact mirrors_expand hanswer stars reply

end Answer

/-! ## Knowledge and learning -/

theorem mirrors_translate
    (translator : Option (Text → Language → Text)) (text : Text) (target : Language) :
    likeness.Mirrors (translate translator text target) (translate translator text target) := by
  cases translator with
  | none => exact .pure text
  | some translate => exact (mirrors_request _).bind fun _ => .pure _

theorem mirrors_askSource (source : KnowledgeSource) (message : Text) :
    likeness.Mirrors (askSource source message) (askSource source message) := by
  refine .get_bind (makes_askSource source message) fun turn turn' halike => ?_
  have hlanguage : turn'.language = turn.language := by
    have hpersona : turn'.persona.language = turn.persona.language :=
      likeness.language_eq halike.live
    rw [language, language, halike.session, hpersona]
  dsimp only
  rw [hlanguage, halike.collaborators]
  refine (mirrors_translate _ _ _).bind fun question => ?_
  refine (mirrors_request _).bind fun _ => ?_
  split
  · exact .pure none
  · refine (mirrors_translate _ _ _).bind fun answer => ?_
    exact (mirrors_save message answer fun _ => _).bind fun _ => .pure _

theorem mirrors_askMemory (message : Text) (stars : List Text) :
    likeness.Mirrors (askMemory message stars) (askMemory message stars) := by
  have hmakes := makes_askMemory message stars
  have hrequest : askMemory message stars = (get >>= fun turn =>
      turn.mind.memory.elim (pure none) fun memory => do
        let found := memory.find? message stars
        modifyMind fun mind => mind.request (.find message stars found)
        pure (found.filter fun found => !found.isEmpty)) := by
    funext ⟨⟨draft, live, cache, random, memory, collaborators, requests⟩, session, trace⟩
    cases memory <;> rfl
  rw [hrequest] at hmakes ⊢
  refine .get_bind hmakes fun turn turn' halike => ?_
  rw [halike.memory]
  cases turn.mind.memory with
  | none => exact .pure none
  | some memory => exact (mirrors_request _).bind fun _ => .pure _

theorem mirrors_searchKnowledge (message : Text) (stars : List Text) :
    likeness.Mirrors (searchKnowledge message stars) (searchKnowledge message stars) := by
  refine (mirrors_askMemory message stars).bind fun found => ?_
  cases found with
  | some found => exact .pure _
  | none =>
    refine .get_bind ?_ fun turn turn' halike => ?_
    · refine Makes.get_bind fun turn => ?_
      split
      · exact .refl
      · exact makes_askSource _ message turn
    · rw [halike.collaborators]
      split
      · exact .pure none
      · exact mirrors_askSource _ message

theorem mirrors_saveDefinition : likeness.Mirrors saveDefinition saveDefinition := by
  refine .get_bind makes_saveDefinition fun turn turn' halike => ?_
  have hdefinitions : turn'.persona.definitions = turn.persona.definitions :=
    likeness.definitions_eq halike.live
  simp only [Persona.getVariable?, hdefinitions]
  split
  · exact mirrors_save _ _ fun collaborators => collaborators.keywordSet _
  · exact .pure ()

/-- That the facts are learned is a move only while the live graph says so, but in any case both
minds learn the same. -/
theorem agreeAt_learn
    {turn turn' : Turn} (halike : likeness.Alike turn turn') (trigger : Trigger)
    (stars : List Text) :
    likeness.AgreeAt (learn trigger stars) (learn trigger stars) turn turn' := by
  unfold learn
  dsimp only
  split
  · exact (Mirrors.pure ()).agrees halike
  · exact (agreeAt_changeFacts halike _).bind (makes_saveDefinition _)
      fun hmiddle => mirrors_saveDefinition.agrees hmiddle

/-! ## Steps -/

theorem mirrors_chooseAnswer (trigger : Trigger) :
    likeness.Mirrors (chooseAnswer trigger) (chooseAnswer trigger) := by
  refine (mirrors_choose fun hsingle random random' => ?_).bind fun _ => .pure _
  cases hchoices : choices trigger with
  | nil => simp [Random.Stream.chooseWeighted]
  | cons choice others =>
    obtain rfl : others = [] := by
      rw [hchoices, List.length_cons] at hsingle
      exact List.eq_nil_of_length_eq_zero (Nat.le_zero.mp (Nat.le_of_succ_le_succ hsingle))
    rw [List.map_singleton, Random.Stream.chooseWeighted_single (choiceWeight_pos choice.text),
      Random.Stream.chooseWeighted_single (choiceWeight_pos choice.text)]

theorem alike_note
    {turn turn' : Turn} (halike : likeness.Alike turn turn') (position position' : Position)
    (topic message : Text) (selection : Option Selection) :
    likeness.Alike ((note position topic message selection).run turn).2
      ((note position' topic message selection).run turn').2 := by
  let pattern := (selection.map (·.pattern)).getD []
  have hsession : turn'.session.set lastMatchName pattern =
      turn.session.set lastMatchName pattern := by
    rw [halike.session]
  have htopic : likeness.admits (turn.session.set lastMatchName pattern).topic := by
    rw [Session.topic_set_of_ne turn.session pattern (by decide)]
    exact halike.topic
  exact { halike with session := hsession, topic := htopic }

theorem alike_settle
    {turn turn' : Turn} (halike : likeness.Alike turn turn') :
    likeness.Alike { turn with session := turn.mind.live.settle turn.session }
      { turn' with session := turn'.mind.live.settle turn'.session } := by
  have hsession : turn'.mind.live.settle turn'.session = turn.mind.live.settle turn.session := by
    rw [Snapshot.settle, Snapshot.settle, halike.session,
      likeness.contains_eq halike.live halike.topic]
  have htopic : likeness.admits (turn.mind.live.settle turn.session).topic := by
    unfold Snapshot.settle
    split
    · exact halike.topic
    · rw [Session.topic_setTopic]
      exact likeness.admits_default
  exact { halike with session := hsession, topic := htopic }

section Step

variable {next next' : Bool → Text → TurnM Text} {afterNext afterNext' : Text → TurnM Text}
  (hnext : ∀ (opening : Bool) (message : Text), (opening → likeness.admits Script.beginTopic) →
    likeness.Mirrors (next opening message) (next' opening message))
  (hafterNext : ∀ message, likeness.Mirrors (afterNext message) (afterNext' message))
  (step step' : Nat) {opening : Bool} (hopening : opening → likeness.admits Script.beginTopic)

include hnext hafterNext hopening

/-- How deep a step is makes no difference to the answer of the trigger. -/
theorem mirrors_answerBy (selection : Selection) :
    likeness.Mirrors (answerBy next afterNext ⟨step, opening⟩ selection)
      (answerBy next' afterNext' ⟨step', opening⟩ selection) := by
  have hclosed : ∀ message, likeness.Mirrors (next false message) (next' false message) :=
    fun message => hnext false message (fun hfalse => absurd hfalse Bool.false_ne_true)
  refine (mirrors_checkConditions hafterNext _ _).bind fun outcome => ?_
  split
  · exact mirrors_finishReply hclosed ⟨step, opening⟩ _ _
  · refine (mirrors_chooseAnswer _).bind fun choice => ?_
    split
    · refine mirrors_countRedirect.bind fun _ => ?_
      refine (mirrors_expand hclosed _ _).bind fun target => ?_
      refine .get_bind ?_ fun turn turn' halike => ?_
      · exact Makes.get_bind fun turn => (hnext _ _ hopening).makes turn
      · have hdefinitions : turn'.persona.definitions = turn.persona.definitions :=
          likeness.definitions_eq halike.live
        simp only [Persona.normalize, hdefinitions]
        exact hnext _ _ hopening
    · exact mirrors_finishReply hclosed ⟨step, opening⟩ _ _
    · exact .pure _

theorem agreeAt_answerSelected
    {turn turn' : Turn} (halike : likeness.Alike turn turn') (selection : Selection)
    (message : Text) :
    likeness.AgreeAt (answerSelected next afterNext ⟨step, opening⟩ message selection)
      (answerSelected next' afterNext' ⟨step', opening⟩ message selection) turn turn' := by
  have hanswer := mirrors_answerBy hnext hafterNext step step' hopening selection
  by_cases htrigger : selection.trigger.learns
  · simp only [answerSelected, htrigger, if_true]
    exact (agreeAt_learn halike _ _).bind (hanswer.makes _) fun hmiddle => hanswer.agrees hmiddle
  · have hmirrors : likeness.Mirrors
        (answerSelected next afterNext ⟨step, opening⟩ message selection)
        (answerSelected next' afterNext' ⟨step', opening⟩ message selection) := by
      simp only [answerSelected, htrigger, Bool.false_eq_true, if_false]
      split
      · exact hanswer
      · refine (mirrors_searchKnowledge _ _).bind fun known => ?_
        cases known with
        | some known => exact .pure known
        | none => exact hanswer
    exact hmirrors.agrees halike

/-- Two turns that select the same, and are alike once that is noted, answer alike. -/
theorem agreeAt_answerStep_of_select
    {turn turn' : Turn} {topic name message : Text}
    (hname : (if opening then Script.beginTopic else topic) = name)
    (hselect : turn'.mind.live.select? turn'.session name message step' =
      turn.mind.live.select? turn.session name message step)
    (hnoted : ∀ selection,
      likeness.Alike ((note ⟨step, opening⟩ name message selection).run turn).2
        ((note ⟨step', opening⟩ name message selection).run turn').2) :
    likeness.AgreeAt (answerStep next afterNext turn.mind.live ⟨step, opening⟩ topic message)
      (answerStep next' afterNext' turn'.mind.live ⟨step', opening⟩ topic message) turn turn' := by
  unfold answerStep
  rw [hname]
  dsimp only
  obtain ⟨cache, hrun⟩ := exists_run_select turn.mind.live name message step turn
  obtain ⟨cache', hrun'⟩ := exists_run_select turn'.mind.live name message step' turn'
  rw [hselect] at hrun'
  have hnote : ∀ (position : Position) (selection : Option Selection) (turn : Turn),
      (note position name message selection).run turn =
        ((), ((note position name message selection).run turn).2) := fun _ _ _ => rfl
  have hkept : ∀ selection, likeness.Alike
      ((note ⟨step, opening⟩ name message selection).run
        { turn with mind := { turn.mind with cache } }).2
      ((note ⟨step', opening⟩ name message selection).run
        { turn' with mind := { turn'.mind with cache := cache' } }).2 :=
    fun selection => { hnoted selection with }
  apply AgreeAt.bind_of_run hrun hrun'
  apply AgreeAt.bind_of_run (hnote _ _ _) (hnote _ _ _)
  cases turn.mind.live.select? turn.session name message step with
  | none => exact (Mirrors.pure noReplyMatched).agrees (hkept none)
  | some selection =>
    exact agreeAt_answerSelected hnext hafterNext step step' hopening (hkept (some selection))
      selection message

theorem agreeAt_answerStep
    (hfirst : step = 0 ↔ step' = 0) {turn turn' : Turn} (halike : likeness.Alike turn turn')
    {topic : Text} (htopic : likeness.admits topic) (message : Text) :
    likeness.AgreeAt (answerStep next afterNext turn.mind.live ⟨step, opening⟩ topic message)
      (answerStep next' afterNext' turn'.mind.live ⟨step', opening⟩ topic message) turn turn' := by
  have hname : likeness.admits (if opening then Script.beginTopic else topic) := by
    split
    · exact hopening ‹_›
    · exact htopic
  refine agreeAt_answerStep_of_select hnext hafterNext step step' hopening rfl ?_
    (alike_note halike _ _ _ message)
  rw [halike.session, likeness.select?_eq halike.live hname]
  simp only [Snapshot.select?, hfirst]

end Step

/-- A step agrees with one that is `gap` steps deeper, if neither is or both are the first one, and
if what is done in place of too deep a step agrees with the other one, too. -/
theorem mirrors_resolveOr
    {cut : TurnM Text} {gap : Nat} (hmakes : Makes cut)
    (hcut : ∀ step opening message {turn turn' : Turn}, likeness.Alike turn turn' →
      turn.mind.live.persona.depth.toNat < step + gap →
        likeness.AgreeAt (resolveOr cut (step + gap) opening message)
          (resolve step opening message) turn turn')
    (step : Nat) (opening : Bool) (message : Text) (hfirst : gap = 0 ∨ 0 < step)
    (hopening : opening → likeness.admits Script.beginTopic) :
    likeness.Mirrors (resolveOr cut (step + gap) opening message)
      (resolve step opening message) := by
  induction step using step_induction generalizing opening message with
  | deeper step ih =>
    refine ⟨makes_resolveOr hmakes (step + gap) opening message, ?_⟩
    intro turn turn' halike
    by_cases hdeep : turn.mind.live.persona.depth.toNat < step + gap
    · exact hcut step opening message halike hdeep
    have hdeep' : ¬ turn'.mind.live.persona.depth.toNat < step := by
      rw [likeness.depth_eq halike.live]
      omega
    have hdeeper : ∀ more, 0 < more → ∀ (opening : Bool) message,
        (opening → likeness.admits Script.beginTopic) →
          likeness.Mirrors (resolveOr cut (step + gap + more) opening message)
            (resolve (step + more) opening message) := by
      intro more hmore opening message hopening
      rw [Nat.add_right_comm]
      exact ih hdeep' more hmore opening message (.inr (Nat.add_pos_right step hmore)) hopening
    have hafterNext : ∀ message, likeness.Mirrors (resolveOr cut (step + gap + 2) false message)
        (resolve (step + 2) false message) :=
      fun message => hdeeper 2 (by decide) false message
        fun hfalse => absurd hfalse Bool.false_ne_true
    have hsettled := alike_settle halike
    have hstep := agreeAt_answerStep (hdeeper 1 (by decide)) hafterNext (step + gap) step hopening
      (by omega) hsettled hsettled.topic message
    have htopic : (turn'.mind.live.settle turn'.session).topic =
        (turn.mind.live.settle turn.session).topic := congrArg Session.topic hsettled.session
    unfold AgreeAt at hstep ⊢
    rw [run_resolveOr_of_not_lt opening message cut hdeep,
      run_resolve_of_not_lt opening message hdeep', htopic]
    exact hstep

theorem mirrors_resolve
    (step : Nat) (opening : Bool) (message : Text)
    (hopening : opening → likeness.admits Script.beginTopic) :
    likeness.Mirrors (resolve step opening message) (resolve step opening message) := by
  have hmirrors : likeness.Mirrors (resolveOr (pure deepRecursion) (step + 0) opening message)
      (resolve step opening message) := by
    refine mirrors_resolveOr (Makes.pure deepRecursion) ?_ step opening message (.inl rfl) hopening
    intro step opening message turn turn' halike hdeep _
    have hdeep' : turn'.mind.live.persona.depth.toNat < step := by
      rwa [likeness.depth_eq halike.live]
    rw [← resolve_eq_resolveOr, run_resolve_of_lt opening message hdeep,
      run_resolve_of_lt opening message hdeep']
    exact ⟨rfl, alike_settle halike⟩
  rwa [← resolve_eq_resolveOr] at hmirrors

/-! ## Whole turns -/

theorem mirrors_answer (hbegin : likeness.admits Script.beginTopic) (message : Text) :
    likeness.Mirrors (answer message) (answer message) := by
  have hresolve : ∀ step opening message,
      likeness.Mirrors (resolve step opening message) (resolve step opening message) :=
    fun step opening message => mirrors_resolve step opening message fun _ => hbegin
  refine .get_bind (makes_answer message) fun turn turn' halike => ?_
  have hcontains : turn'.persona.graph.contains Script.beginTopic =
      turn.persona.graph.contains Script.beginTopic := likeness.contains_eq halike.live hbegin
  rw [hcontains]
  split
  · have hexpand : ∀ text, likeness.Mirrors (expand (resolve 1 false) {} text)
        (expand (resolve 1 false) {} text) := mirrors_expand (hresolve 1 false) {}
    refine (hresolve 0 true requestMessage).bind fun opening => ?_
    split
    · exact (hresolve 0 false message).bind fun reply => (Mirrors.pure _).bind hexpand
    · exact (Mirrors.pure opening).bind hexpand
  · exact hresolve 0 false message

theorem mirrors_push (message reply : Text) :
    likeness.Mirrors (modifySession fun session => session.push message reply)
      (modifySession fun session => session.push message reply) := by
  refine ⟨Makes.of_move fun _ => .push message reply, ?_⟩
  intro turn turn' halike _
  have hsession : turn'.session.push message reply = turn.session.push message reply := by
    rw [halike.session]
  have htopic : likeness.admits (turn.session.push message reply).topic := halike.topic
  exact ⟨rfl, { halike with session := hsession, topic := htopic }⟩

theorem mirrors_reply (hbegin : likeness.admits Script.beginTopic) (message : Text) :
    likeness.Mirrors (reply message) (reply message) := by
  refine .get_bind (makes_reply message) fun turn turn' halike => ?_
  have hdefinitions : turn'.persona.definitions = turn.persona.definitions :=
    likeness.definitions_eq halike.live
  simp only [Persona.normalize, hdefinitions]
  exact (mirrors_answer hbegin _).bind fun reply => (mirrors_push _ reply).bind fun _ => .pure _

end Turn

namespace Bot

theorem session?_answer_self (bot : Bot) (user message : Text) :
    (bot.answer user message).1.session? user =
      some ((Turn.reply message).run { mind := bot.mind, session := bot.session user }).2.session :=
  Table.get?_insert_self bot.sessions user _

theorem session?_answer_of_ne (bot : Bot) {user other : Text} (hne : other ≠ user) (message : Text) :
    (bot.answer user message).1.session? other = bot.session? other :=
  Table.get?_insert_of_ne bot.sessions _ hne

end Bot

end DialogueScript

import DialogueScript.Bot
import DialogueScript.Proofs.CachedMatching
import DialogueScript.Proofs.TurnRelations
import Mathlib.Logic.Relation

/-!
# What a turn can do

Every function of a turn is made of a few moves: it sets a variable of the session, makes an entry
in the trace, draws from the random stream, keeps matchers, asks a collaborator, saves a record, or
changes the persona.  No step is recorded that is deeper than the persona allows, and facts are
learned only when a trigger of the live graph says so.  What each move preserves is therefore
preserved by a whole turn.
-/

namespace DialogueScript

/-- Some trigger of the live graph learns facts. -/
def Snapshot.Learns (snapshot : Snapshot) : Prop :=
  ∃ topic ∈ snapshot.persona.graph.topics, ∃ trigger ∈ topic.triggers, trigger.learns

instance (snapshot : Snapshot) : Decidable snapshot.Learns :=
  inferInstanceAs (Decidable (∃ topic ∈ snapshot.persona.graph.topics,
    ∃ trigger ∈ topic.triggers, trigger.learns))

theorem Mind.persona_save (mind : Mind) (key content : Text) (tags : List Text) :
    (mind.save key content tags).collaborators = mind.collaborators ∧
      (mind.save key content tags).draft = mind.draft ∧
      (mind.save key content tags).live = mind.live := by
  unfold save
  split <;> exact ⟨rfl, rfl, rfl⟩

namespace Turn

inductive Move (turn : Turn) : Turn → Prop
  | set (name value : Text) : Move turn { turn with session := turn.session.set name value }
  | push (message reply : Text) :
    Move turn { turn with session := turn.session.push message reply }
  | record (step : Step) (hstep : step.step ≤ turn.mind.live.persona.depth.toNat) :
    Move turn { turn with trace := { turn.trace with steps := turn.trace.steps ++ [step] } }
  | redirect :
    Move turn { turn with trace := { turn.trace with redirects := turn.trace.redirects + 1 } }
  | assign (name value : Text) : Move turn ((assign name value).run turn).2
  | draw {α : Type} (options : Nat) (f : Random.Stream → α × Random.Stream) :
    Move turn ((choose options f).run turn).2
  | keep (cache : Cache) : Move turn { turn with mind := { turn.mind with cache } }
  | request (request : Request) : Move turn { turn with mind := turn.mind.request request }
  | save (key content : Text) (tags : List Text) :
    Move turn { turn with mind := turn.mind.save key content tags }
  | code (script : Text) : Move turn ((change (.code script)).run turn).2
  | learn (facts : List (Text × Text)) (hlearns : turn.mind.live.Learns) :
    Move turn ((change (.facts facts)).run turn).2

def Moves : Turn → Turn → Prop :=
  Relation.ReflTransGen Move

theorem Move.moves {turn after : Turn} (hmove : Move turn after) : Moves turn after :=
  Relation.ReflTransGen.single hmove

theorem Moves.trans {turn middle after : Turn} (hfirst : Moves turn middle)
    (hsecond : Moves middle after) :
    Moves turn after :=
  Relation.ReflTransGen.trans hfirst hsecond

theorem Moves.bind
    {α β : Type} {turn : Turn} {m : TurnM α} {f : α → TurnM β}
    (hm : Moves turn (m.run turn).2)
    (hf : Moves (m.run turn).2 ((f (m.run turn).1).run (m.run turn).2).2) :
    Moves turn ((m >>= f).run turn).2 :=
  hm.trans hf

/-- From every state, `m` makes moves only. -/
def Makes {α : Type} (m : TurnM α) : Prop :=
  ∀ turn, Moves turn (m.run turn).2

namespace Makes

variable {α β : Type}

theorem pure (a : α) : Makes (Pure.pure a : TurnM α) :=
  fun _ => .refl

theorem bind {m : TurnM α} {f : α → TurnM β} (hm : Makes m) (hf : ∀ a, Makes (f a)) :
    Makes (m >>= f) :=
  fun turn => (hm turn).trans (hf _ _)

theorem get_bind {f : Turn → TurnM β} (hf : ∀ turn, Moves turn ((f turn).run turn).2) :
    Makes (get >>= f) :=
  fun turn => hf turn

theorem of_move {m : TurnM α} (hm : ∀ turn, Move turn (m.run turn).2) : Makes m :=
  fun turn => (hm turn).moves

end Makes

theorem makes_set (name value : Text) :
    Makes (modifySession fun session => session.set name value) :=
  Makes.of_move fun _ => .set name value

theorem makes_request (request : Request) :
    Makes (modifyMind fun mind => mind.request request) :=
  Makes.of_move fun _ => .request request

theorem makes_assign (name value : Text) : Makes (assign name value) :=
  Makes.of_move fun _ => .assign name value

theorem makes_choose {α : Type} (options : Nat) (f : Random.Stream → α × Random.Stream) :
    Makes (choose options f) :=
  Makes.of_move fun _ => .draw options f

theorem closed_moves : Closed fun _ => Moves where
  refl _ := .refl
  trans := Moves.trans
  assign name value _ := (Move.assign name value).moves
  choose options f _ := (Move.draw options f).moves
  request request _ _ := (Move.request request).moves
  code script _ := (Move.code script).moves
  count _ := Move.redirect.moves

/-- Making moves is respected by all that turns are put together from. -/
theorem compatible_makes : Compatible fun _ _ m _ => Makes m :=
  closed_moves.compatible

/-! ## Expanding a reply -/

theorem makes_readPersona (text : Text) : Makes (readPersona text) :=
  compatible_makes.readPersona text

theorem makes_transform (text : Text) : Makes (transform text) :=
  compatible_makes.transform text

theorem makes_readVariables (text : Text) : Makes (readVariables text) :=
  compatible_makes.readVariables text

theorem makes_callObject (data : Text) : Makes (callObject data) :=
  compatible_makes.callObject data

theorem makes_expand
    {answer : Text → TurnM Text} (hanswer : ∀ message, Makes (answer message)) (stars : Stars)
    (text : Text) :
    Makes (expand answer stars text) :=
  @Compatible.expand _ compatible_makes answer answer hanswer stars text

/-! ## Knowledge and learning -/

theorem makes_save (key content : Text) (tags : Mind → List Text) :
    Makes (modifyMind fun mind => mind.save key content (tags mind)) :=
  Makes.of_move fun _ => .save key content _

theorem makes_askSource (source : KnowledgeSource) (message : Text) :
    Makes (askSource source message) :=
  compatible_makes.askSource makes_save source message

theorem makes_askMemory (message : Text) (stars : List Text) : Makes (askMemory message stars) := by
  refine Makes.get_bind fun turn => ?_
  dsimp only
  split
  · exact .refl
  · exact (Move.request (.find message stars _)).moves

theorem makes_searchKnowledge (message : Text) (stars : List Text) :
    Makes (searchKnowledge message stars) :=
  compatible_makes.searchKnowledge makes_save makes_askMemory message stars

theorem makes_saveDefinition : Makes saveDefinition :=
  compatible_makes.saveDefinition makes_save

/-- Learning is a move only while the live graph holds a trigger that learns. -/
theorem moves_learn
    {turn : Turn} (hlearns : turn.mind.live.Learns) (trigger : Trigger) (stars : List Text) :
    Moves turn ((learn trigger stars).run turn).2 := by
  unfold learn
  dsimp only
  split
  · exact .refl
  · exact (Move.learn _ hlearns).moves.trans (makes_saveDefinition _)

/-! ## Steps -/

section Answer

variable {next : Bool → Text → TurnM Text} {afterNext : Text → TurnM Text}
  (hnext : ∀ opening message, Makes (next opening message))
  (hafterNext : ∀ message, Makes (afterNext message))

include hnext hafterNext

theorem moves_answerSelected
    {turn : Turn} {selection : Selection}
    (hlearns : selection.trigger.learns → turn.mind.live.Learns) (position : Position)
    (message : Text) :
    Moves turn ((answerSelected next afterNext position message selection).run turn).2 := by
  have hanswer : Makes (answerBy next afterNext position selection) :=
    @Compatible.answerBy _ compatible_makes next next afterNext afterNext hnext hafterNext position
      selection
  unfold answerSelected
  dsimp only
  split
  · rename_i htrigger
    exact (moves_learn (hlearns htrigger) _ _).trans (hanswer _)
  · split
    · exact hanswer turn
    · refine ((makes_searchKnowledge _ _).bind fun known => ?_) turn
      cases known with
      | some known => exact Makes.pure known
      | none => exact hanswer

end Answer

end Turn

/-! ## Selected triggers -/

namespace Graph

theorem mem_topics_of_mem_lineageFrom
    {graph : Graph} {path : List Text} {name : Text} {topic : Topic}
    (hmem : topic ∈ graph.lineageFrom path name) :
    topic ∈ graph.topics := by
  fun_induction graph.lineageFrom path name with
  | case1 => simp at hmem
  | case2 => simp at hmem
  | case3 path name hpath heir htopic ih =>
    obtain ⟨next, -, hnext⟩ := List.mem_flatMap.mp hmem
    split at hnext
    · simp at hnext
    · rcases List.mem_append.mp hnext with hnext | hnext
      · exact (topic?_name (Option.mem_toList.mp hnext)).1
      · exact ih next hnext

end Graph

namespace Snapshot

variable {snapshot : Snapshot} {session : Session} {selection : Selection}

theorem mem_of_trigger?
    {topic : Topic} {key : Trigger.Key} {trigger : Trigger}
    (hfound : topic.trigger? key = some trigger) :
    trigger ∈ topic.triggers :=
  List.mem_of_find?_eq_some hfound

theorem exists_topic_of_selectByPrevious?
    {name message : Text}
    (hselect : snapshot.selectByPrevious? session name message = some selection) :
    ∃ owner ∈ snapshot.persona.graph.topics, selection.trigger ∈ owner.triggers := by
  obtain ⟨owner, -, hpaired⟩ := List.exists_of_findSome?_eq_some hselect
  obtain ⟨topic, htopic, hpaired⟩ := Option.bind_eq_some_iff.mp hpaired
  obtain ⟨_, -, hpaired⟩ := List.exists_of_findSome?_eq_some hpaired
  obtain ⟨_, -, hpaired⟩ := Option.bind_eq_some_iff.mp hpaired
  obtain ⟨_, -, hpaired⟩ := List.exists_of_findSome?_eq_some hpaired
  obtain ⟨_, -, hpaired⟩ := Option.bind_eq_some_iff.mp hpaired
  obtain ⟨trigger, htrigger, rfl⟩ := Option.map_eq_some_iff.mp hpaired
  exact ⟨topic, (Graph.topic?_name htopic).1, mem_of_trigger? htrigger⟩

theorem exists_topic_of_ownerOf?
    {name pattern : Text} {trigger : Trigger}
    (howner : snapshot.ownerOf? name pattern = some trigger) :
    ∃ owner ∈ snapshot.persona.graph.topics, trigger ∈ owner.triggers := by
  rw [ownerOf?, Option.orElse_eq_orElse, Option.orElse_eq_or, Option.or_eq_some_iff] at howner
  rcases howner with howner | ⟨-, hinherited⟩
  · obtain ⟨topic, htopic, htrigger⟩ := Option.bind_eq_some_iff.mp howner
    exact ⟨topic, (Graph.topic?_name htopic).1, mem_of_trigger? htrigger⟩
  · obtain ⟨topic, hlineage, htrigger⟩ := List.exists_of_findSome?_eq_some hinherited
    exact ⟨topic, Graph.mem_topics_of_mem_lineageFrom hlineage, mem_of_trigger? htrigger⟩

/-- What answers a message stands in a topic of the graph. -/
theorem exists_topic_of_select?
    {name message : Text} {step : Nat}
    (hselect : snapshot.select? session name message step = some selection) :
    ∃ owner ∈ snapshot.persona.graph.topics, selection.trigger ∈ owner.triggers := by
  rw [select?, Option.orElse_eq_orElse, Option.orElse_eq_or, Option.or_eq_some_iff] at hselect
  rcases hselect with hprevious | ⟨-, horder⟩
  · split at hprevious
    · exact exists_topic_of_selectByPrevious? hprevious
    · cases hprevious
  · obtain ⟨_, -, hmap⟩ := Option.bind_eq_some_iff.mp horder
    obtain ⟨trigger, howner, rfl⟩ := Option.map_eq_some_iff.mp hmap
    exact exists_topic_of_ownerOf? howner

end Snapshot

namespace Turn

theorem moves_note
    {turn : Turn} {position : Position}
    (hstep : position.step ≤ turn.mind.live.persona.depth.toNat) (topic message : Text)
    (selection : Option Selection) :
    Moves turn ((note position topic message selection).run turn).2 :=
  (makes_set _ _ turn).tail (.record _ hstep)

theorem moves_answerStep
    {next : Bool → Text → TurnM Text} {afterNext : Text → TurnM Text}
    (hnext : ∀ opening message, Makes (next opening message))
    (hafterNext : ∀ message, Makes (afterNext message))
    {turn : Turn} {snapshot : Snapshot} (hlive : turn.mind.live = snapshot) {position : Position}
    (hdepth : ¬ snapshot.persona.depth.toNat < position.step) (topic message : Text) :
    Moves turn ((answerStep next afterNext snapshot position topic message).run turn).2 := by
  subst hlive
  unfold answerStep
  generalize (if position.opening then Script.beginTopic else topic) = name
  dsimp only
  obtain ⟨cache, hrun⟩ := exists_run_select turn.mind.live name message position.step turn
  have hselects : Moves turn ((select turn.mind.live name message position.step).run turn).2 := by
    rw [hrun]
    exact (Move.keep cache).moves
  refine Moves.bind hselects ?_
  rw [hrun]
  have hstep : position.step ≤
      ({ turn with mind := { turn.mind with cache } } : Turn).mind.live.persona.depth.toNat :=
    Nat.le_of_not_lt hdepth
  refine Moves.bind (moves_note hstep _ _ _) ?_
  split
  · exact .refl
  · rename_i selection hselect
    refine moves_answerSelected hnext hafterNext (fun htrigger => ?_) position message
    obtain ⟨owner, howner, hmem⟩ := Snapshot.exists_topic_of_select? hselect
    exact ⟨owner, howner, _, hmem, htrigger⟩

theorem makes_currentTopic (snapshot : Snapshot) : Makes (currentTopic snapshot) := by
  refine Makes.get_bind fun turn => ?_
  dsimp only
  split
  · exact .refl
  · exact (makes_set _ _) turn

theorem mind_currentTopic (turn : Turn) (snapshot : Snapshot) :
    ((currentTopic snapshot).run turn).2.mind = turn.mind := by
  unfold currentTopic
  rw [run_get_bind]
  dsimp only
  split <;> rfl

/-! ## Steps that are too deep -/

section Cut

variable {cut : TurnM Text} (hcut : Makes cut)

include hcut

theorem makes_resolveOr (step : Nat) (opening : Bool) (message : Text) :
    Makes (resolveOr cut step opening message) := by
  induction step using step_induction generalizing opening message with
  | deeper step ih =>
    rw [resolveOr]
    refine Makes.get_bind fun turn => ?_
    dsimp only
    refine Moves.bind (makes_currentTopic _ turn) ?_
    split
    · exact hcut _
    · rename_i hdepth
      have hlive := congrArg Mind.live (mind_currentTopic turn turn.mind.live)
      have hstays : ¬ turn.mind.live.persona.depth.toNat < (Position.mk step opening).step := hdepth
      exact moves_answerStep (ih hdepth 1 Nat.one_pos) (ih hdepth 2 Nat.two_pos false) hlive hstays
        _ _

theorem makes_answerOr (message : Text) : Makes (answerOr cut message) := by
  rw [answerOr_eq_answerThrough]
  exact @Compatible.answerThrough _ compatible_makes (resolveOr cut) (resolveOr cut)
    (makes_resolveOr hcut 0) (makes_resolveOr hcut 1 false) message

theorem makes_replyOr (message : Text) : Makes (replyOr cut message) := by
  refine Makes.get_bind fun turn => ?_
  exact ((makes_answerOr hcut _).bind fun _ =>
    (Makes.of_move fun _ => .push _ _).bind fun _ => Makes.pure _) turn

end Cut

theorem makes_resolve (step : Nat) (opening : Bool) (message : Text) :
    Makes (resolve step opening message) := by
  rw [resolve_eq_resolveOr]
  exact makes_resolveOr (Makes.pure deepRecursion) step opening message

theorem makes_answer (message : Text) : Makes (answer message) := by
  rw [answer_eq_answerOr]
  exact makes_answerOr (Makes.pure deepRecursion) message

theorem makes_reply (message : Text) : Makes (reply message) := by
  rw [reply_eq_replyOr]
  exact makes_replyOr (Makes.pure deepRecursion) message

end Turn

end DialogueScript

import DialogueScript.Proofs.Declarations

/-!
# Scripts only add to the topics

Whatever a script declares is added to what other scripts have declared before.  Topics and
triggers stay in their places, and what a trigger can say only gets longer at its end.  So a script
that is loaded later, also one that stops at a fatal problem, loses no rule of an earlier one.
-/

namespace DialogueScript

/-! ## Lists that grow -/

/-- Every item of the first list has a successor in the same place of the second, which may hold
more behind them. -/
def Grows {α : Type} (Succeeds : α → α → Prop) (old new : List α) : Prop :=
  ∀ (place : Nat) (item : α), old[place]? = some item →
    ∃ grown, new[place]? = some grown ∧ Succeeds item grown

namespace Grows

variable {α : Type} {Succeeds : α → α → Prop}

theorem refl (hrefl : ∀ item, Succeeds item item) (items : List α) : Grows Succeeds items items :=
  fun _ item hitem => ⟨item, hitem, hrefl item⟩

theorem trans
    {old middle new : List α} (hfirst : Grows Succeeds old middle)
    (hsecond : Grows Succeeds middle new)
    (htrans : ∀ first second third, Succeeds first second → Succeeds second third →
      Succeeds first third) :
    Grows Succeeds old new := by
  intro place item hitem
  obtain ⟨grown, hgrown, hsucceeds⟩ := hfirst place item hitem
  obtain ⟨last, hlast, hmore⟩ := hsecond place grown hgrown
  exact ⟨last, hlast, htrans item grown last hsucceeds hmore⟩

theorem map {f : α → α} (hf : ∀ item, Succeeds item (f item)) (items : List α) :
    Grows Succeeds items (items.map f) := by
  intro place item hitem
  refine ⟨f item, ?_, hf item⟩
  rw [List.getElem?_map, hitem]
  rfl

theorem append (hrefl : ∀ item, Succeeds item item) (items more : List α) :
    Grows Succeeds items (items ++ more) := by
  intro place item hitem
  refine ⟨item, ?_, hrefl item⟩
  obtain ⟨hplace, -⟩ := List.getElem?_eq_some_iff.mp hitem
  rw [List.getElem?_append_left hplace, hitem]

end Grows

/-! ## Triggers -/

/-- The second trigger is the first with more to say: its lists go on, it may have become one that
learns, and it may have been paired. -/
structure Trigger.Extends (old new : Trigger) : Prop where
  topic : new.topic = old.topic
  key : new.key = old.key
  replies : old.replies <+: new.replies
  redirects : old.redirects <+: new.redirects
  conditions : old.conditions <+: new.conditions
  searches : old.searches <+: new.searches
  learns : old.learns → new.learns
  hasPaired : old.hasPaired → new.hasPaired

namespace Trigger.Extends

theorem refl (trigger : Trigger) : trigger.Extends trigger := by
  constructor
  · rfl
  · rfl
  · exact List.prefix_refl _
  · exact List.prefix_refl _
  · exact List.prefix_refl _
  · exact List.prefix_refl _
  · exact id
  · exact id

theorem trans
    {first second third : Trigger} (hfirst : first.Extends second)
    (hsecond : second.Extends third) :
    first.Extends third where
  topic := hsecond.topic.trans hfirst.topic
  key := hsecond.key.trans hfirst.key
  replies := hfirst.replies.trans hsecond.replies
  redirects := hfirst.redirects.trans hsecond.redirects
  conditions := hfirst.conditions.trans hsecond.conditions
  searches := hfirst.searches.trans hsecond.searches
  learns := fun hlearns => hsecond.learns (hfirst.learns hlearns)
  hasPaired := fun hpaired => hsecond.hasPaired (hfirst.hasPaired hpaired)

theorem pair (trigger : Trigger) : trigger.Extends { trigger with hasPaired := true } :=
  { refl trigger with hasPaired := fun _ => rfl }

theorem add (part : Script.Part) (text : Text) (trigger : Trigger) :
    trigger.Extends (part.add text trigger) := by
  have hsame := refl trigger
  cases part with
  | reply => exact { hsame with replies := List.prefix_append _ _ }
  | action => exact { hsame with searches := List.prefix_append _ _ }
  | learn => exact { hsame with replies := List.prefix_append _ _, learns := fun _ => rfl }
  | redirect => exact { hsame with redirects := List.prefix_append _ _ }
  | condition => exact { hsame with conditions := List.prefix_append _ _ }

end Trigger.Extends

/-! ## Topics -/

/-- The second topic is the first with more triggers behind those that it had, which may have more
to say, and with more edges. -/
structure Topic.Extends (old new : Topic) : Prop where
  name : new.name = old.name
  triggers : Grows Trigger.Extends old.triggers new.triggers
  includes : old.includes <+: new.includes
  inherits : old.inherits <+: new.inherits

namespace Topic.Extends

theorem refl (topic : Topic) : topic.Extends topic where
  name := rfl
  triggers := Grows.refl Trigger.Extends.refl topic.triggers
  includes := List.prefix_refl _
  inherits := List.prefix_refl _

theorem trans
    {first second third : Topic} (hfirst : first.Extends second) (hsecond : second.Extends third) :
    first.Extends third where
  name := hsecond.name.trans hfirst.name
  triggers := hfirst.triggers.trans hsecond.triggers fun _ _ _ => Trigger.Extends.trans
  includes := hfirst.includes.trans hsecond.includes
  inherits := hfirst.inherits.trans hsecond.inherits

theorem addEdge (topic : Topic) (relation : Relation) (target : Text) :
    topic.Extends (topic.addEdge relation target) := by
  have hsame := refl topic
  cases relation with
  | includes => exact { hsame with includes := List.prefix_append _ _ }
  | inherits => exact { hsame with inherits := List.prefix_append _ _ }

theorem addEdges (topic : Topic) (relation : Option Relation) (words : List Text) :
    topic.Extends (Script.addEdges topic relation words) := by
  induction words generalizing topic relation with
  | nil => exact refl topic
  | cons word words ih =>
    unfold Script.addEdges
    split
    · exact ih topic _
    · split
      · exact ih topic _
      · split
        · exact (addEdge topic _ word).trans (ih _ _)
        · exact ih topic _

theorem modifyTrigger
    {f : Trigger → Trigger} (hf : ∀ trigger : Trigger, trigger.Extends (f trigger))
    (topic : Topic) (key : Trigger.Key) :
    topic.Extends (topic.modifyTrigger key f) := by
  have hsame := refl topic
  unfold Topic.modifyTrigger
  split
  · have hchanged : ∀ trigger : Trigger,
        trigger.Extends (if trigger.key = key then f trigger else trigger) := by
      intro trigger
      split
      · exact hf trigger
      · exact .refl trigger
    exact { hsame with triggers := Grows.map hchanged topic.triggers }
  · exact { hsame with triggers := Grows.append Trigger.Extends.refl topic.triggers _ }

end Topic.Extends

/-! ## Graphs -/

/-- Every topic is still in its place, with more triggers and edges than before, and there may be
topics behind them. -/
def Graph.Extends (old new : Graph) : Prop :=
  Grows Topic.Extends old.topics new.topics

namespace Graph.Extends

theorem refl (graph : Graph) : graph.Extends graph :=
  Grows.refl Topic.Extends.refl graph.topics

theorem trans
    {first second third : Graph} (hfirst : first.Extends second) (hsecond : second.Extends third) :
    first.Extends third :=
  Grows.trans hfirst hsecond fun _ _ _ => Topic.Extends.trans

theorem modifyTopic
    {f : Topic → Topic} (hf : ∀ topic : Topic, topic.Extends (f topic)) (graph : Graph)
    (name : Text) :
    graph.Extends (graph.modifyTopic name f) := by
  unfold Graph.modifyTopic
  split
  · refine Grows.map (fun topic => ?_) graph.topics
    split
    · exact hf topic
    · exact .refl topic
  · exact Grows.append Topic.Extends.refl graph.topics _

theorem modifyTrigger
    {f : Trigger → Trigger} (hf : ∀ trigger : Trigger, trigger.Extends (f trigger))
    (graph : Graph) (name : Text) (key : Trigger.Key) :
    graph.Extends (graph.modifyTrigger name key f) :=
  modifyTopic (fun topic => .modifyTrigger hf topic key) graph name

/-- One thing that a line of a script does to the topics takes nothing away. -/
theorem of_declares {graph later : Graph} (hdeclares : graph.Declares later) :
    graph.Extends later := by
  cases hdeclares with
  | topic name words => exact modifyTopic (fun topic => .addEdges topic none words) graph name
  | trigger name key => exact modifyTrigger Trigger.Extends.refl graph name _
  | paired name key => exact modifyTrigger Trigger.Extends.pair graph name _
  | part name key part text => exact modifyTrigger (Trigger.Extends.add part text) graph name _

theorem of_declared
    {graph later : Graph} (hdeclared : Relation.ReflTransGen Graph.Declares graph later) :
    graph.Extends later := by
  induction hdeclared with
  | refl => exact refl graph
  | tail _ hstep ih => exact ih.trans (of_declares hstep)

end Graph.Extends

/-- Reading a script, to its end or to a fatal problem, leaves every topic and every trigger in its
place, keeps what they hold, and adds at the ends of their lists. -/
theorem read_extends_topics
    (collaborators : Collaborators) (persona : Persona) (source script : Text) :
    persona.graph.Extends (Script.read collaborators persona source script).persona.graph :=
  .of_declared (Script.declares_read collaborators persona source script)

end DialogueScript

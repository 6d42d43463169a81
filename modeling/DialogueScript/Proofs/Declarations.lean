import DialogueScript.Proofs.Directives
import DialogueScript.Proofs.TagReading
import Mathlib.Data.List.Nodup
import Mathlib.Logic.Relation

/-!
# What scripts declare

A script only ever adds to the topics: it opens a topic and gives it edges, declares a trigger
under a key that it has read, marks the trigger of a pattern as paired, or gives a trigger one more
part.  Therefore names and keys stay distinct, and every key can be written down and read again.
-/

namespace DialogueScript

/-! ## Keys -/

namespace Trigger.Key

def written (key : Trigger.Key) : Text :=
  match key.previous with
  | none => key.pattern
  | some previous => key.pattern ++ previousMark ++ previous

theorem written_read (text : Text) : (read text).written = text := by
  unfold read written
  cases hcut : Text.cut? previousMark text with
  | none => rfl
  | some parts => exact (Text.eq_append_of_cut? hcut).symm

/-- A key that reading yields. -/
def IsRead (key : Trigger.Key) : Prop :=
  read key.written = key

theorem isRead_read (text : Text) : (read text).IsRead := by
  rw [IsRead, written_read]

theorem IsRead.read_pattern {key : Trigger.Key} (hread : key.IsRead) (hnone : key.previous = none) :
    read key.pattern = key := by
  simpa [IsRead, written, hnone] using hread

theorem IsRead.paired_eq
    {key : Trigger.Key} {previous : Text} (hread : key.IsRead)
    (hsome : key.previous = some previous) :
    paired key.pattern previous = key := by
  simpa [IsRead, written, hsome, paired] using hread

end Trigger.Key

/-! ## Well-formed graphs -/

structure Topic.WellFormed (topic : Topic) : Prop where
  keys_nodup : (topic.triggers.map (·.key)).Nodup
  isRead : ∀ trigger ∈ topic.triggers, trigger.key.IsRead
  topic_eq : ∀ trigger ∈ topic.triggers, trigger.topic = topic.name

structure Graph.WellFormed (graph : Graph) : Prop where
  names_nodup : (graph.topics.map (·.name)).Nodup
  topics : ∀ topic ∈ graph.topics, topic.WellFormed

namespace Topic

theorem wellFormed_new (name : Text) : ({ name } : Topic).WellFormed := by
  constructor <;> simp

theorem triggers_addEdges (topic : Topic) (relation : Option Relation) (words : List Text) :
    (Script.addEdges topic relation words).triggers = topic.triggers ∧
      (Script.addEdges topic relation words).name = topic.name := by
  induction words generalizing topic relation with
  | nil => exact ⟨rfl, rfl⟩
  | cons word words ih =>
    have hedge : ∀ known, (topic.addEdge known word).triggers = topic.triggers ∧
        (topic.addEdge known word).name = topic.name := by
      intro known
      cases known <;> exact ⟨rfl, rfl⟩
    unfold Script.addEdges
    split
    · exact ih topic _
    · split
      · exact ih topic _
      · split
        · rename_i known
          obtain ⟨htriggers, hname⟩ := ih (topic.addEdge known word) (some known)
          exact ⟨htriggers.trans (hedge known).1, hname.trans (hedge known).2⟩
        · exact ih topic _

theorem WellFormed.addEdges
    {topic : Topic} (htopic : topic.WellFormed) (relation : Option Relation) (words : List Text) :
    (Script.addEdges topic relation words).WellFormed := by
  obtain ⟨htriggers, hname⟩ := triggers_addEdges topic relation words
  constructor
  · rw [htriggers]
    exact htopic.keys_nodup
  · rw [htriggers]
    exact htopic.isRead
  · rw [htriggers, hname]
    exact htopic.topic_eq

theorem name_modifyTrigger (topic : Topic) (key : Trigger.Key) (f : Trigger → Trigger) :
    (topic.modifyTrigger key f).name = topic.name := by
  unfold modifyTrigger
  split <;> rfl

theorem WellFormed.modifyTrigger
    {topic : Topic} (htopic : topic.WellFormed) {key : Trigger.Key} (hread : key.IsRead)
    {f : Trigger → Trigger} (hkey : ∀ trigger, (f trigger).key = trigger.key)
    (hname : ∀ trigger, (f trigger).topic = trigger.topic) :
    (topic.modifyTrigger key f).WellFormed := by
  unfold Topic.modifyTrigger
  split
  · have hsame : ∀ trigger : Trigger, (if trigger.key = key then f trigger else trigger).key =
        trigger.key ∧
        (if trigger.key = key then f trigger else trigger).topic = trigger.topic := by
      intro trigger
      split
      · exact ⟨hkey trigger, hname trigger⟩
      · exact ⟨rfl, rfl⟩
    constructor
    · have hkeys :
          (fun trigger : Trigger => (if trigger.key = key then f trigger else trigger).key) =
            fun trigger => trigger.key := by
        funext trigger
        exact (hsame trigger).1
      rw [List.map_map, Function.comp_def, hkeys]
      exact htopic.keys_nodup
    · intro later hlater
      obtain ⟨trigger, htrigger, rfl⟩ := List.mem_map.mp hlater
      rw [(hsame trigger).1]
      exact htopic.isRead trigger htrigger
    · intro later hlater
      obtain ⟨trigger, htrigger, rfl⟩ := List.mem_map.mp hlater
      rw [(hsame trigger).2]
      exact htopic.topic_eq trigger htrigger
  · rename_i hnew
    have habsent : key ∉ topic.triggers.map (·.key) := by
      simpa [trigger?] using hnew
    constructor
    · rw [List.map_append, List.map_singleton, hkey, ← List.concat_eq_append]
      exact htopic.keys_nodup.concat habsent
    · intro trigger htrigger
      rcases List.mem_append.mp htrigger with htrigger | htrigger
      · exact htopic.isRead trigger htrigger
      · obtain rfl := List.mem_singleton.mp htrigger
        rw [hkey]
        exact hread
    · intro trigger htrigger
      rcases List.mem_append.mp htrigger with htrigger | htrigger
      · exact htopic.topic_eq trigger htrigger
      · obtain rfl := List.mem_singleton.mp htrigger
        exact hname _

theorem WellFormed.trigger?_eq_some_iff
    {topic : Topic} (htopic : topic.WellFormed) {key : Trigger.Key} {trigger : Trigger} :
    topic.trigger? key = some trigger ↔ trigger ∈ topic.triggers ∧ trigger.key = key := by
  constructor
  · intro hfound
    exact ⟨List.mem_of_find?_eq_some hfound, by simpa using List.find?_some hfound⟩
  · rintro ⟨hmem, rfl⟩
    obtain ⟨first, hfirst⟩ : ∃ first, topic.trigger? trigger.key = some first := by
      rw [← Option.isSome_iff_exists, trigger?, List.find?_isSome]
      exact ⟨trigger, hmem, by simp⟩
    have hfirstmem : first ∈ topic.triggers := List.mem_of_find?_eq_some hfirst
    have hkey : first.key = trigger.key := by simpa using List.find?_some hfirst
    rw [hfirst, List.inj_on_of_nodup_map htopic.keys_nodup hfirstmem hmem hkey]

end Topic

namespace Graph

theorem wellFormed_empty : empty.WellFormed := by
  constructor <;> simp [empty]

theorem WellFormed.modifyTopic
    {graph : Graph} (hgraph : graph.WellFormed) (name : Text) {f : Topic → Topic}
    (hname : ∀ topic, (f topic).name = topic.name)
    (hf : ∀ topic, topic.WellFormed → (f topic).WellFormed) :
    (graph.modifyTopic name f).WellFormed := by
  unfold Graph.modifyTopic
  split
  · have hsame : ∀ topic : Topic, (if topic.name = name then f topic else topic).name =
        topic.name := by
      intro topic
      split
      · exact hname topic
      · rfl
    constructor
    · simp only [List.map_map, Function.comp_def, hsame]
      exact hgraph.names_nodup
    · intro later hlater
      obtain ⟨topic, htopic, rfl⟩ := List.mem_map.mp hlater
      split
      · exact hf topic (hgraph.topics topic htopic)
      · exact hgraph.topics topic htopic
  · rename_i hnew
    have habsent : name ∉ graph.topics.map (·.name) := by
      simpa [contains, topic?] using hnew
    constructor
    · rw [List.map_append, List.map_singleton, hname, ← List.concat_eq_append]
      exact hgraph.names_nodup.concat habsent
    · intro topic htopic
      rcases List.mem_append.mp htopic with htopic | htopic
      · exact hgraph.topics topic htopic
      · obtain rfl := List.mem_singleton.mp htopic
        exact hf _ (Topic.wellFormed_new name)

theorem WellFormed.modifyTrigger
    {graph : Graph} (hgraph : graph.WellFormed) (name : Text) {key : Trigger.Key}
    (hread : key.IsRead) {f : Trigger → Trigger}
    (hkey : ∀ trigger, (f trigger).key = trigger.key)
    (hname : ∀ trigger, (f trigger).topic = trigger.topic) :
    (graph.modifyTrigger name key f).WellFormed :=
  hgraph.modifyTopic name (fun topic => topic.name_modifyTrigger key f)
    fun _ htopic => htopic.modifyTrigger hread hkey hname

theorem WellFormed.link {graph : Graph} (hgraph : graph.WellFormed) : graph.link.WellFormed := by
  unfold Graph.link
  generalize graph.topics.flatMap Topic.targets = names
  induction names generalizing graph with
  | nil => exact hgraph
  | cons name names ih =>
    rw [List.foldl_cons]
    exact ih (hgraph.modifyTopic name (fun _ => rfl) fun _ htopic => htopic)

/-! ## Lines of a script -/

/-- One thing that a line of a script does to the topics. -/
inductive Declares (graph : Graph) : Graph → Prop
  | topic (name : Text) (words : List Text) :
    Declares graph (graph.modifyTopic name fun topic => Script.addEdges topic none words)
  | trigger (name key : Text) :
    Declares graph (graph.modifyTrigger name (Trigger.Key.read key) id)
  | paired (name key : Text) :
    Declares graph (graph.modifyTrigger name (Trigger.Key.read key) fun trigger =>
      { trigger with hasPaired := true })
  | part (name key : Text) (part : Script.Part) (text : Text) :
    Declares graph (graph.modifyTrigger name (Trigger.Key.read key) (part.add text))

theorem WellFormed.declares
    {graph later : Graph} (hgraph : graph.WellFormed) (hdeclares : graph.Declares later) :
    later.WellFormed := by
  cases hdeclares with
  | topic name words =>
    exact hgraph.modifyTopic name (fun topic => (topic.triggers_addEdges none words).2)
      fun _ htopic => htopic.addEdges none words
  | trigger name key =>
    exact hgraph.modifyTrigger name (Trigger.Key.isRead_read key) (fun _ => rfl) fun _ => rfl
  | paired name key =>
    exact hgraph.modifyTrigger name (Trigger.Key.isRead_read key) (fun _ => rfl) fun _ => rfl
  | part name key part text =>
    have hkey : ∀ trigger, (part.add text trigger).key = trigger.key := by
      intro trigger
      cases part <;> rfl
    have hname : ∀ trigger, (part.add text trigger).topic = trigger.topic := by
      intro trigger
      cases part <;> rfl
    exact hgraph.modifyTrigger name (Trigger.Key.isRead_read key) hkey hname

end Graph

namespace Persona

theorem graph_setGlobal?_getD (persona : Persona) (name : Text) (value : Option Text) :
    ((persona.setGlobal? name value).getD persona).graph = persona.graph := by
  rcases setGlobal?_cases name value with hset | ⟨f, depth?, hset⟩ <;> rw [hset] <;> rfl

end Persona

namespace Script

/-- The topics are declared from `graph` on, and the open trigger stands under a key that was
read. -/
structure State.DeclaredFrom (graph : Graph) (state : State) : Prop where
  declares : Relation.ReflTransGen Graph.Declares graph state.persona.graph
  trigger_isRead : ∀ key ∈ state.trigger, ∃ text, key = Trigger.Key.read text

namespace State.DeclaredFrom

variable {graph : Graph} {state next : State}

theorem of_graph_eq
    (hstate : state.DeclaredFrom graph) (hgraph : next.persona.graph = state.persona.graph)
    (htrigger : next.trigger = state.trigger ∨ next.trigger = none) :
    next.DeclaredFrom graph := by
  constructor
  · rw [hgraph]
    exact hstate.declares
  · intro key hkey
    rcases htrigger with htrigger | htrigger
    · exact hstate.trigger_isRead key (htrigger ▸ hkey)
    · rw [htrigger] at hkey
      cases hkey

theorem warn (hstate : state.DeclaredFrom graph) (place : Place) (cause : Cause) :
    (state.warn place cause).DeclaredFrom graph :=
  hstate.of_graph_eq rfl (.inl rfl)

theorem openTopic (hstate : state.DeclaredFrom graph) (name : Text) (words : List Text) :
    (Script.openTopic state name words).DeclaredFrom graph := by
  constructor
  · exact hstate.declares.tail (.topic name words)
  · intro key hkey
    cases hkey

theorem closeObject
    (hstate : state.DeclaredFrom graph) (collaborators : Collaborators) (object : OpenObject) :
    (Script.closeObject collaborators state object).DeclaredFrom graph := by
  unfold Script.closeObject
  dsimp only
  split <;> exact hstate.of_graph_eq rfl (.inl rfl)

theorem openTrigger (hstate : state.DeclaredFrom graph) (pattern : Text) (previous : Option Text) :
    (Script.openTrigger state pattern previous).DeclaredFrom graph := by
  cases previous with
  | none =>
    constructor
    · exact hstate.declares.tail (.trigger state.topic pattern)
    · intro key hkey
      exact ⟨pattern, (Option.some.inj hkey).symm⟩
  | some previous =>
    -- the twin is marked before the paired trigger is declared beside it
    have hmarked := hstate.declares.tail (.paired state.topic pattern)
    constructor
    · exact hmarked.tail (.trigger state.topic (pattern ++ Trigger.previousMark ++ previous))
    · intro key hkey
      exact ⟨pattern ++ Trigger.previousMark ++ previous, (Option.some.inj hkey).symm⟩

theorem addPart (hstate : state.DeclaredFrom graph) (place : Place) (part : Part) (text : Text) :
    (Script.addPart state place part text).DeclaredFrom graph := by
  unfold Script.addPart
  split
  · exact hstate.warn _ _
  · rename_i key hkey
    obtain ⟨written, rfl⟩ := hstate.trigger_isRead key hkey
    constructor
    · exact hstate.declares.tail (.part state.topic written part text)
    · exact hstate.trigger_isRead

theorem run
    (hstate : state.DeclaredFrom graph) {place : Place} {instruction : Instruction}
    (hrun : instruction.run place state = .ok next) :
    next.DeclaredFrom graph := by
  cases instruction <;> cases hrun
  case keep => exact hstate
  case warn cause => exact hstate.warn place cause
  case setLanguage language => exact hstate.of_graph_eq rfl (.inl rfl)
  case setGlobal name value =>
    exact hstate.of_graph_eq (state.persona.graph_setGlobal?_getD name (some value)) (.inl rfl)
  case define f hglobals => exact hstate.of_graph_eq rfl (.inl rfl)
  case openTopic name words => exact hstate.openTopic name words
  case openObject name language => exact hstate.of_graph_eq rfl (.inr rfl)
  case leaveTopic => exact hstate.of_graph_eq rfl (.inr rfl)
  case openTrigger pattern previous => exact hstate.openTrigger pattern previous
  case addPart part text => exact hstate.addPart place part text

theorem readLine
    (hstate : state.DeclaredFrom graph) {collaborators : Collaborators} {place : Place}
    {line : Text} {following : List Text}
    (hread : Script.readLine collaborators place line following state = .ok next) :
    next.DeclaredFrom graph := by
  cases lineStep_of_readLine hread with
  | code object hobject line => exact hstate.of_graph_eq rfl (.inl rfl)
  | close object hobject => exact hstate.closeObject collaborators object
  | run hobject inComment instruction hrun =>
    have hcomment : ({ state with inComment } : State).DeclaredFrom graph :=
      hstate.of_graph_eq rfl (.inl rfl)
    exact hcomment.run hrun

theorem readLines
    (hstate : state.DeclaredFrom graph) (collaborators : Collaborators) (place : Place)
    (lines : List Text) :
    (Script.readLines collaborators place lines state).1.DeclaredFrom graph := by
  induction lines generalizing state place with
  | nil => exact hstate
  | cons line lines ih =>
    unfold Script.readLines
    split
    · exact hstate
    · rename_i later hread
      exact ih (hstate.readLine hread) _

end State.DeclaredFrom

theorem persona_finish (source : Text) (state : State) :
    (finish source state).persona = state.persona := by
  unfold finish
  split <;> rfl

theorem requests_finish (source : Text) (state : State) :
    (finish source state).requests = state.requests := by
  unfold finish
  split <;> rfl

/-- Nothing is declared after the last line that is read. -/
theorem persona_read
    (collaborators : Collaborators) (persona : Persona) (source script : Text) :
    (read collaborators persona source script).persona =
      (readLines collaborators ⟨source, 1⟩ (Text.lines script) { persona }).1.persona := by
  unfold read
  dsimp only
  split
  · rfl
  · exact persona_finish source _

theorem requests_read
    (collaborators : Collaborators) (persona : Persona) (source script : Text) :
    (read collaborators persona source script).requests =
      (readLines collaborators ⟨source, 1⟩ (Text.lines script) { persona }).1.requests := by
  unfold read
  dsimp only
  split
  · rfl
  · exact requests_finish source _

/-- Reading a script declares one thing after the other, also when a problem stops it. -/
theorem declares_read
    (collaborators : Collaborators) (persona : Persona) (source script : Text) :
    Relation.ReflTransGen Graph.Declares persona.graph
      (read collaborators persona source script).persona.graph := by
  have hstart : ({ persona } : State).DeclaredFrom persona.graph :=
    ⟨.refl, fun key hkey => by cases hkey⟩
  rw [persona_read]
  exact (hstart.readLines collaborators ⟨source, 1⟩ (Text.lines script)).declares

end Script

theorem Graph.WellFormed.read
    {persona : Persona} (hgraph : persona.graph.WellFormed) (collaborators : Collaborators)
    (source script : Text) :
    (Script.read collaborators persona source script).persona.graph.WellFormed := by
  have hdeclares := Script.declares_read collaborators persona source script
  generalize (Script.read collaborators persona source script).persona.graph = later at hdeclares ⊢
  induction hdeclares with
  | refl => exact hgraph
  | tail _ hstep ih => exact ih.declares hstep

end DialogueScript

import DialogueScript.Proofs.TriggerLookup

/-!
# Silent twins

A pattern that is paired with a previous reply leaves a trigger under its own key, which is empty
unless the script also declares the pattern alone.  Such a twin takes no part in matching, but the
lookup of a trigger does not pass over it.  So a twin that the lookup meets first silences the
pattern wherever another topic declares it.
-/

namespace DialogueScript

namespace Topic

/-- Under the key of the pattern stands a trigger that takes part in matching. -/
def Offers (topic : Topic) (pattern : Text) : Prop :=
  ∃ trigger, topic.trigger? (Trigger.Key.read pattern) = some trigger ∧ trigger.answersAlone

/-- Under the key of the pattern stands a trigger that takes no part in matching. -/
def Withholds (topic : Topic) (pattern : Text) : Prop :=
  ∃ trigger, topic.trigger? (Trigger.Key.read pattern) = some trigger ∧ ¬ trigger.answersAlone

end Topic

namespace Graph

/-- The lookup from `name` meets a topic that withholds the pattern before any that offers it. -/
def Shadowed (graph : Graph) (name pattern : Text) : Prop :=
  ∃ front topic back, graph.lookup name = front ++ topic :: back ∧ topic.Withholds pattern ∧
    ∀ other ∈ front, ¬ other.Offers pattern

/-- Every trigger that is visible from `name` and takes part in matching has an answer. -/
def Voiced (graph : Graph) (name : Text) : Prop :=
  ∀ visited owner, graph.Reaches name visited → graph.topic? visited = some owner →
    ∀ trigger ∈ owner.triggers, trigger.answersAlone → ¬ trigger.isEmpty

end Graph

namespace Snapshot

variable {snapshot : Snapshot} {session : Session} {name message : Text} {selection : Selection}

theorem ownerOf?_of_selectByOrder?
    (hselect : snapshot.selectByOrder? session name message = some selection) :
    snapshot.ownerOf? name selection.pattern = some selection.trigger := by
  obtain ⟨accepted, -, hselect⟩ := Option.bind_eq_some_iff.mp hselect
  obtain ⟨trigger, howner, rfl⟩ := Option.map_eq_some_iff.mp hselect
  exact howner

/-- The trigger that answers for a pattern is the first that the lookup meets under its key. -/
theorem exists_split_of_ownerOf?
    {pattern : Text} {trigger : Trigger} (howner : snapshot.ownerOf? name pattern = some trigger) :
    ∃ front topic back, snapshot.persona.graph.lookup name = front ++ topic :: back ∧
      topic.trigger? (Trigger.Key.read pattern) = some trigger ∧
      ∀ other ∈ front, other.trigger? (Trigger.Key.read pattern) = none := by
  rw [ownerOf?_eq_findSome?, List.findSome?_eq_some_iff] at howner
  exact howner

theorem answersAlone_iff_not_shadowed
    {pattern : Text} {trigger : Trigger} (howner : snapshot.ownerOf? name pattern = some trigger) :
    trigger.answersAlone ↔ ¬ snapshot.persona.graph.Shadowed name pattern := by
  obtain ⟨front, topic, back, hlookup, htrigger, hfront⟩ := exists_split_of_ownerOf? howner
  constructor
  · rintro halone ⟨ahead, twin, behind, hsplit, ⟨silent, hsilent, hwithheld⟩, hahead⟩
    rw [hlookup, List.append_eq_append_iff] at hsplit
    have hoffers : topic.Offers pattern := ⟨trigger, htrigger, halone⟩
    -- of the owner and the twin, one comes first, or they are the same topic
    rcases hsplit with ⟨between, rfl, hrest⟩ | ⟨between, rfl, hrest⟩
    · cases between with
      | nil =>
        obtain rfl := (List.cons.inj hrest).1
        rw [htrigger] at hsilent
        exact hwithheld (Option.some.inj hsilent ▸ halone)
      | cons first between =>
        obtain rfl := (List.cons.inj hrest).1
        exact hahead topic (by simp) hoffers
    · cases between with
      | nil =>
        obtain rfl := (List.cons.inj hrest).1
        rw [htrigger] at hsilent
        exact hwithheld (Option.some.inj hsilent ▸ halone)
      | cons first between =>
        obtain rfl := (List.cons.inj hrest).1
        have hnone := hfront twin (by simp)
        rw [hnone] at hsilent
        cases hsilent
  · intro hshadowed
    by_contra hwithheld
    refine hshadowed ⟨front, topic, back, hlookup, ⟨trigger, htrigger, hwithheld⟩, ?_⟩
    rintro other hother ⟨offered, hoffered, -⟩
    rw [hfront other hother] at hoffered
    cases hoffered

end Snapshot

theorem Trigger.isEmpty_iff {trigger : Trigger} :
    trigger.isEmpty ↔ trigger.replies = [] ∧ trigger.redirects = [] ∧
      trigger.conditions = [] ∧ trigger.searches = [] := by
  simp [isEmpty, and_assoc]

namespace Turn

/-- An empty trigger has no reply, and asking it changes nothing. -/
theorem answerSelected_of_isEmpty
    (next : Bool → Text → TurnM Text) (afterNext : Text → TurnM Text) (position : Position)
    (message : Text) {selection : Selection} (hempty : selection.trigger.isEmpty) :
    answerSelected next afterNext position message selection = pure noReplyFound := by
  obtain ⟨hreplies, hredirects, hconditions, hsearches⟩ := Trigger.isEmpty_iff.mp hempty
  have hnone : chooseAnswer selection.trigger = pure none := by
    simp only [chooseAnswer, choices, hredirects, hreplies]
    rfl
  have hanswer : answerBy next afterNext position selection = pure noReplyFound := by
    simp [answerBy, hconditions, checkConditions, hnone]
  have hlearn : learn selection.trigger selection.stars.message = pure () := by
    simp [learn, hreplies]
  simp [answerSelected, hsearches, hlearn, hanswer]

end Turn

/-- The scan answers by a trigger that takes part in matching exactly when no topic on the way to it
withholds the pattern.  If all such triggers have answers, only a shadowed pattern finds an empty
one, and then the reply is that none was found. -/
theorem scan_answers_alone_iff_not_shadowed
    (snapshot : Snapshot) (session : Session) (name message : Text) (selection : Selection)
    (hselect : snapshot.selectByOrder? session name message = some selection) :
    let graph := snapshot.persona.graph
    (∃ visited owner, graph.Reaches name visited ∧ graph.topic? visited = some owner ∧
      selection.trigger ∈ owner.triggers) ∧
    (selection.trigger.answersAlone ↔ ¬ graph.Shadowed name selection.pattern) ∧
    (graph.Voiced name → selection.trigger.key.previous = none →
      (selection.trigger.isEmpty ↔ graph.Shadowed name selection.pattern)) ∧
    (selection.trigger.isEmpty → ∀ next afterNext position,
      Turn.answerSelected next afterNext position message selection = pure noReplyFound) := by
  intro graph
  have howner := Snapshot.ownerOf?_of_selectByOrder? hselect
  have halone := Snapshot.answersAlone_iff_not_shadowed howner
  obtain ⟨front, topic, back, hlookup, htrigger, -⟩ := Snapshot.exists_split_of_ownerOf? howner
  have hmem := Snapshot.mem_of_trigger? htrigger
  have hvisited : topic ∈ graph.lookup name := by
    simp [graph, hlookup]
  obtain ⟨visited, hreach, htopic⟩ := Graph.mem_lookup_iff.mp hvisited
  refine ⟨⟨visited, topic, hreach, htopic, hmem⟩, halone, ?_, ?_⟩
  · intro hvoiced hnone
    constructor
    · intro hempty
      by_contra hshadowed
      exact hvoiced visited topic hreach htopic _ hmem (halone.mpr hshadowed) hempty
    · intro hshadowed
      have hwithheld : ¬ selection.trigger.answersAlone := fun h => halone.mp h hshadowed
      have htwin : selection.trigger.hasPaired ∧ selection.trigger.isEmpty := by
        simpa [Trigger.answersAlone, hnone] using hwithheld
      exact htwin.2
  · intro hempty next afterNext position
    exact Turn.answerSelected_of_isEmpty next afterNext position message hempty

/-- A topic that answers the pattern itself is not silenced by the twin that it inherits. -/
theorem scan_answers_alone_before_inherited_twin :
    let script := "> topic random inherits far\n+ yes\n- ok\n< topic\n".toList ++
      "> topic far\n+ yes\n% are you well\n- glad\n< topic\n".toList
    let snapshot := (Bot.ofScript script).mind.live
    ∃ selection, snapshot.selectByOrder? (Session.new [] 0) defaultTopic "yes".toList =
        some selection ∧ selection.trigger.answersAlone ∧
      ¬ snapshot.persona.graph.Shadowed defaultTopic selection.pattern := by
  intro script snapshot
  obtain ⟨selection, hselect, halone⟩ : ∃ selection,
      snapshot.selectByOrder? (Session.new [] 0) defaultTopic "yes".toList = some selection ∧
        selection.trigger.answersAlone := by
    have hfound : ∃ selection ∈
        snapshot.selectByOrder? (Session.new [] 0) defaultTopic "yes".toList,
        selection.trigger.answersAlone := by
      decide +kernel
    exact hfound
  have htakes := scan_answers_alone_iff_not_shadowed snapshot _ _ _ selection hselect
  exact ⟨selection, hselect, halone, htakes.2.1.mp halone⟩

/-- A twin silences the pattern that it inherits, although every trigger that takes part in matching
has an answer. -/
theorem scan_answers_by_twin :
    let child := "> topic random inherits parent\n+ yes\n% are you well\n- glad\n< topic\n".toList
    let parent := "> topic parent\n+ yes\n- ok\n< topic\n".toList
    let bot := Bot.ofScript (child ++ parent)
    let live := bot.mind.live
    (∀ topic ∈ live.persona.graph.topics, ∀ trigger ∈ topic.triggers,
      trigger.answersAlone → ¬ trigger.isEmpty) ∧
    live.order defaultTopic = ["yes".toList] ∧
    (∃ selection ∈ live.selectByOrder? (bot.session ['u']) defaultTopic "yes".toList,
      ¬ selection.trigger.answersAlone) ∧
    (bot.answer ['u'] "yes".toList).2.reply = noReplyFound := by
  decide +kernel

end DialogueScript

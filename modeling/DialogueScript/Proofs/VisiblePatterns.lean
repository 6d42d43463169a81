import DialogueScript.Persona
import DialogueScript.Proofs.MatchOrder
import DialogueScript.Proofs.Reachability

/-!
# The patterns visible from a topic

Publishing creates the topics that edges name and no script declares.  They hold no trigger and
lead nowhere, so the published order of a topic lists the patterns of the topics that are reachable
in the draft.
-/

namespace DialogueScript

namespace Graph

/-! ## Linking -/

theorem topic?_modifyTopic_id {graph : Graph} {created name : Text} :
    (graph.modifyTopic created id).topic? name =
      (graph.topic? name).or (if created = name then some { name } else none) := by
  unfold modifyTopic
  by_cases hcontains : graph.contains created
  · have hsame : (graph.topics.map fun topic => if topic.name = created then id topic else topic) =
        graph.topics := by
      simp
    rw [if_pos hcontains, hsame]
    by_cases hname : created = name
    · subst hname
      obtain ⟨topic, htopic⟩ := Option.isSome_iff_exists.mp hcontains
      have hor : (graph.topic? created).or (some { name := created }) = graph.topic? created := by
        rw [htopic]
        rfl
      rw [if_pos rfl, hor]
    · rw [if_neg hname, Option.or_none]
  · rw [if_neg hcontains]
    by_cases hname : created = name <;> simp [topic?, List.find?_append, hname]

/-- Linking creates topics that are empty, and leaves those that exist. -/
theorem topic?_link {graph : Graph} {name : Text} :
    graph.link.topic? name =
      (graph.topic? name).or
        (if name ∈ graph.topics.flatMap Topic.targets then some { name } else none) := by
  suffices hfold : ∀ (names : List Text) (graph : Graph),
      (names.foldl (fun graph name => graph.modifyTopic name id) graph).topic? name =
        (graph.topic? name).or (if name ∈ names then some { name } else none) from
    hfold _ graph
  intro names
  induction names with
  | nil => simp
  | cons created names ih =>
    intro graph
    rw [List.foldl_cons, ih, topic?_modifyTopic_id, Option.or_assoc]
    by_cases hname : created = name <;> by_cases hmem : name ∈ names <;>
      simp [hname, hmem, Ne.symm]

theorem edge_link {graph : Graph} : graph.link.Edge = graph.Edge := by
  funext source target
  simp only [Edge, topic?_link]
  cases graph.topic? source with
  | some topic => simp
  | none => split <;> simp [Topic.targets]

theorem reaches_link {graph : Graph} : graph.link.Reaches = graph.Reaches := by
  rw [Reaches, edge_link]
  rfl

/-! ## Candidates -/

theorem mem_candidates_iff {graph : Graph} {name pattern : Text} :
    (∃ candidate ∈ graph.candidates name, candidate.pattern = pattern) ↔
      ∃ visited owner, graph.Reaches name visited ∧ graph.topic? visited = some owner ∧
        pattern ∈ owner.patterns := by
  constructor
  · rintro ⟨candidate, hmem, rfl⟩
    obtain ⟨visit, hvisit, hcandidate⟩ := List.mem_flatMap.mp hmem
    cases visit with
    | cut path name => simp at hcandidate
    | gather owner level =>
      obtain ⟨pattern, hpattern, rfl⟩ := List.mem_map.mp hcandidate
      obtain ⟨visited, hreach, howner⟩ := exists_gather_visits_iff.mp ⟨level, hvisit⟩
      exact ⟨visited, owner, hreach, howner, hpattern⟩
  · rintro ⟨visited, owner, hreach, howner, hpattern⟩
    obtain ⟨level, hvisit⟩ := exists_gather_visits_iff.mpr ⟨visited, hreach, howner⟩
    have hmem : (⟨level, pattern⟩ : Candidate) ∈ graph.candidates name :=
      List.mem_flatMap.mpr ⟨_, hvisit, List.mem_map.mpr ⟨pattern, hpattern, rfl⟩⟩
    exact ⟨_, hmem, rfl⟩

/-- No pattern that is visible from `name` holds an inheritance tag. -/
def UntaggedFrom (graph : Graph) (name : Text) : Prop :=
  ∀ visited owner, graph.Reaches name visited → graph.topic? visited = some owner →
    ∀ pattern ∈ owner.patterns, Text.tags Tag.inherits? pattern = []

/-- Without inheritance tags, an order lists the patterns of the reachable topics as they are. -/
theorem mem_order_iff
    {graph : Graph} {name : Text} (huntagged : graph.UntaggedFrom name) {pattern : Text} :
    pattern ∈ graph.order name ↔
      ∃ visited owner, graph.Reaches name visited ∧ graph.topic? visited = some owner ∧
        pattern ∈ owner.patterns := by
  have huntouched : ∀ candidate ∈ graph.candidates name, candidate.text = candidate.pattern := by
    intro candidate hmem
    obtain ⟨visited, owner, hreach, howner, hpattern⟩ :=
      mem_candidates_iff.mp ⟨candidate, hmem, rfl⟩
    exact Text.replaceTags_of_tags_eq_nil _ (huntagged visited owner hreach howner _ hpattern)
  rw [order, mem_matchOrder, ← mem_candidates_iff]
  constructor
  · rintro ⟨candidate, hmem, htext⟩
    exact ⟨candidate, hmem, (huntouched candidate hmem).symm.trans htext⟩
  · rintro ⟨candidate, hmem, hpattern⟩
    exact ⟨candidate, hmem, (huntouched candidate hmem).trans hpattern⟩

/-- The topics that linking creates have no pattern. -/
theorem exists_topic?_link_iff {graph : Graph} {name pattern : Text} :
    (∃ owner, graph.link.topic? name = some owner ∧ pattern ∈ owner.patterns) ↔
      ∃ owner, graph.topic? name = some owner ∧ pattern ∈ owner.patterns := by
  rw [topic?_link]
  cases graph.topic? name with
  | some topic => simp
  | none => split <;> simp [Topic.patterns]

theorem mem_candidates_link_iff {graph : Graph} {name pattern : Text} :
    (∃ candidate ∈ graph.link.candidates name, candidate.pattern = pattern) ↔
      ∃ visited owner, graph.Reaches name visited ∧ graph.topic? visited = some owner ∧
        pattern ∈ owner.patterns := by
  simp only [mem_candidates_iff, reaches_link, exists_and_left, exists_topic?_link_iff]

end Graph

theorem Topic.mem_patterns {topic : Topic} {pattern : Text} :
    pattern ∈ topic.patterns ↔
      ∃ trigger ∈ topic.triggers, trigger.key.pattern = pattern ∧
        trigger.key.previous = none ∧ ¬ (trigger.hasPaired ∧ trigger.isEmpty) := by
  simp only [patterns, Trigger.answersAlone, List.mem_map, List.mem_filter, Bool.and_eq_true,
    Option.isNone_iff_eq_none, Bool.not_eq_true', Bool.eq_false_iff, Ne]
  constructor
  · rintro ⟨trigger, ⟨hmem, halone⟩, hpattern⟩
    exact ⟨trigger, hmem, hpattern, halone⟩
  · rintro ⟨trigger, hmem, hpattern, halone⟩
    exact ⟨trigger, ⟨hmem, halone⟩, hpattern⟩

/-! ## Publishing -/

theorem lookup_map_key
    {α β : Type} {key : β → Text} {f : Text → α} {items : List β} {name : Text} :
    (items.map fun item => (key item, f (key item))).lookup name =
      if name ∈ items.map key then some (f name) else none := by
  induction items with
  | nil => rfl
  | cons item items ih =>
    by_cases hname : name = key item
    · subst hname
      simp
    · have hkey : (name == key item) = false := by
        simpa using hname
      simp [List.lookup_cons, hname, hkey, ih]

theorem Graph.order_of_topic?_eq_none {graph : Graph} {name : Text} (hnone : graph.topic? name = none) :
    graph.order name = [] := by
  have hvisits : graph.visits name = [] := by
    rw [visits, explore]
    simp
    split
    · rfl
    · simp_all
  simp [order, candidates, hvisits, matchOrder, Groups.ofList, Groups.ascending]

theorem order_publish (persona : Persona) (name : Text) :
    persona.publish.order name = persona.graph.link.order name := by
  have hlookup : persona.publish.orders.get? name =
      if name ∈ persona.graph.link.topics.map Topic.name then
        some (persona.graph.link.order name) else none :=
    lookup_map_key
  rw [Snapshot.order, hlookup]
  split
  · rfl
  · rename_i hname
    have hnone : persona.graph.link.topic? name = none := by
      simpa [Graph.topic?] using hname
    rw [Graph.order_of_topic?_eq_none hnone]
    rfl

/-- A published order lists each pattern once, and lists those of the topics that are reachable:
of the unpaired triggers, except the empty ones that a paired trigger leaves behind. -/
theorem order_publish_lists_reachable_patterns
    (persona : Persona) (name : Text)
    (huntagged : ∀ topic ∈ persona.graph.topics, ∀ trigger ∈ topic.triggers,
      Text.tags Tag.inherits? trigger.key.pattern = []) :
    (persona.publish.order name).Nodup ∧
      ∀ pattern, pattern ∈ persona.publish.order name ↔
        ∃ visited owner, persona.graph.Reaches name visited ∧
          persona.graph.topic? visited = some owner ∧
          ∃ trigger ∈ owner.triggers, trigger.key.pattern = pattern ∧
            trigger.key.previous = none ∧ ¬ (trigger.hasPaired ∧ trigger.isEmpty) := by
  rw [order_publish]
  refine ⟨nodup_matchOrder _, fun pattern => ?_⟩
  have hlinked : persona.graph.link.UntaggedFrom name := by
    intro visited linked _ hlinked pattern hpattern
    obtain ⟨owner, howner, hmem⟩ := Graph.exists_topic?_link_iff.mp ⟨linked, hlinked, hpattern⟩
    obtain ⟨trigger, htrigger, rfl, -⟩ := Topic.mem_patterns.mp hmem
    exact huntagged owner (Graph.topic?_name howner).1 trigger htrigger
  rw [Graph.mem_order_iff hlinked]
  simp only [Graph.reaches_link, exists_and_left, Graph.exists_topic?_link_iff]
  simp only [Topic.mem_patterns]

/-- Two topics that lead to each other, and one that no script declares. -/
theorem order_publish_lists_pattern_behind_cycle :
    let key : Trigger.Key := ⟨"hello *".toList, none⟩
    let near : Topic := { name := ['a'], includes := [['b'], ['c']] }
    let far : Topic :=
      { name := ['b'], triggers := [{ topic := ['b'], key }], inherits := [['a'], ['b']] }
    let persona : Persona := { Persona.new 50 with graph := ⟨[near, far]⟩ }
    (∀ topic ∈ persona.graph.topics, ∀ trigger ∈ topic.triggers,
      Text.tags Tag.inherits? trigger.key.pattern = []) ∧
        key.pattern ∈ persona.publish.order ['a'] := by
  intro key near far persona
  have huntagged : ∀ topic ∈ persona.graph.topics, ∀ trigger ∈ topic.triggers,
      Text.tags Tag.inherits? trigger.key.pattern = [] := by
    decide
  have hreach : persona.graph.Reaches ['a'] ['b'] :=
    .single ⟨near, by decide, by decide⟩
  refine ⟨huntagged, ?_⟩
  refine ((order_publish_lists_reachable_patterns persona ['a'] huntagged).2 key.pattern).mpr ?_
  exact ⟨['b'], far, hreach, by decide, { topic := ['b'], key }, by decide, rfl, rfl, by decide⟩

end DialogueScript

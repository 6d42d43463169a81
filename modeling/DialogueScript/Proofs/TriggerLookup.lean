import DialogueScript.Proofs.Changes
import DialogueScript.Proofs.InheritanceRank
import DialogueScript.Proofs.ReachableBots
import DialogueScript.Proofs.SortedTexts

/-!
# Looking up the trigger of a pattern

A scan ranks patterns, and the trigger that answers for a pattern is looked up afterwards, in the
topic and then along its edges.  The lookup visits every reachable topic, so it finds a trigger for
every pattern that a reachable topic declares, on cycles too.
-/

namespace DialogueScript

/-! ## Where triggers are looked up -/

namespace Graph

/-- The topics where the trigger of a pattern is looked up, in this order. -/
def lookup (graph : Graph) (name : Text) : List Topic :=
  (graph.topic? name).toList ++ graph.lineage name

theorem mem_lookup_from_iff
    {graph : Graph} {path : List Text} {name : Text} {owner : Topic} (hname : name ∉ path) :
    owner ∈ (graph.topic? name).toList ++ graph.lineageFrom path name ↔
      ∃ visited, graph.ReachesOutside path name visited ∧ graph.topic? visited = some owner := by
  fun_induction graph.lineageFrom path name with
  | case1 path name hpath => exact absurd hpath hname
  | case2 path name hpath htopic =>
    simp [htopic, not_exists_reachesOutside htopic]
  | case3 path name hpath topic htopic ih =>
    have htargets : ∀ next, next ∈ topic.inherits ++ topic.includes ↔ next ∈ topic.targets := by
      intro next
      simp [Topic.targets, or_comm]
    have hnext : ∀ next, owner ∈ (if next ∈ path ++ [name] then []
        else (graph.topic? next).toList ++ graph.lineageFrom (path ++ [name]) next) ↔
          next ∉ path ++ [name] ∧ ∃ visited, graph.ReachesOutside (path ++ [name]) next visited ∧
            graph.topic? visited = some owner := by
      intro next
      by_cases hpath : next ∈ path ++ [name]
      · simp [hpath]
      · rw [if_neg hpath, ih next hpath, and_iff_right hpath]
    rw [exists_reachesOutside_iff hpath htopic, List.mem_append, List.mem_flatMap]
    simp only [Option.mem_toList, htargets, hnext]

/-- The lookup visits the reachable topics and no other one. -/
theorem mem_lookup_iff {graph : Graph} {name : Text} {owner : Topic} :
    owner ∈ graph.lookup name ↔
      ∃ visited, graph.Reaches name visited ∧ graph.topic? visited = some owner := by
  simp only [lookup, lineage, mem_lookup_from_iff List.not_mem_nil, reachesOutside_nil]

theorem Untagged.untaggedFrom {graph : Graph} (huntagged : graph.Untagged) (name : Text) :
    graph.UntaggedFrom name :=
  fun _ _ _ howner _ hpattern => huntagged.tags_eq_nil howner hpattern

end Graph

theorem Snapshot.ownerOf?_eq_findSome? (snapshot : Snapshot) (name pattern : Text) :
    snapshot.ownerOf? name pattern =
      (snapshot.persona.graph.lookup name).findSome?
        fun topic => topic.trigger? (Trigger.Key.read pattern) := by
  rw [ownerOf?, Graph.lookup, List.findSome?_append, Option.orElse_eq_orElse,
    Option.orElse_eq_or, Graph.inherited?]
  cases snapshot.persona.graph.topic? name with
  | none => simp
  | some topic => simp

/-! ## Pairs -/

namespace Topic

/-- The topic pairs the pattern with one for the previous reply. -/
def Pairs (topic : Topic) (previous pattern : Text) : Prop :=
  ∃ trigger ∈ topic.triggers, trigger.key = ⟨pattern, some previous⟩

theorem mem_iff_pairs_of_mem_previousIndex
    {topic : Topic} {previous : Text} {patterns : List Text}
    (hindex : (previous, patterns) ∈ topic.previousIndex) {pattern : Text} :
    pattern ∈ patterns ↔ topic.Pairs previous pattern := by
  obtain ⟨indexed, -, heq⟩ := List.mem_map.mp hindex
  obtain ⟨rfl, rfl⟩ := Prod.mk.inj heq
  constructor
  · intro hpattern
    obtain ⟨trigger, htrigger, rfl⟩ := List.mem_map.mp hpattern
    obtain ⟨hmem, hprevious⟩ := List.mem_filter.mp htrigger
    have hprevious : trigger.key.previous = some indexed := by
      simpa using hprevious
    exact ⟨trigger, hmem, by rw [← hprevious]⟩
  · rintro ⟨trigger, htrigger, hkey⟩
    refine List.mem_map.mpr ⟨trigger, ?_, by rw [hkey]⟩
    simp [htrigger, hkey]

theorem exists_index_of_pairs
    {topic : Topic} {previous pattern : Text} (hpairs : topic.Pairs previous pattern) :
    ∃ patterns, (previous, patterns) ∈ topic.previousIndex ∧ pattern ∈ patterns := by
  obtain ⟨trigger, htrigger, hkey⟩ := hpairs
  have hindexed : previous ∈ Text.sortDistinct
      (topic.triggers.filterMap fun trigger => trigger.key.previous) :=
    Text.mem_sortDistinct.mpr (List.mem_filterMap.mpr ⟨trigger, htrigger, by rw [hkey]⟩)
  refine ⟨_, List.mem_map.mpr ⟨previous, hindexed, rfl⟩, List.mem_map.mpr ⟨trigger, ?_, ?_⟩⟩
  · simp [htrigger, hkey]
  · rw [hkey]

end Topic

/-! ## Compiled patterns -/

theorem Pattern.get?_compile {patterns : List Text} {pattern : Text} (hmem : pattern ∈ patterns) :
    (compile patterns).get? pattern = some (parse pattern) := by
  have hlookup : (compile patterns).get? pattern =
      if pattern ∈ patterns.eraseDups.map id then some (parse pattern) else none :=
    lookup_map_key
  rw [hlookup, List.map_id, if_pos (List.mem_eraseDups.mpr hmem)]

namespace Snapshot

/-- A pattern that a message or the previous reply may be matched against. -/
def Tries (snapshot : Snapshot) (tried : Text) : Prop :=
  (∃ name, tried ∈ snapshot.order name) ∨
    ∃ topic ∈ snapshot.persona.graph.topics, ∃ previous pattern, topic.Pairs previous pattern ∧
      (tried = previous ∨ tried = pattern)

theorem compiled_publish
    {persona : Persona} {pattern : Text} (htries : persona.publish.Tries pattern) :
    persona.publish.compiled.get? pattern = some (Pattern.parse pattern) := by
  have hmem : pattern ∈
      (persona.graph.link.topics.map fun topic =>
        (topic.name, persona.graph.link.order topic.name)).flatMap (·.2) ++
      persona.graph.link.topics.flatMap Topic.pairedPatterns := by
    rcases htries with ⟨name, horder⟩ | ⟨topic, htopic, previous, paired, hpairs, htried⟩
    · rw [order_publish] at horder
      cases hfound : persona.graph.link.topic? name with
      | none =>
        rw [Graph.order_of_topic?_eq_none hfound] at horder
        cases horder
      | some topic =>
        obtain ⟨htopic, rfl⟩ := Graph.topic?_name hfound
        exact List.mem_append_left _ (List.mem_flatMap.mpr
          ⟨_, List.mem_map.mpr ⟨topic, htopic, rfl⟩, horder⟩)
    · obtain ⟨patterns, hindex, hmem⟩ := Topic.exists_index_of_pairs hpairs
      have hpaired : pattern ∈ topic.pairedPatterns := by
        refine List.mem_flatMap.mpr ⟨_, hindex, ?_⟩
        rcases htried with rfl | rfl
        · exact List.mem_cons_self
        · exact List.mem_cons_of_mem _ hmem
      exact List.mem_append_right _ (List.mem_flatMap.mpr ⟨topic, htopic, hpaired⟩)
  exact Pattern.get?_compile hmem

variable {snapshot : Snapshot} (hpublished : snapshot.Published)

include hpublished

theorem Published.wellFormed : snapshot.persona.graph.WellFormed := by
  obtain ⟨persona, hpersona, rfl⟩ := hpublished
  exact hpersona.link

theorem Published.order_eq (name : Text) :
    snapshot.order name = snapshot.persona.graph.order name := by
  obtain ⟨persona, -, rfl⟩ := hpublished
  exact order_publish persona name

theorem Published.compiled_eq {pattern : Text} (htries : snapshot.Tries pattern) :
    snapshot.compiled.get? pattern = some (Pattern.parse pattern) := by
  obtain ⟨persona, -, rfl⟩ := hpublished
  exact compiled_publish htries

/-- What is tried is matched as the pattern that it is. -/
theorem Published.match?_eq
    {pattern : Text} (htries : snapshot.Tries pattern) (session : Session) (text : Text) :
    snapshot.match? session pattern text =
      Pattern.match? (snapshot.scope session) pattern text := by
  rw [match?, hpublished.compiled_eq htries, Option.bind_some]
  rfl

/-! ## Nothing is missing -/

theorem Published.exists_trigger?_of_mem_patterns
    {name pattern : Text} {owner : Topic} (howner : snapshot.persona.graph.topic? name = some owner)
    (hpattern : pattern ∈ owner.patterns) :
    ∃ trigger, owner.trigger? (Trigger.Key.read pattern) = some trigger ∧
      trigger.key = Trigger.Key.read pattern ∧ trigger.key = ⟨pattern, none⟩ := by
  have hwellformed := hpublished.wellFormed.topics owner (Graph.topic?_name howner).1
  obtain ⟨trigger, hmem, rfl, hnone, -⟩ := Topic.mem_patterns.mp hpattern
  have hread : trigger.key = Trigger.Key.read trigger.key.pattern :=
    ((hwellformed.isRead trigger hmem).read_pattern hnone).symm
  refine ⟨trigger, hwellformed.trigger?_eq_some_iff.mpr ⟨hmem, hread⟩, hread, ?_⟩
  rw [← hnone]

/-- For a pattern that a reachable topic offers, the lookup finds a trigger. -/
theorem Published.exists_ownerOf?_of_mem_patterns
    {name pattern place : Text} {holder : Topic}
    (hreach : snapshot.persona.graph.Reaches name place)
    (hholder : snapshot.persona.graph.topic? place = some holder)
    (hpattern : pattern ∈ holder.patterns) :
    ∃ trigger visited owner, snapshot.ownerOf? name pattern = some trigger ∧
      trigger.key = ⟨pattern, none⟩ ∧ trigger.topic = visited ∧
      snapshot.persona.graph.Reaches name visited ∧
      snapshot.persona.graph.topic? visited = some owner ∧ trigger ∈ owner.triggers := by
  have hgraph := hpublished.wellFormed
  obtain ⟨held, hheld, hread, hkey⟩ := hpublished.exists_trigger?_of_mem_patterns hholder hpattern
  have hfound : (snapshot.ownerOf? name pattern).isSome := by
    rw [ownerOf?_eq_findSome?, List.findSome?_isSome_iff]
    exact ⟨holder, Graph.mem_lookup_iff.mpr ⟨place, hreach, hholder⟩, by simp [hheld]⟩
  -- the lookup may meet another trigger of that key first than the one that is in the order
  obtain ⟨first, hfirst⟩ := Option.isSome_iff_exists.mp hfound
  rw [ownerOf?_eq_findSome?] at hfirst
  obtain ⟨topic, htopic, hfirstfound⟩ := List.exists_of_findSome?_eq_some hfirst
  obtain ⟨visited, hvisited, htopic⟩ := Graph.mem_lookup_iff.mp htopic
  obtain ⟨hmem, rfl⟩ := Graph.topic?_name htopic
  have hfirstmem := mem_of_trigger? hfirstfound
  refine ⟨first, topic.name, topic, ?_, ?_, ?_, hvisited, htopic, hfirstmem⟩
  · rw [ownerOf?_eq_findSome?]
    exact hfirst
  · rw [((hgraph.topics topic hmem).trigger?_eq_some_iff.mp hfirstfound).2, ← hread, hkey]
  · exact (hgraph.topics topic hmem).topic_eq first hfirstmem

theorem Published.exists_ownerOf?_of_untaggedFrom
    {name : Text} (huntagged : snapshot.persona.graph.UntaggedFrom name) {pattern : Text}
    (hpattern : pattern ∈ snapshot.order name) :
    ∃ trigger visited owner, snapshot.ownerOf? name pattern = some trigger ∧
      trigger.key = ⟨pattern, none⟩ ∧ trigger.topic = visited ∧
      snapshot.persona.graph.Reaches name visited ∧
      snapshot.persona.graph.topic? visited = some owner ∧ trigger ∈ owner.triggers := by
  rw [hpublished.order_eq, Graph.mem_order_iff huntagged] at hpattern
  obtain ⟨visited, owner, hreach, howner, hpattern⟩ := hpattern
  exact hpublished.exists_ownerOf?_of_mem_patterns hreach howner hpattern

theorem Published.exists_ownerOf?
    (huntagged : snapshot.persona.graph.Untagged) {name pattern : Text}
    (hpattern : pattern ∈ snapshot.order name) :
    ∃ trigger visited owner, snapshot.ownerOf? name pattern = some trigger ∧
      trigger.key = ⟨pattern, none⟩ ∧ trigger.topic = visited ∧
      snapshot.persona.graph.Reaches name visited ∧
      snapshot.persona.graph.topic? visited = some owner ∧ trigger ∈ owner.triggers :=
  hpublished.exists_ownerOf?_of_untaggedFrom (huntagged.untaggedFrom name) hpattern

theorem Published.exists_paired
    {topic : Topic} (htopic : topic ∈ snapshot.persona.graph.topics) {previous pattern : Text}
    (hpairs : topic.Pairs previous pattern) :
    ∃ trigger, topic.trigger? (Trigger.Key.paired pattern previous) = some trigger ∧
      trigger.key = ⟨pattern, some previous⟩ := by
  have hwellformed := hpublished.wellFormed.topics topic htopic
  obtain ⟨trigger, hmem, hkey⟩ := hpairs
  have hpaired : Trigger.Key.paired pattern previous = trigger.key := by
    have hread := hwellformed.isRead trigger hmem
    rw [hkey] at hread ⊢
    exact hread.paired_eq rfl
  exact ⟨trigger, hwellformed.trigger?_eq_some_iff.mpr ⟨hmem, hpaired.symm⟩, hkey⟩

theorem Published.selectByOrder?_eq_none_iff_of_untaggedFrom
    {name : Text} (huntagged : snapshot.persona.graph.UntaggedFrom name) {session : Session}
    {message : Text} :
    snapshot.selectByOrder? session name message = none ↔
      ∀ pattern ∈ snapshot.order name,
        Pattern.match? (snapshot.scope session) pattern message = none := by
  have hmatch : ∀ pattern ∈ snapshot.order name, snapshot.match? session pattern message =
      Pattern.match? (snapshot.scope session) pattern message := by
    intro pattern hpattern
    exact hpublished.match?_eq (.inl ⟨name, hpattern⟩) session message
  unfold selectByOrder?
  dsimp only
  cases haccepted : (snapshot.order name).findSome? fun pattern =>
      (snapshot.match? session pattern message).map fun stars => (pattern, stars) with
  | none =>
    have hnone : ∀ pattern ∈ snapshot.order name,
        snapshot.match? session pattern message = none := by
      simpa [List.findSome?_eq_none_iff] using haccepted
    rw [Option.bind_none, eq_self, true_iff]
    intro pattern hpattern
    rw [← hmatch pattern hpattern]
    exact hnone pattern hpattern
  | some accepted =>
    obtain ⟨pattern, hpattern, hstars⟩ := List.exists_of_findSome?_eq_some haccepted
    obtain ⟨stars, hstars, rfl⟩ := Option.map_eq_some_iff.mp hstars
    obtain ⟨trigger, _, _, howner, -⟩ :=
      hpublished.exists_ownerOf?_of_untaggedFrom huntagged hpattern
    rw [hmatch pattern hpattern] at hstars
    simp only [Option.bind_some, howner, Option.map_some, reduceCtorEq, false_iff]
    intro hnone
    rw [hnone pattern hpattern] at hstars
    cases hstars

theorem Published.selectByOrder?_eq_none_iff
    (huntagged : snapshot.persona.graph.Untagged) {session : Session} {name message : Text} :
    snapshot.selectByOrder? session name message = none ↔
      ∀ pattern ∈ snapshot.order name,
        Pattern.match? (snapshot.scope session) pattern message = none :=
  hpublished.selectByOrder?_eq_none_iff_of_untaggedFrom (huntagged.untaggedFrom name)

theorem Published.selectPaired?_eq_none_iff
    {topic : Topic} (htopic : topic ∈ snapshot.persona.graph.topics) {session : Session}
    {lastReply message : Text} :
    snapshot.selectPaired? session topic lastReply message = none ↔
      ∀ previous pattern, topic.Pairs previous pattern →
        Pattern.match? (snapshot.scope session) previous lastReply = none ∨
          Pattern.match? (snapshot.scope session) pattern message = none := by
  have hmatch : ∀ previous pattern, topic.Pairs previous pattern →
      snapshot.match? session previous lastReply =
        Pattern.match? (snapshot.scope session) previous lastReply ∧
      snapshot.match? session pattern message =
        Pattern.match? (snapshot.scope session) pattern message := by
    intro previous pattern hpairs
    constructor
    · exact hpublished.match?_eq (.inr ⟨topic, htopic, _, _, hpairs, .inl rfl⟩) session lastReply
    · exact hpublished.match?_eq (.inr ⟨topic, htopic, _, _, hpairs, .inr rfl⟩) session message
  rw [selectPaired?, List.findSome?_eq_none_iff, Prod.forall]
  constructor
  · intro hnone previous pattern hpairs
    obtain ⟨patterns, hindex, hpattern⟩ := Topic.exists_index_of_pairs hpairs
    obtain ⟨hprevious, hmessage⟩ := hmatch previous pattern hpairs
    obtain ⟨trigger, htrigger, -⟩ := hpublished.exists_paired htopic hpairs
    have hentry := hnone previous patterns hindex
    rw [← hprevious, ← hmessage]
    cases hstars : snapshot.match? session previous lastReply with
    | none => exact .inl rfl
    | some previousStars =>
      dsimp only at hentry
      rw [hstars, Option.bind_some, List.findSome?_eq_none_iff] at hentry
      have hpaired := hentry pattern hpattern
      rw [htrigger] at hpaired
      cases hfound : snapshot.match? session pattern message with
      | none => exact .inr rfl
      | some messageStars =>
        rw [hfound] at hpaired
        cases hpaired
  · intro hnone previous patterns hindex
    dsimp only
    cases hstars : snapshot.match? session previous lastReply with
    | none => rfl
    | some previousStars =>
      rw [Option.bind_some, List.findSome?_eq_none_iff]
      intro pattern hpattern
      have hpairs := (Topic.mem_iff_pairs_of_mem_previousIndex hindex).mp hpattern
      obtain ⟨hprevious, hmessage⟩ := hmatch previous pattern hpairs
      rcases hnone previous pattern hpairs with hfirst | hsecond
      · rw [← hprevious, hstars] at hfirst
        cases hfirst
      · rw [hmessage, hsecond]
        rfl

end Snapshot

/-- Whatever has been done with a bot, its scan never stops short of a trigger.  All that is matched
has been compiled, every pattern of an order is looked up to a trigger of a reachable topic, and
every indexed pair is the key of a trigger; so nothing is selected only if no pattern accepts. -/
theorem match_scan_never_dead_ends
    {mind : Mind} (hoccurs : mind.Occurs) (huntagged : mind.live.persona.graph.Untagged) :
    let live := mind.live
    let graph := live.persona.graph
    (∀ pattern, live.Tries pattern → live.compiled.get? pattern = some (Pattern.parse pattern)) ∧
    (∀ name, ∀ pattern ∈ live.order name, ∃ trigger visited owner,
      live.ownerOf? name pattern = some trigger ∧ trigger.key = ⟨pattern, none⟩ ∧
        trigger.topic = visited ∧ graph.Reaches name visited ∧
        graph.topic? visited = some owner ∧ trigger ∈ owner.triggers) ∧
    (∀ topic ∈ graph.topics, ∀ previous patterns, (previous, patterns) ∈ topic.previousIndex →
      ∀ pattern ∈ patterns, ∃ trigger,
        topic.trigger? (Trigger.Key.paired pattern previous) = some trigger ∧
          trigger.key = ⟨pattern, some previous⟩) ∧
    (∀ session name message, live.selectByOrder? session name message = none ↔
      ∀ pattern ∈ live.order name, Pattern.match? (live.scope session) pattern message = none) ∧
    ∀ session, ∀ topic ∈ graph.topics, ∀ lastReply message,
      live.selectPaired? session topic lastReply message = none ↔
        ∀ previous pattern, topic.Pairs previous pattern →
          Pattern.match? (live.scope session) previous lastReply = none ∨
            Pattern.match? (live.scope session) pattern message = none := by
  intro live graph
  have hpublished : live.Published := hoccurs.wellFormed.live
  refine ⟨?_, ?_, ?_, ?_, ?_⟩
  · intro pattern htries
    exact hpublished.compiled_eq htries
  · intro name pattern hpattern
    exact hpublished.exists_ownerOf? huntagged hpattern
  · intro topic htopic previous patterns hindex pattern hpattern
    exact hpublished.exists_paired htopic
      ((Topic.mem_iff_pairs_of_mem_previousIndex hindex).mp hpattern)
  · intro session name message
    exact hpublished.selectByOrder?_eq_none_iff huntagged
  · intro session topic htopic lastReply message
    exact hpublished.selectPaired?_eq_none_iff htopic

theorem Bot.reachable_ofScript (script : Text) : (Bot.ofScript script).Reachable :=
  ((Reachable.new { seed := 0 } {} none).perform (.load Mind.streamed script)).perform .sort

theorem Bot.Reachable.occurs {bot : Bot} (hbot : bot.Reachable) : bot.mind.Occurs :=
  ⟨bot, Session.new [] 0, { mind := bot.mind, session := Session.new [] 0 }, hbot, .refl, rfl⟩

/-- Two topics that inherit and include each other: the pattern of the second is found from the
first, and the pair of the first under its own key. -/
theorem match_scan_never_dead_ends_in_cycle :
    let script := "> topic random inherits far\n+ yes\n% are you well\n- glad\n< topic\n".toList ++
      "> topic far includes random\n+ hello *\n- hi\n< topic\n".toList
    let live := (Bot.ofScript script).mind.live
    live.persona.graph.Untagged ∧ live.persona.graph.cycles ≠ [] ∧
      "hello *".toList ∈ live.order defaultTopic ∧
      (∃ trigger, live.ownerOf? defaultTopic "hello *".toList = some trigger ∧
        trigger.key = ⟨"hello *".toList, none⟩) ∧
      ∃ topic ∈ live.persona.graph.topics,
        ("are you well".toList, ["yes".toList]) ∈ topic.previousIndex ∧
          ∃ trigger, topic.trigger?
            (Trigger.Key.paired "yes".toList "are you well".toList) = some trigger := by
  intro script live
  have hoccurs : (Bot.ofScript script).mind.Occurs := (Bot.reachable_ofScript script).occurs
  obtain ⟨huntagged, hcycles, hpattern, hindex⟩ : live.persona.graph.Untagged ∧
      live.persona.graph.cycles ≠ [] ∧ "hello *".toList ∈ live.order defaultTopic ∧
      ∃ topic ∈ live.persona.graph.topics,
        ("are you well".toList, ["yes".toList]) ∈ topic.previousIndex := by
    decide +kernel
  obtain ⟨-, howner, hpaired, -⟩ := match_scan_never_dead_ends hoccurs huntagged
  refine ⟨huntagged, hcycles, hpattern, ?_, ?_⟩
  · obtain ⟨trigger, _, _, hfound, hkey, -⟩ := howner defaultTopic _ hpattern
    exact ⟨trigger, hfound, hkey⟩
  · obtain ⟨topic, htopic, hindex⟩ := hindex
    obtain ⟨trigger, hfound, -⟩ := hpaired topic htopic _ _ hindex _ List.mem_cons_self
    exact ⟨topic, htopic, hindex, trigger, hfound⟩

end DialogueScript

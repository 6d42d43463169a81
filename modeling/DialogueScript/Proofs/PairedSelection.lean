import DialogueScript.Proofs.TopicFamily
import DialogueScript.Proofs.TriggerLookup
import DialogueScript.Proofs.Trimming

/-!
# Triggers paired with the previous reply

The first step of a turn goes by the previous reply whenever a topic of the family has a pair whose
two sides accept that reply and the message.  Of several such pairs it takes the first: by topic in
the order of discovery, then by the pattern for the reply in code point order, then by declaration.
-/

namespace DialogueScript

theorem Persona.trim_normalize (persona : Persona) (message : Text) :
    Text.trim (persona.normalize message) = persona.normalize message :=
  Text.trim_trim _

/-- What stands at a split of a list comes no later than what is not in front of it. -/
theorem idxOf_le_of_not_mem
    {α : Type} [BEq α] [LawfulBEq α] {front back : List α} {a b : α} (hb : b ∉ front) :
    (front ++ a :: back).idxOf a ≤ (front ++ a :: back).idxOf b := by
  by_cases hsame : b = a
  · rw [hsame]
  · exact (idxOf_lt_of_not_mem hb hsame).le

/-! ## Pairs that accept -/

namespace Snapshot

/-- The trigger is written as a pair; its second part accepts the latest reply and its first part
accepts the message, with these stars. -/
structure AcceptsPair (snapshot : Snapshot) (session : Session) (message : Text)
    (trigger : Trigger) (pattern previous : Text) (stars : Stars) : Prop where
  written : Text.cut? Trigger.previousMark trigger.key.written = some (pattern, previous)
  reply : Pattern.match? (snapshot.scope session) previous
    (snapshot.persona.normalize (session.reply 1)) = some stars.previous
  message : Pattern.match? (snapshot.scope session) pattern message = some stars.message

end Snapshot

theorem Topic.WellFormed.cut?_written_iff
    {topic : Topic} (htopic : topic.WellFormed) {trigger : Trigger}
    (htrigger : trigger ∈ topic.triggers) {pattern previous : Text} :
    Text.cut? Trigger.previousMark trigger.key.written = some (pattern, previous) ↔
      trigger.key = ⟨pattern, some previous⟩ := by
  have hread := htopic.isRead trigger htrigger
  rw [Trigger.Key.IsRead, Trigger.Key.read] at hread
  constructor
  · intro hcut
    rw [hcut] at hread
    exact hread.symm
  · intro hkey
    cases hcut : Text.cut? Trigger.previousMark trigger.key.written with
    | none =>
      rw [hcut, hkey] at hread
      cases (Trigger.Key.mk.inj hread).2
    | some parts =>
      rw [hcut, hkey] at hread
      obtain ⟨hpattern, hprevious⟩ := Trigger.Key.mk.inj hread
      rw [← hpattern, ← Option.some.inj hprevious]

namespace Topic

/-- Before the pair of one trigger that of another is not tried: the patterns for the reply are tried
in code point order, and those of one pattern in the order of declaration. -/
def TriesFirst (topic : Topic) (previous : Text) (trigger : Trigger) (otherPrevious : Text)
    (other : Trigger) : Prop :=
  (previous ≠ otherPrevious ∧ Text.le previous otherPrevious) ∨
    (previous = otherPrevious ∧ topic.triggers.idxOf trigger ≤ topic.triggers.idxOf other)

theorem pairwise_previousIndex (topic : Topic) :
    topic.previousIndex.Pairwise fun entry other => Text.le entry.1 other.1 :=
  List.pairwise_map.mpr (Text.pairwise_sortDistinct _)

/-- The patterns in front of one in an entry of the index belong to all the triggers of that entry
that are declared before the first one with this pattern. -/
theorem exists_split_of_mem_previousIndex
    {topic : Topic} {previous pattern : Text} {front back : List Text}
    (hindex : (previous, front ++ pattern :: back) ∈ topic.previousIndex) :
    ∃ earlier trigger later, topic.triggers = earlier ++ trigger :: later ∧
      trigger.key = ⟨pattern, some previous⟩ ∧
      ∀ other ∈ earlier, other.key.previous = some previous → other.key.pattern ∈ front := by
  obtain ⟨indexed, -, hentry⟩ := List.mem_map.mp hindex
  obtain ⟨rfl, hpatterns⟩ := Prod.mk.inj hentry
  obtain ⟨first, rest, hsplit, rfl, hrest⟩ := List.map_eq_append_iff.mp hpatterns
  obtain ⟨trigger, others, rfl, rfl, -⟩ := List.map_eq_cons_iff.mp hrest
  obtain ⟨earlier, middle, htriggers, rfl, hmiddle⟩ := List.filter_eq_append_iff.mp hsplit
  obtain ⟨passed, later, rfl, hpassed, hprevious, -⟩ := List.filter_eq_cons_iff.mp hmiddle
  have hprevious : trigger.key.previous = some indexed := by
    simpa using hprevious
  refine ⟨earlier ++ passed, trigger, later, by simp [htriggers], by rw [← hprevious], ?_⟩
  intro other hother hindexed
  rcases List.mem_append.mp hother with hearlier | hother
  · exact List.mem_map.mpr ⟨other, List.mem_filter.mpr ⟨hearlier, by simpa using hindexed⟩, rfl⟩
  · exact absurd (by simpa using hindexed) (hpassed other hother)

end Topic

namespace Snapshot

variable {snapshot : Snapshot} (hpublished : snapshot.Published) {session : Session}
  {message : Text} {topic : Topic} (htopic : topic ∈ snapshot.persona.graph.topics)

include hpublished htopic

/-- What accepts as a pair is matched as one, and its trigger is found. -/
theorem Published.match?_of_acceptsPair
    {trigger : Trigger} (htrigger : trigger ∈ topic.triggers) {pattern previous : Text}
    {stars : Stars} (haccepts : snapshot.AcceptsPair session message trigger pattern previous stars) :
    snapshot.match? session previous (snapshot.persona.normalize (session.reply 1)) =
        some stars.previous ∧
      snapshot.match? session pattern message = some stars.message ∧
      topic.trigger? (Trigger.Key.paired pattern previous) = some trigger := by
  have hwellformed := hpublished.wellFormed.topics topic htopic
  have hkey := (hwellformed.cut?_written_iff htrigger).mp haccepts.written
  have hpairs : topic.Pairs previous pattern := ⟨trigger, htrigger, hkey⟩
  have htries : ∀ tried, tried = previous ∨ tried = pattern → snapshot.Tries tried :=
    fun tried htried => .inr ⟨topic, htopic, previous, pattern, hpairs, htried⟩
  rw [hpublished.match?_eq (htries _ (.inl rfl)), hpublished.match?_eq (htries _ (.inr rfl))]
  refine ⟨haccepts.reply, haccepts.message, hwellformed.trigger?_eq_some_iff.mpr ⟨htrigger, ?_⟩⟩
  have hisread := hwellformed.isRead trigger htrigger
  rw [hkey] at hisread ⊢
  exact (hisread.paired_eq rfl).symm

/-- The pair that a topic selects accepts, and none of its pairs that accept is tried before it. -/
theorem Published.first_of_selectPaired?
    {selection : Selection}
    (hselect : snapshot.selectPaired? session topic
      (snapshot.persona.normalize (session.reply 1)) message = some selection) :
    selection.viaPrevious ∧ selection.trigger ∈ topic.triggers ∧
      ∃ previous, snapshot.AcceptsPair session message selection.trigger selection.pattern previous
          selection.stars ∧
        ∀ trigger ∈ topic.triggers, ∀ pattern' previous' stars',
          snapshot.AcceptsPair session message trigger pattern' previous' stars' →
            topic.TriesFirst previous selection.trigger previous' trigger := by
  have hwellformed := hpublished.wellFormed.topics topic htopic
  obtain ⟨front, ⟨previous, patterns⟩, back, hindex, hentry, hfront⟩ :=
    List.findSome?_eq_some_iff.mp hselect
  obtain ⟨previousStars, hprevious, hpatterns⟩ := Option.bind_eq_some_iff.mp hentry
  obtain ⟨patternsFront, pattern, patternsBack, rfl, hpattern, hpatternsFront⟩ :=
    List.findSome?_eq_some_iff.mp hpatterns
  obtain ⟨messageStars, hmessage, hmap⟩ := Option.bind_eq_some_iff.mp hpattern
  obtain ⟨found, hfound, rfl⟩ := Option.map_eq_some_iff.mp hmap
  have hmem : (previous, patternsFront ++ pattern :: patternsBack) ∈ topic.previousIndex := by
    rw [hindex]
    exact List.mem_append_right _ List.mem_cons_self
  -- the trigger that is found under the key is the one that the index was made from
  obtain ⟨earlier, trigger, later, htriggers, hkey, hearlier⟩ :=
    Topic.exists_split_of_mem_previousIndex hmem
  have htrigger : trigger ∈ topic.triggers := by
    simp [htriggers]
  have hpairs : topic.Pairs previous pattern := ⟨trigger, htrigger, hkey⟩
  have htries : ∀ tried, tried = previous ∨ tried = pattern → snapshot.Tries tried :=
    fun tried htried => .inr ⟨topic, htopic, previous, pattern, hpairs, htried⟩
  rw [hpublished.match?_eq (htries _ (.inl rfl))] at hprevious
  rw [hpublished.match?_eq (htries _ (.inr rfl))] at hmessage
  have haccepts : snapshot.AcceptsPair session message trigger pattern previous
      { message := messageStars, previous := previousStars } :=
    ⟨(hwellformed.cut?_written_iff htrigger).mpr hkey, hprevious, hmessage⟩
  obtain rfl : trigger = found := by
    obtain ⟨-, -, hpaired⟩ := hpublished.match?_of_acceptsPair htopic htrigger haccepts
    exact Option.some.inj (hpaired.symm.trans hfound)
  refine ⟨rfl, htrigger, previous, haccepts, ?_⟩
  intro other hother pattern' previous' stars' hotherAccepts
  obtain ⟨hreply', hmessage', hfound'⟩ :=
    hpublished.match?_of_acceptsPair htopic hother hotherAccepts
  have hotherKey := (hwellformed.cut?_written_iff hother).mp hotherAccepts.written
  by_cases hsame : previous = previous'
  · subst hsame
    have hlater : other ∉ earlier := by
      intro hmem
      have hpassed := hpatternsFront other.key.pattern (hearlier other hmem (by rw [hotherKey]))
      rw [hotherKey] at hpassed
      dsimp only at hpassed
      rw [hmessage', hfound'] at hpassed
      cases hpassed
    refine .inr ⟨rfl, ?_⟩
    rw [htriggers]
    exact idxOf_le_of_not_mem hlater
  · obtain ⟨patterns', hindex', hpattern'⟩ :=
      Topic.exists_index_of_pairs ⟨other, hother, hotherKey⟩
    have hbehind : (previous', patterns') ∈ back := by
      rw [hindex] at hindex'
      rcases List.mem_append.mp hindex' with hmem | hmem
      · have hpassed := hfront _ hmem
        dsimp only at hpassed
        rw [hreply', Option.bind_some, List.findSome?_eq_none_iff] at hpassed
        have hnone := hpassed pattern' hpattern'
        rw [hmessage', hfound'] at hnone
        cases hnone
      · rcases List.mem_cons.mp hmem with heq | hmem
        · exact absurd (Prod.mk.inj heq).1.symm hsame
        · exact hmem
    have hsorted := topic.pairwise_previousIndex
    rw [hindex, List.pairwise_append] at hsorted
    exact .inl ⟨hsame, (List.pairwise_cons.mp hsorted.2.1).1 _ hbehind⟩

/-- A topic selects no pair only if none of its pairs accepts. -/
theorem Published.exists_selectPaired?_of_acceptsPair
    {trigger : Trigger} (htrigger : trigger ∈ topic.triggers) {pattern previous : Text}
    {stars : Stars} (haccepts : snapshot.AcceptsPair session message trigger pattern previous stars) :
    (snapshot.selectPaired? session topic
      (snapshot.persona.normalize (session.reply 1)) message).isSome := by
  have hkey := ((hpublished.wellFormed.topics topic htopic).cut?_written_iff htrigger).mp
    haccepts.written
  rw [Option.isSome_iff_ne_none, ne_eq, hpublished.selectPaired?_eq_none_iff htopic]
  intro hnone
  rcases hnone previous pattern ⟨trigger, htrigger, hkey⟩ with hreply | hmessage
  · rw [haccepts.reply] at hreply
    cases hreply
  · rw [haccepts.message] at hmessage
    cases hmessage

end Snapshot

/-! ## The first pair -/

/-- A trigger of a topic that stands under some name, with the two sides of its key and the stars of
both. -/
structure Pairing where
  visited : Text
  topic : Topic
  trigger : Trigger
  pattern : Text
  previous : Text
  stars : Stars

namespace Pairing

/-- What is selected by this pair. -/
def selection (pairing : Pairing) : Selection :=
  { trigger := pairing.trigger, pattern := pairing.pattern, stars := pairing.stars
    viaPrevious := true }

/-- A topic that is reachable from `name` owns the trigger, and the trigger accepts as a pair. -/
structure Accepted (pairing : Pairing) (snapshot : Snapshot) (session : Session)
    (name message : Text) : Prop where
  reaches : snapshot.persona.graph.Reaches name pairing.visited
  topic_eq : snapshot.persona.graph.topic? pairing.visited = some pairing.topic
  mem : pairing.trigger ∈ pairing.topic.triggers
  accepts : snapshot.AcceptsPair session message pairing.trigger pairing.pattern pairing.previous
    pairing.stars

/-- The topic of the pairing is discovered earlier, or it is the same topic and tries the pairing no
later. -/
def Leads (pairing other : Pairing) (graph : Graph) (name : Text) : Prop :=
  (graph.family name).idxOf pairing.visited < (graph.family name).idxOf other.visited ∨
    (pairing.visited = other.visited ∧
      pairing.topic.TriesFirst pairing.previous pairing.trigger other.previous other.trigger)

end Pairing

namespace Snapshot

variable {snapshot : Snapshot} {session : Session} {name message : Text}

theorem not_viaPrevious_of_selectByOrder?
    {selection : Selection}
    (hselect : snapshot.selectByOrder? session name message = some selection) :
    ¬ selection.viaPrevious := by
  obtain ⟨accepted, -, hselect⟩ := Option.bind_eq_some_iff.mp hselect
  obtain ⟨trigger, -, rfl⟩ := Option.map_eq_some_iff.mp hselect
  exact Bool.false_ne_true

theorem Published.exists_selectByPrevious?_of_accepted
    (hpublished : snapshot.Published) {pairing : Pairing}
    (haccepted : pairing.Accepted snapshot session name message) :
    (snapshot.selectByPrevious? session name message).isSome := by
  have htopic := (Graph.topic?_name haccepted.topic_eq).1
  rw [selectByPrevious?, List.findSome?_isSome_iff]
  refine ⟨pairing.visited, Graph.mem_family_iff.mpr haccepted.reaches, ?_⟩
  rw [haccepted.topic_eq, Option.bind_some, Persona.trim_normalize]
  exact hpublished.exists_selectPaired?_of_acceptsPair htopic haccepted.mem haccepted.accepts

theorem Published.first_of_selectByPrevious?
    (hpublished : snapshot.Published) {selection : Selection}
    (hselect : snapshot.selectByPrevious? session name message = some selection) :
    ∃ pairing : Pairing, pairing.Accepted snapshot session name message ∧
      pairing.selection = selection ∧ ∀ other : Pairing,
        other.Accepted snapshot session name message →
          pairing.Leads other snapshot.persona.graph name := by
  obtain ⟨front, visited, back, hfamily, hvisited, hfront⟩ := List.findSome?_eq_some_iff.mp hselect
  obtain ⟨topic, htopic, hpaired⟩ := Option.bind_eq_some_iff.mp hvisited
  have hmem := (Graph.topic?_name htopic).1
  rw [Persona.trim_normalize] at hpaired
  obtain ⟨hvia, htrigger, previous, haccepts, hfirst⟩ :=
    hpublished.first_of_selectPaired? hmem hpaired
  have hreaches : snapshot.persona.graph.Reaches name visited := by
    rw [← Graph.mem_family_iff, hfamily]
    exact List.mem_append_right _ List.mem_cons_self
  refine ⟨⟨visited, topic, selection.trigger, selection.pattern, previous, selection.stars⟩,
    ⟨hreaches, htopic, htrigger, haccepts⟩, ?_, ?_⟩
  · rw [Pairing.selection, ← hvia]
  · intro other hother
    by_cases hsame : visited = other.visited
    · have heq : topic = other.topic := by
        rw [hsame, hother.topic_eq] at htopic
        exact (Option.some.inj htopic).symm
      exact .inr ⟨hsame, hfirst _ (heq ▸ hother.mem) _ _ _ hother.accepts⟩
    · -- a topic that was discovered earlier would have selected its pair
      have hlater : other.visited ∉ front := by
        intro hearlier
        have hpassed := hfront _ hearlier
        have hotherMem := (Graph.topic?_name hother.topic_eq).1
        have hselected := hpublished.exists_selectPaired?_of_acceptsPair hotherMem hother.mem
          hother.accepts
        rw [hother.topic_eq, Option.bind_some, Persona.trim_normalize] at hpassed
        rw [hpassed] at hselected
        cases hselected
      have hle : (snapshot.persona.graph.family name).idxOf visited ≤
          (snapshot.persona.graph.family name).idxOf other.visited := by
        rw [hfamily]
        exact idxOf_le_of_not_mem hlater
      refine .inl (lt_of_le_of_ne hle fun hindex => hsame ?_)
      exact (List.idxOf_inj (Graph.mem_family_iff.mpr hreaches)).mp hindex

end Snapshot

/-- The first step goes by the previous reply exactly when some reachable topic has a pair that
accepts, and then by the first such pair, with its stars; the topics stand in the order in which a
depth-first walk discovers them.  Later steps do not go by the previous reply. -/
theorem select?_goes_by_first_accepting_pair
    {snapshot : Snapshot} (hpublished : snapshot.Published) (session : Session)
    (name message : Text) :
    let graph := snapshot.persona.graph
    ((∃ selection, snapshot.select? session name message 0 = some selection ∧
        selection.viaPrevious) ↔
      ∃ pairing : Pairing, pairing.Accepted snapshot session name message) ∧
    (∀ selection, snapshot.select? session name message 0 = some selection →
      selection.viaPrevious → ∃ pairing : Pairing,
        pairing.Accepted snapshot session name message ∧ pairing.selection = selection ∧
          ∀ other : Pairing, other.Accepted snapshot session name message →
            pairing.Leads other graph name) ∧
    graph.Discovers [] [name] (graph.family name) ∧
    ∀ step selection, 0 < step → snapshot.select? session name message step = some selection →
      ¬ selection.viaPrevious := by
  intro graph
  have hprevious : ∀ selection, snapshot.select? session name message 0 = some selection →
      selection.viaPrevious → snapshot.selectByPrevious? session name message = some selection := by
    intro selection hselect hvia
    rw [Snapshot.select?, if_pos rfl, Option.orElse_eq_orElse, Option.orElse_eq_or,
      Option.or_eq_some_iff] at hselect
    rcases hselect with hselect | ⟨-, horder⟩
    · exact hselect
    · exact absurd hvia (Snapshot.not_viaPrevious_of_selectByOrder? horder)
  refine ⟨⟨?_, ?_⟩, ?_, graph.discovers_family name, ?_⟩
  · rintro ⟨selection, hselect, hvia⟩
    obtain ⟨pairing, haccepted, -⟩ :=
      hpublished.first_of_selectByPrevious? (hprevious selection hselect hvia)
    exact ⟨pairing, haccepted⟩
  · rintro ⟨pairing, haccepted⟩
    obtain ⟨selection, hselect⟩ := Option.isSome_iff_exists.mp
      (hpublished.exists_selectByPrevious?_of_accepted haccepted)
    obtain ⟨first, -, hfirst, -⟩ := hpublished.first_of_selectByPrevious? hselect
    refine ⟨selection, ?_, by rw [← hfirst]; rfl⟩
    rw [Snapshot.select?, if_pos rfl, hselect]
    rfl
  · intro selection hselect hvia
    exact hpublished.first_of_selectByPrevious? (hprevious selection hselect hvia)
  · intro step selection hstep hselect
    rw [Snapshot.select?, if_neg (Nat.ne_of_gt hstep)] at hselect
    exact Snapshot.not_viaPrevious_of_selectByOrder? hselect

/-- Of the two pairs that an included topic has for the reply, the one whose pattern for the reply is
first in code point order is taken, although it is declared last. -/
theorem select?_goes_by_pair_of_included_topic :
    let script := "> topic random includes far\n+ yes\n- plain\n< topic\n".toList ++
      "> topic far inherits random\n+ *\n% are you well\n- so\n".toList ++
      "+ yes\n% are you *\n- glad\n< topic\n".toList
    let live := (Bot.ofScript script).mind.live
    let session := (Session.new [] 9).push "hello".toList "Are you WELL ".toList
    live.Published ∧
    ∃ selection, live.select? session defaultTopic "yes".toList 0 = some selection ∧
      selection.viaPrevious ∧ selection.stars = { previous := ["well".toList] } ∧
      ∃ pairing : Pairing, pairing.Accepted live session defaultTopic "yes".toList ∧
        pairing.selection = selection ∧ ∀ other : Pairing,
          other.Accepted live session defaultTopic "yes".toList →
            pairing.Leads other live.persona.graph defaultTopic := by
  intro script live session
  have hpublished : live.Published := (Bot.reachable_ofScript script).occurs.wellFormed.live
  obtain ⟨selection, hselect, hvia, hstars⟩ : ∃ selection,
      live.select? session defaultTopic "yes".toList 0 = some selection ∧
        selection.viaPrevious ∧ selection.stars = { previous := ["well".toList] } := by
    have hfound : ∃ selection ∈ live.select? session defaultTopic "yes".toList 0,
        selection.viaPrevious ∧ selection.stars = { previous := ["well".toList] } := by
      decide +kernel
    exact hfound
  obtain ⟨-, hfirst, -⟩ := select?_goes_by_first_accepting_pair hpublished session
    defaultTopic "yes".toList
  exact ⟨hpublished, selection, hselect, hvia, hstars, hfirst selection hselect hvia⟩

end DialogueScript

import DialogueScript.Proofs.VisiblePatterns

/-!
# Nearer ancestors come first

The level at which a pattern is gathered counts the steps from heir to ancestor on the path of the
walk.  A path that returns to itself only climbs more, so the walk gathers a topic at a level that
no path to it undercuts, and the match order tries what fewer steps lead to before what more steps
lead to.
-/

namespace DialogueScript

/-- How many levels of inheritance an edge climbs. -/
def Topic.Relation.rise : Topic.Relation → Nat
  | .includes => 0
  | .inherits => 1

/-- A path along edges that climb `rise` levels together. -/
inductive Climb (edge : Topic.Relation → Text → Text → Prop) (source : Text) : Nat → Text → Prop
  | refl : Climb edge source 0 source
  | tail {rise : Nat} {middle target : Text} {relation : Topic.Relation} :
    Climb edge source rise middle → edge relation middle target →
      Climb edge source (rise + relation.rise) target

theorem Climb.head
    {edge : Topic.Relation → Text → Text → Prop} {relation : Topic.Relation}
    {source middle target : Text} {rise : Nat}
    (hedge : edge relation source middle) (hclimb : Climb edge middle rise target) :
    Climb edge source (relation.rise + rise) target := by
  induction hclimb with
  | refl =>
    have hone : Climb edge source (0 + relation.rise) middle := .tail .refl hedge
    simpa using hone
  | tail _ hlast ih =>
    rw [← Nat.add_assoc]
    exact .tail ih hlast

namespace Graph

/-- The first topic called `source` names `target` under the relation. -/
def EdgeBy (graph : Graph) (relation : Topic.Relation) (source target : Text) : Prop :=
  ∃ topic, graph.topic? source = some topic ∧ (relation, target) ∈ topic.edges

def Climbs (graph : Graph) : Text → Nat → Text → Prop :=
  Climb graph.EdgeBy

/-- A climb that enters no topic of the path. -/
def ClimbsOutside (graph : Graph) (path : List Text) : Text → Nat → Text → Prop :=
  Climb fun relation source target => graph.EdgeBy relation source target ∧ target ∉ path

theorem climbsOutside_nil {graph : Graph} {source target : Text} {rise : Nat} :
    graph.ClimbsOutside [] source rise target ↔ graph.Climbs source rise target := by
  simp [ClimbsOutside, Climbs]

/-- What a climb does before its last return to `source` only adds to its rise. -/
theorem ClimbsOutside.eq_or_edge
    {graph : Graph} {path : List Text} {source target : Text} {rise : Nat}
    (hclimb : graph.ClimbsOutside path source rise target) :
    target = source ∨ ∃ relation next rest, graph.EdgeBy relation source next ∧
      next ∉ path ++ [source] ∧ graph.ClimbsOutside (path ++ [source]) next rest target ∧
        relation.rise + rest ≤ rise := by
  induction hclimb with
  | refl => exact .inl rfl
  | @tail rise middle target relation _ hstep ih =>
    by_cases htarget : target = source
    · exact .inl htarget
    · have houtside : target ∉ path ++ [source] := by
        simp [hstep.2, htarget]
      right
      rcases ih with rfl | ⟨first, next, rest, hedge, hnext, hrest, hle⟩
      · exact ⟨relation, target, 0, hstep.1, houtside, .refl, by omega⟩
      · exact ⟨first, next, rest + relation.rise, hedge, hnext, .tail hrest ⟨hstep.1, houtside⟩,
          by omega⟩

/-! ## The level of a visit -/

/-- A topic is gathered at the rise of a path to it, or at no level if the path does not climb. -/
theorem exists_climbs_of_gather
    {graph : Graph} {path : List Text} {name : Text} {owner : Topic} {level : Nat}
    {inherited : Bool} {found : Option Nat}
    (hgather : .gather owner found ∈ graph.explore path name level inherited) :
    ∃ rise visited, graph.Climbs name rise visited ∧ graph.topic? visited = some owner ∧
      (found = some (level + rise) ∨ found = none ∧ rise = 0 ∧ inherited = false) := by
  fun_induction graph.explore path name level inherited with
  | case1 path name level inherited hpath =>
    simp at hgather
  | case2 path name level inherited hpath htopic =>
    simp at hgather
  | case3 path name level inherited hpath topic htopic inherited' ihIncludes ihInherits =>
    simp only [List.mem_append, List.mem_flatMap, List.mem_singleton, Visit.gather.injEq]
      at hgather
    rcases hgather with (⟨next, hnext, hgather⟩ | ⟨next, hnext, hgather⟩) | ⟨rfl, rfl⟩
    · have hedge : graph.EdgeBy .includes name next :=
        ⟨topic, htopic, by simp [Topic.edges, hnext]⟩
      obtain ⟨rise, visited, hclimb, howner, hfound⟩ := ihIncludes next hgather
      refine ⟨_, visited, .head hedge hclimb, howner, ?_⟩
      simp only [Topic.Relation.rise, Nat.zero_add]
      rcases hfound with hfound | ⟨hnone, hzero, hfalse⟩
      · exact .inl hfound
      · have hinherited : inherited = false := by
          simp only [inherited', Bool.or_eq_false_iff] at hfalse
          exact hfalse.2
        exact .inr ⟨hnone, hzero, hinherited⟩
    · have hedge : graph.EdgeBy .inherits name next :=
        ⟨topic, htopic, by simp [Topic.edges, hnext]⟩
      obtain ⟨rise, visited, hclimb, howner, hfound⟩ := ihInherits next hgather
      refine ⟨_, visited, .head hedge hclimb, howner, ?_⟩
      rcases hfound with hfound | ⟨-, -, hfalse⟩
      · left
        rw [hfound, Topic.Relation.rise, Nat.add_assoc]
      · cases hfalse
    · refine ⟨0, name, .refl, htopic, ?_⟩
      by_cases htrue : inherited' = true
      · simp [htrue]
      · have hinherited : inherited = false := by
          simp only [inherited', Bool.or_eq_true, not_or] at htrue
          exact Bool.eq_false_iff.mpr htrue.2
        simp [htrue, hinherited]

/-- No path to a topic rises less than the level of some visit to it. -/
theorem exists_gather_of_climbsOutside
    {graph : Graph} {path : List Text} {name visited : Text} {owner : Topic} {level rise : Nat}
    {inherited : Bool} (hname : name ∉ path)
    (hclimb : graph.ClimbsOutside path name rise visited)
    (howner : graph.topic? visited = some owner) :
    ∃ found, .gather owner found ∈ graph.explore path name level inherited ∧
      ∀ l ∈ found, l ≤ level + rise := by
  fun_induction graph.explore path name level inherited generalizing rise with
  | case1 path name level inherited hpath =>
    exact absurd hpath hname
  | case2 path name level inherited hpath htopic =>
    rcases hclimb.eq_or_edge with rfl | ⟨_, _, _, ⟨topic, hsome, -⟩, -⟩
    · simp [htopic] at howner
    · simp [htopic] at hsome
  | case3 path name level inherited hpath topic htopic =>
    rename_i ihIncludes ihInherits
    simp only [List.mem_append, List.mem_flatMap, List.mem_singleton, Visit.gather.injEq]
    rcases hclimb.eq_or_edge with
      rfl | ⟨relation, next, rest, ⟨source, hsource, hedge⟩, hnext, hrest, hle⟩
    · obtain rfl : topic = owner := Option.some.inj (htopic.symm.trans howner)
      refine ⟨_, .inr ⟨rfl, rfl⟩, ?_⟩
      intro l hl
      split at hl
      · obtain rfl : level = l := Option.some.inj hl
        exact Nat.le_add_right _ _
      · cases hl
    · obtain rfl : topic = source := Option.some.inj (htopic.symm.trans hsource)
      cases relation with
      | includes =>
        have hmem : next ∈ topic.includes := by
          simpa [Topic.edges] using hedge
        obtain ⟨found, hgather, hlevel⟩ := ihIncludes next hnext hrest
        refine ⟨found, .inl (.inl ⟨next, hmem, hgather⟩), ?_⟩
        intro l hl
        have hbelow := hlevel l hl
        simp only [Topic.Relation.rise] at hle
        omega
      | inherits =>
        have hmem : next ∈ topic.inherits := by
          simpa [Topic.edges] using hedge
        obtain ⟨found, hgather, hlevel⟩ := ihInherits next hnext hrest
        refine ⟨found, .inl (.inr ⟨next, hmem, hgather⟩), ?_⟩
        intro l hl
        have hbelow := hlevel l hl
        simp only [Topic.Relation.rise] at hle
        omega

theorem climbs_link {graph : Graph} : graph.link.Climbs = graph.Climbs := by
  have hedge : graph.link.EdgeBy = graph.EdgeBy := by
    funext relation source target
    simp only [EdgeBy, topic?_link]
    cases graph.topic? source with
    | some topic => simp
    | none => split <;> simp [Topic.edges]
  rw [Climbs, hedge]
  rfl

end Graph

/-! ## Levels decide first -/

theorem idxOf_lt_of_not_mem
    {α : Type} [BEq α] [LawfulBEq α] {front back : List α} {a b : α} (hb : b ∉ front)
    (hne : b ≠ a) :
    (front ++ a :: back).idxOf a < (front ++ a :: back).idxOf b := by
  rw [List.idxOf_append_of_notMem hb, List.idxOf_cons_ne _ hne.symm]
  by_cases ha : a ∈ front
  · rw [List.idxOf_append_of_mem ha]
    exact (List.idxOf_lt_length_of_mem ha).trans_le (Nat.le_add_right _ _)
  · rw [List.idxOf_append_of_notMem ha, List.idxOf_cons_self]
    omega

/-- In the order of ranks the levels ascend. -/
theorem pairwise_rankLevel_mergeSort (candidates : List Candidate) :
    (candidates.mergeSort fun a b => (Rank.ofCandidate a).le (Rank.ofCandidate b)).Pairwise
      fun a b => a.rankLevel ≤ b.rankLevel := by
  refine (pairwise_rank_mergeSort candidates).imp ?_
  intro a b hle
  rw [Rank.le_iff] at hle
  simp only [Rank.ofCandidate] at hle
  omega

/-- A text with a candidate at some level stands before a text all of whose candidates are above
that level. -/
theorem idxOf_matchOrder_lt
    {candidates : List Candidate} {p q : Text} {limit : Int}
    (hp : ∃ candidate ∈ candidates, candidate.text = p ∧ candidate.rankLevel ≤ limit)
    (hq : ∀ candidate ∈ candidates, candidate.text = q → limit < candidate.rankLevel) :
    (matchOrder candidates).idxOf p < (matchOrder candidates).idxOf q := by
  obtain ⟨first, hfirst, rfl, hlevel⟩ := hp
  refine idxOf_matchOrder_lt_of_rank hfirst ?_
  intro candidate hcandidate htext hle
  have habove := hq candidate hcandidate htext
  rw [Rank.le_iff] at hle
  simp only [Rank.ofCandidate] at hle
  omega

/-! ## Published orders -/

/-- A path that climbs `rise` levels leads to a topic where the pattern takes part in matching. -/
def Graph.OffersAt (graph : Graph) (name : Text) (rise : Nat) (pattern : Text) : Prop :=
  ∃ visited owner, graph.Climbs name rise visited ∧ graph.topic? visited = some owner ∧
    pattern ∈ owner.patterns

namespace Graph

/-- The level of a pattern without inheritance tags is the rise of a path to its owner, or nothing
when that path does not climb. -/
theorem exists_offersAt_of_mem_candidates
    {graph : Graph} {name : Text} {candidate : Candidate}
    (hmem : candidate ∈ graph.candidates name)
    (huntagged : Text.tags Tag.inherits? candidate.pattern = []) :
    ∃ rise, graph.OffersAt name rise candidate.pattern ∧
      (candidate.rankLevel = rise ∨ candidate.rankLevel = -1 ∧ rise = 0) := by
  obtain ⟨visit, hvisit, hcandidate⟩ := List.mem_flatMap.mp hmem
  cases visit with
  | cut path name => simp at hcandidate
  | gather owner found =>
    obtain ⟨pattern, hpattern, rfl⟩ := List.mem_map.mp hcandidate
    obtain ⟨rise, visited, hclimb, howner, hfound⟩ := exists_climbs_of_gather hvisit
    refine ⟨rise, ⟨visited, owner, hclimb, howner, hpattern⟩, ?_⟩
    rcases hfound with rfl | ⟨rfl, hzero, -⟩
    · simp [Candidate.rankLevel]
    · simp [Candidate.rankLevel, huntagged, hzero]

theorem exists_candidate_of_offersAt
    {graph : Graph} {name pattern : Text} {rise : Nat}
    (hoffers : graph.OffersAt name rise pattern)
    (huntagged : Text.tags Tag.inherits? pattern = []) :
    ∃ candidate ∈ graph.candidates name, candidate.pattern = pattern ∧
      candidate.rankLevel ≤ rise := by
  obtain ⟨visited, owner, hclimb, howner, hpattern⟩ := hoffers
  obtain ⟨found, hgather, hlevel⟩ : ∃ found, .gather owner found ∈ graph.visits name ∧
      ∀ l ∈ found, l ≤ 0 + rise :=
    exists_gather_of_climbsOutside List.not_mem_nil (climbsOutside_nil.mpr hclimb) howner
  have hmem : (⟨found, pattern⟩ : Candidate) ∈ graph.candidates name :=
    List.mem_flatMap.mpr ⟨_, hgather, List.mem_map.mpr ⟨pattern, hpattern, rfl⟩⟩
  refine ⟨_, hmem, rfl, ?_⟩
  cases found with
  | some l =>
    have hle := hlevel l rfl
    simp only [Candidate.rankLevel]
    omega
  | none =>
    simp only [Candidate.rankLevel, huntagged, List.head?_nil]
    omega

theorem offersAt_link {graph : Graph} {name pattern : Text} {rise : Nat} :
    graph.link.OffersAt name rise pattern ↔ graph.OffersAt name rise pattern := by
  simp only [OffersAt, climbs_link, exists_and_left, exists_topic?_link_iff]

end Graph

/-- No pattern of a trigger holds an inheritance tag. -/
def Graph.Untagged (graph : Graph) : Prop :=
  ∀ topic ∈ graph.topics, ∀ trigger ∈ topic.triggers,
    Text.tags Tag.inherits? trigger.key.pattern = []

instance (graph : Graph) : Decidable graph.Untagged :=
  inferInstanceAs (Decidable (∀ topic ∈ graph.topics, ∀ trigger ∈ topic.triggers,
    Text.tags Tag.inherits? trigger.key.pattern = []))

theorem Graph.Untagged.tags_eq_nil
    {graph : Graph} (huntagged : graph.Untagged) {name pattern : Text} {owner : Topic}
    (howner : graph.topic? name = some owner) (hpattern : pattern ∈ owner.patterns) :
    Text.tags Tag.inherits? pattern = [] := by
  obtain ⟨trigger, htrigger, rfl, -⟩ := Topic.mem_patterns.mp hpattern
  exact huntagged owner (topic?_name howner).1 trigger htrigger

/-- A pattern that a path climbing `k` levels leads to is tried before every pattern that only
paths climbing more lead to, whatever weights and shapes they have.  So what a topic declares
itself comes before all that it only inherits. -/
theorem order_publish_tries_lower_climbs_first
    (persona : Persona) (name : Text) (huntagged : persona.graph.Untagged) :
    let graph := persona.graph
    let order := persona.publish.order name
    (∀ p q k, graph.OffersAt name k p → (∀ rise, graph.OffersAt name rise q → k < rise) →
      order.idxOf p < order.idxOf q) ∧
    ∀ own p q, graph.topic? name = some own → p ∈ own.patterns →
      (∀ rise, graph.OffersAt name rise q → 0 < rise) → order.idxOf p < order.idxOf q := by
  intro graph order
  have hcandidates : ∀ candidate ∈ graph.link.candidates name,
      candidate.text = candidate.pattern ∧ ∃ rise, graph.OffersAt name rise candidate.pattern ∧
        (candidate.rankLevel = rise ∨ candidate.rankLevel = -1 ∧ rise = 0) := by
    intro candidate hmem
    obtain ⟨visited, owner, -, howner, hpattern⟩ :=
      Graph.mem_candidates_link_iff.mp ⟨candidate, hmem, rfl⟩
    have htags := huntagged.tags_eq_nil howner hpattern
    obtain ⟨rise, hoffers, hlevel⟩ := Graph.exists_offersAt_of_mem_candidates hmem htags
    exact ⟨Text.replaceTags_of_tags_eq_nil _ htags, rise, Graph.offersAt_link.mp hoffers, hlevel⟩
  have hgeneral : ∀ p q k, graph.OffersAt name k p →
      (∀ rise, graph.OffersAt name rise q → k < rise) → order.idxOf p < order.idxOf q := by
    intro p q k hp hq
    have horder : order = matchOrder (graph.link.candidates name) :=
      order_publish persona name
    rw [horder]
    have hlow : ∃ candidate ∈ graph.link.candidates name,
        candidate.text = p ∧ candidate.rankLevel ≤ k := by
      have htags : Text.tags Tag.inherits? p = [] := by
        obtain ⟨visited, owner, -, howner, hpattern⟩ := hp
        exact huntagged.tags_eq_nil howner hpattern
      obtain ⟨candidate, hmem, hsame, hlevel⟩ :=
        Graph.exists_candidate_of_offersAt (Graph.offersAt_link.mpr hp) htags
      exact ⟨candidate, hmem, (hcandidates candidate hmem).1.trans hsame, hlevel⟩
    have hhigh : ∀ candidate ∈ graph.link.candidates name,
        candidate.text = q → k < candidate.rankLevel := by
      intro candidate hmem htext
      obtain ⟨hsame, rise, hoffers, hlevel⟩ := hcandidates candidate hmem
      rw [← hsame, htext] at hoffers
      have hlt := hq rise hoffers
      omega
    exact idxOf_matchOrder_lt hlow hhigh
  refine ⟨hgeneral, ?_⟩
  intro own p q hown hp hq
  exact hgeneral p q 0 ⟨name, own, .refl, hown, hp⟩ hq

/-- A catch-all behind an inclusion is tried before a heavy pattern that is inherited, although the
inherited topic leads back to the first one. -/
theorem order_publish_tries_included_catch_all_first :
    let near : Topic := { name := ['a'], includes := [['b']] }
    let middle : Topic :=
      { name := ['b'], triggers := [{ topic := ['b'], key := ⟨['*'], none⟩ }], inherits := [['c']] }
    let far : Topic :=
      { name := ['c']
        triggers := [{ topic := ['c'], key := ⟨"hello\x7bweight=100\x7d".toList, none⟩ }]
        includes := [['a'], ['d']] }
    let persona : Persona := { Persona.new 50 with graph := ⟨[near, middle, far]⟩ }
    let order := persona.publish.order ['a']
    persona.graph.Untagged ∧ order.idxOf ['*'] < order.idxOf "hello\x7bweight=100\x7d".toList := by
  intro near middle far persona order
  have huntagged : persona.graph.Untagged := by
    decide
  have hp : persona.graph.OffersAt ['a'] 0 ['*'] := by
    have hedge : persona.graph.EdgeBy .includes ['a'] ['b'] :=
      ⟨near, by decide, by decide⟩
    have hclimb : persona.graph.Climbs ['a'] 0 ['b'] := .tail .refl hedge
    exact ⟨['b'], middle, hclimb, by decide, by decide⟩
  -- without climbing, the walk stays in the first two topics
  have hlevel : ∀ {rise visited}, persona.graph.Climbs ['a'] rise visited → rise = 0 →
      visited = ['a'] ∨ visited = ['b'] := by
    intro rise visited hclimb
    induction hclimb with
    | refl => exact fun _ => .inl rfl
    | @tail rise middle target relation _ hlast ih =>
      intro hzero
      obtain ⟨source, hsource, hedge⟩ := hlast
      cases relation with
      | inherits => cases hzero
      | includes =>
        rcases ih (by simpa [Topic.Relation.rise] using hzero) with rfl | rfl
        · obtain rfl : near = source := Option.some.inj hsource
          exact .inr (by simpa [near, Topic.edges] using hedge)
        · obtain rfl : middle = source := Option.some.inj hsource
          simp [middle, Topic.edges] at hedge
  have hq : ∀ rise, persona.graph.OffersAt ['a'] rise "hello\x7bweight=100\x7d".toList →
      0 < rise := by
    rintro rise ⟨visited, owner, hclimb, howner, hpattern⟩
    rcases Nat.eq_zero_or_pos rise with hzero | hpos
    · rcases hlevel hclimb hzero with rfl | rfl
      · obtain rfl : near = owner := Option.some.inj howner
        exact absurd hpattern (by decide)
      · obtain rfl : middle = owner := Option.some.inj howner
        exact absurd hpattern (by decide)
    · exact hpos
  exact ⟨huntagged, (order_publish_tries_lower_climbs_first persona ['a'] huntagged).1 _ _ 0 hp hq⟩

end DialogueScript

import DialogueScript.Bot
import DialogueScript.Proofs.VisiblePatterns
import Mathlib.Data.List.Chain

/-!
# Cycles of topics

A walk is cut where it would return to a topic of its own path, so every cut closes a cycle.  A
topic that reaches itself does so on a path without any other return, which the walk from that topic
follows to its end.  Therefore the topics that are reported are those that reach themselves, each of
them once and with a walk that shows it.
-/

namespace DialogueScript

namespace Graph

variable {graph : Graph}

/-! ## Cuts close cycles -/

theorem isChain_of_cut
    {path walk : List Text} {name last : Text} {level : Nat} {inherited : Bool}
    (hcut : .cut walk last ∈ graph.explore path name level inherited)
    (hpath : (path ++ [name]).IsChain graph.Edge) :
    (walk ++ [last]).IsChain graph.Edge ∧ last ∈ walk := by
  fun_induction graph.explore path name level inherited with
  | case1 path name level inherited hname =>
    obtain ⟨rfl, rfl⟩ : walk = path ∧ last = name := by
      simpa using hcut
    exact ⟨hpath, hname⟩
  | case2 path name level inherited hname htopic => cases hcut
  | case3 path name level inherited hname topic htopic inherited' ihIncludes ihInherits =>
    have hnext : ∀ next ∈ topic.targets, (path ++ [name] ++ [next]).IsChain graph.Edge := by
      intro next hnext
      have hedge : graph.Edge name next := ⟨topic, htopic, hnext⟩
      refine hpath.append (List.isChain_singleton next) ?_
      simpa using hedge
    simp only [List.mem_append, List.mem_flatMap, List.mem_singleton, reduceCtorEq, or_false]
      at hcut
    rcases hcut with ⟨next, hmem, hcut⟩ | ⟨next, hmem, hcut⟩
    · exact ihIncludes next hcut (hnext next (List.mem_append_left _ hmem))
    · exact ihInherits next hcut (hnext next (List.mem_append_right _ hmem))

theorem transGen_of_isChain
    {walk : List Text} {last : Text} (hchain : (walk ++ [last]).IsChain graph.Edge)
    (hlast : last ∈ walk) :
    Relation.TransGen graph.Edge last last := by
  have hpairs : (walk ++ [last]).Pairwise (Relation.TransGen graph.Edge) :=
    (hchain.imp fun _ _ hedge => .single hedge).pairwise
  exact (List.pairwise_append.mp hpairs).2.2 last hlast last (List.mem_singleton_self last)

/-! ## Cycles are cut -/

/-- A walk along the path arrives at `name`, and returns to `origin` there or later on, without any
other return. -/
def Returns (graph : Graph) (path : List Text) (name origin : Text) : Prop :=
  name ∈ path ∧ name = origin ∨
    name ∉ path ∧ origin ∈ path ++ [name] ∧
      ∃ visited, graph.ReachesOutside path name visited ∧ graph.Edge visited origin

theorem returns_of_transGen {name : Text} (hcycle : Relation.TransGen graph.Edge name name) :
    graph.Returns [] name name := by
  obtain ⟨visited, hreach, hedge⟩ := Relation.TransGen.tail'_iff.mp hcycle
  exact .inr ⟨List.not_mem_nil, by simp, visited, reachesOutside_nil.mpr hreach, hedge⟩

theorem Returns.exists_next
    {path : List Text} {name origin : Text} {topic : Topic}
    (hreturns : graph.Returns path name origin) (hname : name ∉ path)
    (htopic : graph.topic? name = some topic) :
    ∃ next ∈ topic.targets, graph.Returns (path ++ [name]) next origin := by
  rcases hreturns with ⟨hpath, -⟩ | ⟨-, horigin, hvisited⟩
  · exact absurd hpath hname
  rcases (exists_reachesOutside_iff hname htopic).mp hvisited with hedge | hnext
  · obtain ⟨source, hsource, htarget⟩ := hedge
    obtain rfl : source = topic := Option.some.inj (hsource.symm.trans htopic)
    exact ⟨origin, htarget, .inl ⟨horigin, rfl⟩⟩
  · obtain ⟨next, hnext, houtside, hvisited⟩ := hnext
    exact ⟨next, hnext, .inr ⟨houtside, List.mem_append_left _ horigin, hvisited⟩⟩

theorem exists_cut_of_returns
    {path : List Text} {name origin : Text} {level : Nat} {inherited : Bool}
    (hreturns : graph.Returns path name origin) :
    ∃ walk, .cut walk origin ∈ graph.explore path name level inherited := by
  fun_induction graph.explore path name level inherited with
  | case1 path name level inherited hname =>
    rcases hreturns with ⟨-, rfl⟩ | ⟨hnew, -⟩
    · exact ⟨path, List.mem_singleton_self _⟩
    · exact absurd hname hnew
  | case2 path name level inherited hname htopic =>
    rcases hreturns with ⟨hpath, -⟩ | ⟨-, -, visited, hreach, topic, hvisited, -⟩
    · exact absurd hpath hname
    · rw [eq_of_reachesOutside htopic hreach, htopic] at hvisited
      cases hvisited
  | case3 path name level inherited hname topic htopic inherited' ihIncludes ihInherits =>
    obtain ⟨next, hnext, hreturns⟩ := hreturns.exists_next hname htopic
    rcases List.mem_append.mp hnext with hnext | hnext
    · obtain ⟨walk, hwalk⟩ := ihIncludes next hreturns
      exact ⟨walk, List.mem_append_left _
        (List.mem_append_left _ (List.mem_flatMap.mpr ⟨next, hnext, hwalk⟩))⟩
    · obtain ⟨walk, hwalk⟩ := ihInherits next hreturns
      exact ⟨walk, List.mem_append_left _
        (List.mem_append_right _ (List.mem_flatMap.mpr ⟨next, hnext, hwalk⟩))⟩

/-! ## The cycles that are kept -/

/-- The cycles that the walks from all topics meet. -/
def metCycles (graph : Graph) : List Cycle :=
  graph.topics.flatMap fun topic =>
    (graph.visits topic.name).filterMap fun
      | .gather _ _ => none
      | .cut path name => some { topic := name, path := path ++ [name] }

/-- Of the cycles that return to one topic, the first is kept. -/
def keepCycle (found : List Cycle) (cycle : Cycle) : List Cycle :=
  if found.any (·.topic = cycle.topic) then found else found ++ [cycle]

theorem cycles_eq_foldl (graph : Graph) : graph.cycles = graph.metCycles.foldl keepCycle [] :=
  rfl

theorem mem_metCycles {cycle : Cycle} :
    cycle ∈ graph.metCycles ↔ ∃ topic ∈ graph.topics, ∃ walk last,
      .cut walk last ∈ graph.visits topic.name ∧ cycle = ⟨last, walk ++ [last]⟩ := by
  simp only [metCycles, List.mem_flatMap, List.mem_filterMap]
  constructor
  · rintro ⟨topic, htopic, visit, hvisit, hcycle⟩
    cases visit with
    | gather owner level => cases hcycle
    | cut walk last => exact ⟨topic, htopic, walk, last, hvisit, (Option.some.inj hcycle).symm⟩
  · rintro ⟨topic, htopic, walk, last, hvisit, rfl⟩
    exact ⟨topic, htopic, _, hvisit, rfl⟩

theorem any_topic_iff {found : List Cycle} {name : Text} :
    found.any (·.topic = name) ↔ name ∈ found.map (·.topic) := by
  simp

theorem nodup_foldl_keepCycle
    {found : List Cycle} (hfound : (found.map (·.topic)).Nodup) (met : List Cycle) :
    ((met.foldl keepCycle found).map (·.topic)).Nodup := by
  induction met generalizing found with
  | nil => exact hfound
  | cons cycle met ih =>
    rw [List.foldl_cons]
    apply ih
    unfold keepCycle
    split
    · exact hfound
    · rename_i hnew
      rw [any_topic_iff] at hnew
      rw [List.map_append, List.map_singleton, ← List.concat_eq_append]
      exact hfound.concat hnew

theorem mem_or_mem_of_mem_foldl_keepCycle
    {found met : List Cycle} {cycle : Cycle} (hcycle : cycle ∈ met.foldl keepCycle found) :
    cycle ∈ found ∨ cycle ∈ met := by
  induction met generalizing found with
  | nil => exact .inl hcycle
  | cons first met ih =>
    rcases ih hcycle with hkept | hmet
    · unfold keepCycle at hkept
      split at hkept
      · exact .inl hkept
      · rcases List.mem_append.mp hkept with hkept | hkept
        · exact .inl hkept
        · exact .inr (List.mem_singleton.mp hkept ▸ List.mem_cons_self)
    · exact .inr (List.mem_cons_of_mem _ hmet)

theorem topic_mem_foldl_keepCycle
    {found met : List Cycle} {name : Text}
    (hname : name ∈ found.map (·.topic) ∨ name ∈ met.map (·.topic)) :
    name ∈ (met.foldl keepCycle found).map (·.topic) := by
  induction met generalizing found with
  | nil => exact hname.resolve_right List.not_mem_nil
  | cons cycle met ih =>
    rw [List.foldl_cons]
    apply ih
    rw [List.map_cons, List.mem_cons, or_left_comm] at hname
    rcases hname with rfl | hname
    · left
      unfold keepCycle
      split
      · exact any_topic_iff.mp ‹_›
      · simp
    · refine hname.imp_left fun hfound => ?_
      unfold keepCycle
      split
      · exact hfound
      · rw [List.map_append]
        exact List.mem_append_left _ hfound

/-! ## What is reported -/

theorem nodup_cycles (graph : Graph) : (graph.cycles.map (·.topic)).Nodup := by
  rw [cycles_eq_foldl]
  exact nodup_foldl_keepCycle (by simp) graph.metCycles

/-- A reported path follows edges, and ends at the reported topic, where it has been before. -/
theorem isChain_of_mem_cycles {cycle : Cycle} (hcycle : cycle ∈ graph.cycles) :
    cycle.path.IsChain graph.Edge ∧
      ∃ walk, cycle.path = walk ++ [cycle.topic] ∧ cycle.topic ∈ walk := by
  have hmet : cycle ∈ graph.metCycles :=
    (mem_or_mem_of_mem_foldl_keepCycle hcycle).resolve_left List.not_mem_nil
  obtain ⟨topic, -, walk, last, hcut, rfl⟩ := mem_metCycles.mp hmet
  obtain ⟨hchain, hlast⟩ := isChain_of_cut hcut (List.isChain_singleton _)
  exact ⟨hchain, walk, rfl, hlast⟩

/-- The reported topics are those that reach themselves. -/
theorem exists_mem_cycles_iff {name : Text} :
    (∃ cycle ∈ graph.cycles, cycle.topic = name) ↔ Relation.TransGen graph.Edge name name := by
  constructor
  · rintro ⟨cycle, hcycle, rfl⟩
    obtain ⟨hchain, walk, hpath, hlast⟩ := isChain_of_mem_cycles hcycle
    rw [hpath] at hchain
    exact transGen_of_isChain hchain hlast
  · intro hcycle
    obtain ⟨next, ⟨topic, htopic, -⟩, -⟩ := Relation.TransGen.head'_iff.mp hcycle
    obtain ⟨hmem, rfl⟩ := topic?_name htopic
    obtain ⟨walk, hcut⟩ : ∃ walk, .cut walk topic.name ∈ graph.visits topic.name :=
      exists_cut_of_returns (returns_of_transGen hcycle)
    have hmet : topic.name ∈ graph.metCycles.map (·.topic) :=
      List.mem_map.mpr ⟨_, mem_metCycles.mpr ⟨topic, hmem, walk, topic.name, hcut, rfl⟩, rfl⟩
    exact List.mem_map.mp (topic_mem_foldl_keepCycle (.inr hmet))

end Graph

/-- Sorting reports the topics of the draft that reach themselves, each of them once and with a walk
along edges that returns to it.  It succeeds when there is none, and otherwise fails with one of
them. -/
theorem sort_reports_topics_on_cycles (bot : Bot) :
    let graph := bot.mind.draft.graph
    let cycles := bot.sort.1.mind.live.persona.graph.cycles
    (cycles.map (·.topic)).Nodup ∧
    (∀ name, (∃ cycle ∈ cycles, cycle.topic = name) ↔ Relation.TransGen graph.Edge name name) ∧
    (∀ cycle ∈ cycles, cycle.path.IsChain graph.Edge ∧
      ∃ walk, cycle.path = walk ++ [cycle.topic] ∧ cycle.topic ∈ walk) ∧
    ((∃ cycle ∈ cycles, bot.sort.2 = .error (.cyclic cycle)) ↔
      ∃ name, Relation.TransGen graph.Edge name name) ∧
    (bot.sort.2 = .ok () ↔ ∀ name, ¬ Relation.TransGen graph.Edge name name) := by
  intro graph cycles
  have hedge : bot.sort.1.mind.live.persona.graph.Edge = graph.Edge := Graph.edge_link
  have hreported : ∀ name, (∃ cycle ∈ cycles, cycle.topic = name) ↔
      Relation.TransGen graph.Edge name name := by
    intro name
    rw [← hedge]
    exact Graph.exists_mem_cycles_iff
  have hwalks : ∀ cycle ∈ cycles, cycle.path.IsChain graph.Edge ∧
      ∃ walk, cycle.path = walk ++ [cycle.topic] ∧ cycle.topic ∈ walk := by
    intro cycle hcycle
    rw [← hedge]
    exact Graph.isChain_of_mem_cycles hcycle
  have hsort : bot.sort.2 =
      cycles.head?.elim (.ok ()) fun cycle => .error (.cyclic cycle) := by
    simp only [cycles, Bot.sort]
    cases bot.mind.publish.live.persona.graph.cycles.head? <;> rfl
  refine ⟨Graph.nodup_cycles _, hreported, hwalks, ?_⟩
  cases hfirst : cycles.head? with
  | none =>
    have hnone : ∀ name, ¬ Relation.TransGen graph.Edge name name := by
      intro name hcycle
      obtain ⟨cycle, hmem, -⟩ := (hreported name).mpr hcycle
      rw [List.head?_eq_none_iff.mp hfirst] at hmem
      cases hmem
    rw [hfirst] at hsort
    simp [hsort, hnone]
  | some cycle =>
    have hmem : cycle ∈ cycles := List.mem_of_head? hfirst
    have hcycle := (hreported cycle.topic).mp ⟨cycle, hmem, rfl⟩
    rw [hfirst] at hsort
    constructor
    · exact iff_of_true ⟨cycle, hmem, hsort⟩ ⟨cycle.topic, hcycle⟩
    · refine iff_of_false ?_ fun hnone => hnone cycle.topic hcycle
      rw [hsort]
      exact fun hok => by cases hok

end DialogueScript

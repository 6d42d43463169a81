import DialogueScript.Topic.Walk
import Mathlib.Logic.Relation

/-!
# Reachable topics

A walk through the graph is cut only where it would return to its own path.  A topic that is
reachable at all is reachable without such a return, so the walk gathers every reachable topic and
no other one.
-/

namespace DialogueScript

namespace Graph

/-- `target` is named by the first topic called `source`. -/
def Edge (graph : Graph) (source target : Text) : Prop :=
  ∃ topic, graph.topic? source = some topic ∧ target ∈ topic.targets

def Reaches (graph : Graph) : Text → Text → Prop :=
  Relation.ReflTransGen graph.Edge

/-- Reachable along edges that lead to no topic of the path. -/
def ReachesOutside (graph : Graph) (path : List Text) : Text → Text → Prop :=
  Relation.ReflTransGen fun source target => graph.Edge source target ∧ target ∉ path

theorem reachesOutside_nil {graph : Graph} {source target : Text} :
    graph.ReachesOutside [] source target ↔ graph.Reaches source target := by
  simp [ReachesOutside, Reaches]

theorem ReachesOutside.of_append
    {graph : Graph} {path later : List Text} {source target : Text}
    (hreach : graph.ReachesOutside (path ++ later) source target) :
    graph.ReachesOutside path source target := by
  induction hreach with
  | refl => exact .refl
  | tail _ hstep ih =>
    exact ih.tail ⟨hstep.1, fun hmem => hstep.2 (List.mem_append_left later hmem)⟩

/-- Behind its last return to `source`, a walk never comes back to it. -/
theorem ReachesOutside.eq_or_edge
    {graph : Graph} {path : List Text} {source target : Text}
    (hreach : graph.ReachesOutside path source target) :
    target = source ∨ ∃ next, graph.Edge source next ∧ next ∉ path ++ [source] ∧
      graph.ReachesOutside (path ++ [source]) next target := by
  induction hreach with
  | refl => exact .inl rfl
  | @tail middle target hreach hstep ih =>
    by_cases htarget : target = source
    · exact .inl htarget
    · have houtside : target ∉ path ++ [source] := by
        simp [hstep.2, htarget]
      right
      rcases ih with rfl | ⟨next, hedge, hnext, hrest⟩
      · exact ⟨target, hstep.1, houtside, .refl⟩
      · exact ⟨next, hedge, hnext, hrest.tail ⟨hstep.1, houtside⟩⟩

theorem exists_reachesOutside_iff
    {graph : Graph} {path : List Text} {name : Text} {topic : Topic} {p : Text → Prop}
    (hname : name ∉ path) (htopic : graph.topic? name = some topic) :
    (∃ visited, graph.ReachesOutside path name visited ∧ p visited) ↔
      p name ∨ ∃ next ∈ topic.targets, next ∉ path ++ [name] ∧
        ∃ visited, graph.ReachesOutside (path ++ [name]) next visited ∧ p visited := by
  constructor
  · rintro ⟨visited, hreach, hvisited⟩
    rcases hreach.eq_or_edge with rfl | ⟨next, ⟨source, hsource, hnext⟩, houtside, hrest⟩
    · exact .inl hvisited
    · obtain rfl : source = topic := Option.some.inj (hsource.symm.trans htopic)
      exact .inr ⟨next, hnext, houtside, visited, hrest, hvisited⟩
  · rintro (hvisited | ⟨next, hnext, houtside, visited, hrest, hvisited⟩)
    · exact ⟨name, .refl, hvisited⟩
    · have hedge : graph.Edge name next := ⟨topic, htopic, hnext⟩
      have hpath : next ∉ path := fun hmem => houtside (List.mem_append_left _ hmem)
      exact ⟨visited, .head ⟨hedge, hpath⟩ hrest.of_append, hvisited⟩

theorem eq_of_reachesOutside
    {graph : Graph} {path : List Text} {source target : Text}
    (hsource : graph.topic? source = none) (hreach : graph.ReachesOutside path source target) :
    target = source := by
  rcases hreach.eq_or_edge with heq | ⟨next, ⟨topic, htopic, -⟩, -, -⟩
  · exact heq
  · simp [hsource] at htopic

theorem not_exists_reachesOutside
    {graph : Graph} {path : List Text} {name : Text} {owner : Topic}
    (hname : graph.topic? name = none) :
    ¬ ∃ visited, graph.ReachesOutside path name visited ∧ graph.topic? visited = some owner := by
  rintro ⟨visited, hreach, hvisited⟩
  rw [eq_of_reachesOutside hname hreach, hname] at hvisited
  cases hvisited

/-! ## What a walk gathers -/

/-- A walk gathers what is reachable off its path. -/
theorem exists_gather_explore_iff
    {graph : Graph} {path : List Text} {name : Text} {owner : Topic}
    {level : Nat} {inherited : Bool} :
    (∃ l, .gather owner l ∈ graph.explore path name level inherited) ↔
      name ∉ path ∧
        ∃ visited, graph.ReachesOutside path name visited ∧ graph.topic? visited = some owner := by
  fun_induction graph.explore path name level inherited with
  | case1 path name level inherited hpath =>
    simp [hpath]
  | case2 path name level inherited hpath htopic =>
    simp [not_exists_reachesOutside htopic]
  | case3 path name level inherited hpath topic htopic inherited' ihIncludes ihInherits =>
    rw [and_iff_right hpath, exists_reachesOutside_iff hpath htopic, htopic, Option.some.injEq]
    constructor
    · rintro ⟨l, hl⟩
      simp only [List.mem_append, List.mem_flatMap, List.mem_singleton, Visit.gather.injEq] at hl
      rcases hl with (⟨next, hnext, hl⟩ | ⟨next, hnext, hl⟩) | ⟨howner, -⟩
      · exact .inr ⟨next, List.mem_append_left _ hnext, (ihIncludes next).mp ⟨l, hl⟩⟩
      · exact .inr ⟨next, List.mem_append_right _ hnext, (ihInherits next).mp ⟨l, hl⟩⟩
      · exact .inl howner.symm
    · rintro (rfl | ⟨next, hnext, hvisited⟩)
      · exact ⟨_, List.mem_append_right _ List.mem_cons_self⟩
      · rcases List.mem_append.mp hnext with hnext | hnext
        · obtain ⟨l, hl⟩ := (ihIncludes next).mpr hvisited
          exact ⟨l, List.mem_append_left _
            (List.mem_append_left _ (List.mem_flatMap.mpr ⟨next, hnext, hl⟩))⟩
        · obtain ⟨l, hl⟩ := (ihInherits next).mpr hvisited
          exact ⟨l, List.mem_append_left _
            (List.mem_append_right _ (List.mem_flatMap.mpr ⟨next, hnext, hl⟩))⟩

theorem exists_gather_visits_iff {graph : Graph} {name : Text} {owner : Topic} :
    (∃ l, .gather owner l ∈ graph.visits name) ↔
      ∃ visited, graph.Reaches name visited ∧ graph.topic? visited = some owner := by
  simp [visits, exists_gather_explore_iff, reachesOutside_nil]

end Graph

end DialogueScript

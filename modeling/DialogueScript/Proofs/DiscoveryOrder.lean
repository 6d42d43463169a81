import DialogueScript.Proofs.FirstPlaces
import DialogueScript.Proofs.TopicFamily

/-!
# The order of discovery

A walk that remembers no more than its own path comes to a topic as often as paths lead there.  A
walk that also passes over what it has seen elsewhere discovers the same topics in the same order:
when it leaves a topic for good it has followed all edges of the topic, so nothing that lies behind
a topic off its path is left to be discovered.
-/

namespace DialogueScript

namespace Graph

variable {graph : Graph} {path seen pending found : List Text} {name : Text}

/-! ## Walks that remember their path -/

/-- The names that a depth-first walk from `name` on comes to.  It enters no topic of its path
again, and every other one as often as an edge leads there. -/
def arrivals (graph : Graph) (path : List Text) (name : Text) : List Text :=
  if _hpath : name ∈ path then []
  else
    match _htopic : graph.topic? name with
    | none => [name]
    | some topic => name :: topic.targets.flatMap fun next => arrivals graph (path ++ [name]) next
termination_by graph.unvisited path
decreasing_by exact Nat.lt_of_le_of_lt (Nat.le_add_right _ _) (unvisited_append_lt ‹_› ‹_›)

theorem arrivals_of_not_mem (hpath : name ∉ path) :
    graph.arrivals path name =
      name :: (graph.targetsOf name).flatMap (graph.arrivals (path ++ [name])) := by
  rw [arrivals, dif_neg hpath]
  unfold targetsOf
  split <;> simp [*]

/-! ## What is left for good -/

/-- Whatever has been seen and is not on the path was left with all its edges followed. -/
def Finished (graph : Graph) (path seen : List Text) : Prop :=
  ∀ name ∈ seen, name ∉ path → ∀ next ∈ graph.targetsOf name, next ∈ seen

theorem Finished.enter (hfinished : graph.Finished path seen) (name : Text) :
    graph.Finished (path ++ [name]) (seen ++ [name]) := by
  intro visited hvisited hoff next hnext
  rw [List.mem_append, not_or] at hoff
  have hold : visited ∈ seen := (List.mem_append.mp hvisited).resolve_right hoff.2
  exact List.mem_append_left _ (hfinished visited hold hoff.1 next hnext)

theorem Finished.leave
    (hfinished : graph.Finished (path ++ [name]) seen)
    (hedges : ∀ next ∈ graph.targetsOf name, next ∈ seen) :
    graph.Finished path seen := by
  intro visited hvisited hoff next hnext
  by_cases hname : visited = name
  · subst hname
    exact hedges next hnext
  · have hpath : visited ∉ path ++ [name] := by
      simp [hoff, hname]
    exact hfinished visited hvisited hpath next hnext

/-- Behind a topic that has been seen, a walk along the path comes to nothing new. -/
theorem Finished.mem_of_mem_arrivals
    (hfinished : graph.Finished path seen) (hname : name ∈ seen) :
    ∀ visited ∈ graph.arrivals path name, visited ∈ seen := by
  intro visited hvisited
  fun_induction graph.arrivals path name with
  | case1 path name hpath => cases hvisited
  | case2 path name hpath htopic => exact List.mem_singleton.mp hvisited ▸ hname
  | case3 path name hpath topic htopic ih =>
    rcases List.mem_cons.mp hvisited with rfl | hbehind
    · exact hname
    · obtain ⟨next, hnext, hvisited⟩ := List.mem_flatMap.mp hbehind
      have hseen : next ∈ seen :=
        hfinished name hname hpath next (edge_iff_mem_targetsOf.mp ⟨topic, htopic, hnext⟩)
      have hlonger : graph.Finished (path ++ [name]) seen := by
        intro other hother hoff
        exact hfinished other hother fun hmem => hoff (List.mem_append_left _ hmem)
      exact ih next hlonger hseen hvisited

/-! ## Discovery -/

theorem Discovers.mem_of_mem_pending (hdiscovers : graph.Discovers seen pending found) :
    ∀ name ∈ pending, name ∈ seen ++ found := by
  induction hdiscovers with
  | done seen => simp
  | @again seen pending found name hseen _ ih =>
    intro other hother
    rcases List.mem_cons.mp hother with rfl | hpending
    · exact List.mem_append_left _ hseen
    · exact ih other hpending
  | @first seen pending inside found name _ _ _ _ ih =>
    intro other hother
    rcases List.mem_cons.mp hother with rfl | hpending
    · simp
    · simpa using ih other hpending

theorem Discovers.finished
    (hdiscovers : graph.Discovers seen pending found) (hfinished : graph.Finished path seen) :
    graph.Finished path (seen ++ found) := by
  induction hdiscovers generalizing path with
  | done seen => simpa using hfinished
  | again _ _ ih => exact ih hfinished
  | @first seen pending inside found name _ hinside _ ihInside ihRest =>
    have hleft : graph.Finished path (seen ++ [name] ++ inside) :=
      (ihInside (hfinished.enter name)).leave hinside.mem_of_mem_pending
    simpa using ihRest (by simpa using hleft)

/-- What is discovered is what the walks along the path come to, without what was seen before, each
name where they come to it first. -/
theorem Discovers.append_eq_eraseDups
    (hdiscovers : graph.Discovers seen pending found) (hfinished : graph.Finished path seen)
    (hpath : ∀ name ∈ path, name ∈ seen) (hseen : seen.Nodup) :
    seen ++ found = (seen ++ pending.flatMap (graph.arrivals path)).eraseDups := by
  induction hdiscovers generalizing path with
  | done seen => simp [eraseDups_eq_self hseen]
  | @again seen pending found name hname _ ih =>
    rw [List.flatMap_cons,
      eraseDups_append_append_of_subset (hfinished.mem_of_mem_arrivals hname)]
    exact ih hfinished hpath hseen
  | @first seen pending inside found name hnew hinside _ ihInside ihRest =>
    have hentered : ∀ other ∈ path ++ [name], other ∈ seen ++ [name] := by
      intro other hother
      rcases List.mem_append.mp hother with hmem | hmem
      · exact List.mem_append_left _ (hpath other hmem)
      · exact List.mem_append_right _ hmem
    have hnodup : (seen ++ [name]).Nodup := by
      rw [← List.concat_eq_append]
      exact hseen.concat hnew
    have hinner : seen ++ name :: inside = (seen ++ graph.arrivals path name).eraseDups := by
      rw [arrivals_of_not_mem fun hmem => hnew (hpath name hmem)]
      simpa using ihInside (hfinished.enter name) hentered hnodup
    have hleft : graph.Finished path (seen ++ name :: inside) := by
      simpa using (hinside.finished (hfinished.enter name)).leave hinside.mem_of_mem_pending
    have hpath' : ∀ other ∈ path, other ∈ seen ++ name :: inside :=
      fun other hmem => List.mem_append_left _ (hpath other hmem)
    have hnodup' : (seen ++ name :: inside).Nodup := by
      rw [hinner]
      exact nodup_eraseDups _
    calc
      seen ++ (name :: inside ++ found) = seen ++ name :: inside ++ found :=
        (List.append_assoc _ _ _).symm
      _ = (seen ++ name :: inside ++ pending.flatMap (graph.arrivals path)).eraseDups :=
        ihRest hleft hpath' hnodup'
      _ = (seen ++ (name :: pending).flatMap (graph.arrivals path)).eraseDups := by
        rw [hinner, eraseDups_eraseDups_append, List.flatMap_cons, List.append_assoc]

theorem Discovers.eq_eraseDups_arrivals (hdiscovers : graph.Discovers [] [name] found) :
    found = (graph.arrivals [] name).eraseDups := by
  have hfinished : graph.Finished [] [] := by
    intro visited hvisited
    cases hvisited
  simpa using hdiscovers.append_eq_eraseDups hfinished (by simp) List.nodup_nil

/-- The family of a topic begins with the topic itself and lists every reachable name once.  It is
the only list that a depth-first walk discovers when it passes over what it has seen, and it has
the names that the walk without such memory comes to, each at its first place. -/
theorem family_lists_first_discoveries (graph : Graph) (name : Text) :
    (graph.family name).head? = some name ∧
    (graph.family name).Nodup ∧
    (∀ visited, visited ∈ graph.family name ↔ graph.Reaches name visited) ∧
    (∀ found, graph.Discovers [] [name] found ↔ found = graph.family name) ∧
    graph.family name = (graph.arrivals [] name).eraseDups := by
  have hfamily : graph.family name = (graph.arrivals [] name).eraseDups :=
    (graph.discovers_family name).eq_eraseDups_arrivals
  refine ⟨?_, graph.nodup_family name, fun visited => mem_family_iff, ?_, hfamily⟩
  · rw [hfamily, arrivals_of_not_mem List.not_mem_nil, List.eraseDups_cons, List.head?_cons]
  · intro found
    constructor
    · intro hdiscovers
      rw [hdiscovers.eq_eraseDups_arrivals, hfamily]
    · rintro rfl
      exact graph.discovers_family name

/-- Two lines meet in `c`, one leads back, and nothing declares `d`. -/
example :
    let graph : Graph :=
      ⟨[{ name := ['a'], includes := [['b']], inherits := [['e'], ['c']] },
        { name := ['b'], inherits := [['c'], ['a']] },
        { name := ['c'], includes := [['c'], ['d']] },
        { name := ['e'], includes := [['b']] }]⟩
    graph.family ['a'] = [['a'], ['b'], ['c'], ['d'], ['e']] := by
  decide +kernel

end Graph

end DialogueScript

import DialogueScript.Proofs.Reachability

/-!
# The family of a topic

A depth-first walk follows the edges of a topic, includes before inherits, and passes over what it
has seen on any of its paths.  It discovers every reachable topic once.
-/

namespace DialogueScript

namespace Graph

/-- Where the edges of a topic lead, in the order in which they are followed. -/
def targetsOf (graph : Graph) (name : Text) : List Text :=
  ((graph.topic? name).map Topic.targets).getD []

theorem edge_iff_mem_targetsOf {graph : Graph} {source target : Text} :
    graph.Edge source target ↔ target ∈ graph.targetsOf source := by
  cases htopic : graph.topic? source <;> simp [Edge, targetsOf, htopic]

/-- What a depth-first walk finds from the pending names on, when it has seen others before. -/
inductive Discovers (graph : Graph) : List Text → List Text → List Text → Prop
  | done (seen : List Text) : Discovers graph seen [] []
  | again {seen pending found : List Text} {name : Text} (hseen : name ∈ seen)
      (hrest : Discovers graph seen pending found) :
    Discovers graph seen (name :: pending) found
  | first {seen pending inside found : List Text} {name : Text} (hnew : name ∉ seen)
      (hinside : Discovers graph (seen ++ [name]) (graph.targetsOf name) inside)
      (hrest : Discovers graph (seen ++ name :: inside) pending found) :
    Discovers graph seen (name :: pending) (name :: inside ++ found)

theorem Discovers.of_append
    {graph : Graph} {seen pending later found : List Text}
    (hfound : graph.Discovers seen (pending ++ later) found) :
    ∃ first rest, found = first ++ rest ∧ graph.Discovers seen pending first ∧
      graph.Discovers (seen ++ first) later rest := by
  generalize hall : pending ++ later = all at hfound
  induction hfound generalizing pending with
  | done seen =>
    obtain ⟨rfl, rfl⟩ := List.append_eq_nil_iff.mp hall
    exact ⟨[], [], rfl, .done _, .done _⟩
  | @again seen remaining found name hseen hrest ih =>
    cases pending with
    | nil =>
      subst hall
      exact ⟨[], found, rfl, .done _, by simpa using hrest.again hseen⟩
    | cons first pending =>
      obtain ⟨rfl, rfl⟩ := List.cons.inj hall
      obtain ⟨front, rest, rfl, hfront, hback⟩ := ih rfl
      exact ⟨front, rest, rfl, hfront.again hseen, hback⟩
  | @first seen remaining inside found name hnew hinside hrest _ ih =>
    cases pending with
    | nil =>
      subst hall
      exact ⟨[], _, rfl, .done _, by simpa using hinside.first hnew hrest⟩
    | cons first pending =>
      obtain ⟨rfl, rfl⟩ := List.cons.inj hall
      obtain ⟨front, rest, rfl, hfront, hback⟩ := ih rfl
      refine ⟨first :: inside ++ front, rest, by simp, hinside.first hnew hfront, ?_⟩
      simpa using hback

theorem discovers_discover (graph : Graph) (seen pending : List Text) :
    graph.Discovers seen pending (graph.discover seen pending) := by
  have hfirst : ∀ {seen pending found : List Text} {name : Text}, name ∉ seen →
      graph.Discovers (seen ++ [name]) (graph.targetsOf name ++ pending) found →
        graph.Discovers seen (name :: pending) (name :: found) := by
    intro seen pending found name hnew hfound
    obtain ⟨inside, rest, rfl, hinside, hrest⟩ := hfound.of_append
    exact hinside.first hnew (by simpa using hrest)
  fun_induction graph.discover seen pending with
  | case1 seen => exact .done seen
  | case2 seen name pending hseen ih => exact ih.again hseen
  | case3 seen name pending hnew htopic ih =>
    exact hfirst hnew (by simpa [targetsOf, htopic] using ih)
  | case4 seen name pending hnew topic htopic ih =>
    exact hfirst hnew (by simpa [targetsOf, htopic] using ih)

/-- A path either keeps clear of a name or passes it. -/
theorem ReachesOutside.avoids_or_passes
    {graph : Graph} {path : List Text} {source target : Text} (name : Text)
    (hreach : graph.ReachesOutside path source target) :
    graph.ReachesOutside (path ++ [name]) source target ∨
      graph.ReachesOutside path name target := by
  induction hreach with
  | refl => exact .inl .refl
  | @tail middle target hreach hstep ih =>
    by_cases htarget : target = name
    · subst htarget
      exact .inr .refl
    · rcases ih with havoids | hpasses
      · have houtside : target ∉ path ++ [name] := by
          simp [hstep.2, htarget]
        exact .inl (havoids.tail ⟨hstep.1, houtside⟩)
      · exact .inr (hpasses.tail hstep)

theorem ReachesOutside.not_mem
    {graph : Graph} {path : List Text} {source target : Text}
    (hreach : graph.ReachesOutside path source target) (hsource : source ∉ path) :
    target ∉ path := by
  cases hreach with
  | refl => exact hsource
  | tail _ hstep => exact hstep.2

/-- What is discovered behind a name: the name itself, and what comes from its edges or from the
other pending names without it. -/
theorem exists_reachesOutside_cons_iff
    {graph : Graph} {seen pending : List Text} {name target : Text} (hnew : name ∉ seen) :
    (∃ source ∈ name :: pending, source ∉ seen ∧ graph.ReachesOutside seen source target) ↔
      target = name ∨ ∃ source ∈ graph.targetsOf name ++ pending,
        source ∉ seen ++ [name] ∧ graph.ReachesOutside (seen ++ [name]) source target := by
  have hpasses : graph.ReachesOutside seen name target →
      target = name ∨ ∃ source ∈ graph.targetsOf name ++ pending,
        source ∉ seen ++ [name] ∧ graph.ReachesOutside (seen ++ [name]) source target := by
    intro hreach
    rcases hreach.eq_or_edge with heq | ⟨next, hedge, houtside, hrest⟩
    · exact .inl heq
    · exact .inr ⟨next, List.mem_append_left _ (edge_iff_mem_targetsOf.mp hedge), houtside, hrest⟩
  constructor
  · rintro ⟨source, hsource, hunseen, hreach⟩
    rcases List.mem_cons.mp hsource with rfl | hpending
    · exact hpasses hreach
    · by_cases hname : source = name
      · subst hname
        exact hpasses hreach
      · rcases hreach.avoids_or_passes name with havoids | hreach
        · refine .inr ⟨source, List.mem_append_right _ hpending, ?_, havoids⟩
          simp [hunseen, hname]
        · exact hpasses hreach
  · rintro (rfl | ⟨source, hsource, houtside, hreach⟩)
    · exact ⟨target, List.mem_cons_self, hnew, .refl⟩
    · have hunseen : source ∉ seen := fun hmem => houtside (List.mem_append_left _ hmem)
      rcases List.mem_append.mp hsource with htarget | hpending
      · have hedge : graph.Edge name source := edge_iff_mem_targetsOf.mpr htarget
        exact ⟨name, List.mem_cons_self, hnew, .head ⟨hedge, hunseen⟩ hreach.of_append⟩
      · exact ⟨source, List.mem_cons_of_mem _ hpending, hunseen, hreach.of_append⟩

theorem mem_discover_iff {graph : Graph} {seen pending : List Text} {target : Text} :
    target ∈ graph.discover seen pending ↔
      ∃ source ∈ pending, source ∉ seen ∧ graph.ReachesOutside seen source target := by
  fun_induction graph.discover seen pending with
  | case1 seen => simp
  | case2 seen name pending hseen ih => simp [ih, hseen]
  | case3 seen name pending hnew htopic ih =>
    rw [exists_reachesOutside_cons_iff hnew, List.mem_cons, ih, targetsOf, htopic]
    simp
  | case4 seen name pending hnew topic htopic ih =>
    rw [exists_reachesOutside_cons_iff hnew, List.mem_cons, ih, targetsOf, htopic]
    simp

theorem nodup_discover (graph : Graph) (seen pending : List Text) :
    (graph.discover seen pending).Nodup := by
  have hnone : ∀ (seen pending : List Text) (name : Text),
      name ∉ graph.discover (seen ++ [name]) pending := by
    intro seen pending name hmem
    obtain ⟨source, -, hunseen, hreach⟩ := mem_discover_iff.mp hmem
    exact hreach.not_mem hunseen (List.mem_append_right _ (List.mem_singleton_self name))
  fun_induction graph.discover seen pending with
  | case1 seen => exact List.nodup_nil
  | case2 seen name pending hseen ih => exact ih
  | case3 seen name pending hnew htopic ih => exact List.nodup_cons.mpr ⟨hnone _ _ _, ih⟩
  | case4 seen name pending hnew topic htopic ih => exact List.nodup_cons.mpr ⟨hnone _ _ _, ih⟩

/-! ## The family -/

theorem discovers_family (graph : Graph) (name : Text) :
    graph.Discovers [] [name] (graph.family name) :=
  graph.discovers_discover [] [name]

theorem mem_family_iff {graph : Graph} {name visited : Text} :
    visited ∈ graph.family name ↔ graph.Reaches name visited := by
  simp [family, mem_discover_iff, reachesOutside_nil]

theorem nodup_family (graph : Graph) (name : Text) : (graph.family name).Nodup :=
  graph.nodup_discover [] [name]

end Graph

end DialogueScript

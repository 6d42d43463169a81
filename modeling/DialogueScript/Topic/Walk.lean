import DialogueScript.Topic.Graph

/-!
# Walks through the topic graph

`explore` follows every edge from a topic, includes before inherits, and cuts a path where it
would return to itself: it lists the visits in the order in which their patterns are gathered, a
topic after those its edges lead to, together with the cuts.  `family` lists each reachable topic
once, in the order of discovery.  `lineage` lists the topics where an inherited trigger is looked
up.
-/

namespace DialogueScript

namespace Graph

/-- How many topics, and edges from them, are not on a path yet. -/
def unvisitedAmong (path : List Text) : List Topic → Nat
  | [] => 0
  | topic :: topics =>
    if topic.name ∈ path then unvisitedAmong path topics
    else topic.targets.length + 1 + unvisitedAmong path topics

def unvisited (graph : Graph) (path : List Text) : Nat :=
  unvisitedAmong path graph.topics

theorem unvisitedAmong_append_le (path : List Text) (name : Text) (topics : List Topic) :
    unvisitedAmong (path ++ [name]) topics ≤ unvisitedAmong path topics := by
  induction topics with
  | nil => exact Nat.le_refl _
  | cons topic topics ih =>
    by_cases hpath : topic.name ∈ path
    · simpa [unvisitedAmong, hpath] using ih
    · by_cases hname : topic.name = name
      · subst hname
        simp [unvisitedAmong, hpath]
        omega
      · simpa [unvisitedAmong, hpath, hname] using ih

theorem unvisitedAmong_append_lt {path : List Text} {topic : Topic} (hpath : topic.name ∉ path) :
    ∀ {topics : List Topic}, topic ∈ topics →
      unvisitedAmong (path ++ [topic.name]) topics + topic.targets.length <
        unvisitedAmong path topics
  | other :: topics, hmem => by
    rcases List.mem_cons.1 hmem with rfl | hmem
    · have hle := unvisitedAmong_append_le path topic.name topics
      simp [unvisitedAmong, hpath]
      omega
    · have hlt := unvisitedAmong_append_lt hpath hmem
      by_cases hother : other.name ∈ path
      · simpa [unvisitedAmong, hother] using hlt
      · by_cases hname : other.name = topic.name
        · simp [unvisitedAmong, hname, hpath]
          omega
        · simp [unvisitedAmong, hother, hname]
          omega

theorem topic?_name {graph : Graph} {name : Text} {topic : Topic}
    (h : graph.topic? name = some topic) : topic ∈ graph.topics ∧ topic.name = name :=
  ⟨List.mem_of_find?_eq_some h, by simpa using List.find?_some h⟩

/-- A path that grows by a topic of the graph leaves less to visit, even with the targets of that
topic. -/
theorem unvisited_append_lt {graph : Graph} {path : List Text} {name : Text} {topic : Topic}
    (h : graph.topic? name = some topic) (hpath : name ∉ path) :
    graph.unvisited (path ++ [name]) + topic.targets.length < graph.unvisited path := by
  obtain ⟨hmem, rfl⟩ := topic?_name h
  exact unvisitedAmong_append_lt hpath hmem

/-- The patterns of a topic are gathered at an inheritance level, or at none when the topic takes
part in no inheritance; or a path is cut before the name that it would return to. -/
inductive Visit where
  | gather (topic : Topic) (level : Option Nat)
  | cut (path : List Text) (name : Text)
deriving Repr, DecidableEq

/-- The visits from `name` on, along `path`; `inherited` tells that a step of the path takes part in
inheritance, and `level` counts its steps from heir to ancestor. -/
def explore (graph : Graph) (path : List Text) (name : Text) (level : Nat) (inherited : Bool) :
    List Visit :=
  if _hpath : name ∈ path then [.cut path name]
  else
    match _htopic : graph.topic? name with
    | none => []
    | some topic =>
      let inherited := !topic.inherits.isEmpty || inherited
      topic.includes.flatMap (fun next => explore graph (path ++ [name]) next level inherited)
        ++ topic.inherits.flatMap (fun next => explore graph (path ++ [name]) next (level + 1) true)
        ++ [.gather topic (if inherited then some level else none)]
termination_by graph.unvisited path
decreasing_by all_goals exact Nat.lt_of_le_of_lt (Nat.le_add_right _ _) (unvisited_append_lt ‹_› ‹_›)

def visits (graph : Graph) (name : Text) : List Visit :=
  explore graph [] name 0 false

/-- The names to visit, the next one first, without those seen before. -/
def discover (graph : Graph) (seen : List Text) : List Text → List Text
  | [] => []
  | name :: pending =>
    if _hseen : name ∈ seen then discover graph seen pending
    else
      match _htopic : graph.topic? name with
      | none => name :: discover graph (seen ++ [name]) pending
      | some topic => name :: discover graph (seen ++ [name]) (topic.targets ++ pending)
termination_by pending => graph.unvisited seen + pending.length
decreasing_by
  · simp
  · have hle : graph.unvisited (seen ++ [name]) ≤ graph.unvisited seen :=
      unvisitedAmong_append_le seen name graph.topics
    simp
    omega
  · have hlt := unvisited_append_lt ‹_› ‹_›
    simp
    omega

/-- A topic and every topic reachable from it. -/
def family (graph : Graph) (name : Text) : List Text :=
  discover graph [] [name]

/-- The existing topics along the edges from `name`, inherits before includes, each before those
behind it; a path that returns to itself is not followed. -/
def lineageFrom (graph : Graph) (path : List Text) (name : Text) : List Topic :=
  if _hpath : name ∈ path then []
  else
    match _htopic : graph.topic? name with
    | none => []
    | some topic =>
      (topic.inherits ++ topic.includes).flatMap fun next =>
        if next ∈ path ++ [name] then []
        else (graph.topic? next).toList ++ lineageFrom graph (path ++ [name]) next
termination_by graph.unvisited path
decreasing_by exact Nat.lt_of_le_of_lt (Nat.le_add_right _ _) (unvisited_append_lt ‹_› ‹_›)

def lineage (graph : Graph) (name : Text) : List Topic :=
  lineageFrom graph [] name

/-- The trigger under a key among the topics that a topic inherits or includes. -/
def inherited? (graph : Graph) (name : Text) (key : Trigger.Key) : Option Trigger :=
  (graph.lineage name).findSome? fun topic => topic.trigger? key

end Graph

end DialogueScript

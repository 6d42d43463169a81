import DialogueScript.Proofs.PatternExpression
import DialogueScript.Proofs.SessionVariables
import DialogueScript.Proofs.TriggerLookup

/-!
# What a selection depends on

What is selected for a message depends on the topics that edges lead to, and on what the patterns
of these topics read.  Graphs may differ in the topics that a walk never comes to: a topic that no
edge leads to may be there or not.  A variable that no pattern reads may have any value.
-/

namespace DialogueScript

/-! ## Topics that a walk comes to -/

namespace Graph

/-- The graphs have the same topics under some names, and the edges of these lead to such names. -/
structure AgreesOn (shared : Text → Prop) (graph other : Graph) : Prop where
  topic?_eq : ∀ name, shared name → other.topic? name = graph.topic? name
  shared_target : ∀ name topic, shared name → graph.topic? name = some topic →
    ∀ next ∈ topic.targets, shared next

/-- The graphs have the same topics apart from one, and no edge leads to that one. -/
structure AgreesOff (hidden : Text) (graph other : Graph) : Prop where
  topic?_eq : ∀ name, name ≠ hidden → other.topic? name = graph.topic? name
  not_mem_targets : ∀ name topic, graph.topic? name = some topic → hidden ∉ topic.targets

theorem explore_of_topic?_eq_none
    {graph : Graph} {path : List Text} {name : Text} (hpath : name ∉ path)
    (hnone : graph.topic? name = none) (level : Nat) (inherited : Bool) :
    graph.explore path name level inherited = [] := by
  rw [explore, dif_neg hpath]
  split
  · rfl
  · rename_i topic htopic
    rw [hnone] at htopic
    cases htopic

theorem explore_of_topic?_eq_some
    {graph : Graph} {path : List Text} {name : Text} {topic : Topic} (hpath : name ∉ path)
    (htopic : graph.topic? name = some topic) (level : Nat) (inherited : Bool) :
    graph.explore path name level inherited =
      topic.includes.flatMap (fun next => graph.explore (path ++ [name]) next level
          (!topic.inherits.isEmpty || inherited)) ++
        topic.inherits.flatMap (fun next => graph.explore (path ++ [name]) next (level + 1) true) ++
        [.gather topic (if !topic.inherits.isEmpty || inherited then some level else none)] := by
  rw [explore, dif_neg hpath]
  split
  · rename_i hnone
    rw [hnone] at htopic
    cases htopic
  · rename_i found hfound
    obtain rfl : found = topic := Option.some.inj (hfound.symm.trans htopic)
    rfl

theorem lineageFrom_of_topic?_eq_none
    {graph : Graph} {path : List Text} {name : Text} (hnone : graph.topic? name = none) :
    graph.lineageFrom path name = [] := by
  rw [lineageFrom]
  split
  · rfl
  · split
    · rfl
    · rename_i topic htopic
      rw [hnone] at htopic
      cases htopic

theorem lineageFrom_of_topic?_eq_some
    {graph : Graph} {path : List Text} {name : Text} {topic : Topic} (hpath : name ∉ path)
    (htopic : graph.topic? name = some topic) :
    graph.lineageFrom path name =
      (topic.inherits ++ topic.includes).flatMap fun next =>
        if next ∈ path ++ [name] then []
        else (graph.topic? next).toList ++ graph.lineageFrom (path ++ [name]) next := by
  rw [lineageFrom, dif_neg hpath]
  split
  · rename_i hnone
    rw [hnone] at htopic
    cases htopic
  · rename_i found hfound
    obtain rfl : found = topic := Option.some.inj (hfound.symm.trans htopic)
    rfl

theorem discover_of_topic?_eq_none
    {graph : Graph} {seen pending : List Text} {name : Text} (hnew : name ∉ seen)
    (hnone : graph.topic? name = none) :
    graph.discover seen (name :: pending) = name :: graph.discover (seen ++ [name]) pending := by
  rw [discover, dif_neg hnew]
  split
  · rfl
  · rename_i topic htopic
    rw [hnone] at htopic
    cases htopic

theorem discover_of_topic?_eq_some
    {graph : Graph} {seen pending : List Text} {name : Text} {topic : Topic} (hnew : name ∉ seen)
    (htopic : graph.topic? name = some topic) :
    graph.discover seen (name :: pending) =
      name :: graph.discover (seen ++ [name]) (topic.targets ++ pending) := by
  rw [discover, dif_neg hnew]
  split
  · rename_i hnone
    rw [hnone] at htopic
    cases htopic
  · rename_i found hfound
    obtain rfl : found = topic := Option.some.inj (hfound.symm.trans htopic)
    rfl

namespace AgreesOn

variable {shared : Text → Prop} {graph other : Graph}

theorem explore_eq
    (hagrees : graph.AgreesOn shared other) (path : List Text) {name : Text}
    (hname : shared name) (level : Nat) (inherited : Bool) :
    other.explore path name level inherited = graph.explore path name level inherited := by
  fun_induction graph.explore path name level inherited with
  | case1 path name level inherited hpath => rw [explore, dif_pos hpath]
  | case2 path name level inherited hpath htopic =>
    exact explore_of_topic?_eq_none hpath ((hagrees.topic?_eq name hname).trans htopic) _ _
  | case3 path name level inherited hpath topic htopic inherited' ihIncludes ihInherits =>
    rw [explore_of_topic?_eq_some hpath ((hagrees.topic?_eq name hname).trans htopic)]
    have hnext : ∀ next ∈ topic.includes ++ topic.inherits, shared next :=
      hagrees.shared_target name topic hname htopic
    have hincludes := List.flatMap_congr fun next hmem =>
      ihIncludes next (hnext next (List.mem_append_left _ hmem))
    have hinherits := List.flatMap_congr fun next hmem =>
      ihInherits next (hnext next (List.mem_append_right _ hmem))
    rw [hincludes, hinherits]

theorem order_eq (hagrees : graph.AgreesOn shared other) {name : Text} (hname : shared name) :
    other.order name = graph.order name := by
  rw [order, order, candidates, candidates, visits, visits, hagrees.explore_eq [] hname]

theorem lineageFrom_eq
    (hagrees : graph.AgreesOn shared other) (path : List Text) {name : Text}
    (hname : shared name) :
    other.lineageFrom path name = graph.lineageFrom path name := by
  fun_induction graph.lineageFrom path name with
  | case1 path name hpath => rw [lineageFrom, dif_pos hpath]
  | case2 path name hpath htopic =>
    exact lineageFrom_of_topic?_eq_none ((hagrees.topic?_eq name hname).trans htopic)
  | case3 path name hpath topic htopic ih =>
    rw [lineageFrom_of_topic?_eq_some hpath ((hagrees.topic?_eq name hname).trans htopic)]
    refine List.flatMap_congr fun next hmem => ?_
    have hnext : shared next := by
      refine hagrees.shared_target name topic hname htopic next ?_
      rw [Topic.targets]
      exact List.mem_append.mpr (List.mem_append.mp hmem).symm
    by_cases hpast : next ∈ path ++ [name]
    · rw [if_pos hpast, if_pos hpast]
    · rw [if_neg hpast, if_neg hpast, hagrees.topic?_eq next hnext, ih next hnext]

theorem lookup_eq (hagrees : graph.AgreesOn shared other) {name : Text} (hname : shared name) :
    other.lookup name = graph.lookup name := by
  rw [lookup, lookup, lineage, lineage, hagrees.topic?_eq name hname,
    hagrees.lineageFrom_eq [] hname]

theorem discover_eq
    (hagrees : graph.AgreesOn shared other) (seen : List Text) {pending : List Text}
    (hpending : ∀ name ∈ pending, shared name) :
    other.discover seen pending = graph.discover seen pending ∧
      ∀ name ∈ graph.discover seen pending, shared name := by
  fun_induction graph.discover seen pending with
  | case1 seen =>
    rw [discover]
    exact ⟨rfl, by simp⟩
  | case2 seen name pending hseen ih =>
    rw [discover, dif_pos hseen]
    exact ih fun next hnext => hpending next (List.mem_cons_of_mem _ hnext)
  | case3 seen name pending hnew htopic ih =>
    have hname := hpending name List.mem_cons_self
    obtain ⟨heq, hfound⟩ := ih fun next hnext => hpending next (List.mem_cons_of_mem _ hnext)
    rw [discover_of_topic?_eq_none hnew ((hagrees.topic?_eq name hname).trans htopic), heq]
    exact ⟨rfl, List.forall_mem_cons.mpr ⟨hname, hfound⟩⟩
  | case4 seen name pending hnew topic htopic ih =>
    have hname := hpending name List.mem_cons_self
    have hnext : ∀ next ∈ topic.targets ++ pending, shared next := by
      intro next hnext
      rcases List.mem_append.mp hnext with hnext | hnext
      · exact hagrees.shared_target name topic hname htopic next hnext
      · exact hpending next (List.mem_cons_of_mem _ hnext)
    obtain ⟨heq, hfound⟩ := ih hnext
    rw [discover_of_topic?_eq_some hnew ((hagrees.topic?_eq name hname).trans htopic), heq]
    exact ⟨rfl, List.forall_mem_cons.mpr ⟨hname, hfound⟩⟩

theorem family_eq (hagrees : graph.AgreesOn shared other) {name : Text} (hname : shared name) :
    other.family name = graph.family name ∧ ∀ member ∈ graph.family name, shared member :=
  hagrees.discover_eq [] fun _ hmember => List.mem_singleton.mp hmember ▸ hname

end AgreesOn

namespace AgreesOff

variable {hidden : Text} {graph other : Graph}

theorem agreesOn (hagrees : graph.AgreesOff hidden other) :
    graph.AgreesOn (· ≠ hidden) other where
  topic?_eq := hagrees.topic?_eq
  shared_target := by
    rintro name topic - htopic next hnext rfl
    exact hagrees.not_mem_targets name topic htopic hnext

/-- A topic without edges does not change what linking creates. -/
theorem link
    (hagrees : graph.AgreesOff hidden other)
    (htargets : other.topics.flatMap Topic.targets = graph.topics.flatMap Topic.targets) :
    graph.link.AgreesOff hidden other.link := by
  constructor
  · intro name hname
    rw [topic?_link, topic?_link, htargets, hagrees.topic?_eq name hname]
  · intro name topic htopic
    rw [topic?_link] at htopic
    cases hfound : graph.topic? name with
    | some found =>
      rw [hfound, Option.some_or] at htopic
      obtain rfl := Option.some.inj htopic
      exact hagrees.not_mem_targets name found hfound
    | none =>
      rw [hfound, Option.none_or] at htopic
      split at htopic
      · obtain rfl := Option.some.inj htopic
        exact List.not_mem_nil
      · cases htopic

end AgreesOff

end Graph

/-! ## Variables that no pattern reads -/

namespace Pattern

mutual

/-- Whether a segment reads a variable of the session. -/
def reads (name : Text) : Segment → Bool
  | .userVariable other => other = name
  | .optional alternatives => readsAlternatives name alternatives
  | .group alternatives => readsAlternatives name alternatives
  | _ => false

def readsSequence (name : Text) : List Segment → Bool
  | [] => false
  | segment :: segments => reads name segment || readsSequence name segments

def readsAlternatives (name : Text) : List (List Segment) → Bool
  | [] => false
  | alternative :: alternatives =>
    readsSequence name alternative || readsAlternatives name alternatives

end

section Unread

variable {name : Text} (definitions : Definitions) (session : Session) (value : Text)

mutual

theorem fill_set_of_not_reads {segment : Segment} (hreads : reads name segment = false) :
    fill definitions (some (session.set name value)) segment =
      fill definitions (some session) segment := by
  cases segment with
  | optional alternatives =>
    simp only [fill, fillAlternatives_set_of_not_reads hreads]
  | group alternatives =>
    simp only [fill, fillAlternatives_set_of_not_reads hreads]
  | userVariable other =>
    have hother : other ≠ name := by
      simpa [reads] using hreads
    simp [fill, readSession, session.get_set_of_ne value hother]
  | _ => rfl

theorem fillSequence_set_of_not_reads
    {segments : List Segment} (hreads : readsSequence name segments = false) :
    fillSequence definitions (some (session.set name value)) segments =
      fillSequence definitions (some session) segments := by
  cases segments with
  | nil => rfl
  | cons segment segments =>
    obtain ⟨hsegment, hsegments⟩ := Bool.or_eq_false_iff.mp hreads
    simp only [fillSequence, fill_set_of_not_reads hsegment,
      fillSequence_set_of_not_reads hsegments]

theorem fillAlternatives_set_of_not_reads
    {alternatives : List (List Segment)} (hreads : readsAlternatives name alternatives = false) :
    fillAlternatives definitions (some (session.set name value)) alternatives =
      fillAlternatives definitions (some session) alternatives := by
  cases alternatives with
  | nil => rfl
  | cons alternative alternatives =>
    obtain ⟨hfirst, hrest⟩ := Bool.or_eq_false_iff.mp hreads
    simp only [fillAlternatives, fillSequence_set_of_not_reads hfirst,
      fillAlternatives_set_of_not_reads hrest]

end

theorem matchSegments?_set_of_not_reads
    {segments : List Segment} (hreads : readsSequence name segments = false) (text : Text) :
    matchSegments? ⟨definitions, session.set name value⟩ segments text =
      matchSegments? ⟨definitions, session⟩ segments text := by
  rw [← Expression.compile?_bind_stars?, ← Expression.compile?_bind_stars?]
  simp only [Expression.render, fillSequence_set_of_not_reads definitions session value hreads]

end Unread

end Pattern

/-! ## Selecting alike -/

theorem findSome?_congr
    {α β : Type} {f g : α → Option β} {items : List α} (heq : ∀ a ∈ items, f a = g a) :
    items.findSome? f = items.findSome? g := by
  induction items with
  | nil => rfl
  | cons item items ih =>
    rw [List.findSome?_cons, List.findSome?_cons, heq item List.mem_cons_self,
      ih fun a ha => heq a (List.mem_cons_of_mem _ ha)]

/-- To a user in a topic of these names the published personas are the same, with these sessions. -/
structure SelectsAlikeOn
    (shared : Text → Prop) (persona other : Persona) (session session' : Session) : Prop where
  definitions_eq : other.definitions = persona.definitions
  graph : persona.graph.link.AgreesOn shared other.graph.link
  reply_eq : session'.reply 1 = session.reply 1
  match?_eq : ∀ pattern, persona.publish.Tries pattern → ∀ text,
    Pattern.match? ⟨persona.definitions, session'⟩ pattern text =
      Pattern.match? ⟨persona.definitions, session⟩ pattern text

namespace SelectsAlikeOn

variable {shared : Text → Prop} {persona other : Persona} {session session' : Session}
  {name : Text}

theorem match?_publish_eq
    (halike : SelectsAlikeOn shared persona other session session') {pattern : Text}
    (htries : persona.publish.Tries pattern) (htries' : other.publish.Tries pattern)
    (text : Text) :
    other.publish.match? session' pattern text = persona.publish.match? session pattern text := by
  rw [Snapshot.match?, Snapshot.match?, Snapshot.compiled_publish htries,
    Snapshot.compiled_publish htries', Option.bind_some, Option.bind_some]
  have hscope : other.publish.scope session' = ⟨persona.definitions, session'⟩ :=
    congrArg (Scope.mk · session') halike.definitions_eq
  rw [hscope]
  exact halike.match?_eq pattern htries text

theorem order_publish_eq
    (halike : SelectsAlikeOn shared persona other session session') (hname : shared name) :
    other.publish.order name = persona.publish.order name := by
  rw [order_publish, order_publish, halike.graph.order_eq hname]

theorem selectByOrder?_eq
    (halike : SelectsAlikeOn shared persona other session session') (hname : shared name)
    (message : Text) :
    other.publish.selectByOrder? session' name message =
      persona.publish.selectByOrder? session name message := by
  have horder := halike.order_publish_eq hname
  have howner : ∀ pattern, other.publish.ownerOf? name pattern =
      persona.publish.ownerOf? name pattern := by
    intro pattern
    have hlookup : other.publish.persona.graph.lookup name =
        persona.publish.persona.graph.lookup name := halike.graph.lookup_eq hname
    rw [Snapshot.ownerOf?_eq_findSome?, Snapshot.ownerOf?_eq_findSome?, hlookup]
  have haccepted : ∀ pattern ∈ persona.publish.order name,
      (other.publish.match? session' pattern message).map (fun stars => (pattern, stars)) =
        (persona.publish.match? session pattern message).map fun stars => (pattern, stars) := by
    intro pattern hpattern
    have hpattern' : pattern ∈ other.publish.order name := horder ▸ hpattern
    rw [halike.match?_publish_eq (.inl ⟨name, hpattern⟩) (.inl ⟨name, hpattern'⟩)]
  unfold Snapshot.selectByOrder?
  dsimp only
  rw [horder, findSome?_congr haccepted]
  simp only [howner]

theorem selectPaired?_eq
    (halike : SelectsAlikeOn shared persona other session session') (hname : shared name)
    {topic : Topic} (htopic : persona.graph.link.topic? name = some topic)
    (lastReply message : Text) :
    other.publish.selectPaired? session' topic lastReply message =
      persona.publish.selectPaired? session topic lastReply message := by
  have htopic' : other.graph.link.topic? name = some topic :=
    (halike.graph.topic?_eq name hname).trans htopic
  have hmatch : ∀ previous pattern, topic.Pairs previous pattern → ∀ tried,
      tried = previous ∨ tried = pattern → ∀ text,
        other.publish.match? session' tried text = persona.publish.match? session tried text := by
    intro previous pattern hpairs tried htried text
    exact halike.match?_publish_eq
      (.inr ⟨topic, (Graph.topic?_name htopic).1, previous, pattern, hpairs, htried⟩)
      (.inr ⟨topic, (Graph.topic?_name htopic').1, previous, pattern, hpairs, htried⟩) text
  refine findSome?_congr fun (previous, patterns) hindex => ?_
  have hpairs : ∀ pattern ∈ patterns, topic.Pairs previous pattern :=
    fun pattern => (Topic.mem_iff_pairs_of_mem_previousIndex hindex).mp
  cases patterns with
  | nil => simp
  | cons first patterns =>
    dsimp only
    rw [hmatch previous first (hpairs first List.mem_cons_self) previous (.inl rfl)]
    congr 1
    funext previousStars
    refine findSome?_congr fun pattern hpattern => ?_
    rw [hmatch previous pattern (hpairs pattern hpattern) pattern (.inr rfl)]

theorem normalize_publish_eq
    (halike : SelectsAlikeOn shared persona other session session') (message : Text) :
    other.publish.persona.normalize message = persona.publish.persona.normalize message := by
  have hdefinitions : other.publish.persona.definitions = persona.publish.persona.definitions :=
    halike.definitions_eq
  rw [Persona.normalize, Persona.normalize, hdefinitions]

theorem selectByPrevious?_eq
    (halike : SelectsAlikeOn shared persona other session session') (hname : shared name)
    (message : Text) :
    other.publish.selectByPrevious? session' name message =
      persona.publish.selectByPrevious? session name message := by
  have hreply : other.publish.persona.normalize (session'.reply 1) =
      persona.publish.persona.normalize (session.reply 1) := by
    rw [halike.reply_eq, halike.normalize_publish_eq]
  obtain ⟨hfamily, hmembers⟩ := halike.graph.family_eq hname
  have hfamily : other.publish.persona.graph.family name =
      persona.publish.persona.graph.family name := hfamily
  unfold Snapshot.selectByPrevious?
  dsimp only
  rw [hreply, hfamily]
  refine findSome?_congr fun member hmember => ?_
  have hmember : shared member := hmembers member hmember
  have htopic : other.publish.persona.graph.topic? member =
      persona.publish.persona.graph.topic? member := halike.graph.topic?_eq member hmember
  rw [htopic]
  cases hfound : persona.publish.persona.graph.topic? member with
  | none => rfl
  | some topic => exact halike.selectPaired?_eq hmember hfound _ message

/-- The same trigger is selected, in whichever of these topics the user is. -/
theorem select?_eq
    (halike : SelectsAlikeOn shared persona other session session') (hname : shared name)
    (message : Text) (step : Nat) :
    other.publish.select? session' name message step =
      persona.publish.select? session name message step := by
  rw [Snapshot.select?, Snapshot.select?, halike.selectByPrevious?_eq hname,
    halike.selectByOrder?_eq hname]

end SelectsAlikeOn

/-- To a user outside of one topic the published personas are the same, with these sessions: their
graphs agree off that topic, and the patterns of the first match the same texts in both sessions. -/
structure SelectsAlike (hidden : Text) (persona other : Persona) (session session' : Session) :
    Prop where
  definitions_eq : other.definitions = persona.definitions
  graph : persona.graph.link.AgreesOff hidden other.graph.link
  reply_eq : session'.reply 1 = session.reply 1
  match?_eq : ∀ pattern, persona.publish.Tries pattern → ∀ text,
    Pattern.match? ⟨persona.definitions, session'⟩ pattern text =
      Pattern.match? ⟨persona.definitions, session⟩ pattern text

namespace SelectsAlike

variable {hidden : Text} {persona other : Persona} {session session' : Session} {name : Text}

/-- A variable that no pattern reads may be set. -/
theorem set
    (halike : SelectsAlike hidden persona other session session') {variableName : Text}
    (hreads : ∀ entry ∈ persona.publish.compiled.entries,
      Pattern.readsSequence variableName entry.2 = false)
    (value : Text) :
    SelectsAlike hidden persona other session (session'.set variableName value) where
  definitions_eq := halike.definitions_eq
  graph := halike.graph
  reply_eq := halike.reply_eq
  match?_eq := by
    intro pattern htries text
    obtain ⟨front, back, hentries, -⟩ :=
      List.lookup_eq_some_iff.mp (Snapshot.compiled_publish htries)
    have hmem : (pattern, Pattern.parse pattern) ∈ persona.publish.compiled.entries := by
      rw [hentries]
      exact List.mem_append_right _ List.mem_cons_self
    rw [← halike.match?_eq pattern htries text]
    exact Pattern.matchSegments?_set_of_not_reads _ _ _ (hreads _ hmem) text

theorem selectsAlikeOn (halike : SelectsAlike hidden persona other session session') :
    SelectsAlikeOn (· ≠ hidden) persona other session session' where
  definitions_eq := halike.definitions_eq
  graph := halike.graph.agreesOn
  reply_eq := halike.reply_eq
  match?_eq := halike.match?_eq

/-- The same trigger is selected, wherever the user is but in that topic. -/
theorem select?_eq
    (halike : SelectsAlike hidden persona other session session') (hname : name ≠ hidden)
    (message : Text) (step : Nat) :
    other.publish.select? session' name message step =
      persona.publish.select? session name message step :=
  halike.selectsAlikeOn.select?_eq hname message step

end SelectsAlike

end DialogueScript

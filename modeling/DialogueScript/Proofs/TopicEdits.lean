import DialogueScript.Proofs.Declarations
import DialogueScript.Proofs.ScriptEvents

/-!
# Scripts as edits

Reading a script looks at no topic.  What it does to the topics is a list of edits, each of one
topic by its name, and whatever else it does is the same for all topics that there may be.  So a
script that edits no topic of some name leaves that topic as it is, and does to the others what it
would do without it.
-/

namespace DialogueScript

namespace Graph

/-- A change of the topic of this name, which keeps the name. -/
structure Edit where
  name : Text
  change : Topic → Topic
  name_change : ∀ topic, (change topic).name = topic.name

/-- The graph after these edits; the first edit of a name creates the topic. -/
def edit (graph : Graph) (edits : List Edit) : Graph :=
  edits.foldl (fun graph edit => graph.modifyTopic edit.name edit.change) graph

/-- The topics whose names are kept. -/
def keep (graph : Graph) (kept : Text → Bool) : Graph :=
  ⟨graph.topics.filter fun topic => kept topic.name⟩

theorem edit_cons (graph : Graph) (first : Edit) (edits : List Edit) :
    graph.edit (first :: edits) = (graph.modifyTopic first.name first.change).edit edits :=
  rfl

theorem edit_append (graph : Graph) (edits more : List Edit) :
    graph.edit (edits ++ more) = (graph.edit edits).edit more :=
  List.foldl_append

variable {graph : Graph} {kept : Text → Bool} {name : Text}

theorem topic?_keep (hname : kept name = true) :
    (graph.keep kept).topic? name = graph.topic? name := by
  unfold topic? keep
  induction graph.topics with
  | nil => rfl
  | cons topic topics ih =>
    by_cases htopic : topic.name = name
    · simp [htopic, hname]
    · by_cases hkept : kept topic.name = true
      · simpa [hkept, htopic] using ih
      · simpa [hkept, htopic] using ih

theorem name_change_ite (edit : Edit) (topic : Topic) :
    (if topic.name = edit.name then edit.change topic else topic).name = topic.name := by
  split
  · exact edit.name_change topic
  · rfl

theorem keep_modifyTopic (edit : Edit) (hkept : kept edit.name = true) :
    (graph.modifyTopic edit.name edit.change).keep kept =
      (graph.keep kept).modifyTopic edit.name edit.change := by
  have hcontains : (graph.keep kept).contains edit.name = graph.contains edit.name := by
    rw [contains, contains, topic?_keep hkept]
  unfold modifyTopic
  rw [hcontains]
  split
  · simp [keep, List.filter_map, Function.comp_def, name_change_ite]
  · simp [keep, edit.name_change, hkept]

theorem keep_modifyTopic_of_not_kept (edit : Edit) (hkept : kept edit.name = false) :
    (graph.modifyTopic edit.name edit.change).keep kept = graph.keep kept := by
  unfold modifyTopic
  split
  · have hsame : ∀ topic ∈ graph.topics.filter (fun topic => kept topic.name),
        (if topic.name = edit.name then edit.change topic else topic) = topic := by
      intro topic htopic
      have hname : topic.name ≠ edit.name := by
        intro hname
        have hkeep := (List.mem_filter.mp htopic).2
        rw [hname, hkept] at hkeep
        cases hkeep
      rw [if_neg hname]
    simp only [keep, List.filter_map, Function.comp_def, name_change_ite]
    rw [List.map_congr_left hsame, List.map_id']
  · simp [keep, edit.name_change, hkept]

/-- Edits of kept topics are the same before and after the others are left out. -/
theorem keep_edit
    {edits : List Edit} (hkept : ∀ edit ∈ edits, kept edit.name = true) :
    (graph.edit edits).keep kept = (graph.keep kept).edit edits := by
  induction edits generalizing graph with
  | nil => rfl
  | cons edit edits ih =>
    rw [edit_cons, edit_cons, ih fun other hother => hkept other (List.mem_cons_of_mem _ hother),
      keep_modifyTopic edit (hkept edit List.mem_cons_self)]

theorem keep_edit_of_not_kept
    {edits : List Edit} (hkept : ∀ edit ∈ edits, kept edit.name = false) :
    (graph.edit edits).keep kept = graph.keep kept := by
  induction edits generalizing graph with
  | nil => rfl
  | cons edit edits ih =>
    rw [edit_cons, ih fun other hother => hkept other (List.mem_cons_of_mem _ hother),
      keep_modifyTopic_of_not_kept edit (hkept edit List.mem_cons_self)]

theorem isSome_topic?_modifyTopic
    (edit : Edit) (hdeclared : (graph.topic? name).isSome ∨ edit.name = name) :
    ((graph.modifyTopic edit.name edit.change).topic? name).isSome := by
  have hmem : ∃ topic ∈ (graph.modifyTopic edit.name edit.change).topics, topic.name = name := by
    unfold modifyTopic
    split
    · rename_i hcontains
      have hfound : (graph.topic? name).isSome := by
        rcases hdeclared with hdeclared | rfl
        · exact hdeclared
        · exact hcontains
      obtain ⟨topic, htopic⟩ := Option.isSome_iff_exists.mp hfound
      obtain ⟨hmem, hname⟩ := topic?_name htopic
      exact ⟨_, List.mem_map.mpr ⟨topic, hmem, rfl⟩, (name_change_ite edit topic).trans hname⟩
    · rcases hdeclared with hdeclared | rfl
      · obtain ⟨topic, htopic⟩ := Option.isSome_iff_exists.mp hdeclared
        obtain ⟨hmem, hname⟩ := topic?_name htopic
        exact ⟨topic, List.mem_append_left _ hmem, hname⟩
      · exact ⟨_, List.mem_append_right _ (List.mem_singleton_self _), edit.name_change _⟩
  simpa [topic?] using hmem

/-- The edited topics are declared. -/
theorem isSome_topic?_edit
    {edits : List Edit}
    (hdeclared : (graph.topic? name).isSome ∨ ∃ edit ∈ edits, edit.name = name) :
    ((graph.edit edits).topic? name).isSome := by
  induction edits generalizing graph with
  | nil =>
    rcases hdeclared with hdeclared | ⟨edit, hedit, -⟩
    · exact hdeclared
    · cases hedit
  | cons edit edits ih =>
    rw [edit_cons]
    refine ih ?_
    rcases hdeclared with hdeclared | ⟨other, hother, hname⟩
    · exact .inl (isSome_topic?_modifyTopic edit (.inl hdeclared))
    · rcases List.mem_cons.mp hother with rfl | hother
      · exact .inl (isSome_topic?_modifyTopic other (.inr hname))
      · exact .inr ⟨other, hother, hname⟩

end Graph

namespace Persona

/-- The persona with other topics. -/
def withGraph (persona : Persona) (graph : Graph) : Persona :=
  { persona with graph }

end Persona

namespace Script

/-- The state with other topics. -/
def State.withGraph (state : State) (graph : Graph) : State :=
  { state with persona := state.persona.withGraph graph }

/-- At this state, the step does nothing to the topics but edits, and nothing else depends on
them. -/
def Edits (step : State → State) (state : State) : Prop :=
  ∃ edits, ∀ graph, step (state.withGraph graph) = (step state).withGraph (graph.edit edits)

/-- The same of a step that may end with a problem. -/
def EditsOrFails (step : State → Except Problem State) (state : State) : Prop :=
  ∃ edits, ∀ graph, step (state.withGraph graph) =
    (step state).map fun state => state.withGraph (graph.edit edits)

namespace Edits

variable {step next : State → State} {state : State}

/-- A step that leaves the topics alone. -/
theorem of_eq (hstep : ∀ graph, step (state.withGraph graph) = (step state).withGraph graph) :
    Edits step state :=
  ⟨[], hstep⟩

theorem of_modifyTopic
    (edit : Graph.Edit)
    (hstep : ∀ graph, step (state.withGraph graph) =
      (step state).withGraph (graph.modifyTopic edit.name edit.change)) :
    Edits step state :=
  ⟨[edit], hstep⟩

theorem comp (hstep : Edits step state) (hnext : Edits next (step state)) :
    Edits (fun state => next (step state)) state := by
  obtain ⟨edits, hstep⟩ := hstep
  obtain ⟨more, hnext⟩ := hnext
  refine ⟨edits ++ more, fun graph => ?_⟩
  dsimp only
  rw [hstep, hnext, Graph.edit_append]

theorem congr
    (hnext : Edits next state)
    (hsame : ∀ graph, step (state.withGraph graph) = next (state.withGraph graph)) :
    Edits step state := by
  obtain ⟨edits, hnext⟩ := hnext
  have hhere : step state = next state := hsame state.persona.graph
  exact ⟨edits, fun graph => by rw [hsame, hnext, hhere]⟩

theorem comp_fails
    {last : State → Except Problem State} (hstep : Edits step state)
    (hlast : EditsOrFails last (step state)) :
    EditsOrFails (fun state => last (step state)) state := by
  obtain ⟨edits, hstep⟩ := hstep
  obtain ⟨more, hlast⟩ := hlast
  refine ⟨edits ++ more, fun graph => ?_⟩
  dsimp only
  rw [hstep, hlast, Graph.edit_append]

theorem ok (hstep : Edits step state) : EditsOrFails (fun state => .ok (step state)) state := by
  obtain ⟨edits, hstep⟩ := hstep
  exact ⟨edits, fun graph => congrArg Except.ok (hstep graph)⟩

end Edits

theorem EditsOrFails.congr
    {step next : State → Except Problem State} {state : State} (hnext : EditsOrFails next state)
    (hsame : ∀ graph, step (state.withGraph graph) = next (state.withGraph graph)) :
    EditsOrFails step state := by
  obtain ⟨edits, hnext⟩ := hnext
  have hhere : step state = next state := hsame state.persona.graph
  exact ⟨edits, fun graph => by rw [hsame, hnext, hhere]⟩

/-! ## Directives -/

variable (place : Place) (state : State)

theorem edits_warn (cause : Cause) : Edits (fun state => state.warn place cause) state :=
  .of_eq fun _ => rfl

theorem edits_openTopic (name : Text) (words : List Text) :
    Edits (fun state => openTopic state name words) state := by
  let edit : Graph.Edit :=
    { name
      change := fun topic => addEdges topic none words
      name_change := fun topic => (topic.triggers_addEdges none words).2 }
  exact .of_modifyTopic edit fun _ => rfl

theorem edits_closeObject (collaborators : Collaborators) (object : OpenObject) :
    Edits (fun state => closeObject collaborators state object) state := by
  unfold closeObject
  dsimp only
  split <;> exact .of_eq fun _ => rfl

theorem edits_modifyTrigger (key : Trigger.Key) (f : Trigger → Trigger) :
    Edits (fun state => modifyTrigger state key f) state := by
  let edit : Graph.Edit :=
    { name := state.topic
      change := fun topic => topic.modifyTrigger key f
      name_change := fun topic => topic.name_modifyTrigger key f }
  exact .of_modifyTopic edit fun _ => rfl

theorem edits_openTrigger (pattern : Text) (previous : Option Text) :
    Edits (fun state => openTrigger state pattern previous) state := by
  have hopen : ∀ key state, Edits
      (fun state => { modifyTrigger state key id with trigger := some key }) state := by
    intro key state
    have henter : Edits (fun state => { state with trigger := some key })
        (modifyTrigger state key id) := .of_eq fun _ => rfl
    exact (edits_modifyTrigger state key id).comp henter
  cases previous with
  | none => exact hopen _ _
  | some previous => exact (edits_modifyTrigger state _ _).comp (hopen _ _)

theorem edits_addPart (part : Part) (text : Text) :
    Edits (fun state => addPart state place part text) state := by
  cases htrigger : state.trigger with
  | none =>
    refine (edits_warn place state (.outsideTrigger part)).congr fun graph => ?_
    have htrigger : (state.withGraph graph).trigger = none := htrigger
    rw [addPart, htrigger]
  | some key =>
    refine (edits_modifyTrigger state key (part.add text)).congr fun graph => ?_
    have htrigger : (state.withGraph graph).trigger = some key := htrigger
    rw [addPart, htrigger]

theorem edits_setGlobal (name value : Text) :
    Edits (fun state =>
      { state with persona := (state.persona.setGlobal? name (some value)).getD state.persona })
      state := by
  refine .of_eq fun graph => ?_
  rcases Persona.setGlobal?_cases name (some value) with hset | ⟨f, depth?, hset⟩ <;>
    rw [hset, hset] <;> rfl

theorem editsOrFails_run (instruction : Instruction) :
    EditsOrFails (fun state => instruction.run place state) state := by
  cases instruction with
  | keep => exact (Edits.of_eq fun _ => rfl).ok
  | refuse version hexceeds => exact ⟨[], fun _ => rfl⟩
  | warn cause => exact (edits_warn place state cause).ok
  | setLanguage language => exact (Edits.of_eq fun _ => rfl).ok
  | setGlobal name value => exact (edits_setGlobal state name value).ok
  | define f hglobals => exact (Edits.of_eq fun _ => rfl).ok
  | openTopic name words => exact (edits_openTopic state name words).ok
  | openObject name language => exact (Edits.of_eq fun _ => rfl).ok
  | leaveTopic => exact (Edits.of_eq fun _ => rfl).ok
  | openTrigger pattern previous => exact (edits_openTrigger state pattern previous).ok
  | addPart part text => exact (edits_addPart place state part text).ok

theorem editsOrFails_readDirective (command : Char) (text : Text) (previous : Option Text) :
    EditsOrFails (fun state => readDirective state place command text previous) state := by
  obtain ⟨instruction, hread⟩ := exists_run_readDirective command text previous
  exact (editsOrFails_run place state instruction).congr fun graph => hread place _

/-! ## Scripts -/

variable (collaborators : Collaborators)

theorem editsOrFails_perform (event : Event) :
    EditsOrFails (fun state => state.perform collaborators place event) state := by
  cases event with
  | pass inComment => exact (Edits.of_eq fun _ => rfl).ok
  | directive command text previous =>
    have henter : Edits (fun state => { state with inComment := false }) state :=
      .of_eq fun _ => rfl
    exact henter.comp_fails (editsOrFails_readDirective place _ command text previous)
  | code line => exact (Edits.of_eq fun _ => rfl).ok
  | close =>
    cases hobject : state.object with
    | none =>
      have hstays : Edits (fun state => state) state := .of_eq fun _ => rfl
      refine hstays.ok.congr fun graph => ?_
      have hmoved : (state.withGraph graph).object = none := hobject
      rw [State.perform, hmoved, Option.map_none, Option.getD_none]
    | some object =>
      refine (edits_closeObject state collaborators object).ok.congr fun graph => ?_
      have hmoved : (state.withGraph graph).object = some object := hobject
      rw [State.perform, hmoved, Option.map_some, Option.getD_some]

theorem editsOrFails_readLine (line : Text) (following : List Text) :
    EditsOrFails (readLine collaborators place line following) state := by
  -- what a line comes to does not depend on the topics
  refine (editsOrFails_perform place state collaborators (state.mode.event line following)).congr
    fun graph => ?_
  exact State.readLine_eq_perform collaborators place (state.withGraph graph) line following

theorem exists_edits_readLines (lines : List Text) :
    ∃ edits, ∀ graph,
      readLines collaborators place lines (state.withGraph graph) =
        ((readLines collaborators place lines state).1.withGraph (graph.edit edits),
          (readLines collaborators place lines state).2) := by
  induction lines generalizing state place with
  | nil => exact ⟨[], fun _ => rfl⟩
  | cons line lines ih =>
    obtain ⟨edits, hline⟩ := editsOrFails_readLine place state collaborators line lines
    unfold readLines
    cases hread : readLine collaborators place line lines state with
    | error problem =>
      refine ⟨[], fun graph => ?_⟩
      rw [hline, hread]
      rfl
    | ok next =>
      obtain ⟨more, hmore⟩ := ih { place with line := place.line + 1 } next
      refine ⟨edits ++ more, fun graph => ?_⟩
      rw [hline, hread]
      dsimp only [Except.map]
      rw [hmore, Graph.edit_append]

/-- What a script does to the topics, whatever these are, is a list of edits; the rest of the
persona, the requests and the report are the same. -/
theorem exists_edits_read (persona : Persona) (source script : Text) :
    ∃ edits, ∀ graph,
      let reading := read collaborators persona source script
      read collaborators (persona.withGraph graph) source script =
        { reading with persona := reading.persona.withGraph (graph.edit edits) } := by
  obtain ⟨edits, hlines⟩ :=
    exists_edits_readLines ⟨source, 1⟩ { persona } collaborators (Text.lines script)
  refine ⟨edits, fun graph => ?_⟩
  have hlines : readLines collaborators ⟨source, 1⟩ (Text.lines script)
      { persona := persona.withGraph graph } = _ := hlines graph
  have hfinish : ∀ state : State, finish source (state.withGraph (graph.edit edits)) =
      (finish source state).withGraph (graph.edit edits) := by
    rintro ⟨persona, topic, trigger, inComment, object, warnings, requests⟩
    cases object <;> rfl
  unfold read
  dsimp only
  rw [hlines]
  cases readLines collaborators ⟨source, 1⟩ (Text.lines script) { persona } with
  | mk state fatal =>
    cases fatal with
    | some problem => rfl
    | none =>
      dsimp only
      rw [hfinish]
      rfl

end Script

end DialogueScript

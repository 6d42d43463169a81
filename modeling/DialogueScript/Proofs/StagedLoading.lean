import DialogueScript.Proofs.TriggerLookup

/-!
# What is live between two sorts

Scripts are read into the draft, and replies read the live snapshot.  Sorting is not all that
publishes the draft: so does every change of a definition, with whatever has been read by then.
Between two sorts the live topics are therefore those of the draft at the last change of a
definition, and they stay what they were exactly when the draft had the same topics then.
-/

namespace DialogueScript

namespace Snapshot

/-- The topics of a graph, linked and with their patterns in match order. -/
structure Sorts (snapshot : Snapshot) (graph : Graph) : Prop where
  graph_eq : snapshot.persona.graph = graph.link
  orders_eq : snapshot.orders =
    ⟨graph.link.topics.map fun topic => (topic.name, graph.link.order topic.name)⟩

/-- Replies are resolved against the same topics, in the same orders. -/
def SameTopics (snapshot other : Snapshot) : Prop :=
  snapshot.persona.graph = other.persona.graph ∧ snapshot.orders = other.orders

theorem sorts_publish (persona : Persona) : persona.publish.Sorts persona.graph :=
  ⟨rfl, rfl⟩

theorem Sorts.sameTopics_iff
    {snapshot other : Snapshot} {graph : Graph} (hsorts : snapshot.Sorts graph)
    (hother : other.Published) :
    snapshot.SameTopics other ↔ graph.link = other.persona.graph := by
  constructor
  · rintro ⟨hgraph, -⟩
    rw [← hgraph, hsorts.graph_eq]
  · intro hgraph
    obtain ⟨persona, -, rfl⟩ := hother
    have hlink : graph.link = persona.graph.link := hgraph
    refine ⟨hsorts.graph_eq.trans hgraph, ?_⟩
    rw [hsorts.orders_eq, (sorts_publish persona).orders_eq, hlink]

end Snapshot

namespace Bot

namespace Operation

/-- Reads scripts into the draft. -/
def loads : Operation → Bool
  | .load .. | .loadFile .. | .loadDirectory .. => true
  | _ => false

/-- Sets or removes a definition. -/
def defines : Operation → Bool
  | .setGlobal .. | .setVariable .. | .setSubstitution .. | .setPerson .. => true
  | _ => false

/-- Neither sorts nor answers a message. -/
def isStaging : Operation → Bool
  | .sort | .answer .. => false
  | _ => true

end Operation

/-- Do one thing after the other. -/
def run (bot : Bot) (operations : List Operation) : Bot :=
  operations.foldl perform bot

theorem run_append (bot : Bot) (operations more : List Operation) :
    bot.run (operations ++ more) = (bot.run operations).run more :=
  List.foldl_append

/-! ## One operation -/

theorem live_loadFile (bot : Bot) (disk : Disk) (path : Text) :
    (bot.loadFile disk path).1.mind.live = bot.mind.live := by
  unfold loadFile
  split <;> rfl

theorem live_loadDirectory (bot : Bot) (disk : Disk) (directory : Text) :
    (bot.loadDirectory disk directory).1.mind.live = bot.mind.live := by
  apply loadDirectory_induction (motive := fun loaded => loaded.mind.live = bot.mind.live) rfl disk
  intro loaded path hloaded
  exact (live_loadFile loaded disk path).trans hloaded

variable {bot : Bot} {operation : Operation}

theorem live_perform (hstaging : operation.isStaging) (hdefines : ¬ operation.defines) :
    (bot.perform operation).mind.live = bot.mind.live := by
  cases operation with
  | load source script => rfl
  | loadFile disk path => exact live_loadFile bot disk path
  | loadDirectory disk directory => exact live_loadDirectory bot disk directory
  | sort => cases hstaging
  | answer user message => cases hstaging
  | setUserVariable user name value => rfl
  | setUserVariables user values => rfl
  | equip collaborators memory => rfl
  | _ => exact absurd rfl hdefines

theorem draft_graph_perform (hstaging : operation.isStaging) (hloads : ¬ operation.loads) :
    (bot.perform operation).mind.draft.graph = bot.mind.draft.graph := by
  cases operation with
  | setGlobal name value => exact bot.mind.draft.graph_setGlobal?_getD name value
  | setVariable name value => rfl
  | setSubstitution pattern output => rfl
  | setPerson pattern output => rfl
  | sort => cases hstaging
  | answer user message => cases hstaging
  | setUserVariable user name value => rfl
  | setUserVariables user values => rfl
  | equip collaborators memory => rfl
  | _ => exact absurd rfl hloads

/-- A change of a definition publishes all that the draft holds. -/
theorem sorts_perform (hdefines : operation.defines) :
    (bot.perform operation).mind.live.Sorts bot.mind.draft.graph := by
  have hupdate : ∀ f : Persona → Persona, (f bot.mind.draft).graph = bot.mind.draft.graph →
      (bot.mind.update f).live.Sorts bot.mind.draft.graph := by
    intro f hf
    rw [← hf]
    exact Snapshot.sorts_publish (f bot.mind.draft)
  cases operation with
  | setGlobal name value =>
    exact hupdate (fun persona => (bot.mind.draft.setGlobal? name value).getD persona)
      (bot.mind.draft.graph_setGlobal?_getD name value)
  | setVariable name value => exact hupdate (·.setVariable name value) rfl
  | setSubstitution pattern output => exact hupdate (·.setSubstitution pattern output) rfl
  | setPerson pattern output => exact hupdate (·.setPerson pattern output) rfl
  | _ => cases hdefines

/-! ## Runs -/

variable {operations : List Operation}

theorem live_run
    (hstaging : ∀ operation ∈ operations, operation.isStaging)
    (hdefines : ∀ operation ∈ operations, ¬ operation.defines) :
    (bot.run operations).mind.live = bot.mind.live := by
  induction operations generalizing bot with
  | nil => rfl
  | cons operation operations ih =>
    rw [List.forall_mem_cons] at hstaging hdefines
    exact (ih hstaging.2 hdefines.2).trans (live_perform hstaging.1 hdefines.1)

theorem draft_graph_run
    (hstaging : ∀ operation ∈ operations, operation.isStaging)
    (hloads : ∀ operation ∈ operations, ¬ operation.loads) :
    (bot.run operations).mind.draft.graph = bot.mind.draft.graph := by
  induction operations generalizing bot with
  | nil => rfl
  | cons operation operations ih =>
    rw [List.forall_mem_cons] at hstaging hloads
    exact (ih hstaging.2 hloads.2).trans (draft_graph_perform hstaging.1 hloads.1)

/-- The operation is the last of the run that changes a definition. -/
structure DefinesLast (operations earlier : List Operation) (operation : Operation) : Prop where
  defines : operation.defines
  split : ∃ later, operations = earlier ++ operation :: later ∧ ∀ other ∈ later, ¬ other.defines

theorem exists_definesLast (hdefines : ∃ operation ∈ operations, operation.defines) :
    ∃ earlier operation, DefinesLast operations earlier operation := by
  induction operations with
  | nil => simp at hdefines
  | cons first operations ih =>
    by_cases hrest : ∃ operation ∈ operations, operation.defines
    · obtain ⟨earlier, operation, hlast, later, rfl, hlater⟩ := ih hrest
      exact ⟨first :: earlier, operation, hlast, later, rfl, hlater⟩
    · have hfirst : first.defines := by
        simpa [hrest] using hdefines
      exact ⟨[], first, hfirst, operations, rfl, by simpa using hrest⟩

theorem DefinesLast.sorts_run
    {earlier : List Operation} (hlast : DefinesLast operations earlier operation)
    (hstaging : ∀ operation ∈ operations, operation.isStaging) :
    (bot.run operations).mind.live.Sorts (bot.run earlier).mind.draft.graph := by
  obtain ⟨hdefines, later, rfl, hlater⟩ := hlast
  have hquiet : ∀ other ∈ later, other.isStaging := fun other hother =>
    hstaging other (List.mem_append_right _ (List.mem_cons_of_mem _ hother))
  have hlive : (bot.run (earlier ++ operation :: later)).mind.live =
      ((bot.run earlier).perform operation).mind.live := by
    rw [run_append]
    exact live_run hquiet hlater
  rw [hlive]
  exact sorts_perform hdefines

end Bot

/-- What is done between two sorts keeps the live topics and their orders exactly when the draft had
the same topics at the last change of a definition, if there was one: that change makes the topics
live which the draft has by then.  The draft gets other topics only from the scripts it reads. -/
theorem run_keeps_topics_iff_draft_unchanged
    {bot : Bot} (hbot : bot.Reachable) (operations : List Bot.Operation)
    (hstaging : ∀ operation ∈ operations, operation.isStaging) :
    let after := (bot.run operations).mind.live
    (after.SameTopics bot.mind.live ↔
      ∀ earlier operation, Bot.DefinesLast operations earlier operation →
        (bot.run earlier).mind.draft.graph.link = bot.mind.live.persona.graph) ∧
    ((∀ operation ∈ operations, ¬ operation.defines) → after = bot.mind.live) ∧
    ∀ earlier operation, Bot.DefinesLast operations earlier operation →
      after.Sorts (bot.run earlier).mind.draft.graph ∧
        ((∀ other ∈ earlier, ¬ other.loads) →
          (bot.run earlier).mind.draft.graph = bot.mind.draft.graph) := by
  intro after
  have hpublished : bot.mind.live.Published := hbot.wellFormed.live
  have hsorts : ∀ earlier operation, Bot.DefinesLast operations earlier operation →
      after.Sorts (bot.run earlier).mind.draft.graph :=
    fun _ _ hlast => hlast.sorts_run hstaging
  refine ⟨⟨?_, ?_⟩, Bot.live_run hstaging, ?_⟩
  · intro hsame earlier operation hlast
    exact ((hsorts earlier operation hlast).sameTopics_iff hpublished).mp hsame
  · intro hdraft
    by_cases hdefines : ∃ operation ∈ operations, operation.defines
    · obtain ⟨earlier, operation, hlast⟩ := Bot.exists_definesLast hdefines
      exact ((hsorts earlier operation hlast).sameTopics_iff hpublished).mpr
        (hdraft earlier operation hlast)
    · have hlive : after = bot.mind.live := Bot.live_run hstaging (by simpa using hdefines)
      rw [hlive]
      exact ⟨rfl, rfl⟩
  · intro earlier operation hlast
    refine ⟨hsorts earlier operation hlast, fun hloads => Bot.draft_graph_run ?_ hloads⟩
    obtain ⟨-, later, rfl, -⟩ := hlast
    exact fun other hother => hstaging other (List.mem_append_left _ hother)

/-- Of two scripts that are read after the last sort, the one that is read before a variable is set
goes live with it, and the other one stays in the draft. -/
theorem run_publishes_script_before_definition :
    let bot := Bot.ofScript "+ hello\n- hi\n".toList
    let first : Bot.Operation := .load Mind.streamed "+ bye\n- see you\n".toList
    let set : Bot.Operation := .setVariable "mood".toList (some "good".toList)
    let second : Bot.Operation := .load Mind.streamed "+ thanks\n- welcome\n".toList
    let after := (bot.run [first, set, second]).mind.live
    after.Sorts (bot.run [first]).mind.draft.graph ∧ ¬ after.SameTopics bot.mind.live ∧
      after.order defaultTopic = ["hello".toList, "bye".toList] := by
  intro bot first set second after
  have hbot : bot.Reachable := Bot.reachable_ofScript _
  have hlast : Bot.DefinesLast [first, set, second] [first] set :=
    ⟨rfl, [second], rfl, by decide⟩
  obtain ⟨hiff, -, hsorts⟩ :=
    run_keeps_topics_iff_draft_unchanged hbot [first, set, second] (by decide)
  refine ⟨(hsorts _ _ hlast).1, ?_, by decide +kernel⟩
  intro hsame
  have hdraft : (bot.run [first]).mind.draft.graph.link ≠ bot.mind.live.persona.graph := by
    decide +kernel
  exact hdraft (hiff.mp hsame _ _ hlast)

/-- A script that was read but not sorted goes live when a variable is set. -/
theorem definition_makes_unsorted_topics_live :
    let bot := Bot.new { seed := 0 } {} none
    let operations : List Bot.Operation :=
      [.load Mind.streamed "+ hello\n- hi\n".toList,
        .setVariable "mood".toList (some "good".toList)]
    let after := bot.run operations
    (∀ operation ∈ operations, operation.isStaging) ∧
      bot.mind.live.order defaultTopic = [] ∧
      (bot.answer ['u'] "hello".toList).2.reply = noReplyMatched ∧
      after.mind.live.order defaultTopic = ["hello".toList] ∧
      (after.answer ['u'] "hello".toList).2.reply = "hi".toList := by
  decide +kernel

end DialogueScript

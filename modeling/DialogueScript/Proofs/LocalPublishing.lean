import DialogueScript.Bot
import DialogueScript.Proofs.CachedMatching
import DialogueScript.Proofs.GrowingTopics
import DialogueScript.Proofs.ScriptLines
import DialogueScript.Proofs.SelectionScope
import DialogueScript.Proofs.TopicEdits

/-!
# Publishing one more topic

A script that stands in the block of one topic changes this topic and nothing else of the draft.
Publishing ranks every topic anew, but what it makes of a topic depends only on the topics that are
reachable from it.  So the topics that do not lead to the changed one keep their match order, their
patterns for previous replies and whatever they select.
-/

namespace DialogueScript

/-! ## Personas that differ in one topic -/

/-- The persona with changes to the topic of this name only. -/
structure Persona.Confined (name : Text) (persona later : Persona) : Prop where
  eq_withGraph : later = persona.withGraph later.graph
  keep_eq : (later.graph.keep fun other => other ≠ name) =
    persona.graph.keep fun other => other ≠ name

namespace Persona.Confined

variable {name : Text} {persona later : Persona}

theorem refl (name : Text) (persona : Persona) : persona.Confined name persona :=
  ⟨rfl, rfl⟩

theorem topic?_eq (hconfined : persona.Confined name later) {other : Text} (hother : other ≠ name) :
    later.graph.topic? other = persona.graph.topic? other := by
  have hkeep : ∀ graph : Graph,
      (graph.keep fun other => other ≠ name).topic? other = graph.topic? other := fun graph =>
    Graph.topic?_keep (decide_eq_true hother)
  rw [← hkeep later.graph, hconfined.keep_eq, hkeep]

theorem modifyTopic
    (hconfined : persona.Confined name later) {f : Topic → Topic}
    (hf : ∀ topic, (f topic).name = topic.name) :
    persona.Confined name { later with graph := later.graph.modifyTopic name f } := by
  let edit : Graph.Edit := { name, change := f, name_change := hf }
  have hkeep : ((later.graph.modifyTopic name f).keep fun other => other ≠ name) =
      later.graph.keep fun other => other ≠ name :=
    Graph.keep_modifyTopic_of_not_kept edit (by simp [edit])
  constructor
  · rw [hconfined.eq_withGraph]
    rfl
  · rw [← hconfined.keep_eq, ← hkeep]

end Persona.Confined

namespace Script

/-! ## Scripts that stand in a block -/

/-- A line outside of objects that is read: its command, the text that it is read with, and the
previous reply of a trigger. -/
def directive? (inComment : Bool) (line : Text) (following : List Text) :
    Option (Char × Text × Option Text) :=
  match (readsLine inComment (Text.trim line)).2, Text.trim line with
  | true, command :: rest =>
    some (command, gatherFor command (Text.before commentMark (Text.trim rest)) following)
  | _, _ => none

def isCommand (c : Char) : Bool :=
  c ∈ "!><+-&=@*%^".toList

def opensTopic (name text : Text) : Bool :=
  let words := Text.words text
  Text.lower (words.head?.getD []) = "topic".toList && words[1]? = some name

/-- A label that opens an object or another topic. -/
def leavesTopic (name text : Text) : Bool :=
  let words := Text.words text
  let label := Text.lower (words.head?.getD [])
  label = "begin".toList || label = "object".toList ||
    label = "topic".toList && words[1]?.any (· ≠ name)

def endsBlock (text : Text) : Bool :=
  let label := Text.lower (Text.trim text)
  label = "begin".toList || label = "topic".toList

/-- The parts of a script around the block of a topic. -/
inductive Stretch where
  | above
  | inside
  | below
deriving Repr, DecidableEq

/-- The part after a directive of a script that stands in the block of a topic: no command stands
outside of it, and inside nothing is defined and nothing else is opened. -/
def Stretch.next? (name : Text) (stretch : Stretch) (command : Char) (text : Text) :
    Option Stretch :=
  match stretch with
  | .above =>
    if command = '>' && opensTopic name text then some .inside
    else if isCommand command then none
    else some .above
  | .inside =>
    if command = '<' && endsBlock text then some .below
    else if command = '!' || command = '>' && leavesTopic name text then none
    else some .inside
  | .below => if isCommand command then none else some .below

def staysInBlock (name : Text) (stretch : Stretch) (inComment : Bool) : List Text → Bool
  | [] => true
  | line :: following =>
    let inComment' := (readsLine inComment (Text.trim line)).1
    match directive? inComment line following with
    | none => staysInBlock name stretch inComment' following
    | some (command, text, _) =>
      (stretch.next? name command text).any fun stretch =>
        staysInBlock name stretch inComment' following

/-- All directives of a script stand in one block of a topic, and none defines anything or opens an
object. -/
def StandsInBlock (name script : Text) : Prop :=
  staysInBlock name .above false (Text.lines script)

/-! ## Reading a block -/

variable {name : Text} {persona : Persona} {state : State}

/-- Outside of objects, the persona has been changed in the topic of this name only, and inside of
the block this topic is open. -/
structure State.InBlock (name : Text) (persona : Persona) (stretch : Stretch) (state : State) :
    Prop where
  object_eq : state.object = none
  confined : persona.Confined name state.persona
  topic_eq : stretch = .inside → state.topic = name

theorem readLine_of_object_eq_none
    (hobject : state.object = none) (collaborators : Collaborators) (place : Place) (line : Text)
    (following : List Text) :
    readLine collaborators place line following state =
      match directive? state.inComment line following with
      | none => .ok { state with inComment := (readsLine state.inComment (Text.trim line)).1 }
      | some (command, text, previous) =>
        readDirective { state with inComment := (readsLine state.inComment (Text.trim line)).1 }
          place command text previous := by
  unfold readLine directive?
  rw [hobject]
  dsimp only
  cases (readsLine state.inComment (Text.trim line)).2 with
  | false => simp [← hobject]
  | true =>
    cases Text.trim line with
    | nil => simp [← hobject]
    | cons command rest => simp [← hobject]

theorem readDirective_of_not_isCommand
    {command : Char} (hcommand : isCommand command = false) (place : Place) (text : Text)
    (previous : Option Text) :
    readDirective state place command text previous =
      .ok (state.warn place (.unknownCommand command)) := by
  unfold readDirective
  split
  all_goals first
    | rfl
    | exact absurd hcommand (by decide)

theorem openLabel_of_opensTopic
    {text : Text} (hopens : opensTopic name text) (state : State) (place : Place) :
    openLabel state place text = openTopic state name ((Text.words text).drop 2) := by
  obtain ⟨hlabel, hname⟩ : Text.lower ((Text.words text).head?.getD []) = "topic".toList ∧
      (Text.words text)[1]? = some name := by
    simpa only [opensTopic, Bool.and_eq_true, decide_eq_true_eq] using hopens
  have hfilled : name.isEmpty = false := by
    simpa using (List.mem_filter.mp (List.mem_of_getElem? hname)).2
  have hbegin : "topic".toList ≠ "begin".toList := by decide
  unfold openLabel
  dsimp only
  rw [hlabel, hname, if_neg hbegin, if_pos rfl, Option.getD_some, hfilled]
  rfl

namespace State.InBlock

variable {stretch : Stretch}

theorem warn
    (hstate : state.InBlock name persona stretch) (place : Place) (cause : Cause) :
    (state.warn place cause).InBlock name persona stretch :=
  ⟨hstate.object_eq, hstate.confined, hstate.topic_eq⟩

theorem openTopic (hstate : state.InBlock name persona stretch) (words : List Text) :
    (Script.openTopic state name words).InBlock name persona .inside where
  object_eq := hstate.object_eq
  confined := hstate.confined.modifyTopic fun topic => (topic.triggers_addEdges none words).2
  topic_eq := fun _ => rfl

theorem openLabel
    (hstate : state.InBlock name persona .inside) (place : Place) {text : Text}
    (hstays : leavesTopic name text = false) :
    (Script.openLabel state place text).InBlock name persona .inside := by
  obtain ⟨⟨hbegin, hobject⟩, hother⟩ : (Text.lower ((Text.words text).head?.getD []) ≠
      "begin".toList ∧ Text.lower ((Text.words text).head?.getD []) ≠ "object".toList) ∧
        (Text.lower ((Text.words text).head?.getD []) = "topic".toList →
          ∀ other, (Text.words text)[1]? = some other → other = name) := by
    simpa only [leavesTopic, Bool.or_eq_false_iff, Bool.and_eq_false_imp, decide_eq_true_eq,
      decide_eq_false_iff_not, Option.any_eq_false, Bool.not_eq_true, not_not] using hstays
  by_cases hopens : opensTopic name text
  · rw [openLabel_of_opensTopic hopens]
    exact hstate.openTopic _
  · unfold Script.openLabel
    dsimp only
    rw [if_neg hbegin, if_neg hobject]
    split
    · rename_i hlabel
      have hnone : (Text.words text)[1]? = none := by
        cases hname : (Text.words text)[1]? with
        | none => rfl
        | some other =>
          obtain rfl := hother hlabel other hname
          refine absurd ?_ hopens
          simp only [opensTopic, hlabel, hname, decide_true, Bool.and_self]
      rw [hnone]
      exact hstate.warn _ _
    · exact hstate.warn _ _

theorem modifyTrigger
    (hstate : state.InBlock name persona .inside) (key : Trigger.Key) (f : Trigger → Trigger) :
    (Script.modifyTrigger state key f).InBlock name persona .inside where
  object_eq := hstate.object_eq
  confined := by
    have hconfined := hstate.confined.modifyTopic fun topic => topic.name_modifyTrigger key f
    rw [← hstate.topic_eq rfl] at hconfined
    rwa [← hstate.topic_eq rfl]
  topic_eq := hstate.topic_eq

theorem openTrigger
    (hstate : state.InBlock name persona .inside) (pattern : Text) (previous : Option Text) :
    (Script.openTrigger state pattern previous).InBlock name persona .inside := by
  have hopen : ∀ {state : State} (key : Trigger.Key), state.InBlock name persona .inside →
      ({ Script.modifyTrigger state key id with trigger := some key } : State).InBlock name
        persona .inside := by
    intro state key hstate
    have hmodified := hstate.modifyTrigger key id
    exact ⟨hmodified.object_eq, hmodified.confined, hmodified.topic_eq⟩
  cases previous with
  | none => exact hopen _ hstate
  | some previous => exact hopen _ (hstate.modifyTrigger _ _)

theorem addPart
    (hstate : state.InBlock name persona .inside) (place : Place) (part : Part) (text : Text) :
    (Script.addPart state place part text).InBlock name persona .inside := by
  unfold Script.addPart
  split
  · exact hstate.warn _ _
  · exact hstate.modifyTrigger _ _

theorem closeLabel
    (hstate : state.InBlock name persona .inside) (place : Place) {text : Text} :
    (Script.closeLabel state place text).InBlock name persona
      (if endsBlock text then .below else .inside) := by
  unfold Script.closeLabel endsBlock
  dsimp only
  split
  · exact ⟨hstate.object_eq, hstate.confined, nofun⟩
  · split
    · exact hstate
    · exact hstate.warn _ _

theorem readDirective_inside
    {next : Stretch} {command : Char} {text : Text} (hstate : state.InBlock name persona .inside)
    (hnext : Stretch.inside.next? name command text = some next) (place : Place)
    (previous : Option Text) :
    ∃ later, Script.readDirective state place command text previous = .ok later ∧
      later.InBlock name persona next := by
  unfold Stretch.next? at hnext
  dsimp only at hnext
  by_cases hclose : command = '<'
  · subst hclose
    obtain rfl : (if endsBlock text then Stretch.below else .inside) = next := by
      cases hends : endsBlock text <;> simpa [hends] using hnext
    exact ⟨_, rfl, hstate.closeLabel place⟩
  · rw [if_neg (by simp [hclose])] at hnext
    split at hnext
    · cases hnext
    · rename_i hcommand
      obtain rfl := Option.some.inj hnext
      obtain ⟨hdefinition, hlabel⟩ : command ≠ '!' ∧
          (command = '>' → leavesTopic name text = false) := by
        simpa using hcommand
      unfold Script.readDirective
      split
      · exact absurd rfl hdefinition
      · exact ⟨_, rfl, hstate.openLabel place (hlabel rfl)⟩
      · exact absurd rfl hclose
      · exact ⟨_, rfl, hstate.openTrigger _ _⟩
      · exact ⟨_, rfl, hstate.addPart _ _ _⟩
      · exact ⟨_, rfl, hstate.addPart _ _ _⟩
      · exact ⟨_, rfl, hstate.addPart _ _ _⟩
      · exact ⟨_, rfl, hstate.addPart _ _ _⟩
      · exact ⟨_, rfl, hstate.addPart _ _ _⟩
      · exact ⟨_, rfl, hstate⟩
      · exact ⟨_, rfl, hstate⟩
      · exact ⟨_, rfl, hstate.warn _ _⟩

/-- What a directive of the script does, part by part. -/
theorem readDirective
    {next : Stretch} {command : Char} {text : Text} (hstate : state.InBlock name persona stretch)
    (hnext : stretch.next? name command text = some next) (place : Place)
    (previous : Option Text) :
    ∃ later, Script.readDirective state place command text previous = .ok later ∧
      later.InBlock name persona next := by
  have houtside : isCommand command = false → next = stretch →
      ∃ later, Script.readDirective state place command text previous = .ok later ∧
        later.InBlock name persona next := by
    rintro hcommand rfl
    exact ⟨_, readDirective_of_not_isCommand hcommand place text previous, hstate.warn _ _⟩
  cases stretch with
  | inside => exact hstate.readDirective_inside hnext place previous
  | above =>
    unfold Stretch.next? at hnext
    dsimp only at hnext
    split at hnext
    · rename_i hopens
      obtain ⟨rfl, hopens⟩ : command = '>' ∧ opensTopic name text := by simpa using hopens
      obtain rfl := Option.some.inj hnext
      refine ⟨_, rfl, ?_⟩
      rw [openLabel_of_opensTopic hopens]
      exact hstate.openTopic _
    · split at hnext
      · cases hnext
      · rename_i hcommand
        exact houtside (by simpa using hcommand) (Option.some.inj hnext).symm
  | below =>
    unfold Stretch.next? at hnext
    dsimp only at hnext
    split at hnext
    · cases hnext
    · rename_i hcommand
      exact houtside (by simpa using hcommand) (Option.some.inj hnext).symm

end State.InBlock

theorem inComment_readDirective
    (hobject : state.object = none) {place : Place} {command : Char} {text : Text}
    {previous : Option Text} {later : State}
    (hread : readDirective state place command text previous = .ok later) :
    later.inComment = state.inComment := by
  have hmode := mode_readDirective place text hobject command previous
  rw [hread] at hmode
  unfold Mode.afterDirective at hmode
  split at hmode
  · cases hmode
  · exact congrArg Mode.inComment (Option.some.inj hmode)

/-- By induction on the lines, each of which leaves the persona changed in one topic only. -/
theorem confined_readLines
    {stretch : Stretch} {lines : List Text}
    (hblock : staysInBlock name stretch state.inComment lines)
    (hstate : state.InBlock name persona stretch) (collaborators : Collaborators) (place : Place) :
    persona.Confined name (readLines collaborators place lines state).1.persona := by
  induction lines generalizing stretch state place with
  | nil => exact hstate.confined
  | cons line following ih =>
    have hentered : ({ state with
        inComment := (readsLine state.inComment (Text.trim line)).1 } : State).InBlock name
          persona stretch :=
      ⟨hstate.object_eq, hstate.confined, hstate.topic_eq⟩
    rw [staysInBlock] at hblock
    rw [readLines, readLine_of_object_eq_none hstate.object_eq]
    cases hdirective : directive? state.inComment line following with
    | none =>
      rw [hdirective] at hblock
      exact ih hblock hentered _
    | some found =>
      obtain ⟨command, text, previous⟩ := found
      rw [hdirective] at hblock
      cases hnext : stretch.next? name command text with
      | none => simp [hnext] at hblock
      | some next =>
        obtain ⟨later, hread, hlater⟩ := hentered.readDirective hnext place previous
        have hcomment := inComment_readDirective hentered.object_eq hread
        dsimp only
        rw [hread]
        refine ih ?_ hlater _
        rw [hcomment]
        simpa [hnext] using hblock

theorem confined_read
    {script : Text} (hblock : StandsInBlock name script) (collaborators : Collaborators)
    (persona : Persona) (source : Text) :
    persona.Confined name (read collaborators persona source script).persona := by
  have hstart : ({ persona } : State).InBlock name persona .above :=
    ⟨rfl, .refl name persona, nofun⟩
  have hlines : staysInBlock name .above ({ persona } : State).inComment (Text.lines script) :=
    hblock
  rw [persona_read]
  exact confined_readLines hlines hstart collaborators _

end Script

/-! ## Linking again -/

namespace Graph

variable {graph later : Graph} {name : Text}

theorem Extends.mem_targets
    (hextends : graph.Extends later) {target : Text}
    (htarget : target ∈ graph.topics.flatMap Topic.targets) :
    target ∈ later.topics.flatMap Topic.targets := by
  obtain ⟨topic, htopic, hmem⟩ := List.mem_flatMap.mp htarget
  obtain ⟨place, hplace⟩ := List.mem_iff_getElem?.mp htopic
  obtain ⟨grown, hgrown, hsucceeds⟩ := hextends place topic hplace
  refine List.mem_flatMap.mpr ⟨grown, List.mem_of_getElem? hgrown, ?_⟩
  rcases List.mem_append.mp hmem with hmem | hmem
  · exact List.mem_append_left _ (hsucceeds.includes.subset hmem)
  · exact List.mem_append_right _ (hsucceeds.inherits.subset hmem)

/-- The topics that are there when the graph is linked, and do not lead to this one. -/
def Apart (graph : Graph) (name other : Text) : Prop :=
  graph.link.contains other ∧ ¬ graph.link.Reaches other name

theorem Apart.ne {other : Text} (hapart : graph.Apart name other) : other ≠ name := by
  rintro rfl
  exact hapart.2 .refl

/-- What an edge of the linked graph leads to is there. -/
theorem contains_link_of_edge {source target : Text} (hedge : graph.link.Edge source target) :
    graph.link.contains target := by
  rw [edge_link] at hedge
  obtain ⟨topic, htopic, htarget⟩ := hedge
  have hmem : target ∈ graph.topics.flatMap Topic.targets :=
    List.mem_flatMap.mpr ⟨topic, (topic?_name htopic).1, htarget⟩
  rw [contains, topic?_link, if_pos hmem]
  cases graph.topic? target <;> rfl

/-- Topics that do not lead to the changed one are linked as before. -/
theorem agreesOn_link
    (htopics : ∀ other, other ≠ name → later.topic? other = graph.topic? other)
    (hextends : graph.Extends later) :
    graph.link.AgreesOn (graph.Apart name) later.link := by
  constructor
  · intro other hapart
    rw [topic?_link, topic?_link, htopics other hapart.ne]
    cases hfound : graph.topic? other with
    | some topic => rfl
    | none =>
      have hcontains := hapart.1
      rw [contains, topic?_link, hfound, Option.none_or] at hcontains
      have hnamed : other ∈ graph.topics.flatMap Topic.targets := by
        by_contra hunnamed
        rw [if_neg hunnamed] at hcontains
        cases hcontains
      rw [if_pos hnamed, if_pos (hextends.mem_targets hnamed)]
  · intro source topic hapart htopic target htarget
    have hedge : graph.link.Edge source target := ⟨topic, htopic, htarget⟩
    exact ⟨contains_link_of_edge hedge, fun hreach => hapart.2 (.head hedge hreach)⟩

end Graph

/-! ## Loading and sorting -/

/-- To a user in a topic that does not lead to this one, a script that stands in its block makes no
difference. -/
theorem selectsAlikeOn_read
    {name script : Text} (hblock : Script.StandsInBlock name script)
    (collaborators : Collaborators) (persona : Persona) (source : Text) (session : Session) :
    SelectsAlikeOn (persona.graph.Apart name) persona
      (Script.read collaborators persona source script).persona session session := by
  have hconfined := Script.confined_read hblock collaborators persona source
  have hextends : persona.graph.Extends _ :=
    .of_declared (Script.declares_read collaborators persona source script)
  constructor
  · rw [hconfined.eq_withGraph]
    rfl
  · exact Graph.agreesOn_link (fun _ => hconfined.topic?_eq) hextends
  · rfl
  · exact fun _ _ _ => rfl

/-- A script that stands in the block of one topic is loaded into a sorted bot, and the bot is
sorted again.  Each topic that does not lead to that one keeps its match order and its patterns for
previous replies, and selects the same trigger with the same stars for every message in every
session; messages are normalized as before. -/
theorem sort_load_keeps_topics_apart
    {bot : Bot} (hsorted : bot.mind.live = bot.mind.draft.publish) (source : Text)
    {name script : Text} (hblock : Script.StandsInBlock name script) {other : Text}
    (hcontains : bot.mind.live.persona.graph.contains other)
    (hreach : ¬ bot.mind.live.persona.graph.Reaches other name) :
    let later := (bot.load source script).1.sort.1
    later.mind.live.order other = bot.mind.live.order other ∧
      (later.mind.live.persona.graph.topic? other).map Topic.previousIndex =
        (bot.mind.live.persona.graph.topic? other).map Topic.previousIndex ∧
      (∀ message, later.mind.live.persona.normalize message =
        bot.mind.live.persona.normalize message) ∧
      ∀ session message step cache cache',
        ((later.mind.live.search session other message step).run cache').1 =
          ((bot.mind.live.search session other message step).run cache).1 := by
  intro later
  have hlater : later.mind.live =
      (Script.read bot.mind.collaborators bot.mind.draft source script).persona.publish := rfl
  have halike := selectsAlikeOn_read hblock bot.mind.collaborators bot.mind.draft source
  rw [hsorted] at hcontains hreach
  have hapart : bot.mind.draft.graph.Apart name other := ⟨hcontains, hreach⟩
  rw [hlater, hsorted]
  refine ⟨(halike (Session.new [] 0)).order_publish_eq hapart, ?_,
    (halike (Session.new [] 0)).normalize_publish_eq, ?_⟩
  · exact congrArg (Option.map Topic.previousIndex)
      ((halike (Session.new [] 0)).graph.topic?_eq other hapart)
  · intro session message step cache cache'
    rw [Snapshot.yields_search, Snapshot.yields_search]
    exact (halike session).select?_eq hapart message step

/-- Two topics lead to each other, and the topic of the script leads to them. -/
theorem sort_load_keeps_topics_apart_from_games :
    let near : Topic :=
      { name := ['a'], triggers := [{ topic := ['a'], key := ⟨"hello *".toList, none⟩ }],
        includes := [['b']] }
    let far : Topic := { name := ['b'], inherits := [['a']] }
    let persona : Persona := { Persona.new 50 with graph := ⟨[near, far]⟩ }
    let mind : Mind :=
      { draft := persona, live := persona.publish, random := Random.Stream.ofSeed 0 }
    let bot : Bot := { options := { seed := 0 }, mind }
    let games := "games".toList
    let script :=
      "// more\n> topic games includes a\n+ hello *\n% shall we play\n- yes\n< topic".toList
    Script.StandsInBlock games script ∧ bot.mind.live.persona.graph.contains ['a'] ∧
      ¬ bot.mind.live.persona.graph.Reaches ['a'] games ∧
      (bot.load [] script).1.sort.1.mind.live.order ['a'] = bot.mind.live.order ['a'] := by
  intro near far persona mind bot games script
  have hblock : Script.StandsInBlock games script := by
    unfold Script.StandsInBlock
    decide +kernel
  have hcontains : bot.mind.live.persona.graph.contains ['a'] := by decide
  have hclosed : ∀ source ∈ [['a'], ['b']],
      ∀ topic ∈ bot.mind.live.persona.graph.topic? source,
        ∀ next ∈ topic.targets, next ∈ [['a'], ['b']] := by
    decide
  have hmembers : ∀ target, bot.mind.live.persona.graph.Reaches ['a'] target →
      target ∈ [['a'], ['b']] := by
    intro target hreach
    induction hreach with
    | refl => decide
    | tail _ hedge ih =>
      obtain ⟨topic, htopic, hnext⟩ := hedge
      exact hclosed _ ih topic htopic _ hnext
  have hreach : ¬ bot.mind.live.persona.graph.Reaches ['a'] games := by
    intro hreach
    exact absurd (hmembers games hreach) (by decide)
  have hkept := sort_load_keeps_topics_apart rfl [] hblock hcontains hreach
  exact ⟨hblock, hcontains, hreach, hkept.1⟩

end DialogueScript

import DialogueScript.Proofs.Declarations
import DialogueScript.Proofs.TurnMoves

/-!
# Reachable bots

A caller makes a bot and then does one thing with it after the other.  Whatever is done, the draft
is well-formed, and what replies read was published from a draft that was.  This holds in the
middle of a turn too, where a reply may change the draft and publish it.
-/

namespace DialogueScript

/-- Made from a well-formed draft. -/
def Snapshot.Published (snapshot : Snapshot) : Prop :=
  ∃ persona : Persona, persona.graph.WellFormed ∧ snapshot = persona.publish

namespace Mind

structure WellFormed (mind : Mind) : Prop where
  draft : mind.draft.graph.WellFormed
  live : mind.live.Published

theorem WellFormed.of_eq
    {mind after : Mind} (hmind : mind.WellFormed) (hdraft : after.draft = mind.draft)
    (hlive : after.live = mind.live) :
    after.WellFormed := by
  constructor
  · rw [hdraft]
    exact hmind.draft
  · rw [hlive]
    exact hmind.live

theorem wellFormed_new (depth seed : UInt64) : (new depth seed).WellFormed :=
  ⟨Graph.wellFormed_empty, Persona.new depth, Graph.wellFormed_empty, rfl⟩

theorem WellFormed.read {mind : Mind} (hmind : mind.WellFormed) (source script : Text) :
    (mind.read source script).1.WellFormed :=
  ⟨hmind.draft.read mind.collaborators source script, hmind.live⟩

theorem WellFormed.publish {mind : Mind} (hmind : mind.WellFormed) : mind.publish.WellFormed :=
  ⟨hmind.draft, mind.draft, hmind.draft, rfl⟩

theorem WellFormed.update
    {mind : Mind} (hmind : mind.WellFormed) (f : Persona → Persona)
    (hf : (f mind.draft).graph = mind.draft.graph) :
    (mind.update f).WellFormed := by
  have hdraft : (f mind.draft).graph.WellFormed := by
    rw [hf]
    exact hmind.draft
  exact ⟨hdraft, f mind.draft, hdraft, rfl⟩

theorem WellFormed.change {mind : Mind} (hmind : mind.WellFormed) (change : Change) :
    (mind.change change).WellFormed := by
  cases change with
  | code script => exact (hmind.read streamed script).publish
  | facts facts =>
    have hgraph : ∀ persona : Persona, (facts.foldl
        (fun persona fact => persona.setVariable fact.1 (some fact.2)) persona).graph =
        persona.graph := by
      intro persona
      induction facts generalizing persona with
      | nil => rfl
      | cons fact facts ih => exact ih _
    exact hmind.update (fun persona => facts.foldl
      (fun persona fact => persona.setVariable fact.1 (some fact.2)) persona)
      (hgraph mind.draft)

end Mind

namespace Turn

theorem Move.wellFormed
    {turn after : Turn} (hmove : Move turn after) (hmind : turn.mind.WellFormed) :
    after.mind.WellFormed := by
  cases hmove with
  | code script => exact hmind.change (.code script)
  | learn facts _ => exact hmind.change (.facts facts)
  | save key content tags =>
    obtain ⟨-, hdraft, hlive⟩ := turn.mind.persona_save key content tags
    exact hmind.of_eq hdraft hlive
  | _ => exact hmind.of_eq rfl rfl

theorem Moves.wellFormed
    {turn after : Turn} (hmoves : Moves turn after) (hmind : turn.mind.WellFormed) :
    after.mind.WellFormed := by
  induction hmoves with
  | refl => exact hmind
  | tail _ hmove ih => exact hmove.wellFormed ih

end Turn

namespace Bot

/-- What a caller may do with a bot. -/
inductive Operation where
  | load (source script : Text)
  | loadFile (disk : Disk) (path : Text)
  | loadDirectory (disk : Disk) (directory : Text)
  | sort
  | answer (user message : Text)
  | setGlobal (name : Text) (value : Option Text)
  | setVariable (name : Text) (value : Option Text)
  | setSubstitution (pattern : Text) (output : Option Text)
  | setPerson (pattern : Text) (output : Option Text)
  | setUserVariable (user name : Text) (value : Option Text)
  | setUserVariables (user : Text) (values : Table Text)
  | equip (collaborators : Collaborators) (memory : Option Memory)

def perform (bot : Bot) : Operation → Bot
  | .load source script => (bot.load source script).1
  | .loadFile disk path => (bot.loadFile disk path).1
  | .loadDirectory disk directory => (bot.loadDirectory disk directory).1
  | .sort => bot.sort.1
  | .answer user message => (bot.answer user message).1
  | .setGlobal name value => (bot.setGlobal name value).1
  | .setVariable name value => bot.setVariable name value
  | .setSubstitution pattern output => bot.setSubstitution pattern output
  | .setPerson pattern output => bot.setPerson pattern output
  | .setUserVariable user name value => bot.setUserVariable user name value
  | .setUserVariables user values => bot.setUserVariables user values
  | .equip collaborators memory => { bot with mind := { bot.mind with collaborators, memory } }

inductive Reachable : Bot → Prop
  | new (options : Options) (collaborators : Collaborators) (memory : Option Memory) :
    Reachable (new options collaborators memory)
  | perform {bot : Bot} (hbot : Reachable bot) (operation : Operation) :
    Reachable (bot.perform operation)

theorem wellFormed_loadFile
    {bot : Bot} (hmind : bot.mind.WellFormed) (disk : Disk) (path : Text) :
    (bot.loadFile disk path).1.mind.WellFormed := by
  unfold loadFile
  split
  · exact hmind
  · exact hmind.read path _

/-- The scripts of a directory, in the order in which they are loaded. -/
def scriptNames (bot : Bot) (entries : List DirectoryEntry) : List Text :=
  Text.sortDistinct ((entries.filter bot.isScript).map (·.name))

/-- Load one more file of a directory. -/
def loadNext (disk : Disk) (directory : Text) (loaded : Bot × List Script.Report) (name : Text) :
    Bot × List Script.Report :=
  match loaded.1.loadFile disk (Disk.entryPath directory name) with
  | (bot, .ok report) => (bot, loaded.2 ++ [report])
  | (bot, .error _) => (bot, loaded.2)

theorem loadDirectory_of_list_error
    {disk : Disk} {directory : Text} {cause : ReadFailure}
    (hlist : disk.list directory = .error cause) (bot : Bot) :
    bot.loadDirectory disk directory = (bot, .error (.unreadable directory cause)) := by
  unfold loadDirectory
  rw [hlist]

theorem loadDirectory_of_list
    {disk : Disk} {directory : Text} {entries : List DirectoryEntry}
    (hlist : disk.list directory = .ok entries) (bot : Bot) :
    bot.loadDirectory disk directory =
      let loaded := (bot.scriptNames entries).foldl (loadNext disk directory) (bot, [])
      (loaded.1, .ok loaded.2) := by
  unfold loadDirectory
  rw [hlist]
  rfl

theorem fst_loadNext
    (disk : Disk) (directory : Text) (loaded : Bot × List Script.Report) (name : Text) :
    (loadNext disk directory loaded name).1 =
      (loaded.1.loadFile disk (Disk.entryPath directory name)).1 := by
  unfold loadNext
  split <;> simp [*]

theorem loadDirectory_induction
    {motive : Bot → Prop} {bot : Bot} (hbot : motive bot) (disk : Disk) (directory : Text)
    (hfile : ∀ loaded path, motive loaded → motive (loaded.loadFile disk path).1) :
    motive (bot.loadDirectory disk directory).1 := by
  cases hlist : disk.list directory with
  | error cause =>
    rw [loadDirectory_of_list_error hlist]
    exact hbot
  | ok entries =>
    rw [loadDirectory_of_list hlist]
    apply List.foldlRecOn (motive := fun loaded : Bot × List Script.Report => motive loaded.1) _ _
      hbot
    intro loaded hloaded name _
    rw [fst_loadNext]
    exact hfile loaded.1 _ hloaded

theorem wellFormed_loadDirectory
    {bot : Bot} (hmind : bot.mind.WellFormed) (disk : Disk) (directory : Text) :
    (bot.loadDirectory disk directory).1.mind.WellFormed :=
  loadDirectory_induction (motive := fun loaded => loaded.mind.WellFormed) hmind disk directory
    fun _ path hloaded => wellFormed_loadFile hloaded disk path

theorem wellFormed_perform
    {bot : Bot} (hmind : bot.mind.WellFormed) (operation : Operation) :
    (bot.perform operation).mind.WellFormed := by
  cases operation with
  | load source script => exact hmind.read source script
  | loadFile disk path => exact wellFormed_loadFile hmind disk path
  | loadDirectory disk directory => exact wellFormed_loadDirectory hmind disk directory
  | sort => exact hmind.publish
  | answer user message =>
    exact (Turn.makes_reply message { mind := bot.mind, session := bot.session user }).wellFormed
      hmind
  | setGlobal name value =>
    exact hmind.update (fun persona => (bot.mind.draft.setGlobal? name value).getD persona)
      (bot.mind.draft.graph_setGlobal?_getD name value)
  | setVariable name value => exact hmind.update (·.setVariable name value) rfl
  | setSubstitution pattern output => exact hmind.update (·.setSubstitution pattern output) rfl
  | setPerson pattern output => exact hmind.update (·.setPerson pattern output) rfl
  | setUserVariable user name value => exact hmind
  | setUserVariables user values => exact hmind
  | equip collaborators memory => exact hmind.of_eq rfl rfl

theorem Reachable.wellFormed {bot : Bot} (hbot : bot.Reachable) : bot.mind.WellFormed := by
  induction hbot with
  | new options collaborators memory =>
    exact (Mind.wellFormed_new options.depth options.seed).of_eq rfl rfl
  | perform _ operation ih => exact wellFormed_perform ih operation

end Bot

/-- A mind that a bot may come to have, between two operations or in the middle of a turn. -/
def Mind.Occurs (mind : Mind) : Prop :=
  ∃ (bot : Bot) (session : Session) (turn : Turn),
    bot.Reachable ∧ Turn.Moves { mind := bot.mind, session } turn ∧ turn.mind = mind

theorem Mind.Occurs.wellFormed {mind : Mind} (hoccurs : mind.Occurs) : mind.WellFormed := by
  obtain ⟨bot, session, turn, hbot, hmoves, rfl⟩ := hoccurs
  exact hmoves.wellFormed hbot.wellFormed

end DialogueScript

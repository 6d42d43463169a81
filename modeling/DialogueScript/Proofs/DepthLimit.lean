import DialogueScript.Proofs.LineEffects
import DialogueScript.Proofs.SessionVariables
import DialogueScript.Proofs.StagedLoading

/-!
# Where the limit of redirects comes from

How deep redirects may nest is written twice: as the global `depth` and as a number that the turns
go by.  Setting the global to a number keeps the two in step, and a value that is no number is
refused.  But removing the global keeps the number.  So the limit is always the number that the
global was set to last, and only if it was never set, the one that the bot was made with.
-/

namespace DialogueScript

namespace Persona

def depthName : Text := "depth".toList

/-- The number that the global sets as the limit. -/
def definedDepth? (persona : Persona) : Option UInt64 :=
  (persona.getGlobal? depthName).bind fun value =>
    (Number.word? (Text.trim value)).map UInt64.ofNat

/-- The number that was set last as the limit, in the drafts from the first to the last. -/
def lastDepth? (drafts : List Persona) : Option UInt64 :=
  drafts.reverse.findSome? definedDepth?

/-- The limit is the number that was set last, or the first one if none was set; as long as the
global is there, it is this number. -/
structure KeepsDepth (first : UInt64) (drafts : List Persona) (persona : Persona) : Prop where
  depth_eq : persona.depth = (lastDepth? drafts).getD first
  global_eq : ∀ value, persona.getGlobal? depthName = some value →
    Number.word? (Text.trim value) = some persona.depth.toNat

/-- The globals alone tell the limit: it is the number of the global, or the first one without. -/
def GlobalsTellDepth (first : UInt64) (persona : Persona) : Prop :=
  match persona.getGlobal? depthName with
  | some value => Number.word? (Text.trim value) = some persona.depth.toNat
  | none => persona.depth = first

/-- When the global has been removed, the globals tell the limit only if the number that it was set
to last is the first one. -/
theorem KeepsDepth.globalsTellDepth_iff
    {first : UInt64} {drafts : List Persona} {persona : Persona}
    (hkeeps : KeepsDepth first drafts persona) :
    persona.GlobalsTellDepth first ↔
      (persona.getGlobal? depthName).isSome ∨ ∀ depth ∈ lastDepth? drafts, depth = first := by
  unfold GlobalsTellDepth
  cases hvalue : persona.getGlobal? depthName with
  | some value => simpa using hkeeps.global_eq value hvalue
  | none =>
    rw [hkeeps.depth_eq]
    cases lastDepth? drafts <;> simp

/-! ## One definition -/

/-- What the setting of a global does to the limit and its global. -/
inductive SetsDepth (before after : Persona) : Prop
  | keep (hdepth : after.depth = before.depth)
    (hglobal : after.getGlobal? depthName = before.getGlobal? depthName)
  | remove (hdepth : after.depth = before.depth) (hglobal : after.getGlobal? depthName = none)
  | set (value : Text) (hglobal : after.getGlobal? depthName = some value)
    (hdepth : Number.word? (Text.trim value) = some after.depth.toNat)

theorem setsDepth_setGlobal? (persona : Persona) (name : Text) (value : Option Text) :
    persona.SetsDepth ((persona.setGlobal? name value).getD persona) := by
  unfold setGlobal?
  dsimp only
  cases given value with
  | none =>
    by_cases hname : depthName = name
    · subst hname
      exact .remove rfl (Table.get?_erase_self _ _)
    · exact .keep rfl (Table.get?_erase_of_ne _ hname)
  | some value =>
    dsimp only
    split
    · rename_i hname
      cases hnumber : Number.word? (Text.trim value) with
      | none => exact .keep rfl rfl
      | some number =>
        have hlt : number < Number.wordLimit := by
          unfold Number.word? at hnumber
          simpa using (Option.filter_eq_some_iff.mp hnumber).2
        refine .set value ?_ ?_
        · rw [hname]
          exact Table.get?_insert_self _ _ _
        · rw [hnumber]
          exact congrArg some (UInt64.toNat_ofNat_of_lt hlt).symm
    · rename_i hname
      split
      · exact .keep rfl rfl
      · exact .keep rfl (Table.get?_insert_of_ne _ _ (Ne.symm hname))

theorem Defines.setsDepth {before after : Persona} (hdefines : before.Defines after) :
    before.SetsDepth after := by
  cases hdefines with
  | keep hdepth hglobals =>
    refine .keep hdepth ?_
    rw [getGlobal?, getGlobal?, hglobals]
  | set name value hset =>
    rw [hset]
    exact before.setsDepth_setGlobal? name value

namespace KeepsDepth

variable {first : UInt64} {drafts : List Persona} {persona after : Persona}

theorem new (depth : UInt64) : KeepsDepth depth [] (Persona.new depth) :=
  ⟨rfl, fun _ hnone => nomatch hnone⟩

theorem tail (hkeeps : KeepsDepth first drafts persona) (hsets : persona.SetsDepth after) :
    KeepsDepth first (drafts ++ [after]) after := by
  have hlast : lastDepth? (drafts ++ [after]) = after.definedDepth?.or (lastDepth? drafts) := by
    rw [lastDepth?, List.reverse_append, List.findSome?_append, lastDepth?, List.reverse_singleton,
      List.findSome?_singleton]
  have hundefined : after.getGlobal? depthName = none → after.definedDepth? = none := by
    intro hglobal
    rw [definedDepth?, hglobal, Option.bind_none]
  have hdefined : ∀ value, after.getGlobal? depthName = some value →
      Number.word? (Text.trim value) = some after.depth.toNat →
        KeepsDepth first (drafts ++ [after]) after := by
    intro value hglobal hnumber
    constructor
    · rw [hlast, definedDepth?, hglobal, Option.bind_some, hnumber, Option.map_some,
        UInt64.ofNat_toNat]
      rfl
    · intro other hother
      rw [hglobal] at hother
      rw [← Option.some.inj hother, hnumber]
  have hremoved : after.depth = persona.depth → after.getGlobal? depthName = none →
      KeepsDepth first (drafts ++ [after]) after := by
    intro hdepth hglobal
    constructor
    · rw [hlast, hundefined hglobal, Option.none_or, hdepth, hkeeps.depth_eq]
    · intro value hvalue
      rw [hglobal] at hvalue
      cases hvalue
  cases hsets with
  | keep hdepth hglobal =>
    cases hvalue : persona.getGlobal? depthName with
    | none => exact hremoved hdepth (hglobal.trans hvalue)
    | some value =>
      refine hdefined value (hglobal.trans hvalue) ?_
      rw [hdepth, hkeeps.global_eq value hvalue]
  | remove hdepth hglobal => exact hremoved hdepth hglobal
  | set value hglobal hdepth => exact hdefined value hglobal hdepth

end KeepsDepth

/-! ## One draft after the other -/

/-- The drafts that one definition after the other makes of the first persona. -/
inductive Course (start : Persona) : List Persona → Persona → Prop
  | nil : Course start [] start
  | tail {drafts : List Persona} {persona after : Persona} (hcourse : Course start drafts persona)
    (hdefines : persona.Defines after) : Course start (drafts ++ [after]) after

namespace Course

variable {start persona after : Persona} {drafts later : List Persona}

theorem single (hdefines : start.Defines after) : Course start [after] after :=
  nil.tail hdefines

theorem append (hcourse : Course start drafts persona) (hlater : Course persona later after) :
    Course start (drafts ++ later) after := by
  induction hlater with
  | nil =>
    rw [List.append_nil]
    exact hcourse
  | tail _ hdefines ih =>
    rw [← List.append_assoc]
    exact ih.tail hdefines

theorem cons (hdefines : start.Defines persona) (hlater : Course persona later after) :
    Course start (persona :: later) after :=
  (single hdefines).append hlater

theorem getLastD_eq (hcourse : Course start drafts persona) : drafts.getLastD start = persona := by
  cases hcourse with
  | nil => rfl
  | tail _ _ => rw [List.getLastD_concat]

theorem keepsDepth {depth : UInt64} (hcourse : Course (Persona.new depth) drafts persona) :
    KeepsDepth depth drafts persona := by
  induction hcourse with
  | nil => exact .new depth
  | tail _ hdefines ih => exact ih.tail hdefines.setsDepth

end Course

end Persona

namespace Script

/-- The drafts that the lines of a script make of a persona. -/
def history (collaborators : Collaborators) (place : Place) : List Text → State → List Persona
  | [], _ => []
  | line :: following, state =>
    match readLine collaborators place line following state with
    | .error _ => []
    | .ok next =>
      next.persona ::
        history collaborators { place with line := place.line + 1 } following next

theorem course_readLines
    (collaborators : Collaborators) (place : Place) (lines : List Text) (state : State) :
    state.persona.Course (history collaborators place lines state)
      (readLines collaborators place lines state).1.persona := by
  induction lines generalizing state place with
  | nil => exact .nil
  | cons line lines ih =>
    rw [history, readLines]
    cases hread : readLine collaborators place line lines state with
    | error problem => exact .nil
    | ok next => exact .cons (Effect.readLine hread).persona (ih _ next)

/-- The drafts that a script makes of a persona, line by line. -/
def drafts (collaborators : Collaborators) (persona : Persona) (source script : Text) :
    List Persona :=
  history collaborators ⟨source, 1⟩ (Text.lines script) { persona }

theorem course_read
    (collaborators : Collaborators) (persona : Persona) (source script : Text) :
    persona.Course (drafts collaborators persona source script)
      (read collaborators persona source script).persona := by
  rw [persona_read]
  exact course_readLines collaborators ⟨source, 1⟩ (Text.lines script) { persona }

end Script

namespace Change

def drafts (collaborators : Collaborators) (persona : Persona) : Change → List Persona
  | .code script => Script.drafts collaborators persona Mind.streamed script
  | .facts learned => [apply collaborators persona (.facts learned)]

theorem course_apply (collaborators : Collaborators) (persona : Persona) (change : Change) :
    persona.Course (drafts collaborators persona change) (apply collaborators persona change) := by
  cases change with
  | code script => exact Script.course_read collaborators persona Mind.streamed script
  | facts learned =>
    refine .single ?_
    have hkeep : ∀ before : Persona,
        (apply collaborators before (.facts learned)).depth = before.depth ∧
          (apply collaborators before (.facts learned)).definitions.globals =
            before.definitions.globals := by
      unfold apply
      induction learned with
      | nil => exact fun _ => ⟨rfl, rfl⟩
      | cons fact learned ih => exact fun before => ih (before.setVariable fact.1 (some fact.2))
    exact .keep (hkeep persona).1 (hkeep persona).2

/-- The drafts that one change after the other makes of a persona. -/
def history (collaborators : Collaborators) : Persona → List Change → List Persona
  | _, [] => []
  | persona, change :: changes =>
    drafts collaborators persona change ++
      history collaborators (apply collaborators persona change) changes

theorem course_foldl (collaborators : Collaborators) (persona : Persona) (changes : List Change) :
    persona.Course (history collaborators persona changes)
      (changes.foldl (apply collaborators) persona) := by
  induction changes generalizing persona with
  | nil => exact .nil
  | cons change changes ih =>
    exact (course_apply collaborators persona change).append
      (ih (apply collaborators persona change))

end Change

/-! ## What is live -/

namespace Mind

/-- The mind has got its draft by way of `drafts`, and what is live was published on that way. -/
structure Drawn (depth : UInt64) (drafts : List Persona) (mind : Mind) : Prop where
  draft : (Persona.new depth).Course drafts mind.draft
  live : ∃ published, published <+: drafts ∧
    ∃ persona, (Persona.new depth).Course published persona ∧ mind.live = persona.publish

theorem drawn_new (depth seed : UInt64) : Drawn depth [] (new depth seed) :=
  ⟨.nil, [], List.prefix_rfl, _, .nil, rfl⟩

namespace Drawn

variable {depth : UInt64} {drafts later : List Persona} {before after : Mind}

theorem append
    (hdrawn : Drawn depth drafts before) (hcourse : before.draft.Course later after.draft)
    (hlive : after.live = before.live ∨ after.live = after.draft.publish) :
    Drawn depth (drafts ++ later) after := by
  have hdraft := hdrawn.draft.append hcourse
  refine ⟨hdraft, ?_⟩
  rcases hlive with hlive | hlive
  · obtain ⟨published, hprefix, persona, hpersona, hbefore⟩ := hdrawn.live
    exact ⟨published, hprefix.trans (List.prefix_append _ _), persona, hpersona,
      hlive.trans hbefore⟩
  · exact ⟨drafts ++ later, List.prefix_rfl, after.draft, hdraft, hlive⟩

theorem replays
    {changes : List Change} (hdrawn : Drawn depth drafts before)
    (hreplays : before.Replays changes after) :
    Drawn depth (drafts ++ Change.history before.collaborators before.draft changes) after := by
  refine hdrawn.append ?_ ?_
  · rw [hreplays.draft_eq]
    exact Change.course_foldl before.collaborators before.draft changes
  · rw [hreplays.live_eq]
    split
    · exact .inl rfl
    · exact .inr rfl

end Drawn

end Mind

namespace Bot

def fileDrafts (bot : Bot) (disk : Disk) (path : Text) : List Persona :=
  match disk.readText path with
  | .error _ => []
  | .ok script => Script.drafts bot.mind.collaborators bot.mind.draft path script

/-- The drafts that the files of a directory make, each of those that the ones before leave. -/
def filesDrafts (disk : Disk) (directory : Text) : Bot → List Text → List Persona
  | _, [] => []
  | bot, name :: names =>
    let path := Disk.entryPath directory name
    bot.fileDrafts disk path ++ filesDrafts disk directory (bot.loadFile disk path).1 names

def directoryDrafts (bot : Bot) (disk : Disk) (directory : Text) : List Persona :=
  match disk.list directory with
  | .error _ => []
  | .ok entries => filesDrafts disk directory bot (bot.scriptNames entries)

/-- The drafts that an operation makes of the one before. -/
def drafts (bot : Bot) : Operation → List Persona
  | .load source script => Script.drafts bot.mind.collaborators bot.mind.draft source script
  | .loadFile disk path => bot.fileDrafts disk path
  | .loadDirectory disk directory => bot.directoryDrafts disk directory
  | .answer user message =>
    Change.history bot.mind.collaborators bot.mind.draft (bot.answer user message).2.trace.changes
  | operation => [(bot.perform operation).mind.draft]

theorem course_loadFile (bot : Bot) (disk : Disk) (path : Text) :
    bot.mind.draft.Course (bot.fileDrafts disk path) (bot.loadFile disk path).1.mind.draft := by
  unfold fileDrafts loadFile
  cases disk.readText path with
  | error cause => exact .nil
  | ok script => exact Script.course_read bot.mind.collaborators bot.mind.draft path script

theorem course_loadNames
    (disk : Disk) (directory : Text) (names : List Text) (loaded : Bot × List Script.Report) :
    loaded.1.mind.draft.Course (filesDrafts disk directory loaded.1 names)
      (names.foldl (loadNext disk directory) loaded).1.mind.draft := by
  induction names generalizing loaded with
  | nil => exact .nil
  | cons name names ih =>
    have hrest := ih (loadNext disk directory loaded name)
    rw [fst_loadNext] at hrest
    exact (course_loadFile loaded.1 disk (Disk.entryPath directory name)).append hrest

theorem course_loadDirectory (bot : Bot) (disk : Disk) (directory : Text) :
    bot.mind.draft.Course (bot.directoryDrafts disk directory)
      (bot.loadDirectory disk directory).1.mind.draft := by
  cases hlist : disk.list directory with
  | error cause =>
    rw [directoryDrafts, loadDirectory_of_list_error hlist, hlist]
    exact .nil
  | ok entries =>
    rw [directoryDrafts, loadDirectory_of_list hlist, hlist]
    exact course_loadNames disk directory (bot.scriptNames entries) (bot, [])

variable {depth : UInt64} {earlier : List Persona} {bot : Bot}

theorem drawn_perform (hdrawn : bot.mind.Drawn depth earlier) (operation : Operation) :
    (bot.perform operation).mind.Drawn depth (earlier ++ bot.drafts operation) := by
  cases operation with
  | load source script =>
    exact hdrawn.append
      (Script.course_read bot.mind.collaborators bot.mind.draft source script) (.inl rfl)
  | loadFile disk path =>
    exact hdrawn.append (course_loadFile bot disk path) (.inl (live_loadFile bot disk path))
  | loadDirectory disk directory =>
    exact hdrawn.append (course_loadDirectory bot disk directory)
      (.inl (live_loadDirectory bot disk directory))
  | sort => exact hdrawn.append (.single (.keep rfl rfl)) (.inr rfl)
  | answer user message => exact hdrawn.replays (bot.replays_answer user message)
  | setGlobal name value => exact hdrawn.append (.single (.set name value rfl)) (.inr rfl)
  | setVariable name value => exact hdrawn.append (.single (.keep rfl rfl)) (.inr rfl)
  | setSubstitution pattern output => exact hdrawn.append (.single (.keep rfl rfl)) (.inr rfl)
  | setPerson pattern output => exact hdrawn.append (.single (.keep rfl rfl)) (.inr rfl)
  | setUserVariable user name value => exact hdrawn.append (.single (.keep rfl rfl)) (.inl rfl)
  | setUserVariables user values => exact hdrawn.append (.single (.keep rfl rfl)) (.inl rfl)
  | equip collaborators memory => exact hdrawn.append (.single (.keep rfl rfl)) (.inl rfl)

/-- The drafts of a bot from one operation to the next. -/
def history : Bot → List Operation → List Persona
  | _, [] => []
  | bot, operation :: operations =>
    bot.drafts operation ++ (bot.perform operation).history operations

theorem drawn_run (hdrawn : bot.mind.Drawn depth earlier) (operations : List Operation) :
    (bot.run operations).mind.Drawn depth (earlier ++ bot.history operations) := by
  induction operations generalizing bot earlier with
  | nil =>
    rw [history, List.append_nil]
    exact hdrawn
  | cons operation operations ih =>
    rw [history, ← List.append_assoc]
    exact ih (drawn_perform hdrawn operation)

end Bot

/-- At any time, between two operations and in the middle of a turn, the limit of the draft is the
number that the global was set to last in all the drafts so far, or the one that the bot was made
with if it was never set; and so it is with the limit that is live and the drafts up to the one that
was published.  As long as the global is there, it is this number.  So the globals alone tell the
limit unless the global has been removed after it was set to another number than the first one. -/
theorem limit_is_depth_set_last
    (options : Options) (collaborators : Collaborators) (memory : Option Memory)
    (operations : List Bot.Operation) {session : Session} {turn : Turn}
    (hmoves : Turn.Moves
      { mind := ((Bot.new options collaborators memory).run operations).mind, session } turn) :
    let start := Bot.new options collaborators memory
    let bot := start.run operations
    let drafts := start.history operations ++
      Change.history bot.mind.collaborators bot.mind.draft turn.trace.changes
    let draft := turn.mind.draft
    let live := turn.mind.live.persona
    (draft.KeepsDepth options.depth drafts ∧
      (draft.GlobalsTellDepth options.depth ↔
        (draft.getGlobal? Persona.depthName).isSome ∨
          ∀ depth ∈ Persona.lastDepth? drafts, depth = options.depth)) ∧
    ∃ published, published <+: drafts ∧
      turn.mind.live = (published.getLastD (Persona.new options.depth)).publish ∧
      live.KeepsDepth options.depth published ∧
      (live.GlobalsTellDepth options.depth ↔
        (live.getGlobal? Persona.depthName).isSome ∨
          ∀ depth ∈ Persona.lastDepth? published, depth = options.depth) := by
  intro start bot drafts draft live
  have hstart : start.mind.Drawn options.depth [] := by
    obtain ⟨hdraft, hlive⟩ := Mind.drawn_new options.depth options.seed
    exact ⟨hdraft, hlive⟩
  have hbot : bot.mind.Drawn options.depth (start.history operations) :=
    Bot.drawn_run hstart operations
  obtain ⟨changes, hchanges, hreplays⟩ := Turn.accounts_of_moves hmoves
  rw [List.nil_append] at hchanges
  subst hchanges
  obtain ⟨hdraft, published, hprefix, persona, hpersona, hlive⟩ := hbot.replays hreplays
  have hlast : turn.mind.live = (published.getLastD (Persona.new options.depth)).publish := by
    rw [hpersona.getLastD_eq, hlive]
  have hkeeps : live.KeepsDepth options.depth published := by
    have hpublish : live = persona.publish.persona := congrArg Snapshot.persona hlive
    rw [hpublish]
    exact ⟨hpersona.keepsDepth.depth_eq, hpersona.keepsDepth.global_eq⟩
  exact ⟨⟨hdraft.keepsDepth, hdraft.keepsDepth.globalsTellDepth_iff⟩, published, hprefix, hlast,
    hkeeps, hkeeps.globalsTellDepth_iff⟩

/-- A draft that sets the global to another number and removes it again keeps that number, while the
global that was published before still tells the limit that is live. -/
theorem removed_depth_stays_limit_of_draft :
    let operations : List Bot.Operation :=
      [.setGlobal "depth".toList (some "2".toList),
        .load Mind.streamed "! global depth = 3\n! global depth = <undef>\n".toList]
    let bot := (Bot.new { seed := 0 } {} none).run operations
    (bot.mind.draft.depth = 3 ∧ ¬ bot.mind.draft.GlobalsTellDepth 50) ∧
      bot.mind.live.persona.depth = 2 ∧ bot.mind.live.persona.GlobalsTellDepth 50 := by
  intro operations bot
  have hmoves : Turn.Moves { mind := bot.mind, session := Session.new ['u'] 9 }
      { mind := bot.mind, session := Session.new ['u'] 9 } := .refl
  obtain ⟨⟨hdraft, htells⟩, published, -, -, -, hlive⟩ :=
    limit_is_depth_set_last { seed := 0 } {} none operations hmoves
  have hdepth : bot.mind.draft.depth = 3 := by
    decide +kernel
  have hremoved : ¬ (bot.mind.draft.getGlobal? Persona.depthName).isSome := by
    decide +kernel
  have hglobal : (bot.mind.live.persona.getGlobal? Persona.depthName).isSome := by
    decide +kernel
  have huntold : ¬ bot.mind.draft.GlobalsTellDepth 50 := by
    intro htold
    have hset := (htells.mp htold).resolve_left hremoved
    have hthree := hdepth.symm.trans hdraft.depth_eq
    revert hset hthree
    generalize Persona.lastDepth? _ = last
    cases last <;> simp +contextual
  exact ⟨⟨hdepth, huntold⟩, by decide +kernel, hlive.mpr (.inl hglobal)⟩

/-- A script that sets the global to 1 and removes it again leaves the bot with a limit of 1, though
no global says so and it was made with a limit of 50. -/
theorem removed_depth_cuts_redirects_off :
    let bot := Bot.ofScript ("! global depth = 1\n! global depth = <undef>\n"
      ++ "+ a\n@ b\n+ b\n@ c\n+ c\n- end\n").toList
    bot.options.depth = 50 ∧ bot.getGlobal? Persona.depthName = none ∧
      bot.mind.draft.getGlobal? Persona.depthName = none ∧
      bot.mind.draft.depth = 1 ∧ bot.mind.live.persona.depth = 1 ∧
      (bot.answer ['u'] ['a']).2.reply = "ERR: Deep Recursion Detected!".toList := by
  decide +kernel

end DialogueScript

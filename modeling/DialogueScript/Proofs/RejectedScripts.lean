import DialogueScript.Proofs.Directives
import DialogueScript.Proofs.PairedSelection
import DialogueScript.Proofs.ScriptLines

/-!
# Scripts of a version that is too new

Reading stops at the line that declares such a version, and only there.  What has been read by then
is not taken back: the script does to the draft what the lines above that line do as a script of
their own, and loading a directory is loading its files cut at such lines.  So a rejected script
leaves no trace exactly when the lines above its version do nothing.
-/

namespace DialogueScript

namespace Script

/-! ## The fatal line -/

/-- The problem is that of a version that is too new, declared on the line at a place. -/
def Problem.IsTooNewAt (problem : Problem) (place : Place) : Prop :=
  ∃ version : Number.Double, version.exceeds supportedVersion ∧
    problem = place.problem (.unsupportedVersion version)

section

variable {state : State} {place : Place} {problem : Problem}

/-- No other instruction is fatal. -/
theorem isTooNewAt_of_run
    {instruction : Instruction} (herror : instruction.run place state = .error problem) :
    problem.IsTooNewAt place := by
  cases instruction <;> cases herror
  case refuse version hexceeds => exact ⟨version, hexceeds, rfl⟩

theorem isTooNewAt_of_readLine
    {collaborators : Collaborators} {line : Text} {following : List Text}
    (herror : readLine collaborators place line following state = .error problem) :
    problem.IsTooNewAt place := by
  unfold readLine at herror
  dsimp only at herror
  split at herror
  · split at herror <;> cases herror
  · split at herror
    · obtain ⟨instruction, hrun⟩ := exists_run_readDirective _ _ _
      rw [hrun] at herror
      exact isTooNewAt_of_run herror
    · cases herror

end

namespace Mode

/-- A fatal line is one that no directive above it gathers. -/
theorem not_continues_of_next_eq_none
    {mode : Mode} {line : Text} {following : List Text} (hfatal : mode.next line following = none)
    (below : List Text) :
    continues (line :: below) = false := by
  unfold next at hfatal
  dsimp only at hfatal
  split at hfatal
  · cases hfatal
  split at hfatal
  · rename_i command rest hread htrim
    have hdefinition : command = '!' := by
      unfold afterDirective at hfatal
      by_contra hne
      simp [hne] at hfatal
    rw [continues_cons htrim (ne_nil_of_readsLine hread htrim), hdefinition]
    rfl
  · cases hfatal

/-- The lines above the first fatal one. -/
def readable (mode : Mode) : List Text → List Text
  | [] => []
  | line :: following =>
    match mode.next line following with
    | none => []
    | some next => line :: next.readable following

theorem readable_of_after_eq_some
    {mode last : Mode} {lines : List Text} (hafter : mode.after lines = some last) :
    mode.readable lines = lines := by
  induction lines generalizing mode with
  | nil => rfl
  | cons line following ih =>
    unfold after at hafter
    unfold readable
    cases hnext : mode.next line following with
    | none =>
      rw [hnext] at hafter
      cases hafter
    | some next =>
      rw [hnext] at hafter
      exact congrArg (line :: ·) (ih hafter)

theorem exists_fatal_of_after_eq_none
    {mode : Mode} {lines : List Text} (hafter : mode.after lines = none) :
    ∃ last line below, lines = mode.readable lines ++ line :: below ∧
      mode.after (mode.readable lines) = some last ∧ last.next line below = none := by
  induction lines generalizing mode with
  | nil => cases hafter
  | cons line following ih =>
    unfold after at hafter
    unfold readable
    cases hnext : mode.next line following with
    | none => exact ⟨mode, line, following, rfl, rfl, hnext⟩
    | some next =>
      rw [hnext] at hafter
      obtain ⟨last, fatal, below, hlines, hlast, hfatal⟩ := ih hafter
      refine ⟨last, fatal, below, congrArg (line :: ·) hlines, ?_, hfatal⟩
      have hkept : mode.next line (next.readable following) = some next := by
        rw [← hnext]
        conv_rhs => rw [hlines]
        have hbelow := not_continues_of_next_eq_none hfatal below
        exact (next_append (leaves_of_not_continues hbelow line _) mode).symm
      rw [after, hkept]
      exact hlast

end Mode

/-- The part of a script that is read: the whole of it, or what stands above a version that is too
new. -/
def kept (script : Text) : Text :=
  Text.unlines (Mode.readable {} (Text.lines script))

def isRejected (script : Text) : Bool :=
  (Mode.after {} (Text.lines script)).isNone

theorem lines_kept (script : Text) :
    Text.lines (kept script) = Mode.readable {} (Text.lines script) := by
  apply Text.lines_unlines
  intro line hline
  have hmem : line ∈ Text.lines script := by
    cases hafter : Mode.after {} (Text.lines script) with
    | some last => rwa [Mode.readable_of_after_eq_some hafter] at hline
    | none =>
      obtain ⟨-, fatal, below, hlines, -⟩ := Mode.exists_fatal_of_after_eq_none hafter
      rw [hlines]
      exact List.mem_append_left _ hline
  exact Text.not_mem_of_mem_lines hmem

/-! ## Reading the lines above -/

/-- Reading the script changes no persona and calls no handler. -/
def IsIdle (source script : Text) : Prop :=
  ∀ collaborators persona,
    (read collaborators persona source script).persona = persona ∧
      (read collaborators persona source script).requests = []

variable (collaborators : Collaborators) (persona : Persona) (source : Text) {script : Text}

theorem read_of_not_isRejected (haccepted : isRejected script = false) :
    (∃ report, (read collaborators persona source script).result = .ok report) ∧
      read collaborators persona source (kept script) =
        read collaborators persona source script := by
  obtain ⟨mode, hafter⟩ : ∃ mode, Mode.after {} (Text.lines script) = some mode := by
    simpa [isRejected, Option.isSome_iff_exists] using haccepted
  constructor
  · have hstart : (State.mode { persona }).after (Text.lines script) = some mode := hafter
    obtain ⟨state, hstate, -⟩ :=
      exists_readLines_of_after_eq_some ⟨source, 1⟩ collaborators hstart
    rw [read_eq_conclude, hstate]
    exact ⟨_, rfl⟩
  · rw [read_eq_conclude, read_eq_conclude, lines_kept, Mode.readable_of_after_eq_some hafter]

theorem read_of_isRejected (hrejected : isRejected script) :
    let reading := read collaborators persona source (kept script)
    ∃ report problem, reading.result = .ok report ∧
      Text.lines (kept script) = (Text.lines script).take report.lines ∧
      problem.IsTooNewAt ⟨source, report.lines + 1⟩ ∧
      read collaborators persona source script = { reading with result := .error problem } := by
  intro reading
  have hnone : Mode.after {} (Text.lines script) = none := by
    simpa [isRejected] using hrejected
  obtain ⟨last, line, below, hlines, hlast, hfatal⟩ := Mode.exists_fatal_of_after_eq_none hnone
  have hbelow := Mode.not_continues_of_next_eq_none hfatal below
  have hreading : reading = conclude source _ _ :=
    read_eq_conclude collaborators persona source (kept script)
  rw [lines_kept] at hreading ⊢
  generalize Mode.readable {} (Text.lines script) = above at hlines hlast hreading
  have hstart : (State.mode { persona }).after above = some last := hlast
  obtain ⟨state, hstate, rfl⟩ :=
    exists_readLines_of_after_eq_some ⟨source, 1⟩ collaborators hstart
  obtain ⟨problem, hproblem⟩ :=
    exists_readLine_eq_error ⟨source, 1 + above.length⟩ collaborators hfatal
  rw [hstate] at hreading
  have hscript : read collaborators persona source script =
      ⟨state.persona, state.requests, .error problem⟩ := by
    have happart := apart_of_not_continues hbelow above
    rw [read_eq_conclude, hlines, readLines_append collaborators happart, hstate]
    simp only [readOn, readLines, hproblem, conclude]
  refine ⟨_, problem, by rw [hreading]; rfl, ?_, ?_, ?_⟩
  · rw [hlines]
    exact List.take_left.symm
  · have hplace := isTooNewAt_of_readLine hproblem
    rwa [Nat.add_comm] at hplace
  · rw [hscript, hreading]
    simp only [conclude, persona_finish, requests_finish]

end Script

/-! ## Loading -/

/-- The other disk has the same directory, with every script in it cut above a version that is too
new. -/
structure Disk.Cuts (disk cut : Disk) (directory : Text) : Prop where
  list_eq : cut.list directory = disk.list directory
  readText_eq :
    ∀ entries, disk.list directory = .ok entries → ∀ entry ∈ entries,
      let path := entryPath directory entry.name
      cut.readText path = (disk.readText path).map Script.kept

/-- The other disk has the same directory but for some entries. -/
structure Disk.LeavesOut (disk rest : Disk) (directory : Text) (out : Text → Bool) : Prop where
  list_eq :
    rest.list directory =
      (disk.list directory).map fun entries => entries.filter fun entry => !out entry.name
  readText_eq :
    ∀ entries, disk.list directory = .ok entries → ∀ entry ∈ entries, ¬ out entry.name →
      let path := entryPath directory entry.name
      rest.readText path = disk.readText path

/-- The file is a script that is rejected, and nothing comes of the lines above its version. -/
def Disk.RejectsIdle (disk : Disk) (path : Text) : Prop :=
  ∃ script, disk.readText path = .ok script ∧ Script.isRejected script ∧
    Script.IsIdle path (Script.kept script)

namespace Bot

theorem load_of_not_isRejected
    {script : Text} (haccepted : Script.isRejected script = false) (bot : Bot) (source : Text) :
    (∃ report, (bot.load source script).2 = .ok report) ∧
      bot.load source (Script.kept script) = bot.load source script := by
  obtain ⟨hreport, hread⟩ :=
    Script.read_of_not_isRejected bot.mind.collaborators bot.mind.draft source haccepted
  refine ⟨hreport, ?_⟩
  unfold load Mind.read
  rw [hread]

theorem load_of_isRejected
    {script : Text} (hrejected : Script.isRejected script) (bot : Bot) (source : Text) :
    ∃ report problem, (bot.load source (Script.kept script)).2 = .ok report ∧
      Text.lines (Script.kept script) = (Text.lines script).take report.lines ∧
      problem.IsTooNewAt ⟨source, report.lines + 1⟩ ∧
      bot.load source script = ((bot.load source (Script.kept script)).1, .error problem) := by
  obtain ⟨report, problem, hreport, hlines, hproblem, hread⟩ :=
    Script.read_of_isRejected bot.mind.collaborators bot.mind.draft source hrejected
  refine ⟨report, problem, hreport, hlines, hproblem, ?_⟩
  unfold load Mind.read
  rw [hread]

theorem fst_load_kept (bot : Bot) (source script : Text) :
    (bot.load source (Script.kept script)).1 = (bot.load source script).1 := by
  cases hscript : Script.isRejected script with
  | false => rw [(load_of_not_isRejected hscript bot source).2]
  | true =>
    obtain ⟨report, problem, -, -, -, hload⟩ := load_of_isRejected hscript bot source
    rw [hload]

theorem fst_load_of_isIdle
    {source script : Text} (hidle : Script.IsIdle source script) (bot : Bot) :
    (bot.load source script).1 = bot := by
  obtain ⟨hpersona, hrequests⟩ := hidle bot.mind.collaborators bot.mind.draft
  unfold load Mind.read
  simp only [hpersona, hrequests, List.append_nil]

variable {disk other : Disk} {directory : Text}

theorem exists_entry_of_mem_scriptNames
    {entries : List DirectoryEntry} {name : Text} {bot : Bot}
    (hname : name ∈ bot.scriptNames entries) :
    ∃ entry ∈ entries, entry.name = name := by
  obtain ⟨entry, hentry, rfl⟩ := List.mem_map.mp (Text.mem_sortDistinct.mp hname)
  exact ⟨entry, (List.mem_filter.mp hentry).1, rfl⟩

theorem scriptNames_filter (bot : Bot) (entries : List DirectoryEntry) (p : Text → Bool) :
    bot.scriptNames (entries.filter fun entry => p entry.name) =
      (bot.scriptNames entries).filter p := by
  unfold scriptNames
  rw [← Text.sortDistinct_filter, List.filter_comm, List.filter_map]
  rfl

theorem fst_loadFile_of_kept
    {path : Text} (htext : other.readText path = (disk.readText path).map Script.kept) (bot : Bot) :
    (bot.loadFile other path).1 = (bot.loadFile disk path).1 := by
  unfold loadFile
  rw [htext]
  cases disk.readText path with
  | error cause => rfl
  | ok script => exact fst_load_kept bot path script

theorem fst_foldl_loadNext
    (disk : Disk) (directory : Text) (names : List Text) (loaded : Bot × List Script.Report) :
    (names.foldl (loadNext disk directory) loaded).1 =
      names.foldl (fun bot name => (bot.loadFile disk (Disk.entryPath directory name)).1)
        loaded.1 :=
  (List.foldl_hom Prod.fst fun loaded name => (fst_loadNext disk directory loaded name).symm).symm

theorem fst_loadDirectory_of_cuts (hcuts : disk.Cuts other directory) (bot : Bot) :
    (bot.loadDirectory other directory).1 = (bot.loadDirectory disk directory).1 := by
  cases hlist : disk.list directory with
  | error cause =>
    have hother : other.list directory = .error cause := hcuts.list_eq.trans hlist
    rw [loadDirectory_of_list_error hlist, loadDirectory_of_list_error hother]
  | ok entries =>
    have hother : other.list directory = .ok entries := hcuts.list_eq.trans hlist
    rw [loadDirectory_of_list hlist, loadDirectory_of_list hother]
    dsimp only
    rw [fst_foldl_loadNext, fst_foldl_loadNext]
    apply List.foldl_ext
    intro loaded name hname
    obtain ⟨entry, hentry, rfl⟩ := exists_entry_of_mem_scriptNames hname
    exact fst_loadFile_of_kept (hcuts.readText_eq entries hlist entry hentry) loaded

theorem loadNext_of_rejectsIdle
    {name : Text} (hreject : disk.RejectsIdle (Disk.entryPath directory name))
    (loaded : Bot × List Script.Report) :
    loadNext disk directory loaded name = loaded := by
  obtain ⟨script, htext, hrejected, hidle⟩ := hreject
  obtain ⟨report, problem, -, -, -, hload⟩ :=
    load_of_isRejected hrejected loaded.1 (Disk.entryPath directory name)
  rw [fst_load_of_isIdle hidle] at hload
  unfold loadNext loadFile
  rw [htext]
  dsimp only
  rw [hload]
  rfl

theorem loadDirectory_of_leavesOut
    {out : Text → Bool} (hrest : disk.LeavesOut other directory out)
    (hout : ∀ entries, disk.list directory = .ok entries → ∀ entry ∈ entries, out entry.name →
      disk.RejectsIdle (Disk.entryPath directory entry.name)) (bot : Bot) :
    bot.loadDirectory other directory = bot.loadDirectory disk directory := by
  cases hlist : disk.list directory with
  | error cause =>
    have hother : other.list directory = .error cause := by
      rw [hrest.list_eq, hlist]
      rfl
    rw [loadDirectory_of_list_error hlist, loadDirectory_of_list_error hother]
  | ok entries =>
    have hother : other.list directory = .ok (entries.filter fun entry => !out entry.name) := by
      rw [hrest.list_eq, hlist]
      rfl
    rw [loadDirectory_of_list hlist, loadDirectory_of_list hother]
    have hfold : ∀ loaded,
        (bot.scriptNames (entries.filter fun entry => !out entry.name)).foldl
          (loadNext other directory) loaded =
        (bot.scriptNames entries).foldl (loadNext disk directory) loaded := by
      intro loaded
      rw [scriptNames_filter bot entries (!out ·), List.foldl_filter]
      apply List.foldl_ext
      intro loaded name hname
      obtain ⟨entry, hentry, rfl⟩ := exists_entry_of_mem_scriptNames hname
      cases hleft : out entry.name with
      | true => exact (loadNext_of_rejectsIdle (hout entries hlist entry hentry hleft) loaded).symm
      | false =>
        have htext := hrest.readText_eq entries hlist entry hentry (by simp [hleft])
        dsimp only at htext
        simp only [loadNext, loadFile, htext]
        rfl
    simp only [hfold]

end Bot

/-- A bot that rejects a script is the bot that reads the lines above its version, and loading a
directory is loading its scripts cut at such lines.  Where nothing comes of these lines, the bot is
what it was, and the directory is as good without these scripts. -/
theorem load_rejected_eq_load_above_version (bot : Bot) :
    (∀ source script,
      let above := bot.load source (Script.kept script)
      (bot.load source script).1 = above.1 ∧
        ∀ problem, (bot.load source script).2 = .error problem →
          (∃ report, above.2 = .ok report ∧
            Text.lines (Script.kept script) = (Text.lines script).take report.lines ∧
            problem.IsTooNewAt ⟨source, report.lines + 1⟩) ∧
          (Script.IsIdle source (Script.kept script) → (bot.load source script).1 = bot)) ∧
    (∀ disk cut directory, Disk.Cuts disk cut directory →
      (bot.loadDirectory disk directory).1 = (bot.loadDirectory cut directory).1) ∧
    ∀ disk rest directory out, Disk.LeavesOut disk rest directory out →
      (∀ entries, disk.list directory = .ok entries → ∀ entry ∈ entries, out entry.name →
        disk.RejectsIdle (Disk.entryPath directory entry.name)) →
      bot.loadDirectory disk directory = bot.loadDirectory rest directory := by
  refine ⟨fun source script => ⟨?_, fun problem hproblem => ?_⟩, ?_, ?_⟩
  · exact (Bot.fst_load_kept bot source script).symm
  · have hrejected : Script.isRejected script := by
      cases hscript : Script.isRejected script with
      | true => rfl
      | false =>
        obtain ⟨⟨report, hreport⟩, -⟩ := Bot.load_of_not_isRejected hscript bot source
        rw [hreport] at hproblem
        cases hproblem
    obtain ⟨report, other, hreport, hlines, hplace, hload⟩ :=
      Bot.load_of_isRejected hrejected bot source
    rw [hload] at hproblem ⊢
    cases hproblem
    exact ⟨⟨report, hreport, hlines, hplace⟩, fun hidle => Bot.fst_load_of_isIdle hidle bot⟩
  · exact fun disk cut directory hcuts => (Bot.fst_loadDirectory_of_cuts hcuts bot).symm
  · exact fun disk rest directory out hrest hout =>
      (Bot.loadDirectory_of_leavesOut hrest hout bot).symm

/-- A script that is rejected below a trigger, one that is rejected at its first line, and a
directory that holds the second. -/
theorem load_rejected_eq_load_above_version_of_greetings :
    let bot := Bot.new { seed := 0 } {} none
    let late := "+ hi\n- hello\n! version = 3\n- bye\n"
    let early := "! version = 3\n+ hi\n- hello\n"
    let other := (["d".toList, "b.rive".toList], "+ bye\n- see you\n".toUTF8)
    let tree : FileTree := { files := [(["d".toList, "a.rive".toList], early.toUTF8), other] }
    let cut : FileTree := { files := [(["d".toList, "a.rive".toList], "".toUTF8), other] }
    let rest : FileTree := { files := [other] }
    (bot.load Mind.streamed late.toList).1 =
        (bot.load Mind.streamed "+ hi\n- hello\n".toList).1 ∧
      (bot.load Mind.streamed early.toList).1 = bot ∧
      (bot.loadDirectory tree.disk ['d']).1 = (bot.loadDirectory cut.disk ['d']).1 ∧
      bot.loadDirectory tree.disk ['d'] = bot.loadDirectory rest.disk ['d'] := by
  intro bot late early other tree cut rest
  have hmain := load_rejected_eq_load_above_version bot
  have hkept : Script.kept early.toList = [] := by
    decide +kernel
  have hidle : ∀ source, Script.IsIdle source (Script.kept early.toList) := by
    intro source
    rw [hkept]
    exact fun collaborators persona => ⟨rfl, rfl⟩
  have hlist : tree.disk.list ['d'] =
      .ok [⟨"a.rive".toList, true⟩, ⟨"b.rive".toList, true⟩] := rfl
  have hentries : ∀ entries, tree.disk.list ['d'] = .ok entries → ∀ entry ∈ entries,
      entry.name = "a.rive".toList ∨ entry.name = "b.rive".toList := by
    intro entries hentries
    rw [hlist] at hentries
    cases hentries
    decide
  refine ⟨?_, ?_, hmain.2.1 tree.disk cut.disk ['d'] ⟨rfl, ?_⟩,
    hmain.2.2 tree.disk rest.disk ['d'] (· = "a.rive".toList) ⟨rfl, ?_⟩ ?_⟩
  · have hlate : Script.kept late.toList = "+ hi\n- hello\n".toList := by
      decide +kernel
    rw [← hlate]
    exact (hmain.1 Mind.streamed late.toList).1
  · cases hload : (bot.load Mind.streamed early.toList).2 with
    | error problem =>
      exact ((hmain.1 Mind.streamed early.toList).2 problem hload).2 (hidle Mind.streamed)
    | ok report =>
      have hrejected : (bot.load Mind.streamed early.toList).2.toOption = none := by
        decide +kernel
      rw [hload] at hrejected
      cases hrejected
  · intro entries hlisted entry hentry
    rcases hentries entries hlisted entry hentry with hname | hname
    · rw [hname]
      decide +kernel
    · rw [hname]
      decide +kernel
  · intro entries hlisted entry hentry hstays
    rcases hentries entries hlisted entry hentry with hname | hname
    · exact absurd (decide_eq_true hname) hstays
    · rw [hname]
      decide +kernel
  · intro entries hlisted entry hentry hleft
    rw [of_decide_eq_true hleft]
    exact ⟨early.toList, by decide +kernel, by decide +kernel, hidle _⟩

/-- What stands above the version goes live, also from a file of a directory. -/
theorem rejected_script_is_learned_in_part :
    let bot := Bot.new { seed := 0 } {} none
    let script := "+ hi\n- hello\n! version = 3\n"
    let tree : FileTree := { files := [(["d".toList, "a.rive".toList], script.toUTF8)] }
    let rest : FileTree := { directories := [["d".toList]] }
    let loaded := bot.load Mind.streamed script.toList
    loaded.2.toOption = none ∧ loaded.1.mind.draft ≠ bot.mind.draft ∧
      ((bot.loadDirectory tree.disk ['d']).1.sort.1.answer ['u'] "hi".toList).2.reply =
        "hello".toList ∧
      ((bot.loadDirectory rest.disk ['d']).1.sort.1.answer ['u'] "hi".toList).2.reply =
        noReplyMatched := by
  decide +kernel

end DialogueScript

import DialogueScript.Proofs.TurnMoves

/-!
# How conversations change the bot

The answers to messages tell every change of the persona, and the bot after a conversation is the
bot before it with these changes made again.  Without triggers that learn, the first change of all
is code, and code is what stands in a text when everything that the user said has been filled in.
-/

namespace DialogueScript

namespace Change

/-- The persona after a change of the draft. -/
def apply (collaborators : Collaborators) (persona : Persona) : Change → Persona
  | .code script => (Script.read collaborators persona Mind.streamed script).persona
  | .facts learned =>
    learned.foldl (fun persona (name, value) => persona.setVariable name (some value)) persona

end Change

namespace Mind

/-- `after` is `before` with the changes made, as far as the persona is concerned. -/
structure Replays (before : Mind) (changes : List Change) (after : Mind) : Prop where
  collaborators_eq : after.collaborators = before.collaborators
  draft_eq : after.draft = changes.foldl (Change.apply before.collaborators) before.draft
  live_eq : after.live = if changes = [] then before.live else after.draft.publish
  code_mem : ¬ before.live.Learns → changes ≠ [] → ∃ script, Change.code script ∈ changes

theorem Replays.of_eq
    {before after : Mind} (hcollaborators : after.collaborators = before.collaborators)
    (hdraft : after.draft = before.draft) (hlive : after.live = before.live) :
    before.Replays [] after := by
  constructor <;> simp [*]

theorem Replays.append
    {before middle after : Mind} {changes later : List Change}
    (hfirst : before.Replays changes middle) (hsecond : middle.Replays later after) :
    before.Replays (changes ++ later) after := by
  constructor
  · rw [hsecond.collaborators_eq, hfirst.collaborators_eq]
  · rw [List.foldl_append, hsecond.draft_eq, hfirst.draft_eq, hfirst.collaborators_eq]
  · rw [hsecond.live_eq]
    by_cases hlater : later = []
    · have hdraft : after.draft = middle.draft := by
        rw [hsecond.draft_eq, hlater, List.foldl_nil]
      simp [hlater, hfirst.live_eq, hdraft]
    · simp [hlater]
  · intro hlearns hsome
    -- until the first change, the live graph is the one that does not learn
    by_cases hchanges : changes = []
    · have hmiddle : middle.live = before.live := by
        rw [hfirst.live_eq, if_pos hchanges]
      have hlater : later ≠ [] := by
        simpa [hchanges] using hsome
      obtain ⟨script, hmem⟩ := hsecond.code_mem (by rwa [hmiddle]) hlater
      exact ⟨script, List.mem_append_right _ hmem⟩
    · obtain ⟨script, hmem⟩ := hfirst.code_mem hlearns hchanges
      exact ⟨script, List.mem_append_left _ hmem⟩

theorem replays_code (mind : Mind) (script : Text) :
    mind.Replays [.code script] (mind.change (.code script)) := by
  constructor <;> simp [change, publish, read, Change.apply]

theorem replays_facts
    {mind : Mind} (hlearns : mind.live.Learns) (facts : List (Text × Text)) :
    mind.Replays [.facts facts] (mind.change (.facts facts)) := by
  constructor <;> simp [change, publish, update, Change.apply, hlearns]

end Mind

namespace Turn

/-- The trace of a turn tells what has changed since `before`. -/
def Accounts (before after : Turn) : Prop :=
  ∃ changes, after.trace.changes = before.trace.changes ++ changes ∧
    before.mind.Replays changes after.mind

theorem Accounts.trans
    {before middle after : Turn} (hfirst : Accounts before middle)
    (hsecond : Accounts middle after) :
    Accounts before after := by
  obtain ⟨changes, hchanges, hreplays⟩ := hfirst
  obtain ⟨later, hlater, hrest⟩ := hsecond
  exact ⟨changes ++ later, by rw [hlater, hchanges, List.append_assoc], hreplays.append hrest⟩

theorem accounts_of_same
    {before after : Turn} (hchanges : after.trace.changes = before.trace.changes)
    (hcollaborators : after.mind.collaborators = before.mind.collaborators)
    (hdraft : after.mind.draft = before.mind.draft) (hlive : after.mind.live = before.mind.live) :
    Accounts before after :=
  ⟨[], by simp [hchanges], .of_eq hcollaborators hdraft hlive⟩

theorem accounts_of_move {before after : Turn} (hmove : Move before after) :
    Accounts before after := by
  cases hmove with
  | code script => exact ⟨[.code script], rfl, before.mind.replays_code script⟩
  | learn facts hlearns => exact ⟨[.facts facts], rfl, Mind.replays_facts hlearns facts⟩
  | save key content tags =>
    obtain ⟨hcollaborators, hdraft, hlive⟩ := before.mind.persona_save key content tags
    exact accounts_of_same rfl hcollaborators hdraft hlive
  | _ => exact accounts_of_same rfl rfl rfl rfl

theorem accounts_of_moves {before after : Turn} (hmoves : Moves before after) :
    Accounts before after := by
  induction hmoves with
  | refl => exact accounts_of_same rfl rfl rfl rfl
  | tail _ hmove ih => exact ih.trans (accounts_of_move hmove)

theorem changes_replaceTagsM
    {α : Type} {read? : Text → Option (α × Text)} {f : α → TurnM Text} {told : α → Change}
    (hf : ∀ a (turn : Turn), ((f a).run turn).2.trace.changes = turn.trace.changes ++ [told a])
    (turn : Turn) (text : Text) :
    ((replaceTagsM read? f text).run turn).2.trace.changes =
      turn.trace.changes ++ (Text.tags read? text).map told := by
  unfold replaceTagsM Text.tags
  generalize Text.pieces read? text = pieces
  induction pieces generalizing turn with
  | nil => exact (List.append_nil _).symm
  | cons piece pieces ih =>
    rw [List.mapM_cons]
    cases piece with
    | char c => exact ih turn
    | tag a =>
      refine (ih ((f a).run turn).2).trans ?_
      rw [hf, List.append_assoc]
      rfl

end Turn

/-! ## Conversations -/

namespace Bot

/-- Answer messages one after the other, each of its user. -/
def converse (bot : Bot) : List (Text × Text) → Bot × List Answer
  | [] => (bot, [])
  | (user, message) :: turns =>
    let (bot, answer) := bot.answer user message
    let (bot, answers) := bot.converse turns
    (bot, answer :: answers)

/-- The changes that the answers tell. -/
def changes (answers : List Answer) : List Change :=
  answers.flatMap fun answer => answer.trace.changes

theorem replays_answer (bot : Bot) (user message : Text) :
    bot.mind.Replays (bot.answer user message).2.trace.changes (bot.answer user message).1.mind := by
  have hmoves := Turn.makes_reply message { mind := bot.mind, session := bot.session user }
  obtain ⟨changes, hchanges, hreplays⟩ := Turn.accounts_of_moves hmoves
  rw [List.nil_append] at hchanges
  subst hchanges
  exact hreplays

theorem replays_converse (bot : Bot) (turns : List (Text × Text)) :
    bot.mind.Replays (changes (bot.converse turns).2) (bot.converse turns).1.mind := by
  induction turns generalizing bot with
  | nil => exact .of_eq rfl rfl rfl
  | cons turn turns ih =>
    obtain ⟨user, message⟩ := turn
    exact (replays_answer bot user message).append (ih (bot.answer user message).1)

end Bot

/-- A conversation with a bot that does not learn leaves its persona as it is exactly when no code
is run.  The code that is run stands in tags of the texts that reach that pass; with these changes
made again, the persona before becomes the persona after. -/
theorem converse_keeps_persona_iff_no_code
    (bot : Bot) (turns : List (Text × Text)) (hlearns : ¬ bot.mind.live.Learns) :
    let after := (bot.converse turns).1
    let changes := Bot.changes (bot.converse turns).2
    ((∀ script, Change.code script ∉ changes) ↔
      changes = [] ∧ after.mind.draft = bot.mind.draft ∧ after.mind.live = bot.mind.live) ∧
    after.mind.draft = changes.foldl (Change.apply bot.mind.collaborators) bot.mind.draft ∧
    (changes ≠ [] → after.mind.live = after.mind.draft.publish) ∧
    ∀ (turn : Turn) (text : Text), ((Turn.runCode text).run turn).2.trace.changes =
      turn.trace.changes ++ (Text.tags Template.codeTag? text).map
        fun code => .code (Template.codeScript code) := by
  intro after changes
  have hreplays : bot.mind.Replays changes after.mind := bot.replays_converse turns
  have hnone_of : (∀ script, Change.code script ∉ changes) → changes = [] := by
    intro hnocode
    by_cases hnone : changes = []
    · exact hnone
    · obtain ⟨script, hmem⟩ := hreplays.code_mem hlearns hnone
      exact absurd hmem (hnocode script)
  refine ⟨⟨fun hnocode => ?_, ?_⟩, hreplays.draft_eq, fun hsome => ?_, fun turn text => ?_⟩
  · have hnone := hnone_of hnocode
    refine ⟨hnone, ?_, ?_⟩
    · rw [hreplays.draft_eq, hnone, List.foldl_nil]
    · rw [hreplays.live_eq, if_pos hnone]
  · rintro ⟨hnone, -⟩ script hmem
    rw [hnone] at hmem
    cases hmem
  · rw [hreplays.live_eq, if_neg hsome]
  · exact Turn.changes_replaceTagsM (fun _ _ => rfl) turn text

/-- A bot that has read one script and sorted it. -/
def Bot.ofScript (script : Text) : Bot :=
  (((Bot.new { seed := 0 } {} none).stream script).1.sort).1

/-- A mark that nothing closes is no code, and neither is a name. -/
theorem converse_keeps_persona_of_open_mark :
    let bot := Bot.ofScript "+ my name is *\n* <star> != bob => hello\n".toList
    let turns := [(['u'], "my name is \x7b!var name = mallory".toList),
      (['v'], "my name is alice".toList)]
    let after := (bot.converse turns).1
    ¬ bot.mind.live.Learns ∧
      after.mind.draft = bot.mind.draft ∧ after.mind.live = bot.mind.live := by
  intro bot turns after
  have hlearns : ¬ bot.mind.live.Learns := by
    decide +kernel
  have hnone : Bot.changes (bot.converse turns).2 = [] := by
    decide +kernel
  have hnocode : ∀ script, Change.code script ∉ Bot.changes (bot.converse turns).2 := by
    simp [hnone]
  have hkeeps := (converse_keeps_persona_iff_no_code bot turns hlearns).1.mp hnocode
  exact ⟨hlearns, hkeeps.2⟩

/-- What a user says may be run as code: the script holds no code, and yet the message sets a
variable of the bot. -/
theorem converse_runs_captured_code :
    let script := "+ my name is *\n* <star> != bob => hello\n".toList
    let bot := Bot.ofScript script
    let after := (bot.converse [(['u'], "my name is \x7b!var name = mallory\x7d".toList)]).1
    Text.contains Template.codeMark script = false ∧ ¬ bot.mind.live.Learns ∧
      bot.getVariable? "name".toList = none ∧
      after.getVariable? "name".toList = some "mallory".toList ∧
      after.mind.draft ≠ bot.mind.draft ∧ after.mind.live ≠ bot.mind.live := by
  decide +kernel

end DialogueScript

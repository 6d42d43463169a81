import DialogueScript.Proofs.EndlessRedirects
import DialogueScript.Proofs.PairedSelection
import DialogueScript.Proofs.PatternMatching

/-!
# Patterns that catch every line

A star alone accepts every text of one line, the empty one too.  Without a block that opens the
turn, the first step that a turn records is that of the message itself.  So where the order of the
topic holds a star alone, that step finds a trigger for every message of one line.
-/

namespace DialogueScript

/-! ## Stars alone -/

namespace Pattern

theorem accepts_starAlone {scope : Scope} {text : Text} :
    AcceptsSequence scope [.star true] text ↔ '\n' ∉ text := by
  constructor
  · rintro ⟨front, back, rfl, ⟨hline, -⟩, rfl⟩
    rwa [List.append_nil]
  · intro hline
    exact ⟨text, [], (List.append_nil text).symm, ⟨hline, fun _ => rfl⟩, rfl⟩

theorem isSome_match?_iff_of_bareStar
    {pattern : Text} (hbare : Text.trim pattern = bareStar) (scope : Scope) (text : Text) :
    (match? scope pattern text).isSome ↔ '\n' ∉ text := by
  have hparse : parse pattern = [.star true] := if_pos hbare
  have hshallow : tooDeep scope [.star true] = false := rfl
  rw [match?, isSome_matchSegments?_iff, hparse, accepts_starAlone]
  exact and_iff_right hshallow

end Pattern

/-! ## When nothing is selected -/

namespace Snapshot

variable {snapshot : Snapshot} {session : Session} {name message : Text}

theorem Published.select?_eq_none_iff
    (hpublished : snapshot.Published) (huntagged : snapshot.persona.graph.UntaggedFrom name) :
    snapshot.select? session name message 0 = none ↔
      (¬ ∃ pairing : Pairing, pairing.Accepted snapshot session name message) ∧
        ∀ pattern ∈ snapshot.order name,
          Pattern.match? (snapshot.scope session) pattern message = none := by
  have hpaired : snapshot.selectByPrevious? session name message = none ↔
      ¬ ∃ pairing : Pairing, pairing.Accepted snapshot session name message := by
    constructor
    · rintro hnone ⟨pairing, haccepted⟩
      have hsome := hpublished.exists_selectByPrevious?_of_accepted haccepted
      rw [hnone] at hsome
      cases hsome
    · intro hnone
      by_contra hsome
      obtain ⟨selection, hselect⟩ := Option.ne_none_iff_exists'.mp hsome
      obtain ⟨pairing, haccepted, -⟩ := hpublished.first_of_selectByPrevious? hselect
      exact hnone ⟨pairing, haccepted⟩
  rw [select?, if_pos rfl, Option.orElse_eq_orElse, Option.orElse_eq_or, Option.or_eq_none_iff,
    hpaired, hpublished.selectByOrder?_eq_none_iff_of_untaggedFrom huntagged]

end Snapshot

/-! ## The step of the message itself -/

namespace Turn

theorem Move.steps_prefix {turn after : Turn} (hmove : Move turn after) :
    turn.trace.steps <+: after.trace.steps := by
  cases hmove with
  | record step _ => exact List.prefix_append _ _
  | _ => exact List.prefix_refl _

/-- What has been recorded stays recorded. -/
theorem Moves.steps_prefix {turn after : Turn} (hmoves : Moves turn after) :
    turn.trace.steps <+: after.trace.steps := by
  induction hmoves with
  | refl => exact List.prefix_refl _
  | tail _ hmove ih => exact ih.trans hmove.steps_prefix

/-- What a step of the message itself records of its selection. -/
def mainRecord (topic message : Text) (selection : Option Selection) : Step :=
  { step := 0
    topic
    message
    matched := selection.map (·.pattern)
    owner := selection.map (·.trigger.topic)
    viaPrevious := (selection.map (·.viaPrevious)).getD false
    opening := false }

/-- The first thing that a resolution records is what it selected. -/
theorem steps_prefix_resolve (turn : Turn) (message : Text) :
    let live := turn.mind.live
    let session := live.settle turn.session
    turn.trace.steps ++
        [mainRecord session.topic message (live.select? session session.topic message 0)] <+:
      ((resolve 0 false message).run turn).2.trace.steps := by
  intro live session
  have hdepth : ¬ live.persona.depth.toNat < 0 := Nat.not_lt_zero _
  rw [run_resolve_of_not_lt false message hdepth]
  obtain ⟨cache, hselect⟩ := exists_run_select live session.topic message 0 { turn with session }
  unfold answerStep
  dsimp only
  rw [if_neg Bool.false_ne_true, run_bind, hselect]
  dsimp only
  rw [run_bind]
  -- what is recorded here is kept by whatever answers
  cases hfound : live.select? session session.topic message 0 with
  | none => exact List.prefix_refl _
  | some selection =>
    let noted : Turn :=
      ((note ⟨0, false⟩ session.topic message (some selection)).run
        { turn with mind := { turn.mind with cache }, session }).2
    have hlearns : selection.trigger.learns → noted.mind.live.Learns := by
      intro htrigger
      obtain ⟨owner, howner, hmem⟩ := Snapshot.exists_topic_of_select? hfound
      exact ⟨owner, howner, _, hmem, htrigger⟩
    have hmoves : Moves noted ((answerSelected (resolve 1) (resolve 2 false) ⟨0, false⟩ message
        selection).run noted).2 :=
      moves_answerSelected (makes_resolve 1) (makes_resolve 2 false) hlearns _ _
    exact hmoves.steps_prefix

/-- When nothing opens the turn, its main step tells what the message selects. -/
theorem mainStep?_reply
    {mind : Mind} (hbegin : mind.live.persona.graph.contains Script.beginTopic = false)
    (session : Session) (message : Text) :
    let live := mind.live
    let settled := live.settle session
    let normalized := live.persona.normalize message
    ((reply message).run { mind, session }).2.trace.mainStep? =
      some (mainRecord settled.topic normalized
        (live.select? settled settled.topic normalized 0)) := by
  intro live settled normalized
  let start : Turn := { mind, session }
  have hclosed : ¬ start.persona.graph.contains Script.beginTopic := by
    rw [Bool.not_eq_true]
    exact hbegin
  have hreply : ((reply message).run start).2.trace =
      ((resolve 0 false normalized).run start).2.trace := by
    unfold reply answer
    rw [run_get_bind]
    dsimp only
    rw [run_bind, run_get_bind, if_neg hclosed]
    rfl
  obtain ⟨rest, hsteps⟩ := steps_prefix_resolve start normalized
  rw [hreply, Trace.mainStep?, ← hsteps]
  rfl

end Turn

/-- The topic in which the next message of a user is answered. -/
def Bot.topicOf (bot : Bot) (user : Text) : Text :=
  (bot.mind.live.settle (bot.session user)).topic

/-- Where a star alone is in the order of the user's topic and no visible pattern holds an
inheritance tag, the main step of a turn that nothing opens matches every message of one line.  A
message with a line break is left unmatched exactly when no pair and no pattern accepts it. -/
theorem bare_star_matches_every_line
    {bot : Bot} (hbot : bot.Reachable) (user message : Text)
    (hbegin : bot.mind.live.persona.graph.contains Script.beginTopic = false)
    (huntagged : bot.mind.live.persona.graph.UntaggedFrom (bot.topicOf user))
    (hstar : ∃ pattern ∈ bot.mind.live.order (bot.topicOf user),
      Text.trim pattern = Pattern.bareStar) :
    let live := bot.mind.live
    let session := live.settle (bot.session user)
    let normalized := live.persona.normalize message
    ∃ step, (bot.answer user message).2.trace.mainStep? = some step ∧
      step.message = normalized ∧ ('\n' ∉ normalized → step.matched.isSome) ∧
      (step.matched = none ↔ '\n' ∈ normalized ∧
        (¬ ∃ pairing : Pairing, pairing.Accepted live session (bot.topicOf user) normalized) ∧
        ∀ pattern ∈ live.order (bot.topicOf user),
          Pattern.match? (live.scope session) pattern normalized = none) := by
  intro live session normalized
  let selection := live.select? session session.topic normalized 0
  let step := Turn.mainRecord session.topic normalized selection
  have hmain : (bot.answer user message).2.trace.mainStep? = some step :=
    Turn.mainStep?_reply hbegin (bot.session user) message
  have hmatched : step.matched = none ↔ selection = none := Option.map_eq_none_iff
  have hselect : selection = none ↔ _ :=
    hbot.wellFormed.live.select?_eq_none_iff huntagged
  obtain ⟨star, hmem, hbare⟩ := hstar
  have hcaught : (∀ pattern ∈ live.order (bot.topicOf user),
      Pattern.match? (live.scope session) pattern normalized = none) → '\n' ∈ normalized := by
    intro hnone
    by_contra hline
    have hsome := (Pattern.isSome_match?_iff_of_bareStar hbare (live.scope session) normalized).mpr
      hline
    rw [hnone star hmem] at hsome
    cases hsome
  have hiff := hmatched.trans hselect
  refine ⟨step, hmain, rfl, ?_, ?_⟩
  · intro hline
    rw [Option.isSome_iff_ne_none]
    intro hnone
    exact hline (hcaught (hiff.mp hnone).2)
  · rw [hiff]
    constructor
    · rintro ⟨hpaired, hnone⟩
      exact ⟨hcaught hnone, hpaired, hnone⟩
    · rintro ⟨-, hpaired, hnone⟩
      exact ⟨hpaired, hnone⟩

/-- The star is in an included topic, the message is not of plain letters and ends a line. -/
theorem bare_star_matches_every_line_of_included_topic :
    let bot := Bot.ofScript <| "> topic random includes far\n+ hello\n- hi\n< topic\n".toList ++
      "> topic far inherits random\n+ *\n- what\n< topic\n".toList
    ∃ step, (bot.answer ['u'] " Ça va?\n".toList).2.trace.mainStep? = some step ∧
      step.message = "ca va?".toList ∧ step.matched.isSome := by
  intro bot
  have hbegin : bot.mind.live.persona.graph.contains Script.beginTopic = false := by
    decide +kernel
  have huntagged : bot.mind.live.persona.graph.Untagged := by
    decide +kernel
  have hstar : ∃ pattern ∈ bot.mind.live.order (bot.topicOf ['u']),
      Text.trim pattern = Pattern.bareStar := by
    decide +kernel
  have hline : bot.mind.live.persona.normalize " Ça va?\n".toList = "ca va?".toList := by
    decide +kernel
  obtain ⟨step, hmain, hmessage, hmatched, -⟩ :=
    bare_star_matches_every_line (Bot.reachable_ofScript _) ['u'] " Ça va?\n".toList hbegin
      (huntagged.untaggedFrom _) hstar
  rw [hline] at hmessage hmatched
  exact ⟨step, hmain, hmessage, hmatched (by decide)⟩

/-- A star alone takes no message of two lines, and nothing at all when its trigger is declared with
an inheritance tag. -/
theorem bare_star_leaves_messages_unmatched :
    let bot := Bot.ofScript "+ *\n- what\n".toList
    let tagged := Bot.ofScript "+ \x7binherits=5\x7d*\n- what\n".toList
    let twoLines := (bot.answer ['u'] "one\ntwo".toList).2
    let oneLine := (tagged.answer ['u'] "hi".toList).2
    bot.mind.live.order (bot.topicOf ['u']) = [Pattern.bareStar] ∧
      bot.mind.live.persona.graph.contains Script.beginTopic = false ∧
      twoLines.trace.mainStep?.map (·.matched) = some none ∧ twoLines.reply = noReplyMatched ∧
      tagged.mind.live.order (tagged.topicOf ['u']) = [Pattern.bareStar] ∧
      tagged.mind.live.persona.graph.contains Script.beginTopic = false ∧
      oneLine.trace.mainStep?.map (·.matched) = some none ∧ oneLine.reply = noReplyMatched := by
  decide +kernel

end DialogueScript

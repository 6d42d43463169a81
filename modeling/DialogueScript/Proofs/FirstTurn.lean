import DialogueScript.Proofs.PairedSelection
import DialogueScript.Proofs.SessionHistory
import DialogueScript.Proofs.TraceAccounts

/-!
# First turns

Before the bot has replied, its previous reply reads `undefined`, and the pattern of a pair may
accept that text as it may accept any other.  So a first turn goes by the previous reply exactly
where a pair that is in reach accepts this text and the message.
-/

namespace DialogueScript

/-! ## The first step -/

namespace Snapshot

variable {snapshot : Snapshot} {session : Session} {name message : Text}

/-- A trigger is in reach whose pattern accepts the message, and it is paired with a pattern that
accepts the text for a missing reply. -/
def PairsMissingReply (snapshot : Snapshot) (session : Session) (name message : Text) : Prop :=
  let graph := snapshot.persona.graph
  let scope := snapshot.scope session
  ∃ visited topic trigger pattern previous,
    graph.Reaches name visited ∧ graph.topic? visited = some topic ∧ trigger ∈ topic.triggers ∧
      Text.cut? Trigger.previousMark trigger.key.written = some (pattern, previous) ∧
      (Pattern.match? scope previous (snapshot.persona.normalize undefined)).isSome ∧
      (Pattern.match? scope pattern message).isSome

theorem pairsMissingReply_iff_exists_accepted (hreplies : session.replies = []) :
    snapshot.PairsMissingReply session name message ↔
      ∃ pairing : Pairing, pairing.Accepted snapshot session name message := by
  have hreply : session.reply 1 = undefined := by
    simp [Session.reply, Session.entry, hreplies]
  constructor
  · intro hpairs
    obtain ⟨visited, topic, trigger, pattern, previous, hreaches, htopic, hmem, hcut, hprevious,
      hpattern⟩ := hpairs
    obtain ⟨previousStars, hprevious⟩ := Option.isSome_iff_exists.mp hprevious
    obtain ⟨messageStars, hpattern⟩ := Option.isSome_iff_exists.mp hpattern
    refine ⟨⟨visited, topic, trigger, pattern, previous, ⟨messageStars, previousStars⟩⟩, ?_⟩
    apply Pairing.Accepted.mk hreaches htopic hmem
    apply AcceptsPair.mk hcut _ hpattern
    rwa [hreply]
  · intro haccepted
    obtain ⟨pairing, hreaches, htopic, hmem, hcut, hprevious, hpattern⟩ := haccepted
    rw [hreply] at hprevious
    exact ⟨_, _, _, _, _, hreaches, htopic, hmem, hcut, Option.isSome_of_eq_some hprevious,
      Option.isSome_of_eq_some hpattern⟩

theorem not_viaPrevious_of_select?
    {step : Nat} (hstep : 0 < step) {selection : Selection}
    (hselect : snapshot.select? session name message step = some selection) :
    ¬ selection.viaPrevious := by
  apply not_viaPrevious_of_selectByOrder?
  rwa [select?, if_neg (Nat.ne_of_gt hstep)] at hselect

theorem Published.viaPrevious_select?_iff (hpublished : snapshot.Published) :
    (∃ selection, snapshot.select? session name message 0 = some selection ∧
        selection.viaPrevious) ↔
      ∃ pairing : Pairing, pairing.Accepted snapshot session name message := by
  have hselect : snapshot.select? session name message 0 =
      (snapshot.selectByPrevious? session name message).or
        (snapshot.selectByOrder? session name message) := by
    simp [select?]
  cases hprevious : snapshot.selectByPrevious? session name message with
  | none =>
    rw [hselect, hprevious, Option.none_or]
    constructor
    · intro hvia
      obtain ⟨selection, horder, hvia⟩ := hvia
      exact absurd hvia (not_viaPrevious_of_selectByOrder? horder)
    · intro haccepted
      obtain ⟨pairing, haccepted⟩ := haccepted
      have hsome := hpublished.exists_selectByPrevious?_of_accepted haccepted
      simp [hprevious] at hsome
  | some selection =>
    obtain ⟨pairing, haccepted, hpairing, -⟩ := hpublished.first_of_selectByPrevious? hprevious
    have hvia : selection.viaPrevious := by
      rw [← hpairing]
      rfl
    simp only [hselect, hprevious, Option.some_or, Option.some.injEq, exists_eq_left', hvia,
      true_iff]
    exact ⟨pairing, haccepted⟩

end Snapshot

namespace Turn

open Script (beginTopic)

/-- Some step of the turn has gone by the previous reply. -/
def GoneByPrevious (turn : Turn) : Prop :=
  ∃ step ∈ turn.trace.steps, step.viaPrevious

/-- The pairs in reach of a first step of the turn accept the text for a missing reply. -/
def PairsMissingReply (turn : Turn) (opening : Bool) (message : Text) : Prop :=
  let session := turn.mind.live.settle turn.session
  turn.mind.live.PairsMissingReply session (if opening then beginTopic else session.topic) message

theorem goneByPrevious_of_record
    {turn after : Turn} {entered : Step}
    (hsteps : after.trace.steps = turn.trace.steps ++ [entered]) :
    after.GoneByPrevious ↔ turn.GoneByPrevious ∨ entered.viaPrevious := by
  simp [GoneByPrevious, hsteps, or_and_right, exists_or]

theorem goneByPrevious_enter (step : Nat) (opening : Bool) (message : Text) (turn : Turn) :
    let session := turn.mind.live.settle turn.session
    let topic := if opening then beginTopic else session.topic
    ((enter step opening message).run turn).2.GoneByPrevious ↔
      turn.GoneByPrevious ∨
        ∃ selection, turn.mind.live.select? session topic message step = some selection ∧
          selection.viaPrevious := by
  intro session topic
  obtain ⟨cache, hselect⟩ :=
    exists_run_select turn.mind.live topic message step { turn with session }
  rw [run_enter, hselect]
  dsimp only
  generalize turn.mind.live.select? session topic message step = found
  rw [goneByPrevious_of_record rfl]
  cases found <;> simp [GoneByPrevious]

theorem replies_settle (snapshot : Snapshot) (session : Session) :
    (snapshot.settle session).replies = session.replies := by
  unfold Snapshot.settle
  split <;> rfl

/-! ## Deeper steps -/

/-- No step of it has gone by the previous reply that had not before. -/
def KeepsToOrder (turn after : Turn) : Prop :=
  after.GoneByPrevious ↔ turn.GoneByPrevious

theorem closedFrom_keepsToOrder :
    ClosedFrom Number.wordLimit fun _ => KeepsToOrder where
  refl _ := Iff.rfl
  trans hfirst hsecond := hsecond.trans hfirst
  assign _ _ _ := Iff.rfl
  choose _ _ _ := Iff.rfl
  request _ _ _ := Iff.rfl
  code _ _ := Iff.rfl
  count _ := Iff.rfl
  leave _ := Iff.rfl
  keep _ _ := Iff.rfl
  note _ _ _ _ _ hleast hlimit := absurd hlimit (Nat.not_lt.mpr hleast)
  save _ _ _ _ := Iff.rfl
  learn _ _ := Iff.rfl

section Cut

variable {cut : TurnM Text} (hcut : ∀ turn, KeepsToOrder turn (cut.run turn).2)

include hcut

theorem keepsToOrder_resolveOr {step : Nat} (hstep : 0 < step) (opening : Bool) (message : Text)
    (turn : Turn) : KeepsToOrder turn ((resolveOr cut step opening message).run turn).2 := by
  induction step using step_induction generalizing opening message turn with
  | deeper step ih =>
    by_cases hdepth : turn.mind.live.persona.depth.toNat < step
    · rw [run_resolveOr_of_lt opening message cut hdepth]
      exact hcut { turn with session := turn.mind.live.settle turn.session }
    · have hentered : KeepsToOrder turn ((enter step opening message).run turn).2 := by
        refine (goneByPrevious_enter step opening message turn).trans (or_iff_left fun hvia => ?_)
        obtain ⟨selection, hselect, hvia⟩ := hvia
        exact Snapshot.not_viaPrevious_of_select? hstep hselect hvia
      exact (closedFrom_keepsToOrder.afterEnter_of_deeper
        (fun more hmore => ih hdepth more hmore (Nat.add_pos_right step hmore)) opening message
        hdepth).trans hentered

/-- A first step goes by the previous reply where a pair accepts the text for a missing reply. -/
theorem goneByPrevious_resolveOr
    {turn : Turn} (hpublished : turn.mind.live.Published) (hreplies : turn.session.replies = [])
    (opening : Bool) (message : Text) :
    ((resolveOr cut 0 opening message).run turn).2.GoneByPrevious ↔
      turn.GoneByPrevious ∨ turn.PairsMissingReply opening message := by
  have hafter := closedFrom_keepsToOrder.afterEnter_of_deeper
    (fun more hmore => keepsToOrder_resolveOr hcut (Nat.lt_add_left 0 hmore)) opening message
    (Nat.not_lt_zero turn.mind.live.persona.depth.toNat)
  have hentered := goneByPrevious_enter 0 opening message turn
  dsimp only at hentered
  have hsettled : (turn.mind.live.settle turn.session).replies = [] := by
    rw [replies_settle, hreplies]
  rw [hpublished.viaPrevious_select?_iff,
    ← Snapshot.pairsMissingReply_iff_exists_accepted hsettled] at hentered
  exact hafter.trans hentered

theorem keepsToOrder_expand (text : Text) (turn : Turn) :
    KeepsToOrder turn ((expand (resolveOr cut 1 false) {} text).run turn).2 :=
  @Compatible.expand _ closedFrom_keepsToOrder.compatible _ (resolveOr cut 1 false)
    (keepsToOrder_resolveOr hcut Nat.one_pos false) {} text turn

end Cut

/-! ## The answer -/

theorem replies_resolve (step : Nat) (opening : Bool) (message : Text) (turn : Turn) :
    ((resolve step opening message).run turn).2.session.replies = turn.session.replies := by
  rw [resolve_eq_resolveOr]
  apply Session.Sets.replies_eq
  refine closedFrom_sets.resolveOr (fun turn => ?_) (Nat.zero_le step) opening message turn
  exact .refl turn.session

theorem goneByPrevious_answer
    {turn : Turn} (hmind : turn.mind.WellFormed) (hreplies : turn.session.replies = [])
    (message : Text) :
    let opening := (resolve 0 true requestMessage).run turn
    ((answer message).run turn).2.GoneByPrevious ↔
      turn.GoneByPrevious ∨
        if turn.persona.graph.contains beginTopic then
          turn.PairsMissingReply true requestMessage ∨
            Text.contains okMark opening.1 ∧ opening.2.PairsMissingReply false message
        else turn.PairsMissingReply false message := by
  intro opening
  have hcut : ∀ turn, KeepsToOrder turn ((Pure.pure deepRecursion : TurnM Text).run turn).2 :=
    fun _ => Iff.rfl
  have hopening : opening.2.GoneByPrevious ↔
      turn.GoneByPrevious ∨ turn.PairsMissingReply true requestMessage := by
    have hresolved := goneByPrevious_resolveOr hcut hmind.live hreplies true requestMessage
    rwa [← resolve_eq_resolveOr] at hresolved
  have hpublished : opening.2.mind.live.Published :=
    ((makes_resolve 0 true requestMessage turn).wellFormed hmind).live
  have hnone : opening.2.session.replies = [] := by
    rw [replies_resolve, hreplies]
  rw [answer_eq_answerOr]
  by_cases hopened : turn.persona.graph.contains beginTopic
  · have hresolved : (resolveOr (Pure.pure deepRecursion) 0 true requestMessage).run turn =
        (opening.1, opening.2) := by
      rw [← resolve_eq_resolveOr]
      rfl
    obtain ⟨text, hrun⟩ := exists_run_answerOr_of_opened hopened hresolved message
    rw [hrun, if_pos hopened]
    apply (keepsToOrder_expand hcut text _).trans
    split <;> rename_i hok
    · apply (goneByPrevious_resolveOr hcut hpublished hnone false message).trans
      simp [hopening, hok, or_assoc]
    · simp [hopening, hok]
  · rw [answerOr, run_get_bind, if_neg hopened, if_neg hopened]
    exact goneByPrevious_resolveOr hcut hmind.live hreplies false message

end Turn

/-! ## First turns of a bot -/

namespace Bot

open Turn

/-- A turn before any reply goes by the previous reply exactly where a pair in reach of a first step
accepts the text for a missing reply.  The scripts that open the turn have such a step, and so has
the message unless they leave it out. -/
theorem first_turn_goes_by_missing_reply_iff
    {bot : Bot} (hbot : bot.Reachable) {user : Text} (hfirst : (bot.session user).replies = [])
    (message : Text) :
    let start := bot.turnFor user
    let opening := (resolve 0 true requestMessage).run start
    let normalized := bot.mind.live.persona.normalize message
    (∃ step ∈ (bot.answer user message).2.trace.steps, step.viaPrevious) ↔
      if bot.mind.live.persona.graph.contains Script.beginTopic then
        start.PairsMissingReply true requestMessage ∨
          Text.contains okMark opening.1 ∧ opening.2.PairsMissingReply false normalized
      else start.PairsMissingReply false normalized := by
  intro start opening normalized
  have hmind : start.mind.WellFormed := hbot.wellFormed
  have hreplies : start.session.replies = [] := hfirst
  have hnot : ¬ start.GoneByPrevious := by
    simp [GoneByPrevious, start, turnFor]
  exact (goneByPrevious_answer hmind hreplies normalized).trans (or_iff_right hnot)

/-- The pair for a reply of one word is in reach of the first message, and that for a reply of two
words is not. -/
theorem pair_for_one_word_is_in_reach :
    let script := "+ hi\n- first\n+ hi\n% _\n- again\n+ bye\n% _ so\n- last\n".toList
    let bot := Bot.ofScript script
    let start := bot.turnFor ['u']
    (bot.session ['u']).replies = [] ∧ start.PairsMissingReply false "hi".toList ∧
      ¬ start.PairsMissingReply false "bye".toList := by
  intro script bot start
  have hbot : bot.Reachable := Bot.reachable_ofScript script
  have hreplies : (bot.session ['u']).replies = [] := rfl
  have hunopened : ¬ bot.mind.live.persona.graph.contains Script.beginTopic := by
    decide +kernel
  have hfirst := first_turn_goes_by_missing_reply_iff hbot hreplies
  dsimp only at hfirst
  simp only [if_neg hunopened] at hfirst
  have hhi := hfirst "hi".toList
  have hbye := hfirst "bye".toList
  rw [show bot.mind.live.persona.normalize "hi".toList = "hi".toList by decide +kernel] at hhi
  rw [show bot.mind.live.persona.normalize "bye".toList = "bye".toList by decide +kernel] at hbye
  refine ⟨hreplies, hhi.mp ?_, mt hbye.mpr ?_⟩
  · decide +kernel
  · decide +kernel

/-- The first message is answered as if a reply had come before it. -/
theorem first_turn_is_answered_by_pair :
    let script := "+ hi\n% *\n- again\n+ hi\n- first\n".toList
    let bot := Bot.ofScript script
    let answer := (bot.answer ['u'] "hi".toList).2
    bot.Reachable ∧ bot.session? ['u'] = none ∧ answer.reply = "again".toList ∧
      ∃ step ∈ answer.trace.steps, step.viaPrevious := by
  intro script bot answer
  exact ⟨Bot.reachable_ofScript script, by decide +kernel, by decide +kernel, by decide +kernel⟩

end Bot

end DialogueScript

import DialogueScript.Proofs.LikeTurns

/-!
# Independent users

The users of a bot share its mind: the persona, the matchers that are kept, the random stream, the
memory.  In a run that publishes nothing, asks nothing of a collaborator and has no real choice to
make, a turn changes no more of the mind than the random stream and the kept matchers, and neither
tells in a reply.  So every user is answered as if there were no other.
-/

namespace DialogueScript

namespace Mind

/-- More may have been asked of the collaborators, and without that the memory is as it was. -/
def Asks (before after : Mind) : Prop :=
  ∃ asked, after.requests = before.requests ++ asked ∧ (asked = [] → after.memory = before.memory)

variable {before middle after : Mind}

theorem asks_of_same
    (hrequests : after.requests = before.requests) (hmemory : after.memory = before.memory) :
    before.Asks after :=
  ⟨[], by rw [hrequests, List.append_nil], fun _ => hmemory⟩

theorem Asks.trans (hfirst : before.Asks middle) (hsecond : middle.Asks after) :
    before.Asks after := by
  obtain ⟨asked, hasked, hmemory⟩ := hfirst
  obtain ⟨more, hmore, hrest⟩ := hsecond
  refine ⟨asked ++ more, by rw [hmore, hasked, List.append_assoc], fun hnone => ?_⟩
  obtain ⟨hasked, hmore⟩ := List.append_eq_nil_iff.mp hnone
  rw [hrest hmore, hmemory hasked]

/-- Where nothing is asked in all, nothing is asked on the way. -/
theorem Asks.requests_eq
    (hfirst : before.Asks middle) (hsecond : middle.Asks after)
    (hrequests : after.requests = before.requests) :
    middle.requests = before.requests ∧ after.requests = middle.requests := by
  obtain ⟨asked, hasked, -⟩ := hfirst
  obtain ⟨more, hmore, -⟩ := hsecond
  rw [hmore, hasked, List.append_assoc, List.append_right_eq_self, List.append_eq_nil_iff] at hrequests
  obtain ⟨rfl, rfl⟩ := hrequests
  exact ⟨by rw [hasked, List.append_nil], by rw [hmore, List.append_nil]⟩

theorem Asks.memory_eq (hasks : before.Asks after) (hrequests : after.requests = before.requests) :
    after.memory = before.memory := by
  obtain ⟨asked, hasked, hmemory⟩ := hasks
  rw [hasked, List.append_right_eq_self] at hrequests
  exact hmemory hrequests

theorem asks_save (mind : Mind) (key content : Text) (tags : List Text) :
    mind.Asks (mind.save key content tags) := by
  unfold save
  split
  · exact asks_of_same rfl rfl
  · exact ⟨_, rfl, fun hnone => absurd hnone (List.cons_ne_nil _ _)⟩

end Mind

namespace Turn

theorem asks_of_move {before after : Turn} (hmove : Move before after) :
    before.mind.Asks after.mind := by
  cases hmove with
  | request request => exact ⟨_, rfl, fun hnone => absurd hnone (List.cons_ne_nil _ _)⟩
  | save key content tags => exact before.mind.asks_save key content tags
  | code script => exact ⟨_, rfl, fun _ => rfl⟩
  | _ => exact Mind.asks_of_same rfl rfl

theorem asks_of_moves {before after : Turn} (hmoves : Moves before after) :
    before.mind.Asks after.mind := by
  induction hmoves with
  | refl => exact Mind.asks_of_same rfl rfl
  | tail _ hmove ih => exact ih.trans (asks_of_move hmove)

end Turn

/-- Minds that differ in their random streams and in the matchers that they keep, and in nothing
else. -/
def Likeness.same : Likeness where
  admits _ := True
  permits _ := True
  draft := Eq
  live := Eq
  admits_default := trivial
  setVariable hdraft name value := congrArg (fun persona => persona.setVariable name value) hdraft
  read := by
    rintro persona _ rfl script - collaborators
    exact ⟨rfl, rfl⟩
  publish hdraft := congrArg Persona.publish hdraft
  definitions_eq hlive := congrArg (fun live => live.persona.definitions) hlive.symm
  objects_eq hlive := congrArg (fun live => live.persona.objects) hlive.symm
  language_eq hlive := congrArg (fun live => live.persona.language) hlive.symm
  depth_eq hlive := congrArg (fun live => live.persona.depth) hlive.symm
  contains_eq hlive name _ := congrArg (fun live => live.persona.graph.contains name) hlive.symm
  select?_eq hlive name _ session message step :=
    congrArg (fun live => live.select? session name message step) hlive.symm

namespace Bot

/-! ## One turn -/

theorem asks_answer (bot : Bot) (user message : Text) :
    bot.mind.Asks (bot.answer user message).1.mind :=
  Turn.asks_of_moves (Turn.makes_reply message { mind := bot.mind, session := bot.session user })

theorem asks_converse (bot : Bot) (turns : List (Text × Text)) :
    bot.mind.Asks (bot.converse turns).1.mind := by
  induction turns generalizing bot with
  | nil => exact Mind.asks_of_same rfl rfl
  | cons turn turns ih =>
    obtain ⟨user, message⟩ := turn
    exact (bot.asks_answer user message).trans (ih (bot.answer user message).1)

/-- To this user the bots are the same. -/
structure SameFor (user : Text) (bot other : Bot) : Prop where
  session?_eq : other.session? user = bot.session? user
  historySize_eq : other.options.historySize = bot.options.historySize
  draft_eq : other.mind.draft = bot.mind.draft
  live_eq : other.mind.live = bot.mind.live
  memory_eq : other.mind.memory = bot.mind.memory
  collaborators_eq : other.mind.collaborators = bot.mind.collaborators
  requests_eq : other.mind.requests = bot.mind.requests

namespace SameFor

variable {user : Text} {bot solo : Bot}

theorem session_eq (hsame : SameFor user bot solo) : solo.session user = bot.session user := by
  rw [session, session, hsame.session?_eq, hsame.historySize_eq]

/-- A turn of the user goes the same way with both bots. -/
theorem answer
    (hsame : SameFor user bot solo) (message : Text)
    (hchoices : ∀ options ∈ (bot.answer user message).2.trace.choices, options ≤ 1) :
    (solo.answer user message).2.reply = (bot.answer user message).2.reply ∧
      SameFor user (bot.answer user message).1 (solo.answer user message).1 := by
  have hstart : Likeness.same.Alike { mind := bot.mind, session := bot.session user }
      { mind := solo.mind, session := solo.session user } :=
    { session := hsame.session_eq
      topic := trivial
      memory := hsame.memory_eq
      collaborators := hsame.collaborators_eq
      requests := hsame.requests_eq
      draft := hsame.draft_eq.symm
      live := hsame.live_eq.symm }
  have hcalm : Likeness.same.Calm (bot.answer user message).2.trace :=
    { choices := hchoices
      code := fun _ _ => trivial
      topics := fun _ _ => trivial }
  obtain ⟨hreply, hend⟩ := (Turn.mirrors_reply trivial message).agrees hstart hcalm
  refine ⟨hreply, ?_⟩
  constructor
  · rw [session?_answer_self, session?_answer_self, hend.session]
  · exact hsame.historySize_eq
  · exact hend.draft.symm
  · exact hend.live.symm
  · exact hend.memory
  · exact hend.collaborators
  · exact hend.requests

/-- A turn of another user does not matter if it changes nothing and asks nothing. -/
theorem answer_other
    (hsame : SameFor user bot solo) {other : Text} (hother : other ≠ user) (message : Text)
    (hchanges : (bot.answer other message).2.trace.changes = [])
    (hrequests : (bot.answer other message).1.mind.requests = bot.mind.requests) :
    SameFor user (bot.answer other message).1 solo := by
  have hreplays := bot.replays_answer other message
  rw [hchanges] at hreplays
  have hdraft : (bot.answer other message).1.mind.draft = bot.mind.draft := hreplays.draft_eq
  have hlive : (bot.answer other message).1.mind.live = bot.mind.live := hreplays.live_eq
  have hsession? := bot.session?_answer_of_ne hother.symm message
  have hmemory := (bot.asks_answer other message).memory_eq hrequests
  exact
    { session?_eq := hsame.session?_eq.trans hsession?.symm
      historySize_eq := hsame.historySize_eq
      draft_eq := hsame.draft_eq.trans hdraft.symm
      live_eq := hsame.live_eq.trans hlive.symm
      memory_eq := hsame.memory_eq.trans hmemory.symm
      collaborators_eq := hsame.collaborators_eq.trans hreplays.collaborators_eq.symm
      requests_eq := hsame.requests_eq.trans hrequests.symm }

end SameFor

/-! ## Whole runs -/

/-- No turn of the run changes the persona, asks anything of a collaborator or of the memory, or
chooses among two or more options. -/
structure RunsQuietly (bot : Bot) (turns : List (Text × Text)) : Prop where
  changes : ∀ answer ∈ (bot.converse turns).2, answer.trace.changes = []
  choices : ∀ answer ∈ (bot.converse turns).2, ∀ options ∈ answer.trace.choices, options ≤ 1
  requests : (bot.converse turns).1.mind.requests = bot.mind.requests

/-- The replies to the turns of one user. -/
def repliesTo (user : Text) : List (Text × Text) → List Answer → List Text
  | turn :: turns, answer :: answers =>
    if turn.1 = user then answer.reply :: repliesTo user turns answers
    else repliesTo user turns answers
  | _, _ => []

/-- The turns of one user. -/
def turnsOf (user : Text) (turns : List (Text × Text)) : List (Text × Text) :=
  turns.filter fun turn => turn.1 = user

/-- The bot that one user would have alone: with the session of no other, no matcher kept, and
whatever seed. -/
def alone (bot : Bot) (user : Text) (seed : UInt64) : Bot :=
  { options := { bot.options with seed }
    mind := { bot.mind with cache := Cache.empty, random := Random.Stream.ofSeed seed }
    sessions :=
      match bot.session? user with
      | none => Table.empty
      | some session => Table.empty.insert user session }

theorem sameFor_alone (bot : Bot) (user : Text) (seed : UInt64) :
    SameFor user bot (bot.alone user seed) := by
  refine ⟨?_, rfl, rfl, rfl, rfl, rfl, rfl⟩
  unfold alone session?
  cases hsession : bot.sessions.get? user with
  | none => rfl
  | some session => exact Table.get?_insert_self _ user session

theorem RunsQuietly.of_cons
    {bot : Bot} {user message : Text} {turns : List (Text × Text)}
    (hquiet : bot.RunsQuietly ((user, message) :: turns)) :
    (bot.answer user message).2.trace.changes = [] ∧
      (∀ options ∈ (bot.answer user message).2.trace.choices, options ≤ 1) ∧
      (bot.answer user message).1.mind.requests = bot.mind.requests ∧
      (bot.answer user message).1.RunsQuietly turns := by
  obtain ⟨hfirst, hrest⟩ := (bot.asks_answer user message).requests_eq
    ((bot.answer user message).1.asks_converse turns) hquiet.requests
  have hhead : (bot.answer user message).2 ∈ (bot.converse ((user, message) :: turns)).2 :=
    List.mem_cons_self
  refine ⟨hquiet.changes _ hhead, hquiet.choices _ hhead, hfirst, ?_⟩
  constructor
  · exact fun answer hmem => hquiet.changes answer (List.mem_cons_of_mem _ hmem)
  · exact fun answer hmem => hquiet.choices answer (List.mem_cons_of_mem _ hmem)
  · exact hrest

theorem SameFor.converse
    {user : Text} {bot solo : Bot} (hsame : SameFor user bot solo) {turns : List (Text × Text)}
    (hquiet : bot.RunsQuietly turns) :
    (solo.converse (turnsOf user turns)).2.map Answer.reply =
        repliesTo user turns (bot.converse turns).2 ∧
      SameFor user (bot.converse turns).1 (solo.converse (turnsOf user turns)).1 := by
  induction turns generalizing bot solo with
  | nil => exact ⟨rfl, hsame⟩
  | cons turn turns ih =>
    obtain ⟨speaker, message⟩ := turn
    obtain ⟨hchanges, hchoices, hrequests, hrest⟩ := hquiet.of_cons
    by_cases hspeaker : speaker = user
    · subst hspeaker
      obtain ⟨hreply, hafter⟩ := hsame.answer message hchoices
      obtain ⟨hreplies, hend⟩ := ih hafter hrest
      have hturns : turnsOf speaker ((speaker, message) :: turns) =
          (speaker, message) :: turnsOf speaker turns := by
        simp [turnsOf]
      rw [hturns]
      refine ⟨?_, hend⟩
      simp only [Bot.converse, repliesTo, List.map_cons, if_true]
      rw [hreply, hreplies]
    · have hafter := hsame.answer_other hspeaker message hchanges hrequests
      obtain ⟨hreplies, hend⟩ := ih hafter hrest
      have hturns : turnsOf user ((speaker, message) :: turns) = turnsOf user turns := by
        simp [turnsOf, hspeaker]
      rw [hturns]
      refine ⟨?_, hend⟩
      simp only [Bot.converse, repliesTo, hspeaker, if_false]
      exact hreplies

end Bot

/-- In a quiet run, however the turns of the users are interleaved, the replies to each user and the
session that each is left with are those of the user alone with the bot, under any seed. -/
theorem each_user_is_answered_as_alone
    (bot : Bot) (turns : List (Text × Text)) (hquiet : bot.RunsQuietly turns) (user : Text)
    (seed : UInt64) :
    let together := bot.converse turns
    let alone := (bot.alone user seed).converse (Bot.turnsOf user turns)
    Bot.repliesTo user turns together.2 = alone.2.map Answer.reply ∧
      together.1.session? user = alone.1.session? user := by
  obtain ⟨hreplies, hend⟩ := (bot.sameFor_alone user seed).converse hquiet
  exact ⟨hreplies.symm, hend.session?_eq.symm⟩

/-- Two users tell their names and enter a topic by turns, and neither hears of the other. -/
theorem each_user_is_answered_as_alone_of_two :
    let hall := "+ my name is *\n- <set name=<star>>\x7btopic=club\x7dhello\n".toList
    let club := "> topic club\n+ who am i\n- <get name>, after <input1>\n< topic\n".toList
    let bot := Bot.ofScript (hall ++ club)
    let turns := [(['u'], "my name is ann".toList), (['v'], "my name is bob".toList),
      (['u'], "who am i".toList)]
    let alone := (bot.alone ['u'] 7).converse (Bot.turnsOf ['u'] turns)
    bot.RunsQuietly turns ∧
      alone.2.map Answer.reply = ["hello".toList, "ann, after my name is ann".toList] ∧
      (bot.converse turns).1.session? ['u'] = alone.1.session? ['u'] := by
  intro hall club bot turns alone
  obtain ⟨hchanges, hchoices, hrequests, hreplies⟩ :
      (∀ answer ∈ (bot.converse turns).2, answer.trace.changes = []) ∧
        (∀ answer ∈ (bot.converse turns).2, ∀ options ∈ answer.trace.choices, options ≤ 1) ∧
        (bot.converse turns).1.mind.requests = bot.mind.requests ∧
        Bot.repliesTo ['u'] turns (bot.converse turns).2 =
          ["hello".toList, "ann, after my name is ann".toList] := by
    decide +kernel
  have hquiet : bot.RunsQuietly turns := ⟨hchanges, hchoices, hrequests⟩
  obtain ⟨halone, hsession⟩ := each_user_is_answered_as_alone bot turns hquiet ['u'] 7
  exact ⟨hquiet, halone.symm.trans hreplies, hsession⟩

end DialogueScript

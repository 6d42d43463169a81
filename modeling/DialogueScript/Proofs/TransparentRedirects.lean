import DialogueScript.Proofs.IndependentUsers
import DialogueScript.Proofs.OpeningGate

/-!
# Transparent redirects

A message that a plain redirect hands on is answered as the message that it is handed on as.  The
turn of the first message makes the steps of the other turn one step deeper, after a step that
leaves nothing behind but the last match, which is soon overwritten.  How deep a step is shows only
where it is too deep or answers to the previous reply.
-/

namespace DialogueScript

/-! ## Sessions that differ in what is not read -/

namespace Snapshot

variable {snapshot : Snapshot} {name : Text}

theorem match?_set_of_not_reads
    (hreads : ∀ entry ∈ snapshot.compiled.entries, Pattern.readsSequence name entry.2 = false)
    (session : Session) (value pattern text : Text) :
    snapshot.match? (session.set name value) pattern text =
      snapshot.match? session pattern text := by
  unfold match?
  cases hcompiled : snapshot.compiled.get? pattern with
  | none => rfl
  | some segments =>
    obtain ⟨front, back, hentries, -⟩ := List.lookup_eq_some_iff.mp hcompiled
    have hmem : (pattern, segments) ∈ snapshot.compiled.entries := by
      rw [hentries]
      exact List.mem_append_right _ List.mem_cons_self
    exact Pattern.matchSegments?_set_of_not_reads _ _ _ (hreads _ hmem) text

theorem selectByOrder?_set_of_not_reads
    (hreads : ∀ entry ∈ snapshot.compiled.entries, Pattern.readsSequence name entry.2 = false)
    (session : Session) (value topic message : Text) :
    snapshot.selectByOrder? (session.set name value) topic message =
      snapshot.selectByOrder? session topic message := by
  simp only [selectByOrder?, match?_set_of_not_reads hreads]

theorem select?_of_unpaired
    {session : Session} {topic message : Text}
    (hunpaired : snapshot.selectByPrevious? session topic message = none) (step : Nat) :
    snapshot.select? session topic message step =
      snapshot.selectByOrder? session topic message := by
  rw [select?, hunpaired, ite_self]
  rfl

end Snapshot

/-! ## A step that only hands on -/

/-- Minds that are the same but for random streams and kept matchers, while no code is run. -/
def Likeness.still : Likeness :=
  { Likeness.same with permits := fun _ => False, read := fun _ _ hfalse => hfalse.elim }

namespace Turn

/-- The turn when it comes to its message: scripts may have opened it. -/
def opened (turn : Turn) : Turn :=
  if turn.persona.graph.contains Script.beginTopic then
    ((resolve 0 true requestMessage).run turn).2
  else turn

/-- The message is matched by a trigger that has nothing but a redirect, without tags, to the other
one; neither of them answers to the previous reply, and no pattern reads the last match. -/
structure HandsOn (turn : Turn) (message next : Text) : Prop where
  redirected : let settled := turn.mind.live.settle turn.session
    ∃ selection ∈ turn.mind.live.selectByOrder? settled settled.topic message,
      ∃ redirect ∈ selection.trigger.soleRedirect?,
        (selection.target settled redirect).Tagless ∧
          turn.mind.live.persona.normalize (selection.target settled redirect) = next
  unpaired : let settled := turn.mind.live.settle turn.session
    ∀ text ∈ [message, next],
      turn.mind.live.selectByPrevious? settled settled.topic text = none
  unread : ∀ entry ∈ turn.mind.live.compiled.entries,
    Pattern.readsSequence lastMatchName entry.2 = false

/-- Leave a mark in the trace. -/
def mark : TurnM Text := do
  change (.code [])
  pure []

theorem makes_mark : Makes mark :=
  (Makes.of_move fun _ => .code []).bind fun _ => .pure []

theorem changes_mark (turn : Turn) : (mark.run turn).2.trace.changes ≠ turn.trace.changes := by
  have hrun : (mark.run turn).2.trace.changes = turn.trace.changes ++ [.code []] := rfl
  rw [hrun, Ne, List.append_right_eq_self]
  exact List.cons_ne_nil _ _

theorem not_calm_mark (turn : Turn) : ¬Likeness.still.Calm (mark.run turn).2.trace :=
  fun hcalm => hcalm.code [] (List.mem_append_right _ (List.mem_singleton_self _))

/-- Unless it is cut off, a step agrees with one that is less deep, if that is not the first. -/
theorem mirrors_resolveOr_mark
    (gap step : Nat) (opening : Bool) (message : Text) (hfirst : gap = 0 ∨ 0 < step) :
    Likeness.still.Mirrors (resolveOr mark (step + gap) opening message)
      (resolve step opening message) := by
  refine mirrors_resolveOr makes_mark ?_ step opening message hfirst fun _ => trivial
  intro step opening message turn turn' _ hdeep hcalm
  rw [run_resolveOr_of_lt opening message mark hdeep] at hcalm
  exact absurd hcalm (not_calm_mark _)

section Handed

variable {turn turn' : Turn} {next : Text}

/-- The step after the redirect selects as a first step does, and leaves nothing of the redirect
when it notes its own match. -/
theorem agreeAt_resolve_of_handed
    (halike : Likeness.still.Alike turn turn')
    (hunpaired : let settled := turn.mind.live.settle turn.session
      turn.mind.live.selectByPrevious? settled settled.topic next = none)
    (hunread : ∀ entry ∈ turn.mind.live.compiled.entries,
      Pattern.readsSequence lastMatchName entry.2 = false)
    (pattern : Text) (cache : Cache) (random : Random.Stream) (trace : Trace) :
    Likeness.still.AgreeAt (resolveOr mark 1 false next) (resolve 0 false next)
      { mind := { turn.mind with cache, random }
        session := (turn.mind.live.settle turn.session).set lastMatchName pattern
        trace } turn' := by
  let settled : Turn := { turn with session := turn.mind.live.settle turn.session }
  let settled' : Turn := { turn' with session := turn'.mind.live.settle turn'.session }
  let handed : Turn :=
    { mind := { turn.mind with cache, random }
      session := settled.session.set lastMatchName pattern
      trace }
  have hsettled : Likeness.still.Alike settled settled' := alike_settle halike
  have hstays : handed.mind.live.settle handed.session = handed.session :=
    Snapshot.settle_set_settle _ _ (by decide) _
  have htopic : handed.session.topic = settled.session.topic :=
    Session.topic_set_of_ne _ _ (by decide)
  have htopic' : settled'.session.topic = settled.session.topic :=
    congrArg Session.topic hsettled.session
  have hselect : settled'.mind.live.select? settled'.session settled.session.topic next 0 =
      handed.mind.live.select? handed.session settled.session.topic next 1 := by
    have hlive : settled'.mind.live = turn.mind.live := Eq.symm hsettled.live
    have hlater : handed.mind.live.select? handed.session settled.session.topic next 1 =
        turn.mind.live.selectByOrder? handed.session settled.session.topic next := rfl
    rw [hlater, hlive, hsettled.session, Snapshot.select?_of_unpaired hunpaired,
      Snapshot.selectByOrder?_set_of_not_reads hunread]
  have hnoted : ∀ selection, Likeness.still.Alike
      ((note ⟨1, false⟩ settled.session.topic next selection).run handed).2
      ((note ⟨0, false⟩ settled.session.topic next selection).run settled').2 := by
    intro selection
    have hnoted := alike_note hsettled ⟨1, false⟩ ⟨0, false⟩ settled.session.topic next selection
    have hlast : ∀ value, handed.session.set lastMatchName value =
        settled.session.set lastMatchName value := Session.set_set _ _ _
    exact { hnoted with session := hnoted.session.trans (hlast _).symm, topic := trivial }
  by_cases hdeep : handed.mind.live.persona.depth.toNat < 1
  · have hrun : (resolveOr mark 1 false next).run handed = mark.run { handed with
        session := handed.mind.live.settle handed.session } :=
      run_resolveOr_of_lt false next mark hdeep
    intro hcalm
    rw [hrun] at hcalm
    exact absurd hcalm (not_calm_mark _)
  · have hstep := agreeAt_answerStep_of_select
      (fun opening message _ => mirrors_resolveOr_mark 1 1 opening message (.inr Nat.one_pos))
      (fun message => mirrors_resolveOr_mark 1 2 false message (.inr Nat.two_pos)) 1 0
      (fun hfalse => absurd hfalse Bool.false_ne_true) (if_neg Bool.false_ne_true) hselect hnoted
    have hrun := run_resolveOr_of_not_lt false next mark hdeep
    have hrun' := run_resolve_of_not_lt false next
      (Nat.not_lt_zero turn'.mind.live.persona.depth.toNat)
    rw [hstays, htopic] at hrun
    rw [htopic'] at hrun'
    unfold Likeness.AgreeAt at hstep ⊢
    rw [hrun, hrun']
    exact hstep

end Handed

namespace HandsOn

variable {turn turn' : Turn} {message next : Text}

theorem of_alike (hhands : turn'.HandsOn message next) (halike : Likeness.still.Alike turn turn') :
    turn.HandsOn message next := by
  have hlive : turn.mind.live = turn'.mind.live := halike.live
  obtain ⟨hredirected, hunpaired, hunread⟩ := hhands
  rw [← hlive, halike.session] at hredirected hunpaired
  rw [← hlive] at hunread
  exact ⟨hredirected, hunpaired, hunread⟩

theorem agreeAt_resolve
    (hhands : turn'.HandsOn message next) (halike : Likeness.still.Alike turn turn') :
    Likeness.still.AgreeAt (resolveOr mark 0 false message) (resolve 0 false next) turn turn' := by
  obtain ⟨⟨selection, hselect, redirect, hredirect, htagless, rfl⟩, hunpaired, hunread⟩ :=
    hhands.of_alike halike
  have hmessage := hunpaired message (by simp)
  have hnext := hunpaired _ (List.mem_pair.mpr (.inr rfl))
  obtain ⟨cache, random, trace, hrun, -, -⟩ := run_resolveOr_of_soleRedirect mark
    ((Snapshot.select?_of_unpaired hmessage 0).trans hselect) (Nat.not_lt_zero _) hredirect
    htagless
  have hhanded := agreeAt_resolve_of_handed halike hnext hunread selection.pattern cache random
    trace
  unfold Likeness.AgreeAt at hhanded ⊢
  rw [hrun]
  exact hhanded

theorem agreeAt_answer
    (hhands : turn'.opened.HandsOn message next) (halike : Likeness.still.Alike turn turn') :
    Likeness.still.AgreeAt (answerOr mark message) (answer next) turn turn' := by
  have hlive : turn.mind.live = turn'.mind.live := halike.live
  have hexpand : ∀ text, Likeness.still.Mirrors (expand (resolveOr mark 1 false) {} text)
      (expand (resolve 1 false) {} text) :=
    mirrors_expand (fun message => mirrors_resolveOr_mark 0 1 false message (.inl rfl)) {}
  unfold opened at hhands
  unfold Likeness.AgreeAt answerOr answer
  rw [run_get_bind, run_get_bind, Turn.persona, hlive]
  by_cases hbegin : turn'.mind.live.persona.graph.contains Script.beginTopic
  · rw [Turn.persona, if_pos hbegin] at hhands
    rw [Turn.persona, if_pos hbegin, if_pos hbegin]
    have hmirrors := mirrors_resolveOr_mark 0 0 true requestMessage (.inl rfl)
    refine (hmirrors.agrees halike).bind ?_ fun hopened => ?_
    · generalize ((resolveOr mark 0 true requestMessage).run turn).1 = opening
      generalize ((resolveOr mark 0 true requestMessage).run turn).2 = middle
      split
      · refine ((makes_resolveOr makes_mark 0 false message).bind fun reply => ?_) middle
        exact (Makes.pure _).bind fun text => (hexpand text).makes
      · exact ((Makes.pure opening).bind fun text => (hexpand text).makes) middle
    · split
      · refine (hhands.agreeAt_resolve hopened).bind ?_ fun hresolved => ?_
        · exact ((Makes.pure _).bind fun text => (hexpand text).makes) _
        · exact ((Likeness.Mirrors.pure _).bind hexpand).agrees hresolved
      · exact ((Likeness.Mirrors.pure _).bind hexpand).agrees hopened
  · rw [Turn.persona, if_neg hbegin] at hhands
    rw [Turn.persona, if_neg hbegin, if_neg hbegin]
    exact hhands.agreeAt_resolve halike

end HandsOn

end Turn

namespace Bot

open Turn

/-- A message whose trigger has nothing but a plain redirect gets the reply of the message that it
is redirected to, and the variables of the user are the same afterwards, if the turn is not cut off,
changes nothing for all users and makes no real choice. -/
theorem plain_redirect_is_transparent
    {bot : Bot} {user a b : Text}
    (hhands : (bot.turnFor user).opened.HandsOn (bot.mind.live.persona.normalize a)
      (bot.mind.live.persona.normalize b))
    (hdepth : (bot.turnFor user).StaysWithinDepth a)
    (hchanges : (bot.answer user a).2.trace.changes = [])
    (hchoices : ∀ options ∈ (bot.answer user a).2.trace.choices, options ≤ 1) :
    (bot.answer user b).2.reply = (bot.answer user a).2.reply ∧
      ((bot.answer user b).1.session user).values =
        ((bot.answer user a).1.session user).values := by
  let turn := bot.turnFor user
  let ended := (answerOr mark (turn.persona.normalize a)).run turn
  let ended' := (Turn.answer (turn.persona.normalize b)).run turn
  have hstart : Likeness.still.Alike turn turn :=
    { session := rfl, topic := trivial, memory := rfl, collaborators := rfl, requests := rfl
      draft := rfl, live := rfl }
  have hreply : (reply a).run turn = (ended.1, { ended.2 with
      session := ended.2.session.push (turn.persona.normalize a) ended.1 }) := by
    rw [← hdepth mark]
    exact run_replyOr rfl rfl
  have hreply' : (reply b).run turn = (ended'.1, { ended'.2 with
      session := ended'.2.session.push (turn.persona.normalize b) ended'.1 }) :=
    run_reply rfl rfl
  have hanswer : ∀ message, (bot.answer user message).2.reply = ((reply message).run turn).1 :=
    fun _ => rfl
  have htrace : ∀ message, (bot.answer user message).2.trace =
      ((reply message).run turn).2.trace :=
    fun _ => rfl
  have hsession : ∀ message, (bot.answer user message).1.session user =
      ((reply message).run turn).2.session := by
    intro message
    rw [session, session?_answer_self]
    rfl
  have hcalm : Likeness.still.Calm ended.2.trace := by
    rw [htrace, hreply] at hchanges hchoices
    refine ⟨hchoices, fun script hcode => ?_, fun _ _ => trivial⟩
    have hnone : ended.2.trace.changes = [] := hchanges
    rw [hnone] at hcode
    cases hcode
  obtain ⟨hsame, halike⟩ := hhands.agreeAt_answer hstart hcalm
  have hvalues : ended'.2.session.values = ended.2.session.values :=
    congrArg Session.values halike.session
  rw [hanswer, hanswer, hsession, hsession, hreply, hreply']
  exact ⟨hsame, hvalues⟩

/-- The redirect leads to a reply that redirects further and sets a variable. -/
theorem plain_redirect_is_transparent_behind_greeting :
    let bot := Bot.ofScript "> begin
+ request
- {ok}
< begin
+ good morning
@ hello
+ hello
- hi {@my name}<set greeted=yes>
+ my name
- there".toList
    (bot.answer ['u'] "good morning".toList).2.reply = "hi there".toList ∧
      (bot.answer ['u'] "hello".toList).2.reply =
        (bot.answer ['u'] "good morning".toList).2.reply ∧
      ((bot.answer ['u'] "hello".toList).1.session ['u']).values =
        ((bot.answer ['u'] "good morning".toList).1.session ['u']).values := by
  intro bot
  have hhands : (bot.turnFor ['u']).opened.HandsOn
      (bot.mind.live.persona.normalize "good morning".toList)
      (bot.mind.live.persona.normalize "hello".toList) := by
    exact ⟨by decide +kernel, by decide +kernel, by decide +kernel⟩
  have hdepth : (bot.turnFor ['u']).StaysWithinDepth "good morning".toList :=
    staysWithinDepth_of_unmarked makes_mark changes_mark (by decide +kernel)
  obtain ⟨hreply, hchanges, hchoices⟩ :
      (bot.answer ['u'] "good morning".toList).2.reply = "hi there".toList ∧
        (bot.answer ['u'] "good morning".toList).2.trace.changes = [] ∧
        ∀ options ∈ (bot.answer ['u'] "good morning".toList).2.trace.choices, options ≤ 1 := by
    decide +kernel
  exact ⟨hreply, plain_redirect_is_transparent hhands hdepth hchanges hchoices⟩

end Bot

end DialogueScript

import DialogueScript.Proofs.PlainText
import DialogueScript.Proofs.RecursionDepth
import DialogueScript.Proofs.WeightedChoice

/-!
# Endless redirects

A trigger with one plain redirect and nothing else hands the message on, whatever the random stream
holds.  When such redirects never come to an end, every step up to the depth of the persona is made
once, and the next one cuts the turn off.
-/

namespace DialogueScript

/-- The redirect of a trigger that has nothing else to answer with. -/
def Trigger.soleRedirect? (trigger : Trigger) : Option Text :=
  match trigger.redirects with
  | [redirect] =>
    if trigger.replies.isEmpty && trigger.conditions.isEmpty && trigger.searches.isEmpty
        && !trigger.learns then
      some redirect
    else none
  | _ => none

theorem Trigger.eq_of_soleRedirect?
    {trigger : Trigger} {redirect : Text} (hredirect : trigger.soleRedirect? = some redirect) :
    trigger.redirects = [redirect] ∧ trigger.replies = [] ∧ trigger.conditions = [] ∧
      trigger.searches = [] ∧ trigger.learns = false := by
  unfold soleRedirect? at hredirect
  split at hredirect
  · rename_i target hredirects
    split at hredirect
    · rename_i hbare
      obtain rfl := Option.some.inj hredirect
      simp only [Bool.and_eq_true, List.isEmpty_iff, Bool.not_eq_true'] at hbare
      obtain ⟨⟨⟨hreplies, hconditions⟩, hsearches⟩, hlearns⟩ := hbare
      exact ⟨hredirects, hreplies, hconditions, hsearches, hlearns⟩
    · cases hredirect
  · cases hredirect

/-- What a redirect of the selected trigger reads, its tags for the match and the user filled in. -/
def Selection.target (selection : Selection) (session : Session) (redirect : Text) : Text :=
  Template.fill session selection.stars (Text.trim (Tag.dropWeights redirect))

theorem Selection.target_set
    (selection : Selection) (session : Session) (name value redirect : Text) :
    selection.target (session.set name value) redirect = selection.target session redirect :=
  rfl

/-- Where a trigger leads that has nothing but one redirect, which is plain once it has been filled
in. -/
def Selection.plainRedirect? (selection : Selection) (session : Session) : Option Text :=
  let trigger := selection.trigger
  match trigger.redirects with
  | [redirect] =>
    let target := Template.fill session selection.stars (Text.trim (Tag.dropWeights redirect))
    if trigger.replies.isEmpty && trigger.conditions.isEmpty && trigger.searches.isEmpty
        && !trigger.learns && decide target.Plain then
      some target
    else none
  | _ => none

theorem Selection.exists_redirect_of_plainRedirect?
    {selection : Selection} {session : Session} {target : Text}
    (hplain : selection.plainRedirect? session = some target) :
    ∃ redirect, selection.trigger.soleRedirect? = some redirect ∧
      selection.target session redirect = target ∧ target.Plain := by
  unfold plainRedirect? at hplain
  dsimp only at hplain
  split at hplain
  · rename_i redirect hredirects
    split at hplain
    · rename_i hbare
      obtain rfl := Option.some.inj hplain
      obtain ⟨hsole, htarget⟩ := (Bool.and_eq_true_iff).mp hbare
      refine ⟨redirect, ?_, rfl, of_decide_eq_true htarget⟩
      rw [Trigger.soleRedirect?, hredirects]
      exact if_pos hsole
    · cases hplain
  · cases hplain

namespace Turn

theorem run_expand_bind_of_tagless
    (answer next : Text → TurnM Text) {stars : Stars} {template : Text} {turn : Turn}
    (htagless : (Template.fill turn.session stars template).Tagless) :
    (do
      let target ← expand answer stars template
      next ((← get).persona.normalize target) : TurnM Text).run turn =
    (next (turn.persona.normalize (Template.fill turn.session stars template))).run turn := by
  rw [run_bind, run_expand_of_tagless htagless, run_get_bind]

/-- A trigger without conditions chooses among its redirects and replies. -/
theorem answerBy_eq_choose
    (next : Bool → Text → TurnM Text) (afterNext : Text → TurnM Text) (position : Position)
    {selection : Selection} (hconditions : selection.trigger.conditions = []) :
    answerBy next afterNext position selection =
      chooseAnswer selection.trigger >>= fun
        | some (.redirect target) => do
          countRedirect
          let target ← expand (next false) selection.stars (Text.trim (Tag.dropWeights target))
          next position.opening ((← get).persona.normalize target)
        | some (.reply reply) => finishReply (next false) position selection.stars reply
        | none => pure noReplyFound := by
  simp only [answerBy, hconditions, checkConditions, pure_bind]
  rfl

theorem answerSelected_eq_answerBy
    (next : Bool → Text → TurnM Text) (afterNext : Text → TurnM Text) (position : Position)
    (message : Text) {selection : Selection} (hsearches : selection.trigger.searches = [])
    (hlearns : selection.trigger.learns = false) :
    answerSelected next afterNext position message selection =
      answerBy next afterNext position selection := by
  simp [answerSelected, hlearns, hsearches]

/-- A redirect without tags is followed when there is nothing else to answer with, and nothing but
the random stream and what the trace counts is changed on the way. -/
theorem run_answerSelected_of_soleRedirect
    (next : Bool → Text → TurnM Text) (afterNext : Text → TurnM Text) (position : Position)
    (message : Text) {selection : Selection} {redirect : Text} {turn : Turn}
    (hredirect : selection.trigger.soleRedirect? = some redirect)
    (htagless : (selection.target turn.session redirect).Tagless) :
    ∃ random, (answerSelected next afterNext position message selection).run turn =
      (next position.opening (turn.persona.normalize (selection.target turn.session redirect))).run
        { turn with
          mind := { turn.mind with random }
          trace := { turn.trace with
            redirects := turn.trace.redirects + 1
            choices := turn.trace.choices ++ [1] } } := by
  obtain ⟨hredirects, hreplies, hconditions, hsearches, hlearns⟩ :=
    Trigger.eq_of_soleRedirect? hredirect
  have hchoices : choices selection.trigger = [.redirect redirect] := by
    simp [choices, hredirects, hreplies]
  obtain ⟨random, hchoose⟩ := run_chooseAnswer_of_single hchoices turn
  refine ⟨random, ?_⟩
  have hcounted : countRedirect.run { turn with
        mind := { turn.mind with random }
        trace := { turn.trace with choices := turn.trace.choices ++ [1] } } =
      ((), { turn with
        mind := { turn.mind with random }
        trace := { turn.trace with
          redirects := turn.trace.redirects + 1
          choices := turn.trace.choices ++ [1] } }) := rfl
  rw [answerSelected_eq_answerBy next afterNext position message hsearches hlearns,
    answerBy_eq_choose next afterNext position hconditions, run_bind, hchoose]
  dsimp only
  rw [run_bind, hcounted]
  exact run_expand_bind_of_tagless (next false) (next position.opening) htagless

end Turn

/-! ## Chains of redirects -/

namespace Snapshot

/-- The session and the message of the next step, when a plain redirect leads there. -/
def hop? (snapshot : Snapshot) (session : Session) (message : Text) : Option (Session × Text) :=
  let session := snapshot.settle session
  (snapshot.selectByOrder? session session.topic message).bind fun selection =>
    let session := session.set Turn.lastMatchName selection.pattern
    (selection.plainRedirect? session).map fun target =>
      (session, snapshot.persona.normalize target)

def hops? (snapshot : Snapshot) : Nat → Session → Text → Option (Session × Text)
  | 0, session, message => some (session, message)
  | n + 1, session, message =>
    (snapshot.hop? session message).bind fun (session, message) => snapshot.hops? n session message

/-- The chain of plain redirects from a message never ends. -/
def Endless (snapshot : Snapshot) (session : Session) (message : Text) : Prop :=
  ∀ n, (snapshot.hops? n session message).isSome

theorem Endless.exists_hop
    {snapshot : Snapshot} {session : Session} {message : Text}
    (hendless : snapshot.Endless session message) :
    ∃ later next, snapshot.hop? session message = some (later, next) ∧
      snapshot.Endless later next := by
  cases hhop : snapshot.hop? session message with
  | none =>
    have hfirst := hendless 1
    rw [hops?, hhop] at hfirst
    cases hfirst
  | some place =>
    obtain ⟨later, next⟩ := place
    refine ⟨later, next, rfl, ?_⟩
    intro n
    have hlater := hendless (n + 1)
    rwa [hops?, hhop] at hlater

theorem Endless.of_hop
    {snapshot : Snapshot} {session later : Session} {message next : Text}
    (hhop : snapshot.hop? session message = some (later, next))
    (hendless : snapshot.Endless later next) :
    snapshot.Endless session message := by
  intro n
  cases n with
  | zero => rfl
  | succ n =>
    rw [hops?, hhop]
    exact hendless n

theorem endless_of_hop_self
    {snapshot : Snapshot} {session : Session} {message : Text}
    (hhop : snapshot.hop? session message = some (session, message)) :
    snapshot.Endless session message := by
  intro n
  induction n with
  | zero => rfl
  | succ n ih =>
    rw [hops?, hhop]
    exact ih

/-- No trigger is paired with a previous reply. -/
def Unpaired (snapshot : Snapshot) : Prop :=
  ∀ topic ∈ snapshot.persona.graph.topics, ∀ trigger ∈ topic.triggers, trigger.key.previous = none

instance (snapshot : Snapshot) : Decidable snapshot.Unpaired :=
  inferInstanceAs (Decidable (∀ topic ∈ snapshot.persona.graph.topics,
    ∀ trigger ∈ topic.triggers, trigger.key.previous = none))

theorem Unpaired.select?_eq
    {snapshot : Snapshot} (hunpaired : snapshot.Unpaired) (session : Session)
    (name message : Text) (step : Nat) :
    snapshot.select? session name message step = snapshot.selectByOrder? session name message := by
  have hindex : ∀ topic ∈ snapshot.persona.graph.topics, topic.previousIndex = [] := by
    intro topic htopic
    have hprevious : (topic.triggers.filterMap fun trigger => trigger.key.previous) = [] := by
      simpa [List.filterMap_eq_nil_iff] using hunpaired topic htopic
    rw [Topic.previousIndex, hprevious]
    rfl
  have hnone : snapshot.selectByPrevious? session name message = none := by
    unfold selectByPrevious?
    dsimp only
    rw [List.findSome?_eq_none_iff]
    intro member _
    cases hmember : snapshot.persona.graph.topic? member with
    | none => rfl
    | some topic => simp [selectPaired?, hindex topic (Graph.topic?_name hmember).1]
  simp [select?, hnone]

end Snapshot

namespace Turn

/-- A step that is redirected is recorded and counted, and the next step goes on from there. -/
theorem run_resolveOr_of_soleRedirect
    (cut : TurnM Text) {turn : Turn} {step : Nat} {message redirect : Text} {selection : Selection}
    (hselect : let settled := turn.mind.live.settle turn.session
      turn.mind.live.select? settled settled.topic message step = some selection)
    (hdepth : ¬ turn.mind.live.persona.depth.toNat < step)
    (hredirect : selection.trigger.soleRedirect? = some redirect)
    (htagless :
      (selection.target (turn.mind.live.settle turn.session) redirect).Tagless) :
    let settled := turn.mind.live.settle turn.session
    let next := turn.persona.normalize (selection.target settled redirect)
    ∃ cache random trace, (resolveOr cut step false message).run turn =
        (resolveOr cut (step + 1) false next).run
          { mind := { turn.mind with cache, random }
            session := settled.set lastMatchName selection.pattern
            trace } ∧
      trace.steps.map (·.step) = turn.trace.steps.map (·.step) ++ [step] ∧
      trace.redirects = turn.trace.redirects + 1 := by
  intro _ next
  let settled : Turn := { turn with session := turn.mind.live.settle turn.session }
  let position : Position := ⟨step, false⟩
  obtain ⟨cache, hsearch⟩ :=
    exists_run_select turn.mind.live settled.session.topic message step settled
  have hfound : turn.mind.live.select? settled.session settled.session.topic message step =
      some selection := hselect
  rw [hfound] at hsearch
  let noted : Turn :=
    ((note position settled.session.topic message (some selection)).run
      { settled with mind := { settled.mind with cache } }).2
  have hstep : (resolveOr cut step false message).run turn =
      (answerSelected (resolveOr cut (step + 1)) (resolveOr cut (step + 2) false) position message
        selection).run noted := by
    rw [run_resolveOr_of_not_lt false message cut hdepth]
    unfold answerStep
    dsimp only
    rw [if_neg Bool.false_ne_true, run_bind, hsearch, run_bind]
  have hnoted : (selection.target noted.session redirect).Tagless := htagless
  obtain ⟨random, hfollowed⟩ := run_answerSelected_of_soleRedirect (resolveOr cut (step + 1))
    (resolveOr cut (step + 2) false) position message hredirect hnoted
  refine ⟨cache, random, _, hstep.trans hfollowed, ?_, rfl⟩
  exact List.map_append

/-- One more step of a chain. -/
theorem run_resolve_of_hop
    {turn : Turn} {step : Nat} {message next : Text} {later : Session}
    (hunpaired : turn.mind.live.Unpaired) (hdepth : ¬ turn.mind.live.persona.depth.toNat < step)
    (hhop : turn.mind.live.hop? turn.session message = some (later, next)) :
    ∃ cache random trace, (resolve step false message).run turn =
        (resolve (step + 1) false next).run
          { mind := { turn.mind with cache, random }, session := later, trace } ∧
      trace.steps.map (·.step) = turn.trace.steps.map (·.step) ++ [step] ∧
      trace.redirects = turn.trace.redirects + 1 := by
  obtain ⟨selection, hselect, htarget⟩ := Option.bind_eq_some_iff.mp hhop
  obtain ⟨target, hplain, hplace⟩ := Option.map_eq_some_iff.mp htarget
  obtain ⟨redirect, hredirect, rfl, hplain⟩ := Selection.exists_redirect_of_plainRedirect? hplain
  obtain ⟨rfl, rfl⟩ := Prod.mk.inj hplace
  rw [Selection.target_set] at hplain ⊢
  rw [resolve_eq_resolveOr]
  exact run_resolveOr_of_soleRedirect (pure deepRecursion)
    ((hunpaired.select?_eq _ _ _ _).trans hselect) hdepth hredirect hplain.tagless

theorem run_resolve_of_endless
    {turn : Turn} {step left : Nat} {message : Text} (hunpaired : turn.mind.live.Unpaired)
    (hleft : step + left = turn.mind.live.persona.depth.toNat + 1)
    (hendless : turn.mind.live.Endless turn.session message) :
    ∃ after : Turn, (resolve step false message).run turn = (deepRecursion, after) ∧
      after.trace.steps.map (·.step) = turn.trace.steps.map (·.step) ++ List.range' step left ∧
      after.trace.redirects = turn.trace.redirects + left := by
  induction left generalizing turn step message with
  | zero =>
    have hdeep : turn.mind.live.persona.depth.toNat < step := by omega
    exact ⟨_, run_resolve_of_lt false message hdeep, by simp, rfl⟩
  | succ left ih =>
    obtain ⟨later, next, hhop, hrest⟩ := hendless.exists_hop
    have hstep : ¬ turn.mind.live.persona.depth.toNat < step := by omega
    obtain ⟨cache, random, trace, hrun, hsteps, hredirects⟩ :=
      run_resolve_of_hop hunpaired hstep hhop
    let middle : Turn := { mind := { turn.mind with cache, random }, session := later, trace }
    have hmiddle : middle.mind.live.Unpaired := hunpaired
    have hdepth : step + 1 + left = middle.mind.live.persona.depth.toNat + 1 := by
      rw [Nat.add_right_comm]
      exact hleft
    have hendless : middle.mind.live.Endless middle.session next := hrest
    obtain ⟨after, hafter, hlater, hcount⟩ := ih hmiddle hdepth hendless
    refine ⟨after, hrun.trans hafter, ?_, ?_⟩
    · rw [hlater, hsteps, List.range'_succ, List.append_assoc]
      rfl
    · rw [hcount, hredirects, Nat.add_right_comm]
      rfl

theorem deepest_of_range {trace : Trace} {depth : Nat}
    (hsteps : trace.steps.map (·.step) = List.range (depth + 1)) :
    trace.deepest = depth := by
  have hmax : ∀ n, (List.range (n + 1)).foldl max 0 = n := by
    intro n
    induction n with
    | zero => rfl
    | succ n ih =>
      rw [List.range_succ, List.foldl_append, ih]
      simp
  rw [Trace.deepest, hsteps, hmax]

end Turn

open Turn in
/-- In a turn that changes nothing for all users, no recorded step is beyond the depth, and whatever
would be done in place of resolutions that nest deeper than two more has no effect.  A resolution
beyond the depth answers that it is too deep, and at most the user leaves a topic that does not
exist.  An endless chain of plain redirects is followed to the depth and cut off there. -/
theorem reply_stays_within_depth (mind : Mind) (session : Session) (message : Text) :
    let live := mind.live
    let depth := live.persona.depth.toNat
    let start : Turn := { mind, session }
    let answered := (reply message).run start
    (answered.2.trace.changes = [] →
      (∀ cut, (replyWithin cut (depth + 2) message).run start = answered) ∧
      ∀ step ∈ answered.2.trace.steps, step.step ≤ depth) ∧
    (∀ (turn : Turn) (step : Nat) (opening : Bool) (message : Text),
      turn.mind.live.persona.depth.toNat < step →
        (resolve step opening message).run turn =
          (deepRecursion, { turn with session := turn.mind.live.settle turn.session })) ∧
    (live.persona.graph.contains Script.beginTopic = false → live.Unpaired →
      live.Endless session (live.persona.normalize message) →
        answered.1 = deepRecursion ∧ answered.2.trace.deepest = depth ∧
          answered.2.trace.redirects = depth + 1) := by
  intro live depth start answered
  refine ⟨?_, ?_, ?_⟩
  · intro hnone
    constructor
    · intro cut
      exact (follows_replyWithin live cut (Nat.le_refl _) message).run_eq start rfl hnone
    · intro step hstep
      have hmoves : Moves start answered.2 := makes_reply message start
      rcases hmoves.mem_steps hnone hstep with hbefore | hdepth
      · cases hbefore
      · exact hdepth
  · intro turn step opening message hdepth
    exact run_resolve_of_lt opening message hdepth
  · intro hbegin hunpaired hendless
    have hstart : start.mind.live.Unpaired := hunpaired
    have hchain : start.mind.live.Endless start.session (start.persona.normalize message) :=
      hendless
    obtain ⟨after, hrun, hsteps, hredirects⟩ :=
      run_resolve_of_endless hstart (Nat.zero_add _) hchain
    have hnobegin : ¬ start.persona.graph.contains Script.beginTopic := by
      rw [Bool.not_eq_true]
      exact hbegin
    have hanswer :
        (answer (start.persona.normalize message)).run start = (deepRecursion, after) := by
      unfold answer
      rw [run_get_bind, if_neg hnobegin]
      exact hrun
    have hreply : answered = (deepRecursion, { after with
        session := after.session.push (start.persona.normalize message) deepRecursion }) := by
      unfold answered reply
      rw [run_get_bind]
      dsimp only
      rw [run_bind, hanswer]
      rfl
    rw [hreply]
    refine ⟨rfl, ?_, ?_⟩
    · apply deepest_of_range
      rw [List.range_eq_range']
      exact hsteps
    · exact hredirects.trans (Nat.zero_add _)

/-- The script lowers the depth, and its only trigger redirects to itself. -/
theorem reply_cuts_off_loop :
    let bot := Bot.ofScript "! global depth = 3\n+ loop\n@ loop\n".toList
    let start : Turn := { mind := bot.mind, session := bot.session ['u'] }
    let answered := (Turn.reply "loop".toList).run start
    answered.2.trace.changes = [] ∧
      (∀ cut, (Turn.replyWithin cut 5 "loop".toList).run start = answered) ∧
      (∀ step ∈ answered.2.trace.steps, step.step ≤ 3) ∧
      (Turn.resolve 4 false "loop".toList).run start = (deepRecursion, start) ∧
      answered.1 = deepRecursion ∧ answered.2.trace.deepest = 3 ∧
      answered.2.trace.redirects = 4 := by
  intro bot start answered
  have hdepth : bot.mind.live.persona.depth.toNat = 3 := by
    decide +kernel
  have hnone : answered.2.trace.changes = [] := by
    decide +kernel
  have hbegin : bot.mind.live.persona.graph.contains Script.beginTopic = false := by
    decide +kernel
  have hunpaired : bot.mind.live.Unpaired := by
    decide +kernel
  have hendless : bot.mind.live.Endless (bot.session ['u'])
      (bot.mind.live.persona.normalize "loop".toList) := by
    let later := (bot.session ['u']).set Turn.lastMatchName "loop".toList
    have hfirst : bot.mind.live.hop? (bot.session ['u'])
        (bot.mind.live.persona.normalize "loop".toList) = some (later, "loop".toList) := by
      decide +kernel
    have hself : bot.mind.live.hop? later "loop".toList = some (later, "loop".toList) := by
      decide +kernel
    exact .of_hop hfirst (Snapshot.endless_of_hop_self hself)
  have hsettled : bot.mind.live.settle start.session = start.session := by
    decide +kernel
  obtain ⟨hbounds, hdeep, hcut⟩ :=
    reply_stays_within_depth bot.mind (bot.session ['u']) "loop".toList
  obtain ⟨hwithin, hsteps⟩ := hbounds hnone
  obtain ⟨hreply, hdeepest, hredirects⟩ := hcut hbegin hunpaired hendless
  rw [hdepth] at hwithin hsteps hdeepest hredirects
  have htoodeep := hdeep start 4 false "loop".toList (by rw [hdepth]; decide)
  rw [hsettled] at htoodeep
  exact ⟨hnone, hwithin, hsteps, htoodeep, hreply, hdeepest, hredirects⟩

end DialogueScript

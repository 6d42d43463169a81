import DialogueScript.Proofs.Changes
import DialogueScript.Proofs.SessionVariables

/-!
# How deep a turn goes

A step hands messages on to deeper steps only, and a step beyond the depth of the live persona
answers at once.  While a turn changes nothing for all users, the live persona stays the same; so
the steps of such a turn are within its depth, and what would be done in place of resolutions that
nest deeper has no effect on the turn.
-/

namespace DialogueScript

/-- The session of a user, who leaves a topic that does not exist. -/
def Snapshot.settle (snapshot : Snapshot) (session : Session) : Session :=
  if snapshot.persona.graph.contains session.topic || session.topic = defaultTopic then session
  else session.setTopic defaultTopic

namespace Turn

/-! ## One resolution -/

theorem run_currentTopic (snapshot : Snapshot) (turn : Turn) :
    (currentTopic snapshot).run turn =
      ((snapshot.settle turn.session).topic,
        { turn with session := snapshot.settle turn.session }) := by
  unfold currentTopic Snapshot.settle
  rw [run_get_bind]
  dsimp only
  split
  · rfl
  · rw [Session.topic_setTopic]
    rfl

section Resolve

variable {turn : Turn} {step : Nat} (opening : Bool) (message : Text)

theorem run_resolveOr_of_lt
    (cut : TurnM Text) (hdepth : turn.mind.live.persona.depth.toNat < step) :
    (resolveOr cut step opening message).run turn =
      cut.run { turn with session := turn.mind.live.settle turn.session } := by
  rw [resolveOr, run_get_bind]
  dsimp only
  rw [run_bind, run_currentTopic, dif_pos hdepth]

theorem run_resolveOr_of_not_lt
    (cut : TurnM Text) (hdepth : ¬ turn.mind.live.persona.depth.toNat < step) :
    (resolveOr cut step opening message).run turn =
      (answerStep (resolveOr cut (step + 1)) (resolveOr cut (step + 2) false) turn.mind.live
        ⟨step, opening⟩ (turn.mind.live.settle turn.session).topic message).run
          { turn with session := turn.mind.live.settle turn.session } := by
  rw [resolveOr, run_get_bind]
  dsimp only
  rw [run_bind, run_currentTopic, dif_neg hdepth]

/-- Too deep a step has no effect but that the user leaves a topic that does not exist. -/
theorem run_resolve_of_lt (hdepth : turn.mind.live.persona.depth.toNat < step) :
    (resolve step opening message).run turn =
      (deepRecursion, { turn with session := turn.mind.live.settle turn.session }) := by
  rw [resolve_eq_resolveOr, run_resolveOr_of_lt opening message _ hdepth]
  rfl

theorem run_resolve_of_not_lt (hdepth : ¬ turn.mind.live.persona.depth.toNat < step) :
    (resolve step opening message).run turn =
      (answerStep (resolve (step + 1)) (resolve (step + 2) false) turn.mind.live ⟨step, opening⟩
        (turn.mind.live.settle turn.session).topic message).run
          { turn with session := turn.mind.live.settle turn.session } := by
  rw [resolve_eq_resolveOr]
  exact run_resolveOr_of_not_lt opening message _ hdepth

end Resolve

/-! ## Turns that change nothing for all users -/

theorem Moves.changes_prefix {turn after : Turn} (hmoves : Moves turn after) :
    turn.trace.changes <+: after.trace.changes := by
  obtain ⟨changes, hchanges, -⟩ := accounts_of_moves hmoves
  rw [hchanges]
  exact List.prefix_append _ _

/-- Nothing was changed halfway when nothing was changed in the end. -/
theorem Moves.unchanged_before
    {turn middle after : Turn} (hfirst : Moves turn middle) (hsecond : Moves middle after)
    (hsame : after.trace.changes = turn.trace.changes) :
    middle.trace.changes = turn.trace.changes := by
  have hprefix := hsecond.changes_prefix
  rw [hsame] at hprefix
  exact hprefix.eq_of_length_le hfirst.changes_prefix.length_le

theorem Moves.live_eq
    {turn after : Turn} (hmoves : Moves turn after)
    (hsame : after.trace.changes = turn.trace.changes) :
    after.mind.live = turn.mind.live := by
  obtain ⟨changes, hchanges, hreplays⟩ := accounts_of_moves hmoves
  obtain rfl : changes = [] := by
    rw [hsame] at hchanges
    simpa using hchanges
  exact hreplays.live_eq

theorem Move.mem_steps
    {turn after : Turn} (hmove : Move turn after) {step : Step}
    (hstep : step ∈ after.trace.steps) :
    step ∈ turn.trace.steps ∨ step.step ≤ turn.mind.live.persona.depth.toNat := by
  cases hmove with
  | record recorded hdepth =>
    rcases List.mem_append.mp hstep with hstep | hstep
    · exact .inl hstep
    · obtain rfl := List.mem_singleton.mp hstep
      exact .inr hdepth
  | _ => exact .inl hstep

/-- The steps that are recorded while nothing is changed are within the depth. -/
theorem Moves.mem_steps
    {turn after : Turn} (hmoves : Moves turn after)
    (hsame : after.trace.changes = turn.trace.changes) {step : Step}
    (hstep : step ∈ after.trace.steps) :
    step ∈ turn.trace.steps ∨ step.step ≤ turn.mind.live.persona.depth.toNat := by
  induction hmoves with
  | refl => exact .inl hstep
  | @tail middle after hmoves hmove ih =>
    have hmoves : Moves turn middle := hmoves
    have hmiddle := hmoves.unchanged_before hmove.moves hsame
    rcases hmove.mem_steps hstep with hstep | hdepth
    · exact ih hmiddle hstep
    · rw [hmoves.live_eq hmiddle] at hdepth
      exact .inr hdepth

/-! ## Replacing what a turn does not reach -/

/-- While `live` is live, the second computation does what the first one does, unless that changes
something for all users. -/
structure Follows {α : Type} (live : Snapshot) (m m' : TurnM α) : Prop where
  makes : Makes m
  run_eq : ∀ turn : Turn, turn.mind.live = live →
    (m.run turn).2.trace.changes = turn.trace.changes → m'.run turn = m.run turn

theorem run_bind_eq
    {α β : Type} {turn : Turn} {m : TurnM α} {f f' : α → TurnM β}
    (hm : Moves turn (m.run turn).2) (hf : ∀ a, Makes (f a))
    (hsame : ((m >>= f).run turn).2.trace.changes = turn.trace.changes)
    (hrun : ∀ a (middle : Turn), middle.mind.live = turn.mind.live →
      ((f a).run middle).2.trace.changes = middle.trace.changes →
        (f' a).run middle = (f a).run middle) :
    (m >>= f').run turn = (m >>= f).run turn := by
  rw [run_bind] at hsame
  have hmiddle := hm.unchanged_before (hf _ _) hsame
  rw [run_bind, run_bind]
  exact hrun _ _ (hm.live_eq hmiddle) (hsame.trans hmiddle.symm)

namespace Follows

variable {α β : Type} {live : Snapshot}

theorem refl {m : TurnM α} (hm : Makes m) : Follows live m m :=
  ⟨hm, fun _ _ _ => rfl⟩

theorem bind
    {m m' : TurnM α} {f f' : α → TurnM β} (hm : Follows live m m')
    (hf : ∀ a, Follows live (f a) (f' a)) :
    Follows live (m >>= f) (m' >>= f') := by
  constructor
  · exact hm.makes.bind fun a => (hf a).makes
  · intro turn hlive hsame
    have hmiddle := (hm.makes turn).unchanged_before ((hf _).makes _) hsame
    -- first `m` is replaced, whose run is known not to change anything, and then what follows it
    have hfirst : (m' >>= f').run turn = (m >>= f').run turn := by
      rw [run_bind, run_bind, hm.run_eq turn hlive hmiddle]
    rw [hfirst]
    apply run_bind_eq (hm.makes turn) (fun a => (hf a).makes) hsame
    intro a middle hmind hunchanged
    exact (hf a).run_eq middle (hmind.trans hlive) hunchanged

theorem get_bind {f f' : Turn → TurnM β} (hf : ∀ turn, Follows live (f turn) (f' turn)) :
    Follows live (get >>= f) (get >>= f') := by
  have hget : Makes (get : TurnM Turn) := fun _ => .refl
  exact (refl hget).bind hf

end Follows

/-- All that turns are put together from respects what replaces what a turn does not reach. -/
theorem compatible_follows (live : Snapshot) : Compatible fun _ _ m m' => Follows live m m' where
  pure a := .refl (Makes.pure a)
  bind hm hf := hm.bind hf
  read hf _ := .get_bind hf
  assign name value := .refl (makes_assign name value)
  choose options f := .refl (makes_choose options f)
  request request _ := .refl (makes_request request)
  code script := .refl (Makes.of_move fun _ => .code script)
  count := .refl (Makes.of_move fun _ => .redirect)

section Step

variable {live : Snapshot} {next next' : Bool → Text → TurnM Text}
  {afterNext afterNext' : Text → TurnM Text}
  (hnext : ∀ opening message, Follows live (next opening message) (next' opening message))
  (hafterNext : ∀ message, Follows live (afterNext message) (afterNext' message))

include hnext hafterNext

theorem run_answerSelected_eq
    {turn : Turn} (hlive : turn.mind.live = live) {selection : Selection}
    (hlearns : selection.trigger.learns → live.Learns) (position : Position) (message : Text)
    (hsame : ((answerSelected next afterNext position message selection).run
      turn).2.trace.changes = turn.trace.changes) :
    (answerSelected next' afterNext' position message selection).run turn =
      (answerSelected next afterNext position message selection).run turn := by
  have hanswer := (compatible_follows live).answerBy hnext hafterNext position selection
  by_cases htrigger : selection.trigger.learns
  · simp only [answerSelected, htrigger, if_true] at hsame ⊢
    subst hlive
    apply run_bind_eq (moves_learn (hlearns htrigger) _ _) (fun _ => hanswer.makes) hsame
    intro _ middle hmiddle hunchanged
    exact hanswer.run_eq middle hmiddle hunchanged
  · have hfollows : Follows live (answerSelected next afterNext position message selection)
        (answerSelected next' afterNext' position message selection) := by
      simp only [answerSelected, htrigger, Bool.false_eq_true, if_false]
      split
      · exact hanswer
      · refine (Follows.refl (makes_searchKnowledge _ _)).bind fun known => ?_
        cases known with
        | some known => exact .refl (Makes.pure known)
        | none => exact hanswer
    exact hfollows.run_eq turn hlive hsame

theorem run_answerStep_eq
    {turn : Turn} (hlive : turn.mind.live = live) {position : Position} (topic message : Text)
    (hsame : ((answerStep next afterNext live position topic message).run
      turn).2.trace.changes = turn.trace.changes) :
    (answerStep next' afterNext' live position topic message).run turn =
      (answerStep next afterNext live position topic message).run turn := by
  unfold answerStep at hsame ⊢
  generalize (if position.opening then Script.beginTopic else topic) = name at hsame ⊢
  dsimp only at hsame ⊢
  obtain ⟨cache, hrun⟩ := exists_run_select live name message position.step turn
  rw [run_bind, hrun, run_bind] at hsame ⊢
  rw [run_bind, hrun, run_bind]
  cases hselect : live.select? turn.session name message position.step with
  | none => rfl
  | some selection =>
    rw [hselect] at hsame
    have hlearns : selection.trigger.learns → live.Learns := by
      intro htrigger
      obtain ⟨owner, howner, hmem⟩ := Snapshot.exists_topic_of_select? hselect
      exact ⟨owner, howner, _, hmem, htrigger⟩
    have hnoted : ((note position name message (some selection)).run
        { turn with mind := { turn.mind with cache } }).2.mind.live = live :=
      hlive
    exact run_answerSelected_eq hnext hafterNext hnoted hlearns position message hsame

end Step

/-! ## Turns that are not cut off -/

/-- No step of the turn is too deep: whatever such a step did, it would make no difference. -/
def StaysWithinDepth (turn : Turn) (message : Text) : Prop :=
  ∀ cut : TurnM Text, (replyOr cut message).run turn = (reply message).run turn

section Cut

variable {mark cut : TurnM Text} (hmakes : Makes mark)
  (hmark : ∀ turn : Turn, (mark.run turn).2.trace.changes ≠ turn.trace.changes)

include hmakes hmark

theorem follows_resolveOr
    (live : Snapshot) (step : Nat) (opening : Bool) (message : Text) :
    Follows live (resolveOr mark step opening message) (resolveOr cut step opening message) := by
  induction step using step_induction generalizing opening message with
  | deeper step ih =>
    refine ⟨makes_resolveOr hmakes step opening message, ?_⟩
    rintro turn rfl hsame
    by_cases hdeep : turn.mind.live.persona.depth.toNat < step
    · rw [run_resolveOr_of_lt opening message mark hdeep] at hsame
      exact absurd hsame (hmark _)
    · have hsettled :
          ({ turn with session := turn.mind.live.settle turn.session } : Turn).mind.live =
            turn.mind.live := rfl
      rw [run_resolveOr_of_not_lt opening message mark hdeep] at hsame ⊢
      rw [run_resolveOr_of_not_lt opening message cut hdeep]
      exact run_answerStep_eq (ih hdeep 1 Nat.one_pos) (ih hdeep 2 Nat.two_pos false) hsettled _ _
        hsame

theorem follows_answerOr (live : Snapshot) (message : Text) :
    Follows live (answerOr mark message) (answerOr cut message) := by
  rw [answerOr_eq_answerThrough, answerOr_eq_answerThrough]
  exact (compatible_follows live).answerThrough (follows_resolveOr hmakes hmark live 0)
    (follows_resolveOr hmakes hmark live 1 false) message

theorem follows_replyOr (live : Snapshot) (message : Text) :
    Follows live (replyOr mark message) (replyOr cut message) := by
  apply Follows.get_bind
  intro turn
  refine (follows_answerOr hmakes hmark live _).bind fun reply => ?_
  exact .refl ((Makes.of_move fun _ => .push _ _).bind fun _ => Makes.pure _)

/-- A turn in which a step that is too deep would leave a mark is not cut off if it has none. -/
theorem staysWithinDepth_of_unmarked
    {turn : Turn} {message : Text}
    (hsame : ((replyOr mark message).run turn).2.trace.changes = turn.trace.changes) :
    StaysWithinDepth turn message := by
  intro cut
  have hrun : ∀ cut, (replyOr cut message).run turn = (replyOr mark message).run turn :=
    fun cut => (follows_replyOr hmakes hmark turn.mind.live message).run_eq turn rfl hsame
  rw [reply_eq_replyOr, hrun cut, hrun (pure deepRecursion)]

end Cut

/-! ## Nested resolutions -/

/-- Resolve with `cut` in place of the resolutions that nest deeper than `nesting`. -/
def resolveWithin (cut : Nat → Bool → Text → TurnM Text) :
    (nesting step : Nat) → Bool → Text → TurnM Text
  | 0, step, opening, message => cut step opening message
  | nesting + 1, step, opening, message => do
    let snapshot := (← get).mind.live
    let topic ← currentTopic snapshot
    if snapshot.persona.depth.toNat < step then pure deepRecursion
    else
      answerStep (resolveWithin cut nesting (step + 1)) (resolveWithin cut nesting (step + 2) false)
        snapshot ⟨step, opening⟩ topic message

/-- Answer with `cut` in place of the resolutions that nest deeper than `nesting`. -/
def answerWithin (cut : Nat → Bool → Text → TurnM Text) (nesting : Nat) (message : Text) :
    TurnM Text := do
  if (← get).persona.graph.contains Script.beginTopic then
    let opening ← resolveWithin cut nesting 0 true requestMessage
    let combined ←
      if Text.contains okMark opening then do
        let reply ← resolveWithin cut nesting 0 false message
        pure (Text.replaceAll okMark reply opening)
      else pure opening
    expand (resolveWithin cut nesting 1 false) {} combined
  else resolveWithin cut nesting 0 false message

/-- A turn with `cut` in place of the resolutions that nest deeper than `nesting`. -/
def replyWithin (cut : Nat → Bool → Text → TurnM Text) (nesting : Nat) (message : Text) :
    TurnM Text := do
  let message := (← get).persona.normalize message
  let reply ← answerWithin cut nesting message
  modifySession fun session => session.push message reply
  pure reply

section Within

variable (live : Snapshot) (cut : Nat → Bool → Text → TurnM Text)

theorem follows_resolveWithin
    {nesting step : Nat} (hnesting : 0 < nesting)
    (hdepth : live.persona.depth.toNat + 2 ≤ nesting + step) (opening : Bool) (message : Text) :
    Follows live (resolve step opening message)
      (resolveWithin cut nesting step opening message) := by
  induction nesting generalizing step opening message with
  | zero => exact absurd hnesting (Nat.lt_irrefl 0)
  | succ nesting ih =>
    refine ⟨makes_resolve step opening message, ?_⟩
    rintro turn rfl hsame
    rw [resolveWithin, run_get_bind]
    dsimp only
    rw [run_bind, run_currentTopic]
    by_cases hdeep : turn.mind.live.persona.depth.toNat < step
    · rw [if_pos hdeep, run_resolve_of_lt opening message hdeep]
      rfl
    · rw [run_resolve_of_not_lt opening message hdeep] at hsame ⊢
      rw [if_neg hdeep]
      -- a level is left even for steps beyond the depth, which answer without nesting further
      have hnext : ∀ opening message, Follows turn.mind.live (resolve (step + 1) opening message)
          (resolveWithin cut nesting (step + 1) opening message) :=
        ih (by omega) (by omega)
      have hafterNext : ∀ message, Follows turn.mind.live (resolve (step + 2) false message)
          (resolveWithin cut nesting (step + 2) false message) :=
        ih (by omega) (by omega) false
      have hsettled :
          ({ turn with session := turn.mind.live.settle turn.session } : Turn).mind.live =
            turn.mind.live := rfl
      exact run_answerStep_eq hnext hafterNext hsettled _ _ hsame

theorem follows_answerWithin
    {nesting : Nat} (hdepth : live.persona.depth.toNat + 2 ≤ nesting) (message : Text) :
    Follows live (answer message) (answerWithin cut nesting message) := by
  have hresolve : ∀ step opening message, Follows live (resolve step opening message)
      (resolveWithin cut nesting step opening message) := fun step =>
    follows_resolveWithin live cut (by omega) (by omega)
  exact (compatible_follows live).answerThrough (hresolve 0) (hresolve 1 false) message

theorem follows_replyWithin
    {nesting : Nat} (hdepth : live.persona.depth.toNat + 2 ≤ nesting) (message : Text) :
    Follows live (reply message) (replyWithin cut nesting message) := by
  apply Follows.get_bind
  intro turn
  refine (follows_answerWithin live cut hdepth _).bind fun reply => ?_
  exact .refl ((Makes.of_move fun _ => .push _ _).bind fun _ => Makes.pure _)

end Within

end Turn

end DialogueScript

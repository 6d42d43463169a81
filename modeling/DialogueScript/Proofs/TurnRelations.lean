import DialogueScript.Turn.Resolution

/-!
# Relations that turns respect

A turn is put together from a few operations.  A relation between computations that each of them
respects is respected by all that is put together from them: by the expansion of a reply, by a
step, and by the answer to a message.  The computations may differ in what they do in place of the
steps that are too deep.

The relations have a balance, so that they can count.  A redirect that is followed owes an answer,
and the step that it leads to gives one.
-/

namespace DialogueScript

def Request.saves : Request → Bool
  | .save .. => true
  | _ => false

namespace Turn

theorem run_bind {α β : Type} (m : TurnM α) (f : α → TurnM β) (turn : Turn) :
    (m >>= f).run turn = (f (m.run turn).1).run (m.run turn).2 :=
  rfl

theorem run_get_bind {β : Type} (f : Turn → TurnM β) (turn : Turn) :
    (get >>= f).run turn = (f turn).run turn :=
  rfl

/-! ## Steps that are too deep -/

/-- What holds of a step if it holds of the deeper ones, which a step within the depth leads to,
holds of every step: these are nearer to the limit of their number. -/
@[elab_as_elim]
theorem step_induction
    {motive : Nat → Prop}
    (deeper : ∀ step, (∀ {depth : UInt64}, ¬ depth.toNat < step →
      ∀ more, 0 < more → motive (step + more)) → motive step) (step : Nat) :
    motive step := by
  induction step using (measure fun step => Number.wordLimit - step).wf.induction with
  | h step ih =>
    exact deeper step fun hdepth more hmore => ih (step + more) (wordLimit_sub_lt hdepth hmore)

/-- Resolve with `cut` in place of the answer of steps that are too deep. -/
def resolveOr (cut : TurnM Text) (step : Nat) (opening : Bool) (message : Text) : TurnM Text := do
  let snapshot := (← get).mind.live
  let topic ← currentTopic snapshot
  if hdepth : snapshot.persona.depth.toNat < step then cut
  else
    answerStep (fun opening message => resolveOr cut (step + 1) opening message)
      (fun message => resolveOr cut (step + 2) false message) snapshot ⟨step, opening⟩ topic message
termination_by Number.wordLimit - step
decreasing_by all_goals exact wordLimit_sub_lt hdepth (by decide)

/-- Answer with `cut` in place of the answer of steps that are too deep. -/
def answerOr (cut : TurnM Text) (message : Text) : TurnM Text := do
  if (← get).persona.graph.contains Script.beginTopic then
    let opening ← resolveOr cut 0 true requestMessage
    let combined ←
      if Text.contains okMark opening then do
        let reply ← resolveOr cut 0 false message
        pure (Text.replaceAll okMark reply opening)
      else pure opening
    expand (resolveOr cut 1 false) {} combined
  else resolveOr cut 0 false message

/-- Answer with other resolutions, each of them for a step. -/
def answerThrough (resolve : Nat → Bool → Text → TurnM Text) (message : Text) : TurnM Text := do
  if (← get).persona.graph.contains Script.beginTopic then
    let opening ← resolve 0 true requestMessage
    let combined ←
      if Text.contains okMark opening then do
        let reply ← resolve 0 false message
        pure (Text.replaceAll okMark reply opening)
      else pure opening
    expand (resolve 1 false) {} combined
  else resolve 0 false message

theorem answerOr_eq_answerThrough (cut : TurnM Text) :
    answerOr cut = answerThrough (resolveOr cut) :=
  rfl

/-- A turn with `cut` in place of the answer of steps that are too deep. -/
def replyOr (cut : TurnM Text) (message : Text) : TurnM Text := do
  let message := (← get).persona.normalize message
  let reply ← answerOr cut message
  modifySession fun session => session.push message reply
  pure reply

theorem resolve_eq_resolveOr : resolve = resolveOr (pure deepRecursion) := by
  funext step
  induction step using step_induction with
  | deeper step ih =>
    funext opening message
    rw [resolve, resolveOr]
    refine bind_congr fun turn => bind_congr fun topic => ?_
    split
    · rfl
    · rename_i hdepth
      rw [ih hdepth 1 Nat.one_pos, ih hdepth 2 Nat.two_pos]

theorem answer_eq_answerOr : answer = answerOr (pure deepRecursion) := by
  funext message
  rw [answer, answerOr, resolve_eq_resolveOr]

theorem reply_eq_replyOr : reply = replyOr (pure deepRecursion) := by
  funext message
  rw [reply, replyOr, answer_eq_answerOr]

theorem run_replyOr
    {cut : TurnM Text} {turn after : Turn} {message normalized text : Text}
    (hnormalize : turn.persona.normalize message = normalized)
    (hanswer : (answerOr cut normalized).run turn = (text, after)) :
    (replyOr cut message).run turn =
      (text, { after with session := after.session.push normalized text }) := by
  rw [replyOr, run_get_bind]
  dsimp only
  rw [hnormalize, run_bind, hanswer]
  rfl

/-! ## The operations of an expansion -/

/-- A relation between computations, with the balance of what they owe and give, that the
operations of an expansion respect. -/
structure Compatible (P : Int → {α : Type} → TurnM α → TurnM α → Prop) : Prop where
  pure : ∀ {α : Type} (a : α), P 0 (Pure.pure a) (Pure.pure a)
  bind : ∀ {α β : Type} {first second : Int} {m m' : TurnM α} {f f' : α → TurnM β},
    P first m m' → (∀ a, P second (f a) (f' a)) → P (first + second) (m >>= f) (m' >>= f')
  /-- What is read of a turn is not its trace. -/
  read : ∀ {α : Type} {balance : Int} {f f' : Turn → TurnM α},
    (∀ turn, P balance (f turn) (f' turn)) → (∀ turn trace, f' { turn with trace } = f' turn) →
      P balance (get >>= f) (get >>= f')
  assign : ∀ name value, P 0 (assign name value) (assign name value)
  choose : ∀ {α : Type} (options : Nat) (f : Random.Stream → α × Random.Stream),
    P 0 (choose options f) (choose options f)
  request : ∀ request : Request, ¬ request.saves →
    P 0 (modifyMind fun mind => mind.request request) (modifyMind fun mind => mind.request request)
  code : ∀ script, P 0 (change (.code script)) (change (.code script))
  count : P (-1) countRedirect countRedirect

namespace Compatible

variable {P : Int → {α : Type} → TurnM α → TurnM α → Prop} (hP : Compatible P) {α β : Type}

include hP

theorem andThen
    {balance : Int} {m m' : TurnM α} {f f' : α → TurnM β} (hm : P 0 m m')
    (hf : ∀ a, P balance (f a) (f' a)) :
    P balance (m >>= f) (m' >>= f') := by
  have hbind := hP.bind hm hf
  rwa [Int.zero_add] at hbind

/-- What answers a redirect gives what the redirect owes. -/
theorem countThen {m m' : TurnM α} (hm : P 1 m m') :
    P 0 (countRedirect >>= fun _ => m) (countRedirect >>= fun _ => m') :=
  hP.bind hP.count fun _ => hm

theorem mapM {f f' : α → TurnM β} (hf : ∀ a, P 0 (f a) (f' a)) (items : List α) :
    P 0 (items.mapM f) (items.mapM f') := by
  induction items with
  | nil => exact hP.pure []
  | cons item items ih =>
    rw [List.mapM_cons, List.mapM_cons]
    exact hP.andThen (hf item) fun _ => hP.andThen ih fun _ => hP.pure _

theorem foldlM
    {f f' : β → α → TurnM β} (hf : ∀ b a, P 0 (f b a) (f' b a)) (items : List α) (b : β) :
    P 0 (items.foldlM f b) (items.foldlM f' b) := by
  induction items generalizing b with
  | nil => exact hP.pure b
  | cons item items ih =>
    rw [List.foldlM_cons, List.foldlM_cons]
    exact hP.andThen (hf b item) ih

theorem replaceTagsM
    {read? : Text → Option (α × Text)} {f f' : α → TurnM Text} (hf : ∀ a, P 0 (f a) (f' a))
    (text : Text) :
    P 0 (replaceTagsM read? f text) (replaceTagsM read? f' text) := by
  refine hP.andThen (hP.mapM (fun piece => ?_) _) fun _ => hP.pure _
  cases piece with
  | char c => exact hP.pure [c]
  | tag a => exact hf a

theorem chooseRandom (text : Text) : P 0 (chooseRandom text) (chooseRandom text) :=
  hP.replaceTagsM (fun _ => hP.andThen (hP.choose _ _) fun _ => hP.pure _) text

theorem readPersona (text : Text) : P 0 (readPersona text) (readPersona text) :=
  hP.read (fun _ => hP.pure _) fun _ _ => rfl

theorem runCode (text : Text) : P 0 (runCode text) (runCode text) :=
  hP.replaceTagsM (fun _ => hP.andThen (hP.code _) fun _ => hP.pure _) text

theorem transform (text : Text) : P 0 (transform text) (transform text) :=
  hP.read (fun _ => hP.pure _) fun _ _ => rfl

theorem setVariables (text : Text) : P 0 (setVariables text) (setVariables text) :=
  hP.replaceTagsM (fun (name, value) => hP.andThen (hP.assign name value) fun _ => hP.pure _) text

theorem compute (operation : Arithmetic) (text : Text) :
    P 0 (compute operation text) (compute operation text) := by
  refine hP.replaceTagsM (fun (name, value) => hP.read (fun turn => ?_) fun _ _ => rfl) text
  split
  · exact hP.andThen (hP.assign name _) fun _ => hP.pure _
  · exact hP.pure _

theorem readVariables (text : Text) : P 0 (readVariables text) (readVariables text) :=
  hP.read (fun _ => hP.pure _) fun _ _ => rfl

theorem changeTopic (text : Text) : P 0 (changeTopic text) (changeTopic text) :=
  hP.replaceTagsM (fun topic => hP.andThen (hP.assign Session.topicName topic) fun _ => hP.pure _)
    text

theorem settle (text : Text) : P 0 (settle text) (settle text) :=
  hP.andThen (hP.setVariables text) fun text => hP.changeTopic text

theorem callObject (data : Text) : P 0 (callObject data) (callObject data) := by
  refine hP.read (fun turn => ?_) fun _ _ => rfl
  dsimp only
  split
  · exact hP.pure _
  · exact hP.andThen (hP.request _ Bool.false_ne_true) fun _ => hP.pure _

section Answer

variable {answer answer' : Text → TurnM Text}
  (hanswer : ∀ message, P 1 (answer message) (answer' message))

include hanswer

theorem redirect (text : Text) :
    P 0 (redirect answer text) (redirect answer' text) := by
  refine hP.replaceTagsM (fun target => ?_) text
  refine hP.read (fun turn => ?_) fun _ _ => rfl
  exact hP.countThen (hanswer _)

theorem expand (stars : Stars) (text : Text) :
    P 0 (expand answer stars text) (expand answer' stars text) := by
  refine hP.read (fun turn => ?_) fun _ _ => rfl
  refine hP.andThen (hP.chooseRandom _) fun text => ?_
  refine hP.andThen (hP.readPersona text) fun text => ?_
  refine hP.andThen (hP.runCode text) fun text => ?_
  refine hP.andThen (hP.transform text) fun text => ?_
  refine hP.andThen (hP.setVariables text) fun text => ?_
  refine hP.andThen (hP.foldlM (fun text operation => hP.compute operation text) _ text)
    fun text => ?_
  refine hP.andThen (hP.readVariables text) fun text => ?_
  refine hP.andThen (hP.changeTopic text) fun text => ?_
  refine hP.andThen (hP.redirect hanswer text) fun text => ?_
  exact hP.replaceTagsM hP.callObject text

/-! ## The operations of an answer -/

theorem expandSide (stars : Stars) (side : Text) :
    P 0 (expandSide answer stars side) (expandSide answer' stars side) :=
  hP.andThen (hP.expand hanswer stars side) fun _ => hP.pure _

theorem checkConditions (stars : Stars) (conditions : List Text) :
    P 0 (checkConditions answer stars conditions) (checkConditions answer' stars conditions) := by
  induction conditions with
  | nil => exact hP.pure []
  | cons condition conditions ih =>
    unfold Turn.checkConditions
    split
    · exact ih
    · refine hP.andThen (hP.expandSide hanswer stars _) fun left => ?_
      refine hP.andThen (hP.expandSide hanswer stars _) fun right => ?_
      split
      · exact hP.pure _
      · exact ih

theorem finishReply (position : Position) (stars : Stars) (reply : Text) :
    P 0 (finishReply answer position stars reply) (finishReply answer' position stars reply) := by
  unfold Turn.finishReply
  split
  · exact hP.pure _
  · split
    · exact hP.settle reply
    · exact hP.expand hanswer stars reply

end Answer

theorem chooseAnswer (trigger : Trigger) : P 0 (chooseAnswer trigger) (chooseAnswer trigger) :=
  hP.andThen (hP.choose _ _) fun _ => hP.pure _

theorem answerBy
    {next next' : Bool → Text → TurnM Text} {afterNext afterNext' : Text → TurnM Text}
    (hnext : ∀ opening message, P 1 (next opening message) (next' opening message))
    (hafterNext : ∀ message, P 1 (afterNext message) (afterNext' message)) (position : Position)
    (selection : Selection) :
    P 0 (answerBy next afterNext position selection)
      (answerBy next' afterNext' position selection) := by
  refine hP.andThen (hP.checkConditions hafterNext _ _) fun outcome => ?_
  split
  · exact hP.finishReply (hnext false) position _ _
  · refine hP.andThen (hP.chooseAnswer _) fun choice => ?_
    split
    · refine hP.countThen ?_
      refine hP.andThen (hP.expand (hnext false) _ _) fun target => ?_
      exact hP.read (fun turn => hnext _ _) fun _ _ => rfl
    · exact hP.finishReply (hnext false) position _ _
    · exact hP.pure _

theorem answerThrough
    {resolve resolve' : Nat → Bool → Text → TurnM Text}
    (hfirst : ∀ opening message, P 0 (resolve 0 opening message) (resolve' 0 opening message))
    (hsecond : ∀ message, P 1 (resolve 1 false message) (resolve' 1 false message))
    (message : Text) :
    P 0 (answerThrough resolve message) (answerThrough resolve' message) := by
  have hexpand : ∀ text, P 0 (Turn.expand (resolve 1 false) {} text)
      (Turn.expand (resolve' 1 false) {} text) := hP.expand hsecond {}
  refine hP.read (fun turn => ?_) fun _ _ => rfl
  split
  · refine hP.andThen (hfirst true requestMessage) fun opening => ?_
    split
    · refine hP.andThen (hfirst false message) fun reply => ?_
      exact hP.andThen (hP.pure _) hexpand
    · exact hP.andThen (hP.pure opening) hexpand
  · exact hfirst false message

theorem translate
    (translator : Option (Text → Language → Text)) (text : Text) (target : Language) :
    P 0 (translate translator text target) (translate translator text target) := by
  cases translator with
  | none => exact hP.pure text
  | some translate => exact hP.andThen (hP.request _ Bool.false_ne_true) fun _ => hP.pure _

section Save

variable (hsave : ∀ key content (tags : Mind → List Text),
  P 0 (modifyMind fun mind => mind.save key content (tags mind))
    (modifyMind fun mind => mind.save key content (tags mind)))

include hsave

theorem askSource (source : KnowledgeSource) (message : Text) :
    P 0 (askSource source message) (askSource source message) := by
  refine hP.read (fun turn => ?_) fun _ _ => rfl
  refine hP.andThen (hP.translate _ _ _) fun question => ?_
  refine hP.andThen (hP.request _ Bool.false_ne_true) fun _ => ?_
  split
  · exact hP.pure none
  · refine hP.andThen (hP.translate _ _ _) fun answer => ?_
    exact hP.andThen (hsave _ _ fun _ => _) fun _ => hP.pure _

theorem searchKnowledge
    (hask : ∀ message stars, P 0 (askMemory message stars) (askMemory message stars))
    (message : Text) (stars : List Text) :
    P 0 (searchKnowledge message stars) (searchKnowledge message stars) := by
  refine hP.andThen (hask message stars) fun found => ?_
  cases found with
  | some found => exact hP.pure _
  | none =>
    refine hP.read (fun turn => ?_) fun _ _ => rfl
    split
    · exact hP.pure none
    · exact hP.askSource hsave _ message

theorem saveDefinition : P 0 saveDefinition saveDefinition := by
  refine hP.read (fun turn => ?_) fun _ _ => rfl
  dsimp only
  split
  · exact hsave _ _ fun mind => mind.collaborators.keywordSet _
  · exact hP.pure ()

theorem learn
    (hfacts : ∀ facts, P 0 (change (.facts facts)) (change (.facts facts))) (trigger : Trigger)
    (stars : List Text) :
    P 0 (learn trigger stars) (learn trigger stars) := by
  unfold Turn.learn
  dsimp only
  split
  · exact hP.pure ()
  · exact hP.andThen (hfacts _) fun _ => hP.saveDefinition hsave

end Save

end Compatible

/-! ## Whole steps -/

/-- What a step gives: the first steps of a turn answer no redirect, the deeper ones do. -/
def share (step : Nat) : Int :=
  if step = 0 then 0 else 1

/-- The operations of steps respect the relation, where the steps are `least` or deeper. -/
structure CompatibleFrom (least : Nat) (P : Int → {α : Type} → TurnM α → TurnM α → Prop) : Prop
    extends Compatible P where
  leave : P 0 (modifySession fun session => session.setTopic defaultTopic)
    (modifySession fun session => session.setTopic defaultTopic)
  select : ∀ snapshot topic message step,
    P 0 (select snapshot topic message step) (select snapshot topic message step)
  note : ∀ (position : Position) topic message selection, least ≤ position.step →
    position.step < Number.wordLimit →
      P (share position.step) (note position topic message selection)
        (note position topic message selection)
  search : ∀ message stars, P 0 (searchKnowledge message stars) (searchKnowledge message stars)
  learn : ∀ trigger stars, P 0 (learn trigger stars) (learn trigger stars)

namespace CompatibleFrom

variable {least : Nat} {P : Int → {α : Type} → TurnM α → TurnM α → Prop}
  (hP : CompatibleFrom least P)

include hP

theorem currentTopic (snapshot : Snapshot) :
    P 0 (currentTopic snapshot) (currentTopic snapshot) := by
  refine hP.read (fun turn => ?_) fun _ _ => rfl
  dsimp only
  split
  · exact hP.pure _
  · exact hP.andThen hP.leave fun _ => hP.pure _

section Step

variable {next next' : Bool → Text → TurnM Text} {afterNext afterNext' : Text → TurnM Text}
  (hnext : ∀ opening message, P 1 (next opening message) (next' opening message))
  (hafterNext : ∀ message, P 1 (afterNext message) (afterNext' message))

include hnext hafterNext

theorem answerSelected (position : Position) (message : Text) (selection : Selection) :
    P 0 (answerSelected next afterNext position message selection)
      (answerSelected next' afterNext' position message selection) := by
  have hanswer := hP.answerBy hnext hafterNext position selection
  unfold Turn.answerSelected
  dsimp only
  split
  · exact hP.andThen (hP.learn _ _) fun _ => hanswer
  · split
    · exact hanswer
    · refine hP.andThen (hP.search _ _) fun known => ?_
      cases known with
      | some known => exact hP.pure known
      | none => exact hanswer

theorem answerStep
    (snapshot : Snapshot) (position : Position) (hleast : least ≤ position.step)
    (hlimit : position.step < Number.wordLimit) (topic message : Text) :
    P (share position.step) (answerStep next afterNext snapshot position topic message)
      (answerStep next' afterNext' snapshot position topic message) := by
  refine hP.andThen (hP.select _ _ _ _) fun selection => ?_
  rw [← Int.add_zero (share position.step)]
  refine hP.bind (hP.note position _ _ _ hleast hlimit) fun _ => ?_
  split
  · exact hP.pure _
  · exact hP.answerSelected hnext hafterNext position message _

end Step

variable {cut cut' : TurnM Text} (hcut : P 1 cut cut')

include hcut

theorem resolveOr {step : Nat} (hleast : least ≤ step) (opening : Bool) (message : Text) :
    P (share step) (resolveOr cut step opening message) (resolveOr cut' step opening message) := by
  induction step using step_induction generalizing opening message with
  | deeper step ih =>
    rw [Turn.resolveOr, Turn.resolveOr]
    refine hP.read (fun turn => ?_) fun _ _ => rfl
    refine hP.andThen (hP.currentTopic _) fun topic => ?_
    split
    · rename_i hdepth
      have hshare : share step = 1 := if_neg (Nat.ne_zero_of_lt hdepth)
      rw [hshare]
      exact hcut
    · rename_i hdepth
      have hlimit : step < Number.wordLimit :=
        Nat.lt_of_le_of_lt (Nat.le_of_not_lt hdepth) turn.mind.live.persona.depth.toNat_lt
      have hdeeper : ∀ more, 0 < more → ∀ opening message,
          P 1 (Turn.resolveOr cut (step + more) opening message)
            (Turn.resolveOr cut' (step + more) opening message) := by
        intro more hmore opening message
        have hshare : share (step + more) = 1 := if_neg (by omega)
        rw [← hshare]
        exact ih hdepth more hmore (Nat.le_add_right_of_le hleast) opening message
      exact hP.answerStep (hdeeper 1 Nat.one_pos) (hdeeper 2 Nat.two_pos false) _ ⟨step, opening⟩
        hleast hlimit _ _

theorem resolveOr_succ
    {step : Nat} (hleast : least ≤ step + 1) (opening : Bool) (message : Text) :
    P 1 (Turn.resolveOr cut (step + 1) opening message)
      (Turn.resolveOr cut' (step + 1) opening message) := by
  have hstep := hP.resolveOr hcut hleast opening message
  rwa [show share (step + 1) = 1 from if_neg (Nat.succ_ne_zero step)] at hstep

theorem answerOr (hleast : least = 0) (message : Text) :
    P 0 (answerOr cut message) (answerOr cut' message) := by
  have hfirst : ∀ opening message, P 0 (Turn.resolveOr cut 0 opening message)
      (Turn.resolveOr cut' 0 opening message) := hP.resolveOr hcut (Nat.le_of_eq hleast)
  rw [answerOr_eq_answerThrough, answerOr_eq_answerThrough]
  exact hP.answerThrough hfirst (hP.resolveOr_succ hcut (by omega) false) message

end CompatibleFrom

/-! ## Relations between the turns before and after -/

/-- A relation between the turns before and after, which no operation of an expansion leaves. -/
structure Closed (R : Int → Turn → Turn → Prop) : Prop where
  refl : ∀ turn, R 0 turn turn
  trans : ∀ {first second : Int} {turn middle after : Turn},
    R first turn middle → R second middle after → R (first + second) turn after
  assign : ∀ name value turn, R 0 turn ((assign name value).run turn).2
  choose : ∀ {α : Type} (options : Nat) (f : Random.Stream → α × Random.Stream) (turn : Turn),
    R 0 turn ((choose options f).run turn).2
  request : ∀ (request : Request) (turn : Turn), ¬ request.saves →
    R 0 turn { turn with mind := turn.mind.request request }
  code : ∀ script turn, R 0 turn ((change (.code script)).run turn).2
  count : ∀ turn, R (-1) turn (countRedirect.run turn).2

/-- A relation between the turns before and after, which no operation of steps leaves that are
`least` or deeper. -/
structure ClosedFrom (least : Nat) (R : Int → Turn → Turn → Prop) : Prop extends Closed R where
  leave : ∀ turn : Turn, R 0 turn { turn with session := turn.session.setTopic defaultTopic }
  keep : ∀ cache (turn : Turn), R 0 turn { turn with mind := { turn.mind with cache } }
  note : ∀ (position : Position) topic message selection turn, least ≤ position.step →
    position.step < Number.wordLimit →
      R (share position.step) turn ((note position topic message selection).run turn).2
  save : ∀ key content tags (turn : Turn),
    R 0 turn { turn with mind := turn.mind.save key content tags }
  learn : ∀ facts turn, R 0 turn ((change (.facts facts)).run turn).2

/-- What leads from one turn to another is a relation between computations. -/
theorem Closed.compatible {R : Int → Turn → Turn → Prop} (hR : Closed R) :
    Compatible fun balance _ m _ => ∀ turn, R balance turn (m.run turn).2 where
  pure _ := hR.refl
  bind hm hf turn := hR.trans (hm turn) (hf _ _)
  read hf _ turn := hf turn turn
  assign := hR.assign
  choose := hR.choose
  request request hrequest turn := hR.request request turn hrequest
  code := hR.code
  count := hR.count

theorem ClosedFrom.compatibleFrom
    {least : Nat} {R : Int → Turn → Turn → Prop} (hR : ClosedFrom least R) :
    CompatibleFrom least fun balance _ m _ => ∀ turn, R balance turn (m.run turn).2 := by
  have hsave : ∀ key content (tags : Mind → List Text) turn,
      R 0 turn ((modifyMind fun mind => mind.save key content (tags mind)).run turn).2 :=
    fun key content _ turn => hR.save key content _ turn
  have hask : ∀ message stars turn, R 0 turn ((askMemory message stars).run turn).2 := by
    intro message stars turn
    rw [askMemory, run_get_bind]
    dsimp only
    split
    · exact hR.refl turn
    · exact hR.request _ turn Bool.false_ne_true
  exact
    { toCompatible := hR.compatible
      leave := hR.leave
      select := fun _ _ _ _ turn => hR.keep _ turn
      note := fun position topic message selection hleast hlimit turn =>
        hR.note position topic message selection turn hleast hlimit
      search := hR.compatible.searchKnowledge hsave hask
      learn := hR.compatible.learn hsave hR.learn }

section Turns

variable {R : Int → Turn → Turn → Prop}

/-- The answer of a first step, and what it leads to. -/
theorem ClosedFrom.resolveOr
    {least : Nat} (hR : ClosedFrom least R) {cut : TurnM Text}
    (hcut : ∀ turn, R 1 turn (cut.run turn).2) {step : Nat} (hleast : least ≤ step)
    (opening : Bool) (message : Text) (turn : Turn) :
    R (share step) turn ((Turn.resolveOr cut step opening message).run turn).2 :=
  @CompatibleFrom.resolveOr _ _ hR.compatibleFrom cut cut hcut step hleast opening message turn

theorem ClosedFrom.answerOr
    (hR : ClosedFrom 0 R) {cut : TurnM Text} (hcut : ∀ turn, R 1 turn (cut.run turn).2)
    (message : Text) (turn : Turn) :
    R 0 turn ((Turn.answerOr cut message).run turn).2 :=
  @CompatibleFrom.answerOr _ _ hR.compatibleFrom cut cut hcut rfl message turn

end Turns

end Turn

end DialogueScript

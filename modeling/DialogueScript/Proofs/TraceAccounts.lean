import DialogueScript.Proofs.RememberedAnswers

/-!
# What the trace accounts for

A first step is recorded at the front of what its turn does, and all that it leads to is deeper.
Every redirect that is followed is answered by a deeper step, which is recorded unless it is cut
off.  The last match is noted with each record.
-/

namespace DialogueScript

namespace Turn

open Script (beginTopic)

/-! ## First steps -/

/-- The first steps among some records: whether each opens the turn, and its message. -/
def firstSteps (steps : List Step) : List (Bool × Text) :=
  (steps.filter fun step => step.step = 0).map fun step => (step.opening, step.message)

theorem firstSteps_append (steps more : List Step) :
    firstSteps (steps ++ more) = firstSteps steps ++ firstSteps more := by
  rw [firstSteps, List.filter_append, List.map_append]
  rfl

/-- Steps have been recorded, among them these first steps, and nothing before a first step. -/
def Records (firsts : List (Bool × Text)) (turn after : Turn) : Prop :=
  ∃ steps, after.trace.steps = turn.trace.steps ++ steps ∧ firstSteps steps = firsts ∧
    ∀ first ∈ firsts.head?,
      steps.head?.map (fun step => (step.step, step.opening)) = some (0, first.1)

namespace Records

variable {turn middle after : Turn}

theorem of_eq (hsteps : after.trace.steps = turn.trace.steps) : Records [] turn after :=
  ⟨[], by rw [hsteps, List.append_nil], rfl, fun _ hnone => nomatch hnone⟩

theorem of_record {entered : Step} (hstep : 0 < entered.step)
    (hsteps : after.trace.steps = turn.trace.steps ++ [entered]) :
    Records [] turn after := by
  refine ⟨[entered], hsteps, ?_, fun _ hnone => nomatch hnone⟩
  simp [firstSteps, Nat.ne_of_gt hstep]

theorem of_first
    {entered : Step} (hsteps : after.trace.steps = turn.trace.steps ++ [entered])
    (hstep : entered.step = 0) {opening : Bool} (hopening : entered.opening = opening)
    {message : Text} (hmessage : entered.message = message) :
    Records [(opening, message)] turn after := by
  refine ⟨[entered], hsteps, by simp [firstSteps, hstep, hopening, hmessage], ?_⟩
  rintro first ⟨⟩
  rw [← hstep, ← hopening]
  rfl

theorem append
    {firsts more : List (Bool × Text)} (hfirst : Records firsts turn middle)
    (hsecond : Records more middle after) (hfront : firsts = [] → more = []) :
    Records (firsts ++ more) turn after := by
  obtain ⟨steps, hsteps, rfl, hhead⟩ := hfirst
  obtain ⟨later, hlater, rfl, -⟩ := hsecond
  refine ⟨steps ++ later, by rw [hlater, hsteps, List.append_assoc], ?_, ?_⟩
  · rw [firstSteps_append]
  · intro first hmem
    cases hfirsts : firstSteps steps with
    | nil =>
      rw [hfirsts, hfront hfirsts] at hmem
      cases hmem
    | cons front firsts =>
      rw [hfirsts] at hhead hmem
      have hfront := hhead first hmem
      cases steps with
      | nil => cases hfront
      | cons step steps => exact hfront

end Records

/-- No more first steps are recorded by what is deeper than they are. -/
theorem closedFrom_records : ClosedFrom 1 fun _ => Records [] where
  refl _ := .of_eq rfl
  trans hfirst hsecond := hfirst.append hsecond id
  assign _ _ _ := .of_eq rfl
  choose _ _ _ := .of_eq rfl
  request _ _ _ := .of_eq rfl
  code _ _ := .of_eq rfl
  count _ := .of_eq rfl
  leave _ := .of_eq rfl
  keep _ _ := .of_eq rfl
  note position _ _ _ _ hleast _ :=
    have hstep : 0 < position.step := hleast
    .of_record hstep rfl
  save _ _ _ _ := .of_eq rfl
  learn _ _ := .of_eq rfl

/-- What a step does once it has noted what it selected is up to the deeper steps. -/
theorem ClosedFrom.afterEnter_of_deeper
    {R : Int → Turn → Turn → Prop} {least : Nat} (hR : ClosedFrom least R) {cut : TurnM Text}
    {step : Nat}
    (hdeeper : ∀ more, 0 < more → ∀ opening message turn,
      R 1 turn ((Turn.resolveOr cut (step + more) opening message).run turn).2)
    (opening : Bool) (message : Text) {turn : Turn}
    (hdepth : ¬ turn.mind.live.persona.depth.toNat < step) :
    R 0 ((enter step opening message).run turn).2
      ((Turn.resolveOr cut step opening message).run turn).2 := by
  rw [run_resolveOr_of_not_lt opening message cut hdepth, answerStep, run_enter]
  dsimp only
  generalize (if opening then beginTopic else (turn.mind.live.settle turn.session).topic) = topic
  rw [run_bind, run_bind]
  generalize (select turn.mind.live topic message step).run _ = found
  obtain ⟨selection, selected⟩ := found
  cases selection with
  | none => exact hR.refl _
  | some selection =>
    let next := Turn.resolveOr cut (step + 1)
    let afterNext := Turn.resolveOr cut (step + 2) false
    exact @CompatibleFrom.answerSelected _ _ hR.compatibleFrom next next afterNext afterNext
      (hdeeper 1 Nat.one_pos) (hdeeper 2 Nat.two_pos false) ⟨step, opening⟩ message selection _

theorem ClosedFrom.afterEnter
    {R : Int → Turn → Turn → Prop} (hR : ClosedFrom 1 R) {cut : TurnM Text}
    (hcut : ∀ turn, R 1 turn (cut.run turn).2) (opening : Bool) (message : Text) (turn : Turn) :
    R 0 ((enter 0 opening message).run turn).2
      ((Turn.resolveOr cut 0 opening message).run turn).2 := by
  refine hR.afterEnter_of_deeper (fun more hmore => ?_) opening message (Nat.not_lt_zero _)
  have hshare : share (0 + more) = 1 := if_neg (by omega)
  rw [← hshare]
  exact hR.resolveOr hcut (by omega)

theorem exists_step_enter (opening : Bool) (message : Text) (turn : Turn) :
    ∃ entered : Step, ((enter 0 opening message).run turn).2.trace.steps =
        turn.trace.steps ++ [entered] ∧
      entered.step = 0 ∧ entered.opening = opening ∧ entered.message = message := by
  rw [run_enter]
  exact ⟨_, rfl, rfl, rfl, rfl⟩

/-- Where scripts open the turn, what they and the message are answered with is expanded last. -/
theorem exists_run_answerOr_of_opened
    {turn opened : Turn} (hopened : turn.persona.graph.contains beginTopic) {cut : TurnM Text}
    {opening : Text} (hrun : (resolveOr cut 0 true requestMessage).run turn = (opening, opened))
    (message : Text) :
    ∃ text, (answerOr cut message).run turn =
      (expand (resolveOr cut 1 false) {} text).run
        (if Text.contains okMark opening then ((resolveOr cut 0 false message).run opened).2
        else opened) := by
  rw [answerOr, run_get_bind, if_pos hopened, run_bind, hrun]
  dsimp only
  split
  · rw [run_bind, pure_bind]
    exact ⟨_, rfl⟩
  · rw [pure_bind]
    exact ⟨_, rfl⟩

section Cut

variable {cut : TurnM Text} (hcut : ∀ turn, Records [] turn (cut.run turn).2)

include hcut

theorem records_resolveOr (opening : Bool) (message : Text) (turn : Turn) :
    Records [(opening, message)] turn ((resolveOr cut 0 opening message).run turn).2 := by
  obtain ⟨entered, hsteps, hstep, hopening, hmessage⟩ := exists_step_enter opening message turn
  have hentered := Records.of_first hsteps hstep hopening hmessage
  exact hentered.append (closedFrom_records.afterEnter hcut opening message turn) fun _ => rfl

/-- The first step of a turn opens it if scripts do that.  The message itself has a first step
too, unless the reply of the scripts leaves it out. -/
theorem records_answerOr (message : Text) (turn : Turn) :
    let opened := turn.persona.graph.contains beginTopic
    let opening := ((resolveOr cut 0 true requestMessage).run turn).1
    Records
      (if opened then
        (true, requestMessage) :: if Text.contains okMark opening then [(false, message)] else []
      else [(false, message)])
      turn ((answerOr cut message).run turn).2 := by
  intro opened opening
  have hexpand : ∀ text turn,
      Records [] turn ((expand (resolveOr cut 1 false) {} text).run turn).2 :=
    @Compatible.expand _ closedFrom_records.compatible _ (resolveOr cut 1 false)
      (closedFrom_records.resolveOr hcut (Nat.le_refl 1) false) {}
  by_cases hopened : opened
  · have hfirst := records_resolveOr hcut true requestMessage turn
    obtain ⟨text, hrun⟩ := exists_run_answerOr_of_opened hopened (Prod.eta _).symm message
    rw [hrun, if_pos hopened]
    by_cases hok : Text.contains okMark opening
    · have hmessage := records_resolveOr hcut false message
        ((resolveOr cut 0 true requestMessage).run turn).2
      have hboth := hfirst.append hmessage fun hnone => nomatch hnone
      rw [if_pos hok, if_pos hok]
      exact hboth.append (hexpand text _) fun _ => rfl
    · rw [if_neg hok, if_neg hok]
      exact hfirst.append (hexpand text _) fun _ => rfl
  · rw [if_neg hopened, answerOr, run_get_bind, if_neg hopened]
    exact records_resolveOr hcut false message turn

end Cut

/-! ## Steps that are cut off -/

/-- Where a step is too deep, record it nonetheless, at a depth that no persona has. -/
def markCutOff : TurnM Text := do
  record { step := Number.wordLimit, topic := [], message := [], opening := false }
  pure deepRecursion

/-- How many steps have been marked as too deep. -/
def cutOffs (turn : Turn) : Nat :=
  turn.trace.steps.countP fun step => step.step = Number.wordLimit

/-- The turn without the marks of steps that are too deep. -/
def unmark (turn : Turn) : Turn :=
  { turn with
    trace := { turn.trace with
      steps := turn.trace.steps.filter fun step => step.step ≠ Number.wordLimit } }

/-- Without its marks, the second computation does what the first one does. -/
def Unmarks {α : Type} (m m' : TurnM α) : Prop :=
  ∀ turn, m.run turn.unmark = ((m'.run turn).1, (m'.run turn).2.unmark)

namespace Unmarks

variable {α β : Type}

theorem bind
    {m m' : TurnM α} {f f' : α → TurnM β} (hm : Unmarks m m') (hf : ∀ a, Unmarks (f a) (f' a)) :
    Unmarks (m >>= f) (m' >>= f') := by
  intro turn
  rw [run_bind, hm turn]
  exact hf _ _

theorem read
    {f f' : Turn → TurnM α} (hf : ∀ turn, Unmarks (f turn) (f' turn))
    (htrace : ∀ turn trace, f' { turn with trace } = f' turn) :
    Unmarks (get >>= f) (get >>= f') := by
  intro turn
  have hread := hf turn.unmark turn
  rw [show f' turn.unmark = f' turn from htrace turn _] at hread
  exact hread

theorem record {step : Step} (hstep : step.step ≠ Number.wordLimit) :
    Unmarks (Turn.record step) (Turn.record step) := by
  intro turn
  have hkept : (turn.trace.steps ++ [step]).filter (fun step => step.step ≠ Number.wordLimit) =
      turn.trace.steps.filter (fun step => step.step ≠ Number.wordLimit) ++ [step] := by
    simp [List.filter_append, hstep]
  let withSteps (steps : List Step) : Turn := { turn with trace := { turn.trace with steps } }
  exact congrArg (fun steps => ((), withSteps steps)) hkept.symm

theorem markCutOff : Unmarks (Pure.pure deepRecursion) markCutOff := by
  intro turn
  let mark : Step := { step := Number.wordLimit, topic := [], message := [], opening := false }
  have hdropped : (turn.trace.steps ++ [mark]).filter (fun step => step.step ≠ Number.wordLimit) =
      turn.trace.steps.filter (fun step => step.step ≠ Number.wordLimit) := by
    simp [List.filter_append, mark]
  let withSteps (steps : List Step) : Turn := { turn with trace := { turn.trace with steps } }
  exact congrArg (fun steps => (deepRecursion, withSteps steps)) hdropped.symm

theorem askMemory (message : Text) (stars : List Text) :
    Unmarks (askMemory message stars) (askMemory message stars) := by
  refine read (fun turn => ?_) fun _ _ => rfl
  dsimp only
  split
  · exact fun _ => rfl
  · exact fun _ => rfl

end Unmarks

theorem compatible_unmarks : Compatible fun _ _ m m' => Unmarks m m' where
  pure _ _ := rfl
  bind := .bind
  read := .read
  assign _ _ _ := rfl
  choose _ _ _ := rfl
  request _ _ _ := rfl
  code _ _ := rfl
  count _ := rfl

theorem compatibleFrom_unmarks : CompatibleFrom 0 fun _ _ m m' => Unmarks m m' where
  toCompatible := compatible_unmarks
  leave _ := rfl
  select _ _ _ _ _ := rfl
  note _ _ _ _ _ hlimit :=
    have hset : ∀ name value, Unmarks (modifySession fun session => session.set name value)
        (modifySession fun session => session.set name value) := fun _ _ _ => rfl
    (hset lastMatchName _).bind fun _ => .record (Nat.ne_of_lt hlimit)
  search := compatible_unmarks.searchKnowledge (fun _ _ _ _ => rfl) .askMemory
  learn := compatible_unmarks.learn (fun _ _ _ _ => rfl) fun _ _ => rfl

/-- The marks of steps that are too deep are all that is added to the turn. -/
theorem unmarks_replyOr (message : Text) :
    Unmarks (reply message) (replyOr markCutOff message) := by
  rw [reply_eq_replyOr]
  refine .read (fun turn => ?_) fun _ _ => rfl
  refine .bind (compatibleFrom_unmarks.answerOr .markCutOff rfl _) fun reply => ?_
  exact fun _ => rfl

/-! ## Redirects -/

/-- How many steps have been recorded that are deeper than the first ones. -/
def deeperSteps (turn : Turn) : Nat :=
  turn.trace.steps.countP fun step => 0 < step.step

/-- The deeper steps have grown by the redirects and the balance. -/
def Settles (balance : Int) (turn after : Turn) : Prop :=
  (after.deeperSteps : Int) - after.trace.redirects =
    turn.deeperSteps - turn.trace.redirects + balance

namespace Settles

variable {first second : Int} {turn middle after : Turn}

theorem of_eq
    (hsteps : after.trace.steps = turn.trace.steps)
    (hredirects : after.trace.redirects = turn.trace.redirects) :
    Settles 0 turn after := by
  rw [Settles, deeperSteps, deeperSteps, hsteps, hredirects, Int.add_zero]

theorem trans (hfirst : Settles first turn middle) (hsecond : Settles second middle after) :
    Settles (first + second) turn after := by
  unfold Settles at hfirst hsecond ⊢
  omega

theorem count (turn : Turn) : Settles (-1) turn (countRedirect.run turn).2 := by
  have hcounted : (countRedirect.run turn).2.trace.redirects = turn.trace.redirects + 1 := rfl
  have hsame : (countRedirect.run turn).2.deeperSteps = turn.deeperSteps := rfl
  rw [Settles, hcounted, hsame]
  omega

theorem of_record
    {step : Nat}
    (hsteps : ∃ entered : Step, after.trace.steps = turn.trace.steps ++ [entered] ∧
      entered.step = step)
    (hredirects : after.trace.redirects = turn.trace.redirects) :
    Settles (share step) turn after := by
  obtain ⟨entered, hsteps, rfl⟩ := hsteps
  have hmore : after.deeperSteps = turn.deeperSteps + if 0 < entered.step then 1 else 0 := by
    rw [deeperSteps, hsteps, List.countP_append, List.countP_singleton, deeperSteps]
    simp
  rw [Settles, hmore, hredirects, share]
  split <;> split <;> omega

end Settles

theorem closedFrom_settles : ClosedFrom 0 Settles where
  refl _ := .of_eq rfl rfl
  trans := .trans
  assign _ _ _ := .of_eq rfl rfl
  choose _ _ _ := .of_eq rfl rfl
  request _ _ _ := .of_eq rfl rfl
  code _ _ := .of_eq rfl rfl
  count := .count
  leave _ := .of_eq rfl rfl
  keep _ _ := .of_eq rfl rfl
  note _ _ _ _ _ _ _ := .of_record ⟨_, rfl, rfl⟩ rfl
  save _ _ _ _ := .of_eq rfl rfl
  learn _ _ := .of_eq rfl rfl

/-- A deeper step is recorded as such, or it is marked as too deep. -/
theorem deeperSteps_eq (turn : Turn) :
    turn.deeperSteps = turn.unmark.deeperSteps + turn.cutOffs := by
  have hlimit : 0 < Number.wordLimit := by decide
  unfold deeperSteps cutOffs unmark
  dsimp only
  induction turn.trace.steps with
  | nil => rfl
  | cons step steps ih =>
    by_cases hmark : step.step = Number.wordLimit
    · simp only [List.countP_cons, List.filter_cons, ih, hmark, hlimit, ne_eq, not_true_eq_false,
        decide_true, decide_false, Bool.false_eq_true, if_true, if_false]
      omega
    · simp only [List.countP_cons, List.filter_cons, ih, hmark, ne_eq, not_false_eq_true,
        decide_true, decide_false, Bool.false_eq_true, if_true, if_false]
      omega

theorem settles_markCutOff (turn : Turn) : Settles 1 turn (markCutOff.run turn).2 := by
  have hshare : share Number.wordLimit = 1 := if_neg (by decide)
  rw [← hshare]
  exact .of_record ⟨_, rfl, rfl⟩ rfl

theorem trace_replyOr (cut : TurnM Text) (message : Text) (turn : Turn) :
    ((replyOr cut message).run turn).2.trace =
      ((answerOr cut (turn.persona.normalize message)).run turn).2.trace := by
  rw [run_replyOr rfl (Prod.eta _).symm]

theorem values_replyOr (cut : TurnM Text) (message : Text) (turn : Turn) :
    ((replyOr cut message).run turn).2.session.values =
      ((answerOr cut (turn.persona.normalize message)).run turn).2.session.values := by
  rw [run_replyOr rfl (Prod.eta _).symm]
  rfl

/-- Where nothing has been traced yet, each redirect is settled by a deeper step or a mark. -/
theorem redirects_replyOr (message : Text) {turn : Turn} (hstart : turn.trace = {}) :
    let marked := ((replyOr markCutOff message).run turn).2
    marked.trace.redirects = marked.unmark.deeperSteps + marked.cutOffs := by
  intro marked
  let answered := ((answerOr markCutOff (turn.persona.normalize message)).run turn).2
  have htrace : marked.trace = answered.trace := trace_replyOr markCutOff message turn
  have hsettles : Settles 0 turn answered := closedFrom_settles.answerOr settles_markCutOff _ turn
  have hnone : turn.deeperSteps = 0 := by
    rw [deeperSteps, hstart]
    rfl
  have hunredirected : turn.trace.redirects = 0 := by
    rw [hstart]
  rw [Settles, hnone, hunredirected, deeperSteps, ← htrace] at hsettles
  rw [← deeperSteps_eq, deeperSteps]
  omega

/-! ## The last match -/

/-- The last match is the pattern of the last record, unless a reply has set it. -/
def TellsLastMatch (turn : Turn) : Prop :=
  (∃ value, (lastMatchName, value) ∈ turn.trace.assignments) ∨
    ∃ last, turn.trace.steps.getLast? = some last ∧
      turn.session.values.get? lastMatchName = some (last.matched.getD [])

namespace TellsLastMatch

variable {turn after : Turn}

theorem of_eq
    (htells : turn.TellsLastMatch) (htrace : after.trace.assignments = turn.trace.assignments)
    (hsteps : after.trace.steps = turn.trace.steps)
    (hmatch : after.session.values.get? lastMatchName = turn.session.values.get? lastMatchName) :
    after.TellsLastMatch := by
  rwa [TellsLastMatch, htrace, hsteps, hmatch]

theorem assign (htells : turn.TellsLastMatch) (name value : Text) :
    ((Turn.assign name value).run turn).2.TellsLastMatch := by
  by_cases hname : lastMatchName = name
  · subst hname
    exact .inl ⟨value, List.mem_append_right _ (List.mem_singleton_self _)⟩
  · rcases htells with ⟨other, hassigned⟩ | ⟨last, hlast, hmatch⟩
    · exact .inl ⟨other, List.mem_append_left _ hassigned⟩
    · refine .inr ⟨last, hlast, ?_⟩
      exact (Table.get?_insert_of_ne _ value hname).trans hmatch

theorem note
    (turn : Turn) (position : Position) (topic message : Text) (selection : Option Selection) :
    ((Turn.note position topic message selection).run turn).2.TellsLastMatch :=
  .inr ⟨_, List.getLast?_concat, Table.get?_insert_self _ _ _⟩

end TellsLastMatch

theorem closedFrom_tellsLastMatch (least : Nat) :
    ClosedFrom least fun _ turn after => turn.TellsLastMatch → after.TellsLastMatch where
  refl _ htells := htells
  trans hfirst hsecond htells := hsecond (hfirst htells)
  assign name value _ htells := htells.assign name value
  choose _ _ _ htells := htells.of_eq rfl rfl rfl
  request _ _ _ htells := htells.of_eq rfl rfl rfl
  code _ _ htells := htells.of_eq rfl rfl rfl
  count _ htells := htells.of_eq rfl rfl rfl
  leave _ htells := htells.of_eq rfl rfl (Table.get?_insert_of_ne _ _ (by decide))
  keep _ _ htells := htells.of_eq rfl rfl rfl
  note position topic message selection turn _ _ _ := .note turn position topic message selection
  save _ _ _ _ htells := htells.of_eq rfl rfl rfl
  learn _ _ htells := htells.of_eq rfl rfl rfl

theorem tellsLastMatch_resolveOr
    {cut : TurnM Text} (hcut : ∀ turn, turn.TellsLastMatch → (cut.run turn).2.TellsLastMatch)
    (opening : Bool) (message : Text) (turn : Turn) :
    ((resolveOr cut 0 opening message).run turn).2.TellsLastMatch := by
  have hentered : ((enter 0 opening message).run turn).2.TellsLastMatch := by
    rw [run_enter]
    exact .note _ _ _ _ _
  exact (closedFrom_tellsLastMatch 1).afterEnter hcut opening message turn hentered

theorem tellsLastMatch_answerOr
    {cut : TurnM Text} (hcut : ∀ turn, turn.TellsLastMatch → (cut.run turn).2.TellsLastMatch)
    (message : Text) (turn : Turn) :
    ((answerOr cut message).run turn).2.TellsLastMatch := by
  have hkeeps := closedFrom_tellsLastMatch 1
  by_cases hopened : turn.persona.graph.contains beginTopic
  · obtain ⟨text, hrun⟩ := exists_run_answerOr_of_opened hopened (Prod.eta _).symm message
    rw [hrun]
    have hexpand := @Compatible.expand _ hkeeps.compatible _ (resolveOr cut 1 false)
      (hkeeps.resolveOr hcut (Nat.le_refl 1) false) {} text
    split
    · exact hexpand _ (tellsLastMatch_resolveOr hcut false message _)
    · exact hexpand _ (tellsLastMatch_resolveOr hcut true requestMessage turn)
  · rw [answerOr, run_get_bind, if_neg hopened]
    exact tellsLastMatch_resolveOr hcut false message turn

end Turn

/-! ## Whole turns -/

namespace Bot

open Turn

/-- Of every turn, the first record is that of its first step.  The further records of first steps
tell whether scripts opened the turn and whether their reply has a place for that to the message.
The redirects are as many as the deeper records and the steps that are cut off; those are counted
in the same turn by marks that make no other difference to it.  And unless a reply has set the last
match, it is the pattern of the last record, where an empty pattern reads as none. -/
theorem trace_accounts_for_every_step (bot : Bot) (user message : Text) :
    let start := bot.turnFor user
    let answered := bot.answer user message
    let trace := answered.2.trace
    let opened := bot.mind.live.persona.graph.contains Script.beginTopic
    let opening := ((resolve 0 true requestMessage).run start).1
    let normalized := bot.mind.live.persona.normalize message
    let marked := (replyOr markCutOff message).run start
    trace.steps.head?.map (fun step => (step.step, step.opening)) = some (0, opened) ∧
      firstSteps trace.steps =
        (if opened then
          (true, requestMessage) ::
            if Text.contains okMark opening then [(false, normalized)] else []
        else [(false, normalized)]) ∧
      (reply message).run start = (marked.1, marked.2.unmark) ∧
      trace.redirects = trace.steps.countP (fun step => 0 < step.step) + marked.2.cutOffs ∧
      ((∃ value, (lastMatchName, value) ∈ trace.assignments) ∨
        answered.1.lastMatch? user =
          (trace.steps.getLast?.bind (·.matched)).filter fun pattern => !pattern.isEmpty) := by
  intro start answered trace opened opening normalized marked
  have htrace : trace = ((answerOr (pure deepRecursion) normalized).run start).2.trace := by
    change ((reply message).run start).2.trace = _
    rw [reply_eq_replyOr]
    exact trace_replyOr _ message start
  have hunmarks : (reply message).run start = (marked.1, marked.2.unmark) :=
    unmarks_replyOr message start
  obtain ⟨steps, hsteps, hfirsts, hhead⟩ :=
    @records_answerOr (pure deepRecursion) (fun _ => .of_eq rfl) normalized start
  have hstart : start.trace.steps = [] := rfl
  rw [← htrace, hstart, List.nil_append] at hsteps
  have hopens : start.persona.graph.contains Script.beginTopic = opened := rfl
  rw [hopens, ← resolve_eq_resolveOr, ← hsteps] at hfirsts hhead
  refine ⟨?_, hfirsts, hunmarks, ?_, ?_⟩
  · by_cases hopened : opened
    · rw [hopened]
      exact hhead (true, requestMessage) (by rw [if_pos hopened]; rfl)
    · rw [Bool.eq_false_iff.mpr hopened]
      exact hhead (false, normalized) (by rw [if_neg hopened]; rfl)
  · have hunmarked : trace = marked.2.unmark.trace := by
      change ((reply message).run start).2.trace = _
      rw [hunmarks]
    have hredirects : marked.2.trace.redirects = marked.2.unmark.deeperSteps + marked.2.cutOffs :=
      redirects_replyOr message rfl
    rw [hunmarked]
    exact hredirects
  · have htells := @tellsLastMatch_answerOr (pure deepRecursion) (fun _ htells => htells) normalized
      start
    have hvalues : answered.1.userVariables? user =
        some ((answerOr (pure deepRecursion) normalized).run start).2.session.values := by
      rw [userVariables?, session?_answer_self, reply_eq_replyOr, Option.map_some]
      exact congrArg some (values_replyOr _ message start)
    rcases htells with hassigned | ⟨last, hlast, hmatch⟩
    · rw [← htrace] at hassigned
      exact .inl hassigned
    · rw [← htrace] at hlast
      refine .inr ?_
      rw [lastMatch?, userVariable?, hvalues, Option.bind_some, hmatch, hlast, Option.bind_some]
      cases last.matched with
      | none => rfl
      | some pattern => rfl

/-- A trigger that only answers to the previous reply may have an empty pattern, and then it answers
to an empty message.  The record tells that it matched, and the last match reads as none. -/
theorem empty_pattern_is_no_last_match :
    let script := "+ hi\n- foo\n+ \x7bprevious\x7dfoo\n- bar\n".toList
    let bot := ((Bot.ofScript script).answer ['u'] "hi".toList).1
    let answered := bot.answer ['u'] []
    ¬ (∃ value, (lastMatchName, value) ∈ answered.2.trace.assignments) ∧
      answered.2.trace.steps.getLast?.map (·.matched) = some (some []) ∧
      answered.1.lastMatch? ['u'] ≠ answered.2.trace.steps.getLast?.bind (·.matched) := by
  intro script bot answered
  have hnone : answered.2.trace.assignments = [] := by
    decide +kernel
  refine ⟨?_, by decide +kernel, by decide +kernel⟩
  rw [hnone]
  rintro ⟨value, hassigned⟩
  cases hassigned

end Bot

end DialogueScript

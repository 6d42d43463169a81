import DialogueScript.Condition
import DialogueScript.Turn.Expansion
import DialogueScript.Turn.Selection

/-!
# Answering a message

A step of a turn selects a trigger and answers with, in this order, what is known or remembered,
the outcome of the first condition that holds, or one of the trigger's redirects and replies by
weight.  A redirect is answered by a further step.  Steps beyond the depth of the persona are cut
off, so a turn ends whatever the scripts redirect to.
-/

namespace DialogueScript

def noReplyMatched : Text := "ERR: No Reply Matched".toList

def noReplyFound : Text := "ERR: No Reply Found".toList

def deepRecursion : Text := "ERR: Deep Recursion Detected!".toList

namespace Turn

open Script (beginTopic)

/-- The variable of a session that holds the last pattern that matched. -/
def lastMatchName : Text := "__lastmatch__".toList

/-! ### Knowledge -/

def languageName : Text := "language".toList

/-- The language of the user, or that of the bot. -/
def language (turn : Turn) : Language :=
  let tag := turn.session.get languageName
  if tag = undefined then turn.persona.language else Language.ofText tag

def translate (translator : Option (Text → Language → Text)) (text : Text) (target : Language) :
    TurnM Text :=
  match translator with
  | none => pure text
  | some translate => do
    modifyMind fun mind => mind.request (.translate text target)
    pure (translate text target)

/-- Ask the source of knowledge, in its language, and remember the answer. -/
def askSource (source : KnowledgeSource) (message : Text) : TurnM (Option Text) := do
  let turn ← get
  let ours := turn.language
  let collaborators := turn.mind.collaborators
  let translator := if ours = source.language then none else collaborators.translate
  let question ← translate translator message source.language
  modifyMind fun mind => mind.request (.answer question)
  match (source.answer? question).filter fun answer => !(Text.trim answer).isEmpty with
  | none => pure none
  | some answer =>
    let answer ← translate translator answer ours
    modifyMind fun mind => mind.save message answer (collaborators.keywordSet message)
    pure (some answer)

def askMemory (message : Text) (stars : List Text) : TurnM (Option Text) := do
  let mind := (← get).mind
  match mind.memory with
  | none => pure none
  | some memory =>
    let (mind, found) := mind.find memory message stars
    modifyMind fun _ => mind
    pure (found.filter fun found => !found.isEmpty)

/-- What the memory holds or the source of knowledge answers. -/
def searchKnowledge (message : Text) (stars : List Text) : TurnM (Option Text) := do
  match ← askMemory message stars with
  | some found => pure (some found)
  | none =>
    match (← get).mind.collaborators.knowledge with
    | none => pure none
    | some source => askSource source message

/-! ### Learning -/

/-- A template with its stars filled in, one after the other. -/
def fillLesson (stars : List Text) (template : Text) : Text :=
  let text := Text.replaceAll "<star>".toList (stars.head?.getD undefined) template
  stars.zipIdx.foldl
    (fun text (star, index) =>
      Text.replaceAll ("<star".toList ++ Number.natText (index + 1) ++ ['>']) star text)
    text

/-- The facts that a template states. -/
def lesson (stars : List Text) (template : Text) : List (Text × Text) :=
  (Text.tags Template.setTag? (fillLesson stars template)).map fun (name, value) =>
    (Text.trim name, Text.trim value)

def subjectName : Text := "subject".toList

def definitionName : Text := "definition".toList

/-- Save the definition of a subject, when the persona has both. -/
def saveDefinition : TurnM Unit := do
  let persona := (← get).persona
  match persona.getVariable? subjectName, persona.getVariable? definitionName with
  | some subject, some definition =>
    modifyMind fun mind =>
      mind.save subject definition
        (mind.collaborators.keywordSet (subject ++ ' ' :: definition))
  | _, _ => pure ()

/-- Learn the facts of the first reply as variables of the bot. -/
def learn (trigger : Trigger) (stars : List Text) : TurnM Unit := do
  let facts := (trigger.replies.head?.map (lesson stars)).getD []
  if facts.isEmpty then pure ()
  else
    change (.facts facts)
    saveDefinition

/-! ### Conditions and choice -/

/-- A side of a clause with its tags expanded; an empty one reads `undefined`. -/
def expandSide (answer : Text → TurnM Text) (stars : Stars) (side : Text) : TurnM Text := do
  let text ← expand answer stars side
  pure (if text.isEmpty then undefined else text)

/-- The outcome of the first condition that holds, empty if there is none. -/
def checkConditions (answer : Text → TurnM Text) (stars : Stars) : List Text → TurnM Text
  | [] => pure []
  | condition :: conditions =>
    match Condition.read? condition with
    | none => checkConditions answer stars conditions
    | some (clause, outcome) => do
      let left ← expandSide answer stars clause.left
      let right ← expandSide answer stars clause.right
      if clause.operator.compare left right then pure outcome
      else checkConditions answer stars conditions

inductive Choice where
  | redirect (target : Text)
  | reply (text : Text)
deriving Repr, DecidableEq

def Choice.text : Choice → Text
  | .redirect target => target
  | .reply text => text

def heaviest : Nat := UInt32.size - 1

/-- The weight of a redirect or reply by its first weight tag, between one and the heaviest. -/
def choiceWeight (text : Text) : Nat :=
  match (Text.tags Tag.weight? text).head? with
  | none => 1
  | some digits => max 1 (min ((Number.word? digits).getD heaviest) heaviest)

/-- What a trigger may answer with: its redirects, then its replies. -/
def choices (trigger : Trigger) : List Choice :=
  trigger.redirects.map .redirect ++ trigger.replies.map .reply

def chooseAnswer (trigger : Trigger) : TurnM (Option Choice) := do
  let choices := choices trigger
  let index ← choose choices.length fun random =>
    random.chooseWeighted (choices.map fun choice => choiceWeight choice.text)
  pure (index.bind fun index => choices[index]?)

/-! ### Steps -/

/-- The topic of the user, who leaves a topic that does not exist. -/
def currentTopic (snapshot : Snapshot) : TurnM Text := do
  let topic := (← get).session.topic
  if snapshot.persona.graph.contains topic || topic = defaultTopic then pure topic
  else
    modifySession fun session => session.setTopic defaultTopic
    pure defaultTopic

/-- Where a step stands: how deep, and whether it opens the turn. -/
structure Position where
  step : Nat
  opening : Bool
deriving Repr, DecidableEq

/-- Expand a reply that has been chosen. -/
def finishReply (answer : Text → TurnM Text) (position : Position) (stars : Stars) (reply : Text) :
    TurnM Text :=
  if reply.isEmpty then pure noReplyFound
  else if position.opening then settle reply
  else expand answer stars reply

/-- Answer with a condition, a redirect or a reply of the trigger.  `next` answers a message one
step further, for a redirect also when the turn is being opened; `afterNext` answers two steps
further. -/
def answerBy (next : Bool → Text → TurnM Text) (afterNext : Text → TurnM Text) (position : Position)
    (selection : Selection) : TurnM Text := do
  let outcome ← checkConditions afterNext selection.stars selection.trigger.conditions
  if !outcome.isEmpty then finishReply (next false) position selection.stars outcome
  else
    match ← chooseAnswer selection.trigger with
    | some (.redirect target) =>
      countRedirect
      let target ← expand (next false) selection.stars (Text.trim (Tag.dropWeights target))
      next position.opening ((← get).persona.normalize target)
    | some (.reply reply) => finishReply (next false) position selection.stars reply
    | none => pure noReplyFound

/-- Record what a step found, and make its pattern the last match. -/
def note (position : Position) (topic message : Text) (selection : Option Selection) :
    TurnM Unit := do
  modifySession fun session =>
    session.set lastMatchName ((selection.map (·.pattern)).getD [])
  record
    { step := position.step
      topic
      message
      matched := selection.map (·.pattern)
      owner := selection.map (·.trigger.topic)
      viaPrevious := (selection.map (·.viaPrevious)).getD false
      opening := position.opening }

/-- Answer by the trigger that was selected, unless the answer is known already. -/
def answerSelected (next : Bool → Text → TurnM Text) (afterNext : Text → TurnM Text)
    (position : Position) (message : Text) (selection : Selection) : TurnM Text := do
  let trigger := selection.trigger
  if trigger.learns then
    learn trigger selection.stars.message
    answerBy next afterNext position selection
  else
    let known ←
      if trigger.searches.isEmpty then pure none
      else searchKnowledge message selection.stars.message
    match known with
    | some answer => pure answer
    | none => answerBy next afterNext position selection

/-- Select the trigger for a message, with the matchers that the mind keeps. -/
def select (snapshot : Snapshot) (topic message : Text) (step : Nat) :
    TurnM (Option Selection) :=
  modifyGet fun turn =>
    let (selection, cache) :=
      (snapshot.search turn.session topic message step).run turn.mind.cache
    (selection, { turn with mind := { turn.mind with cache } })

def answerStep (next : Bool → Text → TurnM Text) (afterNext : Text → TurnM Text)
    (snapshot : Snapshot) (position : Position) (topic message : Text) : TurnM Text := do
  let topic := if position.opening then beginTopic else topic
  let selection ← select snapshot topic message position.step
  note position topic message selection
  match selection with
  | none => pure noReplyMatched
  | some selection => answerSelected next afterNext position message selection

theorem wordLimit_sub_lt {depth : UInt64} {step more : Nat}
    (h : ¬ depth.toNat < step) (hmore : 0 < more) :
    Number.wordLimit - (step + more) < Number.wordLimit - step := by
  have hdepth : depth.toNat < Number.wordLimit := depth.toNat_lt
  omega

/-- Answer a message in a step of the turn.  The steps it leads to are deeper, and none is deeper
than the depth of the persona, which fits a 64-bit word. -/
def resolve (step : Nat) (opening : Bool) (message : Text) : TurnM Text := do
  let snapshot := (← get).mind.live
  let topic ← currentTopic snapshot
  if hdepth : snapshot.persona.depth.toNat < step then pure deepRecursion
  else
    answerStep (fun opening message => resolve (step + 1) opening message)
      (fun message => resolve (step + 2) false message) snapshot ⟨step, opening⟩ topic message
termination_by Number.wordLimit - step
decreasing_by all_goals exact wordLimit_sub_lt hdepth (by decide)

def requestMessage : Text := "request".toList

def okMark : Text := "\x7bok\x7d".toList

/-- The reply to a normalized message.  When scripts open the turn, their reply stands around that
to the message, and what results is expanded once more. -/
def answer (message : Text) : TurnM Text := do
  if (← get).persona.graph.contains beginTopic then
    let opening ← resolve 0 true requestMessage
    let combined ←
      if Text.contains okMark opening then do
        let reply ← resolve 0 false message
        pure (Text.replaceAll okMark reply opening)
      else pure opening
    expand (resolve 1 false) {} combined
  else resolve 0 false message

/-- A whole turn: the reply to a message, which the session remembers with it. -/
def reply (message : Text) : TurnM Text := do
  let message := (← get).persona.normalize message
  let reply ← answer message
  modifySession fun session => session.push message reply
  pure reply

end Turn

end DialogueScript

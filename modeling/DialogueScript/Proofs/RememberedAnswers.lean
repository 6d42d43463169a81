import DialogueScript.Proofs.OpeningGate
import DialogueScript.Proofs.ReachableBots
import DialogueScript.Proofs.RecursionDepth

/-!
# Remembered answers

What the source of knowledge has answered is saved under the message.  It stays there whatever else
happens to the mind, until something else is saved under the same message; and a trigger that
searches what is known finds it there before it asks the source again.
-/

namespace DialogueScript

/-! ## The record of a message -/

namespace Memory

theorem contentAt?_save_self (memory : Memory) (key content : Text) (tags : List Text) :
    (memory.save key content tags).contentAt? key = some content := by
  simp [contentAt?, save]

theorem contentAt?_save_of_ne
    (memory : Memory) {key other : Text} (content : Text) (tags : List Text) (hne : key ≠ other) :
    (memory.save other content tags).contentAt? key = memory.contentAt? key := by
  rw [contentAt?, contentAt?, save, Table.get?_insert_of_ne _ _ hne]

/-- The record under the question itself comes before everything else. -/
theorem find?_of_contentAt?
    {memory : Memory} {query content : Text} (hcontent : memory.contentAt? query = some content)
    (hsome : content ≠ []) (tags : List Text) :
    memory.find? query tags = some content := by
  have hkey : memory.byKey? query (tags.map Text.trim) = some content := by
    simp [byKey?, hcontent, Option.filter, hsome]
  unfold find?
  dsimp only
  rw [hkey]
  rfl

end Memory

/-- The key under which a request saves something. -/
def Request.savedKey? : Request → Option Text
  | .save key _ _ => some key
  | _ => none

namespace Mind

def contentAt? (mind : Mind) (key : Text) : Option Text :=
  mind.memory.bind fun memory => memory.contentAt? key

theorem contentAt?_save_self
    {mind : Mind} (hmemory : mind.memory.isSome) (key content : Text) (tags : List Text) :
    (mind.save key content tags).contentAt? key = some content := by
  obtain ⟨memory, hmemory⟩ := Option.isSome_iff_exists.mp hmemory
  simp [contentAt?, save, hmemory, Memory.contentAt?_save_self]

/-- More may have been requested, and unless something was saved under the key, the mind holds
under it what it held before. -/
def KeepsUnder (key : Text) (before after : Mind) : Prop :=
  ∃ asked, after.requests = before.requests ++ asked ∧
    ((∀ request ∈ asked, request.savedKey? ≠ some key) →
      after.contentAt? key = before.contentAt? key)

namespace KeepsUnder

variable {key : Text} {before middle after : Mind}

theorem refl (mind : Mind) : KeepsUnder key mind mind :=
  ⟨[], (List.append_nil _).symm, fun _ => rfl⟩

theorem of_memory_eq
    (hmemory : after.memory = before.memory) (asked : List Request)
    (hrequests : after.requests = before.requests ++ asked) :
    KeepsUnder key before after :=
  ⟨asked, hrequests, fun _ => by rw [contentAt?, hmemory]; rfl⟩

theorem trans (hfirst : KeepsUnder key before middle) (hsecond : KeepsUnder key middle after) :
    KeepsUnder key before after := by
  obtain ⟨asked, hasked, hkept⟩ := hfirst
  obtain ⟨more, hmore, hrest⟩ := hsecond
  refine ⟨asked ++ more, by rw [hmore, hasked, List.append_assoc], fun hnone => ?_⟩
  obtain ⟨hasked, hmore⟩ := List.forall_mem_append.mp hnone
  exact (hrest hmore).trans (hkept hasked)

theorem save (mind : Mind) (other content : Text) (tags : List Text) :
    KeepsUnder key mind (mind.save other content tags) := by
  unfold Mind.save
  split
  · exact refl mind
  · rename_i memory hmemory
    refine ⟨[.save other content tags], rfl, fun hnone => ?_⟩
    have hne : key ≠ other := by
      rintro rfl
      exact hnone _ (List.mem_singleton_self _) rfl
    simp [contentAt?, hmemory, Memory.contentAt?_save_of_ne memory content tags hne]

theorem of_move {turn after : Turn} (hmove : Turn.Move turn after) :
    KeepsUnder key turn.mind after.mind := by
  cases hmove with
  | save other content tags => exact save turn.mind other content tags
  | request request => exact of_memory_eq rfl [request] rfl
  | code script => exact of_memory_eq rfl _ rfl
  | _ => exact of_memory_eq rfl [] (List.append_nil _).symm

theorem of_moves {turn after : Turn} (hmoves : Turn.Moves turn after) :
    KeepsUnder key turn.mind after.mind := by
  induction hmoves with
  | refl => exact refl turn.mind
  | tail _ hmove ih => exact ih.trans (of_move hmove)

theorem loadFile (bot : Bot) (disk : Disk) (path : Text) :
    KeepsUnder key bot.mind (bot.loadFile disk path).1.mind := by
  unfold Bot.loadFile
  split
  · exact refl bot.mind
  · exact of_memory_eq rfl _ rfl

end KeepsUnder

/-! ## Histories -/

/-- What may happen to a mind whose memory is not exchanged: a move of some turn, an operation of
the caller, or a save that the caller makes in the memory directly. -/
inductive Event (mind : Mind) : Mind → Prop
  | move {turn after : Turn} (hmind : turn.mind = mind) (hmove : turn.Move after) :
    Event mind after.mind
  | perform {bot : Bot} (hmind : bot.mind = mind) (operation : Bot.Operation)
    (hkeeps : ∀ collaborators memory, operation = .equip collaborators memory →
      memory = mind.memory) :
    Event mind (bot.perform operation).mind
  | save (key content : Text) (tags : List Text) : Event mind (mind.save key content tags)

def Becomes : Mind → Mind → Prop :=
  Relation.ReflTransGen Event

theorem KeepsUnder.of_event {key : Text} {before after : Mind} (hevent : before.Event after) :
    KeepsUnder key before after := by
  cases hevent with
  | move hmind hmove =>
    subst hmind
    exact of_move hmove
  | save other content tags => exact save before other content tags
  | @perform bot hmind operation hkeeps =>
    subst hmind
    cases operation with
    | load source script => exact of_memory_eq rfl _ rfl
    | loadFile disk path => exact loadFile bot disk path
    | loadDirectory disk directory =>
      exact Bot.loadDirectory_induction
        (motive := fun loaded => KeepsUnder key bot.mind loaded.mind) (refl bot.mind) disk directory
        fun loaded path hloaded => hloaded.trans (loadFile loaded disk path)
    | answer user message => exact of_moves (Turn.makes_reply message (bot.turnFor user))
    | equip collaborators memory =>
      exact of_memory_eq (hkeeps collaborators memory rfl) [] (List.append_nil _).symm
    | _ => exact of_memory_eq rfl [] (List.append_nil _).symm

theorem Becomes.keepsUnder {before after : Mind} (hbecomes : before.Becomes after) (key : Text) :
    KeepsUnder key before after := by
  induction hbecomes with
  | refl => exact .refl before
  | tail _ hevent ih => exact ih.trans (.of_event hevent)

/-- What is held under a key is held there until something is saved under it. -/
theorem Becomes.contentAt?_eq
    {key : Text} {before after : Mind} (hbecomes : before.Becomes after)
    (hsaves : ∀ request ∈ after.requests.drop before.requests.length,
      request.savedKey? ≠ some key) :
    after.contentAt? key = before.contentAt? key := by
  obtain ⟨asked, hasked, hkept⟩ := hbecomes.keepsUnder key
  rw [hasked, List.drop_left] at hsaves
  exact hkept hsaves

end Mind

namespace Turn

/-! ## Asking the source -/

theorem exists_run_translate
    (translator : Option (Text → Language → Text)) (text : Text) (target : Language)
    (turn : Turn) :
    ∃ translated requests, (translate translator text target).run turn =
      (translated, { turn with mind := { turn.mind with requests } }) := by
  cases translator with
  | none => exact ⟨_, _, rfl⟩
  | some translate => exact ⟨_, _, rfl⟩

theorem memory_askMemory (message : Text) (stars : List Text) (turn : Turn) :
    ((askMemory message stars).run turn).2.mind.memory = turn.mind.memory := by
  rw [askMemory, run_get_bind]
  dsimp only
  split <;> rfl

/-- What the source answers is held under the message. -/
theorem contentAt?_of_askSource
    {source : KnowledgeSource} {message answer : Text} {turn answered : Turn}
    (hmemory : turn.mind.memory.isSome)
    (hrun : (askSource source message).run turn = (some answer, answered)) :
    answered.mind.contentAt? message = some answer := by
  rw [askSource, run_get_bind] at hrun
  dsimp only at hrun
  generalize (if turn.language = source.language then none else turn.mind.collaborators.translate) =
    translator at hrun
  obtain ⟨question, requests, hquestion⟩ :=
    exists_run_translate translator message source.language turn
  rw [run_bind, hquestion, run_bind] at hrun
  split at hrun
  · cases hrun
  · rename_i given hgiven
    rw [run_bind] at hrun
    generalize hasked : ((modifyMind fun mind => mind.request (.answer question)).run
      { turn with mind := { turn.mind with requests } }).2 = asked at hrun
    obtain ⟨translated, requests, htranslated⟩ :=
      exists_run_translate translator given turn.language asked
    rw [htranslated, run_bind] at hrun
    cases hrun
    apply Mind.contentAt?_save_self
    rw [← hasked]
    exact hmemory

theorem contentAt?_of_searchKnowledge
    {message answer : Text} {stars : List Text} {turn answered : Turn}
    (hmemory : turn.mind.memory.isSome) (hmissed : ((askMemory message stars).run turn).1 = none)
    (hrun : (searchKnowledge message stars).run turn = (some answer, answered)) :
    answered.mind.contentAt? message = some answer := by
  have hasked := memory_askMemory message stars turn
  rw [searchKnowledge, run_bind, hmissed] at hrun
  generalize ((askMemory message stars).run turn).2 = asked at hrun hasked
  dsimp only at hrun
  rw [run_get_bind] at hrun
  split at hrun
  · cases hrun
  · exact contentAt?_of_askSource (by rw [hasked]; exact hmemory) hrun

section Held

variable {message answer : Text} {turn : Turn}

theorem run_askMemory_of_contentAt?
    (hcontent : turn.mind.contentAt? message = some answer) (hsome : answer ≠ [])
    (stars : List Text) :
    (askMemory message stars).run turn =
      (some answer,
        { turn with mind := turn.mind.request (.find message stars (some answer)) }) := by
  obtain ⟨memory, hmemory, hheld⟩ := Option.bind_eq_some_iff.mp hcontent
  have hfound : memory.find? message stars = some answer :=
    Memory.find?_of_contentAt? hheld hsome stars
  have hkept : (some answer).filter (fun found => !found.isEmpty) = some answer := by
    simp [Option.filter, hsome]
  rw [askMemory, run_get_bind]
  dsimp only
  rw [hmemory]
  dsimp only [Mind.find]
  rw [hfound, run_bind, hkept]
  rfl

/-- What is held under the message is found there, and nothing else is requested. -/
theorem run_searchKnowledge_of_contentAt?
    (hcontent : turn.mind.contentAt? message = some answer) (hsome : answer ≠ [])
    (stars : List Text) :
    (searchKnowledge message stars).run turn =
      (some answer,
        { turn with mind := turn.mind.request (.find message stars (some answer)) }) := by
  rw [searchKnowledge, run_bind, run_askMemory_of_contentAt? hcontent hsome stars]
  rfl

end Held

/-! ## Steps that search -/

/-- The front of a step: what is selected for the message, when it has been noted. -/
def enter (step : Nat) (opening : Bool) (message : Text) : TurnM (Option Selection) := do
  let snapshot := (← get).mind.live
  let topic ← currentTopic snapshot
  let topic := if opening then Script.beginTopic else topic
  let selection ← select snapshot topic message step
  note ⟨step, opening⟩ topic message selection
  pure selection

theorem run_enter (step : Nat) (opening : Bool) (message : Text) (turn : Turn) :
    let session := turn.mind.live.settle turn.session
    let topic := if opening then Script.beginTopic else session.topic
    let found := (select turn.mind.live topic message step).run { turn with session }
    (enter step opening message).run turn =
      (found.1, ((note ⟨step, opening⟩ topic message found.1).run found.2).2) := by
  rw [enter, run_get_bind]
  dsimp only
  rw [run_bind, run_currentTopic]
  rfl

/-- Entering a step only keeps more matchers in the mind. -/
theorem exists_mind_enter (step : Nat) (opening : Bool) (message : Text) (turn : Turn) :
    ∃ cache, ((enter step opening message).run turn).2.mind = { turn.mind with cache } := by
  rw [run_enter]
  exact ⟨_, rfl⟩

theorem run_resolve_of_enter
    {turn : Turn} {step : Nat} {opening : Bool} {message : Text} {selection : Selection}
    (hdepth : ¬ turn.mind.live.persona.depth.toNat < step)
    (hselected : ((enter step opening message).run turn).1 = some selection) :
    (resolve step opening message).run turn =
      (answerSelected (resolve (step + 1)) (resolve (step + 2) false) ⟨step, opening⟩ message
        selection).run ((enter step opening message).run turn).2 := by
  rw [run_resolve_of_not_lt opening message hdepth, answerStep]
  rw [run_enter] at hselected ⊢
  dsimp only at hselected ⊢
  rw [run_bind, run_bind, hselected]

/-- A step within the depth of the persona selects a trigger that searches what is known, for it
does not learn. -/
structure Searches (turn : Turn) (step : Nat) (opening : Bool) (message : Text)
    (selection : Selection) : Prop where
  within : ¬ turn.mind.live.persona.depth.toNat < step
  selected : ((enter step opening message).run turn).1 = some selection
  persistent : selection.trigger.learns = false
  searches : selection.trigger.searches ≠ []

namespace Searches

variable {turn : Turn} {step : Nat} {opening : Bool} {message : Text} {selection : Selection}

theorem run_resolve
    (hsearches : turn.Searches step opening message selection) {known : Text} {after : Turn}
    (hknown : (searchKnowledge message selection.stars.message).run
      ((enter step opening message).run turn).2 = (some known, after)) :
    (resolve step opening message).run turn = (known, after) := by
  obtain ⟨hdepth, hselected, hpersistent, hsearches⟩ := hsearches
  rw [run_resolve_of_enter hdepth hselected, answerSelected]
  dsimp only
  rw [hpersistent, if_neg Bool.false_ne_true, List.isEmpty_eq_false_iff.mpr hsearches,
    if_neg Bool.false_ne_true, run_bind, hknown]
  rfl

/-- A step that finds the answer under its message makes no other request. -/
theorem run_resolve_of_contentAt?
    (hsearches : turn.Searches step opening message selection) {answer : Text}
    (hcontent : turn.mind.contentAt? message = some answer) (hsome : answer ≠ []) :
    ∃ after, (resolve step opening message).run turn = (answer, after) ∧
      after.mind.requests =
        turn.mind.requests ++ [.find message selection.stars.message (some answer)] ∧
      after.mind.memory = turn.mind.memory := by
  obtain ⟨cache, hentered⟩ := exists_mind_enter step opening message turn
  have hheld : ((enter step opening message).run turn).2.mind.contentAt? message = some answer := by
    rw [hentered]
    exact hcontent
  refine ⟨_, hsearches.run_resolve
    (run_searchKnowledge_of_contentAt? hheld hsome selection.stars.message), ?_, ?_⟩
  · dsimp only [Mind.request]
    rw [hentered]
  · dsimp only [Mind.request]
    rw [hentered]

end Searches

/-- What a step that searches got from the source of knowledge, since the memory had nothing for the
message, is the answer of every later step that searches for the same message, as long as nothing
else is saved under it.  The later step only asks the memory. -/
theorem knowledge_answer_is_remembered
    {asking answered recalling : Turn} {step later : Nat} {opening reopening : Bool}
    {message answer : Text} {selection reselection : Selection}
    (hasking : asking.Searches step opening message selection)
    (hmemory : asking.mind.memory.isSome)
    (hmissed : ((askMemory message selection.stars.message).run
      ((enter step opening message).run asking).2).1 = none)
    (hanswered : (searchKnowledge message selection.stars.message).run
      ((enter step opening message).run asking).2 = (some answer, answered))
    (hsome : answer ≠ []) (hbecomes : answered.mind.Becomes recalling.mind)
    (hsaves : ∀ request ∈ recalling.mind.requests.drop answered.mind.requests.length,
      request.savedKey? ≠ some message)
    (hrecalling : recalling.Searches later reopening message reselection) :
    (resolve step opening message).run asking = (answer, answered) ∧
      ∃ after, (resolve later reopening message).run recalling = (answer, after) ∧
        after.mind.requests =
          recalling.mind.requests ++ [.find message reselection.stars.message (some answer)] ∧
        after.mind.memory = recalling.mind.memory := by
  obtain ⟨cache, hentered⟩ := exists_mind_enter step opening message asking
  have hequipped : ((enter step opening message).run asking).2.mind.memory.isSome := by
    rw [hentered]
    exact hmemory
  have hsaved : answered.mind.contentAt? message = some answer :=
    contentAt?_of_searchKnowledge hequipped hmissed hanswered
  have hheld : recalling.mind.contentAt? message = some answer := by
    rw [hbecomes.contentAt?_eq hsaves, hsaved]
  exact ⟨hasking.run_resolve hanswered, hrecalling.run_resolve_of_contentAt? hheld hsome⟩

/-- A user who speaks the language of the source gets the answer that was translated for another
user, although the source has answered another question in the meantime. -/
theorem translated_answer_is_remembered :
    let source : KnowledgeSource :=
      { language := Language.ofText "spanish".toList
        answer? := fun question => some ("answer to ".toList ++ question) }
    let collaborators : Collaborators :=
      { knowledge := some source
        translate := some fun text target => text ++ " into ".toList ++ target.tag }
    let bot := ((Bot.ofScript "+ what is *\n& search\n- no idea".toList).perform
      (.equip collaborators (some Memory.empty))).setUserVariable ['v'] languageName
        (some "Spanish".toList)
    let message := "what is rust".toList
    let answer := "answer to what is rust into spanish into english".toList
    ∃ answered, (resolve 0 false message).run (bot.turnFor ['u']) = (answer, answered) ∧
      let recalling := (Bot.perform { bot with mind := answered.mind }
        (.answer ['w'] "what is go".toList)).turnFor ['v']
      recalling.language = source.language ∧
        ∃ after, (resolve 0 false message).run recalling = (answer, after) ∧
          after.mind.requests =
            recalling.mind.requests ++ [.find message ["rust".toList] (some answer)] ∧
          after.mind.memory = recalling.mind.memory := by
  intro source collaborators bot message answer
  let entered := (enter 0 false message).run (bot.turnFor ['u'])
  let selection := entered.1.get (by decide +kernel)
  let found := (searchKnowledge message selection.stars.message).run entered.2
  let between : Bot := { bot with mind := found.2.mind }
  let recalling := (between.perform (.answer ['w'] "what is go".toList)).turnFor ['v']
  let reselection := ((enter 0 false message).run recalling).1.get (by decide +kernel)
  have hasking : (bot.turnFor ['u']).Searches 0 false message selection :=
    ⟨Nat.not_lt_zero _, (Option.some_get _).symm, by decide +kernel, by decide +kernel⟩
  have hmissed : ((askMemory message selection.stars.message).run entered.2).1 = none := by
    decide +kernel
  have hanswered : found = (some answer, found.2) := Prod.ext (by decide +kernel) rfl
  have hmind : between.mind = found.2.mind := rfl
  have hbecomes : found.2.mind.Becomes recalling.mind :=
    .single (.perform hmind (.answer ['w'] "what is go".toList) (by rintro _ _ ⟨⟩))
  have hsaves : ∀ request ∈ recalling.mind.requests.drop found.2.mind.requests.length,
      request.savedKey? ≠ some message := by
    decide +kernel
  have hrecalling : recalling.Searches 0 false message reselection :=
    ⟨Nat.not_lt_zero _, (Option.some_get _).symm, by decide +kernel, by decide +kernel⟩
  have hstars : reselection.stars.message = ["rust".toList] := by decide +kernel
  obtain ⟨hrun, hrecalled⟩ := knowledge_answer_is_remembered hasking rfl hmissed hanswered
    (by decide) hbecomes hsaves hrecalling
  rw [hstars] at hrecalled
  exact ⟨found.2, hrun, by decide +kernel, hrecalled⟩

end Turn

end DialogueScript

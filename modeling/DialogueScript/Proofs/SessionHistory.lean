import DialogueScript.Proofs.LikeTurns
import DialogueScript.Proofs.TurnRelations

/-!
# What a session remembers

While a turn finds its reply, it does no more to the session than to set variables; when it is done,
it records the message with the reply.  So whatever is done to a session, it stays in some topic,
and its two histories hold the latest recorded pairs, as many as the session may remember.
-/

namespace DialogueScript

namespace Table

variable {α : Type}

theorem contains_insert_self (table : Table α) (key : Text) (value : α) :
    (table.insert key value).contains key := by
  rw [contains, get?_insert_self]
  rfl

theorem contains_insert_of_contains
    {table : Table α} {key : Text} (hkey : table.contains key) (other : Text) (value : α) :
    (table.insert other value).contains key := by
  by_cases hother : key = other
  · subst hother
    exact table.contains_insert_self key value
  · rw [contains, get?_insert_of_ne _ _ hother]
    exact hkey

theorem contains_erase_of_ne
    {table : Table α} {key : Text} (hkey : table.contains key) {other : Text} (hne : key ≠ other) :
    (table.erase other).contains key := by
  rw [contains, get?_erase_of_ne _ hne]
  exact hkey

end Table

namespace Session

/-! ## Within a turn -/

/-- Variables may have been set, and that is all. -/
structure Sets (before after : Session) : Prop where
  inputs_eq : after.inputs = before.inputs
  replies_eq : after.replies = before.replies
  historySize_eq : after.historySize = before.historySize
  topic : before.values.contains topicName → after.values.contains topicName

namespace Sets

variable {before middle after : Session}

theorem refl (session : Session) : Sets session session :=
  ⟨rfl, rfl, rfl, fun htopic => htopic⟩

theorem trans (hfirst : Sets before middle) (hsecond : Sets middle after) : Sets before after :=
  ⟨hsecond.inputs_eq.trans hfirst.inputs_eq, hsecond.replies_eq.trans hfirst.replies_eq,
    hsecond.historySize_eq.trans hfirst.historySize_eq, hsecond.topic ∘ hfirst.topic⟩

theorem set (session : Session) (name value : Text) : Sets session (session.set name value) :=
  ⟨rfl, rfl, rfl, fun htopic => Table.contains_insert_of_contains htopic name value⟩

end Sets

end Session

namespace Turn

/-- Of all that a turn does for its reply, only setting variables reaches the session. -/
theorem closedFrom_sets : ClosedFrom 0 fun _ turn after => turn.session.Sets after.session where
  refl turn := .refl turn.session
  trans := Session.Sets.trans
  assign name value turn := .set turn.session name value
  choose _ _ turn := .refl turn.session
  request _ turn _ := .refl turn.session
  code _ turn := .refl turn.session
  count turn := .refl turn.session
  leave turn := .set turn.session Session.topicName defaultTopic
  keep _ turn := .refl turn.session
  note _ _ _ _ turn _ _ := .set turn.session lastMatchName _
  save _ _ _ turn := .refl turn.session
  learn _ turn := .refl turn.session

theorem sets_answer (message : Text) (turn : Turn) :
    turn.session.Sets ((answer message).run turn).2.session := by
  rw [answer_eq_answerOr]
  refine closedFrom_sets.answerOr (fun turn => ?_) message turn
  exact .refl turn.session

end Turn

namespace Session

/-! ## One operation -/

/-- What may be done to a session: a whole turn is one of the operations. -/
inductive Operation where
  | set (name value : Text)
  | delete (name : Text)
  | replaceVariables (values : Table Text)
  | setTopic (topic : Text)
  | push (input reply : Text)
  | turn (mind : Mind) (message : Text)

def Operation.records : Operation → Bool
  | .push .. | .turn .. => true
  | _ => false

def perform (session : Session) : Operation → Session
  | .set name value => session.set name value
  | .delete name => session.delete name
  | .replaceVariables values => session.replaceVariables values
  | .setTopic topic => session.setTopic topic
  | .push input reply => session.push input reply
  | .turn mind message => ((Turn.reply message).run { mind, session }).2.session

/-- The message and the reply that an operation records. -/
def recorded? (session : Session) : Operation → Option (Text × Text)
  | .push input reply => some (input, reply)
  | .turn mind message =>
    some (mind.live.persona.normalize message, ((Turn.reply message).run { mind, session }).1)
  | _ => none

theorem isSome_recorded? (session : Session) (operation : Operation) :
    (session.recorded? operation).isSome = operation.records := by
  cases operation <;> rfl

/-- The session is in a topic, and remembers the first of some pairs, as many as it may. -/
structure Remembers (session : Session) (size : Nat) (pairs : List (Text × Text)) : Prop where
  topic : session.values.contains topicName
  historySize_eq : session.historySize = size
  inputs_eq : session.inputs = (pairs.map (·.1)).take size
  replies_eq : session.replies = (pairs.map (·.2)).take size

namespace Remembers

variable {session after : Session} {size : Nat} {pairs : List (Text × Text)}

theorem new (id : Text) (size : Nat) : (Session.new id size).Remembers size [] :=
  ⟨Table.contains_insert_self _ _ _, rfl, List.take_nil.symm, List.take_nil.symm⟩

theorem sets (hsession : session.Remembers size pairs) (hsets : session.Sets after) :
    after.Remembers size pairs :=
  ⟨hsets.topic hsession.topic, hsets.historySize_eq.trans hsession.historySize_eq,
    hsets.inputs_eq.trans hsession.inputs_eq, hsets.replies_eq.trans hsession.replies_eq⟩

theorem push (hsession : session.Remembers size pairs) (input reply : Text) :
    (session.push input reply).Remembers size ((input, reply) :: pairs) := by
  have hcons : ∀ (text : Text) (texts : List Text),
      (text :: texts.take size).take size = (text :: texts).take size := by
    intro text texts
    cases size with
    | zero => rfl
    | succ size =>
      rw [List.take_succ_cons, List.take_succ_cons, List.take_take,
        Nat.min_eq_left (Nat.le_succ size)]
  obtain ⟨htopic, rfl, hinputs, hreplies⟩ := hsession
  refine ⟨htopic, rfl, ?_, ?_⟩
  · rw [List.map_cons, ← hcons, ← hinputs]
    rfl
  · rw [List.map_cons, ← hcons, ← hreplies]
    rfl

theorem delete (hsession : session.Remembers size pairs) (name : Text) :
    (session.delete name).Remembers size pairs := by
  unfold Session.delete
  split
  · exact hsession.sets (.set session topicName defaultTopic)
  · rename_i hname
    exact { hsession with topic := Table.contains_erase_of_ne hsession.topic (Ne.symm hname) }

theorem replaceVariables (hsession : session.Remembers size pairs) (values : Table Text) :
    (session.replaceVariables values).Remembers size pairs := by
  refine { hsession with topic := ?_ }
  unfold Session.replaceVariables
  dsimp only
  split
  · assumption
  · exact values.contains_insert_self topicName defaultTopic

theorem perform (hsession : session.Remembers size pairs) (operation : Operation) :
    (session.perform operation).Remembers size
      ((session.recorded? operation).toList ++ pairs) := by
  cases operation with
  | set name value => exact hsession.sets (.set session name value)
  | delete name => exact hsession.delete name
  | replaceVariables values => exact hsession.replaceVariables values
  | setTopic topic => exact hsession.sets (.set session topicName topic)
  | push input reply => exact hsession.push input reply
  | turn mind message =>
    have hanswered := hsession.sets
      (Turn.sets_answer (mind.live.persona.normalize message) { mind, session })
    exact hanswered.push _ _

end Remembers

/-! ## Runs of operations -/

def run (session : Session) (operations : List Operation) : Session :=
  operations.foldl perform session

/-- The pairs that a run records, the latest last. -/
def recorded (session : Session) : List Operation → List (Text × Text)
  | [] => []
  | operation :: operations =>
    (session.recorded? operation).toList ++ (session.perform operation).recorded operations

theorem length_recorded (session : Session) (operations : List Operation) :
    (session.recorded operations).length = operations.countP (·.records) := by
  induction operations generalizing session with
  | nil => rfl
  | cons operation operations ih =>
    rw [recorded, List.length_append, ih, List.countP_cons, ← session.isSome_recorded? operation]
    cases session.recorded? operation with
    | none => exact Nat.zero_add _
    | some pair => exact Nat.add_comm 1 _

theorem Remembers.run
    {session : Session} {size : Nat} {pairs : List (Text × Text)}
    (hsession : session.Remembers size pairs) (operations : List Operation) :
    (session.run operations).Remembers size ((session.recorded operations).reverse ++ pairs) := by
  induction operations generalizing session pairs with
  | nil => exact hsession
  | cons operation operations ih =>
    have hrest := ih (hsession.perform operation)
    rw [recorded, List.reverse_append, List.append_assoc]
    cases hrecorded : session.recorded? operation with
    | none =>
      rw [hrecorded] at hrest
      exact hrest
    | some pair =>
      rw [hrecorded] at hrest
      exact hrest

/-! ## Reading the histories -/

theorem entry_take_map
    (f : Text × Text → Text) (pairs : List (Text × Text)) (size index : Nat) :
    entry ((pairs.map f).take size) index =
      if 1 ≤ index ∧ index ≤ size then ((pairs[index - 1]?).map f).getD undefined
      else undefined := by
  cases index with
  | zero => rfl
  | succ index =>
    rw [entry, List.getElem?_take, List.getElem?_map, Nat.succ_sub_one]
    by_cases hindex : index < size
    · rw [if_pos hindex, if_pos ⟨Nat.le_add_left 1 index, hindex⟩]
    · rw [if_neg hindex, if_neg fun hwithin => hindex hwithin.2]
      rfl

/-- The entries that are read are those of the remembered pairs; all others are undefined. -/
theorem Remembers.entries
    {session : Session} {size : Nat} {pairs : List (Text × Text)}
    (hsession : session.Remembers size pairs) (index : Nat) :
    if 1 ≤ index ∧ index ≤ min pairs.length size then
      pairs[index - 1]? = some (session.input index, session.reply index)
    else session.input index = undefined ∧ session.reply index = undefined := by
  rw [input, reply, hsession.inputs_eq, hsession.replies_eq, entry_take_map, entry_take_map]
  by_cases hindex : 1 ≤ index ∧ index ≤ size
  · rw [if_pos hindex, if_pos hindex]
    by_cases hlength : index ≤ pairs.length
    · have hlt : index - 1 < pairs.length := by omega
      rw [if_pos ⟨hindex.1, Nat.le_min.mpr ⟨hlength, hindex.2⟩⟩, List.getElem?_eq_getElem hlt]
      rfl
    · have hge : pairs.length ≤ index - 1 := by omega
      rw [if_neg fun hwithin => hlength (Nat.le_min.mp hwithin.2).1, List.getElem?_eq_none hge]
      exact ⟨rfl, rfl⟩
  · rw [if_neg hindex, if_neg hindex, if_neg]
    · exact ⟨rfl, rfl⟩
    · exact fun hwithin => hindex ⟨hwithin.1, (Nat.le_min.mp hwithin.2).2⟩

/-- Whatever is done to a session, it is in a topic, and both histories hold the pairs that were
recorded last, as many as there are or as it may remember.  The entries are numbered from the latest
one, and those beyond are undefined.  A turn of a bot is one of these operations: it records
the normalized message with the reply that the caller gets. -/
theorem histories_hold_latest_pairs (id : Text) (size : Nat) (operations : List Operation) :
    let session := (new id size).run operations
    let latest := ((new id size).recorded operations).reverse
    let finished := operations.countP (·.records)
    session.values.contains topicName ∧ latest.length = finished ∧
      session.inputs.length = min finished size ∧ session.replies.length = min finished size ∧
      (∀ index, if 1 ≤ index ∧ index ≤ min finished size then
          latest[index - 1]? = some (session.input index, session.reply index)
        else session.input index = undefined ∧ session.reply index = undefined) ∧
      ∀ (bot : Bot) (user message : Text),
        let turn := Operation.turn bot.mind message
        let (after, answer) := bot.answer user message
        after.session? user = some ((bot.session user).perform turn) ∧
          (bot.session user).recorded? turn =
            some (bot.mind.live.persona.normalize message, answer.reply) := by
  intro session latest finished
  have hremembers : session.Remembers size latest := by
    have hrun := (Remembers.new id size).run operations
    rwa [List.append_nil] at hrun
  have hlength : latest.length = finished := by
    rw [List.length_reverse, length_recorded]
  refine ⟨hremembers.topic, hlength, ?_, ?_, ?_, ?_⟩
  · rw [hremembers.inputs_eq, List.length_take, List.length_map, hlength, Nat.min_comm]
  · rw [hremembers.replies_eq, List.length_take, List.length_map, hlength, Nat.min_comm]
  · rw [← hlength]
    exact hremembers.entries
  · intro bot user message
    exact ⟨bot.session?_answer_self user message, rfl⟩

end Session

end DialogueScript

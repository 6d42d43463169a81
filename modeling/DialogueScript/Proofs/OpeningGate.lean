import DialogueScript.Proofs.LikeTurns
import DialogueScript.Proofs.SelectionScope
import DialogueScript.Proofs.TopicEdits

/-!
# An opening that lets everything through

A block may open every turn with a reply that is to be replaced by the reply to the message, and
with nothing else.  It takes no part in how that reply is found.  But the reply, whose tags have
been expanded, is then expanded a second time; so the block goes unnoticed as long as the replies
have nothing left to expand.
-/

namespace DialogueScript

open Script (beginTopic)
open Turn (lastMatchName okMark requestMessage)

/-- A block that opens every turn with the mark that the reply to the message replaces. -/
def openingGate : Text := "> begin\n+ request\n- \x7bok\x7d\n< begin\n".toList

def gateTrigger : Trigger :=
  { topic := beginTopic, key := ⟨requestMessage, none⟩, replies := [okMark] }

def gateTopic : Topic :=
  { name := beginTopic, triggers := [gateTrigger] }

theorem Text.replaceAll_self {mark : Text} (hmark : mark ≠ []) (new : Text) :
    replaceAll mark new mark = new := by
  have hread : literal? mark (mark ++ []) = some ((), []) := by
    rw [literal?, strip?_append]
    rfl
  have hpieces := pieces_of_read hmark hread
  rw [List.append_nil] at hpieces
  rw [replaceAll, replaceTags, hpieces]
  simp [pieces, piecesAfter]

theorem flatMap_filter_of_eq_nil
    {α β : Type} {kept : α → Bool} {f : α → List β} {items : List α}
    (hnil : ∀ a ∈ items, kept a = false → f a = []) :
    (items.filter kept).flatMap f = items.flatMap f := by
  induction items with
  | nil => rfl
  | cons item items ih =>
    have ih := ih fun a ha => hnil a (List.mem_cons_of_mem _ ha)
    cases hkept : kept item with
    | true => rw [List.filter_cons_of_pos hkept, List.flatMap_cons, List.flatMap_cons, ih]
    | false =>
      have hdropped : ¬ kept item = true := by simp [hkept]
      rw [List.filter_cons_of_neg hdropped, List.flatMap_cons, hnil item List.mem_cons_self hkept,
        ih, List.nil_append]

/-! ## Reading the block -/

namespace Graph

theorem modifyTopic_of_topic?_eq_none
    {graph : Graph} {name : Text} (hnone : graph.topic? name = none) (f : Topic → Topic) :
    graph.modifyTopic name f = ⟨graph.topics ++ [f { name }]⟩ := by
  simp [modifyTopic, contains, hnone]

theorem modifyTopic_append
    {graph : Graph} {topic : Topic} (hnone : graph.topic? topic.name = none) (f : Topic → Topic) :
    (⟨graph.topics ++ [topic]⟩ : Graph).modifyTopic topic.name f = ⟨graph.topics ++ [f topic]⟩ := by
  have hothers : ∀ other ∈ graph.topics, other.name ≠ topic.name := by
    simpa [topic?] using hnone
  have hsame : (graph.topics.map fun other => if other.name = topic.name then f other else other) =
      graph.topics := by
    rw [List.map_congr_left fun other hother => if_neg (hothers other hother), List.map_id']
  simp [modifyTopic, contains, topic?, hsame]

end Graph

namespace Persona

/-- The persona with the opening block. -/
def gate (persona : Persona) : Persona :=
  { persona with graph := ⟨persona.graph.topics ++ [gateTopic]⟩ }

theorem read_openingGate
    {persona : Persona} (hundeclared : persona.graph.topic? beginTopic = none)
    (collaborators : Collaborators) (source : Text) :
    (Script.read collaborators persona source openingGate).persona = persona.gate := by
  let declared : Topic := Topic.modifyTrigger { name := beginTopic } gateTrigger.key id
  have hread : (Script.read collaborators persona source openingGate).persona =
      { persona with
        graph := ((persona.graph.modifyTopic beginTopic id).modifyTrigger beginTopic
          gateTrigger.key id).modifyTrigger beginTopic gateTrigger.key
            (Script.Part.reply.add okMark) } := rfl
  have hopened : persona.graph.modifyTopic beginTopic id =
      ⟨persona.graph.topics ++ [{ name := beginTopic }]⟩ :=
    Graph.modifyTopic_of_topic?_eq_none hundeclared id
  have hdeclared : (⟨persona.graph.topics ++ [{ name := beginTopic }]⟩ : Graph).modifyTrigger
      beginTopic gateTrigger.key id = ⟨persona.graph.topics ++ [declared]⟩ :=
    Graph.modifyTopic_append hundeclared _
  have hreplying : (⟨persona.graph.topics ++ [declared]⟩ : Graph).modifyTrigger
      beginTopic gateTrigger.key (Script.Part.reply.add okMark) =
        ⟨persona.graph.topics ++ [gateTopic]⟩ :=
    Graph.modifyTopic_append hundeclared _
  rw [hread, hopened, hdeclared, hreplying]
  rfl

/-- No topic opens the turns or leads to one that does, and no pattern reads the last match, which
the opening of a turn changes. -/
structure Ungated (persona : Persona) : Prop where
  undeclared : persona.graph.topic? beginTopic = none
  not_mem_targets : ∀ topic ∈ persona.graph.topics, beginTopic ∉ topic.targets
  not_reads : ∀ entry ∈ persona.publish.compiled.entries,
    Pattern.readsSequence lastMatchName entry.2 = false

theorem Ungated.setVariable
    {persona : Persona} (hungated : persona.Ungated) (name : Text) (value : Option Text) :
    (persona.setVariable name value).Ungated :=
  ⟨hungated.undeclared, hungated.not_mem_targets, hungated.not_reads⟩

/-- The other persona is this one with the opening block, wherever that stands. -/
structure Gates (persona other : Persona) : Prop where
  ungated : persona.Ungated
  without_eq : other.withGraph (other.graph.keep fun name => name ≠ beginTopic) = persona
  gate_eq : other.graph.keep (fun name => name = beginTopic) = ⟨[gateTopic]⟩

theorem Ungated.gates {persona : Persona} (hungated : persona.Ungated) :
    persona.Gates persona.gate := by
  have hothers : ∀ topic ∈ persona.graph.topics, topic.name ≠ beginTopic := by
    simpa [Graph.topic?] using hungated.undeclared
  have hgate : gateTopic.name = beginTopic := rfl
  have hkept : persona.graph.topics.filter (fun topic => !decide (topic.name = beginTopic)) =
      persona.graph.topics := List.filter_eq_self.mpr (by simpa using hothers)
  have hnone : persona.graph.topics.filter (fun topic => topic.name = beginTopic) = [] :=
    List.filter_eq_nil_iff.mpr (by simpa using hothers)
  constructor
  · exact hungated
  · simp [gate, withGraph, Graph.keep, List.filter_append, hgate, hkept]
  · simp [gate, Graph.keep, List.filter_append, hgate, hnone]

namespace Gates

variable {persona other : Persona}

theorem setVariable (hgates : persona.Gates other) (name : Text) (value : Option Text) :
    (persona.setVariable name value).Gates (other.setVariable name value) := by
  obtain ⟨hungated, rfl, hgate⟩ := hgates
  exact ⟨hungated.setVariable name value, rfl, hgate⟩

theorem agreesOff (hgates : persona.Gates other) :
    persona.graph.AgreesOff beginTopic other.graph := by
  obtain ⟨hungated, rfl, -⟩ := hgates
  constructor
  · intro name hname
    exact (Graph.topic?_keep (decide_eq_true hname)).symm
  · intro name topic htopic
    exact hungated.not_mem_targets topic (Graph.topic?_name htopic).1

theorem targets_eq (hgates : persona.Gates other) :
    other.graph.topics.flatMap Topic.targets = persona.graph.topics.flatMap Topic.targets := by
  obtain ⟨-, rfl, hgate⟩ := hgates
  have hedgeless : ∀ topic ∈ other.graph.topics, topic.name = beginTopic → topic.targets = [] := by
    intro topic htopic hname
    have hkept : topic ∈ (other.graph.keep fun name => name = beginTopic).topics :=
      List.mem_filter.mpr ⟨htopic, decide_eq_true hname⟩
    rw [hgate] at hkept
    rw [List.mem_singleton.mp hkept]
    rfl
  refine (flatMap_filter_of_eq_nil fun topic htopic hname => ?_).symm
  exact hedgeless topic htopic (by simpa using hname)

theorem agreesOff_link (hgates : persona.Gates other) :
    persona.graph.link.AgreesOff beginTopic other.graph.link :=
  hgates.agreesOff.link hgates.targets_eq

theorem topic?_gate (hgates : persona.Gates other) :
    other.graph.link.topic? beginTopic = some gateTopic := by
  have hkept : (other.graph.keep fun name => name = beginTopic).topic? beginTopic =
      other.graph.topic? beginTopic := Graph.topic?_keep (decide_eq_true rfl)
  have hfound : other.graph.topic? beginTopic = some gateTopic := by
    rw [← hkept, hgates.gate_eq]
    rfl
  rw [Graph.topic?_link, hfound, Option.some_or]

theorem topic?_link (hgates : persona.Gates other) :
    persona.graph.link.topic? beginTopic = none := by
  have hunnamed : beginTopic ∉ persona.graph.topics.flatMap Topic.targets := by
    rw [List.mem_flatMap]
    rintro ⟨topic, htopic, hmem⟩
    exact hgates.ungated.not_mem_targets topic htopic hmem
  rw [Graph.topic?_link, hgates.ungated.undeclared, if_neg hunnamed]
  rfl

/-- Outside of the topic that opens turns, the block makes no difference to what is selected. -/
theorem selectsAlike (hgates : persona.Gates other) (session : Session) :
    SelectsAlike beginTopic persona other session session where
  definitions_eq := by
    rw [← hgates.without_eq]
    rfl
  graph := hgates.agreesOff_link
  reply_eq := rfl
  match?_eq := fun _ _ _ => rfl

/-- Reading code keeps the block, if without it the code adds no opening. -/
theorem read
    (hgates : persona.Gates other) (collaborators : Collaborators) {source script : Text}
    (hungated : (Script.read collaborators persona source script).persona.Ungated) :
    (Script.read collaborators persona source script).persona.Gates
        (Script.read collaborators other source script).persona ∧
      (Script.read collaborators other source script).requests =
        (Script.read collaborators persona source script).requests := by
  obtain ⟨edits, hread⟩ := Script.exists_edits_read collaborators other source script
  obtain ⟨-, rfl, hgate⟩ := hgates
  let without := other.graph.keep fun name => name ≠ beginTopic
  have hplain : Script.read collaborators (other.withGraph without) source script = _ :=
    hread without
  have hother : Script.read collaborators other source script = _ := hread other.graph
  rw [hplain] at hungated
  have hkept : ∀ edit ∈ edits, edit.name ≠ beginTopic := by
    intro edit hedit hname
    have hdeclared : ((without.edit edits).topic? beginTopic).isSome :=
      Graph.isSome_topic?_edit (.inr ⟨edit, hedit, hname⟩)
    have hundeclared : (without.edit edits).topic? beginTopic = none := hungated.undeclared
    rw [hundeclared] at hdeclared
    cases hdeclared
  have hgraph : (Script.read collaborators other source script).persona.graph =
      other.graph.edit edits := congrArg (fun reading => reading.persona.graph) hother
  refine ⟨⟨?_, ?_, ?_⟩, ?_⟩
  · rw [hplain]
    exact hungated
  · rw [hplain, hgraph, Graph.keep_edit fun edit hedit => decide_eq_true (hkept edit hedit)]
  · rw [hgraph, Graph.keep_edit_of_not_kept fun edit hedit => decide_eq_false (hkept edit hedit),
      hgate]
  · rw [hplain]

end Gates

end Persona

/-! ## Opening a turn -/

/-- A literal matches its own text, and takes no stars. -/
theorem Pattern.matchSegments?_literal (scope : Scope) (word : Text) :
    matchSegments? scope [.literal word] word = some [] := by
  have hend : Marks.here ((Marks.atEnd word).drop word.length) = true := by
    simp [Marks.atEnd, Marks.here]
  have hleads : leads word (Marks.atEnd word) word = true := by
    simp [leads, hend]
  have hdeep : tooDeep scope [.literal word] = false := rfl
  have hway : wordWay? [word] word (Marks.atEnd word) = some { taken := word.length } := by
    simp [wordWay?, hleads]
  simp [matchSegments?, hdeep, sequenceWay?, way?, words, beforeSequence, hway, hend, Way.andThen]

namespace Persona.Gates

variable {persona other : Persona}

theorem order_gate (hgates : persona.Gates other) :
    other.publish.order beginTopic = [requestMessage] := by
  have hvisits : other.graph.link.visits beginTopic = [.gather gateTopic none] :=
    Graph.explore_of_topic?_eq_some List.not_mem_nil hgates.topic?_gate 0 false
  rw [order_publish, Graph.order, Graph.candidates, hvisits]
  decide

theorem match?_gate (hgates : persona.Gates other) (session : Session) :
    other.publish.match? session requestMessage requestMessage = some [] := by
  have htries : other.publish.Tries requestMessage := by
    refine .inl ⟨beginTopic, ?_⟩
    rw [hgates.order_gate]
    exact List.mem_singleton_self _
  have hparse : Pattern.parse requestMessage = [.literal requestMessage] := by decide +kernel
  rw [Snapshot.match?, Snapshot.compiled_publish htries, hparse, Option.bind_some,
    Pattern.matchSegments?_literal]

/-- The opening is answered by the trigger of the block, whoever the user is. -/
theorem select?_gate (hgates : persona.Gates other) (session : Session) :
    other.publish.select? session beginTopic requestMessage 0 =
      some { trigger := gateTrigger, pattern := requestMessage, stars := {}, viaPrevious := false } := by
  have htopic : other.publish.persona.graph.topic? beginTopic = some gateTopic :=
    hgates.topic?_gate
  have hfamily : other.publish.persona.graph.family beginTopic = [beginTopic] := by
    have htargets : gateTopic.targets = [] := rfl
    rw [Graph.family, Graph.discover_of_topic?_eq_some List.not_mem_nil htopic, htargets,
      List.append_nil, Graph.discover]
  have hprevious : other.publish.selectByPrevious? session beginTopic requestMessage = none := by
    have hindex : gateTopic.previousIndex = [] := rfl
    simp [Snapshot.selectByPrevious?, hfamily, htopic, Snapshot.selectPaired?, hindex]
  have howner : other.publish.ownerOf? beginTopic requestMessage = some gateTrigger := by
    rw [Snapshot.ownerOf?, htopic]
    rfl
  simp [Snapshot.select?, hprevious, Snapshot.selectByOrder?, hgates.order_gate,
    hgates.match?_gate, howner]

end Persona.Gates

namespace Turn

/-- The opening leaves the mark, and of the session it changes the last match only. -/
theorem run_resolve_of_gate
    {persona other : Persona} (hgates : persona.Gates other) {turn : Turn}
    (hlive : turn.mind.live = other.publish) :
    ∃ cache random trace, (resolve 0 true requestMessage).run turn =
      (okMark,
        { mind := { turn.mind with cache, random }
          session := (turn.mind.live.settle turn.session).set lastMatchName requestMessage
          trace }) := by
  let selection : Selection :=
    { trigger := gateTrigger, pattern := requestMessage, stars := {}, viaPrevious := false }
  let settled : Turn := { turn with session := turn.mind.live.settle turn.session }
  obtain ⟨cache, hselect⟩ := exists_run_select turn.mind.live beginTopic requestMessage 0 settled
  have hselected : turn.mind.live.select? settled.session beginTopic requestMessage 0 =
      some selection := by
    rw [hlive]
    exact hgates.select?_gate _
  rw [hselected] at hselect
  let noted : Turn := ((note ⟨0, true⟩ beginTopic requestMessage (some selection)).run
    { settled with mind := { settled.mind with cache } }).2
  obtain ⟨random, hchoose⟩ : ∃ random, (chooseAnswer gateTrigger).run noted =
      (some (.reply okMark), { noted with
        mind := { noted.mind with random }
        trace := { noted.trace with choices := noted.trace.choices ++ [1] } }) :=
    run_chooseAnswer_of_single rfl noted
  refine ⟨cache, random, { noted.trace with choices := noted.trace.choices ++ [1] }, ?_⟩
  have hsettle : ∀ turn : Turn, (settle okMark).run turn = (okMark, turn) := fun _ => rfl
  have hstep : ∀ next afterNext topic,
      (answerStep next afterNext turn.mind.live ⟨0, true⟩ topic requestMessage).run settled =
        (answerSelected next afterNext ⟨0, true⟩ requestMessage selection).run noted := by
    intro next afterNext topic
    simp only [answerStep, if_true]
    rw [run_bind, hselect, run_bind]
  rw [run_resolve_of_not_lt true requestMessage (Nat.not_lt_zero _), hstep,
    answerSelected_eq_answerBy _ _ _ _ rfl rfl, answerBy_eq_choose _ _ _ rfl, run_bind, hchoose]
  exact hsettle _

end Turn

/-! ## Turns with and without the opening -/

/-- Code that adds no opening, and nothing by which one would be noticed. -/
def Script.KeepsUngated (script : Text) : Prop :=
  ∀ (collaborators : Collaborators) (persona : Persona), persona.Ungated →
    (read collaborators persona Mind.streamed script).persona.Ungated

/-- A mind without the block and one with it. -/
def Likeness.gated : Likeness where
  admits name := name ≠ beginTopic
  permits := Script.KeepsUngated
  draft := Persona.Gates
  live snapshot snapshot' :=
    ∃ persona other : Persona, persona.Gates other ∧ snapshot = persona.publish ∧
      snapshot' = other.publish
  admits_default := by decide
  setVariable := Persona.Gates.setVariable
  read := by
    intro persona other hgates script hkeeps collaborators
    exact hgates.read collaborators (hkeeps collaborators persona hgates.ungated)
  publish hgates := ⟨_, _, hgates, rfl, rfl⟩
  definitions_eq := by
    rintro _ _ ⟨_, other, ⟨-, rfl, -⟩, rfl, rfl⟩
    rfl
  objects_eq := by
    rintro _ _ ⟨_, other, ⟨-, rfl, -⟩, rfl, rfl⟩
    rfl
  language_eq := by
    rintro _ _ ⟨_, other, ⟨-, rfl, -⟩, rfl, rfl⟩
    rfl
  depth_eq := by
    rintro _ _ ⟨_, other, ⟨-, rfl, -⟩, rfl, rfl⟩
    rfl
  contains_eq := by
    rintro _ _ ⟨persona, other, hgates, rfl, rfl⟩ name hname
    exact congrArg Option.isSome (hgates.agreesOff_link.topic?_eq name hname)
  select?_eq := by
    rintro _ _ ⟨persona, other, hgates, rfl, rfl⟩ name hname session message step
    exact (hgates.selectsAlike session).select?_eq hname message step

/-- A session that has been settled stays so, whatever is set but the topic. -/
theorem Snapshot.settle_set_settle
    (snapshot : Snapshot) (session : Session) {name : Text} (hname : Session.topicName ≠ name)
    (value : Text) :
    snapshot.settle ((snapshot.settle session).set name value) =
      (snapshot.settle session).set name value := by
  have hsettled : (snapshot.persona.graph.contains (snapshot.settle session).topic ||
      (snapshot.settle session).topic = defaultTopic) = true := by
    unfold settle
    split
    · assumption
    · simp
  generalize snapshot.settle session = settled at hsettled ⊢
  rw [settle, Session.topic_set_of_ne settled value hname, if_pos hsettled]

namespace Turn

/-- Once the opening has left the mark, the message is resolved as it would be without it. -/
theorem agreeAt_resolve_of_gate
    {turn turn' : Turn} (halike : Likeness.gated.Alike turn turn') (cache : Cache)
    (random : Random.Stream) (trace : Trace) (message : Text) :
    Likeness.gated.AgreeAt (resolve 0 false message) (resolve 0 false message) turn
      { mind := { turn'.mind with cache, random }
        session := (turn'.mind.live.settle turn'.session).set lastMatchName requestMessage
        trace } := by
  obtain ⟨persona, other, hgates, hlive, hlive'⟩ := halike.live
  let settled : Turn := { turn with session := turn.mind.live.settle turn.session }
  let opened : Turn :=
    { mind := { turn'.mind with cache, random }
      session := (turn'.mind.live.settle turn'.session).set lastMatchName requestMessage
      trace }
  have hsettled : Likeness.gated.Alike settled
      { turn' with session := turn'.mind.live.settle turn'.session } := alike_settle halike
  have hsession : opened.session = settled.session.set lastMatchName requestMessage :=
    congrArg (Session.set · lastMatchName requestMessage) hsettled.session
  have hstays : opened.mind.live.settle opened.session = opened.session :=
    Snapshot.settle_set_settle _ _ (by decide) _
  have htopic : opened.session.topic = settled.session.topic := by
    rw [hsession, Session.topic_set_of_ne _ _ (by decide)]
  have hclosed : false = true → Likeness.gated.admits beginTopic :=
    fun hfalse => absurd hfalse Bool.false_ne_true
  have hselect : opened.mind.live.select? opened.session settled.session.topic message 0 =
      settled.mind.live.select? settled.session settled.session.topic message 0 := by
    have hlive : settled.mind.live = persona.publish := hlive
    have hlive' : opened.mind.live = other.publish := hlive'
    rw [hlive', hlive, hsession]
    exact ((hgates.selectsAlike settled.session).set hgates.ungated.not_reads
      requestMessage).select?_eq hsettled.topic message 0
  -- when the pattern that the message matched is noted, nothing is left of the opening
  have hnoted : ∀ selection, Likeness.gated.Alike
      ((note ⟨0, false⟩ settled.session.topic message selection).run settled).2
      ((note ⟨0, false⟩ settled.session.topic message selection).run opened).2 := by
    intro selection
    have hnoted := alike_note hsettled ⟨0, false⟩ ⟨0, false⟩ settled.session.topic message
      selection
    let pattern := (selection.map (·.pattern)).getD []
    have hlast : opened.session.set lastMatchName pattern =
        settled.session.set lastMatchName pattern := by
      rw [hsession, Session.set_set]
    exact
      { session := hlast
        topic := hnoted.topic
        memory := hnoted.memory
        collaborators := hnoted.collaborators
        requests := hnoted.requests
        draft := hnoted.draft
        live := hnoted.live }
  have hstep := agreeAt_answerStep_of_select (mirrors_resolve (0 + 1))
    (fun message => mirrors_resolve (0 + 2) false message hclosed) 0 0 hclosed
    (if_neg Bool.false_ne_true) hselect hnoted
  unfold Likeness.AgreeAt at hstep ⊢
  rw [run_resolve_of_not_lt false message (Nat.not_lt_zero _),
    run_resolve_of_not_lt false message (Nat.not_lt_zero _), hstays, htopic]
  exact hstep

/-- Without an opening, the first step answers. -/
theorem run_answer_of_closed
    {turn : Turn} (hclosed : turn.persona.graph.contains beginTopic = false) (message : Text) :
    (answer message).run turn = (resolve 0 false message).run turn := by
  rw [answer, run_get_bind, hclosed]
  rfl

/-- With the block, the reply is found as without it, and expanded once more. -/
theorem exists_run_answer_of_gate
    {turn turn' : Turn} (halike : Likeness.gated.Alike turn turn') (message : Text)
    (hcalm : Likeness.gated.Calm ((answer message).run turn).2.trace) :
    ∃ after, Likeness.gated.Alike ((answer message).run turn).2 after ∧
      (answer message).run turn' =
        (expand (resolve 1 false) {} ((answer message).run turn).1).run after := by
  obtain ⟨persona, other, hgates, hlive, hlive'⟩ := halike.live
  have hplain : (answer message).run turn = (resolve 0 false message).run turn := by
    have hclosed : turn.persona.graph.contains beginTopic = false := by
      rw [Turn.persona, hlive]
      exact congrArg Option.isSome hgates.topic?_link
    exact run_answer_of_closed hclosed message
  obtain ⟨cache, random, trace, hopening⟩ := run_resolve_of_gate hgates hlive'
  let opened : Turn :=
    { mind := { turn'.mind with cache, random }
      session := (turn'.mind.live.settle turn'.session).set lastMatchName requestMessage
      trace }
  have hgated : (answer message).run turn' =
      (do
        let reply ← resolve 0 false message
        expand (resolve 1 false) {} reply : TurnM Text).run opened := by
    have hopen : turn'.persona.graph.contains beginTopic = true := by
      rw [Turn.persona, hlive']
      exact congrArg Option.isSome hgates.topic?_gate
    have hmarked : Text.contains okMark okMark = true := by decide
    rw [answer, run_get_bind, hopen, if_pos rfl, run_bind, hopening]
    simp only [hmarked, if_true, Text.replaceAll_self (by decide : okMark ≠ []), pure_bind]
    rfl
  rw [hplain] at hcalm
  have hagree : Likeness.gated.AgreeAt (resolve 0 false message) (resolve 0 false message) turn
      opened := agreeAt_resolve_of_gate halike cache random trace message
  obtain ⟨hreply, hafter⟩ := hagree hcalm
  refine ⟨((resolve 0 false message).run opened).2, ?_, ?_⟩
  · rw [hplain]
    exact hafter
  · rw [hgated, run_bind, hreply, hplain]

theorem run_reply
    {turn after : Turn} {message normalized text : Text}
    (hnormalize : turn.persona.normalize message = normalized)
    (hanswer : (answer normalized).run turn = (text, after)) :
    (reply message).run turn =
      (text, { after with session := after.session.push normalized text }) := by
  rw [answer_eq_answerOr] at hanswer
  rw [reply_eq_replyOr, run_replyOr hnormalize hanswer]

/-- Expanding the text once more has no effect. -/
def Expanded (text : Text) : Prop :=
  ∀ turn, (expand (resolve 1 false) {} text).run turn = (text, turn)

theorem expanded_of_inert {text : Text} (hinert : text.Inert) : Expanded text :=
  run_expand_of_inert hinert (resolve 1 false) {}

end Turn

/-! ## Bots with and without the opening -/

namespace Bot

/-- The bot after it has read the opening block too. -/
def withGate (bot : Bot) : Bot :=
  (bot.stream openingGate).1.sort.1

/-- Where a turn of the user begins. -/
def turnFor (bot : Bot) (user : Text) : Turn :=
  { mind := bot.mind, session := bot.session user }

/-- The second bot is the first one with the opening block, at the same place of all
conversations. -/
structure GatedAlike (bot other : Bot) : Prop where
  sessions_eq : other.sessions = bot.sessions
  alike : ∀ user, Likeness.gated.Alike (bot.turnFor user) (other.turnFor user)

/-- A calm turn of both bots: the replies differ at most by being expanded once more, and where this
has no effect, the bots are as before. -/
theorem GatedAlike.exists_answer
    {bot other : Bot} (halike : bot.GatedAlike other) (user message : Text)
    (hcalm : Likeness.gated.Calm (bot.answer user message).2.trace) :
    let start := bot.turnFor user
    let ended := (Turn.answer (start.persona.normalize message)).run start
    ∃ after, Likeness.gated.Alike ended.2 after ∧
      (other.answer user message).2.reply =
        ((Turn.expand (Turn.resolve 1 false) {} (bot.answer user message).2.reply).run after).1 ∧
      (Turn.Expanded (bot.answer user message).2.reply →
        (bot.answer user message).1.GatedAlike (other.answer user message).1) := by
  intro start ended
  have hstart : Likeness.gated.Alike start (other.turnFor user) := halike.alike user
  let normalized := start.persona.normalize message
  obtain ⟨after, hafter, hrun⟩ := Turn.exists_run_answer_of_gate hstart normalized hcalm
  have hnormalize : (other.turnFor user).persona.normalize message = normalized := by
    have hdefinitions : (other.turnFor user).persona.definitions = start.persona.definitions :=
      Likeness.gated.definitions_eq hstart.live
    rw [Persona.normalize, hdefinitions]
    rfl
  refine ⟨after, hafter, ?_, fun hexpanded => ?_⟩
  · obtain ⟨text, later, hagain⟩ : ∃ text later,
        (Turn.expand (Turn.resolve 1 false) {} ended.1).run after = (text, later) :=
      ⟨_, _, Prod.mk.eta.symm⟩
    have hreply : (bot.answer user message).2.reply = ended.1 := rfl
    have hother : (other.answer user message).2.reply =
        ((Turn.reply message).run (other.turnFor user)).1 := rfl
    rw [hother, Turn.run_reply hnormalize (hrun.trans hagain), hreply, hagain]
  have hrun := hrun.trans (hexpanded after)
  obtain ⟨-, hpushed⟩ := (Turn.mirrors_push normalized ended.1).agrees hafter hcalm
  have hended : Likeness.gated.Alike ((Turn.reply message).run start).2
      ((Turn.reply message).run (other.turnFor user)).2 := by
    rw [Turn.run_reply hnormalize hrun]
    exact hpushed
  constructor
  · have hsessions : ∀ bot : Bot, (bot.answer user message).1.sessions =
        bot.sessions.insert user ((Turn.reply message).run (bot.turnFor user)).2.session :=
      fun _ => rfl
    rw [hsessions, hsessions, hended.session, halike.sessions_eq]
  · intro member
    by_cases hmember : member = user
    · subst hmember
      have hturn : ∀ bot : Bot, (bot.answer member message).1.turnFor member =
          { ((Turn.reply message).run (bot.turnFor member)).2 with trace := {} } := by
        intro bot
        rw [turnFor, session, session?_answer_self]
        rfl
      rw [hturn, hturn]
      exact { hended with }
    · have hsession : ∀ bot : Bot, ((bot.answer user message).1.turnFor member).session =
          (bot.turnFor member).session := by
        intro bot
        rw [turnFor, session, session?_answer_of_ne bot hmember]
        rfl
      have hmember := halike.alike member
      exact
        { session := by rw [hsession, hsession, hmember.session]
          topic := by
            rw [hsession]
            exact hmember.topic
          memory := hended.memory
          collaborators := hended.collaborators
          requests := hended.requests
          draft := hended.draft
          live := hended.live }

/-- The bot is sorted and has no opening, and in the run no one enters the topic that opens turns, no
code that is run adds an opening, and nothing is chosen among two or more options. -/
structure Gateable (bot : Bot) (turns : List (Text × Text)) : Prop where
  sorted : bot.mind.live = bot.mind.draft.publish
  ungated : bot.mind.draft.Ungated
  outside : ∀ user, (bot.session user).topic ≠ beginTopic
  calm : ∀ answer ∈ (bot.converse turns).2, Likeness.gated.Calm answer.trace

theorem Gateable.gatedAlike
    {bot : Bot} {turns : List (Text × Text)} (hgateable : bot.Gateable turns) :
    bot.GatedAlike bot.withGate := by
  have hdraft : bot.withGate.mind.draft = bot.mind.draft.gate :=
    Persona.read_openingGate hgateable.ungated.undeclared bot.mind.collaborators Mind.streamed
  have hgates : bot.mind.draft.Gates bot.withGate.mind.draft := by
    rw [hdraft]
    exact hgateable.ungated.gates
  refine ⟨rfl, fun user => ?_⟩
  exact
    { session := rfl
      topic := hgateable.outside user
      memory := rfl
      collaborators := rfl
      requests := List.append_nil _
      draft := hgates
      live := ⟨bot.mind.draft, bot.withGate.mind.draft, hgates, hgateable.sorted, rfl⟩ }

theorem GatedAlike.converse
    {bot other : Bot} (halike : bot.GatedAlike other) {turns : List (Text × Text)}
    (hcalm : ∀ answer ∈ (bot.converse turns).2, Likeness.gated.Calm answer.trace)
    (hexpanded : ∀ answer ∈ (bot.converse turns).2, Turn.Expanded answer.reply) :
    (other.converse turns).2.map Answer.reply = (bot.converse turns).2.map Answer.reply ∧
      (bot.converse turns).1.GatedAlike (other.converse turns).1 := by
  induction turns generalizing bot other with
  | nil => exact ⟨rfl, halike⟩
  | cons turn turns ih =>
    obtain ⟨user, message⟩ := turn
    have hhead : (bot.answer user message).2 ∈ (bot.converse ((user, message) :: turns)).2 :=
      List.mem_cons_self
    obtain ⟨after, -, hreply, hnext⟩ :=
      halike.exists_answer user message (hcalm _ hhead)
    rw [hexpanded _ hhead after] at hreply
    obtain ⟨hreplies, hend⟩ := ih (hnext (hexpanded _ hhead))
      (fun answer hmem => hcalm answer (List.mem_cons_of_mem _ hmem))
      (fun answer hmem => hexpanded answer (List.mem_cons_of_mem _ hmem))
    refine ⟨?_, hend⟩
    simp only [Bot.converse, List.map_cons]
    rw [hreply, hreplies]

end Bot

/-- With the opening block, the replies of a conversation stay the same for as long as expanding them
once more has no effect, and so do the sessions.  The next reply is then the one without the block,
expanded once more where the turn would have ended. -/
theorem opening_expands_replies_again
    {bot : Bot} {turns : List (Text × Text)} (hgateable : bot.Gateable turns)
    (hexpanded : ∀ answer ∈ (bot.converse turns).2, Turn.Expanded answer.reply) :
    let plain := bot.converse turns
    let gated := bot.withGate.converse turns
    gated.2.map Answer.reply = plain.2.map Answer.reply ∧
      gated.1.sessions = plain.1.sessions ∧
      ∀ user message, Likeness.gated.Calm (plain.1.answer user message).2.trace →
        let start := plain.1.turnFor user
        let ended := (Turn.answer (start.persona.normalize message)).run start
        ∃ after, Likeness.gated.Alike ended.2 after ∧
          (gated.1.answer user message).2.reply =
            ((Turn.expand (Turn.resolve 1 false) {}
              (plain.1.answer user message).2.reply).run after).1 := by
  intro plain gated
  obtain ⟨hreplies, hend⟩ := hgateable.gatedAlike.converse hgateable.calm hexpanded
  refine ⟨hreplies, hend.sessions_eq, fun user message hcalm => ?_⟩
  obtain ⟨after, hafter, hreply, -⟩ := hend.exists_answer user message hcalm
  exact ⟨after, hafter, hreply⟩

/-- The replies remember what the user said and run code, and are the same with the opening block. -/
theorem opening_expands_replies_again_of_moods :
    let script := "+ my name is *\n- <set name=<star>>hello <star>\n".toList ++
      "+ cheer up\n- \x7b! var mood = good\x7dsure\n".toList ++
      "+ how are we\n- <get name> and <bot mood>\n".toList
    let bot := Bot.ofScript script
    let turns := [(['u'], "my name is ann".toList), (['v'], "cheer up".toList),
      (['u'], "how are we".toList)]
    bot.Gateable turns ∧
      (∀ answer ∈ (bot.converse turns).2, Turn.Expanded answer.reply) ∧
      (bot.withGate.converse turns).2.map Answer.reply =
        ["hello ann".toList, "sure".toList, "ann and good".toList] := by
  intro script bot turns
  have hungated : bot.mind.draft.Ungated :=
    { undeclared := by decide +kernel
      not_mem_targets := by decide +kernel
      not_reads := by decide +kernel }
  let code := "! var mood = good".toList
  have hkeeps : Script.KeepsUngated code := by
    intro collaborators persona hungated
    have hread : (Script.read collaborators persona Mind.streamed code).persona =
        persona.setVariable "mood".toList (some "good".toList) := rfl
    rw [hread]
    exact hungated.setVariable _ _
  obtain ⟨hrun, hreplies⟩ :
      (∀ answer ∈ (bot.converse turns).2, answer.reply.Inert ∧
        (∀ change ∈ answer.trace.changes, change = .code code) ∧
        (∀ options ∈ answer.trace.choices, options ≤ 1) ∧
        ∀ assignment ∈ answer.trace.assignments, assignment.2 ≠ beginTopic) ∧
      (bot.converse turns).2.map Answer.reply =
        ["hello ann".toList, "sure".toList, "ann and good".toList] := by
    decide +kernel
  have hgateable : bot.Gateable turns :=
    { sorted := rfl
      ungated := hungated
      outside := fun user => by
        have hsession : bot.session user = Session.new user 9 := rfl
        rw [hsession]
        exact (by decide : defaultTopic ≠ beginTopic)
      calm := by
        intro answer hanswer
        obtain ⟨-, hchanges, hchoices, hassignments⟩ := hrun answer hanswer
        exact
          { choices := hchoices
            code := fun script hscript => by
              obtain rfl : script = code := Change.code.inj (hchanges _ hscript)
              exact hkeeps
            topics := fun topic htopic => hassignments _ htopic } }
  have hexpanded : ∀ answer ∈ (bot.converse turns).2, Turn.Expanded answer.reply :=
    fun answer hanswer => Turn.expanded_of_inert (hrun answer hanswer).1
  obtain ⟨hsame, -, -⟩ := opening_expands_replies_again hgateable hexpanded
  exact ⟨hgateable, hexpanded, hsame.trans hreplies⟩

/-- Each backslash of a reply is written twice, and with the opening block the one that is left of
the two is read as the beginning of an escape. -/
theorem opening_reads_escape_again :
    let script := "+ hi\n- C:\\\\new\n".toList
    let plain := Bot.ofScript script
    let gated := Bot.ofScript (script ++ openingGate)
    plain.mind.draft.graph.contains beginTopic = false ∧
      (∀ topic ∈ plain.mind.draft.graph.topics, ∀ trigger ∈ topic.triggers,
        (Turn.choices trigger).length ≤ 1) ∧
      Text.contains "\x7brandom\x7d".toList script = false ∧
      (plain.answer ['u'] "hi".toList).2.reply = "C:\\new".toList ∧
      (gated.answer ['u'] "hi".toList).2.reply = "C:\new".toList := by
  decide +kernel

end DialogueScript

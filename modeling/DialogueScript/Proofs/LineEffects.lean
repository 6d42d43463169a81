import DialogueScript.Proofs.Declarations
import DialogueScript.Proofs.TurnRelations

/-!
# What a line of a script can do

A line that is read sets one global at the most.  Apart from that it keeps the globals and the depth
of the persona, whatever else it declares.  The only requests that it makes hand objects to their
handlers.
-/

namespace DialogueScript

namespace Persona

/-- At the most one global has been set or removed. -/
inductive Defines (before after : Persona) : Prop
  | keep (hdepth : after.depth = before.depth)
    (hglobals : after.definitions.globals = before.definitions.globals)
  | set (name : Text) (value : Option Text)
    (hset : after = (before.setGlobal? name value).getD before)

end Persona

namespace Script

structure Effect (before after : State) : Prop where
  persona : before.persona.Defines after.persona
  requests : ∃ loads, after.requests = before.requests ++ loads ∧
    ∀ request ∈ loads, ¬ request.saves

namespace Effect

variable {state next : State}

theorem of_eq
    (hdepth : next.persona.depth = state.persona.depth)
    (hglobals : next.persona.definitions.globals = state.persona.definitions.globals)
    (hrequests : next.requests = state.requests) :
    Effect state next :=
  ⟨.keep hdepth hglobals, [], by rw [hrequests, List.append_nil], by simp⟩

theorem warn (state : State) (place : Place) (cause : Cause) :
    Effect state (state.warn place cause) :=
  .of_eq rfl rfl rfl

theorem closeObject (collaborators : Collaborators) (state : State) (object : OpenObject) :
    Effect state (Script.closeObject collaborators state object) := by
  unfold Script.closeObject
  dsimp only
  split
  · exact .of_eq rfl rfl rfl
  · exact ⟨.keep rfl rfl, _, rfl, by simp [Request.saves]⟩

theorem openTrigger (state : State) (pattern : Text) (previous : Option Text) :
    Effect state (Script.openTrigger state pattern previous) := by
  cases previous <;> exact .of_eq rfl rfl rfl

theorem addPart (state : State) (place : Place) (part : Part) (text : Text) :
    Effect state (Script.addPart state place part text) := by
  unfold Script.addPart
  split
  · exact .warn state _ _
  · exact .of_eq rfl rfl rfl

theorem run
    {place : Place} {instruction : Instruction}
    (hrun : instruction.run place state = .ok next) :
    Effect state next := by
  cases instruction <;> cases hrun
  case keep => exact .of_eq rfl rfl rfl
  case warn cause => exact .warn state place cause
  case setLanguage language => exact .of_eq rfl rfl rfl
  case setGlobal name value =>
    exact ⟨.set name (some value) rfl, [], (List.append_nil _).symm, by simp⟩
  case define f hglobals => exact .of_eq rfl (hglobals _) rfl
  case openTopic name words => exact .of_eq rfl rfl rfl
  case openObject name language => exact .of_eq rfl rfl rfl
  case leaveTopic => exact .of_eq rfl rfl rfl
  case openTrigger pattern previous => exact .openTrigger state pattern previous
  case addPart part text => exact .addPart state place part text

theorem readLine
    {collaborators : Collaborators} {place : Place} {line : Text} {following : List Text}
    (hread : Script.readLine collaborators place line following state = .ok next) :
    Effect state next := by
  cases lineStep_of_readLine hread with
  | code object hobject line => exact .of_eq rfl rfl rfl
  | close object hobject => exact .closeObject collaborators state object
  | run hobject inComment instruction hrun =>
    have heffect : Effect { state with inComment } next := .run hrun
    exact ⟨heffect.persona, heffect.requests⟩

end Effect

/-- Reading a script only asks handlers to load objects. -/
theorem requests_readLines
    (collaborators : Collaborators) (place : Place) (lines : List Text) (state : State) :
    ∃ loads, (readLines collaborators place lines state).1.requests = state.requests ++ loads ∧
      ∀ request ∈ loads, ¬ request.saves := by
  induction lines generalizing state place with
  | nil => exact ⟨[], (List.append_nil _).symm, by simp⟩
  | cons line lines ih =>
    rw [readLines]
    split
    · exact ⟨[], (List.append_nil _).symm, by simp⟩
    · rename_i next hread
      obtain ⟨loads, hloads, hnone⟩ := (Effect.readLine hread).requests
      obtain ⟨more, hmore, hrest⟩ := ih { place with line := place.line + 1 } next
      refine ⟨loads ++ more, by rw [hmore, hloads, List.append_assoc], ?_⟩
      exact List.forall_mem_append.mpr ⟨hnone, hrest⟩

theorem not_saves_of_mem_requests
    {collaborators : Collaborators} {persona : Persona} {source script : Text} {request : Request}
    (hmem : request ∈ (read collaborators persona source script).requests) :
    ¬ request.saves := by
  obtain ⟨loads, hloads, hnone⟩ :=
    requests_readLines collaborators ⟨source, 1⟩ (Text.lines script) { persona }
  rw [requests_read, hloads, List.nil_append] at hmem
  exact hnone request hmem

end Script

end DialogueScript

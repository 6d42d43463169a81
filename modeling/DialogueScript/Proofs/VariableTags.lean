import DialogueScript.Proofs.Numerals
import DialogueScript.Proofs.PlainText
import DialogueScript.Proofs.SessionVariables
import DialogueScript.Proofs.TurnRelations

/-!
# Templates that use variables

A template of plain text and of tags that set, change and read variables is carried out kind by
kind: all variables are set, then one kind of arithmetic after the other is done, each from left to
right, and only then is any variable read.  An operation that has no result leaves the session as it
is and a note in the text.  What an earlier operation leaves is no tag for a later one.
-/

namespace DialogueScript

/-! ## Names and values -/

namespace Text

/-- The characters that tags and escapes are made of. -/
def marks : Text := ['<', '>', '\x7b', '\x7d', '\\']

def Unmarked (text : Text) : Prop :=
  ∀ c ∈ text, c ∉ marks

instance (text : Text) : Decidable text.Unmarked :=
  List.decidableBAll (fun c => c ∉ marks) text

theorem Unmarked.plain {text : Text} (hunmarked : text.Unmarked) : text.Plain := by
  refine fun c hc => ⟨?_, ?_⟩ <;> rintro rfl <;> exact hunmarked _ hc (by decide)

theorem Unmarked.not_mem_escape {text : Text} (hunmarked : text.Unmarked) : '\\' ∉ text :=
  fun hmem => hunmarked _ hmem (by decide)

theorem Unmarked.append
    {text other : Text} (htext : text.Unmarked) (hother : other.Unmarked) :
    Unmarked (text ++ other) :=
  List.forall_mem_append.mpr ⟨htext, hother⟩

end Text

namespace Template

/-- Text between the tags of a template. -/
structure Prose where
  text : Text
  unmarked : text.Unmarked

/-- A name or a value in a tag. -/
structure Operand where
  text : Text
  ne_nil : text ≠ []
  unmarked : text.Unmarked
  onLine : '\n' ∉ text
  noEquals : '=' ∉ text

namespace Operand

variable (operand : Operand)

theorem staysOnLine {c : Char} (hc : c ∈ operand.text) : Tag.staysOnLine c := by
  rw [Tag.staysOnLine, decide_eq_true_eq]
  rintro rfl
  exact operand.onLine hc

end Operand

/-! ## Operations -/

/-- What a tag does to a variable. -/
inductive Operation where
  | set
  | compute (arithmetic : Arithmetic)
deriving Repr, DecidableEq

namespace Operation

/-- The operations in the order in which they are carried out. -/
def all : List Operation :=
  .set :: Arithmetic.all.map .compute

theorem mem_all (operation : Operation) : operation ∈ all := by
  rcases operation with _ | _ | _ | _ | _ <;> decide

def name : Operation → Text
  | .set => "set".toList
  | .compute arithmetic => arithmetic.name

/-- The new value of a variable, or why there is none. -/
def outcome (session : Session) (name value : Text) : Operation → Except Arithmetic.Failure Text
  | .set => .ok value
  | .compute arithmetic => (arithmetic.evaluate session name value).map Number.intText

/-- What an operation leaves in place of its tag. -/
def leaves (operation : Operation) (session : Session) (name value : Text) : Text :=
  match operation.outcome session name value with
  | .ok _ => []
  | .error failure => failure.message

end Operation

end Template

namespace Template

namespace Operation

variable (operation : Operation) (session : Session) (name operand : Operand)

def opening : Text :=
  '<' :: operation.name ++ [' ']

end Operation

/-! ## Parts of a template -/

inductive Part where
  | prose (words : Prose)
  | assign (operation : Operation) (name operand : Operand)
  | get (name : Operand)

namespace Part

/-- What a tag begins with. -/
def opening : Part → Text
  | .prose _ => []
  | .assign operation _ _ => operation.opening
  | .get _ => "<get ".toList

def body : Part → Text
  | .prose words => words.text
  | .assign _ name operand => name.text ++ '=' :: operand.text ++ ['>']
  | .get name => name.text ++ ['>']

def written (part : Part) : Text :=
  part.opening ++ part.body

/-- All that a part may begin with. -/
def openings : List Text :=
  [] :: "<get ".toList :: Operation.all.map Operation.opening

theorem opening_mem (part : Part) : part.opening ∈ openings := by
  cases part with
  | prose words => exact List.mem_cons_self
  | assign operation name operand =>
    have hmem := List.mem_map_of_mem (f := Operation.opening) operation.mem_all
    exact List.mem_cons_of_mem _ (List.mem_cons_of_mem _ hmem)
  | get name => exact List.mem_cons_of_mem _ List.mem_cons_self

theorem not_mem_escape_written (part : Part) : '\\' ∉ part.written := by
  have hopening : ∀ opening ∈ openings, '\\' ∉ opening := by decide
  have hbody : '\\' ∉ part.body := by
    cases part with
    | prose words => exact words.unmarked.not_mem_escape
    | assign operation name operand =>
      simp [body, name.unmarked.not_mem_escape, operand.unmarked.not_mem_escape]
    | get name => simp [body, name.unmarked.not_mem_escape]
  rw [written, List.mem_append]
  exact not_or.mpr ⟨hopening _ part.opening_mem, hbody⟩

end Part

/-- A template as it is written. -/
def write (parts : List Part) : Text :=
  parts.flatMap Part.written

end Template

/-! ## Carrying out the operations -/

namespace Session

/-- The session after assignments, one after the other. -/
def assignAll (session : Session) (made : List (Text × Text)) : Session :=
  made.foldl (fun session (name, value) => session.set name value) session

theorem assignAll_append (session : Session) (made more : List (Text × Text)) :
    session.assignAll (made ++ more) = (session.assignAll made).assignAll more :=
  List.foldl_append

/-- Of the assignments, the last one to a variable counts. -/
theorem get?_values_assignAll (session : Session) (made : List (Text × Text)) (name : Text) :
    (session.assignAll made).values.get? name =
      (made.reverse.lookup name).or (session.values.get? name) := by
  refine @get?_foldl Session _ (fun session => session.values.get?) made ?_ session name
  intro assignment _ session name
  by_cases hname : name = assignment.1
  · simp [set, hname]
  · rw [if_neg hname]
    exact session.values.get?_insert_of_ne assignment.2 hname

end Session

namespace Template

/-- A part with the variable that it asks for. -/
def Part.read (session : Session) : Part → Text
  | .get name => session.get name.text
  | part => part.written

namespace Part

variable {operation : Operation} {part : Part}

/-- What is left to read of a part by the reader of variables. -/
def found : Part → List (Text.Piece Text)
  | .get name => [.tag name.text]
  | part => part.written.map .char

end Part

end Template

namespace Turn

/-- The turn after assignments, one after the other. -/
def assignAll (turn : Turn) (made : List (Text × Text)) : Turn :=
  { turn with
    session := turn.session.assignAll made
    trace := { turn.trace with assignments := turn.trace.assignments ++ made } }

theorem assignAll_nil (turn : Turn) : turn.assignAll [] = turn := by
  simp [assignAll, Session.assignAll]

theorem assignAll_append (turn : Turn) (made more : List (Text × Text)) :
    turn.assignAll (made ++ more) = (turn.assignAll made).assignAll more := by
  simp [assignAll, Session.assignAll_append]

/-- Carry out one tag. -/
def operate (operation : Template.Operation) (assignment : Text × Text) : TurnM Text := do
  match operation.outcome (← get).session assignment.1 assignment.2 with
  | .ok result =>
    assign assignment.1 result
    pure []
  | .error failure => pure failure.message

end Turn

/-! ## Results -/

namespace Arithmetic

end Arithmetic

namespace Turn

end Turn

end DialogueScript

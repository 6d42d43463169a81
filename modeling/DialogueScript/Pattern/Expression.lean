import DialogueScript.Pattern.Matching

/-!
# Compiled patterns

A pattern is rendered for a session before it is matched: what its references read is written into
it.  The expression that results refers to nothing any more but the arrays, and is compiled to a
matcher unless it nests too deep.  A pattern that reads nothing of the session is compiled once,
when it is published.  The matchers of the others are kept in a cache under their expressions; when
it is full, the oldest one makes room.
-/

namespace DialogueScript

namespace Pattern

/-! ## Rendering -/

mutual

/-- Whether a segment reads something of the session. -/
def isSessionBound : Segment → Bool
  | .userVariable _ => true
  | .input _ => true
  | .reply _ => true
  | .optional alternatives => isSessionBoundAlternatives alternatives
  | .group alternatives => isSessionBoundAlternatives alternatives
  | _ => false

def isSessionBoundSequence : List Segment → Bool
  | [] => false
  | segment :: segments => isSessionBound segment || isSessionBoundSequence segments

def isSessionBoundAlternatives : List (List Segment) → Bool
  | [] => false
  | alternative :: alternatives =>
    isSessionBoundSequence alternative || isSessionBoundAlternatives alternatives

end

/-- What a session holds for a reference; nothing is defined where there is no session. -/
def readSession (session : Option Session) (read : Session → Text) : Segment :=
  .literal (Text.lower ((session.map read).getD undefined))

mutual

/-- A segment with what its references read. -/
def fill (definitions : Definitions) (session : Option Session) : Segment → Segment
  | .optional alternatives => .optional (fillAlternatives definitions session alternatives)
  | .group alternatives => .group (fillAlternatives definitions session alternatives)
  | .botVariable name =>
    .literal (Text.lower ((definitions.values.get? name).getD undefined))
  | .userVariable name => readSession session fun session => session.get name
  | .input index => readSession session fun session => session.input index
  | .reply index => readSession session fun session => session.reply index
  | segment => segment

def fillSequence (definitions : Definitions) (session : Option Session) :
    List Segment → List Segment
  | [] => []
  | segment :: segments =>
    fill definitions session segment :: fillSequence definitions session segments

def fillAlternatives (definitions : Definitions) (session : Option Session) :
    List (List Segment) → List (List Segment)
  | [] => []
  | alternative :: alternatives =>
    fillSequence definitions session alternative ::
      fillAlternatives definitions session alternatives

end

end Pattern

/-- Nothing but arrays to read from. -/
def Scope.ofArrays (arrays : Table (List Text)) : Scope :=
  { definitions := { Definitions.empty with arrays }
    session := Session.new [] 0 }

/-- A rendered pattern: its segments, and the arrays that they name. -/
structure Expression where
  segments : List Segment
  arrays : Table (List Text)
deriving Repr, DecidableEq

namespace Expression

def render (definitions : Definitions) (session : Option Session) (segments : List Segment) :
    Expression :=
  { segments := Pattern.fillSequence definitions session segments
    arrays := definitions.arrays }

def scope (expression : Expression) : Scope :=
  .ofArrays expression.arrays

def tooDeep (expression : Expression) : Bool :=
  Pattern.tooDeep expression.scope expression.segments

end Expression

/-! ## Compiling -/

/-- An expression that can be compiled. -/
structure Matcher where
  expression : Expression
  fits : expression.tooDeep = false
deriving Repr, DecidableEq

namespace Expression

def compile? (expression : Expression) : Option Matcher :=
  if fits : expression.tooDeep = false then some ⟨expression, fits⟩ else none

end Expression

namespace Matcher

/-- The stars of the preferred match of a whole text. -/
def stars? (matcher : Matcher) (text : Text) : Option (List Text) :=
  let expression := matcher.expression
  (Pattern.sequenceWay? expression.scope expression.segments text (Marks.atEnd text)).map Way.stars

end Matcher

namespace Pattern

/-- The matcher of a pattern for all sessions, if it reads nothing of them and can be compiled. -/
def fixed? (definitions : Definitions) (segments : List Segment) : Option Matcher :=
  if isSessionBoundSequence segments then none
  else (Expression.render definitions none segments).compile?

def fixAll (definitions : Definitions) (compiled : Table (List Segment)) :
    Table (Option Matcher) :=
  ⟨compiled.entries.map fun (pattern, segments) => (pattern, fixed? definitions segments)⟩

end Pattern

/-! ## Keeping matchers -/

/-- How many matchers are kept. -/
def Cache.limit : Nat := 256

/-- Matchers under the expressions that they were compiled from, the oldest first. -/
structure Cache where
  entries : List (Expression × Matcher)
  compiled : ∀ entry ∈ entries, entry.1.compile? = some entry.2
  bounded : entries.length ≤ Cache.limit

namespace Cache

def empty : Cache :=
  { entries := [], compiled := by simp, bounded := Nat.zero_le _ }

def get? (cache : Cache) (expression : Expression) : Option Matcher :=
  cache.entries.lookup expression

/-- The entries that are kept when another one is added. -/
def kept (cache : Cache) : List (Expression × Matcher) :=
  if cache.entries.length < limit then cache.entries else cache.entries.drop 1

theorem kept_subset (cache : Cache) : cache.kept ⊆ cache.entries := by
  unfold kept
  split
  · exact List.Subset.refl _
  · exact List.drop_subset 1 cache.entries

theorem length_kept_lt (cache : Cache) : cache.kept.length < limit := by
  unfold kept
  split
  · assumption
  · calc
      (cache.entries.drop 1).length = cache.entries.length - 1 := List.length_drop
      _ ≤ limit - 1 := Nat.sub_le_sub_right cache.bounded 1
      _ < limit := by decide

def add (cache : Cache) (expression : Expression) (matcher : Matcher)
    (hcompile : expression.compile? = some matcher) : Cache :=
  { entries := cache.kept ++ [(expression, matcher)]
    compiled := by
      intro entry hentry
      rcases List.mem_append.mp hentry with hkept | hadded
      · exact cache.compiled entry (cache.kept_subset hkept)
      · obtain rfl := List.mem_singleton.mp hadded
        exact hcompile
    bounded := by
      rw [List.length_append]
      exact cache.length_kept_lt }

/-- The matcher of an expression, which is kept if it can be compiled at all. -/
def compile (expression : Expression) : StateM Cache (Option Matcher) := do
  let cache ← get
  match cache.get? expression with
  | some matcher => pure (some matcher)
  | none =>
    match hcompile : expression.compile? with
    | none => pure none
    | some matcher =>
      set (cache.add expression matcher hcompile)
      pure (some matcher)

end Cache

end DialogueScript

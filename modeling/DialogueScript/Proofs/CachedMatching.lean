import DialogueScript.Proofs.PatternExpression
import DialogueScript.Turn.Resolution

/-!
# Searching with kept matchers

A kept matcher was compiled from the expression that it is kept under, so it answers as a new one
would.  Whatever has been kept, a search finds what is selected without keeping anything.
-/

namespace DialogueScript

/-! ## Results that do not depend on the cache -/

/-- Whatever is kept, the result is the same. -/
def Yields {α : Type} (m : StateM Cache α) (a : α) : Prop :=
  ∀ cache, (m.run cache).1 = a

namespace Yields

variable {α β : Type}

theorem pure (a : α) : Yields (Pure.pure a) a :=
  fun _ => rfl

theorem bind {m : StateM Cache α} {f : α → StateM Cache β} {a : α} {b : β} (hm : Yields m a)
    (hf : Yields (f a) b) :
    Yields (m >>= f) b := by
  intro cache
  have hrun : ((m >>= f).run cache).1 = ((f (m.run cache).1).run (m.run cache).2).1 := rfl
  rw [hrun, hm cache]
  exact hf _

theorem findSomeM? {f : α → StateM Cache (Option β)} {g : α → Option β}
    (hf : ∀ a, Yields (f a) (g a)) (items : List α) :
    Yields (items.findSomeM? f) (items.findSome? g) := by
  induction items with
  | nil => exact pure none
  | cons item items ih =>
    rw [List.findSomeM?, List.findSome?_cons]
    refine (hf item).bind ?_
    cases g item with
    | some b => exact pure (some b)
    | none => exact ih

theorem mapM {f : α → StateM Cache β} {g : α → β} (hf : ∀ a, Yields (f a) (g a))
    (items : List α) :
    Yields (items.mapM f) (items.map g) := by
  induction items with
  | nil => exact pure []
  | cons item items ih =>
    rw [List.mapM_cons]
    exact (hf item).bind (ih.bind (pure _))

end Yields

/-! ## Compiling -/

namespace Cache

theorem compile?_of_get?
    {cache : Cache} {expression : Expression} {matcher : Matcher}
    (hkept : cache.get? expression = some matcher) :
    expression.compile? = some matcher := by
  obtain ⟨front, back, hentries, -⟩ := List.lookup_eq_some_iff.mp hkept
  apply cache.compiled (expression, matcher)
  rw [hentries]
  exact List.mem_append_right _ List.mem_cons_self

theorem yields_compile (expression : Expression) :
    Yields (compile expression) expression.compile? := by
  intro cache
  simp only [compile, StateT.run_bind, StateT.run_get, pure_bind]
  cases hkept : cache.get? expression with
  | some matcher => exact (compile?_of_get? hkept).symm
  | none =>
    dsimp only
    split
    · rename_i hnone
      exact hnone.symm
    · rename_i matcher hcompile
      exact hcompile.symm

end Cache

/-! ## Searching -/

namespace Snapshot

variable (snapshot : Snapshot) (session : Session)

theorem get?_fixed (pattern : Text) :
    snapshot.fixed.get? pattern =
      (snapshot.compiled.get? pattern).map (Pattern.fixed? snapshot.persona.definitions) := by
  rw [snapshot.fixed_eq]
  unfold Pattern.fixAll Table.get?
  generalize snapshot.compiled.entries = entries
  induction entries with
  | nil => rfl
  | cons entry entries ih =>
    rw [List.map_cons, List.lookup_cons, List.lookup_cons]
    split
    · rfl
    · exact ih

theorem yields_tryPattern (pattern text : Text) :
    Yields (snapshot.tryPattern session pattern text) (snapshot.match? session pattern text) := by
  unfold tryPattern match?
  rw [get?_fixed]
  cases snapshot.compiled.get? pattern with
  | none => exact .pure none
  | some segments =>
    have hmatch : ((Expression.render snapshot.persona.definitions (some session)
        segments).compile?.bind fun matcher => matcher.stars? text) =
        Pattern.matchSegments? (snapshot.scope session) segments text :=
      Expression.compile?_bind_stars? (snapshot.scope session) segments text
    simp only [Option.map_some, Option.join_some, Option.bind_some, Pattern.fixed?]
    cases hbound : Pattern.isSessionBoundSequence segments with
    | true =>
      refine (Cache.yields_compile _).bind ?_
      rw [hmatch]
      exact .pure _
    | false =>
      rw [Expression.render_of_not_bound hbound _ session, ← hmatch]
      cases (Expression.render snapshot.persona.definitions (some session) segments).compile? with
      | some matcher => exact .pure _
      | none => exact .pure none

theorem yields_searchPaired (topic : Topic) (lastReply message : Text) :
    Yields (snapshot.searchPaired session topic lastReply message)
      (snapshot.selectPaired? session topic lastReply message) := by
  refine Yields.findSomeM? (fun (previous, patterns) => ?_) _
  dsimp only
  refine (snapshot.yields_tryPattern session previous lastReply).bind ?_
  cases snapshot.match? session previous lastReply with
  | none => exact .pure none
  | some previousStars =>
    refine Yields.findSomeM? (fun pattern => ?_) patterns
    exact (snapshot.yields_tryPattern session pattern message).bind (.pure _)

theorem yields_searchByPrevious (name message : Text) :
    Yields (snapshot.searchByPrevious session name message)
      (snapshot.selectByPrevious? session name message) := by
  refine Yields.findSomeM? (fun visited => ?_) _
  cases snapshot.persona.graph.topic? visited with
  | none => exact .pure none
  | some topic => exact snapshot.yields_searchPaired session topic _ message

theorem yields_searchByOrder (name message : Text) :
    Yields (snapshot.searchByOrder session name message)
      (snapshot.selectByOrder? session name message) := by
  have haccepted : Yields
      ((snapshot.order name).findSomeM? fun pattern => do
        let stars ← snapshot.tryPattern session pattern message
        pure (stars.map fun stars => (pattern, stars)))
      ((snapshot.order name).findSome? fun pattern =>
        (snapshot.match? session pattern message).map fun stars => (pattern, stars)) := by
    refine Yields.findSomeM? (fun pattern => ?_) _
    exact (snapshot.yields_tryPattern session pattern message).bind (.pure _)
  exact haccepted.bind (.pure _)

theorem yields_search (name message : Text) (step : Nat) :
    Yields (snapshot.search session name message step)
      (snapshot.select? session name message step) := by
  unfold search select?
  by_cases hstep : step = 0
  · rw [if_pos hstep, if_pos hstep]
    refine (snapshot.yields_searchByPrevious session name message).bind ?_
    cases snapshot.selectByPrevious? session name message with
    | some selection => exact .pure (some selection)
    | none => exact snapshot.yields_searchByOrder session name message
  · rw [if_neg hstep, if_neg hstep]
    exact (Yields.pure none).bind (snapshot.yields_searchByOrder session name message)

end Snapshot

namespace Turn

/-- A turn selects what the live patterns select; only what is kept for later may change. -/
theorem exists_run_select (snapshot : Snapshot) (topic message : Text) (step : Nat) (turn : Turn) :
    ∃ cache, (select snapshot topic message step).run turn =
      (snapshot.select? turn.session topic message step,
        { turn with mind := { turn.mind with cache } }) := by
  refine ⟨((snapshot.search turn.session topic message step).run turn.mind.cache).2, ?_⟩
  have hselect := snapshot.yields_search turn.session topic message step turn.mind.cache
  rw [← hselect]
  rfl

end Turn

end DialogueScript

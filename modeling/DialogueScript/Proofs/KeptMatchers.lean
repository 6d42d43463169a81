import DialogueScript.Proofs.TriggerLookup

/-!
# Kept matchers are not seen

Matchers are kept from one match to the next, for all users and whatever has been published since.
A pattern of the live snapshot is matched as if it were rendered for the session and compiled anew.
-/

namespace DialogueScript

namespace Snapshot

theorem Published.compiled_of_isSome
    {snapshot : Snapshot} (hpublished : snapshot.Published) {pattern : Text}
    (hcompiled : (snapshot.compiled.get? pattern).isSome) :
    snapshot.compiled.get? pattern = some (Pattern.parse pattern) := by
  obtain ⟨persona, -, rfl⟩ := hpublished
  obtain ⟨patterns, hpatterns⟩ : ∃ patterns, persona.publish.compiled = Pattern.compile patterns :=
    ⟨_, rfl⟩
  have hlookup : (Pattern.compile patterns).get? pattern =
      if pattern ∈ patterns.eraseDups.map id then some (Pattern.parse pattern) else none :=
    lookup_map_key
  rw [hpatterns, hlookup] at hcompiled ⊢
  split
  · rfl
  · rename_i hmissing
    rw [if_neg hmissing] at hcompiled
    cases hcompiled

end Snapshot

/-- A text that is to be matched against a pattern, for the user of a session. -/
structure Attempt where
  session : Session
  pattern : Text
  text : Text

namespace Attempt

def run (snapshot : Snapshot) (attempt : Attempt) : StateM Cache (Option (List Text)) :=
  snapshot.tryPattern attempt.session attempt.pattern attempt.text

/-- The result of matching without anything that is kept. -/
def afresh (snapshot : Snapshot) (attempt : Attempt) : Option (List Text) :=
  (Expression.render snapshot.persona.definitions (some attempt.session)
    (Pattern.parse attempt.pattern)).compile?.bind fun matcher => matcher.stars? attempt.text

end Attempt

/-- Whatever is kept, each pattern of a published snapshot is matched as if it were rendered for the
session and compiled anew, and that is to match the pattern with what its references read there.  No
more than 256 matchers are kept. -/
theorem attempts_match_afresh
    {snapshot : Snapshot} (hpublished : snapshot.Published) (cache : Cache)
    (attempts : List Attempt)
    (hcompiled : ∀ attempt ∈ attempts, (snapshot.compiled.get? attempt.pattern).isSome) :
    let outcome := (attempts.mapM (Attempt.run snapshot)).run cache
    outcome.1 = attempts.map (Attempt.afresh snapshot) ∧
      (∀ attempt ∈ attempts, attempt.afresh snapshot =
        Pattern.match? (snapshot.scope attempt.session) attempt.pattern attempt.text) ∧
      outcome.2.entries.length ≤ 256 := by
  intro outcome
  have hafresh : ∀ attempt : Attempt, attempt.afresh snapshot =
      Pattern.match? (snapshot.scope attempt.session) attempt.pattern attempt.text := by
    intro attempt
    exact Expression.compile?_bind_stars? (snapshot.scope attempt.session) _ attempt.text
  have hmatch : ∀ attempt ∈ attempts,
      snapshot.match? attempt.session attempt.pattern attempt.text = attempt.afresh snapshot := by
    intro attempt hattempt
    rw [Snapshot.match?, hpublished.compiled_of_isSome (hcompiled attempt hattempt), hafresh]
    rfl
  have hruns : Yields (attempts.mapM (Attempt.run snapshot))
      (attempts.map fun attempt =>
        snapshot.match? attempt.session attempt.pattern attempt.text) :=
    Yields.mapM (fun attempt => snapshot.yields_tryPattern _ _ _) attempts
  refine ⟨?_, fun attempt _ => hafresh attempt, outcome.2.bounded⟩
  rw [hruns cache]
  exact List.map_congr_left hmatch

/-- Two users match the same pattern, which reads a variable inside an optional.  After the first one
a matcher is kept; it does not answer for the second one, and answers for the first one again. -/
theorem attempts_match_afresh_for_two_users :
    let live := (Bot.ofScript "+ i am [about (<get age>|old)] years\n- ok\n".toList).mind.live
    let pattern := "i am [about (<get age>|old)] years".toList
    let text := "i am about 30 years".toList
    let first := (Session.new ['u'] 9).set "age".toList "30".toList
    let second := (Session.new ['v'] 9).set "age".toList "31".toList
    let attempts : List Attempt := [⟨first, pattern, text⟩, ⟨second, pattern, text⟩,
      ⟨first, pattern, text⟩]
    let outcome := (attempts.mapM (Attempt.run live)).run Cache.empty
    (∀ attempt ∈ attempts, (live.compiled.get? attempt.pattern).isSome) ∧
      outcome.1 = attempts.map (Attempt.afresh live) ∧ outcome.1 = [some [], none, some []] ∧
      outcome.2.entries.length = 2 := by
  intro live pattern text first second attempts outcome
  have hpublished : live.Published := (Bot.reachable_ofScript _).occurs.wellFormed.live
  have hcompiled : ∀ attempt ∈ attempts, (live.compiled.get? attempt.pattern).isSome := by
    decide +kernel
  obtain ⟨hafresh, -, -⟩ := attempts_match_afresh hpublished Cache.empty attempts hcompiled
  have hresults : outcome.1 = [some [], none, some []] := by
    decide +kernel
  have hkept : outcome.2.entries.length = 2 := by
    decide +kernel
  exact ⟨hcompiled, hafresh, hresults, hkept⟩

end DialogueScript

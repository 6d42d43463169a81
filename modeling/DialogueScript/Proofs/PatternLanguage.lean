import DialogueScript.Pattern.Matching
import Mathlib.Data.List.Basic

/-!
# The language of a pattern

Every segment stands for a set of texts, and a pattern accepts the texts that its segments make up
one after another.  The marks that go through a pattern from its end to its front say exactly this:
a place is marked when some text of the language leads from it to a place that was marked before.
-/

namespace DialogueScript

namespace Pattern

/-! ## The language -/

def Run (p : Char → Bool) (text : Text) : Prop :=
  text ≠ [] ∧ ∀ c ∈ text, p c

def Blanks (text : Text) : Prop :=
  ∀ c ∈ text, Text.isBlank c

/-- One text after the other. -/
def Both (L M : Text → Prop) (text : Text) : Prop :=
  ∃ front back, text = front ++ back ∧ L front ∧ M back

mutual

/-- The texts of a segment. -/
def Accepts (scope : Scope) : Segment → Text → Prop
  | .literal word => (· = word)
  | .star mayBeEmpty => fun text => '\n' ∉ text ∧ (text = [] → mayBeEmpty)
  | .number => Run Text.isDecimalDigit
  | .alpha => Run fun c => ('a' ≤ c ∧ c ≤ 'z') ∨ c = ' '
  | .optional alternatives => fun text =>
    Blanks text ∨ Both Blanks (Both (AcceptsOne scope alternatives) Blanks) text
  | .group alternatives => AcceptsOne scope alternatives
  | .array name => fun text =>
    match scope.definitions.arrays.get? name with
    | none => text = []
    | some items => (items = [] ∧ text = []) ∨ ∃ item ∈ items, text = Text.lower item
  | .botVariable name => (· = Text.lower ((scope.definitions.values.get? name).getD undefined))
  | .userVariable name => (· = Text.lower (scope.session.get name))
  | .input index => (· = Text.lower (scope.session.input index))
  | .reply index => (· = Text.lower (scope.session.reply index))

/-- The texts of segments in sequence. -/
def AcceptsSequence (scope : Scope) : List Segment → Text → Prop
  | [] => (· = [])
  | segment :: segments => Both (Accepts scope segment) (AcceptsSequence scope segments)

/-- The texts of any of the alternatives. -/
def AcceptsOne (scope : Scope) : List (List Segment) → Text → Prop
  | [] => fun _ => False
  | alternative :: alternatives => fun text =>
    AcceptsSequence scope alternative text ∨ AcceptsOne scope alternatives text

end

end Pattern

namespace Marks

/-- A text of `L` leads from the front of `text` to a marked place. -/
def Leads (L : Text → Prop) (text : Text) (marks : Marks) : Prop :=
  ∃ front back, text = front ++ back ∧ L front ∧ here (marks.drop front.length)

/-- The places of `text` from which a text of `L` leads to a marked place. -/
structure IsBefore (L : Text → Prop) (text : Text) (marks places : Marks) : Prop where
  length_eq : places.length = text.length + 1
  here_iff : ∀ front back, text = front ++ back →
    (here (places.drop front.length) ↔ Leads L back (marks.drop front.length))

theorem Leads.mono
    {L M : Text → Prop} {text : Text} {marks : Marks}
    (hleads : Leads L text marks) (himp : ∀ text, L text → M text) :
    Leads M text marks := by
  obtain ⟨front, back, htext, hfront, hhere⟩ := hleads
  exact ⟨front, back, htext, himp front hfront, hhere⟩

theorem leads_or {L M : Text → Prop} {text : Text} {marks : Marks} :
    Leads (fun text => L text ∨ M text) text marks ↔ Leads L text marks ∨ Leads M text marks := by
  constructor
  · rintro ⟨front, back, htext, hfront | hfront, hhere⟩
    · exact .inl ⟨front, back, htext, hfront, hhere⟩
    · exact .inr ⟨front, back, htext, hfront, hhere⟩
  · rintro (hleads | hleads)
    · exact hleads.mono fun _ => .inl
    · exact hleads.mono fun _ => .inr

theorem leads_nil {text : Text} {marks : Marks} :
    Leads (· = []) text marks ↔ here marks := by
  constructor
  · rintro ⟨_, back, htext, rfl, hhere⟩
    exact hhere
  · intro hhere
    exact ⟨[], text, rfl, rfl, hhere⟩

theorem here_union {marks others : Marks} (hlength : marks.length = others.length) :
    here (marks.union others) = (here marks || here others) := by
  cases marks with
  | nil =>
    obtain rfl := List.eq_nil_of_length_eq_zero hlength.symm
    rfl
  | cons b marks =>
    cases others with
    | nil => simp at hlength
    | cons c others => rfl

theorem here_drop_nowhere (text : Text) (n : Nat) : here ((nowhere text).drop n) = false := by
  have hnowhere : nowhere text = List.replicate (text.length + 1) false := by
    simp [nowhere, List.replicate_succ]
  rw [hnowhere, List.drop_replicate]
  cases text.length + 1 - n <;> rfl

namespace IsBefore

variable {L M : Text → Prop} {text front back : Text} {marks middle places others : Marks}

theorem here_front (hbefore : IsBefore L text marks places) :
    here places ↔ Leads L text marks :=
  hbefore.here_iff [] text rfl

theorem congr (hbefore : IsBefore L text marks places) (hiff : ∀ text, L text ↔ M text) :
    IsBefore M text marks places := by
  rwa [← funext fun text => propext (hiff text)]

protected theorem nil {b : Bool} (hb : b ↔ Leads L [] marks) : IsBefore L [] marks [b] := by
  refine ⟨rfl, fun front back htext => ?_⟩
  obtain ⟨rfl, rfl⟩ := List.append_eq_nil_iff.mp htext.symm
  exact hb

protected theorem cons
    {b : Bool} {c : Char} (hb : b ↔ Leads L (c :: text) marks)
    (hrest : IsBefore L text marks.tail places) :
    IsBefore L (c :: text) marks (b :: places) := by
  refine ⟨by simp [hrest.length_eq], fun front back htext => ?_⟩
  cases front with
  | nil =>
    obtain rfl : c :: text = back := htext
    exact hb
  | cons d front =>
    have hback := (List.cons.inj htext).2
    simpa [List.drop_tail] using hrest.here_iff front back hback

theorem drop
    (hbefore : IsBefore L (front ++ back) marks places) :
    IsBefore L back (marks.drop front.length) (places.drop front.length) := by
  refine ⟨by simp [hbefore.length_eq]; omega, fun later rest hback => ?_⟩
  have hiff := hbefore.here_iff (front ++ later) rest (by simp [hback])
  simpa [List.drop_drop] using hiff

theorem self (hlength : marks.length = text.length + 1) :
    IsBefore (· = []) text marks marks :=
  ⟨hlength, fun _ _ _ => leads_nil.symm⟩

theorem union
    (hL : IsBefore L text marks places) (hM : IsBefore M text marks others) :
    IsBefore (fun text => L text ∨ M text) text marks (places.union others) := by
  refine ⟨by simp [Marks.union, hL.length_eq, hM.length_eq], fun front back htext => ?_⟩
  have hlength : (places.drop front.length).length = (others.drop front.length).length := by
    simp [hL.length_eq, hM.length_eq]
  rw [leads_or, ← hL.here_iff front back htext, ← hM.here_iff front back htext, Marks.union,
    List.drop_zipWith, ← Marks.union, here_union hlength, Bool.or_eq_true]

/-- Going back over one language and then over another one is going back over both. -/
theorem trans
    (hL : IsBefore L text middle places) (hM : IsBefore M text marks middle) :
    IsBefore (Pattern.Both L M) text marks places := by
  refine ⟨hL.length_eq, fun front back htext => ?_⟩
  rw [hL.here_iff front back htext]
  constructor
  · rintro ⟨first, rest, rfl, hfirst, hhere⟩
    rw [List.drop_drop, ← List.length_append,
      hM.here_iff (front ++ first) rest (by simp [htext])] at hhere
    obtain ⟨second, last, rfl, hsecond, hhere⟩ := hhere
    refine ⟨first ++ second, last, by simp, ⟨first, second, rfl, hfirst, hsecond⟩, ?_⟩
    simpa [List.drop_drop, Nat.add_assoc] using hhere
  · rintro ⟨_, last, rfl, ⟨first, second, rfl, hfirst, hsecond⟩, hhere⟩
    refine ⟨first, second ++ last, by simp, hfirst, ?_⟩
    rw [List.drop_drop, ← List.length_append,
      hM.here_iff (front ++ first) (second ++ last) (by simp [htext])]
    refine ⟨second, last, rfl, hsecond, ?_⟩
    simpa [List.drop_drop, Nat.add_assoc] using hhere

theorem nowhere : IsBefore (fun _ => False) text marks (nowhere text) := by
  refine ⟨by simp [Marks.nowhere], fun front back htext => ?_⟩
  have hnone : ¬ Leads (fun _ => False) back (marks.drop front.length) := by
    rintro ⟨_, _, _, hfalse, _⟩
    exact hfalse
  simp [hnone, here_drop_nowhere]

end IsBefore

end Marks

namespace Pattern

open Marks

/-! ## Going back over runs and words -/

theorem run_nil {p : Char → Bool} : ¬ Run p [] :=
  fun hrun => hrun.1 rfl

theorem run_cons {p : Char → Bool} {c : Char} {text : Text} :
    Run p (c :: text) ↔ p c ∧ (text = [] ∨ Run p text) := by
  cases text <;> simp [Run]

theorem blanks_iff {text : Text} : Blanks text ↔ text = [] ∨ Run Text.isBlank text := by
  cases text <;> simp [Blanks, Run]

theorem leads_run_cons
    {p : Char → Bool} {c : Char} {text : Text} {marks : Marks} :
    Leads (Run p) (c :: text) marks ↔
      p c ∧ (here marks.tail ∨ Leads (Run p) text marks.tail) := by
  constructor
  · rintro ⟨front, back, htext, hrun, hhere⟩
    cases front with
    | nil => exact absurd hrun run_nil
    | cons d front =>
      obtain ⟨rfl, rfl⟩ := List.cons.inj htext
      have hhere : here (marks.tail.drop front.length) := by simpa [List.drop_tail] using hhere
      obtain ⟨hc, rfl | hrun⟩ := run_cons.mp hrun
      · exact ⟨hc, .inl hhere⟩
      · exact ⟨hc, .inr ⟨front, back, rfl, hrun, hhere⟩⟩
  · rintro ⟨hc, hhere | ⟨front, back, rfl, hrun, hhere⟩⟩
    · exact ⟨[c], text, rfl, run_cons.mpr ⟨hc, .inl rfl⟩, by simpa using hhere⟩
    · exact ⟨c :: front, back, rfl, run_cons.mpr ⟨hc, .inr hrun⟩,
        by simpa [List.drop_tail] using hhere⟩

theorem isBefore_beforeRun (p : Char → Bool) (text : Text) (marks : Marks) :
    IsBefore (Run p) text marks (beforeRun p text marks) := by
  induction text generalizing marks with
  | nil =>
    refine IsBefore.nil ⟨by simp, ?_⟩
    rintro ⟨front, back, htext, hrun, -⟩
    obtain ⟨rfl, -⟩ := List.append_eq_nil_iff.mp htext.symm
    exact absurd hrun run_nil
  | cons c text ih =>
    have hrest := ih marks.tail
    refine IsBefore.cons ?_ hrest
    rw [leads_run_cons, ← hrest.here_front, Bool.and_eq_true, Bool.or_eq_true]

theorem isBefore_beforeBlanks
    {text : Text} {marks : Marks} (hlength : marks.length = text.length + 1) :
    IsBefore Blanks text marks (beforeBlanks text marks) :=
  ((IsBefore.self hlength).union (isBefore_beforeRun Text.isBlank text marks)).congr
    fun _ => blanks_iff.symm

theorem leads_word {text : Text} {marks : Marks} {word : Text} :
    leads text marks word ↔ Leads (· = word) text marks := by
  simp only [leads, Bool.and_eq_true, List.isPrefixOf_iff_prefix]
  constructor
  · rintro ⟨⟨back, rfl⟩, hhere⟩
    exact ⟨word, back, rfl, rfl, hhere⟩
  · rintro ⟨_, back, rfl, rfl, hhere⟩
    exact ⟨List.prefix_append _ back, hhere⟩

theorem any_leads {choices : List Text} {text : Text} {marks : Marks} :
    choices.any (leads text marks) ↔ Leads (· ∈ choices) text marks := by
  rw [List.any_eq_true]
  constructor
  · rintro ⟨word, hmem, hleads⟩
    exact (leads_word.mp hleads).mono fun _ heq => heq ▸ hmem
  · rintro ⟨front, back, htext, hmem, hhere⟩
    exact ⟨front, hmem, leads_word.mpr ⟨front, back, htext, rfl, hhere⟩⟩

theorem isBefore_beforeWords (choices : List Text) (text : Text) (marks : Marks) :
    IsBefore (· ∈ choices) text marks (beforeWords choices text marks) := by
  induction text generalizing marks with
  | nil => exact IsBefore.nil any_leads
  | cons c text ih => exact IsBefore.cons any_leads (ih marks.tail)

/-! ## Going back over segments -/

theorem mem_words_array
    {scope : Scope} {name text : Text} :
    text ∈ words scope (.array name) ↔ Accepts scope (.array name) text := by
  simp only [words, Accepts]
  cases scope.definitions.arrays.get? name with
  | none => simp
  | some items => cases items <;> simp [eq_comm]

theorem accepts_star {scope : Scope} {mayBeEmpty : Bool} {text : Text} :
    Accepts scope (.star mayBeEmpty) text ↔
      (mayBeEmpty ∧ text = []) ∨ Run Tag.staysOnLine text := by
  simp only [Accepts]
  have hline : '\n' ∉ text ↔ ∀ c ∈ text, Tag.staysOnLine c := by
    simp only [Tag.staysOnLine, decide_eq_true_eq]
    exact ⟨fun hmem c hc heq => hmem (heq ▸ hc), fun hall hmem => hall _ hmem rfl⟩
  rw [hline]
  cases text <;> simp [Run]

theorem accepts_alpha {scope : Scope} {text : Text} :
    Accepts scope .alpha text ↔ Run isLowerLetterOrSpace text := by
  simp [Accepts, Run, isLowerLetterOrSpace]

mutual

theorem isBefore_before (scope : Scope) :
    ∀ (segment : Segment) {text : Text} {marks : Marks}, marks.length = text.length + 1 →
      IsBefore (Accepts scope segment) text marks (before scope segment text marks)
  | .star mayBeEmpty, text, marks, hlength => by
    have hrun := isBefore_beforeRun Tag.staysOnLine text marks
    unfold before
    cases mayBeEmpty with
    | false => exact hrun.congr fun _ => by simp [accepts_star]
    | true => exact ((IsBefore.self hlength).union hrun).congr fun _ => by simp [accepts_star]
  | .number, text, marks, _ => by
    unfold before Accepts
    exact isBefore_beforeRun Text.isDecimalDigit text marks
  | .alpha, text, marks, _ => by
    unfold before
    exact (isBefore_beforeRun isLowerLetterOrSpace text marks).congr fun _ => accepts_alpha.symm
  | .optional alternatives, text, marks, hlength => by
    have hafter := isBefore_beforeBlanks hlength
    have hinside := isBefore_beforeAlternatives scope alternatives hafter.length_eq
    have hlead := isBefore_beforeBlanks hinside.length_eq
    unfold before Accepts
    exact hafter.union (hlead.trans (hinside.trans hafter))
  | .group alternatives, text, marks, hlength => by
    unfold before Accepts
    exact isBefore_beforeAlternatives scope alternatives hlength
  | .literal _, text, marks, _ | .botVariable _, text, marks, _ | .userVariable _, text, marks, _
  | .input _, text, marks, _ | .reply _, text, marks, _ => by
    unfold before Accepts
    exact (isBefore_beforeWords _ text marks).congr fun _ => List.mem_singleton
  | .array name, text, marks, _ => by
    unfold before
    exact (isBefore_beforeWords _ text marks).congr fun _ => mem_words_array

theorem isBefore_beforeSequence (scope : Scope) :
    ∀ (segments : List Segment) {text : Text} {marks : Marks}, marks.length = text.length + 1 →
      IsBefore (AcceptsSequence scope segments) text marks (beforeSequence scope segments text marks)
  | [], text, marks, hlength => by
    unfold beforeSequence AcceptsSequence
    exact IsBefore.self hlength
  | segment :: segments, text, marks, hlength => by
    have hrest := isBefore_beforeSequence scope segments hlength
    unfold beforeSequence AcceptsSequence
    exact (isBefore_before scope segment hrest.length_eq).trans hrest

theorem isBefore_beforeAlternatives (scope : Scope) :
    ∀ (alternatives : List (List Segment)) {text : Text} {marks : Marks},
      marks.length = text.length + 1 →
      IsBefore (AcceptsOne scope alternatives) text marks
        (beforeAlternatives scope alternatives text marks)
  | [], text, marks, _ => by
    unfold beforeAlternatives AcceptsOne
    exact IsBefore.nowhere
  | alternative :: alternatives, text, marks, hlength => by
    unfold beforeAlternatives AcceptsOne
    exact (isBefore_beforeSequence scope alternative hlength).union
      (isBefore_beforeAlternatives scope alternatives hlength)

end

end Pattern

end DialogueScript

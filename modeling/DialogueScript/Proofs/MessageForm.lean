import DialogueScript.Proofs.LowerCase
import DialogueScript.Proofs.SubstitutionScan
import DialogueScript.Proofs.TriggerLookup
import DialogueScript.Proofs.Trimming

/-!
# The form of a normalized message

Triggers are written in lower case, so a message is put into lower case, its accents are folded and
it is trimmed before it is matched.  Substitutions are made after the first two of these steps, and
what they write stands as it is in their table.  A normalized message is therefore folded exactly
when each output that was written into it is.
-/

namespace DialogueScript

namespace Persona

/-! ## Folded texts -/

/-- A text in lower case, without a letter whose accent may be left out. -/
structure Folded (text : Text) : Prop where
  lower_eq : Text.lower text = text
  unaccented_eq : ∀ c ∈ text, unaccented c = c

def fold (message : Text) : Text :=
  (Text.lower message).map unaccented

section Folded

variable {text : Text}

theorem folded_iff :
    Folded text ↔ ∀ c ∈ text, Text.lowerChar c = [c] ∧ unaccented c = c := by
  rw [forall₂_and, ← Text.lower_eq_self_iff]
  exact ⟨fun hfolded => ⟨hfolded.lower_eq, hfolded.unaccented_eq⟩, fun h => ⟨h.1, h.2⟩⟩

theorem folded_append {front back : Text} :
    Folded (front ++ back) ↔ Folded front ∧ Folded back := by
  simp only [folded_iff, List.forall_mem_append]

theorem folded_flatMap {α : Type} {items : List α} {f : α → Text} :
    Folded (items.flatMap f) ↔ ∀ item ∈ items, Folded (f item) := by
  simp only [folded_iff, List.forall_mem_flatMap]

theorem folded_of_forall_isBlank (hblank : ∀ c ∈ text, Text.isBlank c) : Folded text := by
  have hall : ∀ n ∈ List.range' 9 5 ++ List.range' 0x2000 11 ++
      [0x20, 0x85, 0xA0, 0x1680, 0x2028, 0x2029, 0x202F, 0x205F, 0x3000],
      Text.lowerChar (Char.ofNat n) = [Char.ofNat n] ∧
        unaccented (Char.ofNat n) = Char.ofNat n := by
    decide +kernel
  refine folded_iff.mpr fun c hmem => ?_
  have hcode := hblank c hmem
  simp only [Text.isBlank, Bool.or_eq_true, Bool.and_eq_true, decide_eq_true_eq] at hcode
  rw [← Char.ofNat_toNat c]
  refine hall c.toNat ?_
  simp only [List.mem_append, List.mem_range'_1, List.mem_cons, List.not_mem_nil, or_false]
  omega

theorem folded_trim : Folded (Text.trim text) ↔ Folded text := by
  obtain ⟨front, back, htext, hfront, hback⟩ := Text.exists_eq_append_trim text
  conv_rhs => rw [htext]
  rw [folded_append, folded_append]
  exact ⟨fun htrim => ⟨⟨folded_of_forall_isBlank hfront, htrim⟩, folded_of_forall_isBlank hback⟩,
    fun h => h.1.2⟩

theorem folded_fold (message : Text) : Folded (fold message) := by
  refine folded_iff.mpr fun c hmem => ?_
  obtain ⟨d, hlower, rfl⟩ := List.mem_map.mp hmem
  have hletters : "aeiounc".toList.all fun letter =>
      Text.lowerChar letter = [letter] ∧ unaccented letter = letter := by
    decide +kernel
  have hcases : unaccented d = d ∨ unaccented d ∈ "aeiounc".toList := by
    unfold unaccented
    repeat' split
    all_goals simp
  rcases hcases with hsame | hletter
  · rw [hsame]
    exact ⟨Text.lowerChar_of_mem_lowerAfter hlower, hsame⟩
  · exact of_decide_eq_true (List.all_eq_true.mp hletters _ hletter)

end Folded

end Persona

namespace Substitutions

open Persona

/-! ## What a pass writes into a folded text -/

variable {substitutions : Substitutions} {text : Text}

theorem Scanned.replace_of_mem
    {previous : Option Char} {edits : List Edit} (hscanned : substitutions.Scanned previous text edits)
    {found output : Text} (hmem : .replace found output ∈ edits) :
    found ≠ [] ∧ substitutions.table.get? (Text.lower found) = some output := by
  induction hscanned with
  | done previous => cases hmem
  | take candidate hlongest hboundaries hrest ih =>
    rcases List.mem_cons.mp hmem with hedit | hlater
    · unfold editOf at hedit
      split at hedit
      · rename_i hget
        obtain ⟨rfl, rfl⟩ := Edit.replace.inj hedit
        exact ⟨hlongest.holds.found_ne_nil, hget⟩
      · cases hedit
    · exact ih hlater
  | copy hnone hrest ih =>
    exact ih ((List.mem_cons.mp hmem).resolve_left nofun)

theorem stripCase?_self (text : Text) : Text.stripCase? text text = some (text, []) := by
  induction text with
  | nil => rfl
  | cons c text ih => simp [Text.stripCase?, Text.sameLetter, ih]

/-- A pattern is replaced where it is the whole text. -/
theorem scan_pattern
    {pattern output : Text} (hne : pattern ≠ []) (hlower : Text.lower pattern = pattern)
    (hget : substitutions.table.get? pattern = some output) :
    substitutions.scan pattern = [.replace pattern output] := by
  have hself : (Candidate.mk pattern output pattern []).Matches substitutions pattern :=
    ⟨hne, hget, stripCase?_self pattern⟩
  have hmatch : match? substitutions.patterns pattern = some (pattern, []) := by
    cases hmatch : match? substitutions.patterns pattern with
    | none => exact absurd hself (not_matches_of_match?_eq_none hmatch _)
    | some part =>
      obtain ⟨found, after⟩ := part
      -- the longest pattern that matches is as long as the text, since the pattern itself matches
      obtain ⟨longest, hlongest, rfl, rfl⟩ := isLongest_of_match? hmatch
      have htext := hlongest.holds.text_eq
      have hlength : longest.found.length = pattern.length := by
        refine Nat.le_antisymm ?_ ?_
        · conv_rhs => rw [htext]
          rw [List.length_append]
          omega
        · rw [hlongest.holds.length_found]
          exact hlongest.length_le _ hself
      obtain ⟨hfound, hafter⟩ := List.append_inj ((List.append_nil pattern).trans htext) hlength.symm
      rw [← hfound, ← hafter]
  have hscan : substitutions.scanAfter none 0 (pattern ++ []) =
      substitutions.editOf pattern :: substitutions.scanAfter pattern.getLast? 0 [] :=
    scanAfter_found hne (by rwa [List.append_nil]) rfl
  rw [List.append_nil] at hscan
  rw [scan, hscan, editOf, hlower, hget]
  rfl

theorem folded_apply (hfolded : Folded text) :
    Folded (substitutions.apply text) ↔
      ∀ found output, .replace found output ∈ substitutions.scan text → Folded output := by
  have hread : (substitutions.scan text).flatMap Edit.read = text :=
    (scanned_scanAfter none text).flatMap_read
  have hwritten : (substitutions.scan text).flatMap Edit.written = substitutions.apply text :=
    flatMap_written_scanAfter none 0 text
  rw [← hread, folded_flatMap] at hfolded
  rw [← hwritten, folded_flatMap]
  constructor
  · intro hall found output hmem
    exact hall _ hmem
  · intro houtputs edit hmem
    cases edit with
    | keep part => exact hfolded _ hmem
    | replace found output => exact houtputs found output hmem

/-- Only a folded pattern finds anything in a folded text. -/
theorem folded_of_mem_scan
    (hfolded : Folded text) {found output : Text}
    (hmem : .replace found output ∈ substitutions.scan text) :
    found ≠ [] ∧ Folded found ∧ substitutions.table.get? found = some output := by
  have hscanned := substitutions.scanned_scanAfter none text
  obtain ⟨hne, hget⟩ := hscanned.replace_of_mem hmem
  rw [← hscanned.flatMap_read, folded_flatMap] at hfolded
  have hfound : Folded found := hfolded _ hmem
  rw [hfound.lower_eq] at hget
  exact ⟨hne, hfound, hget⟩

end Substitutions

namespace Persona

open Substitutions

theorem folded_normalize {persona : Persona} {message : Text} :
    Folded (persona.normalize message) ↔
      ∀ found output,
        .replace found output ∈ persona.definitions.substitutions.scan (fold message) →
          Folded output :=
  folded_trim.trans (folded_apply (folded_fold message))

theorem fold_eq_self {text : Text} (hfolded : Folded text) : fold text = text := by
  rw [fold, hfolded.lower_eq, List.map_congr_left hfolded.unaccented_eq, List.map_id']

theorem normalize_pattern
    {persona : Persona} {pattern output : Text} (hne : pattern ≠ []) (hfolded : Folded pattern)
    (hget : persona.definitions.substitutions.table.get? pattern = some output) :
    persona.normalize pattern = Text.trim output := by
  have hscan := scan_pattern hne hfolded.lower_eq hget
  have hwritten : persona.definitions.substitutions.apply pattern = output := by
    rw [apply, ← flatMap_written_scanAfter, ← scan, hscan]
    exact List.append_nil output
  have hfold : fold pattern = pattern := fold_eq_self hfolded
  rw [normalize, ← fold, hfold, hwritten]

/-- A normalized message is trimmed, and it is folded exactly when each output that was written into
it is.  So all of them are folded exactly when the output of every pattern is, the empty pattern and
those that are not folded themselves left aside: these two find nothing. -/
theorem normalize_is_folded_iff (persona : Persona) :
    let substitutions := persona.definitions.substitutions
    (∀ message, Text.trim (persona.normalize message) = persona.normalize message) ∧
    (∀ message, Folded (persona.normalize message) ↔
      ∀ found output, .replace found output ∈ substitutions.scan (fold message) →
        Folded output) ∧
    ((∀ message, Folded (persona.normalize message)) ↔
      ∀ pattern output, pattern ≠ [] → Folded pattern →
        substitutions.table.get? pattern = some output → Folded output) := by
  intro substitutions
  refine ⟨fun message => Text.trim_trim _, fun message => folded_normalize, ?_, ?_⟩
  · intro hall pattern output hne hfolded hget
    have hnormal := hall pattern
    rwa [normalize_pattern hne hfolded hget, folded_trim] at hnormal
  · intro houtputs message
    refine folded_normalize.mpr fun found output hmem => ?_
    obtain ⟨hne, hfound, hget⟩ := folded_of_mem_scan (folded_fold message) hmem
    exact houtputs found output hne hfound hget

end Persona

/-- A substitution may write capitals, which no pattern in lower case matches. -/
theorem Bot.substitution_writes_capitals :
    let bot := Bot.ofScript "! sub u = YOU\n+ you\n- ok".toList
    bot.Reachable ∧ bot.mind.live.persona.normalize "u".toList = "YOU".toList ∧
      Text.lower "YOU".toList ≠ "YOU".toList ∧
      ¬ ∀ message, Persona.Folded (bot.mind.live.persona.normalize message) := by
  intro bot
  have hget : bot.mind.live.persona.definitions.substitutions.table.get? "u".toList =
      some "YOU".toList := by
    decide +kernel
  have hfolded : Persona.Folded "u".toList :=
    ⟨by decide +kernel, by simp [Persona.unaccented]⟩
  have hcapitals : Text.lower "YOU".toList ≠ "YOU".toList := by
    decide +kernel
  have hnormal : bot.mind.live.persona.normalize "u".toList = "YOU".toList :=
    Persona.normalize_pattern (by decide) hfolded hget
  refine ⟨Bot.reachable_ofScript _, hnormal, hcapitals, fun hall => hcapitals ?_⟩
  rw [← hnormal]
  exact (hall "u".toList).lower_eq

end DialogueScript

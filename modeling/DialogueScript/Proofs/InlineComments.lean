import DialogueScript.Proofs.Changes
import DialogueScript.Proofs.ScriptEvents
import DialogueScript.Proofs.Trimming
import DialogueScript.Proofs.WeightTags

/-!
# Comments at the end of a line

A directive drops what stands behind the mark of a comment on its own line.  What it gathers from
the lines below is taken as it stands, comments included.  So a comment at the end of a line is
without effect unless a directive above gathers this line; and the line itself has to have the mark
in it once it is trimmed, no earlier than it is written.
-/

namespace DialogueScript

namespace Text

/-! ## Finding a mark -/

theorem strip?_append_of_length_le
    {lead text : Text} (hlength : lead.length ≤ text.length) (rest : Text) :
    strip? lead (text ++ rest) = (strip? lead text).map (· ++ rest) := by
  induction lead generalizing text with
  | nil => simp [strip?]
  | cons c lead ih =>
    cases text with
    | nil => simp at hlength
    | cons d text =>
      rw [List.cons_append, strip?, strip?]
      split
      · exact ih (Nat.le_of_succ_le_succ hlength)
      · rfl

theorem cut?_append
    {mark text front back : Text} (hcut : cut? mark text = some (front, back)) (rest : Text) :
    cut? mark (text ++ rest) = some (front, back ++ rest) := by
  have hlength : mark.length ≤ text.length := by
    simp only [eq_append_of_cut? hcut, List.length_append]
    omega
  induction text generalizing front with
  | nil =>
    obtain rfl : mark = [] := by simpa using hlength
    obtain ⟨rfl, rfl⟩ : [] = front ∧ [] = back := by simpa [cut?] using hcut
    cases rest <;> simp [cut?, strip?]
  | cons c text ih =>
    rw [List.cons_append, cut?, ← List.cons_append, strip?_append_of_length_le hlength]
    rw [cut?] at hcut
    cases hstrip : strip? mark (c :: text) with
    | some after =>
      rw [hstrip] at hcut
      obtain ⟨rfl, rfl⟩ : [] = front ∧ after = back := by simpa using hcut
      rfl
    | none =>
      rw [hstrip] at hcut
      obtain ⟨⟨before, after⟩, hfound, heq⟩ := Option.map_eq_some_iff.mp hcut
      obtain ⟨rfl, rfl⟩ : c :: before = front ∧ after = back := by simpa using heq
      have hshorter : mark.length ≤ text.length := by
        simp only [eq_append_of_cut? hfound, List.length_append]
        omega
      simp [ih hfound hshorter]

theorem contains_append_of_contains {mark text : Text} (hmark : contains mark text) (rest : Text) :
    contains mark (text ++ rest) := by
  obtain ⟨⟨front, back⟩, hcut⟩ := Option.isSome_iff_exists.mp hmark
  rw [contains, cut?_append hcut]
  rfl

theorem before_append_of_contains {mark text : Text} (hmark : contains mark text) (rest : Text) :
    before mark (text ++ rest) = before mark text := by
  obtain ⟨⟨front, back⟩, hcut⟩ := Option.isSome_iff_exists.mp hmark
  rw [before, before, cut?_append hcut, hcut]

theorem before_of_not_contains {mark text : Text} (hmark : ¬ contains mark text) :
    before mark text = text := by
  rw [contains, Option.not_isSome_iff_eq_none] at hmark
  rw [before, hmark]

theorem contains_cons (mark : Text) (c : Char) (text : Text) :
    contains mark (c :: text) = ((strip? mark (c :: text)).isSome || contains mark text) := by
  rw [contains, cut?]
  cases strip? mark (c :: text) with
  | some after => rfl
  | none => simp [contains]

/-- What stands before the first occurrence of a mark is no longer than what stands before any. -/
theorem length_before_le (mark front rest : Text) :
    (before mark (front ++ mark ++ rest)).length ≤ front.length := by
  suffices hcut : ∃ found, cut? mark (front ++ mark ++ rest) = some found ∧
      found.1.length ≤ front.length by
    obtain ⟨found, hcut, hlength⟩ := hcut
    rwa [before, hcut]
  induction front with
  | nil =>
    rw [List.nil_append]
    refine ⟨([], rest), ?_, le_rfl⟩
    cases hmark : mark ++ rest with
    | nil =>
      obtain ⟨rfl, rfl⟩ := List.append_eq_nil_iff.mp hmark
      rfl
    | cons c text => rw [cut?, ← hmark, strip?_append]
  | cons c front ih =>
    obtain ⟨found, hcut, hlength⟩ := ih
    rw [List.cons_append, List.cons_append, cut?, hcut]
    cases strip? mark (c :: (front ++ mark ++ rest)) with
    | some after => exact ⟨_, rfl, Nat.zero_le _⟩
    | none => exact ⟨_, rfl, Nat.succ_le_succ hlength⟩

/-- All of a text stands before a mark, or there is room for the mark behind it. -/
theorem before_eq_or_length_le (mark text : Text) :
    before mark text = text ∨ (before mark text).length + mark.length ≤ text.length := by
  cases hcut : cut? mark text with
  | none => exact .inl (before_of_not_contains (by simp [contains, hcut]))
  | some found =>
    right
    obtain ⟨front, back⟩ := found
    have hbefore : before mark text = front := by
      rw [before, hcut]
    rw [hbefore, eq_append_of_cut? hcut, List.length_append, List.length_append]
    omega

/-- A mark is found on either side of a character that it does not have. -/
theorem contains_append_cons
    {mark : Text} {c : Char} (hmark : mark ≠ []) (hc : c ∉ mark) (text rest : Text) :
    contains mark (text ++ c :: rest) = (contains mark text || contains mark rest) := by
  have hstart : strip? mark (c :: rest) = none := by
    have hstrip := strip?_append_cons hc [] rest
    have hnone : strip? mark [] = none := by
      cases mark with
      | nil => exact absurd rfl hmark
      | cons d mark => rfl
    rwa [hnone] at hstrip
  induction text with
  | nil =>
    have hempty : contains mark [] = false := by
      simp [contains, cut?, hmark]
    rw [List.nil_append, hempty, Bool.false_or, contains, cut?, hstart, Option.isSome_map, contains]
  | cons d text ih =>
    unfold contains at ih ⊢
    rw [List.cons_append, cut?, cut?, ← List.cons_append, strip?_append_cons hc]
    cases strip? mark (d :: text) with
    | some after => rfl
    | none => simpa using ih

/-! ## Trimming a text with more behind it -/

theorem trimEnd_append {back : Text} (hback : trimEnd back ≠ []) (front : Text) :
    trimEnd (front ++ back) = front ++ trimEnd back := by
  have hrest : ¬ (back.reverse.dropWhile isBlank).isEmpty := by
    simpa [trimEnd] using hback
  rw [trimEnd, List.reverse_append, List.dropWhile_append, if_neg hrest, List.reverse_append,
    List.reverse_reverse, trimEnd]

theorem trimEnd_append_of_isBlank {back : Text} (hback : ∀ c ∈ back, isBlank c) (front : Text) :
    trimEnd (front ++ back) = trimEnd front := by
  have hrest : (back.reverse.dropWhile isBlank).isEmpty := by
    simpa using hback
  rw [trimEnd, List.reverse_append, List.dropWhile_append, if_pos hrest, trimEnd]

theorem trim_append {front : Text} (hfront : trimStart front ≠ []) {back : Text}
    (hback : trimEnd back ≠ []) :
    trim (front ++ back) = trimStart front ++ trimEnd back := by
  have hrest : ¬ (front.dropWhile isBlank).isEmpty := by
    simpa [trimStart] using hfront
  rw [trim, trimStart, List.dropWhile_append, if_neg hrest, trimEnd_append hback, trimStart]

theorem trimStart_of_trim_cons {c : Char} {rest : Text} (htrim : trim (c :: rest) = c :: rest) :
    trimStart (c :: rest) = c :: rest := by
  refine List.dropWhile_cons_of_neg fun hblank => ?_
  obtain ⟨front, back, heq, -⟩ := exists_eq_append_trim rest
  rw [trim_cons_of_isBlank hblank] at htrim
  have hlength := congrArg List.length heq
  simp only [htrim, List.length_append, List.length_cons] at hlength
  omega

/-- Of a trimmed text, the part behind its first character has no white space at its end. -/
theorem trimStart_eq_trim_of_trim_cons
    {c : Char} {rest : Text} (htrim : trim (c :: rest) = c :: rest) (hrest : trim rest ≠ []) :
    trimStart rest = trim rest := by
  have hend : trimEnd (trimStart rest) ≠ [] := hrest
  obtain ⟨lead, hlead⟩ : ∃ lead, rest = lead ++ trimStart rest :=
    ⟨rest.takeWhile isBlank, List.takeWhile_append_dropWhile.symm⟩
  rw [trim, trimStart_of_trim_cons htrim, hlead, ← List.cons_append, trimEnd_append hend] at htrim
  exact (List.append_cancel_left htrim).symm

end Text

namespace Script

/-! ## The comment and its line -/

/-- What a comment adds to a line once the line is trimmed. -/
def commentTail (note : Text) : Text :=
  Text.trimEnd (commentMark ++ note)

theorem commentTail_eq (note : Text) :
    commentTail note =
      if Text.trimEnd note = [] then " //".toList else commentMark ++ Text.trimEnd note := by
  unfold commentTail
  split
  · rename_i hblank
    have hback : ∀ c ∈ ' ' :: note, Text.isBlank c := by
      rw [List.forall_mem_cons]
      exact ⟨rfl, by simpa [Text.trimEnd] using hblank⟩
    exact Text.trimEnd_append_of_isBlank hback " //".toList
  · rename_i hnote
    exact Text.trimEnd_append hnote commentMark

theorem commentTail_ne_nil (note : Text) : commentTail note ≠ [] := by
  rw [commentTail_eq]
  split
  · decide
  · simp [commentMark]

/-- A mark that is written behind a text is the first one, unless its own blank completes one that
begins earlier. -/
theorem before_append_commentMark
    {body : Text} (hmark : ¬ Text.contains commentMark body) (hend : ¬ " //".toList <:+ body)
    (rest : Text) :
    Text.before commentMark (body ++ (commentMark ++ rest)) = body := by
  suffices hcut : Text.cut? commentMark (body ++ (commentMark ++ rest)) = some (body, rest) by
    rw [Text.before, hcut]
  induction body with
  | nil => rfl
  | cons c body ih =>
    rw [Text.contains_cons, Bool.or_eq_true, not_or, Option.not_isSome_iff_eq_none] at hmark
    obtain ⟨hstart, hbody⟩ := hmark
    have hstrip : Text.strip? commentMark (c :: (body ++ (commentMark ++ rest))) = none := by
      by_cases hlength : commentMark.length ≤ (c :: body).length
      · rw [← List.cons_append, Text.strip?_append_of_length_le hlength, hstart, Option.map_none]
      · match body, hlength with
        | [], _ => simp [Text.strip?, commentMark]
        | [_], _ => simp [Text.strip?, commentMark]
        | [d, e], _ =>
          have hne : ¬ (' ' = c ∧ '/' = d ∧ '/' = e) := by
            rintro ⟨rfl, rfl, rfl⟩
            exact hend (List.suffix_refl _)
          simpa [Text.strip?, commentMark] using hne
        | _ :: _ :: _ :: _, hlength => simp [commentMark] at hlength
    have hshorter : ¬ " //".toList <:+ body := fun hsuffix =>
      hend (hsuffix.trans (List.suffix_cons c body))
    rw [List.cons_append, Text.cut?, hstrip, ih hbody hshorter]
    rfl

theorem before_append_commentTail_iff (body note : Text) :
    Text.before commentMark (body ++ commentTail note) = Text.before commentMark body ↔
      Text.contains commentMark body ∨
        (Text.trimEnd note ≠ [] ∧ ¬ " //".toList <:+ body) := by
  by_cases hmark : Text.contains commentMark body
  · simp [hmark, Text.before_append_of_contains hmark]
  rw [Text.before_of_not_contains hmark, or_iff_right hmark, commentTail_eq]
  by_cases hblank : Text.trimEnd note = []
  · rw [if_pos hblank, iff_false_right fun hkeeps => hkeeps.1 hblank]
    intro hsame
    rcases Text.before_eq_or_length_le commentMark (body ++ " //".toList) with hwhole | hlength
    · exact List.cons_ne_nil _ _ (List.append_right_eq_self.mp (hwhole.symm.trans hsame))
    · rw [hsame, List.length_append] at hlength
      exact absurd (Nat.le_of_add_le_add_left hlength) (by decide)
  · rw [if_neg hblank, and_iff_right hblank]
    constructor
    · intro hsame hsuffix
      obtain ⟨front, rfl⟩ := hsuffix
      have hlonger := Text.length_before_le commentMark front ("// ".toList ++ Text.trimEnd note)
      have hshift : front ++ " //".toList ++ (commentMark ++ Text.trimEnd note) =
          front ++ commentMark ++ ("// ".toList ++ Text.trimEnd note) := by
        simp [commentMark]
      rw [← hshift, hsame, List.length_append] at hlonger
      exact absurd hlonger (Nat.not_le.mpr (Nat.lt_add_of_pos_right (by decide)))
    · intro hend
      exact before_append_commentMark hmark hend _

/-! ## Reading the line -/

/-- The commands of all directives. -/
def commands : List Char :=
  "!><+%-^@*&=".toList

/-- A line with a comment behind it. -/
def commented (line note : Text) : Text :=
  line ++ (commentMark ++ note)

section Line

variable {command : Char} {rest : Text} (hline : Text.trim (command :: rest) = command :: rest)
  (note : Text)

include hline

theorem trim_commented :
    Text.trim (commented (command :: rest) note) = command :: (rest ++ commentTail note) := by
  have hstart := Text.trimStart_of_trim_cons hline
  have hne : Text.trimStart (command :: rest) ≠ [] := by
    rw [hstart]
    exact List.cons_ne_nil _ _
  rw [commented, Text.trim_append hne (commentTail_ne_nil note), hstart]
  rfl

theorem trim_append_commentTail (hbody : Text.trim rest ≠ []) :
    Text.trim (rest ++ commentTail note) = Text.trim rest ++ commentTail note := by
  have hstart := Text.trimStart_eq_trim_of_trim_cons hline hbody
  have hend : Text.trimEnd (commentTail note) = commentTail note :=
    List.rdropWhile_idempotent ..
  have hnote : Text.trimEnd (commentTail note) ≠ [] := by
    rw [hend]
    exact commentTail_ne_nil note
  rw [Text.trim_append (by rwa [hstart]) hnote, hstart, hend]

end Line

theorem contains_append_commentTail
    {note : Text} (hnote : ¬ Text.contains "*/".toList note) (line : Text) :
    Text.contains "*/".toList (line ++ commentTail note) = Text.contains "*/".toList line := by
  have hmark : "*/".toList ≠ [] := by decide
  have hblank : ' ' ∉ "*/".toList := by decide
  rw [commentTail_eq]
  split
  · have htail := Text.contains_append_cons hmark hblank line "//".toList
    exact htail.trans (Bool.or_false _)
  · have htail := Text.contains_append_cons hmark hblank line ("// ".toList ++ Text.trimEnd note)
    have hcomment := Text.contains_append_cons hmark hblank "//".toList (Text.trimEnd note)
    have htrimmed : Text.contains "*/".toList (Text.trimEnd note) = false := by
      rw [Bool.eq_false_iff]
      intro hcontains
      obtain ⟨back, hback⟩ : Text.trimEnd note <+: note := List.rdropWhile_prefix ..
      exact hnote (hback ▸ Text.contains_append_of_contains hcontains back)
    rw [htrimmed] at hcomment
    refine htail.trans ?_
    rw [show "// ".toList ++ Text.trimEnd note = "//".toList ++ ' ' :: Text.trimEnd note from rfl,
      hcomment]
    exact Bool.or_false _

theorem readsLine_of_mem_commands
    {command : Char} (hcommand : command ∈ commands) {rest : Text} (hrest : rest ≠ [])
    (inComment : Bool) :
    readsLine inComment (command :: rest) =
      if Text.contains "*/".toList (command :: rest) then (false, false)
      else (inComment, !inComment) := by
  have hslash : '/' ≠ command := by
    rintro rfl
    exact absurd hcommand (by decide)
  have hbegins : ∀ lead, Text.beginsWith ('/' :: lead) (command :: rest) = false := by
    intro lead
    rw [Text.beginsWith, Text.strip?, if_neg hslash, Option.isSome_none]
  have hlength : 1 ≤ rest.length := List.length_pos_of_ne_nil hrest
  unfold readsLine
  rw [show "/*".toList = ['/', '*'] from rfl, hbegins, hbegins]
  simp [hlength]

/-! ## Gathering the line -/

/-- Whether a directive takes something from a line with a body. -/
def takes (command next : Char) : Bool :=
  next = '^' || (command = '+' && next = '%')

/-- Whether gathering goes past lines: those with a body continue the directive. -/
def bridges (lines : List Text) : Bool :=
  lines.all fun line => (command? line).all (· = '^')

theorem gather_cons
    {line : Text} {next : Char} {rest : Text} (htrim : Text.trim line = next :: rest)
    (hbody : Text.trim rest ≠ []) (command : Char) (text : Text) (below : List Text) :
    gather command text (line :: below) =
      if command = '+' && next = '%' then (text, some (Text.trim rest))
      else if next = '^' then
        gather command ((if command = '!' then text ++ Definitions.lineMark else text) ++
          Text.trim rest) below
      else (text, none) := by
  simp [gather, htrim, hbody]

theorem gather_inj (command : Char) {text other : Text} (below : List Text) :
    gather command text below = gather command other below ↔ text = other := by
  have hfront : ∀ text, (gather command text below).1 = text ++ (gather command [] below).1 := by
    intro text
    have htext := gather_append_text command text [] below
    rw [List.append_nil] at htext
    rw [htext]
  refine ⟨fun hsame => ?_, fun hsame => by rw [hsame]⟩
  have hfirst := congrArg Prod.fst hsame
  rw [hfront, hfront other] at hfirst
  exact List.append_cancel_right hfirst

section Gather

variable {line other : Text} {next : Char} {rest more tail : Text}
  (hline : Text.trim line = next :: rest) (hbody : Text.trim rest ≠ [])
  (hother : Text.trim other = next :: more) (hmore : Text.trim more = Text.trim rest ++ tail)
  (htail : tail ≠ [])

include hline hbody hother hmore htail

theorem gather_cons_eq_iff (command : Char) (text : Text) (below : List Text) :
    gather command text (other :: below) = gather command text (line :: below) ↔
      ¬ takes command next := by
  have hlonger : Text.trim more ≠ [] := by
    simp [hmore, hbody]
  rw [gather_cons hline hbody, gather_cons hother hlonger, hmore, takes]
  split
  · rename_i hpair
    simp [hpair, htail]
  · rename_i hpair
    split
    · rename_i hcontinues
      rw [← List.append_assoc, iff_false_right (by simp [hcontinues])]
      rw [gather_inj, List.append_right_eq_self]
      exact htail
    · rename_i hcontinues
      simp [hpair, hcontinues]

/-- Of two lines, the second with more in its body, the same is gathered where neither is taken. -/
theorem gather_append_cons_eq_iff (command : Char) (text : Text) (between below : List Text) :
    gather command text (between ++ other :: below) =
        gather command text (between ++ line :: below) ↔
      ¬ (bridges between ∧ takes command next) := by
  induction between generalizing text with
  | nil =>
    simpa [bridges] using gather_cons_eq_iff hline hbody hother hmore htail command text below
  | cons first between ih =>
    obtain ⟨hnone, hgather⟩ | ⟨next, body, hsome, hgather⟩ := gather_cons_cases first
    · rw [List.cons_append, List.cons_append, hgather, hgather]
      simpa [bridges, hnone] using ih text
    · rw [List.cons_append, List.cons_append, hgather, hgather]
      by_cases hcontinues : next = '^'
      · subst hcontinues
        simpa [bridges, hsome] using ih _
      · have hends : ¬ bridges (first :: between) := by
          simp [bridges, hsome, hcontinues]
        simp [hends, hcontinues]

end Gather

/-! ## What the lines come to -/

/-- Whether a line that is read takes something from a line below with the command `next`. -/
def reaches (next : Char) (mode : Mode) (line : Text) (between : List Text) : Bool :=
  (mode.directive? line).any fun directive => bridges between && takes directive.1 next

/-- Whether one of the lines above takes something from the line with the command `next`. -/
def isGathered (next : Char) (below : List Text) (mode : Mode) : List Text → Bool
  | [] => false
  | line :: between =>
    reaches next mode line between ||
      ((mode.event line (between ++ below)).next mode).any fun mode =>
        isGathered next below mode between

/-- Whether a line comes to the same with a comment behind it, as far as its own text goes: it is
no directive of its own, or the mark of the comment is the first one in it, or not needed. -/
def CutsOff (command : Char) (rest note : Text) : Prop :=
  command = '^' ∨ command = '%' ∨ Text.contains "*/".toList (command :: rest) ∨
    Text.contains commentMark (Text.trim rest) ∨
      (Text.trimEnd note ≠ [] ∧ ¬ " //".toList <:+ Text.trim rest)

instance (command : Char) (rest note : Text) : Decidable (CutsOff command rest note) :=
  inferInstanceAs (Decidable (_ ∨ _))

theorem event_of_mem_commands
    {command : Char} (hcommand : command ∈ commands) {line rest : Text}
    (htrim : Text.trim line = command :: rest) (hrest : rest ≠ []) (below : List Text) :
    let gathered := gather command (Text.before commentMark (Text.trim rest)) below
    Mode.event {} line below =
      if command = '^' ∨ command = '%' ∨ Text.contains "*/".toList (command :: rest) then
        .pass false
      else .directive command gathered.1 gathered.2 := by
  intro gathered
  have hreads := readsLine_of_mem_commands hcommand hrest false
  generalize Text.contains "*/".toList (command :: rest) = closes at hreads ⊢
  split
  · rename_i hskip
    have hnone : Mode.directive? {} line = none := by
      rcases hskip with rfl | rfl | rfl <;> simp [Mode.directive?, htrim, hreads]
    cases closes <;> simp [Mode.event, hnone, htrim, hreads]
  · rename_i hread
    obtain ⟨hcaret, hpercent, hopen⟩ := by simpa only [not_or] using hread
    obtain rfl : closes = false := Bool.eq_false_iff.mpr hopen
    refine Mode.event_eq_of_directive? ?_ below
    simp [Mode.directive?, htrim, hreads, hcaret, hpercent]

section Comment

variable {command : Char} (hcommand : command ∈ commands) {rest : Text}
  (hline : Text.trim (command :: rest) = command :: rest) (hbody : Text.trim rest ≠ [])
  (note : Text) (below : List Text)

include hline hbody

theorem event_commented_below_iff (mode : Mode) (line : Text) (between : List Text) :
    mode.event line (between ++ commented (command :: rest) note :: below) =
        mode.event line (between ++ (command :: rest) :: below) ↔
      ¬ reaches command mode line between := by
  cases hdirective : mode.directive? line with
  | none => simpa [reaches, hdirective] using Mode.event_of_directive?_eq_none hdirective _ _
  | some directive =>
    obtain ⟨reading, text⟩ := directive
    have hgather := gather_append_cons_eq_iff hline hbody (trim_commented hline note)
      (trim_append_commentTail hline note hbody) (commentTail_ne_nil note) reading text between
      below
    rw [Mode.event_eq_of_directive? hdirective, Mode.event_eq_of_directive? hdirective]
    simpa [reaches, hdirective, Prod.ext_iff] using hgather

include hcommand

theorem event_commented_iff (hnote : ¬ Text.contains "*/".toList note) :
    Mode.event {} (commented (command :: rest) note) below = Mode.event {} (command :: rest) below ↔
      CutsOff command rest note := by
  have hrest : rest ≠ [] := by
    rintro rfl
    exact hbody rfl
  have hlonger : rest ++ commentTail note ≠ [] := by
    simp [hrest]
  have hcloses := contains_append_commentTail hnote (command :: rest)
  rw [List.cons_append] at hcloses
  rw [event_of_mem_commands hcommand hline hrest,
    event_of_mem_commands hcommand (trim_commented hline note) hlonger, hcloses,
    trim_append_commentTail hline note hbody]
  by_cases hskip : command = '^' ∨ command = '%' ∨ Text.contains "*/".toList (command :: rest)
  · rw [if_pos hskip, if_pos hskip]
    refine iff_of_true rfl ?_
    rcases hskip with hskip | hskip | hskip
    · exact .inl hskip
    · exact .inr (.inl hskip)
    · exact .inr (.inr (.inl hskip))
  · rw [if_neg hskip, if_neg hskip, Event.directive.injEq, ← Prod.ext_iff, gather_inj,
      before_append_commentTail_iff]
    obtain ⟨hcaret, hpercent, hopen⟩ := by simpa only [not_or] using hskip
    simp only [CutsOff, hcaret, hpercent, hopen, Bool.false_eq_true, false_or, true_and]

theorem events_commented_iff
    (hnote : ¬ Text.contains "*/".toList note) (mode : Mode) (above : List Text)
    (houtside : ∀ reached, mode.through ((command :: rest) :: below) above = some reached →
      reached = {}) :
    mode.events (above ++ commented (command :: rest) note :: below) =
        mode.events (above ++ (command :: rest) :: below) ↔
      ¬ isGathered command ((command :: rest) :: below) mode above ∧
        ((mode.through ((command :: rest) :: below) above).isSome → CutsOff command rest note) := by
  induction above generalizing mode with
  | nil =>
    obtain rfl := houtside mode rfl
    have hevent := event_commented_iff hcommand hline hbody note below hnote
    simp only [List.nil_append, Mode.events, List.cons.injEq, hevent, isGathered, Mode.through,
      Option.isSome_some, forall_const, Bool.false_eq_true, not_false_iff, true_and]
    refine and_iff_left_of_imp fun hcuts => ?_
    rw [hevent.mpr hcuts]
  | cons line between ih =>
    have hevent := event_commented_below_iff hline hbody note below mode line between
    rw [List.cons_append, List.cons_append, Mode.events, Mode.events, List.cons.injEq, hevent,
      isGathered, Mode.through]
    rw [Mode.through] at houtside
    by_cases hreaches : reaches command mode line between
    · simp [hreaches]
    · rw [hevent.mpr hreaches]
      cases hnext : (mode.event line (between ++ (command :: rest) :: below)).next mode with
      | none => simp [hreaches]
      | some next =>
        rw [hnext, Option.bind_some] at houtside
        simpa [hreaches] using ih next houtside

end Comment

/-- A comment behind a directive outside of comments and objects is without effect exactly where no
line above takes anything from this line, and the line cuts the comment off: it is no directive of
its own, or it has such a mark already, or the comment is not blank and its mark does not overlap
two slashes at the end of the line.  Then all lines come to the same, and reading is the same. -/
theorem read_with_inline_comment
    {script other : Text} {above below : List Text} {command : Char} {rest note : Text}
    (hscript : Text.lines script = above ++ (command :: rest) :: below)
    (hother : Text.lines other = above ++ (command :: rest ++ (commentMark ++ note)) :: below)
    (hcommand : command ∈ commands) (hline : Text.trim (command :: rest) = command :: rest)
    (hbody : Text.trim rest ≠ []) (hnote : ¬ Text.contains "*/".toList note)
    (houtside : ∀ mode, Mode.through {} ((command :: rest) :: below) above = some mode →
      mode = {}) :
    let reached := Mode.through {} ((command :: rest) :: below) above
    let keeps := ¬ isGathered command ((command :: rest) :: below) {} above ∧
      (reached.isSome → CutsOff command rest note)
    (Mode.events {} (Text.lines other) = Mode.events {} (Text.lines script) ↔ keeps) ∧
      (keeps → ∀ collaborators persona source,
        read collaborators persona source other = read collaborators persona source script) := by
  intro reached keeps
  have hevents : Mode.events {} (Text.lines other) = Mode.events {} (Text.lines script) ↔
      keeps := by
    rw [hscript, hother]
    exact events_commented_iff hcommand hline hbody note below hnote {} above houtside
  have hlength : (Text.lines other).length = (Text.lines script).length := by
    simp only [hscript, hother, List.length_append, List.length_cons]
  exact ⟨hevents, fun hkeeps => read_eq_of_events_eq (hevents.mpr hkeeps) hlength⟩

/-- A comment behind a reply leaves it as it is, and so the line below that continues it. -/
theorem read_with_comment_behind_reply :
    let script := "+ hi\n- hello\n^ there\n".toList
    let other := "+ hi\n- hello // or so\n^ there\n".toList
    let persona := Persona.new 50
    read {} persona Mind.streamed other = read {} persona Mind.streamed script ∧
      ((Bot.ofScript other).answer ['u'] "hi".toList).2.reply = "hellothere".toList := by
  intro script other persona
  have hscript : Text.lines script =
      ["+ hi".toList] ++ ('-' :: " hello".toList) :: ["^ there".toList] := by
    decide +kernel
  have hother : Text.lines other =
      ["+ hi".toList] ++ ('-' :: " hello".toList ++ (commentMark ++ "or so".toList)) ::
        ["^ there".toList] := by
    decide +kernel
  have houtside : ∀ mode,
      Mode.through {} (('-' :: " hello".toList) :: ["^ there".toList]) ["+ hi".toList] = some mode →
        mode = {} := by
    decide +kernel
  obtain ⟨-, hread⟩ := read_with_inline_comment hscript hother (by decide) (by decide +kernel)
    (by decide +kernel) (by decide +kernel) houtside
  have hcuts : CutsOff '-' " hello".toList "or so".toList := by
    decide +kernel
  exact ⟨hread ⟨by decide +kernel, fun _ => hcuts⟩ {} persona Mind.streamed, by decide +kernel⟩

/-- What continues a reply is taken with its comment, and so is the previous reply of a trigger. -/
theorem comment_is_gathered_with_line :
    let reply := ["+ hi".toList, "- hello".toList]
    let whole := "+ hi\n- hello\n^ there\n".toList
    let annotated := "+ hi\n- hello\n^ there // friend\n".toList
    let paired := "+ *\n- are you well\n+ yes\n% are you well\n- glad\n".toList
    let unpaired := "+ *\n- are you well\n+ yes\n% are you well // now\n- glad\n".toList
    let second (script : Text) :=
      (((Bot.ofScript script).answer ['u'] "hi".toList).1.answer ['u'] "yes".toList).2.reply
    Text.lines whole = reply ++ ["^ there".toList] ∧
      Text.lines annotated = reply ++ [commented "^ there".toList "friend".toList] ∧
      Mode.through {} ["^ there".toList] reply = some {} ∧
      ((Bot.ofScript whole).answer ['u'] "hi".toList).2.reply = "hellothere".toList ∧
      ((Bot.ofScript annotated).answer ['u'] "hi".toList).2.reply = "hellothere // friend".toList ∧
      (Bot.ofScript annotated).mind.draft ≠ (Bot.ofScript whole).mind.draft ∧
      second paired = "glad".toList ∧ second unpaired = "are you well".toList := by
  intro reply whole annotated paired unpaired second
  refine ⟨?_, ?_, ?_, ?_, ?_, ?_, ?_, ?_⟩ <;> decide +kernel

end Script

end DialogueScript

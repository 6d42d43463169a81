import DialogueScript.CommandLine.Arguments
import DialogueScript.Proofs.TagOpenings
import DialogueScript.Proofs.Trimming

/-!
# Values that are joined to their options

The value of an option is the next argument, or it stands in the same one behind an equals sign.
Both ways change the settings alike, unless the value begins with the option and an equals sign once
more.  This is taken off a joined value as often as it stands there, and left on a separate one.
-/

namespace DialogueScript.CommandLine

namespace ValueOption

/-! ## What is taken off a value -/

section Repeated

variable {lead text : Text}

theorem dropRepeated_of_not_beginsWith (hlead : ¬ Text.beginsWith lead text) :
    dropRepeated lead text = text := by
  have hstrip : Text.strip? lead text = none := by
    simpa [Text.beginsWith] using hlead
  rw [dropRepeated, hstrip]

theorem dropRepeated_append (hlead : lead ≠ []) (text : Text) :
    dropRepeated lead (lead ++ text) = dropRepeated lead text := by
  have hshorter : text.length < (lead ++ text).length := by
    have hpositive := List.length_pos_iff.mpr hlead
    rw [List.length_append]
    omega
  rw [dropRepeated, Text.strip?_append]
  exact if_pos hshorter

theorem length_dropRepeated_le (lead text : Text) :
    (dropRepeated lead text).length ≤ text.length := by
  fun_induction dropRepeated lead text with
  | case1 text hstrip => exact Nat.le_refl _
  | case2 text rest hstrip hshorter ih => omega
  | case3 text rest hstrip hnot => exact Nat.le_refl _

theorem dropRepeated_eq_self_iff (hlead : lead ≠ []) :
    dropRepeated lead text = text ↔ ¬ Text.beginsWith lead text := by
  refine ⟨fun hsame hbegins => ?_, dropRepeated_of_not_beginsWith⟩
  obtain ⟨rest, hstrip⟩ := Option.isSome_iff_exists.mp hbegins
  obtain rfl := Text.eq_append_of_strip? hstrip
  have hlength := congrArg List.length hsame
  have hle := length_dropRepeated_le lead rest
  have hpositive := List.length_pos_iff.mpr hlead
  rw [dropRepeated_append hlead, List.length_append] at hlength
  omega

end Repeated

/-! ## One option with its value -/

/-- What a joined value stands behind. -/
def mark (option : ValueOption) : Text :=
  option.name ++ ['=']

def joined (option : ValueOption) (value : Text) : Text :=
  option.mark ++ value

theorem mark_ne_nil (option : ValueOption) : option.mark ≠ [] := by
  cases option <;> decide

theorem separate?_name (option : ValueOption) : separate? option.name = some option := by
  cases option <;> decide

theorem joined?_joined (option : ValueOption) (value : Text) :
    joined? (option.joined value) = some (option, dropRepeated option.mark (option.joined value)) := by
  have hself : Text.beginsWith option.mark (option.joined value) := by
    rw [Text.beginsWith, joined, Text.strip?_append]
    rfl
  have hother : ∀ other ∈ all, other ≠ option →
      Text.beginsWith other.mark (option.joined value) = false := by
    intro other hmem hne
    have hclash : ∀ other ∈ all, other ≠ option → Text.clashes other.mark option.mark := by
      cases option <;> decide
    rw [Text.beginsWith, joined, Text.strip?_append_of_clashes (hclash other hmem hne)]
    rfl
  have hfound : ∀ options : List ValueOption, option ∈ options → options ⊆ all →
      (options.findSome? fun other =>
        if Text.beginsWith other.mark (option.joined value) then
          some (other, dropRepeated other.mark (option.joined value)) else none) =
        some (option, dropRepeated option.mark (option.joined value)) := by
    intro options hmem hall
    induction options with
    | nil => exact absurd hmem List.not_mem_nil
    | cons other options ih =>
      obtain ⟨hfirst, hrest⟩ := List.cons_subset.mp hall
      rw [List.findSome?_cons]
      by_cases heq : other = option
      · rw [heq, if_pos hself]
      · rw [hother other hfirst heq]
        exact ih ((List.mem_cons.mp hmem).resolve_left (Ne.symm heq)) hrest
  exact hfound all (by cases option <;> decide) (List.Subset.refl _)

end ValueOption

open ValueOption

section Arguments

variable (isDirectory : Text → Bool) (settings : Settings)

theorem parse_joined (option : ValueOption) (value : Text) (rest : List Text) :
    parse isDirectory settings (option.joined value :: rest) =
      (option.set (dropRepeated option.mark value) settings).bind fun settings =>
        parse isDirectory settings rest := by
  have hmem : '=' ∈ option.joined value := by
    simp [joined, mark]
  have hword : ∀ word : Text, '=' ∉ word → option.joined value ≠ word :=
    fun word hnot heq => hnot (heq ▸ hmem)
  have hseparate : separate? (option.joined value) = none := by
    rw [separate?, List.find?_eq_none]
    intro other hother
    have hnames : ∀ other ∈ all, '=' ∉ other.name ∧ ∀ short ∈ other.shortName?, '=' ∉ short := by
      decide
    obtain ⟨hname, hshort⟩ := hnames other hother
    have hnot : other.shortName? ≠ some (option.joined value) := fun heq => hshort _ heq hmem
    simp [hword _ hname, hnot]
  have hhelp : asksForHelp (option.joined value) = false := by
    simp (disch := decide) [asksForHelp, hword]
  have hversion : asksForVersion (option.joined value) = false := by
    simp (disch := decide) [asksForVersion, hword]
  have hswitch : switch? (option.joined value) = none := by
    simp (disch := decide) only [switch?, hword, if_false]
  have hdrop : dropRepeated option.mark (option.joined value) = dropRepeated option.mark value :=
    dropRepeated_append option.mark_ne_nil value
  conv_lhs => unfold parse
  simp only [hhelp, hversion, hswitch, hseparate, joined?_joined, hdrop, Bool.false_eq_true,
    if_false]
  cases option.set (dropRepeated option.mark value) settings <;> rfl

/-- What spells out an option asks for nothing else. -/
theorem parse_of_separate?
    {argument : Text} {option : ValueOption} (hseparate : separate? argument = some option)
    (value : Text) (rest : List Text) :
    parse isDirectory settings (argument :: value :: rest) =
      (option.set value settings).bind fun settings => parse isDirectory settings rest := by
  have hspelled : argument = option.name ∨ option.shortName? = some argument := by
    simpa using List.find?_some hseparate
  have hwords : ∀ option ∈ all, ∀ word ∈ option.name :: option.shortName?.toList,
      asksForHelp word = false ∧ asksForVersion word = false ∧ (switch? word).isNone := by
    decide
  obtain ⟨hhelp, hversion, hswitch⟩ := hwords option (List.mem_of_find?_eq_some hseparate)
    argument (by simpa [eq_comm] using hspelled)
  conv_lhs => unfold parse
  simp only [hhelp, hversion, Option.isNone_iff_eq_none.mp hswitch, hseparate, Bool.false_eq_true,
    if_false]
  cases option.set value settings <;> rfl

end Arguments

/-! ## Among other arguments -/

/-- The last of the arguments is no option that waits for its value. -/
def isComplete : List Text → Bool
  | [] => true
  | argument :: rest =>
    match separate? argument, rest with
    | none, rest => isComplete rest
    | some _, [] => false
    | some _, _ :: rest => isComplete rest

/-- What comes behind complete arguments is read on its own. -/
theorem parse_append_congr
    {isDirectory : Text → Bool} {before after other : List Text} (hcomplete : isComplete before)
    (hafter : ∀ settings,
      parse isDirectory settings after = parse isDirectory settings other)
    (settings : Settings) :
    parse isDirectory settings (before ++ after) =
      parse isDirectory settings (before ++ other) := by
  fun_induction isComplete before generalizing settings with
  | case1 => exact hafter settings
  | case2 argument rest hseparate ih =>
    rw [List.cons_append, List.cons_append]
    unfold parse
    simp only [hseparate, ih hcomplete]
  | case3 argument option hseparate => cases hcomplete
  | case4 argument option value rest hseparate ih =>
    rw [List.cons_append, List.cons_append, List.cons_append, List.cons_append,
      parse_of_separate? isDirectory settings hseparate,
      parse_of_separate? isDirectory settings hseparate]
    simp only [ih hcomplete]

theorem parse_append_joined
    {before : List Text} (hcomplete : isComplete before) (option : ValueOption) (value : Text)
    (after : List Text) (isDirectory : Text → Bool) (settings : Settings) :
    parse isDirectory settings (before ++ option.joined value :: after) =
      parse isDirectory settings
        (before ++ option.name :: dropRepeated option.mark value :: after) := by
  refine parse_append_congr hcomplete (fun settings => ?_) settings
  rw [parse_joined, parse_of_separate? isDirectory settings option.separate?_name]

/-! ## Values that a spelling changes -/

section Marked

variable {option : ValueOption} {value : Text} (hbegins : Text.beginsWith option.mark value)

include hbegins

theorem exists_eq_mark_append : ∃ rest, value = option.mark ++ rest := by
  obtain ⟨rest, hstrip⟩ := Option.isSome_iff_exists.mp hbegins
  exact ⟨rest, Text.eq_append_of_strip? hstrip⟩

/-- No number begins as an option does. -/
theorem word?_of_beginsWith : Number.word? value = none := by
  obtain ⟨rest, rfl⟩ := exists_eq_mark_append hbegins
  cases option <;> rfl

theorem trim_ne_nil_of_beginsWith : Text.trim value ≠ [] := by
  intro hnil
  obtain ⟨front, back, hvalue, hfront, hback⟩ := Text.exists_eq_append_trim value
  have hblank : Text.isBlank '-' := by
    rw [hnil, List.append_nil] at hvalue
    have hall : ∀ c ∈ value, Text.isBlank c := hvalue ▸ List.forall_mem_append.mpr ⟨hfront, hback⟩
    obtain ⟨rest, rfl⟩ := exists_eq_mark_append hbegins
    have hdash : '-' ∈ option.mark := by
      cases option <;> decide
    exact hall _ (List.mem_append_left rest hdash)
  exact absurd hblank (by decide)

/-- Another value than this one makes the arguments come to something else. -/
theorem parse_ne_of_beginsWith {other : Text} (hne : other ≠ value) :
    parse (fun _ => false) {} [option.name, other, "x".toList] ≠
      parse (fun _ => false) {} [option.name, value, "x".toList] := by
  -- behind a path the settings only have to pass the last check, which keeps their values
  have hpath : ∀ settings : Settings, parse (fun _ => false) settings ["x".toList] =
      Settings.check { settings with sources := settings.sources ++ [Source.file "x".toList] } :=
    fun _ => rfl
  have hdefault : Text.trim defaultUser ≠ [] := by
    decide
  have hword := word?_of_beginsWith hbegins
  intro hsame
  rw [parse_of_separate? _ _ option.separate?_name, parse_of_separate? _ _ option.separate?_name]
    at hsame
  simp only [hpath] at hsame
  cases option with
  | directory => simp [ValueOption.set, Except.bind, Settings.check, hdefault, hne] at hsame
  | file => simp [ValueOption.set, Except.bind, Settings.check, hdefault, hne] at hsame
  | user =>
    have hvalue := trim_ne_nil_of_beginsWith hbegins
    by_cases hother : Text.trim other = [] <;>
      simp [ValueOption.set, Except.bind, Settings.check, hother, hvalue, hne] at hsame
  | depth =>
    cases hother : Number.word? other <;>
      simp [ValueOption.set, ValueOption.number, hother, hword, Except.map, Except.bind,
        Settings.check, hdefault, hne] at hsame
  | seed =>
    cases hother : Number.word? other <;>
      simp [ValueOption.set, ValueOption.number, hother, hword, Except.map, Except.bind,
        Settings.check, hdefault, hne] at hsame

end Marked

/-- A joined value is read as a separate one is, without the option's own marks that it begins with.
So the two spellings always come to the same exactly when there is no such mark. -/
theorem joined_value_is_read_as_separate_iff (option : ValueOption) (value : Text) :
    (∀ isDirectory settings before after, isComplete before →
      parse isDirectory settings (before ++ option.joined value :: after) =
        parse isDirectory settings
          (before ++ option.name :: dropRepeated option.mark value :: after)) ∧
    ((∀ isDirectory settings before after, isComplete before →
      parse isDirectory settings (before ++ option.joined value :: after) =
        parse isDirectory settings (before ++ option.name :: value :: after)) ↔
      ¬ Text.beginsWith option.mark value) := by
  refine ⟨fun isDirectory settings before after hcomplete =>
    parse_append_joined hcomplete option value after isDirectory settings, ?_, ?_⟩
  · intro hsame hbegins
    have hchanged : dropRepeated option.mark value ≠ value := fun heq =>
      (dropRepeated_eq_self_iff option.mark_ne_nil).mp heq hbegins
    have hjoined := @parse_append_joined [] rfl option value ["x".toList] (fun _ => false) {}
    exact parse_ne_of_beginsWith hbegins hchanged (hjoined.symm.trans (hsame _ _ [] _ rfl))
  · intro hbegins isDirectory settings before after hcomplete
    rw [parse_append_joined hcomplete, dropRepeated_of_not_beginsWith hbegins]

/-- The file that is read is another one. -/
theorem joined_value_loses_mark :
    parse (fun _ => false) {} ["--file=--file=a".toList] =
        .ok (.chat { sources := [.file "a".toList] }) ∧
      parse (fun _ => false) {} ["--file".toList, "--file=a".toList] =
        .ok (.chat { sources := [.file "--file=a".toList] }) := by
  have hdrop : dropRepeated ValueOption.file.mark "--file=a".toList = "a".toList := by
    rw [show "--file=a".toList = ValueOption.file.mark ++ "a".toList from rfl,
      dropRepeated_append ValueOption.file.mark_ne_nil]
    exact dropRepeated_of_not_beginsWith (by decide)
  constructor
  · rw [show "--file=--file=a".toList = ValueOption.file.joined "--file=a".toList from rfl,
      parse_joined, hdrop]
    rfl
  · rfl

end DialogueScript.CommandLine

import DialogueScript.Proofs.InlineComments
import DialogueScript.Proofs.LookupTags
import DialogueScript.Proofs.SessionVariables

/-!
# Definitions that are read back

A script defines the variables of the bot and the globals, each on a line of its own, and templates
read them.  The line is cut at the mark of a comment, and the name is put into lower case; in the
template the name is looked up as it stands when escapes have been read and random choices made.  A
name that none of this changes is read back with its value.
-/

namespace DialogueScript

namespace Text

theorem lines_of_not_mem {line : Text} (hsome : line ≠ []) (hline : '\n' ∉ line) :
    lines line = [line] := by
  have hsplit : split (· = '\n') line = [line] := by
    refine split_eq_singleton fun c hc => ?_
    have hne : c ≠ '\n' := fun heq => hline (heq ▸ hc)
    simpa using hne
  simp [lines, hsplit, hsome]

theorem cut?_of_not_mem {mark : Char} {front : Text} (hfront : mark ∉ front) (back : Text) :
    cut? [mark] (front ++ mark :: back) = some (front, back) := by
  induction front with
  | nil => cases back <;> simp [cut?, strip?]
  | cons c front ih =>
    obtain ⟨hc, hfront⟩ := not_or.mp (List.mem_cons.not.mp hfront)
    simp [cut?, strip?, hc, ih hfront]

/-- Nothing that opens with an angle stands in a text without one. -/
theorem lacks_of_not_mem
    {text : Text} (hangle : '<' ∉ text) {openings : List Text}
    (hopens : ∀ opening ∈ openings, opening.head? = some '<') :
    text.Lacks openings := by
  intro back hback opening hopening
  obtain ⟨rest, rfl⟩ := List.head?_eq_some_iff.mp (hopens opening hopening)
  cases back with
  | nil => rfl
  | cons c back =>
    have hne : '<' ≠ c := fun heq => hangle (hback.subset (heq ▸ List.mem_cons_self))
    simp [strip?, hne]

end Text

namespace Script

/-- What a script can set under a name for templates to read. -/
inductive Setting where
  | bot
  | global
deriving Repr, DecidableEq

namespace Setting

def word : Setting → Text
  | .bot => "var".toList
  | .global => "global".toList

def holder : Setting → Template.Holder
  | .bot => .bot
  | .global => .global

theorem exists_word (setting : Setting) :
    ∃ c rest, setting.word = c :: rest ∧ ¬ Text.isBlank c := by
  cases setting <;> exact ⟨_, _, rfl, by decide⟩

theorem not_mem_word (setting : Setting) : '=' ∉ setting.word ∧ '\n' ∉ setting.word := by
  cases setting <;> decide

/-- The names that mean something to the bot itself. -/
def reserved : Setting → List Text
  | .bot => []
  | .global => ["depth".toList, "debug".toList]

def definition (setting : Setting) (name value : Text) : Text :=
  setting.word ++ ' ' :: name ++ " = ".toList ++ value

def line (setting : Setting) (name value : Text) : Text :=
  "! ".toList ++ setting.definition name value

def tag (setting : Setting) (name : Text) : Text :=
  setting.holder.opening ++ name ++ ['>']

end Setting

/-- A name and a value that can be told apart on a line, without tags. -/
structure Definable (name value : Text) : Prop where
  name_ne_nil : name ≠ []
  name_trimmed : Text.trim name = name
  name_clear : ∀ c ∈ name, c ∉ ['=', '<', '>', '\n']
  value_ne_nil : value ≠ []
  value_trimmed : Text.trim value = value
  value_plain : value.Plain
  value_onLine : '\n' ∉ value

instance (name value : Text) : Decidable (Definable name value) :=
  decidable_of_iff
    (name ≠ [] ∧ Text.trim name = name ∧ (name.all fun c => c ∉ ['=', '<', '>', '\n']) ∧
      value ≠ [] ∧ Text.trim value = value ∧ value.Plain ∧ '\n' ∉ value)
    ⟨fun ⟨h₁, h₂, h₃, h₄, h₅, h₆, h₇⟩ => ⟨h₁, h₂, by simpa using h₃, h₄, h₅, h₆, h₇⟩,
      fun ⟨h₁, h₂, h₃, h₄, h₅, h₆, h₇⟩ => ⟨h₁, h₂, by simpa using h₃, h₄, h₅, h₆, h₇⟩⟩

/-- No comment is read in the line that defines a name, and the name is the same in the table and in
the template, once escapes have been read and random choices made. -/
structure Setting.Keeps (setting : Setting) (name value : Text) : Prop where
  not_reserved : name ∉ setting.reserved
  lower_eq : Text.lower name = name
  uncommented : ¬ Text.contains commentMark (setting.definition name value)
  unclosed : ¬ Text.contains "*/".toList (setting.line name value)
  unescaped : Template.unescape (setting.tag name) = setting.tag name
  determined : Text.tags Template.randomTag? (setting.tag name) = []

/-! ## The line is read -/

namespace Definable

variable {setting : Setting} {name value : Text} (hdefinable : Definable name value)

include hdefinable

theorem not_mem_name {c : Char} (hc : c ∈ ['=', '<', '>', '\n']) : c ∉ name :=
  fun hmem => hdefinable.name_clear c hmem hc

theorem last_name : ∀ c ∈ name.getLast?, ¬ Text.isBlank c :=
  (Text.trim_eq_self_iff.mp hdefinable.name_trimmed).2

theorem last_value : ∀ c ∈ value.getLast?, ¬ Text.isBlank c :=
  (Text.trim_eq_self_iff.mp hdefinable.value_trimmed).2

theorem trim_left : Text.trim (setting.word ++ ' ' :: name) = setting.word ++ ' ' :: name := by
  obtain ⟨c, rest, hword, hc⟩ := setting.exists_word
  refine Text.trim_eq_self_iff.mpr ⟨?_, ?_⟩
  · simpa [hword] using hc
  · rw [List.getLast?_append_of_ne_nil _ (List.cons_ne_nil _ _),
      List.getLast?_cons_of_ne_nil hdefinable.name_ne_nil]
    exact hdefinable.last_name

theorem trim_definition :
    Text.trim (setting.definition name value) = setting.definition name value := by
  obtain ⟨c, rest, hword, hc⟩ := setting.exists_word
  refine Text.trim_eq_self_iff.mpr ⟨?_, ?_⟩
  · simpa [Setting.definition, hword] using hc
  · rw [Setting.definition, List.getLast?_append_of_ne_nil _ hdefinable.value_ne_nil]
    exact hdefinable.last_value

theorem trim_line : Text.trim (setting.line name value) = setting.line name value := by
  refine Text.trim_eq_self_iff.mpr ⟨by simp [Setting.line]; decide, ?_⟩
  have hsome : setting.definition name value ≠ [] := by
    simp [Setting.definition]
  rw [Setting.line, List.getLast?_append_of_ne_nil _ hsome]
  exact (Text.trim_eq_self_iff.mp hdefinable.trim_definition).2

theorem not_mem_line : '\n' ∉ setting.line name value := by
  have hname := hdefinable.not_mem_name (c := '\n') (by decide)
  simp [Setting.line, Setting.definition, setting.not_mem_word, hname, hdefinable.value_onLine]

theorem definitionSides_definition :
    definitionSides (setting.definition name value) = (setting.word ++ ' ' :: name, value) := by
  have hfront : '=' ∉ setting.word ++ ' ' :: name ++ [' '] := by
    have hname := hdefinable.not_mem_name (c := '=') (by decide)
    simp [setting.not_mem_word, hname]
  have hcut := Text.cut?_of_not_mem hfront (' ' :: value)
  have htext : setting.definition name value =
      setting.word ++ ' ' :: name ++ [' '] ++ '=' :: ' ' :: value := by
    simp [Setting.definition]
  have hblank : Text.isBlank ' ' := by decide
  rw [definitionSides, htext, hcut]
  dsimp only
  rw [Text.trim_concat_of_isBlank hblank, Text.trim_cons_of_isBlank hblank, hdefinable.trim_left,
    hdefinable.value_trimmed]

theorem definitionHead_left :
    definitionHead (setting.word ++ ' ' :: name) = (setting.word, Text.lower name) := by
  have hkind : (setting.word ++ ' ' :: name).takeWhile (fun c => !Text.isBlank c) =
      setting.word := by
    cases setting <;> rfl
  have hblank : Text.isBlank ' ' := by decide
  simp only [definitionHead, hkind, List.drop_left, Text.trim_cons_of_isBlank hblank,
    hdefinable.name_trimmed]

theorem given_value : Persona.given (some value) = some value := by
  have hne : value ≠ Persona.undefine := by
    rintro rfl
    exact absurd hdefinable.value_plain (by decide)
  simp [Persona.given, hne]

end Definable

/-- The definitions with a name that is set. -/
def Setting.put (setting : Setting) (definitions : Definitions) (name value : Text) :
    Definitions :=
  match setting with
  | .bot => { definitions with values := definitions.values.insert name value }
  | .global => { definitions with globals := definitions.globals.insert name value }

theorem Definable.define?_eq
    {setting : Setting} {name value : Text} (hdefinable : Definable name value)
    (hordinary : name ∉ setting.reserved) (persona : Persona) :
    define? persona setting.word name value =
      some { persona with definitions := setting.put persona.definitions name value } := by
  have hgiven := hdefinable.given_value
  cases setting with
  | bot =>
    have hset : persona.setVariable name (some value) =
        { persona with definitions := Setting.bot.put persona.definitions name value } := by
      rw [Persona.setVariable, hgiven]
      rfl
    rw [← hset]
    rfl
  | global =>
    obtain ⟨hdepth, hdebug⟩ : name ≠ "depth".toList ∧ name ≠ "debug".toList := by
      simpa [Setting.reserved] using hordinary
    have hset : persona.setGlobal? name (some value) =
        some { persona with definitions := Setting.global.put persona.definitions name value } := by
      unfold Persona.setGlobal?
      rw [hgiven]
      simp only [hdepth, hdebug, decide_false, Bool.false_and, Bool.false_eq_true, if_false]
      rfl
    change some ((persona.setGlobal? name (some value)).getD persona) = _
    rw [hset]
    rfl

theorem readDefinition_definition
    {setting : Setting} {name value : Text} (hdefinable : Definable name value)
    (hkeeps : setting.Keeps name value) (place : Place) (state : State) :
    readDefinition state place (setting.definition name value) =
      .ok { state with persona := { state.persona with
        definitions := setting.put state.persona.definitions name value } } := by
  have hvalue : Text.replaceAll Definitions.lineMark [] value = value := by
    refine (Text.opensWith_literal? _).replaceTags_eq ?_ _
    exact hdefinable.value_plain.lacks (by decide)
  have hkinds : setting.word ≠ "version".toList ∧ setting.word ≠ "language".toList ∧
      setting.word ≠ "array".toList := by
    cases setting <;> decide
  have hname : name.isEmpty = false := by simpa using hdefinable.name_ne_nil
  have hsome : value.isEmpty = false := by simpa using hdefinable.value_ne_nil
  simp only [readDefinition, hdefinable.definitionSides_definition,
    hdefinable.definitionHead_left, hkeeps.lower_eq, hkinds, hvalue, hname, hsome,
    hdefinable.define?_eq hkeeps.not_reserved, if_false, Bool.false_eq_true]

theorem readLine_line
    {setting : Setting} {name value : Text} (hdefinable : Definable name value)
    (hkeeps : setting.Keeps name value) (collaborators : Collaborators) (place : Place)
    (persona : Persona) :
    readLine collaborators place (setting.line name value) [] { persona } =
      .ok { persona := { persona with
        definitions := setting.put persona.definitions name value } } := by
  have hline : setting.line name value = '!' :: ' ' :: setting.definition name value := rfl
  have hread : readsLine false (setting.line name value) = (false, true) := by
    have hcloses : Text.contains "*/".toList (setting.line name value) = false := by
      simpa using hkeeps.unclosed
    have hopens : Text.beginsWith "/*".toList (setting.line name value) = false := rfl
    have hslash : Text.beginsWith ['/'] (setting.line name value) = false := rfl
    have hlength : 2 ≤ (setting.line name value).length := by
      rw [hline]
      simp
    simp only [readsLine, hopens, hslash, hcloses, hlength, Bool.false_eq_true, if_false,
      Bool.not_false, Bool.true_and, decide_true]
  have hbody : Text.trim (' ' :: setting.definition name value) =
      setting.definition name value := by
    rw [Text.trim_cons_of_isBlank (by decide), hdefinable.trim_definition]
  have hbefore := Text.before_of_not_contains hkeeps.uncommented
  unfold readLine
  rw [hdefinable.trim_line]
  dsimp only
  rw [hread, hline]
  dsimp only
  rw [hbody, hbefore]
  -- no line follows, so the directive gathers nothing
  exact readDefinition_definition hdefinable hkeeps place _

theorem read_line
    {setting : Setting} {name value : Text} (hdefinable : Definable name value)
    (hkeeps : setting.Keeps name value) (collaborators : Collaborators) (persona : Persona)
    (source : Text) :
    read collaborators persona source (setting.line name value) =
      { persona := { persona with definitions := setting.put persona.definitions name value }
        requests := []
        result := .ok { source, lines := 1, warnings := [] } } := by
  have hlines : Text.lines (setting.line name value) = [setting.line name value] :=
    Text.lines_of_not_mem (by simp [Setting.line]) hdefinable.not_mem_line
  rw [read_eq_conclude, hlines, readLines, readLine_line hdefinable hkeeps]
  rfl

end Script

/-! ## The value is read back -/

namespace Script

section Expand

variable {setting : Setting} {name value : Text} (hdefinable : Definable name value)

include hdefinable

/-- A name that a line can define holds no weight, for want of an equals sign. -/
theorem Definable.tags_weight?_tag : Text.tags Tag.weight? (setting.tag name) = [] := by
  have hname := hdefinable.not_mem_name (c := '=') (by decide)
  have hopening : '=' ∉ setting.holder.opening := by
    cases setting <;> decide
  have hmark : '=' ∉ setting.tag name := by
    simp [Setting.tag, hopening, hname]
  refine (Text.opensWith_numbered? _ _).tags_eq_nil fun back hback opening hmem => ?_
  obtain rfl := List.mem_singleton.mp hmem
  by_contra hstrip
  obtain ⟨rest, hstrip⟩ := Option.ne_none_iff_exists'.mp hstrip
  refine hmark (hback.subset ?_)
  rw [Text.eq_append_of_strip? hstrip]
  exact List.mem_append_left rest (by decide)

/-- The tag opens in no other way than its own. -/
theorem Definable.lacks_tag
    {openings : List Text} (hopens : ∀ opening ∈ openings, opening.head? = some '<')
    (hclash : ∀ opening ∈ openings, Text.clashes opening setting.holder.opening) :
    (setting.tag name).Lacks openings := by
  obtain ⟨rest, hopening, hrest⟩ : ∃ rest, setting.holder.opening = '<' :: rest ∧ '<' ∉ rest := by
    cases setting <;> exact ⟨_, rfl, by decide⟩
  have htag : setting.tag name = '<' :: (rest ++ name ++ ['>']) := by
    simp [Setting.tag, hopening]
  have hname := hdefinable.not_mem_name (c := '<') (by decide)
  have hangle : '<' ∉ rest ++ name ++ ['>'] := by
    simp [hrest, hname]
  rw [htag]
  refine (Text.lacks_of_not_mem hangle hopens).cons fun opening hopening => ?_
  rw [← htag, Setting.tag, List.append_assoc]
  exact Text.strip?_append_of_clashes (hclash opening hopening) _

theorem Definable.replaceTags_tag (f : Text → Text) :
    Text.replaceTags (Tag.enclosed? setting.holder.opening ['>']) f (setting.tag name) =
      f name := by
  have hname : ∀ c ∈ name, Tag.staysOnLine c ∧ c ≠ '>' := by
    intro c hc
    have hclear := hdefinable.name_clear c hc
    simp only [List.mem_cons, List.not_mem_nil, or_false, not_or] at hclear
    exact ⟨by simpa [Tag.staysOnLine] using hclear.2.2.2, hclear.2.2.1⟩
  have hfinds : Text.FindsIn (Tag.enclosed? setting.holder.opening ['>']) (setting.tag name)
      [.tag name] := by
    refine .tag (by simp [Setting.tag]) fun rest => ?_
    have hread := Tag.enclosed?_append setting.holder.opening hdefinable.name_ne_nil hname rest
    simpa [Setting.tag] using hread
  rw [Text.replaceTags, hfinds.pieces_eq]
  exact List.append_nil _

theorem Definable.run_readPersona_tag
    {turn : Turn} (hget : setting.holder.get? turn name = some value) :
    (Turn.readPersona (setting.tag name)).run turn = (value, turn) := by
  have hself : ∀ (f : Text → Text) (opening : Text), opening.OpensTag →
      Text.replaceTags (Tag.enclosed? opening ['>']) f value = value :=
    fun f opening hopens => (Text.opensWith_enclosed? _ _).replaceTags_eq
      (hdefinable.value_plain.lacks (List.forall_mem_singleton.mpr hopens)) f
  cases setting with
  | bot =>
    have hvariable : turn.persona.getVariable? name = some value := hget
    have hbot : Text.replaceTags Template.botTag?
        (fun name => (turn.persona.getVariable? name).getD undefined) (Setting.bot.tag name) =
          value := by
      have hfound := @Definable.replaceTags_tag .bot name value hdefinable
        fun name => (turn.persona.getVariable? name).getD undefined
      rwa [hvariable] at hfound
    have hglobal := hself (fun name => (turn.persona.getGlobal? name).getD undefined)
      "<env ".toList (by decide)
    exact congrArg (·, turn) ((congrArg _ hbot).trans hglobal)
  | global =>
    have hvalue : turn.persona.getGlobal? name = some value := hget
    have hbot : Text.replaceTags Template.botTag?
        (fun name => (turn.persona.getVariable? name).getD undefined) (Setting.global.tag name) =
          Setting.global.tag name :=
      (Text.opensWith_enclosed? _ _).replaceTags_eq
        (hdefinable.lacks_tag (by decide) (by decide)) _
    have hglobal : Text.replaceTags Template.globalTag?
        (fun name => (turn.persona.getGlobal? name).getD undefined) (Setting.global.tag name) =
          value := by
      have hfound := @Definable.replaceTags_tag .global name value hdefinable
        fun name => (turn.persona.getGlobal? name).getD undefined
      rwa [hvalue] at hfound
    exact congrArg (·, turn) ((congrArg _ hbot).trans hglobal)

theorem run_expand_tag
    (hkeeps : setting.Keeps name value) {turn : Turn}
    (hget : setting.holder.get? turn name = some value) (answer : Text → TurnM Text)
    (stars : Stars) :
    (Turn.expand answer stars (setting.tag name)).run turn = (value, turn) := by
  have hlacks : (setting.tag name).Lacks Template.namedOpenings := by
    refine hdefinable.lacks_tag (by decide) ?_
    cases setting <;> decide
  have hfill : Template.fill turn.session stars (setting.tag name) = setting.tag name :=
    Template.fill_eq_self hlacks hdefinable.tags_weight?_tag hkeeps.unescaped _ _
  have htagless := hdefinable.value_plain.tagless
  rw [Turn.run_expand_of_filled hfill hkeeps.determined (hdefinable.run_readPersona_tag hget)
      htagless.code htagless.transformed, Turn.useVariables_of_tagless htagless, pure_bind,
    Turn.conclude_of_tags_eq_nil htagless.topic htagless.redirect htagless.call]
  rfl

end Expand

end Script

namespace Bot

/-- A line that defines a name is read without a warning, and once it has been sorted in, a template
reads the value under this name, whatever the bot knew before. -/
theorem definition_is_read_back
    {setting : Script.Setting} {name value : Text} (hdefinable : Script.Definable name value)
    (hkeeps : setting.Keeps name value) (bot : Bot) (source : Text) :
    let loaded := bot.load source (setting.line name value)
    loaded.2 = .ok { source, lines := 1, warnings := [] } ∧
      ∀ turn : Turn, turn.mind.live = loaded.1.sort.1.mind.live →
        ∀ answer stars,
          (Turn.expand answer stars (setting.tag name)).run turn = (value, turn) := by
  intro loaded
  have hread := Script.read_line hdefinable hkeeps bot.mind.collaborators bot.mind.draft source
  have hresult : loaded.2 = .ok { source, lines := 1, warnings := [] } :=
    congrArg Script.Reading.result hread
  have hdraft : loaded.1.mind.draft =
      { bot.mind.draft with
        definitions := setting.put bot.mind.draft.definitions name value } :=
    congrArg Script.Reading.persona hread
  refine ⟨hresult, fun turn hlive answer stars => ?_⟩
  have hdefinitions : turn.persona.definitions =
      setting.put bot.mind.draft.definitions name value := by
    rw [Turn.persona, hlive]
    exact congrArg Persona.definitions hdraft
  have hget : setting.holder.get? turn name = some value := by
    cases setting <;>
      simp [Script.Setting.holder, Template.Holder.get?, Persona.getVariable?, Persona.getGlobal?,
        hdefinitions, Script.Setting.put]
  exact Script.run_expand_tag hdefinable hkeeps hget answer stars

/-- A name may hold blanks, slashes and braces, and a value another equals sign. -/
theorem definition_of_motto_is_read_back :
    let bot := Bot.ofScript "! var motto // = old\n+ hi\n- ok".toList
    let name := "my /\x7bmotto\x7d".toList
    let value := "2 = 1 + 1 //".toList
    let loaded := bot.stream "! global my /\x7bmotto\x7d = 2 = 1 + 1 //".toList
    Script.Definable name value ∧ Script.Setting.global.Keeps name value ∧
      loaded.2 = .ok { source := Mind.streamed, lines := 1, warnings := [] } ∧
      ∀ turn : Turn, turn.mind.live = loaded.1.sort.1.mind.live → ∀ answer stars,
        (Turn.expand answer stars "<env my /\x7bmotto\x7d>".toList).run turn = (value, turn) := by
  intro bot name value loaded
  have hdefinable : Script.Definable name value := by
    decide
  have hkeeps : Script.Setting.global.Keeps name value :=
    ⟨by decide, by decide +kernel, by decide, by decide, by decide, by decide⟩
  exact ⟨hdefinable, hkeeps, definition_is_read_back hdefinable hkeeps bot Mind.streamed⟩

/-- Capitals, escapes and random choices in a name, and marks of comments on the line, keep a value
from being read back. -/
theorem definitions_are_not_read_back :
    let entries : List (Text × Text) :=
      [("Name".toList, "v".toList), ("a\\sb".toList, "v".toList),
        ("\x7brandom\x7da\x7b/random\x7d".toList, "v".toList), ("//".toList, "v".toList),
        ("a".toList, "// v".toList), ("a*/".toList, "v".toList)]
    let readBack := fun (name, value) =>
      let bot := Bot.ofScript (Script.Setting.bot.line name value)
      let turn : Turn := { mind := bot.mind, session := bot.session ['u'] }
      ((Turn.expand pure {} (Script.Setting.bot.tag name)).run turn).1
    (entries.all fun (name, value) => Script.Definable name value &&
        !Text.contains Script.commentMark name && !Text.contains Script.commentMark value) ∧
      entries.map readBack = List.replicate 6 undefined := by
  decide +kernel

end Bot

end DialogueScript

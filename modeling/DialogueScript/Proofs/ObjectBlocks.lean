import DialogueScript.Proofs.Declarations
import DialogueScript.Proofs.ScriptEvents
import DialogueScript.Turn.State

/-!
# Blocks of objects

A script is made of lines and of blocks, each of them a header, the code of an object and the line
that closes it.  A closed block makes one request to the handler of its language.  The request has
the lines of the code trimmed; and what is read as the header may go on in the first of them.
Nothing else in a script can tell one code from another.
-/

namespace DialogueScript

/-- More behind a text does not change its first word, once there is a second one. -/
theorem Text.head?_words_append {text : Text} (hwords : 2 ≤ (words text).length) (more : Text) :
    (words (text ++ more)).head? = (words text).head? := by
  obtain ⟨front, last, first, back, htext, -, happend⟩ := split_append isBlank text more
  rw [words, htext, List.filter_append, List.length_append] at hwords
  have hlast : ([last].filter fun word => !word.isEmpty).length ≤ 1 := List.length_filter_le _ _
  have hfront : front.filter (fun word => !word.isEmpty) ≠ [] := by
    intro hnone
    rw [hnone, List.length_nil] at hwords
    omega
  rw [words, words, htext, happend, List.filter_append, List.filter_append,
    List.head?_append_of_ne_nil _ hfront, List.head?_append_of_ne_nil _ hfront]

theorem filterMap_eq_filterMap_iff
    {α β : Type} {f g : α → Option β} {items : List α} (hg : ∀ a ∈ items, (g a).isSome) :
    items.filterMap f = items.filterMap g ↔ ∀ a ∈ items, f a = g a := by
  refine ⟨fun hsame => ?_, fun hsame => List.filterMap_congr hsame⟩
  induction items with
  | nil => simp
  | cons a items ih =>
    rw [List.forall_mem_cons] at hg ⊢
    obtain ⟨b, hb⟩ := Option.isSome_iff_exists.mp hg.1
    have hlength : (items.filterMap g).length = items.length :=
      List.filterMap_length_eq_length.mpr hg.2
    rw [List.filterMap_cons_some hb] at hsame
    cases ha : f a with
    | none =>
      have hshorter := List.length_filterMap_le f items
      rw [List.filterMap_cons_none ha] at hsame
      rw [hsame, List.length_cons, hlength] at hshorter
      omega
    | some c =>
      rw [List.filterMap_cons_some ha] at hsame
      obtain ⟨rfl, hrest⟩ := List.cons.inj hsame
      exact ⟨hb.symm, ih hg.2 hrest⟩

namespace Script

/-! ## Objects that have been loaded before -/

/-- The persona that knows other objects. -/
def withObjects (objects : Table Text) (persona : Persona) : Persona :=
  { persona with objects }

/-- The state in which other objects have been loaded. -/
def State.loaded (objects : Table Text) (requests : List Request) (state : State) : State :=
  { state with persona := withObjects objects state.persona, requests }

section Loaded

variable (objects : Table Text) (requests : List Request) (state : State) (place : Place)
  (text : Text)

theorem addPart_loaded (part : Part) :
    addPart (state.loaded objects requests) place part text =
      (addPart state place part text).loaded objects requests := by
  unfold addPart
  have htrigger : (state.loaded objects requests).trigger = state.trigger := rfl
  rw [htrigger]
  cases state.trigger <;> rfl

theorem openTrigger_loaded (previous : Option Text) :
    openTrigger (state.loaded objects requests) text previous =
      (openTrigger state text previous).loaded objects requests := by
  cases previous <;> rfl

/-- No directive looks at the objects, or at the requests. -/
theorem run_loaded (instruction : Instruction) :
    instruction.run place (state.loaded objects requests) =
      (instruction.run place state).map (State.loaded objects requests) := by
  cases instruction with
  | setGlobal name value =>
    dsimp only [Instruction.run]
    rcases Persona.setGlobal?_cases name (some value) with hset | ⟨f, depth?, hset⟩ <;>
      rw [hset, hset] <;> rfl
  | openTrigger pattern previous =>
    exact congrArg Except.ok (openTrigger_loaded objects requests state pattern previous)
  | addPart part text =>
    exact congrArg Except.ok (addPart_loaded objects requests state place text part)
  | _ => rfl

theorem readDirective_loaded (command : Char) (previous : Option Text) :
    readDirective (state.loaded objects requests) place command text previous =
      (readDirective state place command text previous).map (State.loaded objects requests) := by
  obtain ⟨instruction, hread⟩ := exists_run_readDirective command text previous
  rw [hread, hread, run_loaded]

end Loaded

section Line

variable (collaborators : Collaborators) (place : Place) (line : Text) (following : List Text)
  {state : State} (hobject : state.object = none)

include hobject

theorem readLine_loaded (objects : Table Text) (requests : List Request) :
    readLine collaborators place line following (state.loaded objects requests) =
      (readLine collaborators place line following state).map (State.loaded objects requests) := by
  obtain ⟨persona, topic, trigger, inComment, object, warnings, loads⟩ := state
  obtain rfl : object = none := hobject
  unfold readLine State.loaded
  dsimp only
  split
  · let inside := (readsLine inComment (Text.trim line)).1
    exact readDirective_loaded objects requests
      ⟨persona, topic, trigger, inside, none, warnings, loads⟩ place _ _ _
  · rfl

/-- Outside of objects nothing is loaded. -/
theorem loaded_of_readLine
    {next : State} (hread : readLine collaborators place line following state = .ok next) :
    next.persona.objects = state.persona.objects ∧ next.requests = state.requests := by
  have hsame := readLine_loaded collaborators place line following hobject state.persona.objects
    state.requests
  have hstate : state.loaded state.persona.objects state.requests = state := rfl
  rw [hstate, hread] at hsame
  have hnext : next = next.loaded state.persona.objects state.requests := Except.ok.inj hsame
  rw [hnext]
  exact ⟨rfl, rfl⟩

end Line

/-! ## Blocks -/

/-- The text of a header, as it stands on its line. -/
def headerText (header : Text) : Text :=
  Text.before commentMark (Text.trim ((Text.trim header).drop 1))

def objectName (text : Text) : Text :=
  ((Text.words text)[1]?).getD []

def objectLanguage (text : Text) : Text :=
  ((Text.words text)[2]?.map Text.lower).getD defaultObjectLanguage

/-- The header of an object, the lines of its code and the line that closes it. -/
structure Block where
  header : Text
  code : List Text
  close : Text
  command_header : command? header = some '>'
  code_stays : ∀ line ∈ code, ¬ endsObject (Text.trim line)
  close_ends : endsObject (Text.trim close)

/-- Whether a line is the header of an object that has a name. -/
def Mode.opens (mode : Mode) (line : Text) : Bool :=
  (mode.directive? line).any fun directive =>
    directive.1 = '>' && opensObject directive.2 && 2 ≤ (Text.words directive.2).length

namespace Block

variable (block : Block)

def lines : List Text :=
  block.header :: (block.code ++ [block.close])

/-- The text that the header is read as: it goes on in the code. -/
def gathered : Text :=
  (gather '>' (headerText block.header) block.code).1

/-- The request of a block for the name and the language of a header, if there is a handler. -/
def load? (collaborators : Collaborators) (header : Text) (code : List Text) : Option Request :=
  (collaborators.handler? (objectLanguage header)).map fun handler =>
    .load handler.language (objectName header) code

/-- The request that the block makes. -/
def actual? (collaborators : Collaborators) : Option Request :=
  load? collaborators block.gathered (block.code.map Text.trim)

/-- The request that the block should make: for its header, with its lines. -/
def written? (collaborators : Collaborators) : Option Request :=
  load? collaborators (headerText block.header) block.code

end Block

/-- The state after a block. -/
def State.afterBlock (collaborators : Collaborators) (state : State) (block : Block) : State :=
  closeObject collaborators { state with inComment := false, trigger := none }
    { name := objectName block.gathered
      language := objectLanguage block.gathered
      line := 0
      code := block.code.map Text.trim }

theorem exists_cons_of_endsObject {line : Text} (hends : endsObject line) :
    ∃ rest, line = '<' :: rest ∧ rest ≠ [] := by
  match line with
  | [] | [_] => simp [endsObject, Text.beginsWith, Text.strip?] at hends
  | c :: d :: rest =>
    have hc : c = '<' := by
      by_contra hne
      simp [endsObject, Text.beginsWith, Text.strip?, Ne.symm hne] at hends
    exact ⟨d :: rest, by rw [hc], List.cons_ne_nil _ _⟩

theorem Mode.directive?_of_opens {mode : Mode} {header : Text} (hopens : mode.opens header) :
    mode.directive? header = some ('>', headerText header) ∧
      opensObject (headerText header) ∧ 2 ≤ (Text.words (headerText header)).length := by
  unfold opens at hopens
  cases hdirective : mode.directive? header with
  | none => simp [hdirective] at hopens
  | some directive =>
    obtain ⟨command, text⟩ := directive
    obtain ⟨rest, htrim, -, htext⟩ := exists_trim_of_directive? hdirective
    have htext : text = headerText header := by
      rw [htext, headerText, htrim, List.drop_one, List.tail_cons]
    obtain ⟨⟨rfl, hopens⟩, hwords⟩ : (command = '>' ∧ opensObject text) ∧
        2 ≤ (Text.words text).length := by
      simpa [hdirective] using hopens
    subst htext
    exact ⟨rfl, hopens, hwords⟩

theorem openLabel_of_opensObject
    {text : Text} (hopens : opensObject text) (state : State) (place : Place) :
    openLabel state place text =
      openObject state place (objectName text) (Text.words text)[2]? := by
  have hlabel : Text.lower ((Text.words text).head?.getD []) = "object".toList :=
    of_decide_eq_true hopens
  unfold openLabel
  dsimp only
  rw [hlabel, if_neg (by decide), if_neg (by decide), if_pos rfl, objectName]

namespace Block

variable (block : Block)

/-- The line that closes a block is no part of the header. -/
theorem gather_lines (rest : List Text) :
    gather '>' (headerText block.header) (block.code ++ block.close :: rest) =
      gather '>' (headerText block.header) block.code := by
  obtain ⟨tail, hclose, htail⟩ := exists_cons_of_endsObject block.close_ends
  refine gather_append (gather_of_not_continues ?_ '>') _ _
  rw [continues_cons hclose htail]
  rfl

theorem exists_gathered_eq : ∃ more, block.gathered = headerText block.header ++ more := by
  have hgather := gather_append_text '>' (headerText block.header) [] block.code
  rw [List.append_nil] at hgather
  exact ⟨_, by rw [gathered, hgather]⟩

theorem opensObject_gathered {mode : Mode} (hopens : mode.opens block.header) :
    opensObject block.gathered := by
  obtain ⟨-, hobject, hwords⟩ := Mode.directive?_of_opens hopens
  obtain ⟨more, hgathered⟩ := block.exists_gathered_eq
  rw [opensObject, hgathered, Text.head?_words_append hwords]
  exact hobject

end Block

section Reading

variable (collaborators : Collaborators) (place : Place) {state : State}

theorem readLine_header {block : Block} (hopens : state.mode.opens block.header)
    (rest : List Text) :
    readLine collaborators place block.header (block.code ++ block.close :: rest) state =
      .ok { state with
        inComment := false
        trigger := none
        object := some
          { name := objectName block.gathered
            language := objectLanguage block.gathered
            line := place.line
            code := [] } } := by
  have hevent := Mode.event_eq_of_directive? (Mode.directive?_of_opens hopens).1
    (block.code ++ block.close :: rest)
  have hlabel := openLabel_of_opensObject (block.opensObject_gathered hopens)
    { state with inComment := false } place
  rw [State.readLine_eq_perform, hevent, block.gather_lines]
  exact congrArg Except.ok hlabel

/-- In an object, lines are trimmed and kept up to the one that closes it. -/
theorem readLines_code
    {code : List Text} (hcode : ∀ line ∈ code, ¬ endsObject (Text.trim line)) {close : Text}
    (hclose : endsObject (Text.trim close)) (rest : List Text) {object : OpenObject}
    (hobject : state.object = some object) :
    readLines collaborators place (code ++ close :: rest) state =
      readLines collaborators { place with line := place.line + (code.length + 1) } rest
        (closeObject collaborators state
          { object with code := object.code ++ code.map Text.trim }) := by
  induction code generalizing place state object with
  | nil => simp [readLines, readLine, hobject, hclose]
  | cons line code ih =>
    rw [List.forall_mem_cons] at hcode
    let longer : OpenObject := { object with code := object.code ++ [Text.trim line] }
    have hline : readLine collaborators place line (code ++ close :: rest) state =
        .ok { state with object := some longer } := by
      simp [readLine, hobject, hcode.1, longer]
    rw [List.cons_append, readLines, hline]
    dsimp only
    rw [ih _ hcode.2 rfl]
    simp only [longer, List.length_cons, List.map_cons, List.append_assoc, List.singleton_append,
      Nat.add_assoc, Nat.add_comm 1]
    rfl

theorem readLines_block {block : Block} (hopens : state.mode.opens block.header)
    (rest : List Text) :
    readLines collaborators place (block.lines ++ rest) state =
      readLines collaborators { place with line := place.line + block.lines.length } rest
        (state.afterBlock collaborators block) := by
  have hlines : block.lines ++ rest = block.header :: (block.code ++ block.close :: rest) := by
    simp [Block.lines]
  have hlength : place.line + block.lines.length = place.line + 1 + (block.code.length + 1) := by
    simp only [Block.lines, List.length_cons, List.length_append, List.length_nil]
    omega
  rw [hlines, readLines, readLine_header collaborators place hopens]
  dsimp only
  rw [readLines_code collaborators _ block.code_stays block.close_ends rest rfl, hlength]
  rfl

theorem mode_afterBlock (block : Block) (state : State) :
    (state.afterBlock collaborators block).mode = {} := by
  rw [State.afterBlock, mode_closeObject]
  rfl

theorem object_afterBlock (block : Block) (state : State) :
    (state.afterBlock collaborators block).object = none := by
  simpa [State.mode] using congrArg Mode.inObject (mode_afterBlock collaborators block state)

theorem requests_afterBlock (block : Block) (state : State) :
    (state.afterBlock collaborators block).requests =
      state.requests ++ (block.actual? collaborators).toList := by
  unfold State.afterBlock closeObject Block.actual? Block.load?
  dsimp only
  cases collaborators.handler? (objectLanguage block.gathered) with
  | none => exact (List.append_nil _).symm
  | some handler => rfl

end Reading

/-! ## Scripts with blocks -/

inductive Item where
  | line (text : Text)
  | block (block : Block)

def Item.lines : Item → List Text
  | .line text => [text]
  | .block object => object.lines

def itemLines (items : List Item) : List Text :=
  items.flatMap Item.lines

theorem itemLines_cons (item : Item) (items : List Item) :
    itemLines (item :: items) = item.lines ++ itemLines items :=
  rfl

namespace Mode

/-- Whether the blocks among some items are the objects that are opened in them, up to a fatal
line. -/
def divides (mode : Mode) : List Item → Bool
  | [] => true
  | .line line :: items =>
    ((mode.event line (itemLines items)).next mode).all fun next =>
      !next.inObject && next.divides items
  | .block block :: items => mode.opens block.header && divides {} items

/-- The blocks that are read, in their order. -/
def blocks (mode : Mode) : List Item → List Block
  | [] => []
  | .line line :: items =>
    match (mode.event line (itemLines items)).next mode with
    | none => []
    | some next => next.blocks items
  | .block block :: items => block :: blocks {} items

end Mode

/-! ### Every script is made of items -/

namespace Mode

/-- Whether the objects that are opened in some lines have names and are closed, up to a fatal
line. -/
def closes (mode : Mode) : List Text → Bool
  | [] => !mode.inObject
  | line :: following =>
    ((mode.event line following).next mode).all fun next =>
      (mode.inObject || !next.inObject || mode.opens line) && next.closes following

theorem next_eq_of_directive?
    {mode next : Mode} {line : Text} {directive : Char × Text}
    (hdirective : mode.directive? line = some directive) {following : List Text}
    (hnext : (mode.event line following).next mode = some next) :
    next = { inObject := next.inObject } := by
  obtain ⟨command, text⟩ := directive
  rw [event_eq_of_directive? hdirective, Event.next, afterDirective] at hnext
  split at hnext
  · cases hnext
  · rw [← Option.some.inj hnext]

/-- The lines of an object that is closed are its code and the line that closes it. -/
theorem exists_code_of_closes {lines : List Text} (hcloses : closes { inObject := true } lines) :
    ∃ code close rest, lines = code ++ close :: rest ∧
      (∀ line ∈ code, ¬ endsObject (Text.trim line)) ∧ endsObject (Text.trim close) ∧
        closes {} rest := by
  induction lines with
  | nil => cases hcloses
  | cons line following ih =>
    by_cases hends : endsObject (Text.trim line)
    · have hrest : closes {} following := by
        simpa [closes, event, Event.next, hends] using hcloses
      exact ⟨[], line, following, rfl, List.forall_mem_nil _, hends, hrest⟩
    · have hrest : closes { inObject := true } following := by
        simpa [closes, event, Event.next, hends] using hcloses
      obtain ⟨code, close, rest, rfl, hcode, hclose, hlast⟩ := ih hrest
      exact ⟨line :: code, close, rest, rfl, List.forall_mem_cons.mpr ⟨hends, hcode⟩, hclose,
        hlast⟩

end Mode

theorem itemLines_map_line (lines : List Text) : itemLines (lines.map Item.line) = lines := by
  induction lines with
  | nil => rfl
  | cons line lines ih => rw [List.map_cons, itemLines_cons, ih, Item.lines, List.singleton_append]

/-- Lines whose objects have names and are closed are made of items. -/
theorem exists_items_of_closes
    {mode : Mode} (houtside : mode.inObject = false) {lines : List Text}
    (hcloses : mode.closes lines) :
    ∃ items, itemLines items = lines ∧ mode.divides items := by
  -- a block takes several lines at once, so the induction is on their number
  induction hlength : lines.length using Nat.strong_induction_on generalizing mode lines with
  | h length ih =>
    subst hlength
    cases lines with
    | nil => exact ⟨[], rfl, rfl⟩
    | cons line following =>
      cases hnext : (mode.event line following).next mode with
      | none =>
        refine ⟨.line line :: following.map Item.line, ?_, ?_⟩
        · rw [itemLines_cons, itemLines_map_line]
          rfl
        · rw [Mode.divides, itemLines_map_line, hnext]
          rfl
      | some next =>
        rw [Mode.closes, hnext, Option.all_some, Bool.and_eq_true, houtside, Bool.false_or]
          at hcloses
        obtain ⟨hopens, hrest⟩ := hcloses
        cases hinside : next.inObject with
        | false =>
          obtain ⟨items, rfl, hitems⟩ := ih _ (Nat.lt_succ_self _) hinside hrest rfl
          refine ⟨.line line :: items, rfl, ?_⟩
          rw [Mode.divides, hnext]
          simp [hinside, hitems]
        | true =>
          have hopens : mode.opens line := by
            simpa [hinside] using hopens
          obtain ⟨hdirective, -⟩ := Mode.directive?_of_opens hopens
          obtain ⟨tail, htrim, htail, -⟩ := Mode.exists_trim_of_directive? hdirective
          rw [Mode.next_eq_of_directive? hdirective hnext, hinside] at hrest
          obtain ⟨code, close, rest, rfl, hcode, hclose, hlast⟩ :=
            Mode.exists_code_of_closes hrest
          have hshorter : rest.length < (line :: (code ++ close :: rest)).length := by
            simp only [List.length_cons, List.length_append]
            omega
          obtain ⟨items, rfl, hitems⟩ := ih _ hshorter rfl hlast rfl
          let block : Block := ⟨line, code, close, command?_eq_some htrim htail, hcode, hclose⟩
          refine ⟨.block block :: items, ?_, ?_⟩
          · simp [itemLines_cons, Item.lines, Block.lines, block]
          · rw [Mode.divides, Bool.and_eq_true]
            exact ⟨hopens, hitems⟩

section Run

variable (collaborators : Collaborators) {state : State} {items : List Item}

theorem divides_of_readLine
    {line : Text} (hdivides : state.mode.divides (.line line :: items)) {place : Place}
    {next : State}
    (hread : readLine collaborators place line (itemLines items) state = .ok next) :
    next.object = none ∧ next.mode.divides items ∧
      state.mode.blocks (.line line :: items) = next.mode.blocks items := by
  have hmode := mode_readLine_eq_next collaborators place state line (itemLines items)
  rw [hread] at hmode
  rw [Mode.divides, ← hmode] at hdivides
  rw [Mode.blocks, ← hmode]
  obtain ⟨houtside, hrest⟩ : next.object = none ∧ next.mode.divides items := by
    simpa [Except.toOption, State.mode] using hdivides
  exact ⟨houtside, hrest, rfl⟩

theorem blocks_of_readLine_eq_error
    {line : Text} {place : Place} {problem : Problem}
    (hread : readLine collaborators place line (itemLines items) state = .error problem) :
    state.mode.blocks (.line line :: items) = [] := by
  have hmode := mode_readLine_eq_next collaborators place state line (itemLines items)
  rw [hread] at hmode
  rw [Mode.blocks, ← hmode]
  rfl

/-- A run of the reader makes the requests of the blocks, one after the other. -/
theorem requests_readLines_itemLines
    (state : State) (hobject : state.object = none) (hdivides : state.mode.divides items)
    (place : Place) :
    (readLines collaborators place (itemLines items) state).1.requests =
      state.requests ++ (state.mode.blocks items).filterMap (·.actual? collaborators) := by
  induction items generalizing place state with
  | nil => exact (List.append_nil _).symm
  | cons item items ih =>
    rw [itemLines_cons]
    cases item with
    | line text =>
      rw [Item.lines, List.singleton_append, readLines]
      cases hread : readLine collaborators place text (itemLines items) state with
      | error problem =>
        -- below a fatal line nothing is read, and no block counts
        rw [blocks_of_readLine_eq_error collaborators hread]
        exact (List.append_nil _).symm
      | ok next =>
        obtain ⟨hnext, hrest, hblocks⟩ := divides_of_readLine collaborators hdivides hread
        obtain ⟨-, hrequests⟩ := loaded_of_readLine collaborators place text (itemLines items)
          hobject hread
        rw [hblocks, ← hrequests]
        exact ih next hnext hrest _
    | block block =>
      rw [Mode.divides, Bool.and_eq_true] at hdivides
      obtain ⟨hopens, hrest⟩ := hdivides
      have hmode := mode_afterBlock collaborators block state
      have hrun := ih _ (object_afterBlock collaborators block state) (by rwa [hmode])
        { place with line := place.line + block.lines.length }
      rw [Item.lines, readLines_block collaborators place hopens, hrun, requests_afterBlock, hmode,
        Mode.blocks, List.append_assoc, List.filterMap_cons]
      cases block.actual? collaborators <;> rfl

end Run

/-! ## Other code -/

/-- The block with white space for its code. -/
def Block.blank (block : Block) : Block :=
  { block with
    code := block.code.map fun _ => []
    code_stays := by
      intro line hline
      obtain ⟨-, -, rfl⟩ := List.mem_map.mp hline
      decide }

def Item.blank : Item → Item
  | .line text => .line text
  | .block object => .block object.blank

theorem length_lines_blank (item : Item) : item.blank.lines.length = item.lines.length := by
  cases item with
  | line text => rfl
  | block block => simp [Item.blank, Item.lines, Block.lines, Block.blank]

theorem length_itemLines_blank (items : List Item) :
    (itemLines (items.map Item.blank)).length = (itemLines items).length := by
  induction items with
  | nil => rfl
  | cons item items ih =>
    rw [List.map_cons, itemLines_cons, itemLines_cons, List.length_append, List.length_append,
      length_lines_blank, ih]

/-- What a directive gathers ends above the code of a block. -/
theorem gather_blank (command : Char) (text : Text) (items : List Item) :
    gather command text (itemLines (items.map Item.blank)) =
      gather command text (itemLines items) := by
  induction items generalizing text with
  | nil => rfl
  | cons item items ih =>
    rw [List.map_cons, itemLines_cons, itemLines_cons]
    cases item with
    | line line =>
      rw [Item.blank, Item.lines, List.singleton_append, List.singleton_append]
      obtain ⟨-, hgather⟩ | ⟨next, body, -, hgather⟩ := gather_cons_cases line
      · rw [hgather, hgather, ih]
      · rw [hgather, hgather, ih]
    | block block =>
      rw [Item.blank, Item.lines, Item.lines, Block.lines, Block.lines, Block.blank,
        List.cons_append, List.cons_append]
      obtain ⟨hnone, -⟩ | ⟨next, body, hsome, hgather⟩ := gather_cons_cases block.header
      · rw [block.command_header] at hnone
        cases hnone
      · obtain rfl : '>' = next := by
          simpa [block.command_header] using hsome
        simp [hgather]

theorem event_blank (mode : Mode) (line : Text) (items : List Item) :
    mode.event line (itemLines (items.map Item.blank)) = mode.event line (itemLines items) := by
  cases hdirective : mode.directive? line with
  | none => exact Mode.event_of_directive?_eq_none hdirective _ _
  | some directive =>
    rw [Mode.event_eq_of_directive? hdirective, Mode.event_eq_of_directive? hdirective,
      gather_blank]

theorem exists_afterBlock_eq_loaded
    (collaborators : Collaborators) (block other : Block) (state : State)
    (objects : Table Text) (requests : List Request) :
    ∃ laterObjects laterRequests,
      (state.loaded objects requests).afterBlock collaborators other =
        (state.afterBlock collaborators block).loaded laterObjects laterRequests := by
  unfold State.afterBlock closeObject
  dsimp only
  cases collaborators.handler? (objectLanguage block.gathered) <;>
    cases collaborators.handler? (objectLanguage other.gathered) <;> exact ⟨_, _, rfl⟩

theorem exists_readLines_blank_eq_loaded
    (collaborators : Collaborators) {items : List Item} (state : State)
    (hobject : state.object = none) (hdivides : state.mode.divides items) (place : Place)
    (objects : Table Text) (requests : List Request) :
    let reading := readLines collaborators place (itemLines items) state
    ∃ laterObjects laterRequests,
      readLines collaborators place (itemLines (items.map Item.blank))
          (state.loaded objects requests) =
        (reading.1.loaded laterObjects laterRequests, reading.2) := by
  induction items generalizing place state objects requests with
  | nil => exact ⟨objects, requests, rfl⟩
  | cons item items ih =>
    rw [List.map_cons, itemLines_cons, itemLines_cons]
    cases item with
    | line text =>
      have hline : readLine collaborators place text (itemLines (items.map Item.blank))
          (state.loaded objects requests) =
            (readLine collaborators place text (itemLines items) state).map
              (State.loaded objects requests) := by
        rw [← readLine_loaded collaborators place text _ hobject, State.readLine_eq_perform,
          State.readLine_eq_perform, event_blank]
      rw [Item.blank, Item.lines, List.singleton_append, List.singleton_append, readLines,
        readLines, hline]
      cases hread : readLine collaborators place text (itemLines items) state with
      | error problem => exact ⟨objects, requests, rfl⟩
      | ok next =>
        obtain ⟨hnext, hrest, -⟩ := divides_of_readLine collaborators hdivides hread
        exact ih next hnext hrest _ objects requests
    | block block =>
      rw [Mode.divides, Bool.and_eq_true] at hdivides
      obtain ⟨hopens, hrest⟩ := hdivides
      have hblank : (state.loaded objects requests).mode.opens block.blank.header := hopens
      have hmode := mode_afterBlock collaborators block state
      have hlength : block.blank.lines.length = block.lines.length :=
        length_lines_blank (.block block)
      obtain ⟨laterObjects, laterRequests, hloaded⟩ := exists_afterBlock_eq_loaded collaborators
        block block.blank state objects requests
      rw [Item.blank, Item.lines, Item.lines, readLines_block collaborators place hopens,
        readLines_block collaborators place hblank, hlength, hloaded]
      exact ih _ (object_afterBlock collaborators block state) (by rwa [hmode]) _ laterObjects
        laterRequests

theorem conclude_loaded
    (objects : Table Text) (requests : List Request) (source : Text) (count : Nat)
    (reading : State × Option Problem) :
    conclude source count (reading.1.loaded objects requests, reading.2) =
      { persona := withObjects objects (conclude source count reading).persona
        requests
        result := (conclude source count reading).result } := by
  obtain ⟨state, fatal⟩ := reading
  cases fatal with
  | some problem => rfl
  | none =>
    have hfinish : finish source (state.loaded objects requests) =
        (finish source state).loaded objects requests := by
      obtain ⟨persona, topic, trigger, inComment, object, warnings, loads⟩ := state
      cases object <;> rfl
    simp only [conclude, hfinish]
    rfl

/-! ## What blocks load -/

theorem lower_language_of_handler?
    {collaborators : Collaborators} {language : Text} {handler : ObjectHandler}
    (hfound : collaborators.handler? language = some handler) :
    Text.lower handler.language = language := by
  simpa using List.find?_some hfound

/-- A block loads what is written exactly when its header keeps the name and the language, and no
line of its code has white space at its ends. -/
theorem Block.actual?_eq_written?_iff
    {collaborators : Collaborators} {block : Block}
    (hhandled : (collaborators.handler? (objectLanguage (headerText block.header))).isSome) :
    block.actual? collaborators = block.written? collaborators ↔
      objectName block.gathered = objectName (headerText block.header) ∧
        objectLanguage block.gathered = objectLanguage (headerText block.header) ∧
          ∀ line ∈ block.code, Text.trim line = line := by
  obtain ⟨handler, hfound⟩ := Option.isSome_iff_exists.mp hhandled
  refine ⟨fun hsame => ?_, fun ⟨hname, hlanguage, hlines⟩ => ?_⟩
  · rw [written?, load?, hfound, Option.map_some] at hsame
    obtain ⟨other, hother, hload⟩ := Option.map_eq_some_iff.mp hsame
    injection hload with hsame hname hcode
    have hlanguage : objectLanguage block.gathered = objectLanguage (headerText block.header) := by
      rw [← lower_language_of_handler? hother, hsame, lower_language_of_handler? hfound]
    have hlines : ∀ line ∈ block.code, Text.trim line = line := by
      simpa using List.map_inj_left.mp (hcode.trans (List.map_id block.code).symm)
    exact ⟨hname, hlanguage, hlines⟩
  · have hcode : block.code.map Text.trim = block.code :=
      (List.map_congr_left hlines).trans (List.map_id block.code)
    rw [actual?, written?, load?, load?, hname, hlanguage, hcode]

/-- Reading a script whose objects all have names and are closed makes one request for each block,
in their order, if there is a handler for what the header is read as.  The request has the code
trimmed.  So these are the requests for what is written exactly when all blocks keep their names
and languages and no line of code has white space at its ends.  Apart from the requests and the
objects, nothing depends on the code. -/
theorem read_loads_blocks
    {script : Text} {items : List Item} (hscript : Text.lines script = itemLines items)
    (hdivides : Mode.divides {} items) {collaborators : Collaborators}
    (hhandled : ∀ block ∈ Mode.blocks {} items,
      (collaborators.handler? (objectLanguage (headerText block.header))).isSome)
    (persona : Persona) (source : Text) :
    let blocks := Mode.blocks {} items
    let reading := read collaborators persona source script
    reading.requests = blocks.filterMap (·.actual? collaborators) ∧
      (reading.requests = blocks.filterMap (·.written? collaborators) ↔
        ∀ block ∈ blocks, objectName block.gathered = objectName (headerText block.header) ∧
          objectLanguage block.gathered = objectLanguage (headerText block.header) ∧
            ∀ line ∈ block.code, Text.trim line = line) ∧
      ∀ blank, Text.lines blank = itemLines (items.map Item.blank) →
        let other := read collaborators persona source blank
        other.persona = withObjects other.persona.objects reading.persona ∧
          other.result = reading.result := by
  intro blocks reading
  have hmode : (State.mode { persona }) = {} := rfl
  have hrequests : reading.requests = blocks.filterMap (·.actual? collaborators) := by
    have hrun := requests_readLines_itemLines collaborators { persona } rfl hdivides ⟨source, 1⟩
    rw [hmode, List.nil_append, ← hscript] at hrun
    exact (requests_read collaborators persona source script).trans hrun
  refine ⟨hrequests, ?_, fun blank hblank => ?_⟩
  · have hwritten : ∀ block ∈ blocks, (block.written? collaborators).isSome := by
      intro block hblock
      rw [Block.written?, Block.load?, Option.isSome_map]
      exact hhandled block hblock
    rw [hrequests, filterMap_eq_filterMap_iff hwritten]
    exact forall₂_congr fun block hblock => Block.actual?_eq_written?_iff (hhandled block hblock)
  · obtain ⟨objects, requests, hloaded⟩ := exists_readLines_blank_eq_loaded collaborators
      { persona } rfl hdivides ⟨source, 1⟩ persona.objects []
    have hlength : (Text.lines blank).length = (Text.lines script).length := by
      rw [hblank, hscript, length_itemLines_blank]
    have hother : read collaborators persona source blank =
        { persona := withObjects objects reading.persona
          requests
          result := reading.result } := by
      rw [read_eq_conclude, hlength, hblank]
      refine (congrArg _ hloaded).trans ?_
      rw [conclude_loaded, ← hscript, ← read_eq_conclude]
    rw [hother]
    exact ⟨rfl, rfl⟩

/-- Code that looks like directives and comments is loaded as it is written. -/
theorem read_loads_code_like_directives :
    let block : Block :=
      { header := "> object rev test".toList
        code := ["- hello".toList, [], "/* // */".toList, "? ^".toList]
        close := "<object".toList
        command_header := by decide +kernel
        code_stays := by decide +kernel
        close_ends := by decide +kernel }
    let items : List Item :=
      [.line "+ hi".toList, .line "- hello".toList, .block block, .line "- bye".toList]
    let script := Text.unlines (itemLines items)
    let handler : ObjectHandler := ⟨"test".toList, fun name _ _ => name⟩
    let reading := read { handlers := [handler] } (Persona.new 50) Mind.streamed script
    reading.requests = [.load "test".toList "rev".toList block.code] := by
  intro block items script handler reading
  have hscript : Text.lines script = itemLines items := by
    decide +kernel
  have hhandled : ∀ block ∈ Mode.blocks {} items,
      (Collaborators.handler? { handlers := [handler] }
        (objectLanguage (headerText block.header))).isSome := by
    decide +kernel
  obtain ⟨-, hwritten, -⟩ := read_loads_blocks hscript (by decide +kernel) hhandled
    (Persona.new 50) Mind.streamed
  apply (hwritten.mpr (by decide +kernel)).trans
  decide +kernel

/-- Code is loaded without the white space around its lines, and a line of code that continues the
header changes the name or the language in it. -/
theorem code_is_loaded_trimmed :
    let indented : Block :=
      { header := "> object f test".toList
        code := ["  let x = 1;".toList]
        close := "< object".toList
        command_header := by decide +kernel
        code_stays := by decide +kernel
        close_ends := by decide +kernel }
    let continuing : Block :=
      { indented with
        header := "> object rev test".toList
        code := ["^ ok".toList]
        command_header := by decide +kernel
        code_stays := by decide +kernel }
    let items : List Item := [.block indented, .block continuing]
    let handler : ObjectHandler := ⟨"test".toList, fun name _ _ => name⟩
    let collaborators : Collaborators := { handlers := [handler] }
    let script := Text.unlines (itemLines items)
    let reading := read collaborators (Persona.new 50) Mind.streamed script
    Text.lines script = itemLines items ∧ Mode.divides {} items ∧
      [indented, continuing].filterMap (·.written? collaborators) =
        [.load "test".toList "f".toList ["  let x = 1;".toList],
          .load "test".toList "rev".toList ["^ ok".toList]] ∧
      reading.requests = [.load "test".toList "f".toList ["let x = 1;".toList]] := by
  intro indented continuing items handler collaborators script reading
  refine ⟨?_, ?_, ?_, ?_⟩ <;> decide +kernel

end Script

end DialogueScript

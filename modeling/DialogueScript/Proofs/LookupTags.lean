import DialogueScript.Proofs.Numerals
import DialogueScript.Proofs.PlainText

/-!
# Templates that look things up

Some tags of a template only look something up: the user, a star, a message or reply of the past, or
a variable.  They are replaced kind by kind.  As long as no value has a mark in it, every pass finds
the tags of its kind that the template was written with, and no others.
-/

namespace DialogueScript

namespace Template

/-! ## Values -/

/-- Star `n`, counted from 1, if it exists and its number fits a word.  The first of no stars at all
is `undefined`, and other stars that do not exist are nothing. -/
def starValue (stars : List Text) (n : Nat) : Text :=
  if h : 1 ≤ n ∧ n ≤ stars.length ∧ n < Number.wordLimit then stars[n - 1]
  else if n = 1 ∧ stars = [] then undefined
  else []

/-- Entry `n` of the history, counted from 1, if it exists. -/
def entryValue (entries : List Text) (n : Nat) : Text :=
  if h : 1 ≤ n ∧ n ≤ entries.length then Text.lower entries[n - 1] else undefined

theorem star_eq_starValue
    {n : Nat} (hn : n < Number.wordLimit) (stars : List Text) :
    star stars n = starValue stars n := by
  unfold star starValue
  cases n with
  | zero => simp
  | succ index =>
    dsimp only
    by_cases hindex : index < stars.length
    · rw [dif_pos (by omega), List.getElem?_eq_getElem hindex]
      rfl
    · rw [dif_neg (by omega), List.getElem?_eq_none (Nat.le_of_not_lt hindex)]
      simp

theorem star_starNumber (stars : List Text) (number : Numeral) :
    star stars (starNumber number.digits) = starValue stars number.value := by
  have hsmall : 1 < Number.wordLimit := by decide
  rw [starNumber.eq_1, Number.word?_of_isDigit number.ne_nil number.isDigit]
  change star stars ((if number.value < _ then some number.value else none).getD 0) = _
  split
  · rename_i hfits
    exact star_eq_starValue hfits stars
  · rename_i hlarge
    rw [starValue, dif_neg (by omega), if_neg (by omega)]
    rfl

theorem lower_entry (entries : List Text) (n : Nat) :
    Text.lower (Session.entry entries n) = entryValue entries n := by
  have hundefined : Text.lower undefined = undefined := by decide +kernel
  unfold Session.entry entryValue
  cases n with
  | zero => exact hundefined
  | succ index =>
    dsimp only
    by_cases hindex : index < entries.length
    · rw [dif_pos (by omega), List.getElem?_eq_getElem hindex]
      rfl
    · rw [dif_neg (by omega), List.getElem?_eq_none (Nat.le_of_not_lt hindex)]
      exact hundefined

/-! ## Tags -/

/-- Who has said something. -/
inductive Speaker where
  | user
  | bot
deriving Repr, DecidableEq

namespace Speaker

/-- What a part of the message, or of the previous reply, is called. -/
def starName : Speaker → Text
  | .user => "star".toList
  | .bot => "botstar".toList

/-- What an entry of the history is called. -/
def entryName : Speaker → Text
  | .user => "input".toList
  | .bot => "reply".toList

theorem mem_all (of : Speaker) : of ∈ [user, bot] := by
  cases of <;> decide

def stars (stars : Stars) : Speaker → List Text
  | .user => stars.message
  | .bot => stars.previous

def entries (session : Session) : Speaker → List Text
  | .user => session.inputs
  | .bot => session.replies

end Speaker

/-- Whose variable is looked up. -/
inductive Holder where
  | bot
  | global
  | user
deriving Repr, DecidableEq

namespace Holder

def opening : Holder → Text
  | .bot => "<bot ".toList
  | .global => "<env ".toList
  | .user => "<get ".toList

def get? (turn : Turn) (name : Text) : Holder → Option Text
  | .bot => turn.persona.getVariable? name
  | .global => turn.persona.getGlobal? name
  | .user => turn.session.values.get? name

end Holder

/-- The name of a variable in a tag. -/
structure Name where
  text : Text
  ne_nil : text ≠ []
  inert : text.Inert
  onLine : '\n' ∉ text
  noAngle : '>' ∉ text

/-- A tag that looks something up.  Without a number, it means the first. -/
inductive Lookup where
  | user
  | star (of : Speaker) (number : Option Numeral)
  | entry (of : Speaker) (digit : Option (Fin 10))
  | named (holder : Holder) (name : Name)

/-- The kinds of tags: all tags of one kind are replaced at once. -/
inductive Kind where
  | bareEntry (of : Speaker)
  | user
  | bareStar (of : Speaker)
  | star
  | entry
  | named (holder : Holder)
deriving Repr, DecidableEq

namespace Lookup

def kind : Lookup → Kind
  | .user => .user
  | .star of none => .bareStar of
  | .star _ (some _) => .star
  | .entry of none => .bareEntry of
  | .entry _ (some _) => .entry
  | .named holder _ => .named holder

def written : Lookup → Text
  | .user => "<id>".toList
  | .star of none => '<' :: of.starName ++ ['>']
  | .star of (some number) => '<' :: of.starName ++ number.digits ++ ['>']
  | .entry of none => '<' :: of.entryName ++ ['>']
  | .entry of (some digit) => '<' :: of.entryName ++ [digit.val.digitChar, '>']
  | .named holder name => holder.opening ++ name.text ++ ['>']

def value (turn : Turn) (stars : Stars) : Lookup → Text
  | .user => turn.session.id
  | .star of number => starValue (of.stars stars) ((number.map Numeral.value).getD 1)
  | .entry of digit => entryValue (of.entries turn.session) ((digit.map Fin.val).getD 1)
  | .named holder name => (holder.get? turn name.text).getD undefined

/-! ## Openings -/

def digits : List Char := "0123456789".toList

/-- All that the tags of each kind begin with. -/
def openings : List (Kind × Text) :=
  (.user, "<id>".toList) ::
    ([Speaker.user, .bot].flatMap fun of =>
      [(.bareStar of, '<' :: of.starName ++ ['>']),
        (.bareEntry of, '<' :: of.entryName ++ ['>'])] ++
        digits.flatMap fun digit =>
          [(.star, '<' :: of.starName ++ [digit]), (.entry, '<' :: of.entryName ++ [digit])]) ++
    [Holder.bot, .global, .user].map fun holder => (.named holder, holder.opening)

theorem mem_digits_of_isDigit {c : Char} (hdigit : c.isDigit) : c ∈ digits := by
  have hchars : ∀ n : Fin 128, (Char.ofNat n).isDigit → Char.ofNat n ∈ digits := by decide
  have hascii : c.toNat < 128 := by
    simp only [Char.isDigit, Bool.and_eq_true, decide_eq_true_eq] at hdigit
    have hle : c.toNat ≤ '9'.toNat := hdigit.2
    exact Nat.lt_of_le_of_lt hle (by decide)
  have hchar : Char.ofNat c.toNat = c := Char.ofNat_toNat c
  rw [← hchar]
  exact hchars ⟨c.toNat, hascii⟩ (by simpa [hchar] using hdigit)

theorem inert_of_isDigit {digits : Text} (hdigits : ∀ c ∈ digits, c.isDigit) : digits.Inert := by
  refine ⟨fun c hc => ⟨?_, ?_⟩, fun hescape => absurd (hdigits _ hescape) (by decide)⟩ <;>
    rintro rfl <;> exact absurd (hdigits _ hc) (by decide)

theorem exists_opening (tag : Lookup) :
    ∃ opening body, tag.written = opening ++ body ∧ (tag.kind, opening) ∈ openings ∧
      body.Inert := by
  cases tag with
  | user => exact ⟨written .user, [], rfl, by decide, by decide⟩
  | star of number =>
    cases number with
    | none =>
      have hbare : ∀ of ∈ [Speaker.user, .bot],
          (Kind.bareStar of, '<' :: of.starName ++ ['>']) ∈ openings := by decide
      refine ⟨'<' :: of.starName ++ ['>'], [], (List.append_nil _).symm, ?_, by decide⟩
      exact hbare of of.mem_all
    | some number =>
      obtain ⟨digits, hsome, hdigits⟩ := number
      cases digits with
      | nil => exact absurd rfl hsome
      | cons c digits =>
        obtain ⟨hc, hrest⟩ := List.forall_mem_cons.mp hdigits
        have hstar : ∀ of ∈ [Speaker.user, .bot],
            Lookup.digits.map (fun c => (Kind.star, '<' :: of.starName ++ [c])) ⊆ openings := by
          decide
        refine ⟨'<' :: of.starName ++ [c], digits ++ ['>'], by simp [written], ?_, ?_⟩
        · exact hstar of of.mem_all (List.mem_map_of_mem (mem_digits_of_isDigit hc))
        · exact (inert_of_isDigit hrest).append (by decide)
  | entry of digit =>
    cases digit with
    | none =>
      have hbare : ∀ of ∈ [Speaker.user, .bot],
          (Kind.bareEntry of, '<' :: of.entryName ++ ['>']) ∈ openings := by decide
      refine ⟨'<' :: of.entryName ++ ['>'], [], (List.append_nil _).symm, ?_, by decide⟩
      exact hbare of of.mem_all
    | some digit =>
      have hentry : ∀ digit : Fin 10, ∀ of ∈ [Speaker.user, .bot],
          (Kind.entry, '<' :: of.entryName ++ [digit.val.digitChar]) ∈ openings := by decide
      refine ⟨'<' :: of.entryName ++ [digit.val.digitChar], ['>'], by simp [written], ?_, by decide⟩
      exact hentry digit of of.mem_all
  | named holder name =>
    have hholder : ∀ holder ∈ [Holder.bot, .global, .user],
        (Kind.named holder, holder.opening) ∈ openings := by decide
    refine ⟨holder.opening, name.text ++ ['>'], by simp [written], ?_, ?_⟩
    · exact hholder holder (by cases holder <;> decide)
    · exact name.inert.append (by decide)

theorem not_mem_escape_written (tag : Lookup) : '\\' ∉ tag.written := by
  obtain ⟨opening, body, hwritten, hmem, hbody⟩ := tag.exists_opening
  have hopenings : ∀ entry ∈ openings, '\\' ∉ entry.2 := by decide
  rw [hwritten, List.mem_append]
  exact not_or.mpr ⟨hopenings _ hmem, hbody.2⟩

/-- A tag of another kind is passed over. -/
theorem apart_written
    {others : List Text} {kinds : List Kind}
    (hopened : ∀ entry ∈ openings, entry.1 ∉ kinds → Text.Opened others entry.2)
    {tag : Lookup} (hkind : tag.kind ∉ kinds) :
    Text.Apart others tag.written := by
  obtain ⟨opening, body, hwritten, hmem, hbody⟩ := tag.exists_opening
  exact ⟨opening, body, hwritten, hopened _ hmem hkind, hbody.1⟩

/-! ## Entries without a number -/

/-- The tags for what `of` has said last get their number. -/
def number (of : Speaker) : Lookup → Lookup
  | .entry other none => if other = of then .entry other (some 1) else .entry other none
  | tag => tag

theorem value_number (of : Speaker) (turn : Turn) (stars : Stars) (tag : Lookup) :
    (tag.number of).value turn stars = tag.value turn stars := by
  rcases tag with _ | _ | ⟨other, _ | digit⟩ | _ <;> try rfl
  by_cases hother : other = of
  · simp only [number, if_pos hother]
    rfl
  · simp only [number, if_neg hother]

theorem number_of_ne {of : Speaker} {tag : Lookup} (hkind : tag.kind ≠ .bareEntry of) :
    tag.number of = tag := by
  rcases tag with _ | _ | ⟨other, _ | digit⟩ | _ <;> try rfl
  refine if_neg ?_
  rintro rfl
  exact hkind rfl

theorem kind_number_ne (of : Speaker) (tag : Lookup) : (tag.number of).kind ≠ .bareEntry of := by
  by_cases hkind : tag.kind = .bareEntry of
  · rcases tag with _ | ⟨_, _ | _⟩ | ⟨other, _ | _⟩ | _ <;> try cases hkind
    simp [number, kind]
  · rwa [number_of_ne hkind]

theorem kind_number_ne_of_ne
    {of other : Speaker} {tag : Lookup} (hkind : tag.kind ≠ .bareEntry other) :
    (tag.number of).kind ≠ .bareEntry other := by
  by_cases hof : tag.kind = .bareEntry of
  · rcases tag with _ | ⟨_, _ | _⟩ | ⟨_, _ | _⟩ | _ <;> try cases hof
    simp [number, kind]
  · rwa [number_of_ne hof]

/-! ## Reading the tags -/

theorem becomes_literal {text : Text} (hsome : text ≠ []) (result : Text) :
    Text.Becomes (Text.literal? text) (fun _ => result) text result := by
  have hread : ∀ rest, Text.literal? text (text ++ rest) = some ((), rest) := by
    intro rest
    rw [Text.literal?, Text.strip?_append]
    rfl
  exact (Text.FindsIn.tag hsome hread).becomes_value _

theorem becomes_number {of : Speaker} {tag : Lookup} (hkind : tag.kind = .bareEntry of) :
    Text.Becomes (Text.literal? ('<' :: of.entryName ++ ['>']))
      (fun _ => '<' :: of.entryName ++ "1>".toList) tag.written (tag.number of).written := by
  rcases tag with _ | ⟨_, _ | _⟩ | ⟨other, _ | _⟩ | _ <;> try cases hkind
  have hwritten : ((entry of none).number of).written = '<' :: of.entryName ++ "1>".toList := by
    rw [number, if_pos rfl]
    rfl
  rw [hwritten]
  exact becomes_literal (by simp) _

section Values

variable {turn : Turn} {stars : Stars} {tag : Lookup}

theorem becomes_value_of_user (hkind : tag.kind = .user) :
    Text.Becomes (Text.literal? "<id>".toList) (fun _ => turn.session.id) tag.written
      (tag.value turn stars) := by
  rcases tag with _ | ⟨_, _ | _⟩ | ⟨_, _ | _⟩ | _ <;> try cases hkind
  exact becomes_literal (by decide) _

theorem becomes_value_of_bareStar (of : Speaker) (hkind : tag.kind = .bareStar of) :
    Text.Becomes (Text.literal? ('<' :: of.starName ++ ['>']))
      (fun _ => Template.star (of.stars stars) 1) tag.written (tag.value turn stars) := by
  rcases tag with _ | ⟨_, _ | _⟩ | ⟨_, _ | _⟩ | _ <;> try cases hkind
  rw [star_eq_starValue (by decide)]
  exact becomes_literal (by simp) _

/-- The star that a tag names. -/
def starOf (stars : Stars) : StarTag → Text
  | .message digits => Template.star stars.message (starNumber digits)
  | .previous digits => Template.star stars.previous (starNumber digits)

theorem becomes_value_of_star (hkind : tag.kind = .star) :
    Text.Becomes starTag? (starOf stars) tag.written (tag.value turn stars) := by
  rcases tag with _ | ⟨of, _ | number⟩ | ⟨_, _ | _⟩ | _ <;> try cases hkind
  have hdigits : ∀ c ∈ number.digits, Text.isDecimalDigit c :=
    fun c hc => isDecimalDigit_of_isDigit (number.isDigit c hc)
  have hread : ∀ opening rest : Text,
      Tag.numbered? opening ['>'] (opening ++ number.digits ++ ['>'] ++ rest) =
        some (number.digits, rest) := fun opening rest =>
    Tag.numbered?_append opening [] rest hdigits number.ne_nil (by decide)
  have hvalue : (star of (some number)).value turn stars =
      Template.star (of.stars stars) (starNumber number.digits) :=
    (star_starNumber _ number).symm
  rw [hvalue]
  cases of with
  | user =>
    have hfinds : Text.FindsIn starTag? ("<star".toList ++ number.digits ++ ['>'])
        [.tag (.message number.digits)] := by
      refine .tag (by simp) fun rest => ?_
      rw [starTag?, hread]
      rfl
    exact hfinds.becomes_value (starOf stars)
  | bot =>
    have hfinds : Text.FindsIn starTag? ("<botstar".toList ++ number.digits ++ ['>'])
        [.tag (.previous number.digits)] := by
      refine .tag (by simp) fun rest => ?_
      have hmessage : Tag.numbered? "<star".toList ['>']
          ("<botstar".toList ++ number.digits ++ ['>'] ++ rest) = none := by
        refine Text.opensWith_numbered? _ _ _ (List.forall_mem_singleton.mpr ?_)
        rw [List.append_assoc, List.append_assoc]
        exact Text.strip?_append_of_clashes (by decide) _
      rw [starTag?, hmessage, hread]
      rfl
    exact hfinds.becomes_value (starOf stars)

/-- The entry of the history that a tag names. -/
def entryOf (session : Session) : HistoryTag → Text
  | .input index => Text.lower (session.input index)
  | .reply index => Text.lower (session.reply index)

theorem becomes_value_of_entry (hkind : tag.kind = .entry) :
    Text.Becomes historyTag? (entryOf turn.session) tag.written (tag.value turn stars) := by
  rcases tag with _ | ⟨_, _ | _⟩ | ⟨of, _ | digit⟩ | _ <;> try cases hkind
  have hindex : ∀ digit : Fin 10, Number.digits? [digit.val.digitChar] = some digit.val := by
    decide
  have hread : ∀ opening rest : Text,
      historyIndex? opening (opening ++ [digit.val.digitChar, '>'] ++ rest) =
        some (digit.val, rest) := by
    intro opening rest
    simp [historyIndex?, Text.strip?_append, hindex]
  have hvalue : (entry of (some digit)).value turn stars =
      Text.lower (Session.entry (of.entries turn.session) digit) :=
    (lower_entry _ _).symm
  rw [hvalue]
  cases of with
  | user =>
    have hfinds : Text.FindsIn historyTag? ("<input".toList ++ [digit.val.digitChar, '>'])
        [.tag (.input digit.val)] := by
      refine .tag (by simp) fun rest => ?_
      rw [historyTag?, hread]
      rfl
    exact hfinds.becomes_value (entryOf turn.session)
  | bot =>
    have hfinds : Text.FindsIn historyTag? ("<reply".toList ++ [digit.val.digitChar, '>'])
        [.tag (.reply digit.val)] := by
      refine .tag (by simp) fun rest => ?_
      have hinput : historyIndex? "<input".toList
          ("<reply".toList ++ [digit.val.digitChar, '>'] ++ rest) = none := by
        refine Text.opensWith_historyIndex? _ _ (List.forall_mem_singleton.mpr ?_)
        rw [List.append_assoc]
        exact Text.strip?_append_of_clashes (by decide) _
      rw [historyTag?, hinput, hread]
      rfl
    exact hfinds.becomes_value (entryOf turn.session)

end Values

end Lookup

/-! ## Fragments of a template -/

/-- Plain text, or a tag. -/
inductive Fragment where
  | prose (text : Text)
  | lookup (tag : Lookup)

namespace Fragment

def written : Fragment → Text
  | .prose text => text
  | .lookup tag => tag.written

def value (turn : Turn) (stars : Stars) : Fragment → Text
  | .prose text => text
  | .lookup tag => tag.value turn stars

/-- The fragment is text once the tags of these kinds have been replaced. -/
def Settled (kinds : List Kind) : Fragment → Prop
  | .prose _ => True
  | .lookup tag => tag.kind ∈ kinds

instance (kinds : List Kind) (fragment : Fragment) : Decidable (fragment.Settled kinds) :=
  match fragment with
  | .prose _ => inferInstanceAs (Decidable True)
  | .lookup tag => inferInstanceAs (Decidable (tag.kind ∈ kinds))

/-- The fragment when the tags of these kinds have been replaced. -/
def shown (turn : Turn) (stars : Stars) (kinds : List Kind) (fragment : Fragment) : Text :=
  if fragment.Settled kinds then fragment.value turn stars else fragment.written

theorem Settled.mono
    {kinds more : List Kind} {fragment : Fragment} (hsettled : fragment.Settled kinds)
    (hsub : kinds ⊆ more) :
    fragment.Settled more := by
  cases fragment with
  | prose text => exact trivial
  | lookup tag => exact hsub hsettled

/-- The tags for what `of` has said last get their number. -/
def number (of : Speaker) : Fragment → Fragment
  | .prose text => .prose text
  | .lookup tag => .lookup (tag.number of)

section Shown

variable {turn : Turn} {stars : Stars} {others : List Text} {kinds : List Kind}
  {fragment : Fragment}

theorem shown_of_settled (hsettled : fragment.Settled kinds) :
    fragment.shown turn stars kinds = fragment.value turn stars :=
  if_pos hsettled

theorem shown_of_not_settled (hsettled : ¬ fragment.Settled kinds) :
    fragment.shown turn stars kinds = fragment.written :=
  if_neg hsettled

/-- A fragment shows its value, or it is a tag of another kind and shows what is written. -/
theorem shown_cases (turn : Turn) (stars : Stars) (kinds : List Kind) (fragment : Fragment) :
    (fragment.Settled kinds ∧ fragment.shown turn stars kinds = fragment.value turn stars) ∨
      ∃ tag : Lookup, fragment = .lookup tag ∧ tag.kind ∉ kinds ∧
        fragment.shown turn stars kinds = tag.written := by
  by_cases hsettled : fragment.Settled kinds
  · exact .inl ⟨hsettled, shown_of_settled hsettled⟩
  · cases fragment with
    | prose text => exact absurd trivial hsettled
    | lookup tag => exact .inr ⟨tag, rfl, hsettled, shown_of_not_settled hsettled⟩

end Shown

end Fragment

/-- A template as it is written. -/
def writeFragments (fragments : List Fragment) : Text :=
  fragments.flatMap Fragment.written

/-! ## Passes -/

section Passes

variable {turn : Turn} {stars : Stars} {others : List Text} {fragments : List Fragment}

/-- A pass replaces the tags of one more kind, and passes over all others and over the values. -/
theorem replaceTags_shown
    {α : Type} {read? : Text → Option (α × Text)} {f : α → Text} {kind : Kind} {kinds : List Kind}
    (hread : Text.OpensWith read? others) (hopens : ∀ opening ∈ others, opening.OpensTag)
    (hopened : ∀ entry ∈ Lookup.openings, entry.1 ∉ kind :: kinds → Text.Opened others entry.2)
    (hbecomes : ∀ tag : Lookup, tag.kind = kind →
      Text.Becomes read? f tag.written (tag.value turn stars))
    (hvalues : ∀ fragment ∈ fragments, fragment.Settled kinds →
      Text.Apart others (fragment.value turn stars)) :
    Text.replaceTags read? f (fragments.flatMap (Fragment.shown turn stars kinds)) =
      fragments.flatMap (Fragment.shown turn stars (kind :: kinds)) := by
  refine Text.replaceTags_flatMap fun fragment hmem => ?_
  rcases Fragment.shown_cases turn stars kinds fragment with
    ⟨hsettled, hshown⟩ | ⟨tag, rfl, hother, hshown⟩ <;> rw [hshown]
  · have hstill : fragment.Settled (kind :: kinds) := hsettled.mono (List.subset_cons_self _ _)
    rw [Fragment.shown_of_settled hstill]
    exact hread.becomes_self hopens (hvalues fragment hmem hsettled) f
  · by_cases hkind : tag.kind = kind
    · have hnow : (Fragment.lookup tag).Settled (kind :: kinds) := List.mem_cons.mpr (.inl hkind)
      rw [Fragment.shown_of_settled hnow]
      exact hbecomes tag hkind
    · have hnot : ¬ (Fragment.lookup tag).Settled (kind :: kinds) :=
        List.mem_cons.not.mpr (not_or.mpr ⟨hkind, hother⟩)
      rw [Fragment.shown_of_not_settled hnot]
      exact hread.becomes_self hopens (Lookup.apart_written hopened hnot) f

/-- The first of the passes over the history: the number 1 is added where there is none. -/
theorem replaceAll_bareEntry
    (of : Speaker) {fragments : List Fragment}
    (hprose : ∀ text, .prose text ∈ fragments → Text.Apart ['<' :: of.entryName ++ ['>']] text) :
    Text.replaceAll ('<' :: of.entryName ++ ['>']) ('<' :: of.entryName ++ "1>".toList)
        (writeFragments fragments) =
      writeFragments (fragments.map (Fragment.number of)) := by
  have hread := Text.opensWith_literal? ('<' :: of.entryName ++ ['>'])
  have hopens : ∀ opening ∈ ['<' :: of.entryName ++ ['>']], Text.OpensTag opening :=
    List.forall_mem_singleton.mpr (.inl rfl)
  have hopened : ∀ of ∈ [Speaker.user, .bot], ∀ entry ∈ Lookup.openings,
      entry.1 ∉ [Kind.bareEntry of] → Text.Opened ['<' :: of.entryName ++ ['>']] entry.2 := by
    decide
  rw [writeFragments, writeFragments, List.flatMap_map]
  refine Text.replaceTags_flatMap fun fragment hmem => ?_
  cases fragment with
  | prose text => exact hread.becomes_self hopens (hprose text hmem) _
  | lookup tag =>
    by_cases hkind : tag.kind = .bareEntry of
    · exact Lookup.becomes_number hkind
    · have hpart := Lookup.apart_written (hopened of of.mem_all)
        (List.mem_singleton.not.mpr hkind)
      rw [Fragment.number, Lookup.number_of_ne hkind]
      exact hread.becomes_self hopens hpart _

end Passes

/-! ## Filling in -/

/-- The kinds that are replaced when a template is filled in. -/
def fillKinds : List Kind :=
  [.entry, .star, .bareStar .bot, .bareStar .user, .user, .bareEntry .bot, .bareEntry .user]

namespace Fragment

/-- Every entry of the history gets its number. -/
def numbered (fragment : Fragment) : Fragment :=
  (fragment.number .user).number .bot

variable {turn : Turn} {stars : Stars} (fragment : Fragment)

theorem value_number (of : Speaker) :
    (fragment.number of).value turn stars = fragment.value turn stars := by
  cases fragment with
  | prose text => rfl
  | lookup tag => exact tag.value_number of turn stars

theorem value_numbered : fragment.numbered.value turn stars = fragment.value turn stars := by
  rw [numbered, value_number, value_number]

theorem shown_numbered :
    fragment.numbered.shown turn stars [.bareEntry .bot, .bareEntry .user] =
      fragment.numbered.written := by
  cases fragment with
  | prose text => rfl
  | lookup tag =>
    have huser : ((tag.number .user).number .bot).kind ≠ .bareEntry .user :=
      Lookup.kind_number_ne_of_ne (Lookup.kind_number_ne .user tag)
    have hbot : ((tag.number .user).number .bot).kind ≠ .bareEntry .bot :=
      Lookup.kind_number_ne .bot (tag.number .user)
    refine shown_of_not_settled ?_
    simpa [Settled, numbered, number] using ⟨hbot, huser⟩

theorem settled_of_settled_number
    {of : Speaker} {kinds : List Kind} (hbare : .bareEntry of ∈ kinds)
    (hsettled : (fragment.number of).Settled kinds) :
    fragment.Settled kinds := by
  cases fragment with
  | prose text => exact trivial
  | lookup tag =>
    by_cases hkind : tag.kind = .bareEntry of
    · rwa [Settled, hkind]
    · rwa [number, Lookup.number_of_ne hkind] at hsettled

theorem not_mem_escape_shown
    {kinds : List Kind} (hvalue : fragment.Settled kinds → '\\' ∉ fragment.value turn stars) :
    '\\' ∉ fragment.shown turn stars kinds := by
  rcases shown_cases turn stars kinds fragment with ⟨hsettled, hshown⟩ | ⟨tag, -, -, hshown⟩ <;>
    rw [hshown]
  · exact hvalue hsettled
  · exact tag.not_mem_escape_written

end Fragment

theorem prose_mem_of_mem_map_number
    (of : Speaker) {fragments : List Fragment} {text : Text}
    (hmem : .prose text ∈ fragments.map (Fragment.number of)) :
    .prose text ∈ fragments := by
  obtain ⟨fragment, hfragment, heq⟩ := List.mem_map.mp hmem
  cases fragment with
  | prose other =>
    obtain rfl : other = text := Fragment.prose.inj heq
    exact hfragment
  | lookup tag => cases heq

/-- The kinds that are replaced before escapes are read. -/
def earlyKinds : List Kind :=
  fillKinds.drop 4

/-- Neither the text of a template nor any value that it is filled in with has anything in it that
would be filled in once more, nor an escape where it would be read. -/
structure Fillable (turn : Turn) (stars : Stars) (fragments : List Fragment) : Prop where
  apart : ∀ fragment ∈ fragments, fragment.Settled fillKinds →
    Text.Apart fillOpenings (fragment.value turn stars)
  unescaped : ∀ fragment ∈ fragments, fragment.Settled earlyKinds →
    '\\' ∉ fragment.value turn stars

namespace Fillable

variable {turn : Turn} {stars : Stars} {fragments : List Fragment}
  (hfillable : Fillable turn stars fragments)

include hfillable

theorem apart_prose {text : Text} (hmem : .prose text ∈ fragments) :
    Text.Apart fillOpenings text :=
  hfillable.apart _ hmem trivial

theorem numbered : Fillable turn stars (fragments.map Fragment.numbered) := by
  have hsettled : ∀ kinds : List Kind, .bareEntry .user ∈ kinds → .bareEntry .bot ∈ kinds →
      ∀ fragment : Fragment, fragment.numbered.Settled kinds → fragment.Settled kinds :=
    fun kinds huser hbot fragment hsettled => fragment.settled_of_settled_number huser
      (Fragment.settled_of_settled_number _ hbot hsettled)
  constructor
  · rw [List.forall_mem_map]
    intro fragment hmem hnumbered
    rw [fragment.value_numbered]
    exact hfillable.apart fragment hmem (hsettled _ (by decide) (by decide) fragment hnumbered)
  · rw [List.forall_mem_map]
    intro fragment hmem hnumbered
    rw [fragment.value_numbered]
    exact hfillable.unescaped fragment hmem (hsettled _ (by decide) (by decide) fragment hnumbered)

theorem dropWeights_expandAbbreviations :
    Tag.dropWeights (expandAbbreviations (writeFragments fragments)) =
      writeFragments fragments := by
  have hlacks : (writeFragments fragments).Lacks
      ("\x7bweight=".toList :: abbreviations.map (·.1)) := by
    refine Text.lacks_flatMap (by decide) fun fragment hmem => ?_
    cases fragment with
    | prose text => exact (hfillable.apart_prose hmem).mono (by decide)
    | lookup tag =>
      have hkind : tag.kind ∉ [] := List.not_mem_nil
      exact Lookup.apart_written (by decide) hkind
  rw [expandAbbreviations_of_lacks (hlacks.mono (List.subset_cons_self _ _))]
  exact (Text.opensWith_numbered? _ _).replaceTags_eq (hlacks.mono (by decide)) _

theorem replaceAll_entries :
    Text.replaceAll "<reply>".toList "<reply1>".toList
        (Text.replaceAll "<input>".toList "<input1>".toList (writeFragments fragments)) =
      (fragments.map Fragment.numbered).flatMap
        (Fragment.shown turn stars [.bareEntry .bot, .bareEntry .user]) := by
  have hinput := replaceAll_bareEntry .user fun text hmem =>
    (hfillable.apart_prose hmem).mono (by decide)
  have hreply := replaceAll_bareEntry .bot fun text hmem =>
    (hfillable.apart_prose (prose_mem_of_mem_map_number .user hmem)).mono (by decide)
  refine (congrArg _ hinput).trans (hreply.trans ?_)
  rw [writeFragments, List.map_map, List.flatMap_map, List.flatMap_map]
  exact List.flatMap_congr fun fragment _ => fragment.shown_numbered.symm

theorem replaceTags
    {α : Type} {read? : Text → Option (α × Text)} {f : α → Text} {others : List Text} {kind : Kind}
    (kinds : List Kind) (hkinds : kinds ⊆ fillKinds) (hread : Text.OpensWith read? others)
    (hothers : others ⊆ fillOpenings)
    (hopened : ∀ entry ∈ Lookup.openings, entry.1 ∉ kind :: kinds → Text.Opened others entry.2)
    (hbecomes : ∀ tag : Lookup, tag.kind = kind →
      Text.Becomes read? f tag.written (tag.value turn stars)) :
    Text.replaceTags read? f (fragments.flatMap (Fragment.shown turn stars kinds)) =
      fragments.flatMap (Fragment.shown turn stars (kind :: kinds)) := by
  have hopens : ∀ opening ∈ fillOpenings, opening.OpensTag := by decide
  exact replaceTags_shown hread (fun opening hmem => hopens opening (hothers hmem)) hopened
    hbecomes fun fragment hmem hsettled =>
      (hfillable.apart fragment hmem (hsettled.mono hkinds)).mono hothers

theorem unescape_shown :
    unescape (fragments.flatMap (Fragment.shown turn stars earlyKinds)) =
      fragments.flatMap (Fragment.shown turn stars earlyKinds) := by
  refine unescape_of_not_mem ?_
  simp only [List.mem_flatMap, not_exists, not_and]
  exact fun fragment hmem => fragment.not_mem_escape_shown (hfillable.unescaped fragment hmem)

theorem fillStars_shown :
    fillStars stars (fragments.flatMap (Fragment.shown turn stars earlyKinds)) =
      fragments.flatMap (Fragment.shown turn stars (fillKinds.drop 1)) := by
  have hmessage := hfillable.replaceTags earlyKinds (by decide)
    (Text.opensWith_literal? "<star>".toList) (by decide) (by decide)
    fun _ => Lookup.becomes_value_of_bareStar .user
  have hprevious := hfillable.replaceTags (fillKinds.drop 3) (by decide)
    (Text.opensWith_literal? "<botstar>".toList) (by decide) (by decide)
    fun _ => Lookup.becomes_value_of_bareStar .bot
  have hnumbered := hfillable.replaceTags (fillKinds.drop 2) (by decide) Text.opensWith_starTag?
    (by decide) (by decide) fun _ => Lookup.becomes_value_of_star
  have hfill : ∀ text, fillStars stars text = Text.replaceTags starTag? (Lookup.starOf stars)
      (Text.replaceAll "<botstar>".toList (star stars.previous 1)
        (Text.replaceAll "<star>".toList (star stars.message 1) text)) := fun _ => rfl
  rw [hfill]
  exact (congrArg _ ((congrArg _ hmessage).trans hprevious)).trans hnumbered

/-- A template is filled in by the values of its tags. -/
theorem fill_writeFragments :
    fill turn.session stars (writeFragments fragments) =
      (fragments.map Fragment.numbered).flatMap (Fragment.shown turn stars fillKinds) := by
  have huser := hfillable.numbered.replaceTags (fillKinds.drop 5) (by decide)
    (Text.opensWith_literal? "<id>".toList) (by decide) (by decide)
    fun _ => Lookup.becomes_value_of_user
  have hescape := hfillable.numbered.unescape_shown
  have hstars := hfillable.numbered.fillStars_shown
  have hentry := hfillable.numbered.replaceTags (fillKinds.drop 1) (by decide)
    Text.opensWith_historyTag? (by decide) (by decide) fun _ => Lookup.becomes_value_of_entry
  have hfill : ∀ text, fill turn.session stars text =
      Text.replaceTags historyTag? (Lookup.entryOf turn.session)
        (fillStars stars (unescape (Text.replaceAll "<id>".toList turn.session.id
          (Text.replaceAll "<reply>".toList "<reply1>".toList
            (Text.replaceAll "<input>".toList "<input1>".toList
              (Tag.dropWeights (expandAbbreviations text))))))) := fun _ => rfl
  rw [hfill, hfillable.dropWeights_expandAbbreviations, hfillable.replaceAll_entries]
  refine Eq.trans (congrArg _ ?_) hentry
  exact (congrArg _ ((congrArg _ huser).trans hescape)).trans hstars

end Fillable

end Template

/-! ## Expanding -/

namespace Template

/-- The kinds that have been replaced when the variables of the session are read. -/
def personaKinds : List Kind :=
  .named .global :: .named .bot :: fillKinds

theorem Kind.mem_all (kind : Kind) : kind ∈ .named .user :: personaKinds := by
  cases kind with
  | bareEntry of | bareStar of => cases of <;> decide
  | user | star | entry => decide
  | named holder => cases holder <;> decide

end Template

namespace Turn

open Template

section Expand

variable {turn : Turn} {stars : Stars} {fragments : List Fragment}
  (hvalues : ∀ fragment ∈ fragments, (fragment.value turn stars).Inert)

include hvalues

end Expand

end Turn

end DialogueScript

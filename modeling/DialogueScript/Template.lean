import DialogueScript.Session
import DialogueScript.Substitution
import DialogueScript.Tag
import DialogueScript.Text.Blank

/-!
# Reply templates

The tags of a reply that read something without changing anything: abbreviations, the user, the
stars of the match and the history; the transformations of case and person; and the readers of all
other tags.  Each kind is replaced throughout the text before the next one is looked for.
-/

namespace DialogueScript

/-- What a match captured from the message, and from the previous reply if it was paired with one.
-/
structure Stars where
  message : List Text := []
  previous : List Text := []
deriving Repr, DecidableEq

namespace Template

def abbreviations : List (Text × Text) :=
  [("<person>".toList, "\x7bperson\x7d<star>\x7b/person\x7d".toList),
   ("<@>".toList, "\x7b@<star>\x7d".toList),
   ("<formal>".toList, "\x7bformal\x7d<star>\x7b/formal\x7d".toList),
   ("<sentence>".toList, "\x7bsentence\x7d<star>\x7b/sentence\x7d".toList),
   ("<uppercase>".toList, "\x7buppercase\x7d<star>\x7b/uppercase\x7d".toList),
   ("<lowercase>".toList, "\x7blowercase\x7d<star>\x7b/lowercase\x7d".toList)]

def expandAbbreviations (text : Text) : Text :=
  abbreviations.foldl (fun text (short, long) => Text.replaceAll short long text) text

/-- A backslash before `s`, `n`, a backslash or `#` is an escape; before anything else it stays. -/
def unescape : Text → Text
  | '\\' :: 's' :: rest => ' ' :: unescape rest
  | '\\' :: 'n' :: rest => '\n' :: unescape rest
  | '\\' :: '\\' :: rest => '\\' :: unescape rest
  | '\\' :: '#' :: rest => '#' :: unescape rest
  | '\\' :: c :: rest => '\\' :: c :: unescape rest
  | c :: rest => c :: unescape rest
  | [] => []

/-- Star `n`, counted from one.  The first star reads `undefined` when there are none at all. -/
def star (stars : List Text) (n : Nat) : Text :=
  match n with
  | 0 => []
  | index + 1 =>
    match stars[index]? with
    | some star => star
    | none => if index = 0 && stars.isEmpty then undefined else []

inductive StarTag where
  | message (digits : Text)
  | previous (digits : Text)
deriving Repr, DecidableEq

def starTag? (text : Text) : Option (StarTag × Text) :=
  ((Tag.numbered? "<star".toList ['>'] text).map fun (digits, rest) => (.message digits, rest))
    <|> ((Tag.numbered? "<botstar".toList ['>'] text).map fun (digits, rest) =>
      (.previous digits, rest))

/-- The number of a star; digits that are no number of 64 bits count as zero. -/
def starNumber (digits : Text) : Nat :=
  (Number.word? digits).getD 0

def fillStars (stars : Stars) (text : Text) : Text :=
  let text := Text.replaceAll "<star>".toList (star stars.message 1) text
  let text := Text.replaceAll "<botstar>".toList (star stars.previous 1) text
  Text.replaceTags starTag?
    (fun
      | .message digits => star stars.message (starNumber digits)
      | .previous digits => star stars.previous (starNumber digits))
    text

inductive HistoryTag where
  | input (index : Nat)
  | reply (index : Nat)
deriving Repr, DecidableEq

/-- The single digit between `opening` and the end of the tag. -/
def historyIndex? (opening text : Text) : Option (Nat × Text) := do
  match ← Text.strip? opening text with
  | c :: '>' :: rest => (Number.digits? [c]).map fun index => (index, rest)
  | _ => none

def historyTag? (text : Text) : Option (HistoryTag × Text) :=
  ((historyIndex? "<input".toList text).map fun (index, rest) => (.input index, rest))
    <|> ((historyIndex? "<reply".toList text).map fun (index, rest) => (.reply index, rest))

def fillHistory (session : Session) (text : Text) : Text :=
  Text.replaceTags historyTag?
    (fun
      | .input index => Text.lower (session.input index)
      | .reply index => Text.lower (session.reply index))
    text

/-- Fill in what the message, the user and the history provide. -/
def fill (session : Session) (stars : Stars) (text : Text) : Text :=
  let text := Tag.dropWeights (expandAbbreviations text)
  let text := Text.replaceAll "<input>".toList "<input1>".toList text
  let text := Text.replaceAll "<reply>".toList "<reply1>".toList text
  let text := unescape (Text.replaceAll "<id>".toList session.id text)
  fillHistory session (fillStars stars text)

def randomTag? : Text → Option (Text × Text) :=
  Tag.enclosed? "\x7brandom\x7d".toList "\x7b/random\x7d".toList

def botTag? : Text → Option (Text × Text) :=
  Tag.enclosed? "<bot ".toList ['>']

def globalTag? : Text → Option (Text × Text) :=
  Tag.enclosed? "<env ".toList ['>']

def codeMark : Text := "\x7b!".toList

/-- Script code in a reply, which may go on over several lines. -/
def codeTag? (text : Text) : Option (Text × Text) := do
  let rest ← Text.strip? codeMark text
  Tag.body? (fun _ => true) ['}'] rest

def getTag? : Text → Option (Text × Text) :=
  Tag.enclosed? "<get ".toList ['>']

def setTag? : Text → Option ((Text × Text) × Text) :=
  Tag.assignment? "<set ".toList

def topicTag? : Text → Option (Text × Text) :=
  Tag.enclosed? "\x7btopic=".toList ['}']

def redirectTag? : Text → Option (Text × Text) :=
  Tag.enclosed? "\x7b@".toList ['}']

def callTag? : Text → Option (Text × Text) :=
  Tag.enclosed? "<call>".toList "</call>".toList

/-- Apply `f` between a tag of the given name and its end. -/
def transform (name : Text) (f : Text → Text) (text : Text) : Text :=
  let opening := '\x7b' :: name ++ ['\x7d']
  let closing := "\x7b/".toList ++ name ++ ['\x7d']
  Text.replaceTags (Tag.enclosed? opening closing) f text

/-- Every word with its first letter in upper case. -/
def formal (text : Text) : Text :=
  Text.join [' '] ((Text.split (· = ' ') text).map Text.capitalize)

def transformAll (persons : Substitutions) (text : Text) : Text :=
  let text := transform "person".toList persons.apply text
  let text := transform "formal".toList formal text
  let text := transform "sentence".toList Text.capitalize text
  let text := transform "uppercase".toList Text.upper text
  transform "lowercase".toList Text.lower text

/-- The characters that begin a line of script. -/
def commands : Text := "!><+-%^@*&=".toList

/-- Code as a script: what does not begin with a directive is a definition. -/
def codeScript (code : Text) : Text :=
  let code := Text.trim code
  if code.head?.any commands.elem then code else "! ".toList ++ code

end Template

end DialogueScript

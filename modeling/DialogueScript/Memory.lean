import DialogueScript.Keywords
import DialogueScript.Table
import DialogueScript.Text.Blank

/-!
# Memory

The memory keeps a content and a set of tags under each key.  A question is answered by the record
under that key, else by the first of its tags that is a key, else by the record that shares most
tags with it, the latest of equals.  Failing these, a question that repeats a content is answered
by its key.
-/

namespace DialogueScript

structure Memory.Record where
  content : Text
  tags : List Text
  savedAt : Nat
deriving Repr, DecidableEq

structure Memory where
  records : Table Memory.Record
  saves : Nat
deriving Repr, DecidableEq

namespace Memory

def empty : Memory :=
  { records := Table.empty, saves := 0 }

def size (memory : Memory) : Nat :=
  memory.records.entries.length

/-- Save a record; one without tags has its key for a tag. -/
def save (memory : Memory) (key content : Text) (tags : List Text) : Memory :=
  let tags := if tags.isEmpty then [key] else Keywords.ofList tags
  { records := memory.records.insert key { content, tags, savedAt := memory.saves }
    saves := memory.saves + 1 }

def contentAt? (memory : Memory) (key : Text) : Option Text :=
  (memory.records.get? key).map (·.content)

/-- The content under the key itself or, when nothing is kept there, under the first tag that is a
key. -/
def byKey? (memory : Memory) (query : Text) (tags : List Text) : Option Text :=
  let found :=
    match memory.contentAt? query with
    | some content => some content
    | none => tags.findSome? memory.contentAt?
  found.filter fun content => !content.isEmpty

def Record.overlap (record : Record) (tags : List Text) : Nat :=
  record.tags.countP fun tag => tags.contains tag

/-- Whether `record` shares more tags than `best`, or as many and was not saved before it. -/
def Record.beats (tags : List Text) (record best : Record) : Bool :=
  best.overlap tags < record.overlap tags
    || (best.overlap tags = record.overlap tags && best.savedAt ≤ record.savedAt)

def byTags? (memory : Memory) (tags : List Text) : Option Text :=
  let sharing := memory.records.entries.filter fun entry => 0 < entry.2.overlap tags
  let best := sharing.foldl
    (fun (best : Option Record) entry =>
      match best with
      | none => some entry.2
      | some record => if entry.2.beats tags record then some entry.2 else some record)
    none
  best.map (·.content)

def keyOf? (memory : Memory) (content : Text) : Option Text :=
  (memory.records.entries.find? fun entry => entry.2.content = content).map (·.1)

def find? (memory : Memory) (query : Text) (tags : List Text) : Option Text :=
  let tags := tags.map Text.trim
  memory.byKey? query tags
    <|> memory.byTags? tags
    <|> memory.keyOf? query
    <|> tags.findSome? memory.keyOf?

end Memory

end DialogueScript

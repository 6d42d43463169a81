import DialogueScript.Text.Basic

/-!
# Tables

A table holds values under text keys, in the order in which the keys were first written.  Writing
a key again replaces its value and keeps its place.
-/

namespace DialogueScript

structure Table (α : Type) where
  entries : List (Text × α) := []
deriving Repr, DecidableEq

namespace Table

def put (key : Text) (value : α) : List (Text × α) → List (Text × α)
  | [] => [(key, value)]
  | entry :: entries =>
    if entry.1 = key then (key, value) :: entries else entry :: put key value entries

def empty : Table α := {}

def get? (table : Table α) (key : Text) : Option α :=
  table.entries.lookup key

def contains (table : Table α) (key : Text) : Bool :=
  (table.get? key).isSome

def insert (table : Table α) (key : Text) (value : α) : Table α :=
  ⟨put key value table.entries⟩

def erase (table : Table α) (key : Text) : Table α :=
  ⟨table.entries.filter fun entry => entry.1 ≠ key⟩

def ofList (entries : List (Text × α)) : Table α :=
  entries.foldl (fun table entry => table.insert entry.1 entry.2) empty

def keys (table : Table α) : List Text :=
  table.entries.map (·.1)

end Table

end DialogueScript

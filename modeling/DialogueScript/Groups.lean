/-!
# Groups

Items in groups under keys: the groups stand in ascending order of their keys, and the items of a
group in the order in which they came.
-/

namespace DialogueScript

abbrev Groups (κ α : Type) := List (κ × List α)

namespace Groups

variable {κ α : Type} [DecidableEq κ] [LT κ] [DecidableLT κ]

/-- Put one more item at the end of the group under a key. -/
def add (key : κ) (item : α) : Groups κ α → Groups κ α
  | [] => [(key, [item])]
  | (other, items) :: groups =>
    if key = other then (other, items ++ [item]) :: groups
    else if key < other then (key, [item]) :: (other, items) :: groups
    else (other, items) :: add key item groups

def ofList (key : α → κ) (items : List α) : Groups κ α :=
  items.foldl (fun groups item => add (key item) item groups) []

def ascending (groups : Groups κ α) : List (List α) :=
  groups.map (·.2)

def descending (groups : Groups κ α) : List (List α) :=
  groups.reverse.map (·.2)

end Groups

end DialogueScript

import DialogueScript.Random.Stream

/-!
# Random choice

A word `v` of 64 bits times `n` has a high word below `n`, and that is the choice.  Words whose
product has a low word above a zone are passed over, so that every choice has as many words that
lead to it.
-/

namespace DialogueScript.Random

namespace Stream

/-- The first choice below `n` of the stream whose word is within the zone, among `tries` words. -/
def below (n zone : Nat) : Nat → Stream → Nat × Stream
  | 0, stream => (0, stream)
  | tries + 1, stream =>
    let (word, stream) := stream.next
    let product := word * n
    if product % UInt64.size ≤ zone then (product / UInt64.size, stream)
    else below n zone tries stream

/-- One of `n` equal choices; a single one is made without taking a word. -/
def choose (n : Nat) (stream : Stream) : Nat × Stream :=
  if n ≤ 1 then (0, stream) else below n (n <<< (63 - n.log2) - 1) period stream

end Stream

def total (weights : List Nat) : Nat :=
  weights.foldr (· + ·) 0

/-- The first index whose weight, added to those before it, exceeds `point`. -/
def indexAt : Nat → List Nat → Nat
  | _, [] => 0
  | point, weight :: weights => if point < weight then 0 else indexAt (point - weight) weights + 1

namespace Stream

/-- The zone of a weighted choice: a whole number of rounds of `total`. -/
def weightedZone (total : Nat) : Nat :=
  UInt64.size - 1 - (UInt64.size - total) % total

/-- An index in proportion to its weight; none when there is nothing to choose from. -/
def chooseWeighted (weights : List Nat) (stream : Stream) : Option Nat × Stream :=
  if weights.isEmpty then (none, stream)
  else
    let (point, stream) := below (total weights) (weightedZone (total weights)) period stream
    (some (indexAt point weights), stream)

end Stream

end DialogueScript.Random

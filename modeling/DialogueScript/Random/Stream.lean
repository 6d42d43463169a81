/-!
# Random stream

An endless stream of 64-bit words from a seed: the key stream of ChaCha with eight rounds, whose
key is drawn from the seed by a linear congruential generator.  A stream is its key and the number
of words taken from it, so it is continued by computing the next block again.
-/

namespace DialogueScript.Random

/-- Four words of the sixteen that a block is made of. -/
structure Row where
  a : UInt32
  b : UInt32
  c : UInt32
  d : UInt32
deriving Repr, DecidableEq

namespace Row

def zipWith (f : UInt32 → UInt32 → UInt32) (x y : Row) : Row :=
  ⟨f x.a y.a, f x.b y.b, f x.c y.c, f x.d y.d⟩

def map (f : UInt32 → UInt32) (x : Row) : Row :=
  ⟨f x.a, f x.b, f x.c, f x.d⟩

/-- Move every word one place to the left. -/
def turn (x : Row) : Row :=
  ⟨x.b, x.c, x.d, x.a⟩

def toList (x : Row) : List UInt32 :=
  [x.a, x.b, x.c, x.d]

end Row

def rotateLeft (n : UInt32) (x : UInt32) : UInt32 :=
  (x <<< n) ||| (x >>> (32 - n))

structure Block where
  r0 : Row
  r1 : Row
  r2 : Row
  r3 : Row
deriving Repr, DecidableEq

namespace Block

def add (x y : Block) : Block :=
  ⟨x.r0.zipWith (· + ·) y.r0, x.r1.zipWith (· + ·) y.r1, x.r2.zipWith (· + ·) y.r2,
    x.r3.zipWith (· + ·) y.r3⟩

/-- Mix each column by four steps of addition, exclusive or and rotation. -/
def mixColumns (x : Block) : Block :=
  let r0 := x.r0.zipWith (· + ·) x.r1
  let r3 := (x.r3.zipWith (· ^^^ ·) r0).map (rotateLeft 16)
  let r2 := x.r2.zipWith (· + ·) r3
  let r1 := (x.r1.zipWith (· ^^^ ·) r2).map (rotateLeft 12)
  let r0 := r0.zipWith (· + ·) r1
  let r3 := (r3.zipWith (· ^^^ ·) r0).map (rotateLeft 8)
  let r2 := r2.zipWith (· + ·) r3
  let r1 := (r1.zipWith (· ^^^ ·) r2).map (rotateLeft 7)
  ⟨r0, r1, r2, r3⟩

/-- Mix the columns, then the diagonals. -/
def doubleRound (x : Block) : Block :=
  let x := x.mixColumns
  let y := mixColumns ⟨x.r0, x.r1.turn, x.r2.turn.turn, x.r3.turn.turn.turn⟩
  ⟨y.r0, y.r1.turn.turn.turn, y.r2.turn.turn, y.r3.turn⟩

def toList (x : Block) : List UInt32 :=
  x.r0.toList ++ x.r1.toList ++ x.r2.toList ++ x.r3.toList

end Block

structure Key where
  low : Row
  high : Row
deriving Repr, DecidableEq

namespace Key

def nextState (state : UInt64) : UInt64 :=
  state * 6364136223846793005 + 11634580027462260723

/-- The word of a state of the generator: its high bits, rotated by its highest five. -/
def stateWord (state : UInt64) : UInt32 :=
  let x := (((state >>> 18) ^^^ state) >>> 27).toUInt32
  let turn := (state >>> 59).toUInt32
  (x >>> turn) ||| (x <<< ((32 - turn) % 32))

def ofSeed (seed : UInt64) : Key :=
  let s1 := nextState seed
  let s2 := nextState s1
  let s3 := nextState s2
  let s4 := nextState s3
  let s5 := nextState s4
  let s6 := nextState s5
  let s7 := nextState s6
  let s8 := nextState s7
  { low := ⟨stateWord s1, stateWord s2, stateWord s3, stateWord s4⟩
    high := ⟨stateWord s5, stateWord s6, stateWord s7, stateWord s8⟩ }

/-- The first row of every block. -/
def constants : Row :=
  ⟨0x61707865, 0x3320646e, 0x79622d32, 0x6b206574⟩

def block (key : Key) (counter : UInt64) : Block :=
  let start : Block :=
    ⟨constants, key.low, key.high, ⟨counter.toUInt32, (counter >>> 32).toUInt32, 0, 0⟩⟩
  start.doubleRound.doubleRound.doubleRound.doubleRound.add start

end Key

structure Stream where
  key : Key
  taken : Nat
deriving Repr, DecidableEq

namespace Stream

def ofSeed (seed : UInt64) : Stream :=
  { key := Key.ofSeed seed, taken := 0 }

/-- How many words of 64 bits a block holds. -/
def wordsPerBlock : Nat := 8

def next (stream : Stream) : Nat × Stream :=
  let words := (stream.key.block (UInt64.ofNat (stream.taken / wordsPerBlock))).toList
  let index := 2 * (stream.taken % wordsPerBlock)
  let low := (words[index]?).getD 0
  let high := (words[index + 1]?).getD 0
  (low.toNat + UInt32.size * high.toNat, { stream with taken := stream.taken + 1 })

/-- After this many words the stream begins again. -/
def period : Nat := UInt64.size * wordsPerBlock

end Stream

end DialogueScript.Random

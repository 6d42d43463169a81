import DialogueScript.Number.Integer

/-!
# Double-precision numbers

A double is a sign, a significand below `2 ^ 53` and a power of two, or one of the extremes.
`ofText?` reads a decimal and takes the double nearest to it, the even one of two equally near;
`text` writes the fewest digits that read back as the same double, in positional notation.
-/

namespace DialogueScript.Number

open DialogueScript

inductive Double where
  | nan
  | infinite (negative : Bool)
  | finite (negative : Bool) (significand : Nat) (exponent : Int)
deriving Repr, DecidableEq

namespace Double

def smallestExponent : Int := -1074

def largestExponent : Int := 971

/-- The least significand of full length, `2 ^ 52`. -/
def leastFull : Nat := 1 <<< 52

/-- The binary exponent of a positive quotient: `2 ^ e ≤ n / d < 2 ^ (e + 1)`. -/
def binaryExponent (n d : Nat) : Int :=
  let e : Int := Int.ofNat n.log2 - Int.ofNat d.log2
  let reached := if 0 ≤ e then d <<< e.toNat ≤ n else d ≤ n <<< (-e).toNat
  if reached then e else e - 1

/-- The nearest natural number to `n / d`, the even one of two equally near. -/
def roundEven (n d : Nat) : Nat :=
  let low := n / d
  let rest := 2 * (n % d)
  if rest < d || (rest = d && low % 2 = 0) then low else low + 1

/-- The double nearest to the quotient `n / d`. -/
def nearest (negative : Bool) (n d : Nat) : Double :=
  if n = 0 then .finite negative 0 smallestExponent
  else
    let q := max (binaryExponent n d - 52) smallestExponent
    let m := if 0 ≤ q then roundEven n (d <<< q.toNat) else roundEven (n <<< (-q).toNat) d
    let (m, q) := if m = 2 * leastFull then (leastFull, q + 1) else (m, q)
    if largestExponent < q then .infinite negative else .finite negative m q

/-- The double nearest to `m * 10 ^ e`.  Past four hundred places on either side the answer no
longer depends on the digits. -/
def ofDecimal (negative : Bool) (m : Nat) (e : Int) : Double :=
  let places : Int := e + Int.ofNat (natText m).length
  if m = 0 || places < -400 then .finite negative 0 smallestExponent
  else if 400 < places then .infinite negative
  else if 0 ≤ e then nearest negative (m * Nat.pow 10 e.toNat) 1
  else nearest negative m (Nat.pow 10 (-e).toNat)

/-- An exponent mark with its number, or nothing at all. -/
def exponent? : Text → Option Int
  | [] => some 0
  | c :: text => if c = 'e' || c = 'E' then integer? text else none

def unsigned? (negative : Bool) (text : Text) : Option Double :=
  let word := text.map Char.toLower
  if word = "inf".toList || word = "infinity".toList then some (.infinite negative)
  else if word = "nan".toList then some .nan
  else
    let whole := text.takeWhile Char.isDigit
    let rest := text.dropWhile Char.isDigit
    let (fraction, rest) :=
      match rest with
      | '.' :: rest => (rest.takeWhile Char.isDigit, rest.dropWhile Char.isDigit)
      | rest => ([], rest)
    if whole.isEmpty && fraction.isEmpty then none
    else
      (exponent? rest).map fun e =>
        ofDecimal negative (ofDigits (whole ++ fraction)) (e - Int.ofNat fraction.length)

def ofText? : Text → Option Double
  | '+' :: text => unsigned? false text
  | '-' :: text => unsigned? true text
  | text => unsigned? false text

/-- Whether the number is above the natural number `n`. -/
def exceeds (n : Nat) : Double → Bool
  | .nan => false
  | .infinite negative => !negative
  | .finite negative m q =>
    !negative && (if 0 ≤ q then n < m <<< q.toNat else n <<< (-q).toNat < m)

/-- A grid of decimals, `10 ^ place` apart, seen in units of `2 ^ (exponent - 2)` over `scale`: the
double itself, and the two ends of the interval of numbers that read back as it. -/
structure Grid where
  value : Nat
  low : Nat
  high : Nat
  step : Nat
  closed : Bool

def grid (m : Nat) (q : Int) (place : Int) : Grid :=
  let quarter := q - 2
  let unit := if 0 ≤ quarter then 1 <<< quarter.toNat else 1
  let binary := if 0 ≤ quarter then 1 else 1 <<< (-quarter).toNat
  let unit := if 0 ≤ place then unit else unit * Nat.pow 10 (-place).toNat
  let step := if 0 ≤ place then binary * Nat.pow 10 place.toNat else binary
  let below := if m = leastFull && smallestExponent < q then 1 else 2
  { value := 4 * m * unit
    low := (4 * m - below) * unit
    high := (4 * m + 2) * unit
    step := step
    closed := m % 2 = 0 }

def Grid.holds (g : Grid) (digits : Nat) : Bool :=
  let at_ := digits * g.step
  if g.closed then g.low ≤ at_ && at_ ≤ g.high else g.low < at_ && at_ < g.high

/-- The digits of the grid point nearest to the number, the upper one of two equally near, if one
of its two neighbours on the grid reads back as the number. -/
def Grid.pick? (g : Grid) : Option Nat :=
  let down := g.value / g.step
  let up := down + 1
  let upNearer := up * g.step - g.value ≤ g.value - down * g.step
  match g.holds down, g.holds up with
  | true, true => some (if upNearer then up else down)
  | true, false => some down
  | false, true => some up
  | false, false => none

/-- The decimal place of the leading digit of `m * 2 ^ q`. -/
def leadingPlace (m : Nat) (q : Int) : Int :=
  if 0 ≤ q then Int.ofNat (natText (m <<< q.toNat)).length - 1
  else
    let whole := m >>> (-q).toNat
    if 0 < whole then Int.ofNat (natText whole).length - 1
    else
      -- m / 2 ^ k = m * 5 ^ k / 10 ^ k
      let k := (-q).toNat
      Int.ofNat (natText (m * Nat.pow 5 k)).length - 1 - Int.ofNat k

/-- The fewest digits that read back, trying `count` digits and more, with the place of the last. -/
def shortestFrom (m : Nat) (q : Int) (lead : Int) : Nat → Nat → Nat × Int
  | 0, count => ((grid m q (lead - Int.ofNat count + 1)).pick?.getD m, lead - Int.ofNat count + 1)
  | tries + 1, count =>
    let place := lead - Int.ofNat count + 1
    match (grid m q place).pick? with
    | some digits => (digits, place)
    | none => shortestFrom m q lead tries (count + 1)

def positional (digits : Nat) (place : Int) : Text :=
  let text := natText digits
  if 0 ≤ place then text ++ List.replicate place.toNat '0'
  else
    let below := (-place).toNat
    let whole := text.length - below
    if below < text.length then text.take whole ++ '.' :: text.drop whole
    else '0' :: '.' :: List.replicate (below - text.length) '0' ++ text

def text : Double → Text
  | .nan => "NaN".toList
  | .infinite negative => (if negative then ['-'] else []) ++ "inf".toList
  | .finite negative m q =>
    (if negative then ['-'] else []) ++
      if m = 0 then ['0']
      else
        let (digits, place) := shortestFrom m q (leadingPlace m q) 16 1
        positional digits place

end Double

end DialogueScript.Number

import DecimalPowers.Binary64
import DecimalPowers.Text.Numeral

/-!
The shortest decimal of a binary64 magnitude: the fewest digits that read back as the same
magnitude, and of those the nearest to it. For each number of digits the two neighbours of the
value on that decimal grid are tried; the first grid with one that reads back wins. Both may be
equally near, and which of them is taken then is up to the format that is written.
-/

set_option autoImplicit false
set_option relaxedAutoImplicit false

namespace DecimalPowers

/-- The decimal `digits * 10 ^ exponent`. -/
structure ShortDecimal where
  digits : Nat
  exponent : Int
  deriving DecidableEq

/-- Which of two equally near decimals is taken: the one with an even last digit, or the greater. -/
inductive Tie where
  | toEven
  | up
  deriving DecidableEq

namespace Tie

/-- Whether the lesser of two neighbours is taken, given how its distance from the value compares
with that of the greater. -/
def takesBelow (tie : Tie) (below : Nat) (distances : Ordering) : Bool :=
  match distances, tie with
  | .lt, _ => true
  | .eq, toEven => below % 2 = 0
  | .eq, up => false
  | .gt, _ => false

end Tie

namespace ShortDecimal

def digitCount (n : Nat) : Nat := if n = 0 then 0 else (Nat.toDigits 10 n).length

def floorLog10 (n d : Nat) : Int :=
  if d ≤ n then (digitCount (n / d) : Int) - 1
  else -(digitCount ((d + n - 1) / n - 1) : Int)

/-- The decimal without its trailing zeros; `fuel` bounds their number. -/
def trim : Nat → ShortDecimal → ShortDecimal
  | 0, s => s
  | fuel + 1, s =>
    if s.digits ≠ 0 ∧ s.digits % 10 = 0 then trim fuel ⟨s.digits / 10, s.exponent + 1⟩ else s

/-- Four times the value and the two ends of the interval that rounds to it, on the scale of a
quarter unit of the mantissa. The interval is narrower below a power of two. -/
structure Target where
  value : Nat
  low : Nat
  high : Nat
  closed : Bool

def target (mantissa : Nat) (exponent : Int) : Target where
  value := 4 * mantissa
  low := if mantissa = Binary64.leastNormal ∧ Binary64.minExponent < exponent then 4 * mantissa - 1
    else 4 * mantissa - 2
  high := 4 * mantissa + 2
  closed := mantissa % 2 = 0

def Target.contains (t : Target) (num den : Nat) : Bool :=
  if t.closed then t.low * den ≤ num ∧ num ≤ t.high * den
  else t.low * den < num ∧ num < t.high * den

/-- The neighbour of the value with `count` digits that reads back, the nearer one if both do. Here
`e` is the decimal exponent of the value's first digit and `x` the binary exponent of the quarter
unit. -/
def onGrid? (tie : Tie) (t : Target) (e x : Int) (count : Nat) : Option ShortDecimal :=
  let k : Int := e - count + 1
  let num := Nat.pow 10 k.toNat * Nat.pow 2 (-x).toNat
  let den := Nat.pow 10 (-k).toNat * Nat.pow 2 x.toNat
  let below := t.value * den / num
  let rest := t.value * den % num
  let above := below + 1
  match t.contains (below * num) den, t.contains (above * num) den with
  | true, true =>
    if tie.takesBelow below (compare rest (num - rest)) then some ⟨below, k⟩ else some ⟨above, k⟩
  | true, false => some ⟨below, k⟩
  | false, true => some ⟨above, k⟩
  | false, false => none

/-- The shortest decimal of a finite magnitude. Seventeen digits always suffice. -/
def ofFinite (tie : Tie) (mantissa : Nat) (exponent : Int) : ShortDecimal :=
  if mantissa = 0 then ⟨0, 0⟩
  else
    let t := target mantissa exponent
    let (n, d) := Binary64.fraction mantissa exponent
    let e := floorLog10 n d
    match (List.range' 1 17).findSome? (onGrid? tie t e (exponent - 2)) with
    | some s => trim 18 s
    | none => ⟨0, 0⟩

def digitText (s : ShortDecimal) : List Char := Nat.toDigits 10 s.digits

def leading (s : ShortDecimal) : Int := (s.digitText.length : Int) - 1 + s.exponent

/-- The decimal without an exponent, and without a point when it is an integer. -/
def positional (s : ShortDecimal) : String :=
  let ds := s.digitText
  if 0 ≤ s.exponent then String.ofList (ds ++ List.replicate s.exponent.toNat '0')
  else
    let places := s.exponent.natAbs
    let padded := List.replicate (places + 1 - ds.length) '0' ++ ds
    let whole := padded.length - places
    String.ofList (padded.take whole ++ '.' :: padded.drop whole)

end ShortDecimal

end DecimalPowers

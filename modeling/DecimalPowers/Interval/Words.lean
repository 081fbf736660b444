/-!
Uniform integers from random words. `uniform low high` draws an integer between two bounds from a
stream of 64-bit words: a word is multiplied by the number of possible results, the upper half of
the product is the result, and words whose lower half falls in the uneven rest are passed over.
-/

set_option autoImplicit false
set_option relaxedAutoImplicit false

namespace DecimalPowers.Words

def count : Nat := UInt64.size

/-- The greatest lower half of a product that is accepted for `size` possible results. -/
def zone (size : Nat) : Nat := count - 1 - (count - size) % size

/-- The result below `size` that a word stands for, unless the word is passed over. -/
def offset? (size : Nat) (word : UInt64) : Option Nat :=
  if word.toNat * size % count ≤ zone size then some (word.toNat * size / count) else none

def residue (low : Int) (word : UInt64) : Int := low + ((word.toNat : Int) - low) % (count : Int)

/-- The integer between two bounds that a word stands for, unless the word is passed over. When
every residue is possible it is the word itself. -/
def value? (low high : Int) (word : UInt64) : Option Int :=
  let size := (high - low + 1).toNat
  if size = count then some (residue low word)
  else (offset? size word).map (fun (i : Nat) => low + i)

def first? (low high : Int) : List UInt64 → Option (Int × List UInt64)
  | [] => none
  | word :: words =>
    match value? low high word with
    | some x => some (x, words)
    | none => first? low high words

inductive Fault where
  | emptyBounds
  | exhausted
  deriving DecidableEq

def uniform (low high : Int) (words : List UInt64) : Except Fault (Int × List UInt64) :=
  if high < low then .error .emptyBounds
  else
    match first? low high words with
    | some drawn => .ok drawn
    | none => .error .exhausted

end DecimalPowers.Words

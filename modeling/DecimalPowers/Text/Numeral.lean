/-!
Numerals. Decimal and hexadecimal text of natural numbers and integers, and the reading of decimal
text back.
-/

set_option autoImplicit false
set_option relaxedAutoImplicit false

namespace DecimalPowers.Text

def hex (n : Nat) : String := String.ofList (Nat.toDigits 16 n)

def hexPadded (width n : Nat) : String :=
  String.ofList (List.replicate (width - (Nat.toDigits 16 n).length) '0' ++ Nat.toDigits 16 n)

def decimal (n : Nat) : String := String.ofList (Nat.toDigits 10 n)

def signed (x : Int) : String :=
  if x < 0 then "-" ++ decimal x.natAbs else decimal x.natAbs

def digit? (c : Char) : Option Nat :=
  if '0' ≤ c ∧ c ≤ '9' then some (c.toNat - '0'.toNat) else none

def hexDigit? (c : Char) : Option Nat :=
  if '0' ≤ c ∧ c ≤ '9' then some (c.toNat - '0'.toNat)
  else if 'a' ≤ c ∧ c ≤ 'f' then some (c.toNat - 'a'.toNat + 10)
  else if 'A' ≤ c ∧ c ≤ 'F' then some (c.toNat - 'A'.toNat + 10)
  else none

/-- The number that a list of digits writes in a base, after the digits already read. -/
def ofDigits (base : Nat) : Nat → List Nat → Nat
  | n, [] => n
  | n, d :: ds => ofDigits base (base * n + d) ds

def digits? (s : List Char) : Option Nat :=
  if s.isEmpty then none else (s.mapM digit?).map (ofDigits 10 0)

end DecimalPowers.Text

import DecimalPowers.Json.Scan

/-!
Numbers of JSON. An integer that fits 64 bits is an integer and everything else is a float. Of a
float's digits as many as fit 64 bits are kept; the kept integer is rounded to binary64 and then
multiplied or divided by a rounded power of ten, with one more rounding.
-/

set_option autoImplicit false
set_option relaxedAutoImplicit false

namespace DecimalPowers.Json

open Text (After Rest)

def zeroFloat (isNegative : Bool) : Number := .float isNegative .zero

def tenPower (n : Nat) : Binary64 := .ofRatio (Nat.pow 10 n) 1

def maxTenPower : Nat := 308

def scaleByTen (f : Binary64) (exponent : Int) : Option Binary64 :=
  if exponent.natAbs ≤ maxTenPower then
    if 0 ≤ exponent then
      match f.mul (tenPower exponent.natAbs) with
      | .infinite => none
      | g => some g
    else some (f.div (tenPower exponent.natAbs))
  else if f = .zero then some f
  else if 0 ≤ exponent then none
  else scaleByTen (f.div (tenPower maxTenPower)) (exponent + maxTenPower)
termination_by exponent.natAbs
decreasing_by simp only [maxTenPower] at *; omega

def makeFloat (isNegative : Bool) (kept : Nat) (exponent : Int) (rest : List Char) :
    Except Error Number :=
  match scaleByTen (.ofRatio kept 1) exponent with
  | some magnitude => .ok (.float isNegative magnitude)
  | none => .error (.before .numberOutOfRange rest)

/-- Appends digits to a number as long as it fits 64 bits. The second result counts the digits that
were appended. -/
def keepDigits (kept : Nat) : List Char → Nat × Nat
  | [] => (kept, 0)
  | c :: cs =>
    if 10 * kept + digitValue c < UInt64.size then
      let (n, used) := keepDigits (10 * kept + digitValue c) cs
      (n, used + 1)
    else (kept, 0)

def exponentLimit : Nat := 2147483647

/-- The number that digits of an exponent write. If it passes the limit, the rest after the digit by
which it does. -/
def readExponent (n : Nat) : List Char → Except (List Char) Nat
  | [] => .ok n
  | c :: cs =>
    if 10 * n + digitValue c ≤ exponentLimit then readExponent (10 * n + digitValue c) cs
    else .error cs

def scanSign : List Char → Bool × List Char
  | '+' :: r => (false, r)
  | '-' :: r => (true, r)
  | r => (false, r)

def scanDigits (s : List Char) : List Char × List Char := (s.takeWhile isDigit, s.dropWhile isDigit)

def scanExponent (isNegative : Bool) (kept : Nat) (exponent : Int) (s : List Char) :
    Except Error (Number × List Char) :=
  let (down, s) := scanSign s
  let (digits, rest) := scanDigits s
  if s.isEmpty then .error (.before .endInValue [])
  else if digits.isEmpty then .error (.within .invalidNumber s)
  else
    match readExponent 0 digits with
    | .error unread =>
      if kept ≠ 0 ∧ down = false then .error (.before .numberOutOfRange (unread ++ rest))
      else .ok (zeroFloat isNegative, rest)
    | .ok n => do
      let x ← makeFloat isNegative kept (if down then exponent - n else exponent + n) rest
      .ok (x, rest)

def scanAfterDigits (isNegative : Bool) (kept : Nat) (exponent : Int) (s : List Char) :
    Except Error (Number × List Char) :=
  match s with
  | 'e' :: r => scanExponent isNegative kept exponent r
  | 'E' :: r => scanExponent isNegative kept exponent r
  | r => do
    let x ← makeFloat isNegative kept exponent r
    .ok (x, r)

def scanFraction (isNegative : Bool) (kept : Nat) (exponent : Int) (s : List Char) :
    Except Error (Number × List Char) :=
  let (digits, rest) := scanDigits s
  if digits.isEmpty then
    .error (.within (if rest.isEmpty then .endInValue else .invalidNumber) rest)
  else
    let (kept, used) := keepDigits kept digits
    scanAfterDigits isNegative kept (exponent - used) rest

/-- The integer of a sign and a magnitude of 64 bits, or a float if it does not fit. -/
def makeInteger (isNegative : Bool) (n : Nat) : Number :=
  if isNegative then
    if n = 0 ∨ Nat.pow 2 63 < n then .float true (.ofRatio n 1) else .negative (-(n : Int))
  else .natural n

/-- The rest of a number after the digits of its integer part, of which `dropped` are not kept. -/
def scanAfterInteger (isNegative : Bool) (kept dropped : Nat) (s : List Char) :
    Except Error (Number × List Char) :=
  match s with
  | '.' :: r => scanFraction isNegative kept dropped r
  | r =>
    if dropped = 0 ∧ (r.head?.all fun c => c ≠ 'e' ∧ c ≠ 'E') then
      .ok (makeInteger isNegative kept, r)
    else scanAfterDigits isNegative kept dropped r

def scanNumber (isNegative : Bool) (s : List Char) : Except Error (Number × List Char) :=
  match s with
  | [] => .error (.before .endInValue [])
  | '0' :: r =>
    if r.head?.any isDigit then .error (.within .invalidNumber r)
    else scanAfterInteger isNegative 0 0 r
  | c :: r =>
    if isDigit c then
      let (digits, rest) := scanDigits (c :: r)
      let (kept, used) := keepDigits 0 digits
      scanAfterInteger isNegative kept (digits.length - used) rest
    else .error (.within .invalidNumber (c :: r))

/-! ### Passing over a number -/

def dropSign (s : List Char) : Rest s :=
  match s with
  | '+' :: r => (Rest.whole r).cons
  | '-' :: r => (Rest.whole r).cons
  | r => .whole r

def skipExponent (s : List Char) : Except Error (Rest s) :=
  let t := dropSign s
  if t.1.head?.any isDigit then .ok (t.dropWhile isDigit)
  else .error (.within .invalidNumber t.1)

def skipAfterDigits (s : List Char) : Except Error (Rest s) :=
  match s with
  | 'e' :: r => do
    let t ← skipExponent r
    .ok t.cons
  | 'E' :: r => do
    let t ← skipExponent r
    .ok t.cons
  | r => .ok (.whole r)

def skipAfterInteger (s : List Char) : Except Error (Rest s) :=
  match s with
  | '.' :: r =>
    if r.head?.any isDigit then do
      let digits := (Rest.whole r).dropWhile isDigit
      let t ← skipAfterDigits digits.1
      .ok (digits.trans t).cons
    else .error (.within .invalidNumber r)
  | r => skipAfterDigits r

/-- Passes over a number, after its sign. Only its form is looked at. -/
def skipNumber (s : List Char) : Except Error (After s) :=
  match s with
  | [] => .error (.before .invalidNumber [])
  | '0' :: r =>
    if r.head?.any isDigit then .error (.within .invalidNumber r)
    else do
      let t ← skipAfterInteger r
      .ok t.shorter
  | c :: r =>
    if isDigit c then do
      let digits := (Rest.whole r).dropWhile isDigit
      let t ← skipAfterInteger digits.1
      .ok (digits.trans t).shorter
    else .error (.within .invalidNumber (c :: r))

end DecimalPowers.Json

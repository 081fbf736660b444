import DecimalPowers.Declaration.Lexer.Name

/-!
Numbers. An integer is written in base 16, 10, 8 or 2, with underscores between its digits; a
number with a point or an exponent is kept as text. Either may have a suffix.
-/

set_option autoImplicit false
set_option relaxedAutoImplicit false

namespace DecimalPowers.Lexer

def isDigit (c : Char) : Bool := '0' ≤ c && c ≤ '9'

def wordEnd (s : List Char) : Option (List Char) :=
  if s.head?.any isContinue then none else some s

/-- The digits of a number in a base, and the text after them. A decimal digit that is too great for
the base is refused; the second result tells whether there was a digit. -/
def baseDigits (base : Nat) : (seen : Bool) → (value : Nat) → List Char →
    Option (Nat × Bool × List Char)
  | seen, value, [] => some (value, seen, [])
  | seen, value, c :: r =>
    if c = '_' then
      if seen = false ∧ base = 10 then none else baseDigits base seen value r
    else
      match Text.hexDigit? c with
      | some d =>
        if d < base then baseDigits base true (base * value + d) r
        else if isDigit c then none
        else some (value, seen, c :: r)
      | none => some (value, seen, c :: r)

def baseOf : List Char → Nat × List Char
  | '0' :: 'x' :: r => (16, r)
  | '0' :: 'o' :: r => (8, r)
  | '0' :: 'b' :: r => (2, r)
  | s => (10, s)

def integerToken (s : List Char) : Option (Token × List Char) := do
  let (base, digits) := baseOf s
  let (value, seen, r) ← baseDigits base false 0 digits
  if seen then
    let (suffix, rest) := suffix r
    let rest ← wordEnd rest
    some (.integer value suffix, rest)
  else none

def exponentRest : (signed seen : Bool) → List Char → Option (List Char)
  | _, seen, [] => if seen then some [] else none
  | signed, seen, c :: r =>
    if c = '+' ∨ c = '-' then
      if seen then some (c :: r)
      else if signed then none
      else exponentRest true seen r
    else if isDigit c then exponentRest signed true r
    else if c = '_' then exponentRest signed seen r
    else if seen then some (c :: r)
    else none

def skipDigits (s : List Char) : List Char := s.dropWhile (fun c => isDigit c || c = '_')

def floatDigits (s : List Char) : Option (List Char) :=
  if s.head?.any isDigit then
    match skipDigits s with
    | '.' :: r =>
      if r.head?.any (fun c => c = '.' || isStart c) then none
      else
        match skipDigits r with
        | 'e' :: t => some ((exponentRest false false t).getD ('e' :: t))
        | 'E' :: t => some ((exponentRest false false t).getD ('E' :: t))
        | t => some t
    | 'e' :: r => exponentRest false false r
    | 'E' :: r => exponentRest false false r
    | _ => none
  else none

def floatToken (s : List Char) : Option (Token × List Char) := do
  let r ← floatDigits s
  let rest ← wordEnd (suffix r).2
  some (.literal (String.ofList (s.take (s.length - rest.length))), rest)

end DecimalPowers.Lexer

import DecimalPowers.Declaration.Lexer.Name

/-!
Quoted literals: texts, byte texts and null-terminated texts, with escapes or between hashes, and
single characters. Only where such a literal ends is read; its text is kept as it stands.
-/

set_option autoImplicit false
set_option relaxedAutoImplicit false

namespace DecimalPowers.Lexer

inductive Content where
  | text
  | bytes
  | cText
  deriving DecidableEq

def hexEscape (content : Content) : List Char → Option (List Char)
  | a :: b :: r => do
    let x ← Text.hexDigit? a
    let y ← Text.hexDigit? b
    match content with
    | .text => if x ≤ 7 then some r else none
    | .bytes => some r
    | .cText => if x = 0 ∧ y = 0 then none else some r
  | _ => none

/-- Up to six hexadecimal digits and a closing brace, with the number they write. -/
def unicodeDigits : (value digits : Nat) → List Char → Option (Nat × List Char)
  | _, _, [] => none
  | value, digits, c :: r =>
    match Text.hexDigit? c with
    | some d => if digits = 6 then none else unicodeDigits (16 * value + d) (digits + 1) r
    | none =>
      if digits = 0 then none
      else if c = '_' then unicodeDigits value digits r
      else if c = '\x7d' ∧ value.isValidChar then some (value, r)
      else none

def unicodeEscape (content : Content) : List Char → Option (List Char)
  | '\x7b' :: r => do
    let (value, rest) ← unicodeDigits 0 0 r
    if content = .cText ∧ value = 0 then none else some rest
  | _ => none

def escape (content : Content) : List Char → Option (List Char)
  | 'x' :: r => hexEscape content r
  | 'u' :: r => if content = .bytes then none else unicodeEscape content r
  | '0' :: r => if content = .cText then none else some r
  | c :: r => if "nrt\\'\"".toList.contains c then some r else none
  | [] => none

/-- Passes over the blanks after a backslash at the end of a line. A carriage return has to be
followed by a newline. -/
def lineJoin : List Char → Option (List Char)
  | [] => none
  | '\r' :: '\n' :: r => lineJoin r
  | '\r' :: _ => none
  | c :: r => if c = ' ' ∨ c = '\t' ∨ c = '\n' then lineJoin r else some (c :: r)

def allowed (content : Content) (c : Char) : Bool :=
  match content with
  | .text => true
  | .bytes => c.toNat < 128
  | .cText => c ≠ '\x00'

/-- Passes over a quoted literal with escapes, after its opening quote. `fuel` bounds the number of
characters. -/
def quotedRest (content : Content) : (fuel : Nat) → List Char → Option (List Char)
  | 0, _ => none
  | fuel + 1, s =>
    match s with
    | [] => none
    | '"' :: r => some r
    | '\r' :: '\n' :: r => quotedRest content fuel r
    | '\r' :: _ => none
    | '\\' :: c :: r =>
      if c = '\n' ∨ c = '\r' then do quotedRest content fuel (← lineJoin (c :: r))
      else do quotedRest content fuel (← escape content (c :: r))
    | '\\' :: [] => none
    | c :: r => if allowed content c then quotedRest content fuel r else none

/-- Passes over a literal without escapes, after its opening quote. It ends at a quote that is
followed by the given number of hashes. -/
def rawRest (content : Content) (hashes : Nat) : List Char → Option (List Char)
  | [] => none
  | '\r' :: '\n' :: r => rawRest content hashes r
  | '\r' :: _ => none
  | c :: r =>
    if c = '"' ∧ (List.replicate hashes '#').isPrefixOf r then some (r.drop hashes)
    else if allowed content c then rawRest content hashes r
    else none

def rawQuoted (content : Content) (s : List Char) : Option (List Char) :=
  let hashes := (s.takeWhile (· = '#')).length
  match s.drop hashes with
  | '"' :: r => if hashes ≤ 255 then rawRest content hashes r else none
  | _ => none

def charRest (content : Content) (s : List Char) : Option (List Char) := do
  let r ← match s with
    | '\\' :: r => escape content r
    | c :: r => if allowed content c then some r else none
    | [] => none
  match r with
  | '\'' :: rest => some rest
  | _ => none

def quotedLiteral (s : List Char) : Option (List Char) :=
  match s with
  | '"' :: r => quotedRest .text s.length r
  | 'r' :: r => rawQuoted .text r
  | 'b' :: '"' :: r => quotedRest .bytes s.length r
  | 'b' :: 'r' :: r => rawQuoted .bytes r
  | 'b' :: '\'' :: r => charRest .bytes r
  | 'c' :: '"' :: r => quotedRest .cText s.length r
  | 'c' :: 'r' :: r => rawQuoted .cText r
  | '\'' :: r => charRest .text r
  | _ => none

def quotedToken (s : List Char) : Option (Token × List Char) := do
  let r ← quotedLiteral s
  let rest := (suffix r).2
  some (.literal (String.ofList (s.take (s.length - rest.length))), rest)

end DecimalPowers.Lexer

import DecimalPowers.Json.Error
import DecimalPowers.Text.Rest

/-!
Scanning JSON text. A scanner takes the rest of the text and returns what it has read with the rest
after it.
-/

set_option autoImplicit false
set_option relaxedAutoImplicit false

namespace DecimalPowers.Json

open Text (After Rest length_dropWhile_le)

def isSpace (c : Char) : Bool := c = ' ' || c = '\t' || c = '\n' || c = '\r'

def skipSpace (s : List Char) : List Char := s.dropWhile isSpace

theorem length_skipSpace_le (s : List Char) : (skipSpace s).length ≤ s.length :=
  length_dropWhile_le isSpace s

theorem length_lt_of_skipSpace {s r : List Char} {c : Char} (h : skipSpace s = c :: r) :
    r.length < s.length := by
  have := length_skipSpace_le s
  rw [h] at this
  exact this

def isDigit (c : Char) : Bool := '0' ≤ c && c ≤ '9'

def digitValue (c : Char) : Nat := c.toNat - '0'.toNat

/-- Reads the rest of a word such as `null`. A wrong letter counts as read. -/
def scanWord : (word s : List Char) → Except Error (Rest s)
  | [], s => .ok (.whole s)
  | _ :: _, [] => .error (.before .endInValue [])
  | w :: word, c :: s =>
    if c = w then do
      let r ← scanWord word s
      .ok r.cons
    else .error (.within .expectedIdent (c :: s))

/-! ### Strings -/

/-- Four hexadecimal digits. They are taken as four bytes, whatever they are. -/
def scanHex4 (s : List Char) : Except Error (Nat × After s) :=
  let failure : Error :=
    if byteLength s < 4 then ⟨.endInString, some 0⟩
    else ⟨.invalidEscape, some (byteLength s - 4)⟩
  match s with
  | a :: b :: c :: d :: r =>
    match [a, b, c, d].mapM Text.hexDigit? with
    | some ds => .ok (Text.ofDigits 16 0 ds, (After.tail d r).cons.cons.cons)
    | none => .error failure
  | _ => .error failure

def isLeadingSurrogate (n : Nat) : Bool := 0xD800 ≤ n && n ≤ 0xDBFF

def isTrailingSurrogate (n : Nat) : Bool := 0xDC00 ≤ n && n ≤ 0xDFFF

def scanTrailing (s : List Char) : Except Error (Nat × After s) :=
  match s with
  | [] => .error (.before .endInString [])
  | '\\' :: [] => .error (.before .endInString [])
  | '\\' :: 'u' :: r => do
    let (m, t) ← scanHex4 r
    if isTrailingSurrogate m then .ok (m, t.cons.cons) else .error (.before .loneSurrogate t.1)
  | '\\' :: r => .error (.within .unfinishedSurrogate r)
  | r => .error (.within .unfinishedSurrogate r)

/-- The character after the letter `u` of an escape. Surrogates have to come in pairs. -/
def scanUnicode (s : List Char) : Except Error (Char × After s) := do
  let (n, r) ← scanHex4 s
  if isTrailingSurrogate n then .error (.before .loneSurrogate r.1)
  else if isLeadingSurrogate n then do
    let (m, t) ← scanTrailing r.1
    .ok (Char.ofNat ((n - 0xD800) * 0x400 + (m - 0xDC00) + 0x10000), r.trans t)
  else .ok (Char.ofNat n, r)

def simpleEscape? : Char → Option Char
  | '"' => some '"'
  | '\\' => some '\\'
  | '/' => some '/'
  | 'b' => some '\x08'
  | 'f' => some '\x0c'
  | 'n' => some '\n'
  | 'r' => some '\r'
  | 't' => some '\t'
  | _ => none

def scanEscape (s : List Char) : Except Error (Char × After s) :=
  match s with
  | [] => .error (.before .endInString [])
  | 'u' :: r => do
    let (c, rest) ← scanUnicode r
    .ok (c, rest.cons)
  | c :: r =>
    match simpleEscape? c with
    | some e => .ok (e, .tail c r)
    | none => .error (.within .invalidEscape (c :: r))

/-- The characters of a string, after its opening quote. A control character counts as read. -/
def scanString (s : List Char) : Except Error (List Char × After s) :=
  match s with
  | [] => .error (.before .endInString [])
  | '"' :: r => .ok ([], .tail '"' r)
  | '\\' :: r => do
    let (c, escape) ← scanEscape r
    let (cs, rest) ← scanString escape.1
    .ok (c :: cs, (escape.trans rest).cons)
  | c :: r =>
    if c.toNat < 0x20 then .error (.within .controlCharacter (c :: r))
    else do
      let (cs, rest) ← scanString r
      .ok (c :: cs, rest.cons)
termination_by s.length
decreasing_by
  · exact Nat.lt_succ_of_lt escape.2
  · exact Nat.lt_succ_self _

/-- Passes over an escape, after the backslash. Surrogates need not come in pairs. -/
def skipEscape (s : List Char) : Except Error (After s) :=
  match s with
  | [] => .error (.before .endInString [])
  | 'u' :: r => do
    let (_, rest) ← scanHex4 r
    .ok rest.cons
  | c :: r =>
    match simpleEscape? c with
    | some _ => .ok (.tail c r)
    | none => .error (.within .invalidEscape (c :: r))

/-- Passes over a string, after its opening quote. A control character does not count as read. -/
def skipString (s : List Char) : Except Error (After s) :=
  match s with
  | [] => .error (.before .endInString [])
  | '"' :: r => .ok (.tail '"' r)
  | '\\' :: r => do
    let escape ← skipEscape r
    let rest ← skipString escape.1
    .ok (escape.trans rest).cons
  | c :: r =>
    if c.toNat < 0x20 then .error (.before .controlCharacter (c :: r))
    else do
      let rest ← skipString r
      .ok rest.cons
termination_by s.length
decreasing_by
  · exact Nat.lt_succ_of_lt escape.2
  · exact Nat.lt_succ_self _

end DecimalPowers.Json

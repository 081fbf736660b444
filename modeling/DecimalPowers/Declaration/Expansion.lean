import DecimalPowers.Declaration
import DecimalPowers.Declaration.Lexer
import DecimalPowers.Table

/-!
The expansion of a declaration: a module with the bounds of the range and the two columns of the
table as constants. A refused table leaves its text in place of the module.
-/

set_option autoImplicit false
set_option relaxedAutoImplicit false

namespace DecimalPowers

/-- Why there is no expansion: generation refused the table, for a reason of which the text is kept,
or there was a fault. -/
inductive ExpansionFailure where
  | refused (message : String)
  | fault (cause : FloatFault)

namespace ExpansionFailure

def ofFailure : Failure → ExpansionFailure
  | .refused cause => refused cause.message
  | .fault cause => fault cause

def message : ExpansionFailure → String
  | refused message => message
  | fault cause => cause.message

end ExpansionFailure

namespace Declaration

def ofText (text : String) : Except DeclarationError Declaration :=
  match Lexer.tokenize text with
  | some tokens => ofTokens tokens
  | none => .error .notTokens

def parameters (d : Declaration) : Parameters :=
  let default : Parameters := {}
  { minExp := d.minExp, maxExp := d.maxExp, bits := d.bits.getD default.bits,
    mantissa := default.mantissa }

/-- An integer with a sign as tokens: the minus sign is a token of its own. -/
def signedTokens (suffix : String) (x : Int) : List Token :=
  (if x < 0 then [.mark '-'] else []) ++ [.integer x.natAbs suffix]

/-- The integer of 16 bits, with a sign, that has the low bits of an integer. -/
def wrapInt16 (x : Int) : Int := x.bmod 65536

def commaSeparated : List (List Token) → List Token
  | [] => []
  | [item] => item
  | item :: items => item ++ .mark ',' :: commaSeparated items

def boundTokens (name : String) (x : Int) : List Token :=
  [.word "pub", .word "const", .word name, .mark ':', .word "i16", .mark '=']
    ++ signedTokens "i16" x ++ [.mark ';']

def columnType (element : String) (size : Nat) : Token :=
  .group .bracket [.word element, .mark ';', .integer size "usize"]

def powersTokens (t : Table) : List Token :=
  [.word "pub", .word "const", .word "POWERS", .mark ':',
    .group .parenthesis [columnType "u64" t.size, .mark ',', columnType "i16" t.size],
    .mark '=',
    .group .parenthesis
      [.group .bracket (commaSeparated (t.significands.map (fun sig => [.integer sig "u64"]))),
        .mark ',',
        .group .bracket (commaSeparated (t.exponents.map (signedTokens "i16"))),
        .mark ','],
    .mark ';']

def moduleTokens (d : Declaration) (t : Table) : List Token :=
  d.visibility.tokens ++ [.word "mod", .ident d.name,
    .group .brace (boundTokens "MIN_E" (wrapInt16 t.range.min)
      ++ boundTokens "MAX_E" (wrapInt16 t.range.max) ++ powersTokens t)]

def expand (d : Declaration) : Logged ExpansionFailure (List Token) := do
  let t ← (Table.generate d.parameters).mapError .ofFailure
  pure (d.moduleTokens t)

end Declaration

end DecimalPowers

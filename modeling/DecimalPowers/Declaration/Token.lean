import DecimalPowers.Text.Numeral

/-!
Source tokens. A token is an identifier, a punctuation character, a literal, or a group of tokens
between brackets. They are the tokens of written source, where a group always has its brackets; the
groups without brackets that an expansion may hand on do not occur. `Token.listText` writes tokens
with blanks between them, except after a punctuation character that is joined to the next one.
-/

set_option autoImplicit false
set_option relaxedAutoImplicit false

namespace DecimalPowers

structure Ident where
  name : String
  raw : Bool := false
  deriving DecidableEq

namespace Ident

def text (i : Ident) : String := if i.raw then "r#" ++ i.name else i.name

def keywords : List String :=
  ["_", "abstract", "as", "async", "await", "become", "box", "break", "const", "continue", "crate",
    "do", "dyn", "else", "enum", "extern", "false", "final", "fn", "for", "if", "impl", "in",
    "let", "loop", "macro", "match", "mod", "move", "mut", "override", "priv", "pub", "ref",
    "return", "Self", "self", "static", "struct", "super", "trait", "true", "try", "type",
    "typeof", "unsafe", "unsized", "use", "virtual", "where", "while", "yield"]

def isKeyword (i : Ident) : Bool := keywords.contains i.text

end Ident

inductive Delimiter where
  | parenthesis
  | bracket
  | brace
  deriving DecidableEq

inductive Token where
  | ident (name : Ident)
  | punct (char : Char) (joint : Bool)
  | integer (value : Nat) (suffix : String)
  | literal (text : String)
  | group (delimiter : Delimiter) (tokens : List Token)

namespace Token

def word (name : String) : Token := ident { name }

def mark (char : Char) : Token := punct char false

/-- Whether the next token follows without a blank. -/
def isJoint : Token → Bool
  | punct _ joint => joint
  | _ => false

mutual

def text : Token → String
  | ident name => name.text
  | punct char _ => char.toString
  | integer value suffix => Text.decimal value ++ suffix
  | literal text => text
  | group .parenthesis tokens => "(" ++ listText tokens ++ ")"
  | group .bracket tokens => "[" ++ listText tokens ++ "]"
  | group .brace [] => "\x7b \x7d"
  | group .brace (token :: tokens) => "\x7b " ++ listText (token :: tokens) ++ " \x7d"

def listText : List Token → String
  | [] => ""
  | [token] => token.text
  | token :: tokens => token.text ++ (if token.isJoint then "" else " ") ++ listText tokens

end

end Token

end DecimalPowers

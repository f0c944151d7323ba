import WordLang.Syntax.Span

namespace WordLang

inductive TokenKind
  | openParen
  | closeParen
  | word
  | str
  | punct
deriving DecidableEq, Repr, Inhabited

/-- A token: its class, its exact source text and where it stands. -/
structure Token where
  kind : TokenKind
  text : String
  span : Span
deriving DecidableEq, Repr, Inhabited

inductive LexFault
  | unterminatedString
  | strayEscape
  | invalidToken
deriving DecidableEq, Repr, Inhabited

namespace LexFault

def message : LexFault → String
  | .unterminatedString => "Unterminated string literal"
  | .strayEscape => "Escape character '\\' outside of a string literal"
  | .invalidToken => "Invalid Token"

end LexFault

structure LexError where
  fault : LexFault
  span : Span
deriving DecidableEq, Repr, Inhabited

end WordLang

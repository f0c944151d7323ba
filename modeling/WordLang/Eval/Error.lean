import WordLang.Syntax.Span
import WordLang.Value

namespace WordLang

/-- Why an expression could not be evaluated. -/
inductive EvalError
  | illFormed (message : String) (span : Span)
  | arity (form : String) (expected : String) (found : Nat) (span : Span)
  | notDeclared (name : String) (span : Span)
  | undefinedFunction (name : String) (span : Span)
  | unboundSymbol (name : String) (span : Span)
  | unknownSuffix (suffix : Char) (literal : String) (span : Span)
  | missingSuffix (literal : String) (span : Span)
  | malformedLiteral (literal : String) (span : Span)
  | unknownKind (kind : String) (span : Span)
  | typeMismatch (callee : String) (position : Nat) (expected : String) (found : Kind) (span : Span)
  | uninitialized (callee : String) (position : Nat) (span : Span)
  | overflow (callee : String) (span : Span)
  | noValue (context : String) (span : Span)
  | output (message : String) (span : Span)
  | recursionLimit (name : String) (limit : Nat) (span : Span)
deriving Repr, Inhabited

namespace EvalError

def span : EvalError → Span
  | .illFormed _ s | .arity _ _ _ s | .notDeclared _ s | .undefinedFunction _ s
  | .unboundSymbol _ s | .unknownSuffix _ _ s | .missingSuffix _ s | .malformedLiteral _ s
  | .unknownKind _ s | .typeMismatch _ _ _ _ s | .uninitialized _ _ s | .overflow _ s
  | .noValue _ s | .output _ s | .recursionLimit _ _ s => s

def message : EvalError → String
  | .illFormed m _ => "Syntax error: " ++ m
  | .arity form expected found _ =>
    "Arity error: '" ++ form ++ "' expects " ++ expected ++ ", got " ++ toString found
  | .notDeclared name _ => "Undefined name: setting '" ++ name ++ "' which was never declared"
  | .undefinedFunction name _ => "Undefined name: calling undefined function '" ++ name ++ "'"
  | .unboundSymbol name _ => "Undefined name: '" ++ name ++ "' is not a variable or a literal"
  | .unknownSuffix suffix literal _ =>
    "Unknown suffix '" ++ suffix.toString ++ "' for immediate '" ++ literal ++
      "' (expected w, d or b)"
  | .missingSuffix literal _ =>
    "Immediate '" ++ literal ++ "' is missing a kind suffix (w, d or b)"
  | .malformedLiteral literal _ => "Malformed immediate '" ++ literal ++ "'"
  | .unknownKind kind _ => "Unknown variable kind '" ++ kind ++ "'"
  | .typeMismatch callee position expected found _ =>
    "Type error: '" ++ callee ++ "' expects " ++ expected ++ " for argument " ++
      toString position ++ ", got " ++ found.name
  | .uninitialized callee position _ =>
    "Type error: argument " ++ toString position ++ " of '" ++ callee ++ "' is uninitialized"
  | .overflow callee _ => "Arithmetic overflow in '" ++ callee ++ "'"
  | .noValue context _ => context ++ " produced no value"
  | .output m _ => "Output error: " ++ m
  | .recursionLimit name limit _ =>
    "Recursion limit: '" ++ name ++ "' nested more than " ++ toString limit ++ " calls deep"

end EvalError

end WordLang

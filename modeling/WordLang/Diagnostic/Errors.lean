import WordLang.Diagnostic.Render
import WordLang.Eval.Program

namespace WordLang

namespace EvalError

def report (e : EvalError) : Diagnostic.Report :=
  let (headline, message) : String × String := match e with
    | .illFormed m _ => ("Syntax error", m)
    | .arity form .. => ("Wrong number of elements for `" ++ form ++ "`", e.message)
    | .notDeclared name _ =>
      ("Setting undeclared variable `" ++ name ++ "`",
        "declare it first: (declare " ++ name ++ " word)")
    | .undefinedFunction name _ =>
      ("Calling undefined function `" ++ name ++ "`", "No built-in or user function has this name")
    | .unboundSymbol name _ =>
      ("Unbound symbol `" ++ name ++ "`", "This is neither a variable nor a literal")
    | .unknownSuffix suffix .. =>
      ("Unknown suffix `" ++ suffix.toString ++ "`",
        "Immediates end in w (word), d (dword) or b (byte)")
    | .missingSuffix .. | .malformedLiteral .. => ("Malformed immediate", e.message)
    | .unknownKind kind _ =>
      ("Unknown variable kind `" ++ kind ++ "`",
        "Expected word, dword, byte, address, string or bool")
    | .typeMismatch _ _ expected found _ =>
      ("Type mismatch", "Expected " ++ expected ++ ", found " ++ found.name)
    | .uninitialized .. | .overflow .. => ("Invalid argument", e.message)
    | .noValue context _ => ("Missing value", context ++ " produced no value")
    | .output m _ => ("Could not write output", m)
    | .recursionLimit name limit _ =>
      ("Too many nested calls to `" ++ name ++ "`",
        "This call would nest deeper than " ++ toString limit ++ " user-function calls")
  ⟨headline, ⟨e.span, message⟩⟩

end EvalError

namespace ParseError

def report (e : ParseError) (src : String) : Diagnostic.Report :=
  match e with
  | .unbalancedClose s => ⟨"Unbalanced close parenthesis", ⟨s, "This ')' has no matching '('"⟩⟩
  | .unbalancedParen s =>
    ⟨"Unbalanced parenthesis",
      ⟨s, "This '(' is never closed before the input ends at byte " ++
        toString src.utf8ByteSize⟩⟩
  | .lex l => ⟨"Lexer Error", ⟨l.span, l.fault.message⟩⟩

end ParseError

namespace RunError

def report (e : RunError) (src : String) : Diagnostic.Report :=
  match e with
  | .parse p => p.report src
  | .eval v => v.report
  | .outOfFuel => ⟨"Evaluation ran out of fuel", ⟨⟨0, 0⟩, "The run was stopped here"⟩⟩

def render (e : RunError) (id src : String) : String :=
  (e.report src).render id src

end RunError

end WordLang

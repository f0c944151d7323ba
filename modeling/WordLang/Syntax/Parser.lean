import WordLang.Syntax.Lexer
import WordLang.Syntax.Node
import WordLang.Syntax.Numeral

namespace WordLang

inductive ParseError
  | unbalancedClose (span : Span)
  | unbalancedParen (span : Span)
  | lex (e : LexError)
deriving Repr, Inhabited

namespace ParseError

def span : ParseError → Span
  | .unbalancedClose s => s
  | .unbalancedParen s => s
  | .lex e => e.span

def message : ParseError → String
  | .unbalancedClose s =>
    "Parse Error [at " ++ s.render ++ "]: unbalanced close, ')' has no matching '('"
  | .unbalancedParen s =>
    "Parse Error [at " ++ s.render ++ "]: unbalanced parenthesis, '(' is never closed"
  | .lex e => "Lexer Error during parse: " ++ e.fault.message

end ParseError

namespace Node

def ofAtomToken (t : Token) : Node :=
  match readInt64? t.text with
  | some n => .int n t.span
  | none => .atom t.text t.span

abbrev OpenList := Span × List Node

def place (n : Node) : List OpenList → List Node → List OpenList × List Node
  | [], done => ([], n :: done)
  | (o, items) :: rest, done => ((o, n :: items) :: rest, done)

def build : List OpenList → List Node → List Token → Except ParseError (List Node)
  | [], done, [] => .ok done.reverse
  | (o, _) :: _, _, [] => .error (.unbalancedParen o)
  | opened, done, t :: ts =>
    match t.kind with
    | .openParen => build ((t.span, []) :: opened) done ts
    | .closeParen =>
      match opened with
      | [] => .error (.unbalancedClose t.span)
      | (o, items) :: rest =>
        let (opened, done) := place (.list items.reverse (o.merge t.span)) rest done
        build opened done ts
    | _ =>
      let (opened, done) := place (ofAtomToken t) opened done
      build opened done ts

def ofTokens (ts : List Token) : Except ParseError (List Node) := build [] [] ts

end Node

def parseProgram (src : String) : Except ParseError (List Node) :=
  match tokenize src with
  | .error e => .error (.lex e)
  | .ok ts => Node.ofTokens ts

end WordLang

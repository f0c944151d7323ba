import WordLang.Syntax.Span

namespace WordLang

/-- An expression with the span of its source text. -/
inductive Node
  | int (n : Int64) (span : Span)
  | atom (text : String) (span : Span)
  | list (items : List Node) (span : Span)
deriving Repr, Inhabited

namespace Node

def span : Node → Span
  | .int _ s => s
  | .atom _ s => s
  | .list _ s => s

def shapeName : Node → String
  | .int .. => "integer"
  | .atom .. => "atom"
  | .list .. => "list"

def atomText? : Node → Option String
  | .atom t _ => some t
  | _ => none

mutual

def render : Node → String
  | .int n _ => toString n.toInt
  | .atom t _ => t
  | .list items _ => "(" ++ renderAll items ++ ")"

def renderAll : List Node → String
  | [] => ""
  | [n] => render n
  | n :: rest => render n ++ " " ++ renderAll rest

end

end Node

end WordLang

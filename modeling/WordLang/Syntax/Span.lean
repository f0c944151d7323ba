namespace WordLang

/-- A half-open range of byte offsets into a source text. -/
structure Span where
  start : Nat
  stop : Nat
deriving DecidableEq, Repr, Inhabited

namespace Span

def merge (a b : Span) : Span := ⟨min a.start b.start, max a.stop b.stop⟩

def render (s : Span) : String := toString s.start ++ ".." ++ toString s.stop

end Span

end WordLang

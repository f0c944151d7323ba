import WordLang.Text.Blank
import WordLang.Text.Width
import WordLang.Syntax.Span

namespace WordLang.Diagnostic

structure SourceLine where
  offset : Nat
  chars : List Char
  length : Nat
deriving Repr, Inhabited

def isLineEnd (c : Char) : Bool :=
  c == '\n' || c == '\r' || c == '\x0B' || c == '\x0C' || c == '\u0085' || c == '\u2028' ||
    c == '\u2029'

def closeLine (offset len : Nat) (cur : List Char) : SourceLine := ⟨offset, cur.reverse, len⟩

def splitFrom (done : List SourceLine) (offset len : Nat) (cur : List Char) :
    List Char → List SourceLine
  | [] => (if len == 0 then done else closeLine offset len cur :: done).reverse
  | c :: cs =>
    if cur.head? == some '\r' then
      if c == '\n' then splitFrom (closeLine offset (len + 1) (c :: cur) :: done) (offset + len + 1) 0 [] cs
      else
        let done := closeLine offset len cur :: done
        let offset := offset + len
        if isLineEnd c && c != '\r' then splitFrom (closeLine offset 1 [c] :: done) (offset + 1) 0 [] cs
        else splitFrom done offset 1 [c] cs
    else if isLineEnd c && c != '\r' then
      splitFrom (closeLine offset (len + 1) (c :: cur) :: done) (offset + len + 1) 0 [] cs
    else splitFrom done offset (len + 1) (c :: cur) cs

def lines (src : String) : List SourceLine :=
  match splitFrom [] 0 0 [] src.toList with
  | [] => [⟨0, [], 0⟩]
  | ls => ls

def locate (ls : List SourceLine) (total pos : Nat) : Option (Nat × SourceLine) :=
  if pos > total then none
  else
    let candidates := (ls.zipIdx).filter fun (l, _) ↦ l.offset ≤ pos
    match candidates.getLast? with
    | some (l, i) => some (i, l)
    | none => none

def charColumns (c : Char) (col : Nat) : Nat :=
  if c == '\t' then 4 - col % 4
  else if Text.isBlank c then 1
  else Text.columns c

def SourceLine.trimmed (l : SourceLine) : List Char :=
  (l.chars.reverse.dropWhile Text.isBlank).reverse

def SourceLine.display (l : SourceLine) : String :=
  String.join <| l.trimmed.zipIdx.map fun (c, col) ↦
    if c == '\t' then "".pushn ' ' (charColumns c col)
    else if Text.isBlank c then " "
    else c.toString

def SourceLine.widths (l : SourceLine) (n : Nat) : List Nat :=
  let cs := l.trimmed
  (List.range n).map fun col ↦
    match cs[col]? with
    | some c => charColumns c col
    | none => 1

end WordLang.Diagnostic

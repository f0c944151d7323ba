import WordLang.Diagnostic.SourceLines

namespace WordLang.Diagnostic

structure Label where
  span : Span
  message : String
deriving Repr, Inhabited

structure Report where
  headline : String
  label : Label
deriving Repr, Inhabited

def repeatText (s : String) (n : Nat) : String := String.join (List.replicate n s)

def spaces (n : Nat) : String := "".pushn ' ' n

def digitCount (n : Nat) : Nat := (toString n).length

def drawColumns (widths : List Nat) (draw : Nat → Char × Char) : String :=
  String.join <| widths.zipIdx.map fun (w, col) ↦
    let (c, tail) := draw col
    if w == 0 then "" else (c.toString ++ "".pushn tail (w - 1))

namespace Report

def numberMargin (width lineNo : Nat) : String :=
  " " ++ spaces (width - digitCount lineNo) ++ toString lineNo ++ " │ "

def plainMargin (width : Nat) : String := " " ++ spaces (width + 1) ++ "│ "

def gapMargin (width : Nat) : String := " " ++ spaces (width + 1) ++ "┆ "

def inlineRows (width lineNo : Nat) (l : SourceLine) (span : Span) (msg : String) : String :=
  let col := max ((span.start + span.stop) / 2) span.start - l.offset
  let cols := l.widths (span.stop - l.offset + 2)
  let inSpan := fun c ↦ span.start ≤ l.offset + c && l.offset + c < span.stop
  let underline := drawColumns cols fun c ↦
    if c == col then (if inSpan c then ('┬', '─') else ('│', ' '))
    else if inSpan c then ('─', '─')
    else (' ', ' ')
  let hook := drawColumns cols fun c ↦
    if c == col then ('╰', '─') else if c > col then ('─', '─') else (' ', ' ')
  numberMargin width lineNo ++ l.display ++ "\n" ++
    plainMargin width ++ underline ++ "\n" ++
    plainMargin width ++ hook ++ " " ++ msg ++ "\n"

def multilineRows (width : Nat) (ls : List (Nat × SourceLine)) (span : Span) (msg : String) :
    String :=
  let contains := fun (l : SourceLine) (p : Nat) ↦ l.offset ≤ p && p < l.offset + l.length
  let step := fun ((out, gap) : String × Bool) ((i, l) : Nat × SourceLine) ↦
    if contains l span.start then
      (out ++ numberMargin width (i + 1) ++ "╭─▶ " ++ l.display ++ "\n", false)
    else if contains l (span.stop - 1) then
      let cols := l.widths (l.length + 2)
      (out ++ numberMargin width (i + 1) ++ "├─▶ " ++ l.display ++ "\n" ++
        plainMargin width ++ "│   " ++ drawColumns cols (fun _ ↦ (' ', ' ')) ++ "\n" ++
        plainMargin width ++ "╰───" ++ drawColumns cols (fun _ ↦ ('─', '─')) ++ " " ++ msg ++
        "\n", false)
    else if gap then (out, true)
    else (out ++ gapMargin width ++ "┆   \n", true)
  (ls.foldl step ("", false)).1

def render (r : Report) (id src : String) : String :=
  let head := "Error: " ++ r.headline ++ "\n"
  let ls := lines src
  let total := ls.foldl (fun n l ↦ n + l.length) 0
  let span := r.label.span
  let lastPos := if span.start ≥ span.stop then span.start else span.stop - 1
  match locate ls total span.start, locate ls total lastPos with
  | some (first, fl), some (last, _) =>
    let width := digitCount (last + 1)
    let frame := spaces (width + 2) ++ "╭─[ " ++ id ++ ":" ++ toString (first + 1) ++ ":" ++
      toString (span.start - fl.offset + 1) ++ " ]\n" ++ spaces (width + 2) ++ "│\n"
    let body :=
      if first == last then
        if span.stop ≤ fl.offset + fl.length then
          inlineRows width (first + 1) fl span r.label.message
        else plainMargin width ++ "\n"
      else
        let shown := (ls.zipIdx.map fun (l, i) ↦ (i, l)).filter fun (i, _) ↦
          first ≤ i && i ≤ last
        multilineRows width shown span r.label.message
    head ++ frame ++ body ++ repeatText "─" (width + 2) ++ "╯\n"
  | _, _ => head

end Report

end WordLang.Diagnostic

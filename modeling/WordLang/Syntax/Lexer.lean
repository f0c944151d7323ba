import WordLang.Syntax.Token
import WordLang.Text.Blank
import WordLang.Text.LetterNumber

namespace WordLang

def isWordChar (c : Char) : Bool :=
  c == '_' || c == '-' || Text.isLetterOrNumber c

inductive ScanState
  | gap
  | word (start : Nat) (chars : List Char)
  | comment
  | str (start : Nat) (chars : List Char) (escaped : Bool)
deriving DecidableEq, Repr

namespace ScanState

def wordToken (start stop : Nat) (chars : List Char) : Token :=
  ⟨.word, String.ofList chars.reverse, ⟨start, stop⟩⟩

def begin (c : Char) (pos : Nat) (toks : List Token) : Except LexError (ScanState × List Token) :=
  let span : Span := ⟨pos, pos + c.utf8Size⟩
  if Text.isBlank c then .ok (.gap, toks)
  else if c == ';' then .ok (.comment, toks)
  else if c == '(' then .ok (.gap, ⟨.openParen, "(", span⟩ :: toks)
  else if c == ')' then .ok (.gap, ⟨.closeParen, ")", span⟩ :: toks)
  else if c == '"' then .ok (.str pos ['"'] false, toks)
  else if c == '\\' then .error ⟨.strayEscape, span⟩
  else if isWordChar c then .ok (.word pos [c], toks)
  else .ok (.gap, ⟨.punct, c.toString, span⟩ :: toks)

def finish : ScanState → Nat → List Token → Except LexError (List Token)
  | .gap, _, toks => .ok toks.reverse
  | .comment, _, toks => .ok toks.reverse
  | .word start chars, pos, toks => .ok (wordToken start pos chars :: toks).reverse
  | .str start _ _, pos, _ => .error ⟨.unterminatedString, ⟨start, pos⟩⟩

def run : ScanState → Nat → List Char → List Token → Except LexError (List Token)
  | st, pos, [], toks => finish st pos toks
  | .gap, pos, c :: cs, toks => do
    let (st, toks) ← begin c pos toks
    run st (pos + c.utf8Size) cs toks
  | .word start chars, pos, c :: cs, toks =>
    if isWordChar c then run (.word start (c :: chars)) (pos + c.utf8Size) cs toks
    else do
      let (st, toks) ← begin c pos (wordToken start pos chars :: toks)
      run st (pos + c.utf8Size) cs toks
  | .comment, pos, c :: cs, toks =>
    run (if c == '\n' then .gap else .comment) (pos + c.utf8Size) cs toks
  | .str start chars escaped, pos, c :: cs, toks =>
    let next := pos + c.utf8Size
    if escaped then run (.str start (c :: chars) false) next cs toks
    else if c == '\\' then run (.str start (c :: chars) true) next cs toks
    else if c == '"' then
      run .gap next cs (⟨.str, String.ofList (c :: chars).reverse, ⟨start, next⟩⟩ :: toks)
    else run (.str start (c :: chars) false) next cs toks

end ScanState

def tokenize (src : String) : Except LexError (List Token) :=
  ScanState.run .gap 0 src.toList []

end WordLang

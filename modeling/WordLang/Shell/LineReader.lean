import WordLang.Text.Grapheme

namespace WordLang

inductive Verdict
  | complete
  | incomplete
  | unbalanced (message : String)
deriving DecidableEq, Repr

inductive CheckRegion
  | code
  | str (escaped : Bool)
  | comment
deriving DecidableEq, Repr

def checkFrom (r : CheckRegion) (depth : Nat) (pos : Nat) : List Char → Verdict
  | [] =>
    match r with
    | .str _ => .incomplete
    | _ => if depth > 0 then .incomplete else .complete
  | c :: cs =>
    let next := pos + c.utf8Size
    match r with
    | .comment => checkFrom (if c == '\n' then .code else .comment) depth next cs
    | .str true => checkFrom (.str false) depth next cs
    | .str false =>
      checkFrom (if c == '\\' then .str true else if c == '"' then .code else .str false)
        depth next cs
    | .code =>
      if c == ';' then checkFrom .comment depth next cs
      else if c == '"' then checkFrom (.str false) depth next cs
      else if c == '(' then checkFrom .code (depth + 1) next cs
      else if c == ')' then
        if depth == 0 then .unbalanced ("  - ')' at byte " ++ toString pos ++ " closes nothing")
        else checkFrom .code (depth - 1) next cs
      else checkFrom .code depth next cs

def checkEntry (s : String) : Verdict := checkFrom .code 0 0 s.toList

def dropBytes : Nat → List Char → List Char
  | 0, cs => cs
  | _, [] => []
  | n + 1, c :: cs => dropBytes (n + 1 - c.utf8Size) cs

def clusterSize (g : List Char) : Nat := (g.foldl (fun n c ↦ n + c.utf8Size) 0) % 256

def eraseBackspaces (s : String) : String :=
  let step := fun ((out, sizes) : List Char × List Nat) (g : List Char) ↦
    if g == ['\x08'] then
      match sizes with
      | [] => (out, [])
      | n :: rest => (dropBytes n out, rest)
    else (g.reverse ++ out, clusterSize g :: sizes)
  String.ofList ((Text.clusters s.toList).foldl step ([], [])).1.reverse

def inputLines (s : String) : List String :=
  match (s.splitOn "\n").reverse with
  | [] => []
  | last :: ended =>
    let ended := ended.reverse.map (· ++ "\n")
    if last.isEmpty then ended else ended ++ [last]

def stripLineEnd (s : String) : String × Bool × Bool :=
  let cs := s.toList
  if cs.getLast? == some '\n' then
    let cs := cs.dropLast
    if cs.getLast? == some '\r' then (String.ofList cs.dropLast, true, true)
    else (String.ofList cs, true, false)
  else (s, false, false)

def readMore (pending line : String) : Option String × String × String :=
  let (body, lf, cr) := stripLineEnd (pending ++ line)
  let body := eraseBackspaces body
  match checkEntry body with
  | .complete => (some body, "", "")
  | .unbalanced msg => (none, body, msg)
  | .incomplete => (none, body ++ (if cr then "\r" else "") ++ (if lf then "\n" else ""), "")

end WordLang

import WordLang.Log.Event

namespace WordLang

structure History where
  entries : List String := []
  added : Nat := 0
deriving Repr, Inhabited

namespace History

def capacity : Nat := 100

def add (h : History) (line : String) : History × Bool :=
  if line.isEmpty || h.entries.getLast? == some line then (h, false)
  else
    let kept := if h.entries.length ≥ capacity then h.entries.drop 1 else h.entries
    ({ h with entries := kept ++ [line] }, true)

def record (h : History) (line : String) : History :=
  let (h', added) := h.add line
  if added then { h' with added := h'.added + 1 } else h'

def unescape : List Char → Option (List Char)
  | [] => some []
  | '\\' :: 'n' :: rest => (unescape rest).map ('\n' :: ·)
  | '\\' :: '\\' :: rest => (unescape rest).map ('\\' :: ·)
  | '\\' :: _ => none
  | c :: rest => (unescape rest).map (c :: ·)

def escape (line : String) : String :=
  String.join (line.toList.map fun c ↦
    if c == '\n' then "\\n" else if c == '\\' then "\\\\" else c.toString)

def fileLines (text : String) : List String :=
  let dropCr := fun (p : String) ↦ if p.endsWith "\r" then String.ofList p.toList.dropLast else p
  match (text.splitOn "\n").reverse with
  | [] => []
  | last :: ended =>
    let ended := (ended.map dropCr).reverse
    if last.isEmpty then ended else ended ++ [last]

def load (text : String) : History × List Event :=
  let step := fun ((h, evs) : History × List Event) (line : String) ↦
    if line.isEmpty then (h, evs)
    else
      match unescape line.toList with
      | some cs => ((h.add (String.ofList cs)).1, evs)
      | none => ((h.add line).1, evs ++ [.badHistoryLine line])
  match fileLines text with
  | [] => ({}, [])
  | first :: rest =>
    if first == "#V2" then rest.foldl step ({}, [])
    else (rest.foldl (fun (h, evs) l ↦ if l.isEmpty then (h, evs) else ((h.add l).1, evs))
      ((({} : History).add first).1, []))

def save? (h : History) : Option String :=
  if h.added == 0 || h.entries.isEmpty then none
  else some ("#V2\n" ++ String.join (h.entries.map fun e ↦ escape e ++ "\n"))

end History

end WordLang

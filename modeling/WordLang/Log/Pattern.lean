import WordLang.Text.LetterNumber

namespace WordLang

inductive PatternError
  | malformed
  | unicodeWordBoundary
deriving DecidableEq, Repr

def PatternError.message : PatternError → String
  | .malformed => "error building NFA"
  | .unicodeWordBoundary =>
    "unsupported regex feature for DFAs: cannot build DFAs for regexes with Unicode word " ++
    "boundaries; switch to ASCII word boundaries, or heuristically enable Unicode word " ++
    "boundaries or use a different regex engine"

structure GroupFlags where
  unicode : Bool := true
  caseless : Bool := false
deriving DecidableEq, Repr

inductive ClassItem
  | opened (caretAllowed : Bool)
  | dashes
  | between
  | literal (c : Nat)
  | rangeEnd (c : Nat)
  | shorthand
deriving DecidableEq, Repr

inductive PatternMode
  | plain
  | escape
  | hex (width left value : Nat)
  | groupOpen
  | groupQuery
  | groupP
  | groupAngle
  | groupName (name : List Char)
  | flags (items : List Char) (negated : Bool)
  | cls (depth : Nat) (item : ClassItem)
  | clsEscape (depth : Nat) (rangeFrom : Option Nat)
  | clsHex (depth : Nat) (rangeFrom : Option Nat) (left value : Nat)
deriving DecidableEq, Repr

/-- What the scanner of a pattern remembers between characters. -/
structure PatternScan where
  mode : PatternMode := .plain
  groups : List GroupFlags := [{}]
  repeatable : Bool := false
  names : List (List Char) := []
  wordBoundary : Bool := false
  skip : Nat := 0
deriving Repr

def asciiClassNames : List String :=
  ["alnum", "alpha", "ascii", "blank", "cntrl", "digit", "graph", "lower", "print", "punct",
    "space", "upper", "word", "xdigit"]

def asciiClassBody? (cs : List Char) : Option Nat :=
  let name := cs.takeWhile (· != ':')
  match cs.drop name.length with
  | ':' :: ']' :: _ =>
    if asciiClassNames.contains (String.ofList name) then some (name.length + 2) else none
  | _ => none

def asciiClass? : List Char → Option (Bool × Nat)
  | ':' :: '^' :: more@(_ :: _) => (asciiClassBody? more).map fun n ↦ (true, n + 2)
  | ':' :: more => (asciiClassBody? more).map fun n ↦ (false, n + 1)
  | _ => none

namespace PatternScan

def flagsNow (s : PatternScan) : GroupFlags := s.groups.headD {}

def unicodeOn (s : PatternScan) : Bool := s.flagsNow.unicode

def foldsUnicode (s : PatternScan) : Bool := s.flagsNow.unicode && s.flagsNow.caseless

def item (s : PatternScan) : PatternScan := { s with mode := .plain, repeatable := true }

def literalItem (s : PatternScan) : Option PatternScan :=
  if s.foldsUnicode then none else some s.item

def openGroup (s : PatternScan) (f : GroupFlags) : PatternScan :=
  { s with mode := .plain, groups := f :: s.groups, repeatable := false }

def hexValue? (c : Char) : Option Nat :=
  let n := c.toNat
  if 0x30 ≤ n && n ≤ 0x39 then some (n - 0x30)
  else if 0x61 ≤ n && n ≤ 0x66 then some (n - 0x61 + 10)
  else if 0x41 ≤ n && n ≤ 0x46 then some (n - 0x41 + 10)
  else none

def isScalar (v : Nat) : Bool := v ≤ 0x10FFFF && !(0xD800 ≤ v && v ≤ 0xDFFF)

def isFlag (c : Char) : Bool := "imsUuRx".toList.contains c

def isNameChar (first : Bool) (c : Char) : Bool :=
  c == '_' || c.isAlpha || (c.toNat ≥ 0x80 && Text.isLetterOrNumber c) ||
    (!first && (c.isDigit || c == '.' || c == '[' || c == ']'))

def flagsAfter (f : GroupFlags) (items : List Char) : GroupFlags :=
  (items.foldl (fun (acc : GroupFlags × Bool) c ↦
    if c == '-' then (acc.1, true)
    else if c == 'u' then ({ acc.1 with unicode := !acc.2 }, acc.2)
    else if c == 'i' then ({ acc.1 with caseless := !acc.2 }, acc.2)
    else acc) (f, false)).1

def simpleEscape? (c : Char) : Option Nat :=
  if c == 'a' then some 0x07
  else if c == 'f' then some 0x0C
  else if c == 't' then some 0x09
  else if c == 'n' then some 0x0A
  else if c == 'r' then some 0x0D
  else if c == 'v' then some 0x0B
  else if c.toNat < 0x80 && !c.isAlphanum && c != '<' && c != '>' then some c.toNat
  else none

def plainStep (s : PatternScan) (c : Char) : Option PatternScan :=
  if c == '\\' then some { s with mode := .escape }
  else if c == '(' then some { s with mode := .groupOpen }
  else if c == ')' then
    match s.groups with
    | _ :: outer@(_ :: _) => some { s.item with groups := outer }
    | _ => none
  else if c == '|' then some { s with repeatable := false }
  else if c == '*' || c == '+' || c == '?' then
    if s.repeatable then some s else none
  else if c == '\x7b' then none
  else if c == '[' then some { s with mode := .cls 1 (.opened true) }
  else if c == '.' then
    if s.unicodeOn then some s.item else none
  else if c == '^' || c == '$' then some s.item
  else s.literalItem

def escapeStep (s : PatternScan) (c : Char) : Option PatternScan :=
  if c == '<' || c == '>' || c == 'b' || c == 'B' then
    some { s.item with wordBoundary := s.wordBoundary || s.unicodeOn }
  else if c == 'A' || c == 'z' then some s.item
  else if c == 'd' || c == 's' || c == 'w' then
    if s.unicodeOn then none else some s.item
  else if c == 'x' then some { s with mode := .hex 2 2 0 }
  else if c == 'u' then some { s with mode := .hex 4 4 0 }
  else if c == 'U' then some { s with mode := .hex 8 8 0 }
  else if (simpleEscape? c).isSome then s.literalItem
  else none

def hexStep (s : PatternScan) (width left value : Nat) (c : Char) : Option PatternScan :=
  match hexValue? c with
  | none => none
  | some d =>
    let v := value * 16 + d
    if left ≤ 1 then
      if !isScalar v || (!s.unicodeOn && width == 2 && v ≥ 0x80) then none
      else s.literalItem
    else some { s with mode := .hex width (left - 1) v }

def nameStep (s : PatternScan) (name : List Char) (c : Char) : Option PatternScan :=
  if c == '>' then
    if name.isEmpty || s.names.contains name.reverse then none
    else some { s.openGroup s.flagsNow with names := name.reverse :: s.names }
  else if isNameChar name.isEmpty c then some { s with mode := .groupName (c :: name) }
  else none

def flagsStep (s : PatternScan) (items : List Char) (negated : Bool) (c : Char) :
    Option PatternScan :=
  if c == ':' || c == ')' then
    if negated then none
    else
      let f := flagsAfter s.flagsNow items.reverse
      if c == ':' then some (s.openGroup f)
      else some { s with mode := .plain, groups := f :: s.groups.tail, repeatable := false }
  else if c == '-' then
    if items.contains '-' then none else some { s with mode := .flags (c :: items) true }
  else if isFlag c then
    if items.contains c then none else some { s with mode := .flags (c :: items) false }
  else none

def classLiteral (s : PatternScan) (depth : Nat) (rangeFrom : Option Nat) (v : Nat) :
    Option PatternScan :=
  if s.foldsUnicode || (!s.unicodeOn && v ≥ 0x80) then none
  else
    match rangeFrom with
    | none => some { s with mode := .cls depth (.literal v) }
    | some a => if a ≤ v then some { s with mode := .cls depth .between } else none

def classLeading (s : PatternScan) (depth : Nat) (c : Char) (it : ClassItem) :
    Option PatternScan :=
  (s.classLiteral depth none c.toNat).map fun t ↦ { t with mode := .cls depth it }

def closeClass (s : PatternScan) (depth : Nat) : PatternScan :=
  if depth ≤ 1 then s.item else { s with mode := .cls (depth - 1) .between }

def classItemStep (s : PatternScan) (depth : Nat) (c : Char) (rest : List Char) :
    Option PatternScan :=
  if c == ']' then some (s.closeClass depth)
  else if c == '[' then
    match asciiClass? rest with
    | some (negated, length) =>
      if s.foldsUnicode || (negated && !s.unicodeOn) then none
      else some { s with mode := .cls depth .between, skip := length }
    | none => some { s with mode := .cls (depth + 1) (.opened true) }
  else if (c == '&' || c == '-' || c == '~') && rest.head? == some c then
    some { s with mode := .cls depth .between, skip := 1 }
  else if c == '\\' then some { s with mode := .clsEscape depth none }
  else s.classLiteral depth none c.toNat

def classStep (s : PatternScan) (depth : Nat) (it : ClassItem) (c : Char) (rest : List Char) :
    Option PatternScan :=
  let startsRange := c == '-' && rest.head? != some ']' && rest.head? != some '-'
  match it with
  | .opened caretAllowed =>
    if caretAllowed && c == '^' then
      if s.unicodeOn then some { s with mode := .cls depth (.opened false) } else none
    else if c == '-' then s.classLeading depth c .dashes
    else if c == ']' then s.classLeading depth c .between
    else s.classItemStep depth c rest
  | .dashes => if c == '-' then s.classLeading depth c .dashes else s.classItemStep depth c rest
  | .between => s.classItemStep depth c rest
  | .literal a =>
    if startsRange then some { s with mode := .cls depth (.rangeEnd a) }
    else s.classItemStep depth c rest
  | .rangeEnd a =>
    if c == '\\' then some { s with mode := .clsEscape depth (some a) }
    else s.classLiteral depth (some a) c.toNat
  | .shorthand => if startsRange then none else s.classItemStep depth c rest

def classEscapeStep (s : PatternScan) (depth : Nat) (rangeFrom : Option Nat) (c : Char) :
    Option PatternScan :=
  if c == 'd' || c == 's' || c == 'w' then
    if s.unicodeOn || rangeFrom.isSome then none
    else some { s with mode := .cls depth .shorthand }
  else if c == 'x' then some { s with mode := .clsHex depth rangeFrom 2 0 }
  else if c == 'u' then some { s with mode := .clsHex depth rangeFrom 4 0 }
  else if c == 'U' then some { s with mode := .clsHex depth rangeFrom 8 0 }
  else
    match simpleEscape? c with
    | some v => s.classLiteral depth rangeFrom v
    | none => none

def classHexStep (s : PatternScan) (depth : Nat) (rangeFrom : Option Nat) (left value : Nat)
    (c : Char) : Option PatternScan :=
  match hexValue? c with
  | none => none
  | some d =>
    let v := value * 16 + d
    if left ≤ 1 then
      if isScalar v then s.classLiteral depth rangeFrom v else none
    else some { s with mode := .clsHex depth rangeFrom (left - 1) v }

def step (s : PatternScan) (c : Char) (rest : List Char) : Option PatternScan :=
  if s.skip > 0 then some { s with skip := s.skip - 1 }
  else
    match s.mode with
    | .plain => s.plainStep c
    | .escape => s.escapeStep c
    | .hex width left value => s.hexStep width left value c
    | .groupOpen =>
      if c == '?' then some { s with mode := .groupQuery }
      else (s.openGroup s.flagsNow).plainStep c
    | .groupQuery =>
      if c == 'P' then some { s with mode := .groupP }
      else if c == '<' then some { s with mode := .groupAngle }
      else if c == ':' then some (s.openGroup s.flagsNow)
      else if c == '-' || isFlag c then some { s with mode := .flags [c] (c == '-') }
      else none
    | .groupP => if c == '<' then some { s with mode := .groupName [] } else none
    | .groupAngle => if c == '=' || c == '!' then none else s.nameStep [] c
    | .groupName name => s.nameStep name c
    | .flags items negated => s.flagsStep items negated c
    | .cls depth it => s.classStep depth it c rest
    | .clsEscape depth rangeFrom => s.classEscapeStep depth rangeFrom c
    | .clsHex depth rangeFrom left value => s.classHexStep depth rangeFrom left value c

def run (s : PatternScan) : List Char → Option PatternScan
  | [] => some s
  | c :: rest =>
    match s.step c rest with
    | some t => t.run rest
    | none => none

end PatternScan

def Pattern.check (p : String) : Option PatternError :=
  match PatternScan.run {} p.toList with
  | some s =>
    if s.mode != .plain || s.groups.length != 1 then some .malformed
    else if s.wordBoundary then some .unicodeWordBoundary
    else none
  | none => some .malformed

def Pattern.unsigned : List Char → List Char
  | '+' :: r | '-' :: r => r
  | r => r

def Pattern.isExponent : List Char → Bool
  | [] => true
  | e :: r =>
    let ds := Pattern.unsigned r
    (e == 'e' || e == 'E') && !ds.isEmpty && ds.all Char.isDigit

def Pattern.isScalar (s : String) : Bool :=
  let cs := Pattern.unsigned s.toList
  let whole := cs.takeWhile Char.isDigit
  let (frac, afterFrac) := match cs.drop whole.length with
    | '.' :: r => (r.takeWhile Char.isDigit, r.dropWhile Char.isDigit)
    | r => ([], r)
  let word := String.ofList (cs.map Char.toLower)
  s == "true" || s == "false" || word == "inf" || word == "infinity" || word == "nan" ||
    ((!whole.isEmpty || !frac.isEmpty) && Pattern.isExponent afterFrac)

def Pattern.checkValue (v : String) : Option PatternError :=
  if Pattern.isScalar v then none else Pattern.check v

end WordLang

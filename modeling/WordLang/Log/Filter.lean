import WordLang.Log.Event
import WordLang.Log.Pattern
import WordLang.Text.Blank
import WordLang.Text.WordChar

namespace WordLang

abbrev LevelFilter := Option Level

namespace LevelFilter

def ofRank : Nat → Option LevelFilter
  | 0 => some none
  | 1 => some (some .error)
  | 2 => some (some .warn)
  | 3 => some (some .info)
  | 4 => some (some .debug)
  | 5 => some (some .trace)
  | _ => none

def numeral? (s : String) : Option Nat :=
  let ds := match s.toList with
    | '+' :: r => r
    | r => r
  if ds.isEmpty || !ds.all Char.isDigit then none
  else some (ds.foldl (fun n c ↦ min 6 (10 * n + (c.toNat - 0x30))) 0)

def parse? (s : String) : Option LevelFilter :=
  match numeral? s with
  | some n => ofRank n
  | none =>
    match String.ofList (s.toList.map Char.toLower) with
    | "" | "error" => some (some .error)
    | "warn" => some (some .warn)
    | "info" => some (some .info)
    | "debug" => some (some .debug)
    | "trace" => some (some .trace)
    | "off" => some none
    | _ => none

end LevelFilter

def Level.allowedBy (l : Level) : LevelFilter → Bool
  | none => false
  | some m => l.rank ≤ m.rank

/-- One directive of a filter. -/
structure Directive where
  target : Option String
  fields : List String
  level : LevelFilter
  inSpan : Bool
deriving DecidableEq, Repr, Inhabited

inductive DirectiveError
  | malformed
  | level
  | field (e : PatternError)
deriving DecidableEq, Repr

def DirectiveError.message : DirectiveError → String
  | .malformed => "invalid filter directive"
  | .level =>
    "error parsing level filter: expected one of \"off\", \"error\", \"warn\", \"info\", " ++
    "\"debug\", \"trace\", or a number 0-5"
  | .field e => "invalid field filter: " ++ e.message

structure FieldSelector where
  name : String
  value : Option String
deriving DecidableEq, Repr

def FieldSelector.ofText (s : String) : FieldSelector :=
  match s.splitOn "=" with
  | name :: value :: _ => ⟨name, some value⟩
  | _ => ⟨s, none⟩

structure SpanPart where
  name : Option (List Char)
  fields : List FieldSelector

def isTargetStart (c : Char) : Bool := c == ':' || c == '-' || Text.isWordChar c

def dropTrailingBlanks (cs : List Char) : List Char :=
  (cs.reverse.dropWhile Text.isBlank).reverse

namespace Directive

def fieldError? (fields : List FieldSelector) : Option PatternError :=
  fields.findSome? fun f ↦ f.value.bind Pattern.checkValue

def spanPart (cs : List Char) : Except DirectiveError (SpanPart × List Char) :=
  let name := cs.takeWhile fun c ↦ c != '\x7b' && c != ']'
  match cs.drop name.length with
  | '\x7b' :: afterBrace =>
    let fieldText := afterBrace.takeWhile (· != '\x7d')
    match afterBrace.drop fieldText.length with
    | [] => .error .malformed
    | _ :: afterClose =>
      let fields := (((String.ofList fieldText).splitOn ",").filter (!·.isEmpty)).map
        FieldSelector.ofText
      if fields.isEmpty then .error .malformed
      else
        match fieldError? fields, afterClose with
        | some e, _ => .error (.field e)
        | none, ']' :: after =>
          .ok (⟨if name.isEmpty then none else some name, fields⟩, after)
        | none, _ => .error .malformed
  | ']' :: after => .ok (⟨some name, []⟩, after)
  | _ => .error .malformed

def levelOf (cs : List Char) : Except DirectiveError LevelFilter :=
  if cs.isEmpty then .ok (some .trace)
  else
    match LevelFilter.parse? (String.ofList cs) with
    | some lf => .ok lf
    | none => .error .level

def global (lf : LevelFilter) : Directive := ⟨none, [], lf, false⟩

def globalOf (s : String) : Except DirectiveError Directive :=
  if s.isEmpty then .error .malformed
  else
    match LevelFilter.parse? s with
    | some lf => .ok (global lf)
    | none => .error .level

def parse (s : String) : Except DirectiveError Directive :=
  match s.toList with
  | [] => .error .malformed
  | cs@(c :: _) =>
    if Text.isBlank c then globalOf (Text.trimBlank s)
    else if c != '[' && !isTargetStart c then .error .malformed
    else
      let target := cs.takeWhile fun c ↦ c != '[' && c != '='
      let name := dropTrailingBlanks target
      let targetOf := if name.isEmpty then none else some (String.ofList name)
      match cs.drop target.length with
      | [] =>
        match LevelFilter.parse? (String.ofList name) with
        | some lf => .ok (global lf)
        | none => .ok ⟨targetOf, [], some .trace, false⟩
      | '=' :: lvl => (levelOf lvl).map fun lf ↦ ⟨targetOf, [], lf, false⟩
      | _ :: afterBracket => do
        let (span, after) ← spanPart afterBracket
        let lf ← match after.dropWhile Text.isBlank with
          | [] => .ok (some .trace)
          | '=' :: lvl => levelOf lvl
          | _ => .error .malformed
        .ok ⟨targetOf, span.fields.map (·.name), lf,
          span.name.isSome || span.fields.any (·.value.isSome)⟩

def compareNat (a b : Nat) : Ordering :=
  if a < b then .lt else if b < a then .gt else .eq

def compareChars : List Char → List Char → Ordering
  | [], [] => .eq
  | [], _ :: _ => .lt
  | _ :: _, [] => .gt
  | a :: as, b :: bs => (compareNat a.toNat b.toNat).then (compareChars as bs)

def compareTexts : List String → List String → Ordering
  | [], [] => .eq
  | [], _ :: _ => .lt
  | _ :: _, [] => .gt
  | a :: as, b :: bs => (compareChars a.toList b.toList).then (compareTexts as bs)

def targetWeight (d : Directive) : Nat :=
  match d.target with
  | none => 0
  | some t => t.length + 1

def specificity (d e : Directive) : Ordering :=
  (compareNat d.targetWeight e.targetWeight).then <|
    (compareNat d.fields.length e.fields.length).then <|
      (compareChars (d.target.getD "").toList (e.target.getD "").toList).then
        (compareTexts d.fields e.fields)

def appliesTo (d : Directive) (target : String) (fields : List String) : Bool :=
  !d.inSpan && d.target.all (·.isPrefixOf target) && d.fields.all (fields.contains ·)

end Directive

/-- A log filter: its directives, in the order given. -/
structure LogFilter where
  directives : List Directive
deriving Inhabited

namespace LogFilter

def pieces (s : String) : List String := (s.splitOn ",").filter (!·.isEmpty)

def parse (s : String) : Except DirectiveError LogFilter :=
  (pieces s).mapM Directive.parse |>.map (⟨·⟩)

def parseLenient (s : String) : LogFilter × List String :=
  let step := fun ((ds, warnings) : List Directive × List String) (p : String) ↦
    match Directive.parse p with
    | .ok d => (ds ++ [d], warnings)
    | .error e => (ds, warnings ++ ["ignoring `" ++ p ++ "`: " ++ e.message])
  let (ds, warnings) := (pieces s).foldl step ([], [])
  (⟨ds⟩, warnings)

def decider? (f : LogFilter) (target : String) (fields : List String) : Option Directive :=
  (f.directives.filter (·.appliesTo target fields)).foldl (fun best d ↦
    match best with
    | none => some d
    | some b => if d.specificity b == .lt then some b else some d) none

def allows (f : LogFilter) (level : Level) (target : String) (fields : List String) : Bool :=
  match f.decider? target fields with
  | some d => level.allowedBy d.level
  | none => false

def allowsSort (f : LogFilter) (k : EventSort) : Bool := f.allows k.level k.target k.fieldNames

def allowsEvent (f : LogFilter) (e : Event) : Bool := f.allowsSort e.sort

def verbosity (f : LogFilter) : Verbosity := ⟨EventSort.interpreter.filter f.allowsSort⟩

end LogFilter

def LogFilter.ofSettings (primary fallback : Option String) : Option LogFilter × List String :=
  match primary.map LogFilter.parse with
  | some (.ok f) => (some f, [])
  | _ =>
    match fallback with
    | some s => let (f, w) := LogFilter.parseLenient s; (some f, w)
    | none => (none, [])

end WordLang

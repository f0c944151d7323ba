import WordLang.Value
import WordLang.Text.Quote

namespace WordLang

inductive Level
  | error
  | warn
  | info
  | debug
  | trace
deriving DecidableEq, Repr, Inhabited

namespace Level

def rank : Level → Nat
  | .error => 1
  | .warn => 2
  | .info => 3
  | .debug => 4
  | .trace => 5

def label : Level → String
  | .error => "ERROR"
  | .warn => " WARN"
  | .info => " INFO"
  | .debug => "DEBUG"
  | .trace => "TRACE"

end Level

/-- Something the interpreter, the file runner or the line reader reports. -/
inductive Event
  | frameEntered (depth : Nat)
  | frameExited (depth : Nat) (ok : Bool)
  | released (depth count : Nat)
  | functionDefined (name : String) (params : List String) (bodyLength : Nat)
  | variableDeclared (name : String) (kind : Kind)
  | variableSet (name : String) (value : String)
  | loopFinished (iterations : Nat)
  | calling (name : String) (args depth : Nat)
  | programFinished (result : Option Variable)
  | editorStarted
  | pipedInput
  | badHistoryLine (line : String)
deriving Repr, Inhabited

inductive EventSort
  | frameEntered
  | frameExited
  | released
  | functionDefined
  | variableDeclared
  | variableSet
  | loopFinished
  | calling
  | programFinished
  | editorStarted
  | pipedInput
  | badHistoryLine
deriving DecidableEq, Repr, Inhabited

def Event.sort : Event → EventSort
  | .frameEntered .. => .frameEntered
  | .frameExited .. => .frameExited
  | .released .. => .released
  | .functionDefined .. => .functionDefined
  | .variableDeclared .. => .variableDeclared
  | .variableSet .. => .variableSet
  | .loopFinished .. => .loopFinished
  | .calling .. => .calling
  | .programFinished .. => .programFinished
  | .editorStarted => .editorStarted
  | .pipedInput => .pipedInput
  | .badHistoryLine .. => .badHistoryLine

/-- Which sorts of events of the interpreter are recorded. -/
structure Verbosity where
  sorts : List EventSort := []
deriving DecidableEq, Repr, Inhabited

def Verbosity.records (v : Verbosity) (e : Event) : Bool := v.sorts.contains e.sort

namespace Kind

def structName : Kind → String
  | .word => "Word"
  | .dword => "Dword"
  | .byte => "Byte"
  | .address => "Address"
  | .string => "String"
  | .bool => "Bool"

end Kind

namespace Variable

def structView (v : Variable) : String :=
  let payload := match v.payload with
    | .uninitialized => "Uninitialized"
    | .int n => "Integer(" ++ toString n.toInt ++ ")"
    | .text s => "Text(" ++ Text.quote s ++ ")"
    | .bool b => "Bool(" ++ toString b ++ ")"
  "Variable \x7b kind: " ++ v.kind.structName ++ ", value: " ++ payload ++ ", frame: " ++
    toString v.frame ++ " \x7d"

end Variable

namespace EventSort

def evaluatorTarget : String := "kore::evaluator"

def environmentTarget : String := "kore::environment"

def runnerTarget : String := "kore"

def readerTarget : String := "rustyline"

def interpreter : List EventSort :=
  [.frameEntered, .frameExited, .released, .functionDefined, .variableDeclared, .variableSet,
    .loopFinished, .calling]

def level : EventSort → Level
  | .frameEntered | .frameExited | .released => .trace
  | .badHistoryLine => .warn
  | _ => .debug

def target : EventSort → String
  | .released => environmentTarget
  | .programFinished => runnerTarget
  | .editorStarted | .pipedInput | .badHistoryLine => readerTarget
  | _ => evaluatorTarget

def fieldNames : EventSort → List String
  | .frameEntered => ["message", "depth"]
  | .frameExited => ["message", "depth", "ok"]
  | .released => ["message", "depth", "released"]
  | .functionDefined => ["message", "name", "parameters", "body"]
  | .variableDeclared => ["message", "name", "kind"]
  | .variableSet => ["message", "name", "value"]
  | .loopFinished => ["message", "iterations"]
  | .calling => ["message", "name", "args", "depth"]
  | .programFinished => ["message", "result"]
  | .editorStarted | .pipedInput | .badHistoryLine =>
    ["message", "log.target", "log.module_path", "log.file", "log.line"]

end EventSort

namespace Event

def level (e : Event) : Level := e.sort.level

def target (e : Event) : String := e.sort.target

def quotedList (xs : List String) : String :=
  "[" ++ ", ".intercalate (xs.map Text.quote) ++ "]"

def content : Event → String × List (String × String)
  | .frameEntered d => ("entering frame", [("depth", toString d)])
  | .frameExited d ok => ("exiting frame", [("depth", toString d), ("ok", toString ok)])
  | .released d n => ("released temporaries", [("depth", toString d), ("released", toString n)])
  | .functionDefined name params n =>
    ("defining function",
      [("name", Text.quote name), ("parameters", quotedList params), ("body", toString n)])
  | .variableDeclared name k => ("declaring variable", [("name", Text.quote name), ("kind", k.name)])
  | .variableSet name value => ("setting variable", [("name", Text.quote name), ("value", value)])
  | .loopFinished n => ("while loop finished", [("iterations", toString n)])
  | .calling name args d =>
    ("calling", [("name", Text.quote name), ("args", toString args), ("depth", toString d)])
  | .programFinished r =>
    ("program finished",
      [("result", match r with
        | some v => "Some(" ++ v.structView ++ ")"
        | none => "None")])
  | .editorStarted => ("GraphemeClusterMode: WcWidth", [])
  | .pipedInput => ("stdin is not a tty", [])
  | .badHistoryLine l => ("bad escaped line: " ++ l, [])

def safeChar (c : Char) : List Char :=
  let n := c.toNat
  if n == 0x1B || n == 0x07 || n == 0x08 || n == 0x0C || n == 0x7F then
    ['\\', 'x'] ++ (if n < 0x10 then ['0'] else []) ++ Text.hexDigits n
  else if 0x80 ≤ n && n ≤ 0x9F then ['\\', 'u', '\x7b'] ++ Text.hexDigits n ++ ['\x7d']
  else [c]

def safeText (s : String) : String := String.ofList (s.toList.flatMap safeChar)

def line (e : Event) : String :=
  let (message, fields) := e.content
  e.level.label ++ " " ++ e.target ++ ": " ++ safeText message ++
    String.join (fields.map fun (k, v) ↦ " " ++ k ++ "=" ++ v)

end Event

end WordLang

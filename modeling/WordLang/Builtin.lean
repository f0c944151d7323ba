import WordLang.Eval.Error
import WordLang.Syntax.Numeral

namespace WordLang

/-- The built-in functions. -/
inductive Builtin
  | add
  | print
  | gt
  | lt
  | address
deriving DecidableEq, Repr, Inhabited

inductive BuiltinResult
  | value (v : Variable)
  | line (text : String)
deriving Repr, Inhabited

namespace Builtin

def all : List Builtin := [.add, .print, .gt, .lt, .address]

def name : Builtin → String
  | .add => "add"
  | .print => "print"
  | .gt => "gt"
  | .lt => "lt"
  | .address => "address"

def placeholderAddress : Int64 := 1234

def checkedAdd (a b : Int64) : Option Int64 :=
  let s := a.toInt + b.toInt
  if fitsInt64 s then some (Int64.ofInt s) else none

def expectInteger (callee : String) (span : Span) (position : Nat) (v : Variable) :
    Except EvalError Int64 :=
  if !v.kind.isNumeric then
    .error (.typeMismatch callee position "a word, dword, byte or address" v.kind span)
  else match v.payload with
    | .int n => .ok n
    | _ => .error (.uninitialized callee position span)

def sumFrom (span : Span) (total : Int64) (position : Nat) : List Variable → Except EvalError Int64
  | [] => .ok total
  | v :: rest => do
    let n ← expectInteger "add" span position v
    match checkedAdd total n with
    | some t => sumFrom span t (position + 1) rest
    | none => .error (.overflow "add" span)

def exactly (callee : String) (n : Nat) (args : List Variable) (span : Span) :
    Except EvalError Unit :=
  if args.length == n then .ok ()
  else .error (.arity callee ("exactly " ++ toString n ++ " arguments") args.length span)

def compare (callee : String) (rel : Int64 → Int64 → Bool) (args : List Variable) (span : Span) :
    Except EvalError BuiltinResult := do
  exactly callee 2 args span
  match args with
  | [a, b] =>
    let x ← expectInteger callee span 1 a
    let y ← expectInteger callee span 2 b
    .ok (.value ⟨.bool, .bool (rel x y), 0⟩)
  | _ => .error (.arity callee "exactly 2 arguments" args.length span)

def apply (b : Builtin) (args : List Variable) (span : Span) : Except EvalError BuiltinResult :=
  match b with
  | .add =>
    if args.isEmpty then .error (.arity "add" "at least 1 arguments" 0 span)
    else do
      let total ← sumFrom span 0 1 args
      .ok (.value ⟨.word, .int total, 0⟩)
  | .print => do
    exactly "print" 1 args span
    match args with
    | [v] => .ok (.line v.render)
    | _ => .error (.arity "print" "exactly 1 arguments" args.length span)
  | .gt => compare "gt" (fun x y ↦ decide (y < x)) args span
  | .lt => compare "lt" (fun x y ↦ decide (x < y)) args span
  | .address => .ok (.value ⟨.address, .int placeholderAddress, 0⟩)

end Builtin

end WordLang

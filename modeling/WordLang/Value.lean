namespace WordLang

/-- The kinds of variables. -/
inductive Kind
  | word
  | dword
  | byte
  | address
  | string
  | bool
deriving DecidableEq, Repr, Inhabited

namespace Kind

def all : List Kind := [.word, .dword, .byte, .address, .string, .bool]

def name : Kind → String
  | .word => "word"
  | .dword => "dword"
  | .byte => "byte"
  | .address => "address"
  | .string => "string"
  | .bool => "bool"

def ofName? (s : String) : Option Kind := all.find? (·.name == s)

def ofSuffix? : Char → Option Kind
  | 'w' => some .word
  | 'd' => some .dword
  | 'b' => some .byte
  | _ => none

def isNumeric : Kind → Bool
  | .word | .dword | .byte | .address => true
  | .string | .bool => false

theorem ofName?_name (k : Kind) : ofName? k.name = some k := by
  cases k <;> rfl

end Kind

/-- What a variable holds. -/
inductive Payload
  | uninitialized
  | int (n : Int64)
  | text (s : String)
  | bool (b : Bool)
deriving DecidableEq, Repr, Inhabited

/-- A variable: its kind, its payload and the frame depth at which it was made. -/
structure Variable where
  kind : Kind
  payload : Payload
  frame : Nat
deriving DecidableEq, Repr, Inhabited

namespace Variable

def declared (k : Kind) : Variable := ⟨k, .uninitialized, 0⟩

def inFrame (v : Variable) (d : Nat) : Variable := { v with frame := d }

def isTrue (v : Variable) : Bool := v.kind == .bool && v.payload == .bool true

def render (v : Variable) : String :=
  match v.payload with
  | .uninitialized => "<uninitialized " ++ v.kind.name ++ ">"
  | .int n => toString n.toInt
  | .text s => s
  | .bool b => toString b

end Variable

end WordLang

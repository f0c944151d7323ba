namespace WordLang

def fitsInt64 (n : Int) : Bool := -9223372036854775808 ≤ n && n < 9223372036854775808

def digitsValue? : List Char → Option Nat
  | [] => none
  | cs => if cs.all Char.isDigit then some (cs.foldl (fun acc d ↦ acc * 10 + (d.toNat - 48)) 0)
    else none

def readInt64? (s : String) : Option Int64 :=
  let (negative, digits) : Bool × List Char :=
    match s.toList with
    | '-' :: rest => (true, rest)
    | '+' :: rest => (false, rest)
    | rest => (false, rest)
  match digitsValue? digits with
  | none => none
  | some v =>
    let n : Int := if negative then -(v : Int) else v
    if fitsInt64 n then some (Int64.ofInt n) else none

end WordLang

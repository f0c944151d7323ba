namespace WordLang.Text

structure CharRanges where
  ranges : Array (Nat × Nat)

namespace CharRanges

def search (rs : Array (Nat × Nat)) (n lo hi : Nat) : Bool :=
  if h : lo < hi then
    let mid := (lo + hi) / 2
    have : mid < hi := by omega
    have : mid - lo < hi - lo := by omega
    match rs[mid]? with
    | none => false
    | some (a, b) =>
      if n < a then search rs n lo mid
      else if b < n then search rs n (mid + 1) hi
      else true
  else false
termination_by hi - lo

def contains (t : CharRanges) (c : Char) : Bool :=
  search t.ranges c.toNat 0 t.ranges.size

end CharRanges

end WordLang.Text

import WordLang.Proofs.Payloads
import WordLang.Proofs.Segments

namespace WordLang

def closingQuoteFrom : Nat → Bool → List Char → Option Nat
  | _, _, [] => none
  | offset, escaped, c :: cs =>
    if escaped then closingQuoteFrom (offset + c.utf8Size) false cs
    else if c == '\\' then closingQuoteFrom (offset + c.utf8Size) true cs
    else if c == '"' then some offset
    else closingQuoteFrom (offset + c.utf8Size) false cs

def closingQuote? : List Char → Option Nat
  | [] => none
  | c :: cs => closingQuoteFrom c.utf8Size false cs

theorem closingQuoteFrom_body {escaped : Bool} {body : List Char} (hb : StrBody escaped body)
    (offset : Nat) (tail : List Char) :
    closingQuoteFrom offset escaped (body ++ tail) =
      closingQuoteFrom (offset + byteLength body) false tail := by
  induction hb generalizing offset with
  | nil => simp
  | escaped _ ih => simp [closingQuoteFrom, ih, Nat.add_assoc]
  | backslash _ ih => simp [closingQuoteFrom, ih, Nat.add_assoc]
  | plain hq hbs _ ih => simp [closingQuoteFrom, hq, hbs, ih, Nat.add_assoc]

theorem closingQuote?_pattern {body : List Char} (hb : StrBody false body) :
    closingQuote? ('"' :: (body ++ ['"'])) = some (byteLength ('"' :: body)) ∧
      closingQuote? ('"' :: body) = none ∧ closingQuote? ('"' :: (body ++ ['\\'])) = none := by
  have hopen : ∀ tail, closingQuote? ('"' :: (body ++ tail)) =
      closingQuoteFrom (1 + byteLength body) false tail := fun tail ↦ by
    simp only [closingQuote?, utf8Size_quote, closingQuoteFrom_body hb]
  refine ⟨?_, ?_, ?_⟩
  · rw [hopen]
    simp [closingQuoteFrom]
  · simpa [closingQuoteFrom] using hopen []
  · rw [hopen]
    simp [closingQuoteFrom]

theorem tokenize_closingQuote {src : String} {ts : List Token} (h : tokenize src = .ok ts) :
    ∀ t ∈ ts, t.kind = .str → closingQuote? t.text.toList = some (t.text.utf8ByteSize - 1) := by
  intro t ht hk
  have hlex := (tokenize_segments h).lexeme t ht
  rw [hk] at hlex
  rw [← byteLength_toList]
  generalize t.text.toList = cs at hlex ⊢
  cases hlex with
  | str hb =>
    rw [(closingQuote?_pattern hb).1]
    simp [Nat.add_comm]

theorem Kind.isDigit_of_ofSuffix? {s : Char} {k : Kind} (h : Kind.ofSuffix? s = some k) :
    s.isDigit = false := by
  unfold Kind.ofSuffix? at h
  split at h <;> cases h <;> decide

theorem immediate_digits {text : String} {c s : Char} {rest : List Char} {k : Kind}
    (htext : text.toList = c :: rest) (hc : c.isDigit = true)
    (hs : text.toList.getLast? = some s) (hk : Kind.ofSuffix? s = some k) :
    0 < text.utf8ByteSize - s.utf8Size ∧
      (⟨text.utf8ByteSize - s.utf8Size⟩ : String.Pos.Raw).IsValid text ∧
      String.ofList text.toList.dropLast ++ String.singleton s = text ∧
      (String.ofList text.toList.dropLast).utf8ByteSize = text.utf8ByteSize - s.utf8Size := by
  -- the suffix is a letter, so it is not the leading digit: the digits keep that digit
  have hrest : rest ≠ [] := by
    rintro rfl
    rw [htext] at hs
    have hsc : s = c := by simpa using hs.symm
    rw [← hsc, Kind.isDigit_of_ofSuffix? hk] at hc
    cases hc
  have hdigits : text.toList.dropLast ≠ [] := by
    rw [htext, List.dropLast_cons_of_ne_nil hrest]
    exact List.cons_ne_nil _ _
  have hsplit : String.ofList text.toList.dropLast ++ String.singleton s = text := by
    conv_rhs => rw [← String.ofList_toList (s := text), ← List.dropLast_append_getLast? s hs]
    rw [String.ofList_append, String.singleton_eq_ofList]
  have hsize : (String.ofList text.toList.dropLast).utf8ByteSize =
      text.utf8ByteSize - s.utf8Size := by
    conv_rhs => rw [← hsplit, String.utf8ByteSize_append, String.utf8ByteSize_singleton]
    omega
  have hpos := byteLength_pos hdigits
  refine ⟨by rw [← hsize]; exact hpos, ?_, hsplit, hsize⟩
  exact String.Pos.Raw.isValid_iff_exists_append.2
    ⟨_, _, hsplit.symm, by rw [← hsize]; rfl⟩

theorem Kind.isNumeric_of_ofSuffix? {s : Char} {k : Kind} (h : Kind.ofSuffix? s = some k) :
    k.isNumeric = true := by
  unfold Kind.ofSuffix? at h
  split at h <;> cases h <;> rfl

namespace Builtin

theorem apply_int_isNumeric {b : Builtin} {args : List Variable} {span : Span} {v : Variable}
    (h : b.apply args span = .ok (.value v)) {n : Int64} (hn : v.payload = .int n) :
    v.kind.isNumeric = true := by
  cases b with
  | add =>
    simp only [apply, bind, Except.bind] at h
    split at h
    · cases h
    · split at h
      · cases h
      · cases h
        rfl
  | print =>
    simp only [apply, bind, Except.bind] at h
    split at h
    · cases h
    · split at h <;> cases h
  | gt =>
    obtain ⟨b, rfl⟩ := compare_value h
    cases hn
  | lt =>
    obtain ⟨b, rfl⟩ := compare_value h
    cases hn
  | address =>
    cases h
    rfl

theorem apply_print (args : List Variable) (span : Span) :
    apply .print args span =
      if h : args.length = 1 then .ok (.line args[0].render)
      else .error (.arity "print" "exactly 1 arguments" args.length span) := by
  rcases args with _ | ⟨v, _ | ⟨w, rest⟩⟩ <;> simp [apply, exactly, bind, Except.bind] <;> rfl

theorem compare_eq (callee : String) (rel : Int64 → Int64 → Bool) (args : List Variable)
    (span : Span) :
    compare callee rel args span =
      if h : args.length = 2 then do
        let x ← expectInteger callee span 1 args[0]
        let y ← expectInteger callee span 2 args[1]
        .ok (.value ⟨.bool, .bool (rel x y), 0⟩)
      else .error (.arity callee "exactly 2 arguments" args.length span) := by
  rcases args with _ | ⟨a, _ | ⟨b, _ | ⟨c, rest⟩⟩⟩ <;> simp [compare, exactly, bind, Except.bind] <;> rfl

end Builtin

/-- No input makes a check of the core fail. Every text the string-literal pattern matches
passes the literal's check, which finds an unescaped quote only as the closing one, at the last
byte, and every literal the scanner gives has that quote there. An immediate that starts with a
digit and ends with the suffix of a kind has digits that are not empty and end at a character
boundary, and those digits are what is read. A variable is made with an integer only under a
numeric kind. And `print`, `gt` and `lt` take their arguments by position only once they have
counted them. -/
theorem checks_always_pass :
    (∀ body, StrBody false body →
      closingQuote? ('"' :: (body ++ ['"'])) = some (byteLength ('"' :: body)) ∧
        closingQuote? ('"' :: body) = none ∧ closingQuote? ('"' :: (body ++ ['\\'])) = none) ∧
    (∀ src ts, tokenize src = .ok ts → ∀ t ∈ ts, t.kind = .str →
      closingQuote? t.text.toList = some (t.text.utf8ByteSize - 1)) ∧
    (∀ (text : String) c rest s k, text.toList = c :: rest → c.isDigit = true →
      text.toList.getLast? = some s → Kind.ofSuffix? s = some k →
      0 < text.utf8ByteSize - s.utf8Size ∧
        (⟨text.utf8ByteSize - s.utf8Size⟩ : String.Pos.Raw).IsValid text ∧
        String.ofList text.toList.dropLast ++ String.singleton s = text ∧
        (String.ofList text.toList.dropLast).utf8ByteSize = text.utf8ByteSize - s.utf8Size) ∧
    (∀ s k, Kind.ofSuffix? s = some k → k.isNumeric = true) ∧
    (∀ (b : Builtin) args span v n, b.apply args span = .ok (.value v) → v.payload = .int n →
      v.kind.isNumeric = true) ∧
    (∀ args span, Builtin.apply .print args span =
      if h : args.length = 1 then .ok (.line args[0].render)
      else .error (.arity "print" "exactly 1 arguments" args.length span)) ∧
    (∀ args span, Builtin.apply .gt args span =
      if h : args.length = 2 then do
        let x ← Builtin.expectInteger "gt" span 1 args[0]
        let y ← Builtin.expectInteger "gt" span 2 args[1]
        .ok (.value ⟨.bool, .bool (decide (y < x)), 0⟩)
      else .error (.arity "gt" "exactly 2 arguments" args.length span)) ∧
    ∀ args span, Builtin.apply .lt args span =
      if h : args.length = 2 then do
        let x ← Builtin.expectInteger "lt" span 1 args[0]
        let y ← Builtin.expectInteger "lt" span 2 args[1]
        .ok (.value ⟨.bool, .bool (decide (x < y)), 0⟩)
      else .error (.arity "lt" "exactly 2 arguments" args.length span) :=
  ⟨fun _ hb ↦ closingQuote?_pattern hb, fun _ _ h ↦ tokenize_closingQuote h,
    fun _ _ _ _ _ htext hc hs hk ↦ immediate_digits htext hc hs hk,
    fun _ _ hk ↦ Kind.isNumeric_of_ofSuffix? hk,
    fun _ _ _ _ _ h hn ↦ Builtin.apply_int_isNumeric h hn, Builtin.apply_print,
    Builtin.compare_eq "gt" _, Builtin.compare_eq "lt" _⟩

end WordLang

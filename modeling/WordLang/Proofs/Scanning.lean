import Mathlib.Tactic.SplitIfs
import WordLang.Syntax.Parser

namespace WordLang

section Outcomes

variable {ε ε' α β : Type} (f : α → β) (g : ε → ε')

@[simp] theorem except_map_ok (a : α) : (Except.ok a : Except ε α).map f = .ok (f a) := rfl

@[simp] theorem except_map_error (e : ε) : (Except.error e : Except ε α).map f = .error e := rfl

@[simp] theorem except_mapError_ok (a : α) : (Except.ok a : Except ε α).mapError g = .ok a := rfl

@[simp] theorem except_mapError_error (e : ε) :
    (Except.error e : Except ε α).mapError g = .error (g e) := rfl

end Outcomes

namespace Span

def shift (k : Nat) (s : Span) : Span := ⟨s.start + k, s.stop + k⟩

@[simp] theorem shift_zero (s : Span) : s.shift 0 = s := rfl

theorem merge_shift (k : Nat) (a b : Span) :
    (a.shift k).merge (b.shift k) = (a.merge b).shift k := by
  simp only [merge, shift, Span.mk.injEq]
  omega

end Span

def Token.shift (k : Nat) (t : Token) : Token := { t with span := t.span.shift k }

def LexError.shift (k : Nat) (e : LexError) : LexError := { e with span := e.span.shift k }

@[simp] theorem Token.shift_zero : Token.shift 0 = id := rfl

@[simp] theorem Token.kind_shift (k : Nat) (t : Token) : (t.shift k).kind = t.kind := rfl

@[simp] theorem Token.text_shift (k : Nat) (t : Token) : (t.shift k).text = t.text := rfl

@[simp] theorem Token.span_shift (k : Nat) (t : Token) : (t.shift k).span = t.span.shift k := rfl

@[simp] theorem LexError.shift_zero : LexError.shift 0 = id := rfl

namespace ScanState

def shift (k : Nat) : ScanState → ScanState
  | .gap => .gap
  | .word start chars => .word (start + k) chars
  | .comment => .comment
  | .str start chars escaped => .str (start + k) chars escaped

@[simp] theorem shift_zero (st : ScanState) : st.shift 0 = st := by
  cases st <;> rfl

section Moving

variable (k : Nat)

@[simp] theorem shift_gap : ScanState.gap.shift k = .gap := rfl

@[simp] theorem shift_comment : ScanState.comment.shift k = .comment := rfl

@[simp] theorem shift_word (start : Nat) (chars : List Char) :
    (ScanState.word start chars).shift k = .word (start + k) chars := rfl

@[simp] theorem shift_str (start : Nat) (chars : List Char) (escaped : Bool) :
    (ScanState.str start chars escaped).shift k = .str (start + k) chars escaped := rfl

theorem wordToken_shift (start stop : Nat) (chars : List Char) :
    wordToken (start + k) (stop + k) chars = (wordToken start stop chars).shift k := rfl

theorem begin_shift (c : Char) (pos : Nat) (toks acc : List Token) :
    begin c (pos + k) (toks.map (Token.shift k) ++ acc) =
      ((begin c pos toks).map fun p ↦ (p.1.shift k, p.2.map (Token.shift k) ++ acc)).mapError
        (LexError.shift k) := by
  -- every token or fault `begin` makes spans the one character at `pos`
  have hspan : (⟨pos + k, pos + k + c.utf8Size⟩ : Span) = Span.shift k ⟨pos, pos + c.utf8Size⟩ := by
    rw [Span.shift, Nat.add_right_comm]
  unfold ScanState.begin
  split_ifs <;> simp [hspan, Token.shift, LexError.shift]

theorem finish_shift (st : ScanState) (pos : Nat) (toks acc : List Token) :
    finish (st.shift k) (pos + k) (toks.map (Token.shift k) ++ acc) =
      ((finish st pos toks).map fun ts ↦ acc.reverse ++ ts.map (Token.shift k)).mapError
        (LexError.shift k) := by
  cases st with
  | gap => simp [finish, List.map_reverse]
  | comment => simp [finish, List.map_reverse]
  | word start chars => simp [finish, List.map_reverse, wordToken_shift]
  | str start chars escaped => simp [finish, LexError.shift, Span.shift]

theorem run_shift (cs : List Char) : ∀ (st : ScanState) (pos : Nat) (toks acc : List Token),
    run (st.shift k) (pos + k) cs (toks.map (Token.shift k) ++ acc) =
      ((run st pos cs toks).map fun ts ↦ acc.reverse ++ ts.map (Token.shift k)).mapError
        (LexError.shift k) := by
  induction cs with
  | nil => intro st pos toks acc; exact finish_shift k st pos toks acc
  | cons c cs ih =>
    intro st pos toks acc
    have hnext : pos + k + c.utf8Size = pos + c.utf8Size + k := by omega
    cases st with
    | gap =>
      simp only [run, shift_gap, begin_shift, bind, Except.bind]
      cases begin c pos toks with
      | error e => rfl
      | ok p => simp only [except_map_ok, except_mapError_ok]; rw [hnext, ih]
    | word start chars =>
      simp only [run, shift_word]
      split_ifs with hw
      · rw [hnext, ← shift_word, ih]
      · simp only [bind, Except.bind]
        rw [wordToken_shift, ← List.cons_append, ← List.map_cons, begin_shift]
        cases begin c pos (wordToken start pos chars :: toks) with
        | error e => rfl
        | ok p => simp only [except_map_ok, except_mapError_ok]; rw [hnext, ih]
    | comment =>
      simp only [run, shift_comment]
      rw [hnext]
      split
      · exact ih .gap _ _ _
      · exact ih .comment _ _ _
    | str start chars escaped =>
      simp only [run, shift_str]
      -- the literal's token, closed at the next byte, is moved with the rest
      have htok : (⟨.str, String.ofList (c :: chars).reverse, ⟨start + k, pos + c.utf8Size + k⟩⟩
          : Token) = Token.shift k ⟨.str, String.ofList (c :: chars).reverse,
            ⟨start, pos + c.utf8Size⟩⟩ := rfl
      split_ifs
      · rw [hnext, ← shift_str, ih]
      · rw [hnext, ← shift_str, ih]
      · rw [hnext, htok, ← List.cons_append, ← List.map_cons, ← shift_gap k, ih, shift_gap]
      · rw [hnext, ← shift_str, ih]

end Moving

theorem run_accum (st : ScanState) (pos : Nat) (cs : List Char) (toks : List Token) :
    run st pos cs toks = (run st pos cs []).map (toks.reverse ++ ·) := by
  have h := run_shift 0 cs st pos [] toks
  simp only [shift_zero, Nat.add_zero, List.map_nil, List.nil_append, Token.shift_zero,
    List.map_id, LexError.shift_zero] at h
  rw [h]
  cases run st pos cs [] <;> rfl

theorem run_append_newline {cs : List Char} (rest : List Char) :
    ∀ {st : ScanState} {pos : Nat} {toks ts : List Token}, run st pos cs toks = .ok ts →
      run st pos (cs ++ '\n' :: rest) toks =
        run .gap (pos + (String.ofList cs).utf8ByteSize + 1) rest ts.reverse := by
  induction cs with
  | nil =>
    intro st pos toks ts h
    have hnl : Text.isBlank '\n' = true ∧ isWordChar '\n' = false ∧ '\n'.utf8Size = 1 := by
      decide
    cases st with
    | gap =>
      simp only [run, finish, Except.ok.injEq] at h
      subst h
      simp [run, ScanState.begin, hnl.1, hnl.2.2, bind, Except.bind]
    | comment =>
      simp only [run, finish, Except.ok.injEq] at h
      subst h
      simp [run, hnl.2.2]
    | word start chars =>
      simp only [run, finish, Except.ok.injEq] at h
      subst h
      simp [run, ScanState.begin, hnl.1, hnl.2.1, hnl.2.2, bind, Except.bind]
    | str start chars escaped => simp [run, finish] at h
  | cons c cs ih =>
    intro st pos toks ts h
    have hpos : pos + (String.ofList (c :: cs)).utf8ByteSize + 1 =
        pos + c.utf8Size + (String.ofList cs).utf8ByteSize + 1 := by
      simp only [String.ofList_cons, String.utf8ByteSize_append, String.utf8ByteSize_singleton]
      omega
    rw [List.cons_append, hpos]
    cases st with
    | gap =>
      simp only [run, bind, Except.bind] at h ⊢
      split at h
      · cases h
      · exact ih h
    | word start chars =>
      simp only [run] at h ⊢
      split_ifs at h ⊢
      · exact ih h
      · simp only [bind, Except.bind] at h ⊢
        split at h
        · cases h
        · exact ih h
    | comment =>
      simp only [run] at h ⊢
      exact ih h
    | str start chars escaped =>
      simp only [run] at h ⊢
      split_ifs at h ⊢ <;> exact ih h

end ScanState

theorem tokenize_append_newline {s t : String} {ts us : List Token} (hs : tokenize s = .ok ts)
    (ht : tokenize t = .ok us) :
    tokenize (s ++ "\n" ++ t) = .ok (ts ++ us.map (Token.shift (s.utf8ByteSize + 1))) := by
  have hjoin : (s ++ "\n" ++ t).toList = s.toList ++ '\n' :: t.toList := by
    simp [String.toList_append]
  unfold tokenize at hs ht ⊢
  rw [hjoin, ScanState.run_append_newline t.toList hs, String.ofList_toList, Nat.zero_add]
  have h := ScanState.run_shift (s.utf8ByteSize + 1) t.toList .gap 0 [] ts.reverse
  simp only [ScanState.shift_gap, Nat.zero_add, List.map_nil, List.nil_append, ht,
    except_map_ok, except_mapError_ok] at h
  rw [h, List.reverse_reverse]

def ParseError.shift (k : Nat) : ParseError → ParseError
  | .unbalancedClose s => .unbalancedClose (s.shift k)
  | .unbalancedParen s => .unbalancedParen (s.shift k)
  | .lex e => .lex (e.shift k)

namespace Node

section Step

variable {t : Token} (ts : List Token) (done : List Node)

theorem build_openParen (hk : t.kind = .openParen) (opened : List OpenList) :
    build opened done (t :: ts) = build ((t.span, []) :: opened) done ts := by
  cases opened <;> simp [build, hk]

theorem build_closeParen_nil (hk : t.kind = .closeParen) :
    build [] done (t :: ts) = .error (.unbalancedClose t.span) := by
  simp [build, hk]

theorem build_closeParen_cons (hk : t.kind = .closeParen) (o : Span) (items : List Node)
    (rest : List OpenList) :
    build ((o, items) :: rest) done (t :: ts) =
      build (place (.list items.reverse (o.merge t.span)) rest done).1
        (place (.list items.reverse (o.merge t.span)) rest done).2 ts := by
  simp [build, hk]

theorem build_atom (ho : t.kind ≠ .openParen) (hc : t.kind ≠ .closeParen)
    (opened : List OpenList) :
    build opened done (t :: ts) =
      build (place (ofAtomToken t) opened done).1 (place (ofAtomToken t) opened done).2 ts := by
  cases hk : t.kind <;> first | exact absurd hk ho | exact absurd hk hc | cases opened <;> simp [build, hk]

end Step

mutual

def mapSpans (f : Span → Span) : Node → Node
  | .int n s => .int n (f s)
  | .atom t s => .atom t (f s)
  | .list items s => .list (mapSpansAll f items) (f s)

def mapSpansAll (f : Span → Span) : List Node → List Node
  | [] => []
  | n :: rest => mapSpans f n :: mapSpansAll f rest

end

@[simp] theorem mapSpansAll_eq (f : Span → Span) (ns : List Node) :
    mapSpansAll f ns = ns.map (mapSpans f) := by
  induction ns with
  | nil => rfl
  | cons n rest ih => rw [mapSpansAll, ih, List.map_cons]

@[simp] theorem span_mapSpans (f : Span → Span) (n : Node) : (n.mapSpans f).span = f n.span := by
  cases n <;> rfl

section Moving

variable (k : Nat)

def shiftOpen (o : OpenList) : OpenList := (o.1.shift k, o.2.map (mapSpans (Span.shift k)))

theorem ofAtomToken_shift (t : Token) :
    ofAtomToken (t.shift k) = (ofAtomToken t).mapSpans (Span.shift k) := by
  unfold ofAtomToken
  rw [Token.text_shift]
  cases readInt64? t.text <;> rfl

theorem place_shift (n : Node) (opened : List OpenList) (done : List Node) :
    place (n.mapSpans (Span.shift k)) (opened.map (shiftOpen k)) (done.map (mapSpans (Span.shift k)))
      = ((place n opened done).1.map (shiftOpen k),
          (place n opened done).2.map (mapSpans (Span.shift k))) := by
  cases opened <;> rfl

theorem closed_shift (o : Span) (items : List Node) (t : Token) :
    Node.list (items.map (mapSpans (Span.shift k))).reverse ((o.shift k).merge (t.shift k).span) =
      (Node.list items.reverse (o.merge t.span)).mapSpans (Span.shift k) := by
  simp [mapSpans, Span.merge_shift, List.map_reverse]

theorem build_shift (ts : List Token) : ∀ (opened : List OpenList) (done : List Node),
    build (opened.map (shiftOpen k)) (done.map (mapSpans (Span.shift k))) (ts.map (Token.shift k)) =
      ((build opened done ts).map (·.map (mapSpans (Span.shift k)))).mapError (ParseError.shift k)
    := by
  induction ts with
  | nil =>
    intro opened done
    cases opened with
    | nil => simp [build, List.map_reverse]
    | cons o rest => simp [build, shiftOpen, ParseError.shift]
  | cons t ts ih =>
    intro opened done
    rw [List.map_cons]
    -- the reader's step is decided by the token's class, which moving keeps
    by_cases ho : t.kind = .openParen
    · rw [build_openParen _ _ (by simpa using ho), build_openParen _ _ ho]
      exact ih ((t.span, []) :: opened) done
    by_cases hc : t.kind = .closeParen
    · rcases opened with _ | ⟨⟨o, items⟩, rest⟩
      · rw [List.map_nil, build_closeParen_nil _ _ (by simpa using hc), build_closeParen_nil _ _ hc]
        rfl
      · rw [List.map_cons, shiftOpen, build_closeParen_cons _ _ (by simpa using hc),
          build_closeParen_cons _ _ hc, closed_shift, place_shift]
        exact ih _ _
    · rw [build_atom _ _ (by simpa using ho) (by simpa using hc), build_atom _ _ ho hc,
        ofAtomToken_shift, place_shift]
      exact ih _ _

end Moving

theorem place_done_append (n : Node) (opened : List OpenList) (done acc : List Node) :
    place n opened (done ++ acc) = ((place n opened done).1, (place n opened done).2 ++ acc) := by
  cases opened <;> rfl

theorem build_done_append (ts : List Token) : ∀ (opened : List OpenList) (done acc : List Node),
    build opened (done ++ acc) ts = (build opened done ts).map (acc.reverse ++ ·) := by
  induction ts with
  | nil =>
    intro opened done acc
    cases opened <;> simp [build]
  | cons t ts ih =>
    intro opened done acc
    by_cases ho : t.kind = .openParen
    · rw [build_openParen _ _ ho, build_openParen _ _ ho]
      exact ih _ _ _
    by_cases hc : t.kind = .closeParen
    · rcases opened with _ | ⟨⟨o, items⟩, rest⟩
      · rw [build_closeParen_nil _ _ hc, build_closeParen_nil _ _ hc]
        rfl
      · rw [build_closeParen_cons _ _ hc, build_closeParen_cons _ _ hc, place_done_append]
        exact ih _ _ _
    · rw [build_atom _ _ ho hc, build_atom _ _ ho hc, place_done_append]
      exact ih _ _ _

theorem build_append {ts : List Token} (rest : List Token) :
    ∀ {opened : List OpenList} {done prog : List Node}, build opened done ts = .ok prog →
      build opened done (ts ++ rest) = build [] prog.reverse rest := by
  induction ts with
  | nil =>
    intro opened done prog h
    cases opened with
    | nil =>
      simp only [build, Except.ok.injEq] at h
      rw [← h, List.reverse_reverse]
      rfl
    | cons o rest => simp [build] at h
  | cons t ts ih =>
    intro opened done prog h
    rw [List.cons_append]
    by_cases ho : t.kind = .openParen
    · rw [build_openParen _ _ ho] at h ⊢
      exact ih h
    by_cases hc : t.kind = .closeParen
    · rcases opened with _ | ⟨⟨o, items⟩, rest⟩
      · rw [build_closeParen_nil _ _ hc] at h
        cases h
      · rw [build_closeParen_cons _ _ hc] at h ⊢
        exact ih h
    · rw [build_atom _ _ ho hc] at h ⊢
      exact ih h

end Node

theorem parseProgram_append_newline {s t : String} {p q : List Node}
    (hs : parseProgram s = .ok p) (ht : parseProgram t = .ok q) :
    parseProgram (s ++ "\n" ++ t) =
      .ok (p ++ q.map (Node.mapSpans (Span.shift (s.utf8ByteSize + 1)))) := by
  unfold parseProgram at hs ht ⊢
  split at hs
  · cases hs
  rename_i ts hts
  split at ht
  · cases ht
  rename_i us hus
  rw [tokenize_append_newline hts hus]
  dsimp only
  unfold Node.ofTokens at hs ht ⊢
  have hq := Node.build_shift (s.utf8ByteSize + 1) us [] []
  simp only [List.map_nil, ht, except_map_ok, except_mapError_ok] at hq
  rw [Node.build_append _ hs, ← List.nil_append p.reverse, Node.build_done_append, hq,
    List.reverse_reverse]
  rfl

end WordLang

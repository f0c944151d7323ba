import WordLang.Proofs.Printing

namespace WordLang

@[simp] theorem utf8Size_backslash : '\\'.utf8Size = 1 := rfl

inductive OpenStr : Bool → List Char → Prop
  | nil {escaped : Bool} : OpenStr escaped []
  | escaped {c : Char} {cs : List Char} : OpenStr false cs → OpenStr true (c :: cs)
  | backslash {cs : List Char} : OpenStr true cs → OpenStr false ('\\' :: cs)
  | plain {c : Char} {cs : List Char} : c ≠ '"' → c ≠ '\\' → OpenStr false cs →
      OpenStr false (c :: cs)

theorem openStr_iff {escaped : Bool} {cs : List Char} :
    OpenStr escaped cs ↔ ∀ lit rest, cs = lit ++ '"' :: rest → ¬ StrBody escaped lit := by
  constructor
  · intro h
    induction h with
    | nil => intro lit rest h; simp at h
    | @escaped c cs _ ih =>
      rintro lit rest hcs hlit
      cases hlit with
      | @escaped d lit hlit =>
        simp only [List.cons_append, List.cons.injEq] at hcs
        exact ih lit rest hcs.2 hlit
    | @backslash cs _ ih =>
      rintro lit rest hcs hlit
      cases hlit with
      | nil => simp at hcs
      | @backslash lit hlit =>
        simp only [List.cons_append, List.cons.injEq] at hcs
        exact ih lit rest hcs.2 hlit
      | @plain d lit _ hd _ =>
        simp only [List.cons_append, List.cons.injEq] at hcs
        exact hd hcs.1.symm
    | @plain c cs hq hbs _ ih =>
      rintro lit rest hcs hlit
      cases hlit with
      | nil =>
        simp only [List.nil_append, List.cons.injEq] at hcs
        exact hq hcs.1
      | @backslash lit _ =>
        simp only [List.cons_append, List.cons.injEq] at hcs
        exact hbs hcs.1
      | @plain d lit _ _ hlit =>
        simp only [List.cons_append, List.cons.injEq] at hcs
        exact ih lit rest hcs.2 hlit
  · intro h
    induction cs generalizing escaped with
    | nil => exact .nil
    | cons c cs ih =>
      cases escaped with
      | true =>
        -- the escaped character is read whatever it is
        refine .escaped (ih fun lit rest hcs hlit ↦ ?_)
        exact h (c :: lit) rest (by rw [hcs, List.cons_append]) (.escaped hlit)
      | false =>
        by_cases hq : c = '"'
        · exact absurd .nil (h [] cs (by rw [hq, List.nil_append]))
        by_cases hbs : c = '\\'
        · subst hbs
          refine .backslash (ih fun lit rest hcs hlit ↦ ?_)
          exact h ('\\' :: lit) rest (by rw [hcs, List.cons_append]) (.backslash hlit)
        · refine .plain hq hbs (ih fun lit rest hcs hlit ↦ ?_)
          exact h (c :: lit) rest (by rw [hcs, List.cons_append]) (.plain hq hbs hlit)

/-- `FirstFault pos cs e`: read from byte `pos` between tokens, the characters `cs` are gaps and
whole tokens up to their first fault, `e`: a backslash between tokens, or a double quote whose
literal runs on to the end of the text. -/
inductive FirstFault : Nat → List Char → LexError → Prop
  | escape {pos : Nat} {g rest : List Char} : Gap g →
      FirstFault pos (g ++ '\\' :: rest)
        ⟨.strayEscape, ⟨pos + byteLength g, pos + byteLength g + 1⟩⟩
  | unterminated {pos : Nat} {g body : List Char} : Gap g → OpenStr false body →
      FirstFault pos (g ++ '"' :: body)
        ⟨.unterminatedString, ⟨pos + byteLength g, pos + byteLength g + 1 + byteLength body⟩⟩
  | token {pos : Nat} {g cs rest : List Char} {k : TokenKind} {e : LexError} : Gap g →
      Lexeme k cs → (k = .word → ∀ c ∈ rest.head?, isWordChar c = false) →
      FirstFault (pos + byteLength g + byteLength cs) rest e → FirstFault pos (g ++ cs ++ rest) e

namespace FirstFault

variable {pos : Nat} {cs : List Char} {e : LexError}

theorem prepend {g₀ : List Char} (h₀ : Gap g₀) (h : FirstFault (pos + byteLength g₀) cs e) :
    FirstFault pos (g₀ ++ cs) e := by
  cases h with
  | @escape _ g rest hg =>
    have h' := @FirstFault.escape pos (g₀ ++ g) rest (h₀.append hg)
    simpa [Nat.add_assoc] using h'
  | @unterminated _ g body hg ho =>
    have h' := @FirstFault.unterminated pos (g₀ ++ g) body (h₀.append hg) ho
    simpa [Nat.add_assoc] using h'
  | @token _ g cs rest k e hg hlex hword hrest =>
    have h' := @FirstFault.token pos (g₀ ++ g) cs rest k e (h₀.append hg) hlex hword
      (by simpa [Nat.add_assoc] using hrest)
    simpa using h'

theorem lead {k : TokenKind} {rest : List Char} (hlex : Lexeme k cs)
    (hword : k = .word → ∀ c ∈ rest.head?, isWordChar c = false)
    (h : FirstFault (pos + byteLength cs) rest e) : FirstFault pos (cs ++ rest) e := by
  have h' := @FirstFault.token pos [] cs rest k e .nil hlex hword (by simpa using h)
  simpa using h'

theorem at_fault (h : FirstFault pos cs e) :
    (∃ pre post, cs = pre ++ '\\' :: post ∧
      e = ⟨.strayEscape, ⟨pos + byteLength pre, pos + byteLength pre + 1⟩⟩) ∨
    (∃ pre body, cs = pre ++ '"' :: body ∧ OpenStr false body ∧
      e = ⟨.unterminatedString, ⟨pos + byteLength pre, pos + byteLength cs⟩⟩) := by
  induction h with
  | escape => exact .inl ⟨_, _, rfl, rfl⟩
  | @unterminated pos g body _ ho =>
    refine .inr ⟨g, body, rfl, ho, ?_⟩
    simp [Nat.add_assoc]
  | @token pos g cs rest k e _ _ _ _ ih =>
    rcases ih with ⟨pre, post, rfl, rfl⟩ | ⟨pre, body, rfl, ho, rfl⟩
    · exact .inl ⟨g ++ cs ++ pre, post, by simp, by simp [Nat.add_assoc]⟩
    · exact .inr ⟨g ++ cs ++ pre, body, by simp, ho, by simp [Nat.add_assoc]⟩

end FirstFault

namespace ScanState

def Fails : ScanState → Nat → List Char → LexError → Prop
  | .gap, pos, cs, e => FirstFault pos cs e
  | .comment, pos, cs, e =>
    ∃ body rest, cs = body ++ '\n' :: rest ∧ '\n' ∉ body ∧
      FirstFault (pos + byteLength body + 1) rest e
  | .word _ _, pos, cs, e =>
    ∃ w rest, cs = w ++ rest ∧ (∀ c ∈ w, isWordChar c = true) ∧
      (∀ c ∈ rest.head?, isWordChar c = false) ∧ FirstFault (pos + byteLength w) rest e
  | .str start _ escaped, pos, cs, e =>
    (∃ body rest, cs = body ++ '"' :: rest ∧ StrBody escaped body ∧
      FirstFault (pos + byteLength body + 1) rest e) ∨
    (OpenStr escaped cs ∧ e = ⟨.unterminatedString, ⟨start, pos + byteLength cs⟩⟩)

@[simp] theorem fails_gap {pos : Nat} {cs : List Char} {e : LexError} :
    gap.Fails pos cs e ↔ FirstFault pos cs e := Iff.rfl

theorem begin_eq_error {c : Char} {pos : Nat} {toks : List Token} {e : LexError}
    (h : begin c pos toks = .error e) : c = '\\' ∧ e = ⟨.strayEscape, ⟨pos, pos + 1⟩⟩ := by
  unfold begin at h
  split_ifs at h with hblank hsemi hopen hclose hquote hesc
  all_goals cases h
  obtain rfl : c = '\\' := by simpa using hesc
  exact ⟨rfl, rfl⟩

theorem fails_begin {c : Char} {pos : Nat} {cs : List Char} {toks toks' : List Token}
    {st : ScanState} {e : LexError} (hb : begin c pos toks = .ok (st, toks'))
    (hf : st.Fails (pos + c.utf8Size) cs e) : FirstFault pos (c :: cs) e := by
  unfold begin at hb
  split_ifs at hb with hblank hsemi hopen hclose hquote hesc hword <;> cases hb
  · -- a blank joins the gap
    have h : FirstFault pos ([c] ++ cs) e := FirstFault.prepend (.blank hblank .nil) (by simpa using hf)
    exact h
  · -- a comment joins the gap
    obtain rfl : c = ';' := by simpa using hsemi
    obtain ⟨body, rest, rfl, hnl, hrest⟩ := hf
    have hlen : byteLength (';' :: (body ++ ['\n'])) = 1 + byteLength body + 1 := by
      simp only [byteLength_cons, byteLength_append, byteLength_nil, utf8Size_semicolon,
        utf8Size_newline]
      omega
    have h : FirstFault pos ((';' :: (body ++ ['\n'])) ++ rest) e :=
      FirstFault.prepend (.comment hnl .nil)
        (by rw [hlen, ← Nat.add_assoc, ← Nat.add_assoc]; simpa using hrest)
    simpa using h
  · obtain rfl : c = '(' := by simpa using hopen
    have h : FirstFault pos (['('] ++ cs) e := FirstFault.lead .openParen (by simp) (by simpa using hf)
    exact h
  · obtain rfl : c = ')' := by simpa using hclose
    have h : FirstFault pos ([')'] ++ cs) e := FirstFault.lead .closeParen (by simp) (by simpa using hf)
    exact h
  · -- a string literal either closes before the fault or runs on to the end
    obtain rfl : c = '"' := by simpa using hquote
    rcases hf with ⟨body, rest, rfl, hbody, hrest⟩ | ⟨hopen', rfl⟩
    · have h : FirstFault pos (('"' :: (body ++ ['"'])) ++ rest) e :=
        FirstFault.lead (.str hbody) (by simp) (by simpa [Nat.add_assoc] using hrest)
      simpa using h
    · have h := @FirstFault.unterminated pos [] cs .nil hopen'
      simpa [Nat.add_assoc] using h
  · -- a word runs to the first character that cannot continue it
    obtain ⟨w, rest, rfl, hws, hnext, hrest⟩ := hf
    have h : FirstFault pos ((c :: w) ++ rest) e :=
      FirstFault.lead (.word (by simp) (List.forall_mem_cons.2 ⟨hword, hws⟩)) (fun _ ↦ hnext)
        (by simpa [Nat.add_assoc] using hrest)
    simpa using h
  · -- any other character is a punctuation token
    have hpunct : Lexeme .punct [c] :=
      .punct (by simpa using hblank) (by simpa using hsemi) (by simpa using hquote)
        (by simpa using hopen) (by simpa using hclose) (by simpa using hesc) (by simpa using hword)
    have h : FirstFault pos ([c] ++ cs) e := FirstFault.lead hpunct (by simp) (by simpa using hf)
    exact h

theorem run_fails (cs : List Char) :
    ∀ (st : ScanState) (pos : Nat) (toks : List Token) (e : LexError),
      run st pos cs toks = .error e → st.Fails pos cs e := by
  induction cs with
  | nil =>
    intro st pos toks e h
    cases st with
    | str start chars escaped =>
      simp only [run, finish, Except.error.injEq] at h
      exact .inr ⟨.nil, by simpa using h.symm⟩
    | _ => simp [run, finish] at h
  | cons c cs ih =>
    -- between tokens: the character is refused, or begins a gap, a comment or a token
    have hgap : ∀ pos toks e, run .gap pos (c :: cs) toks = .error e →
        FirstFault pos (c :: cs) e := by
      intro pos toks e h
      simp only [run, bind, Except.bind] at h
      split at h
      · rename_i e' hb
        cases h
        obtain ⟨rfl, rfl⟩ := begin_eq_error hb
        simpa using @FirstFault.escape pos [] cs .nil
      · rename_i p hb
        exact fails_begin hb (ih _ _ _ _ h)
    intro st pos toks e h
    cases st with
    | gap => exact hgap pos toks e h
    | word start chars =>
      by_cases hw : isWordChar c = true
      · rw [run_word_char hw] at h
        obtain ⟨w, rest, rfl, hws, hnext, hrest⟩ := ih _ _ _ _ h
        exact ⟨c :: w, rest, rfl, List.forall_mem_cons.2 ⟨hw, hws⟩, hnext,
          by simpa [Nat.add_assoc] using hrest⟩
      · rw [run_word_end (by simpa using hw)] at h
        exact ⟨[], c :: cs, rfl, by simp, by simpa using hw, by simpa using hgap pos _ e h⟩
    | comment =>
      simp only [run] at h
      by_cases hnl : c = '\n'
      · -- the line feed ends the comment
        subst hnl
        exact ⟨[], cs, rfl, List.not_mem_nil, by simpa using ih _ _ _ _ h⟩
      · simp only [beq_iff_eq, hnl, if_false] at h
        obtain ⟨body, rest, rfl, hbody, hrest⟩ := ih _ _ _ _ h
        refine ⟨c :: body, rest, rfl, ?_, by simpa [Nat.add_assoc] using hrest⟩
        simp [Ne.symm hnl, hbody]
    | str start chars escaped =>
      simp only [run] at h
      split_ifs at h with hesc hback hquote
      · -- the escaped character joins the body
        subst hesc
        rcases ih _ _ _ _ h with ⟨body, rest, rfl, hbody, hrest⟩ | ⟨hopen, rfl⟩
        · exact .inl ⟨c :: body, rest, rfl, .escaped hbody, by simpa [Nat.add_assoc] using hrest⟩
        · exact .inr ⟨.escaped hopen, by simp [Nat.add_assoc]⟩
      · -- a backslash escapes the next character
        obtain rfl : c = '\\' := by simpa using hback
        obtain rfl : escaped = false := by simpa using hesc
        rcases ih _ _ _ _ h with ⟨body, rest, rfl, hbody, hrest⟩ | ⟨hopen, rfl⟩
        · exact .inl ⟨'\\' :: body, rest, rfl, .backslash hbody,
            by simpa [Nat.add_assoc] using hrest⟩
        · exact .inr ⟨.backslash hopen, by simp [Nat.add_assoc]⟩
      · -- an unescaped quote closes the literal
        obtain rfl : c = '"' := by simpa using hquote
        obtain rfl : escaped = false := by simpa using hesc
        exact .inl ⟨[], cs, rfl, .nil, by simpa using ih _ _ _ _ h⟩
      · obtain rfl : escaped = false := by simpa using hesc
        have hq : c ≠ '"' := by simpa using hquote
        have hbs : c ≠ '\\' := by simpa using hback
        rcases ih _ _ _ _ h with ⟨body, rest, rfl, hbody, hrest⟩ | ⟨hopen, rfl⟩
        · exact .inl ⟨c :: body, rest, rfl, .plain hq hbs hbody,
            by simpa [Nat.add_assoc] using hrest⟩
        · exact .inr ⟨.plain hq hbs hopen, by simp [Nat.add_assoc]⟩

theorem run_gap_backslash (pos : Nat) (rest : List Char) (toks : List Token) :
    run .gap pos ('\\' :: rest) toks = .error ⟨.strayEscape, ⟨pos, pos + 1⟩⟩ := by
  simp [run, begin, bind, Except.bind, Text.isBlank]

theorem run_openStr {escaped : Bool} {cs : List Char} (h : OpenStr escaped cs) :
    ∀ start chars pos toks, run (.str start chars escaped) pos cs toks =
      .error ⟨.unterminatedString, ⟨start, pos + byteLength cs⟩⟩ := by
  induction h with
  | nil => intro start chars pos toks; simp [run, finish]
  | @escaped c cs _ ih =>
    intro start chars pos toks
    rw [run]
    simp only [if_true]
    rw [ih]
    simp [Nat.add_assoc]
  | @backslash cs _ ih =>
    intro start chars pos toks
    rw [run]
    simp only [Bool.false_eq_true, if_false, beq_self_eq_true, if_true]
    rw [ih]
    simp [Nat.add_assoc]
  | @plain c cs hq hbs _ ih =>
    intro start chars pos toks
    rw [run]
    simp only [Bool.false_eq_true, if_false, beq_iff_eq, hq, hbs]
    rw [ih]
    simp [Nat.add_assoc]

theorem run_firstFault {pos : Nat} {cs : List Char} {e : LexError} (h : FirstFault pos cs e)
    (toks : List Token) : run .gap pos cs toks = .error e := by
  induction h generalizing toks with
  | @escape pos g rest hg => rw [run_gap_append hg, run_gap_backslash]
  | @unterminated pos g body hg ho =>
    rw [run_gap_append hg, run, begin_quote]
    simp only [bind, Except.bind, utf8Size_quote]
    rw [run_openStr ho, Nat.add_assoc]
  | @token pos g cs rest k e hg hlex hword _ ih =>
    rw [List.append_assoc, run_gap_append hg, run_lexeme hlex hword]
    exact ih _

end ScanState

theorem tokenize_eq_error_iff {s : String} {e : LexError} :
    tokenize s = .error e ↔ FirstFault 0 s.toList e :=
  ⟨ScanState.run_fails s.toList .gap 0 [] e, fun h ↦ ScanState.run_firstFault h []⟩

/-- Scanning fails exactly at the first fault of the text, read from the left past gaps and
whole tokens: a backslash between tokens, a fault of its one byte, or a double quote whose
literal no later quote closes, a fault from the quote to the end of the text. No text fails for
a character that fits no token class. -/
theorem tokenize_fails_at_first_fault (s : String) (e : LexError) :
    (tokenize s = .error e ↔ FirstFault 0 s.toList e) ∧
    (tokenize s = .error e → e.fault ≠ .invalidToken ∧
      ((∃ pre post, s.toList = pre ++ '\\' :: post ∧
          e = ⟨.strayEscape, ⟨byteLength pre, byteLength pre + 1⟩⟩) ∨
        (∃ pre body, s.toList = pre ++ '"' :: body ∧
          (∀ lit rest, body = lit ++ '"' :: rest → ¬ StrBody false lit) ∧
          e = ⟨.unterminatedString, ⟨byteLength pre, s.utf8ByteSize⟩⟩))) := by
  refine ⟨tokenize_eq_error_iff, fun h ↦ ?_⟩
  rcases (tokenize_eq_error_iff.1 h).at_fault with ⟨pre, post, hs, rfl⟩ | ⟨pre, body, hs, ho, rfl⟩
  · exact ⟨by simp, .inl ⟨pre, post, hs, by simp⟩⟩
  · refine ⟨by simp, .inr ⟨pre, body, hs, openStr_iff.1 ho, ?_⟩⟩
    rw [← byteLength_toList, hs]
    simp

example : tokenize "(print \"oops" = .error ⟨.unterminatedString, ⟨7, 12⟩⟩ := by decide

end WordLang

import Std.Data.String.ToNat
import WordLang.Proofs.Scanning
import WordLang.Shell.LineReader

namespace WordLang

def ScanState.region : ScanState → CheckRegion
  | .gap => .code
  | .word .. => .code
  | .comment => .comment
  | .str _ _ escaped => .str escaped

namespace Verdict

def scanTokens (finish : Nat → Verdict) : Nat → List Token → Verdict
  | depth, [] => finish depth
  | depth, t :: ts =>
    match t.kind with
    | .openParen => scanTokens finish (depth + 1) ts
    | .closeParen =>
      if depth == 0 then
        .unbalanced ("  - ')' at byte " ++ toString t.span.start ++ " closes nothing")
      else scanTokens finish (depth - 1) ts
    | _ => scanTokens finish depth ts

def atEnd (depth : Nat) : Verdict := if depth > 0 then .incomplete else .complete

theorem scanTokens_append (finish : Nat → Verdict) (a b : List Token) :
    ∀ depth, scanTokens finish depth (a ++ b) =
      scanTokens (fun d ↦ scanTokens finish d b) depth a := by
  induction a with
  | nil => intro depth; rfl
  | cons t a ih =>
    intro depth
    simp only [List.cons_append, scanTokens]
    split
    · exact ih _
    · split
      · rfl
      · exact ih _
    · exact ih _

theorem scanTokens_ne_complete {finish : Nat → Verdict} (h : ∀ d, finish d ≠ .complete) :
    ∀ (ts : List Token) (depth : Nat), scanTokens finish depth ts ≠ .complete := by
  intro ts
  induction ts with
  | nil => exact h
  | cons t ts ih =>
    intro depth
    simp only [scanTokens]
    split
    · exact ih _
    · split
      · exact Verdict.noConfusion
      · exact ih _
    · exact ih _

end Verdict

open Verdict

section Special

variable {c : Char}

theorem not_special_of (P : Char → Bool) (hsemi : P ';' = false) (hquote : P '"' = false)
    (hopen : P '(' = false) (hclose : P ')' = false) (hc : P c = true) :
    (c == ';') = false ∧ (c == '"') = false ∧ (c == '(') = false ∧ (c == ')') = false := by
  refine ⟨?_, ?_, ?_, ?_⟩ <;> rw [beq_eq_false_iff_ne] <;> rintro rfl <;> simp_all

theorem not_special_of_blank (hc : Text.isBlank c = true) :
    (c == ';') = false ∧ (c == '"') = false ∧ (c == '(') = false ∧ (c == ')') = false :=
  not_special_of Text.isBlank (by decide) (by decide) (by decide) (by decide) hc

theorem not_special_of_wordChar (hc : isWordChar c = true) :
    (c == ';') = false ∧ (c == '"') = false ∧ (c == '(') = false ∧ (c == ')') = false :=
  not_special_of isWordChar (by decide) (by decide) (by decide) (by decide) hc

theorem checkFrom_code_plain (hc : (c == ';') = false ∧ (c == '"') = false ∧ (c == '(') = false ∧
    (c == ')') = false) (depth pos : Nat) (cs : List Char) :
    checkFrom .code depth pos (c :: cs) = checkFrom .code depth (pos + c.utf8Size) cs := by
  simp [checkFrom, hc.1, hc.2.1, hc.2.2.1, hc.2.2.2]

end Special

theorem checkFrom_begin {c : Char} {pos : Nat} {toks toks' : List Token} {st : ScanState}
    (h : ScanState.begin c pos toks = .ok (st, toks')) :
    ∃ extra, toks' = extra ++ toks ∧ ∀ depth cs, checkFrom .code depth pos (c :: cs) =
      scanTokens (fun d ↦ checkFrom st.region d (pos + c.utf8Size) cs) depth extra.reverse := by
  unfold ScanState.begin at h
  split_ifs at h with hblank hsemi hopen hclose hquote hesc hword <;> cases h
  · exact ⟨[], rfl, fun depth cs ↦ checkFrom_code_plain (not_special_of_blank hblank) depth pos cs⟩
  · refine ⟨[], rfl, fun depth cs ↦ ?_⟩
    simp [checkFrom, hsemi, ScanState.region, scanTokens]
  · refine ⟨[_], rfl, fun depth cs ↦ ?_⟩
    obtain rfl : c = '(' := by simpa using hopen
    simp [checkFrom, ScanState.region, scanTokens]
  · refine ⟨[_], rfl, fun depth cs ↦ ?_⟩
    obtain rfl : c = ')' := by simpa using hclose
    simp [checkFrom, ScanState.region, scanTokens]
  · refine ⟨[], rfl, fun depth cs ↦ ?_⟩
    obtain rfl : c = '"' := by simpa using hquote
    simp [checkFrom, ScanState.region, scanTokens]
  · exact ⟨[], rfl, fun depth cs ↦ checkFrom_code_plain (not_special_of_wordChar hword) depth pos cs⟩
  · refine ⟨[_], rfl, fun depth cs ↦ ?_⟩
    simp [checkFrom, hsemi, hopen, hclose, hquote, ScanState.region, scanTokens]

theorem region_comment_step (c : Char) :
    (if c == '\n' then ScanState.gap else ScanState.comment).region =
      if c == '\n' then .code else .comment := by
  split <;> rfl

theorem begin_ne_unterminated {c : Char} {pos : Nat} {toks : List Token} {sp : Span} :
    ScanState.begin c pos toks ≠ .error ⟨.unterminatedString, sp⟩ := by
  unfold ScanState.begin
  split_ifs <;> simp

theorem checkFrom_run {cs : List Char} :
    ∀ {st : ScanState} {pos : Nat} {ts : List Token}, ScanState.run st pos cs [] = .ok ts →
      ∀ depth, checkFrom st.region depth pos cs = scanTokens atEnd depth ts := by
  induction cs with
  | nil =>
    intro st pos ts h depth
    cases st with
    | gap =>
      simp only [ScanState.run, ScanState.finish, List.reverse_nil, Except.ok.injEq] at h
      subst h
      rfl
    | comment =>
      simp only [ScanState.run, ScanState.finish, List.reverse_nil, Except.ok.injEq] at h
      subst h
      rfl
    | word start chars =>
      simp only [ScanState.run, ScanState.finish, Except.ok.injEq] at h
      subst h
      rfl
    | str start chars escaped => simp [ScanState.run, ScanState.finish] at h
  | cons c cs ih =>
    intro st pos ts h depth
    -- the scanner's step after `begin`: the tokens `begin` made, then those of the rest
    have hbegin : ∀ {toks toks' : List Token} {st' : ScanState},
        ScanState.begin c pos toks = .ok (st', toks') →
        ScanState.run st' (pos + c.utf8Size) cs toks' = .ok ts →
        ∃ extra us : List Token, ts = toks.reverse ++ (extra.reverse ++ us) ∧
          checkFrom .code depth pos (c :: cs) = scanTokens atEnd depth (extra.reverse ++ us) := by
      intro toks toks' st' hb hr
      obtain ⟨extra, rfl, hcheck⟩ := checkFrom_begin hb
      rw [ScanState.run_accum] at hr
      cases hrest : ScanState.run st' (pos + c.utf8Size) cs [] with
      | error e => rw [hrest] at hr; cases hr
      | ok us =>
        rw [hrest] at hr
        simp only [except_map_ok, Except.ok.injEq, List.reverse_append] at hr
        subst hr
        refine ⟨extra, us, by simp, ?_⟩
        rw [hcheck, scanTokens_append]
        congr 1
        funext d
        exact ih hrest d
    cases st with
    | gap =>
      simp only [ScanState.run, bind, Except.bind] at h
      split at h
      · cases h
      · rename_i p hb
        obtain ⟨extra, us, rfl, hcheck⟩ := hbegin hb h
        show checkFrom .code depth pos (c :: cs) = _
        rw [hcheck]
        simp
    | word start chars =>
      simp only [ScanState.run] at h
      split_ifs at h with hw
      · show checkFrom .code depth pos (c :: cs) = _
        rw [checkFrom_code_plain (not_special_of_wordChar hw)]
        exact ih h depth
      · simp only [bind, Except.bind] at h
        split at h
        · cases h
        · rename_i p hb
          obtain ⟨extra, us, rfl, hcheck⟩ := hbegin hb h
          -- the word the character ends is a token that the count passes over
          show checkFrom .code depth pos (c :: cs) = _
          rw [hcheck]
          simp [scanTokens, ScanState.wordToken]
    | comment =>
      simp only [ScanState.run] at h
      show checkFrom .comment depth pos (c :: cs) = _
      simp only [checkFrom]
      rw [← region_comment_step]
      exact ih h depth
    | str start chars escaped =>
      simp only [ScanState.run] at h
      show checkFrom (.str escaped) depth pos (c :: cs) = _
      cases escaped with
      | true => exact ih h depth
      | false =>
        simp only [Bool.false_eq_true, ↓reduceIte] at h
        simp only [checkFrom]
        split_ifs at h ⊢ with hesc hquote
        · exact ih h depth
        · -- the literal closes: its token is passed over and the check is back in code
          rw [ScanState.run_accum] at h
          cases hrest : ScanState.run .gap (pos + c.utf8Size) cs [] with
          | error e => rw [hrest] at h; cases h
          | ok us =>
            rw [hrest] at h
            simp only [except_map_ok, Except.ok.injEq, List.reverse_cons, List.reverse_nil,
              List.nil_append] at h
            subst h
            have hrest' := ih hrest depth
            simp only [ScanState.region] at hrest'
            rw [hrest']
            simp [scanTokens]
        · exact ih h depth

theorem checkFrom_of_unterminated {cs : List Char} :
    ∀ {st : ScanState} {pos : Nat} {toks : List Token} {sp : Span},
      ScanState.run st pos cs toks = .error ⟨.unterminatedString, sp⟩ →
      ∀ depth, checkFrom st.region depth pos cs ≠ .complete := by
  induction cs with
  | nil =>
    intro st pos toks sp h depth
    cases st with
    | gap => simp [ScanState.run, ScanState.finish] at h
    | comment => simp [ScanState.run, ScanState.finish] at h
    | word start chars => simp [ScanState.run, ScanState.finish] at h
    | str start chars escaped => simp [ScanState.region, checkFrom]
  | cons c cs ih =>
    intro st pos toks sp h depth
    -- after `begin`, the count over its tokens ends in the check of the rest
    have hbegin : ∀ {toks toks' : List Token} {st' : ScanState},
        ScanState.begin c pos toks = .ok (st', toks') →
        ScanState.run st' (pos + c.utf8Size) cs toks' = .error ⟨.unterminatedString, sp⟩ →
        checkFrom .code depth pos (c :: cs) ≠ .complete := by
      intro toks toks' st' hb hr
      obtain ⟨extra, -, hcheck⟩ := checkFrom_begin hb
      rw [hcheck]
      exact scanTokens_ne_complete (fun d ↦ ih hr d) _ _
    cases st with
    | gap =>
      simp only [ScanState.run, bind, Except.bind] at h
      split at h
      · rename_i e hb
        cases h
        exact absurd hb begin_ne_unterminated
      · exact hbegin (by assumption) h
    | word start chars =>
      simp only [ScanState.run] at h
      split_ifs at h with hw
      · show checkFrom .code depth pos (c :: cs) ≠ _
        rw [checkFrom_code_plain (not_special_of_wordChar hw)]
        exact ih h depth
      · simp only [bind, Except.bind] at h
        split at h
        · rename_i e hb
          cases h
          exact absurd hb begin_ne_unterminated
        · exact hbegin (by assumption) h
    | comment =>
      simp only [ScanState.run] at h
      show checkFrom .comment depth pos (c :: cs) ≠ _
      simp only [checkFrom]
      rw [← region_comment_step]
      exact ih h depth
    | str start chars escaped =>
      simp only [ScanState.run] at h
      show checkFrom (.str escaped) depth pos (c :: cs) ≠ _
      cases escaped with
      | true => exact ih h depth
      | false =>
        simp only [Bool.false_eq_true, ↓reduceIte] at h
        simp only [checkFrom]
        split_ifs at h ⊢ <;> exact ih h depth

theorem run_closeParen_span {cs : List Char} :
    ∀ {st : ScanState} {pos : Nat} {toks ts : List Token}, ScanState.run st pos cs toks = .ok ts →
      (∀ t ∈ toks, t.kind = .closeParen → t.span.stop = t.span.start + 1) →
      ∀ t ∈ ts, t.kind = .closeParen → t.span.stop = t.span.start + 1 := by
  induction cs with
  | nil =>
    intro st pos toks ts h htoks
    cases st with
    | gap =>
      simp only [ScanState.run, ScanState.finish, Except.ok.injEq] at h
      subst h
      simpa using htoks
    | comment =>
      simp only [ScanState.run, ScanState.finish, Except.ok.injEq] at h
      subst h
      simpa using htoks
    | word start chars =>
      simp only [ScanState.run, ScanState.finish, Except.ok.injEq] at h
      subst h
      intro t ht hk
      simp only [List.reverse_cons, List.mem_append, List.mem_reverse, List.mem_singleton] at ht
      rcases ht with ht | rfl
      · exact htoks t ht hk
      · cases hk
    | str start chars escaped => simp [ScanState.run, ScanState.finish] at h
  | cons c cs ih =>
    intro st pos toks ts h htoks
    -- `begin` adds at most one closing parenthesis, at the character it reads
    have hbegin : ∀ {toks toks' : List Token} {st' : ScanState},
        ScanState.begin c pos toks = .ok (st', toks') →
        (∀ t ∈ toks, t.kind = .closeParen → t.span.stop = t.span.start + 1) →
        ∀ t ∈ toks', t.kind = .closeParen → t.span.stop = t.span.start + 1 := by
      intro toks toks' st' hb htoks t ht hk
      unfold ScanState.begin at hb
      split_ifs at hb with hblank hsemi hopen hclose <;> cases hb
      · exact htoks t ht hk
      · exact htoks t ht hk
      · rcases List.mem_cons.1 ht with rfl | ht
        · cases hk
        · exact htoks t ht hk
      · rcases List.mem_cons.1 ht with rfl | ht
        · obtain rfl : c = ')' := by simpa using hclose
          rfl
        · exact htoks t ht hk
      · exact htoks t ht hk
      · exact htoks t ht hk
      · rcases List.mem_cons.1 ht with rfl | ht
        · cases hk
        · exact htoks t ht hk
    cases st with
    | gap =>
      simp only [ScanState.run, bind, Except.bind] at h
      split at h
      · cases h
      · rename_i p hb
        exact ih h (hbegin hb htoks)
    | word start chars =>
      simp only [ScanState.run] at h
      split_ifs at h
      · exact ih h htoks
      · simp only [bind, Except.bind] at h
        split at h
        · cases h
        · rename_i p hb
          refine ih h (hbegin hb ?_)
          intro t ht hk
          rcases List.mem_cons.1 ht with rfl | ht
          · cases hk
          · exact htoks t ht hk
    | comment =>
      simp only [ScanState.run] at h
      exact ih h htoks
    | str start chars escaped =>
      simp only [ScanState.run] at h
      split_ifs at h
      · exact ih h htoks
      · exact ih h htoks
      · refine ih h ?_
        intro t ht hk
        rcases List.mem_cons.1 ht with rfl | ht
        · cases hk
        · exact htoks t ht hk
      · exact ih h htoks

namespace Node

def verdictOf : Except ParseError (List Node) → Verdict
  | .ok _ => .complete
  | .error (.unbalancedParen _) => .incomplete
  | .error (.unbalancedClose s) =>
    .unbalanced ("  - ')' at byte " ++ toString s.start ++ " closes nothing")
  | .error (.lex _) => .incomplete

theorem place_length (n : Node) (opened : List OpenList) (done : List Node) :
    (place n opened done).1.length = opened.length := by
  cases opened <;> rfl

theorem verdictOf_build (ts : List Token) : ∀ (opened : List OpenList) (done : List Node),
    verdictOf (build opened done ts) = scanTokens atEnd opened.length ts := by
  induction ts with
  | nil =>
    intro opened done
    cases opened <;> rfl
  | cons t ts ih =>
    intro opened done
    by_cases ho : t.kind = .openParen
    · rw [build_openParen _ _ ho, ih]
      simp [scanTokens, ho]
    by_cases hc : t.kind = .closeParen
    · rcases opened with _ | ⟨⟨o, items⟩, rest⟩
      · rw [build_closeParen_nil _ _ hc]
        simp [scanTokens, hc, verdictOf]
      · rw [build_closeParen_cons _ _ hc, ih, place_length]
        simp [scanTokens, hc]
    · rw [build_atom _ _ ho hc, ih, place_length]
      -- a token of any other class leaves the count as it stands
      cases hk : t.kind
      · exact absurd hk ho
      · exact absurd hk hc
      all_goals simp only [scanTokens, hk]

theorem build_ne_lex (ts : List Token) : ∀ (opened : List OpenList) (done : List Node)
    (e : LexError), build opened done ts ≠ .error (.lex e) := by
  induction ts with
  | nil =>
    intro opened done e
    cases opened <;> simp [build]
  | cons t ts ih =>
    intro opened done e
    by_cases ho : t.kind = .openParen
    · rw [build_openParen _ _ ho]
      exact ih _ _ e
    by_cases hc : t.kind = .closeParen
    · rcases opened with _ | ⟨⟨o, items⟩, rest⟩
      · rw [build_closeParen_nil _ _ hc]
        simp
      · rw [build_closeParen_cons _ _ hc]
        exact ih _ _ e
    · rw [build_atom _ _ ho hc]
      exact ih _ _ e

theorem build_unbalancedClose_mem (ts : List Token) : ∀ (opened : List OpenList) (done : List Node)
    (sp : Span), build opened done ts = .error (.unbalancedClose sp) →
      ∃ t ∈ ts, t.kind = .closeParen ∧ t.span = sp := by
  induction ts with
  | nil =>
    intro opened done sp h
    cases opened <;> simp [build] at h
  | cons t ts ih =>
    intro opened done sp h
    have hmem : ∀ {sp : Span}, (∃ t ∈ ts, t.kind = .closeParen ∧ t.span = sp) →
        ∃ t' ∈ t :: ts, t'.kind = .closeParen ∧ t'.span = sp := by
      rintro sp ⟨t', ht', hk⟩
      exact ⟨t', List.mem_cons_of_mem _ ht', hk⟩
    by_cases ho : t.kind = .openParen
    · rw [build_openParen _ _ ho] at h
      exact hmem (ih _ _ sp h)
    by_cases hc : t.kind = .closeParen
    · rcases opened with _ | ⟨⟨o, items⟩, rest⟩
      · rw [build_closeParen_nil _ _ hc] at h
        cases h
        exact ⟨t, List.mem_cons_self .., hc, rfl⟩
      · rw [build_closeParen_cons _ _ hc] at h
        exact hmem (ih _ _ sp h)
    · rw [build_atom _ _ ho hc] at h
      exact hmem (ih _ _ sp h)

end Node

theorem closesNothing_inj {a b : Nat}
    (h : "  - ')' at byte " ++ toString a ++ " closes nothing" =
      "  - ')' at byte " ++ toString b ++ " closes nothing") : a = b := by
  rw [String.append_left_inj, String.append_right_inj] at h
  exact Nat.repr_injective h

/-- The REPL's parenthesis check agrees with the reader on every text that scans cleanly: it
finds the text complete exactly when the text reads as a program, still open exactly when a
list is never closed, and a closing parenthesis at byte `n` that closes nothing exactly when the
reader stops at the one-byte span `n..n+1` for the same reason; and a text whose string literal
is never closed is never complete for it. -/
theorem checkEntry_agrees_with_reader (s : String) :
    (∀ ts, tokenize s = .ok ts →
      (checkEntry s = .complete ↔ ∃ prog, parseProgram s = .ok prog) ∧
      (checkEntry s = .incomplete ↔ ∃ sp, parseProgram s = .error (.unbalancedParen sp)) ∧
      ∀ n, checkEntry s = .unbalanced ("  - ')' at byte " ++ toString n ++ " closes nothing") ↔
        parseProgram s = .error (.unbalancedClose ⟨n, n + 1⟩)) ∧
    ∀ sp, tokenize s = .error ⟨.unterminatedString, sp⟩ → checkEntry s ≠ .complete := by
  refine ⟨fun ts hts ↦ ?_, fun sp h ↦ checkFrom_of_unterminated h 0⟩
  -- the check is the count over the tokens, which is the reader's outcome
  have hcheck : checkEntry s = Node.verdictOf (Node.build [] [] ts) :=
    (checkFrom_run hts 0).trans (Node.verdictOf_build ts [] []).symm
  have hparse : parseProgram s = Node.build [] [] ts := by
    simp [parseProgram, hts, Node.ofTokens]
  rw [hcheck, hparse]
  have hlex := Node.build_ne_lex ts [] []
  have hspan := run_closeParen_span hts (by simp)
  refine ⟨⟨fun h ↦ ?_, ?_⟩, ⟨fun h ↦ ?_, ?_⟩, fun n ↦ ⟨fun h ↦ ?_, ?_⟩⟩
  · cases hb : Node.build [] [] ts with
    | ok prog => exact ⟨prog, rfl⟩
    | error e =>
      rw [hb] at h
      cases e with
      | lex e => exact absurd hb (hlex e)
      | _ => cases h
  · rintro ⟨prog, hb⟩
    rw [hb]
    rfl
  · cases hb : Node.build [] [] ts with
    | ok prog => rw [hb] at h; cases h
    | error e =>
      rw [hb] at h
      cases e with
      | unbalancedParen sp => exact ⟨sp, rfl⟩
      | lex e => exact absurd hb (hlex e)
      | unbalancedClose sp => cases h
  · rintro ⟨sp, hb⟩
    rw [hb]
    rfl
  · cases hb : Node.build [] [] ts with
    | ok prog => rw [hb] at h; cases h
    | error e =>
      rw [hb] at h
      cases e with
      | unbalancedClose sp =>
        -- the count stopped at byte `n`, at a closing parenthesis one byte wide
        obtain ⟨t, ht, hk, rfl⟩ := Node.build_unbalancedClose_mem ts [] [] _ hb
        have hn : t.span.start = n := closesNothing_inj (Verdict.unbalanced.inj h)
        have hw := hspan t ht hk
        rw [← hn, ← hw]
      | unbalancedParen sp => cases h
      | lex e => exact absurd hb (hlex e)
  · intro hb
    rw [hb]
    rfl

theorem checkEntry_stray_close :
    tokenize "(a )) b" = .ok [⟨.openParen, "(", ⟨0, 1⟩⟩, ⟨.word, "a", ⟨1, 2⟩⟩,
        ⟨.closeParen, ")", ⟨3, 4⟩⟩, ⟨.closeParen, ")", ⟨4, 5⟩⟩, ⟨.word, "b", ⟨6, 7⟩⟩] ∧
      parseProgram "(a )) b" = .error (.unbalancedClose ⟨4, 4 + 1⟩) ∧
      checkEntry "(a )) b" = .unbalanced ("  - ')' at byte " ++ toString 4 ++ " closes nothing") :=
  have htok : tokenize "(a )) b" = .ok [⟨.openParen, "(", ⟨0, 1⟩⟩, ⟨.word, "a", ⟨1, 2⟩⟩,
      ⟨.closeParen, ")", ⟨3, 4⟩⟩, ⟨.closeParen, ")", ⟨4, 5⟩⟩, ⟨.word, "b", ⟨6, 7⟩⟩] := rfl
  have hparse : parseProgram "(a )) b" = .error (.unbalancedClose ⟨4, 4 + 1⟩) := rfl
  ⟨htok, hparse, (((checkEntry_agrees_with_reader "(a )) b").1 _ htok).2.2 4).2 hparse⟩

end WordLang

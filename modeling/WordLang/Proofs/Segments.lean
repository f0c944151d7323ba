import WordLang.Proofs.Reading

namespace WordLang

def byteLength (cs : List Char) : Nat := (String.ofList cs).utf8ByteSize

@[simp] theorem byteLength_nil : byteLength [] = 0 := rfl

@[simp] theorem byteLength_cons (c : Char) (cs : List Char) :
    byteLength (c :: cs) = c.utf8Size + byteLength cs := by
  simp [byteLength, String.utf8ByteSize_append, String.utf8ByteSize_singleton]

@[simp] theorem byteLength_append (a b : List Char) :
    byteLength (a ++ b) = byteLength a + byteLength b := by
  simp [byteLength, String.ofList_append, String.utf8ByteSize_append]

@[simp] theorem byteLength_toList (s : String) : byteLength s.toList = s.utf8ByteSize := by
  simp [byteLength]

@[simp] theorem utf8Size_openParen : '('.utf8Size = 1 := rfl

@[simp] theorem utf8Size_closeParen : ')'.utf8Size = 1 := rfl

@[simp] theorem utf8Size_quote : '"'.utf8Size = 1 := rfl

@[simp] theorem utf8Size_semicolon : ';'.utf8Size = 1 := rfl

@[simp] theorem utf8Size_newline : '\n'.utf8Size = 1 := rfl

theorem byteLength_pos {cs : List Char} (h : cs ≠ []) : 0 < byteLength cs := by
  obtain ⟨c, cs, rfl⟩ := List.exists_cons_of_ne_nil h
  have := c.utf8Size_pos
  simp only [byteLength_cons]
  omega

inductive Gap : List Char → Prop
  | nil : Gap []
  | blank {c : Char} {cs : List Char} : Text.isBlank c = true → Gap cs → Gap (c :: cs)
  | comment {body cs : List Char} : '\n' ∉ body → Gap cs → Gap (';' :: (body ++ '\n' :: cs))

inductive Trailer : List Char → Prop
  | gap {cs : List Char} : Gap cs → Trailer cs
  | comment {cs body : List Char} : Gap cs → '\n' ∉ body → Trailer (cs ++ ';' :: body)

/-- `StrBody escaped cs`: the characters `cs` finish a string literal's body, up to its closing
quote, read after a backslash that escapes the first of them when `escaped`. Outside escapes the
body holds no double quote and no backslash, so the closing quote is the first unescaped one. -/
inductive StrBody : Bool → List Char → Prop
  | nil : StrBody false []
  | escaped {c : Char} {cs : List Char} : StrBody false cs → StrBody true (c :: cs)
  | backslash {cs : List Char} : StrBody true cs → StrBody false ('\\' :: cs)
  | plain {c : Char} {cs : List Char} : c ≠ '"' → c ≠ '\\' → StrBody false cs →
      StrBody false (c :: cs)

inductive Lexeme : TokenKind → List Char → Prop
  | openParen : Lexeme .openParen ['(']
  | closeParen : Lexeme .closeParen [')']
  | word {cs : List Char} : cs ≠ [] → (∀ c ∈ cs, isWordChar c = true) → Lexeme .word cs
  | str {body : List Char} : StrBody false body → Lexeme .str ('"' :: (body ++ ['"']))
  | punct {c : Char} : Text.isBlank c = false → c ≠ ';' → c ≠ '"' → c ≠ '(' → c ≠ ')' →
      c ≠ '\\' → isWordChar c = false → Lexeme .punct [c]

theorem Lexeme.word_head {cs : List Char} (h : Lexeme .word cs) :
    ∃ c rest, cs = c :: rest ∧ isWordChar c = true := by
  cases h with
  | word hne hall =>
    obtain ⟨c, rest, rfl⟩ := List.exists_cons_of_ne_nil hne
    exact ⟨c, rest, rfl, hall c (by simp)⟩

theorem Lexeme.ne_nil {k : TokenKind} {cs : List Char} (h : Lexeme k cs) : cs ≠ [] := by
  cases h with
  | word hne _ => exact hne
  | _ => simp

/-- `Segments pos cs ts`: the characters `cs`, the first at byte `pos`, are the tokens `ts` in
order, with a gap before each and a trailer after the last. Each token's text is a token of its
class standing right after its gap, its span covers exactly that text, and a word is never
followed directly by a word character. -/
inductive Segments : Nat → List Char → List Token → Prop
  | last {pos : Nat} {cs : List Char} : Trailer cs → Segments pos cs []
  | token {pos : Nat} {g rest : List Char} {t : Token} {ts : List Token} : Gap g →
      Lexeme t.kind t.text.toList →
      t.span = ⟨pos + byteLength g, pos + byteLength g + t.text.utf8ByteSize⟩ →
      (t.kind = .word → ∀ c ∈ rest.head?, isWordChar c = false) →
      Segments (pos + byteLength g + t.text.utf8ByteSize) rest ts →
      Segments pos (g ++ t.text.toList ++ rest) (t :: ts)

section Building

theorem Gap.append {a b : List Char} (ha : Gap a) (hb : Gap b) : Gap (a ++ b) := by
  induction ha with
  | nil => exact hb
  | blank hc _ ih => exact .blank hc ih
  | comment hnl _ ih =>
    rw [List.cons_append, List.append_assoc, List.cons_append]
    exact .comment hnl ih

theorem Trailer.prepend {a b : List Char} (ha : Gap a) (hb : Trailer b) : Trailer (a ++ b) := by
  cases hb with
  | gap hg => exact .gap (ha.append hg)
  | comment hg hnl =>
    rw [← List.append_assoc]
    exact .comment (ha.append hg) hnl

theorem Segments.prepend {pos : Nat} {g₀ cs : List Char} {ts : List Token} (h₀ : Gap g₀)
    (h : Segments (pos + byteLength g₀) cs ts) : Segments pos (g₀ ++ cs) ts := by
  cases h with
  | last ht => exact .last (ht.prepend h₀)
  | @token _ g rest t ts hg hlex hspan hword hrest =>
    have hcs : g₀ ++ (g ++ t.text.toList ++ rest) = g₀ ++ g ++ t.text.toList ++ rest := by simp
    have hpos : pos + byteLength g₀ + byteLength g = pos + byteLength (g₀ ++ g) := by
      rw [byteLength_append, Nat.add_assoc]
    rw [hcs]
    refine .token (h₀.append hg) hlex (by rw [hspan, hpos]) hword ?_
    rwa [← hpos]

theorem Segments.cons {pos : Nat} {cs rest : List Char} {t : Token} {ts : List Token}
    (htext : t.text.toList = cs) (hlex : Lexeme t.kind cs) (hspan : t.span = ⟨pos, pos + byteLength cs⟩)
    (hword : t.kind = .word → ∀ c ∈ rest.head?, isWordChar c = false)
    (hrest : Segments (pos + byteLength cs) rest ts) : Segments pos (cs ++ rest) (t :: ts) := by
  have hbytes : t.text.utf8ByteSize = byteLength cs := by rw [← htext, byteLength_toList]
  have h := Segments.token (g := []) .nil (htext ▸ hlex) (by simpa [hbytes] using hspan) hword
    (by simpa [hbytes] using hrest)
  rwa [List.nil_append, htext] at h

end Building

namespace ScanState

def Pending : ScanState → Nat → List Char → List Token → Prop
  | .gap, pos, cs, us => Segments pos cs us
  | .comment, pos, cs, us =>
    (∃ body rest, cs = body ++ '\n' :: rest ∧ '\n' ∉ body ∧
      Segments (pos + byteLength body + 1) rest us) ∨ ('\n' ∉ cs ∧ us = [])
  | .word start chars, pos, cs, us =>
    ∃ w rest us', cs = w ++ rest ∧ (∀ c ∈ w, isWordChar c = true) ∧
      (∀ c ∈ rest.head?, isWordChar c = false) ∧
      us = wordToken start (pos + byteLength w) (w.reverse ++ chars) :: us' ∧
      Segments (pos + byteLength w) rest us'
  | .str start chars escaped, pos, cs, us =>
    ∃ body rest us', cs = body ++ '"' :: rest ∧ StrBody escaped body ∧
      us = ⟨.str, String.ofList (chars.reverse ++ body ++ ['"']),
        ⟨start, pos + byteLength body + 1⟩⟩ :: us' ∧
      Segments (pos + byteLength body + 1) rest us'

@[simp] theorem pending_gap {pos : Nat} {cs : List Char} {us : List Token} :
    gap.Pending pos cs us ↔ Segments pos cs us := Iff.rfl

theorem run_ok_split {st : ScanState} {pos : Nat} {cs : List Char} {toks ts : List Token}
    (h : run st pos cs toks = .ok ts) : ∃ us, run st pos cs [] = .ok us ∧ ts = toks.reverse ++ us := by
  rw [run_accum] at h
  cases hr : run st pos cs [] with
  | error e => rw [hr] at h; cases h
  | ok us =>
    rw [hr, except_map_ok, Except.ok.injEq] at h
    exact ⟨us, rfl, h.symm⟩

theorem run_word_char {start pos : Nat} {chars cs : List Char} {toks : List Token} {c : Char}
    (hw : isWordChar c = true) :
    run (.word start chars) pos (c :: cs) toks = run (.word start (c :: chars)) (pos + c.utf8Size) cs toks := by
  simp [run, hw]

theorem run_word_end {start pos : Nat} {chars cs : List Char} {toks : List Token}
    (h : ∀ c ∈ cs.head?, isWordChar c = false) :
    run (.word start chars) pos cs toks = run .gap pos cs (wordToken start pos chars :: toks) := by
  cases cs with
  | nil => rfl
  | cons c cs => simp [run, h c rfl]

theorem pending_begin {c : Char} {pos : Nat} {cs : List Char} {st : ScanState}
    {extra us : List Token} (hb : begin c pos [] = .ok (st, extra))
    (hp : st.Pending (pos + c.utf8Size) cs us) : Segments pos (c :: cs) (extra.reverse ++ us) := by
  unfold begin at hb
  split_ifs at hb with hblank hsemi hopen hclose hquote hesc hword <;> cases hb
  · -- a blank joins the gap
    exact Segments.prepend (.blank hblank .nil : Gap [c]) (by simpa using hp)
  · -- a comment joins the gap, or runs to the end of the text
    obtain rfl : c = ';' := by simpa using hsemi
    rcases hp with ⟨body, rest, rfl, hnl, hrest⟩ | ⟨hnl, rfl⟩
    · have h := @Segments.prepend pos _ rest _ (.comment hnl .nil : Gap (';' :: (body ++ ['\n'])))
        (by
          have hlen : byteLength (';' :: (body ++ ['\n'])) = 1 + byteLength body + 1 := by
            simp only [byteLength_cons, byteLength_append, byteLength_nil, utf8Size_semicolon,
              utf8Size_newline]
            omega
          rw [hlen, ← Nat.add_assoc, ← Nat.add_assoc]
          simpa using hrest)
      simpa using h
    · exact .last (.comment (.nil : Gap []) hnl)
  · obtain rfl : c = '(' := by simpa using hopen
    exact @Segments.cons pos ['('] cs _ _ (by simp) .openParen (by simp) (by simp) (by simpa using hp)
  · obtain rfl : c = ')' := by simpa using hclose
    exact @Segments.cons pos [')'] cs _ _ (by simp) .closeParen (by simp) (by simp) (by simpa using hp)
  · -- a string literal, up to its closing quote
    obtain rfl : c = '"' := by simpa using hquote
    obtain ⟨body, rest, us', rfl, hbody, rfl, hrest⟩ := hp
    have h := @Segments.cons pos ('"' :: (body ++ ['"'])) rest
      ⟨.str, String.ofList (['"'].reverse ++ body ++ ['"']), ⟨pos, pos + '"'.utf8Size + byteLength body + 1⟩⟩ _
      (by simp) (.str hbody) (by simp; omega) (by simp) (by
        simp only [byteLength_cons, byteLength_append, byteLength_nil]
        simpa [Nat.add_assoc] using hrest)
    simpa using h
  · -- a word, up to the first character that cannot continue it
    obtain ⟨w, rest, us', rfl, hws, hnext, rfl, hrest⟩ := hp
    have h := @Segments.cons pos (c :: w) rest
      (wordToken pos (pos + c.utf8Size + byteLength w) (w.reverse ++ [c])) _
      (by simp [wordToken]) (.word (by simp) (List.forall_mem_cons.2 ⟨hword, hws⟩))
      (by simp [wordToken, Nat.add_assoc]) (fun _ ↦ hnext) (by simpa [Nat.add_assoc] using hrest)
    simpa using h
  · -- any other character is a punctuation token
    have hpunct : Lexeme .punct [c] :=
      .punct (by simpa using hblank) (by simpa using hsemi) (by simpa using hquote)
        (by simpa using hopen) (by simpa using hclose) (by simpa using hesc) (by simpa using hword)
    exact @Segments.cons pos [c] cs _ _ (by simp [Char.toString_eq_singleton]) hpunct (by simp)
      (by simp) (by simpa using hp)

theorem run_pending (cs : List Char) :
    ∀ (st : ScanState) (pos : Nat) (us : List Token), run st pos cs [] = .ok us → st.Pending pos cs us := by
  induction cs with
  | nil =>
    intro st pos us h
    cases st with
    | gap =>
      simp only [run, finish, List.reverse_nil, Except.ok.injEq] at h
      subst h
      exact .last (.gap .nil)
    | comment =>
      simp only [run, finish, List.reverse_nil, Except.ok.injEq] at h
      exact .inr ⟨List.not_mem_nil, h.symm⟩
    | word start chars =>
      simp only [run, finish, List.reverse_cons, List.reverse_nil, List.nil_append,
        Except.ok.injEq] at h
      exact ⟨[], [], [], rfl, by simp, by simp, by simpa using h.symm, .last (.gap .nil)⟩
    | str start chars escaped => simp [run, finish] at h
  | cons c cs ih =>
    -- between tokens: the character begins a token, a comment or a gap
    have hgap : ∀ pos us, run .gap pos (c :: cs) [] = .ok us → Segments pos (c :: cs) us := by
      intro pos us h
      simp only [run, bind, Except.bind] at h
      split at h
      · cases h
      · rename_i p hb
        obtain ⟨us', hus', rfl⟩ := run_ok_split h
        exact pending_begin hb (ih _ _ _ hus')
    intro st pos us h
    cases st with
    | gap => exact hgap pos us h
    | word start chars =>
      by_cases hw : isWordChar c = true
      · rw [run_word_char hw] at h
        obtain ⟨w, rest, us', rfl, hws, hnext, rfl, hrest⟩ := ih _ _ _ h
        refine ⟨c :: w, rest, us', rfl, List.forall_mem_cons.2 ⟨hw, hws⟩, hnext, ?_, ?_⟩
        · simp [Nat.add_assoc]
        · simpa [Nat.add_assoc] using hrest
      · rw [run_word_end (by simpa using hw)] at h
        obtain ⟨us', hus', rfl⟩ := run_ok_split h
        exact ⟨[], c :: cs, us', rfl, by simp, by simpa using hw, by simp, by simpa using hgap pos us' hus'⟩
    | comment =>
      simp only [run] at h
      by_cases hnl : c = '\n'
      · -- the line feed ends the comment
        subst hnl
        have hrest := ih _ _ _ h
        exact .inl ⟨[], cs, rfl, List.not_mem_nil, by simpa using hrest⟩
      · simp only [beq_iff_eq, hnl, if_false] at h
        rcases ih _ _ _ h with ⟨body, rest, rfl, hbody, hrest⟩ | ⟨hcs, rfl⟩
        · refine .inl ⟨c :: body, rest, rfl, ?_, by simpa [Nat.add_assoc] using hrest⟩
          simp [Ne.symm hnl, hbody]
        · exact .inr ⟨by simp [Ne.symm hnl, hcs], rfl⟩
    | str start chars escaped =>
      simp only [run] at h
      split_ifs at h with hesc hback hquote
      · -- the escaped character joins the body
        obtain ⟨body, rest, us', rfl, hbody, rfl, hrest⟩ := ih _ _ _ h
        subst hesc
        refine ⟨c :: body, rest, us', rfl, .escaped hbody, ?_, by simpa [Nat.add_assoc] using hrest⟩
        simp [Nat.add_assoc]
      · -- a backslash escapes the next character
        obtain rfl : c = '\\' := by simpa using hback
        obtain ⟨body, rest, us', rfl, hbody, rfl, hrest⟩ := ih _ _ _ h
        have hesc' : escaped = false := by simpa using hesc
        subst hesc'
        refine ⟨'\\' :: body, rest, us', rfl, .backslash hbody, ?_, by simpa [Nat.add_assoc] using hrest⟩
        simp [Nat.add_assoc]
      · -- an unescaped quote closes the literal
        obtain rfl : c = '"' := by simpa using hquote
        have hesc' : escaped = false := by simpa using hesc
        subst hesc'
        obtain ⟨us', hus', rfl⟩ := run_ok_split h
        exact ⟨[], cs, us', rfl, .nil, by simp, by simpa using ih _ _ _ hus'⟩
      · have hesc' : escaped = false := by simpa using hesc
        subst hesc'
        obtain ⟨body, rest, us', rfl, hbody, rfl, hrest⟩ := ih _ _ _ h
        refine ⟨c :: body, rest, us', rfl,
          .plain (by simpa using hquote) (by simpa using hback) hbody, ?_,
          by simpa [Nat.add_assoc] using hrest⟩
        simp [Nat.add_assoc]

end ScanState

section Consequences

variable {pos : Nat} {cs : List Char} {ts : List Token}

theorem Segments.split (h : Segments pos cs ts) : ∀ t ∈ ts, ∃ pre post,
    cs = pre ++ t.text.toList ++ post ∧
      t.span = ⟨pos + byteLength pre, pos + byteLength pre + t.text.utf8ByteSize⟩ := by
  induction h with
  | last => simp
  | @token pos g rest t ts hg hlex hspan hword hrest ih =>
    intro t' ht'
    rcases List.mem_cons.1 ht' with rfl | ht'
    · exact ⟨g, rest, rfl, hspan⟩
    · obtain ⟨pre, post, rfl, hsp⟩ := ih t' ht'
      refine ⟨g ++ t.text.toList ++ pre, post, by simp, ?_⟩
      rw [hsp]
      simp only [byteLength_append, byteLength_toList, Span.mk.injEq]
      omega

theorem Segments.lexeme (h : Segments pos cs ts) : ∀ t ∈ ts, Lexeme t.kind t.text.toList := by
  induction h with
  | last => simp
  | token _ hlex _ _ _ ih => exact List.forall_mem_cons.2 ⟨hlex, ih⟩

theorem Segments.start_ge (h : Segments pos cs ts) : ∀ t ∈ ts, pos ≤ t.span.start := by
  intro t ht
  obtain ⟨pre, post, -, hsp⟩ := h.split t ht
  rw [hsp]
  exact Nat.le_add_right _ _

theorem Segments.pairwise (h : Segments pos cs ts) :
    ts.Pairwise fun a b ↦ a.span.stop ≤ b.span.start := by
  induction h with
  | last => exact .nil
  | token _ _ hspan _ hrest ih =>
    refine List.pairwise_cons.2 ⟨fun t' ht' ↦ ?_, ih⟩
    rw [hspan]
    exact hrest.start_ge t' ht'

theorem Segments.start_lt_stop (h : Segments pos cs ts) :
    ∀ t ∈ ts, t.span.start < t.span.stop := by
  intro t ht
  obtain ⟨pre, post, -, hsp⟩ := h.split t ht
  have hne := byteLength_pos (h.lexeme t ht).ne_nil
  rw [byteLength_toList] at hne
  rw [hsp]
  exact Nat.lt_add_of_pos_right hne

theorem Segments.words_apart (h : Segments pos cs ts) : ∀ pre a b post,
    ts = pre ++ a :: b :: post → a.kind = .word → b.kind = .word → a.span.stop < b.span.start := by
  induction h with
  | last => intro pre a b post hts; simp at hts
  | @token pos g rest t ts hg hlex hspan hword hrest ih =>
    intro pre a b post hts ha hb
    rcases pre with _ | ⟨t', pre⟩
    · -- the word `t` is followed by the word `b`, which the maximal-munch condition keeps apart
      simp only [List.nil_append, List.cons.injEq] at hts
      obtain ⟨rfl, rfl⟩ := hts
      cases hrest with
      | @token _ g' rest' _ _ hg' hlex' hspan' _ _ =>
        have hgap : g' ≠ [] := by
          rintro rfl
          rw [hb] at hlex'
          obtain ⟨c, cs, hcs, hc⟩ := hlex'.word_head
          have hc' := hword ha c (by simp [hcs])
          rw [hc] at hc'
          cases hc'
        have hpos := byteLength_pos hgap
        rw [hspan, hspan']
        simp only
        omega
    · simp only [List.cons_append, List.cons.injEq] at hts
      obtain ⟨rfl, rfl⟩ := hts
      exact ih pre a b post rfl ha hb

end Consequences

theorem tokenize_segments {s : String} {ts : List Token} (h : tokenize s = .ok ts) :
    Segments 0 s.toList ts :=
  ScanState.run_pending s.toList .gap 0 ts h

theorem tokenize_inOrder {s : String} {ts : List Token} (h : tokenize s = .ok ts) :
    Token.InOrder ts :=
  ⟨fun t ht ↦ Nat.le_of_lt ((tokenize_segments h).start_lt_stop t ht),
    (tokenize_segments h).pairwise⟩

/-- Splitting a text into tokens loses nothing: the text is its tokens, in order, with only
blanks and comments around them (`Segments`); each token's span is non-empty, lies on character
boundaries within the text and covers exactly the token's text; the spans are disjoint and
increasing; no two words stand side by side; and a string literal runs from its opening quote to
the first quote that no backslash escapes. -/
theorem tokenize_lossless {s : String} {ts : List Token} (h : tokenize s = .ok ts) :
    Segments 0 s.toList ts ∧
    ts.Pairwise (fun a b ↦ a.span.stop ≤ b.span.start) ∧
    (∀ pre a b post, ts = pre ++ a :: b :: post → a.kind = .word → b.kind = .word →
      a.span.stop < b.span.start) ∧
    ∀ t ∈ ts, t.span.start < t.span.stop ∧ t.span.stop ≤ s.utf8ByteSize ∧
      (⟨t.span.start⟩ : String.Pos.Raw).IsValid s ∧ (⟨t.span.stop⟩ : String.Pos.Raw).IsValid s ∧
      s.toByteArray.extract t.span.start t.span.stop = t.text.toByteArray := by
  have hseg := tokenize_segments h
  refine ⟨hseg, hseg.pairwise, hseg.words_apart, fun t ht ↦ ?_⟩
  obtain ⟨pre, post, hcs, hsp⟩ := hseg.split t ht
  -- the text is the characters before the token, the token's text, and the rest
  have hs : s = String.ofList pre ++ t.text ++ String.ofList post := by
    rw [← String.ofList_toList (s := s), hcs, String.ofList_append, String.ofList_append,
      String.ofList_toList]
  have hlen : s.utf8ByteSize = byteLength pre + t.text.utf8ByteSize + byteLength post := by
    rw [hs, String.utf8ByteSize_append, String.utf8ByteSize_append]
    rfl
  rw [hsp]
  simp only [Nat.zero_add]
  refine ⟨hseg.start_lt_stop t ht |> fun h ↦ by simpa [hsp] using h, by omega, ?_, ?_, ?_⟩
  · exact String.Pos.Raw.isValid_iff_exists_append.2
      ⟨String.ofList pre, t.text ++ String.ofList post, by rw [hs, String.append_assoc], rfl⟩
  · exact String.Pos.Raw.isValid_iff_exists_append.2
      ⟨String.ofList pre ++ t.text, String.ofList post, hs, by
        simp [String.rawEndPos, String.utf8ByteSize_append, byteLength]⟩
  · -- the token's bytes follow those of the text before it
    have hpre : (String.ofList pre).toByteArray.size = byteLength pre := rfl
    rw [hs, String.toByteArray_append, String.toByteArray_append, ByteArray.append_assoc]
    calc _ = ((String.ofList pre).toByteArray ++
            (t.text.toByteArray ++ (String.ofList post).toByteArray)).extract
            (byteLength pre + 0) (byteLength pre + t.text.toByteArray.size) := rfl
      _ = (t.text.toByteArray ++ (String.ofList post).toByteArray).extract 0
            t.text.toByteArray.size := ByteArray.extract_append_size_add' hpre.symm
      _ = t.text.toByteArray := ByteArray.extract_append_eq_left rfl

theorem tokenize_call_with_comment :
    tokenize "(f \"a b\") ; c" = .ok [⟨.openParen, "(", ⟨0, 1⟩⟩, ⟨.word, "f", ⟨1, 2⟩⟩,
        ⟨.str, "\"a b\"", ⟨3, 8⟩⟩, ⟨.closeParen, ")", ⟨8, 9⟩⟩] ∧
      Segments 0 "(f \"a b\") ; c".toList [⟨.openParen, "(", ⟨0, 1⟩⟩, ⟨.word, "f", ⟨1, 2⟩⟩,
        ⟨.str, "\"a b\"", ⟨3, 8⟩⟩, ⟨.closeParen, ")", ⟨8, 9⟩⟩] :=
  have h : tokenize "(f \"a b\") ; c" = .ok [⟨.openParen, "(", ⟨0, 1⟩⟩, ⟨.word, "f", ⟨1, 2⟩⟩,
      ⟨.str, "\"a b\"", ⟨3, 8⟩⟩, ⟨.closeParen, ")", ⟨8, 9⟩⟩] := rfl
  ⟨h, (tokenize_lossless h).1⟩

end WordLang

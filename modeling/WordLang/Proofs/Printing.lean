import WordLang.Proofs.Segments
import WordLang.Proofs.Sessions

namespace WordLang

theorem isWordChar_of_isBlank {c : Char} (h : Text.isBlank c = true) : isWordChar c = false := by
  -- the blank characters are few: check each of them
  have hcodes : ∀ n ∈ List.range' 9 5 ++ [0x20, 0x85, 0xA0, 0x1680] ++ List.range' 0x2000 11 ++
      [0x2028, 0x2029, 0x202F, 0x205F, 0x3000], isWordChar (Char.ofNat n) = false := by
    decide +kernel
  have hmem : c.toNat ∈ List.range' 9 5 ++ [0x20, 0x85, 0xA0, 0x1680] ++ List.range' 0x2000 11 ++
      [0x2028, 0x2029, 0x202F, 0x205F, 0x3000] := by
    simp only [Text.isBlank, Bool.or_eq_true, Bool.and_eq_true, decide_eq_true_eq, beq_iff_eq] at h
    simp only [List.mem_append, List.mem_range'_1, List.mem_cons, List.not_mem_nil]
    omega
  simpa [Char.ofNat_toNat] using hcodes _ hmem

theorem isBlank_of_isWordChar {c : Char} (h : isWordChar c = true) : Text.isBlank c = false := by
  cases hb : Text.isBlank c
  · rfl
  · rw [isWordChar_of_isBlank hb] at h
    cases h

namespace ScanState

theorem begin_wordChar {c : Char} {pos : Nat} {toks : List Token} (hw : isWordChar c = true) :
    begin c pos toks = .ok (.word pos [c], toks) := by
  obtain ⟨hsemi, hquote, hopen, hclose⟩ := not_special_of_wordChar hw
  have hesc : (c == '\\') = false := by
    rw [beq_eq_false_iff_ne]
    rintro rfl
    exact absurd hw (by decide)
  simp [begin, isBlank_of_isWordChar hw, hsemi, hquote, hopen, hclose, hesc, hw]

theorem begin_semicolon {pos : Nat} {toks : List Token} : begin ';' pos toks = .ok (.comment, toks) :=
  rfl

theorem begin_openParen {pos : Nat} {toks : List Token} :
    begin '(' pos toks = .ok (.gap, ⟨.openParen, "(", ⟨pos, pos + 1⟩⟩ :: toks) :=
  rfl

theorem begin_closeParen {pos : Nat} {toks : List Token} :
    begin ')' pos toks = .ok (.gap, ⟨.closeParen, ")", ⟨pos, pos + 1⟩⟩ :: toks) :=
  rfl

theorem begin_quote {pos : Nat} {toks : List Token} :
    begin '"' pos toks = .ok (.str pos ['"'] false, toks) :=
  rfl

theorem run_gap_blank {c : Char} {pos : Nat} {cs : List Char} {toks : List Token}
    (hc : Text.isBlank c = true) :
    run .gap pos (c :: cs) toks = run .gap (pos + c.utf8Size) cs toks := by
  simp [run, begin, hc, bind, Except.bind]

theorem run_comment_append {body : List Char} (hnl : '\n' ∉ body) :
    ∀ pos rest toks,
      run .comment pos (body ++ rest) toks = run .comment (pos + byteLength body) rest toks := by
  induction body with
  | nil => intro pos rest toks; rfl
  | cons c body ih =>
    intro pos rest toks
    have hc : c ≠ '\n' := fun h ↦ hnl (h ▸ List.mem_cons_self)
    rw [List.cons_append, run]
    simp only [beq_iff_eq, hc, if_false]
    rw [ih (fun h ↦ hnl (List.mem_cons_of_mem c h))]
    simp [Nat.add_assoc]

theorem run_gap_append {g : List Char} (hg : Gap g) :
    ∀ pos cs toks, run .gap pos (g ++ cs) toks = run .gap (pos + byteLength g) cs toks := by
  induction hg with
  | nil => intro pos cs toks; rfl
  | blank hc _ ih =>
    intro pos cs toks
    rw [List.cons_append, run_gap_blank hc, ih]
    simp [Nat.add_assoc]
  | @comment body g hnl _ ih =>
    intro pos cs toks
    have hsemi : ∀ rest, run .gap pos (';' :: rest) toks = run .comment (pos + 1) rest toks := by
      simp [run, begin_semicolon, bind, Except.bind]
    rw [List.cons_append, List.append_assoc, hsemi, run_comment_append hnl, List.cons_append, run]
    simp [ih, Nat.add_assoc]

theorem run_trailer {cs : List Char} (h : Trailer cs) (pos : Nat) (toks : List Token) :
    run .gap pos cs toks = .ok toks.reverse := by
  cases h with
  | @gap cs hg =>
    have h := run_gap_append hg pos [] toks
    rw [List.append_nil] at h
    rw [h]
    rfl
  | @comment g body hg hnl =>
    have h := run_comment_append hnl (pos + byteLength g + 1) [] toks
    rw [List.append_nil] at h
    rw [run_gap_append hg, run, begin_semicolon]
    simp only [bind, Except.bind, utf8Size_semicolon]
    rw [h]
    rfl

theorem run_word_append {w : List Char} (hw : ∀ c ∈ w, isWordChar c = true) :
    ∀ start chars pos rest toks, run (.word start chars) pos (w ++ rest) toks =
      run (.word start (w.reverse ++ chars)) (pos + byteLength w) rest toks := by
  induction w with
  | nil => intro start chars pos rest toks; rfl
  | cons c w ih =>
    intro start chars pos rest toks
    rw [List.forall_mem_cons] at hw
    rw [List.cons_append, run_word_char hw.1, ih hw.2]
    simp [Nat.add_assoc]

theorem run_str_append {escaped : Bool} {body : List Char} (hb : StrBody escaped body) :
    ∀ start chars pos rest toks, run (.str start chars escaped) pos (body ++ '"' :: rest) toks =
      run .gap (pos + byteLength body + 1) rest
        (⟨.str, String.ofList (chars.reverse ++ body ++ ['"']),
          ⟨start, pos + byteLength body + 1⟩⟩ :: toks) := by
  induction hb with
  | nil =>
    intro start chars pos rest toks
    simp [run]
  | @escaped c cs _ ih =>
    intro start chars pos rest toks
    rw [List.cons_append, run]
    simp only [if_true]
    rw [ih]
    simp [Nat.add_assoc]
  | @backslash cs _ ih =>
    intro start chars pos rest toks
    rw [List.cons_append, run]
    simp only [Bool.false_eq_true, if_false, beq_self_eq_true, if_true]
    rw [ih]
    simp [Nat.add_assoc]
  | @plain c cs hq hbs _ ih =>
    intro start chars pos rest toks
    rw [List.cons_append, run]
    simp only [Bool.false_eq_true, if_false, beq_iff_eq, hq, hbs]
    rw [ih]
    simp [Nat.add_assoc]

theorem run_lexeme {k : TokenKind} {cs : List Char} (hlex : Lexeme k cs) {rest : List Char}
    (hword : k = .word → ∀ c ∈ rest.head?, isWordChar c = false) (pos : Nat) (toks : List Token) :
    run .gap pos (cs ++ rest) toks =
      run .gap (pos + byteLength cs) rest
        (⟨k, String.ofList cs, ⟨pos, pos + byteLength cs⟩⟩ :: toks) := by
  cases hlex with
  | openParen => simp [run, begin_openParen, bind, Except.bind]
  | closeParen => simp [run, begin_closeParen, bind, Except.bind]
  | @word w hne hall =>
    obtain ⟨c, w, rfl⟩ := List.exists_cons_of_ne_nil hne
    rw [List.forall_mem_cons] at hall
    rw [List.cons_append, run, begin_wordChar hall.1]
    simp only [bind, Except.bind]
    rw [run_word_append hall.2, run_word_end (hword rfl)]
    simp [wordToken, Nat.add_assoc]
  | @str body hb =>
    rw [List.cons_append, run, begin_quote]
    simp only [bind, Except.bind, utf8Size_quote]
    rw [List.append_assoc, List.singleton_append, run_str_append hb]
    simp [Nat.add_assoc]
  | @punct c hblank hsemi hquote hopen hclose hesc hw =>
    rw [List.cons_append, run]
    simp [begin, hblank, hsemi, hquote, hopen, hclose, hesc, hw, bind, Except.bind,
      Char.toString_eq_singleton]

theorem run_segments {pos : Nat} {cs : List Char} {ts : List Token} (h : Segments pos cs ts)
    (toks : List Token) : run .gap pos cs toks = .ok (toks.reverse ++ ts) := by
  induction h generalizing toks with
  | last ht => rw [run_trailer ht, List.append_nil]
  | @token pos g rest t ts hg hlex hspan hword _ ih =>
    have ht : (⟨t.kind, String.ofList t.text.toList,
        ⟨pos + byteLength g, pos + byteLength g + byteLength t.text.toList⟩⟩ : Token) = t := by
      rw [String.ofList_toList, byteLength_toList, ← hspan]
    rw [List.append_assoc, run_gap_append hg, run_lexeme hlex hword, ht, byteLength_toList, ih]
    simp

end ScanState

theorem tokenize_eq_ok_iff {s : String} {ts : List Token} :
    tokenize s = .ok ts ↔ Segments 0 s.toList ts :=
  ⟨tokenize_segments, fun h ↦ by simpa [tokenize] using ScanState.run_segments h []⟩

theorem digitsValue?_toDigits (m : Nat) : digitsValue? (Nat.toDigits 10 m) = some m := by
  have hall : (Nat.toDigits 10 m).all Char.isDigit = true :=
    List.all_eq_true.2 fun c hc ↦ Nat.isDigit_of_mem_toDigits (by decide) (by decide) hc
  have hfold : (Nat.toDigits 10 m).foldl (fun acc d ↦ acc * 10 + (d.toNat - 48)) 0 = m := by
    have hf : (fun acc d ↦ acc * 10 + (d.toNat - 48)) =
        fun (sofar : Nat) (c : Char) ↦ 10 * sofar + (c.toNat - '0'.toNat) := by
      funext acc d
      rw [Nat.mul_comm]
      rfl
    rw [hf]
    exact Nat.ofDigitChars_ten_toDigits
  obtain ⟨c, cs, hcs⟩ := List.exists_cons_of_ne_nil (Nat.toDigits_ne_nil (n := m) (b := 10))
  rw [hcs] at hall hfold ⊢
  simp only [digitsValue?, hall, if_true, hfold]

theorem readInt64?_toString (v : Int64) : readInt64? (toString v.toInt) = some v := by
  have hlt := Int64.toInt_lt v
  have hge := Int64.le_toInt v
  have hfits : fitsInt64 v.toInt = true := by
    simp only [fitsInt64, Bool.and_eq_true, decide_eq_true_eq]
    omega
  have hdigit : ∀ m, ∀ c ∈ Nat.toDigits 10 m, c.isDigit = true := fun m c hc ↦
    Nat.isDigit_of_mem_toDigits (by decide) (by decide) hc
  unfold readInt64?
  generalize hi : v.toInt = i
  cases i with
  | ofNat m =>
    -- no sign: the numeral is its digits
    have hstr : (toString (Int.ofNat m)).toList = Nat.toDigits 10 m := Nat.toList_repr
    have hsign : ∀ s rest, Nat.toDigits 10 m = s :: rest → s.isDigit = true := fun s rest h ↦
      hdigit m s (h ▸ List.mem_cons_self)
    split
    rename_i negative digits hpair
    rw [hstr] at hpair
    split at hpair
    · rename_i rest h
      exact absurd (hsign _ _ h) (by decide)
    · rename_i rest h
      exact absurd (hsign _ _ h) (by decide)
    · simp only [Prod.mk.injEq] at hpair
      obtain ⟨rfl, rfl⟩ := hpair
      rw [Int.ofNat_eq_natCast] at hi
      simp [digitsValue?_toDigits, hfits, ← hi]
  | negSucc m =>
    -- a minus sign before the digits of the magnitude
    have hstr : (toString (Int.negSucc m)).toList = '-' :: Nat.toDigits 10 (m + 1) := by
      simp [Int.repr]
    split
    rename_i negative digits hpair
    rw [hstr] at hpair
    split at hpair
    · rename_i rest h
      simp only [List.cons.injEq, true_and] at h
      simp only [Prod.mk.injEq] at hpair
      obtain ⟨rfl, rfl⟩ := hpair
      have hv : -(((m + 1 : Nat) : Int)) = v.toInt := by rw [hi]; rfl
      rw [← h, digitsValue?_toDigits]
      simp only [if_true, hv, hfits, Int64.ofInt_toInt]
    · rename_i rest h
      exact absurd (List.cons.inj h).1 (by decide)
    · rename_i hminus _
      exact absurd rfl (hminus _)

theorem isWordChar_of_isDigit {c : Char} (h : c.isDigit = true) : isWordChar c = true := by
  simp [isWordChar, Text.isLetterOrNumber_of_isAlphanum c (by simp [Char.isAlphanum, h])]

theorem lexeme_toString_int (i : Int) : Lexeme .word (toString i).toList := by
  have hdigits : ∀ m, ∀ c ∈ Nat.toDigits 10 m, isWordChar c = true := fun m c hc ↦
    isWordChar_of_isDigit (Nat.isDigit_of_mem_toDigits (by decide) (by decide) hc)
  cases i with
  | ofNat m =>
    have hstr : (toString (Int.ofNat m)).toList = Nat.toDigits 10 m := Nat.toList_repr
    rw [hstr]
    exact .word Nat.toDigits_ne_nil (hdigits m)
  | negSucc m =>
    have hstr : (toString (Int.negSucc m)).toList = '-' :: Nat.toDigits 10 (m + 1) := by
      simp [Int.repr]
    rw [hstr]
    exact .word (List.cons_ne_nil _ _) (List.forall_mem_cons.2 ⟨rfl, hdigits (m + 1)⟩)

namespace Node

def eraseSpans (n : Node) : Node := n.mapSpans fun _ ↦ ⟨0, 0⟩

@[simp] theorem eraseSpans_list (items : List Node) (span : Span) :
    (Node.list items span).eraseSpans = .list (items.map eraseSpans) ⟨0, 0⟩ := by
  simp [eraseSpans, mapSpans]

theorem renderAll_map_eraseSpans (ns : List Node) : renderAll (ns.map eraseSpans) = renderAll ns :=
  renderAll_map_mapSpans _ ns

theorem renderAll_eq_intercalate (ns : List Node) :
    renderAll ns = String.intercalate " " (ns.map render) := by
  induction ns with
  | nil => rfl
  | cons n rest ih =>
    cases rest with
    | nil => simp [renderAll]
    | cons m rest =>
      rw [List.map_cons, List.map_cons, String.intercalate_cons_cons, ← List.map_cons, ← ih]
      simp [renderAll]

/-- An expression whose printed text reads back as it: each atom is one token of a class other
than a parenthesis, and does not read as an integer. -/
inductive Printable : Node → Prop
  | int (v : Int64) (span : Span) : Printable (.int v span)
  | atom {k : TokenKind} {text : String} (span : Span) : Lexeme k text.toList → k ≠ .openParen →
      k ≠ .closeParen → readInt64? text = none → Printable (.atom text span)
  | list {items : List Node} (span : Span) : (∀ n ∈ items, Printable n) →
      Printable (.list items span)

theorem Flattens.printable {join : Span → Span → Span} {ns : List Node} {ts : List Token}
    (h : Flattens join ns ts) (hlex : ∀ t ∈ ts, Lexeme t.kind t.text.toList) :
    ∀ n ∈ ns, Printable n := by
  induction h with
  | nil => simp
  | int _ _ _ ih =>
    refine List.forall_mem_cons.2 ⟨.int _ _, ih fun t ht ↦ hlex t (List.mem_cons_of_mem _ ht)⟩
  | @atom t _ _ hat hnone _ ih =>
    refine List.forall_mem_cons.2 ⟨.atom _ (hlex t List.mem_cons_self) hat.1 hat.2 hnone, ?_⟩
    exact ih fun t' ht' ↦ hlex t' (List.mem_cons_of_mem _ ht')
  | list _ _ _ _ ih₁ ih₂ =>
    refine List.forall_mem_cons.2 ⟨.list _ (ih₁ fun t ht ↦ hlex t (by simp [ht])), ?_⟩
    exact ih₂ fun t ht ↦ hlex t (by simp [ht])

def PrintsBack (ns : List Node) : Prop :=
  ∀ pos rest ts, (∀ c ∈ rest.head?, isWordChar c = false) →
    Segments (pos + (renderAll ns).utf8ByteSize) rest ts →
    ∃ extra ns', Segments pos ((renderAll ns).toList ++ rest) (extra ++ ts) ∧
      Flattens Span.merge ns' extra ∧ ns'.map eraseSpans = ns.map eraseSpans

theorem printsBack_nil : PrintsBack [] := fun _ _ _ _ h ↦
  ⟨[], [], by simpa [renderAll] using h, .nil, rfl⟩

theorem printsBack_int (v : Int64) (span : Span) : PrintsBack [.int v span] := by
  intro pos rest ts hb hrest
  have hlex := lexeme_toString_int v.toInt
  refine ⟨[⟨.word, toString v.toInt, ⟨pos, pos + (toString v.toInt).utf8ByteSize⟩⟩],
    [.int v ⟨pos, pos + (toString v.toInt).utf8ByteSize⟩], ?_,
    .int (t := ⟨.word, toString v.toInt, ⟨pos, pos + (toString v.toInt).utf8ByteSize⟩⟩)
      ⟨by simp, by simp⟩ (readInt64?_toString v) .nil, by simp [eraseSpans, mapSpans]⟩
  simp only [renderAll, render] at hrest ⊢
  exact Segments.cons rfl hlex (by simp) (fun _ ↦ hb) (by simpa using hrest)

theorem printsBack_atom {k : TokenKind} {text : String} (hlex : Lexeme k text.toList)
    (hopen : k ≠ .openParen) (hclose : k ≠ .closeParen) (hnone : readInt64? text = none)
    (span : Span) : PrintsBack [.atom text span] := by
  intro pos rest ts hb hrest
  refine ⟨[⟨k, text, ⟨pos, pos + text.utf8ByteSize⟩⟩], [.atom text ⟨pos, pos + text.utf8ByteSize⟩],
    ?_, .atom (t := ⟨k, text, ⟨pos, pos + text.utf8ByteSize⟩⟩) ⟨hopen, hclose⟩ hnone .nil,
    by simp [eraseSpans, mapSpans]⟩
  simp only [renderAll, render] at hrest ⊢
  exact Segments.cons rfl hlex (by simp) (fun _ ↦ hb) (by simpa using hrest)

theorem printsBack_list {items : List Node} (h : PrintsBack items) (span : Span) :
    PrintsBack [.list items span] := by
  intro pos rest ts _ hrest
  have htext : (renderAll [.list items span]).toList =
      '(' :: ((renderAll items).toList ++ [')']) := by
    simp [renderAll, render]
  have hsize : (renderAll [.list items span]).utf8ByteSize =
      1 + (renderAll items).utf8ByteSize + 1 := by
    rw [← byteLength_toList, htext]
    simp [Nat.add_assoc]
  -- the elements stand between the two parentheses, the closing one at byte `q`
  obtain ⟨q, hq⟩ : ∃ q, pos + 1 + (renderAll items).utf8ByteSize = q := ⟨_, rfl⟩
  have hclose : Segments q (')' :: rest) (⟨.closeParen, ")", ⟨q, q + 1⟩⟩ :: ts) := by
    rw [hsize, ← Nat.add_assoc, ← Nat.add_assoc, hq] at hrest
    exact @Segments.cons _ [')'] rest _ ts (by simp) .closeParen (by simp) (by simp)
      (by simpa using hrest)
  obtain ⟨mid, items', hmid, hfl, her⟩ :=
    h (pos + 1) (')' :: rest) _ (by simp; decide) (by rw [hq]; exact hclose)
  have hopen := @Segments.cons pos ['('] _ ⟨.openParen, "(", ⟨pos, pos + 1⟩⟩ _ (by simp)
    .openParen (by simp) (by simp) (by simpa using hmid)
  refine ⟨_ :: (mid ++ [_]), [.list items' (Span.merge ⟨pos, pos + 1⟩ ⟨q, q + 1⟩)], ?_,
    .list (o := ⟨.openParen, "(", ⟨pos, pos + 1⟩⟩) (c := ⟨.closeParen, ")", ⟨q, q + 1⟩⟩)
      rfl rfl hfl .nil, by simp [her]⟩
  rw [htext]
  simpa using hopen

theorem PrintsBack.cons {n m : Node} {ns : List Node} (hn : PrintsBack [n])
    (hr : PrintsBack (m :: ns)) : PrintsBack (n :: m :: ns) := by
  intro pos rest ts hb hrest
  have hspace : ' '.utf8Size = 1 := rfl
  have htext : (renderAll (n :: m :: ns)).toList =
      (renderAll [n]).toList ++ ' ' :: (renderAll (m :: ns)).toList := by
    simp [renderAll]
  have hsize : (renderAll (n :: m :: ns)).utf8ByteSize =
      (renderAll [n]).utf8ByteSize + 1 + (renderAll (m :: ns)).utf8ByteSize := by
    rw [← byteLength_toList, htext]
    simp [hspace, Nat.add_assoc]
  -- the later expressions come first, read from the byte after the space, which then joins the
  -- gap before them and is what follows the first expression
  obtain ⟨extra₂, ns₂, hseg₂, hfl₂, her₂⟩ := hr (pos + (renderAll [n]).utf8ByteSize + 1) rest ts hb
    (by simpa [hsize, Nat.add_assoc] using hrest)
  have hgap : Segments (pos + (renderAll [n]).utf8ByteSize)
      (' ' :: ((renderAll (m :: ns)).toList ++ rest)) (extra₂ ++ ts) :=
    Segments.prepend (.blank (by decide) .nil : Gap [' ']) (by simpa [hspace] using hseg₂)
  obtain ⟨extra₁, ns₁, hseg₁, hfl₁, her₁⟩ := hn pos _ _ (by simp; decide) hgap
  refine ⟨extra₁ ++ extra₂, ns₁ ++ ns₂, ?_, hfl₁.append hfl₂, ?_⟩
  · rw [htext]
    simpa using hseg₁
  · rw [List.map_append, her₁, her₂]
    rfl

theorem printsBack_of_forall {ns : List Node} (h : ∀ n ∈ ns, PrintsBack [n]) : PrintsBack ns := by
  induction ns with
  | nil => exact printsBack_nil
  | cons n rest ih =>
    cases rest with
    | nil => exact h n List.mem_cons_self
    | cons m rest =>
      exact (h n List.mem_cons_self).cons (ih fun x hx ↦ h x (List.mem_cons_of_mem _ hx))

theorem Printable.printsBack {n : Node} (h : Printable n) : PrintsBack [n] := by
  induction h with
  | int v span => exact printsBack_int v span
  | atom span hlex hopen hclose hnone => exact printsBack_atom hlex hopen hclose hnone span
  | list span _ ih => exact printsBack_list (printsBack_of_forall ih) span

end Node

theorem parseProgram_printable {s : String} {p : List Node} (h : parseProgram s = .ok p) :
    ∀ n ∈ p, n.Printable := by
  unfold parseProgram at h
  split at h
  · cases h
  · rename_i ts hts
    exact ((ofTokens_ok_iff_flattens p).1 h).printable (tokenize_segments hts).lexeme

/-- Printing a parsed program, its expressions separated by single spaces, and parsing the text
again gives the same program up to spans; printing that gives the same text. -/
theorem parseProgram_printed {s : String} {p : List Node} (h : parseProgram s = .ok p) :
    ∃ p', parseProgram (String.intercalate " " (p.map Node.render)) = .ok p' ∧
      p'.map Node.eraseSpans = p.map Node.eraseSpans ∧
      String.intercalate " " (p'.map Node.render) = String.intercalate " " (p.map Node.render) := by
  have hprint := parseProgram_printable h
  obtain ⟨ts, p', hseg, hfl, her⟩ := Node.printsBack_of_forall (fun n hn ↦ (hprint n hn).printsBack)
    0 [] [] (by simp) (.last (.gap .nil))
  rw [List.append_nil, List.append_nil] at hseg
  have htok : tokenize (Node.renderAll p) = .ok ts := tokenize_eq_ok_iff.2 hseg
  refine ⟨p', ?_, her, ?_⟩
  · rw [← Node.renderAll_eq_intercalate]
    simp only [parseProgram, htok]
    exact (ofTokens_ok_iff_flattens p').2 hfl
  · rw [← Node.renderAll_eq_intercalate, ← Node.renderAll_eq_intercalate,
      ← Node.renderAll_map_eraseSpans p', her, Node.renderAll_map_eraseSpans]

theorem parseProgram_printed_numerals :
    parseProgram "(f  007 \"a b\") ; note\n-0 x-y #" = .ok [
      .list [.atom "f" ⟨1, 2⟩, .int 7 ⟨4, 7⟩, .atom "\"a b\"" ⟨8, 13⟩] ⟨0, 14⟩,
      .int 0 ⟨22, 24⟩, .atom "x-y" ⟨25, 28⟩, .atom "#" ⟨29, 30⟩] ∧
    String.intercalate " " ([Node.list [.atom "f" ⟨1, 2⟩, .int 7 ⟨4, 7⟩, .atom "\"a b\"" ⟨8, 13⟩]
      ⟨0, 14⟩, .int 0 ⟨22, 24⟩, .atom "x-y" ⟨25, 28⟩, .atom "#" ⟨29, 30⟩].map Node.render) =
      "(f 7 \"a b\") 0 x-y #" ∧
    ∃ p', parseProgram (String.intercalate " " ([Node.list [.atom "f" ⟨1, 2⟩, .int 7 ⟨4, 7⟩,
        .atom "\"a b\"" ⟨8, 13⟩] ⟨0, 14⟩, .int 0 ⟨22, 24⟩, .atom "x-y" ⟨25, 28⟩,
        .atom "#" ⟨29, 30⟩].map Node.render)) = .ok p' ∧
      p'.map Node.eraseSpans = ([Node.list [.atom "f" ⟨1, 2⟩, .int 7 ⟨4, 7⟩,
        .atom "\"a b\"" ⟨8, 13⟩] ⟨0, 14⟩, .int 0 ⟨22, 24⟩, .atom "x-y" ⟨25, 28⟩,
        .atom "#" ⟨29, 30⟩].map Node.eraseSpans) ∧
      String.intercalate " " (p'.map Node.render) = String.intercalate " " ([Node.list
        [.atom "f" ⟨1, 2⟩, .int 7 ⟨4, 7⟩, .atom "\"a b\"" ⟨8, 13⟩] ⟨0, 14⟩, .int 0 ⟨22, 24⟩,
        .atom "x-y" ⟨25, 28⟩, .atom "#" ⟨29, 30⟩].map Node.render) :=
  have h : parseProgram "(f  007 \"a b\") ; note\n-0 x-y #" = .ok [
      .list [.atom "f" ⟨1, 2⟩, .int 7 ⟨4, 7⟩, .atom "\"a b\"" ⟨8, 13⟩] ⟨0, 14⟩,
      .int 0 ⟨22, 24⟩, .atom "x-y" ⟨25, 28⟩, .atom "#" ⟨29, 30⟩] := rfl
  ⟨h, rfl, parseProgram_printed h⟩

end WordLang

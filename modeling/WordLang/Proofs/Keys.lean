import Mathlib.Tactic.SplitIfs
import Std.Data.String.ToNat
import WordLang.Env
import WordLang.Eval.Program

namespace WordLang

namespace Env

def Plain (name : String) : Prop := ∀ n, name ≠ tempKey n

theorem toList_tempKey (n : Nat) :
    (tempKey n).toList = '#' :: 't' :: 'm' :: 'p' :: Nat.toDigits 10 n := by
  simp [tempKey, String.toList_append]

theorem tempKey_injective : Function.Injective tempKey := by
  intro a b h
  have h' : toString a = toString b := (String.append_right_inj _).1 h
  simpa using h'

theorem tempKey_inj {a b : Nat} : tempKey a = tempKey b ↔ a = b :=
  tempKey_injective.eq_iff

theorem plain_of_head {name : String} (h : name.toList.head? ≠ some '#') : Plain name := by
  rintro n rfl
  simp [toList_tempKey] at h

theorem plain_of_not_mem {name : String} (h : '#' ∉ name.toList) : Plain name := by
  apply plain_of_head
  intro hd
  exact h (List.mem_of_mem_head? hd)

theorem plain_singleton (c : Char) : Plain (String.singleton c) := by
  intro n h
  have h' := congrArg String.toList h
  simp [toList_tempKey] at h'

theorem plain_toString_int (i : Int) : Plain (toString i) := by
  apply plain_of_not_mem
  have digits : ∀ m : Nat, '#' ∉ Nat.toDigits 10 m := fun m h ↦ by
    simpa using Nat.isDigit_of_mem_toDigits (by decide) (by decide) h
  cases i with
  | ofNat m => simpa [Int.repr] using digits m
  | negSucc m => simpa [Int.repr, String.toList_append] using digits (m + 1)

end Env

open Env

/-- An expression none of whose atoms is the key of a temporary. -/
inductive Node.Clean : Node → Prop
  | int (v : Int64) (span : Span) : Node.Clean (.int v span)
  | atom {text : String} (span : Span) : Plain text → Node.Clean (.atom text span)
  | list {items : List Node} (span : Span) : (∀ n ∈ items, Node.Clean n) →
      Node.Clean (.list items span)

theorem Node.clean_list_iff {items : List Node} {span : Span} :
    (Node.list items span).Clean ↔ ∀ n ∈ items, n.Clean :=
  ⟨fun h ↦ by cases h with | list _ h => exact h, .list span⟩

theorem Node.clean_atom_iff {text : String} {span : Span} :
    (Node.atom text span).Clean ↔ Plain text :=
  ⟨fun h ↦ by cases h with | atom _ h => exact h, .atom span⟩

theorem Exec.paramName_plain {n : Node} {p : String} (hn : n.Clean)
    (h : Exec.paramName n = some p) : Plain p := by
  cases hn with
  | int v span =>
    simp only [Exec.paramName, Option.some.injEq] at h
    exact h ▸ plain_toString_int _
  | atom span ht =>
    simp only [Exec.paramName, Option.some.injEq] at h
    exact h ▸ ht
  | list span _ => simp [Exec.paramName] at h

section Scanning

def ScanState.Holds : ScanState → Prop
  | .gap | .comment => True
  | .word _ chars => ∀ c ∈ chars, isWordChar c = true
  | .str _ chars _ => chars.getLast? = some '"'

theorem isWordChar_hash : isWordChar '#' = false := by decide

theorem plain_wordToken {chars : List Char} (h : ∀ c ∈ chars, isWordChar c = true)
    (start stop : Nat) : Plain (ScanState.wordToken start stop chars).text := by
  apply plain_of_not_mem
  intro hc
  have hw := h '#' (by simpa [ScanState.wordToken] using hc)
  rw [isWordChar_hash] at hw
  cases hw

theorem plain_strToken {chars : List Char} (h : chars.getLast? = some '"') (c : Char) :
    Plain (String.ofList (c :: chars).reverse) := by
  apply plain_of_head
  obtain ⟨init, rfl⟩ : ∃ init, chars = init ++ ['"'] := by
    rcases List.getLast?_eq_some_iff.1 h with ⟨init, h'⟩
    exact ⟨init, h'⟩
  simp

theorem forall_plain_cons {t : Token} {toks : List Token} (h : Plain t.text)
    (ht : ∀ t ∈ toks, Plain t.text) : ∀ t' ∈ t :: toks, Plain t'.text :=
  List.forall_mem_cons.2 ⟨h, ht⟩

theorem plain_paren_open : Plain "(" := plain_of_head (by simp)

theorem plain_paren_close : Plain ")" := plain_of_head (by simp)

theorem begin_plain {c : Char} {pos : Nat} {toks toks' : List Token} {st : ScanState}
    (h : ScanState.begin c pos toks = .ok (st, toks')) (ht : ∀ t ∈ toks, Plain t.text) :
    st.Holds ∧ ∀ t ∈ toks', Plain t.text := by
  unfold ScanState.begin at h
  split_ifs at h with h1 h2 h3 h4 h5 h6 h7 <;> cases h
  · exact ⟨trivial, ht⟩
  · exact ⟨trivial, ht⟩
  · exact ⟨trivial, forall_plain_cons plain_paren_open ht⟩
  · exact ⟨trivial, forall_plain_cons plain_paren_close ht⟩
  · exact ⟨rfl, ht⟩
  · exact ⟨by simpa [ScanState.Holds] using h7, ht⟩
  · refine ⟨trivial, forall_plain_cons ?_ ht⟩
    simpa [Char.toString_eq_singleton] using plain_singleton c

theorem finish_plain {st : ScanState} {pos : Nat} {toks ts : List Token}
    (h : ScanState.finish st pos toks = .ok ts) (hs : st.Holds)
    (ht : ∀ t ∈ toks, Plain t.text) : ∀ t ∈ ts, Plain t.text := by
  cases st with
  | gap =>
    simp only [ScanState.finish, Except.ok.injEq] at h
    simpa [← h] using ht
  | comment =>
    simp only [ScanState.finish, Except.ok.injEq] at h
    simpa [← h] using ht
  | word start chars =>
    simp only [ScanState.finish, Except.ok.injEq] at h
    have hall := forall_plain_cons (plain_wordToken hs start pos) ht
    intro t htm
    exact hall t (by simpa [← h, or_comm] using htm)
  | str => simp [ScanState.finish] at h

theorem run_plain {cs : List Char} :
    ∀ {st : ScanState} {pos : Nat} {toks ts : List Token},
      ScanState.run st pos cs toks = .ok ts → st.Holds → (∀ t ∈ toks, Plain t.text) →
      ∀ t ∈ ts, Plain t.text := by
  induction cs with
  | nil => intro st pos toks ts h hs ht; exact finish_plain (by simpa [ScanState.run] using h) hs ht
  | cons c cs ih =>
    intro st pos toks ts h hs ht
    cases st with
    | gap =>
      simp only [ScanState.run, bind, Except.bind] at h
      split at h
      · cases h
      · rename_i p hb
        obtain ⟨hs', ht'⟩ := begin_plain hb ht
        exact ih h hs' ht'
    | word start chars =>
      simp only [ScanState.run] at h
      split_ifs at h with hw
      · refine ih h ?_ ht
        intro d hd
        rcases List.mem_cons.1 hd with rfl | hd
        · exact hw
        · exact hs d hd
      · simp only [bind, Except.bind] at h
        split at h
        · cases h
        · rename_i p hb
          have ht₁ := forall_plain_cons (plain_wordToken hs start pos) ht
          obtain ⟨hs', ht'⟩ := begin_plain hb ht₁
          exact ih h hs' ht'
    | comment =>
      simp only [ScanState.run] at h
      exact ih h (by split <;> trivial) ht
    | str start chars escaped =>
      have hs' : chars.getLast? = some '"' := hs
      have hq : (c :: chars).getLast? = some '"' := by simp [List.getLast?_cons, hs']
      simp only [ScanState.run] at h
      split_ifs at h
      · exact ih h hq ht
      · exact ih h hq ht
      · exact ih h trivial (forall_plain_cons (plain_strToken hs c) ht)
      · exact ih h hq ht

theorem tokenize_plain {src : String} {ts : List Token} (h : tokenize src = .ok ts) :
    ∀ t ∈ ts, Plain t.text :=
  run_plain h trivial (by simp)

end Scanning

section Reading

theorem Node.ofAtomToken_clean {t : Token} (ht : Plain t.text) : (Node.ofAtomToken t).Clean := by
  unfold Node.ofAtomToken
  split
  · exact .int _ _
  · exact .atom _ ht

def Node.OpenClean (opened : List Node.OpenList) (done : List Node) : Prop :=
  (∀ o ∈ opened, ∀ n ∈ o.2, n.Clean) ∧ ∀ n ∈ done, n.Clean

theorem Node.place_clean {n : Node} {opened : List Node.OpenList} {done : List Node}
    (hn : n.Clean) (h : OpenClean opened done) :
    OpenClean (Node.place n opened done).1 (Node.place n opened done).2 := by
  obtain ⟨ho, hd⟩ := h
  cases opened with
  | nil => exact ⟨by simp [Node.place], by simpa [Node.place] using ⟨hn, hd⟩⟩
  | cons o rest =>
    refine ⟨?_, hd⟩
    intro o' ho' m hm
    simp only [Node.place, List.mem_cons] at ho'
    rcases ho' with rfl | ho'
    · rcases List.mem_cons.1 hm with rfl | hm
      · exact hn
      · exact ho o (by simp) m hm
    · exact ho o' (by simp [ho']) m hm

theorem Node.build_clean {ts : List Token} (hts : ∀ t ∈ ts, Plain t.text) :
    ∀ {opened : List Node.OpenList} {done prog : List Node},
      Node.build opened done ts = .ok prog → OpenClean opened done → ∀ n ∈ prog, n.Clean := by
  induction ts with
  | nil =>
    intro opened done prog h hc
    cases opened with
    | nil =>
      simp only [Node.build, Except.ok.injEq] at h
      intro n hn
      exact hc.2 n (by simpa [← h] using hn)
    | cons o rest => simp [Node.build] at h
  | cons t ts ih =>
    intro opened done prog h hc
    have hts' : ∀ t' ∈ ts, Plain t'.text := fun t' ht' ↦ hts t' (List.mem_cons_of_mem _ ht')
    have hopen : OpenClean ((t.span, []) :: opened) done := by
      refine ⟨?_, hc.2⟩
      intro o ho n hn
      rcases List.mem_cons.1 ho with rfl | ho
      · simp at hn
      · exact hc.1 o ho n hn
    have hatom := Node.place_clean (Node.ofAtomToken_clean (hts t (by simp))) hc
    rcases opened with _ | ⟨⟨o, items⟩, rest⟩ <;> simp only [Node.build] at h <;> split at h
    · exact ih hts' h hopen
    · cases h
    · exact ih hts' h hatom
    · exact ih hts' h hopen
    · have hitems : (Node.list items.reverse (o.merge t.span)).Clean :=
        .list _ fun n hn ↦ hc.1 (o, items) (by simp) n (by simpa using hn)
      have hrest : OpenClean rest done := ⟨fun o' ho' ↦ hc.1 o' (by simp [ho']), hc.2⟩
      exact ih hts' h (Node.place_clean hitems hrest)
    · exact ih hts' h hatom

theorem parseProgram_clean {src : String} {prog : List Node} (h : parseProgram src = .ok prog) :
    ∀ n ∈ prog, n.Clean := by
  unfold parseProgram at h
  split at h
  · cases h
  · rename_i ts hts
    exact Node.build_clean (tokenize_plain hts) h ⟨by simp, by simp⟩

end Reading

end WordLang

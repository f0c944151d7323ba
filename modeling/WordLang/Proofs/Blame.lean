import WordLang.Proofs.ScanFaults
import WordLang.Proofs.Termination

namespace WordLang

namespace Node

mutual

def spans : Node → List Span
  | .int _ s => [s]
  | .atom _ s => [s]
  | .list items s => s :: spansAll items

def spansAll : List Node → List Span
  | [] => []
  | n :: rest => n.spans ++ spansAll rest

end

def SpansIn (S : Span → Prop) (n : Node) : Prop := ∀ sp ∈ n.spans, S sp

variable {S : Span → Prop}

theorem span_mem_spans (n : Node) : n.span ∈ n.spans := by
  cases n <;> simp [spans, span]

theorem SpansIn.span {n : Node} (h : n.SpansIn S) : S n.span := h _ (span_mem_spans n)

theorem forall_mem_spansAll {items : List Node} :
    (∀ sp ∈ spansAll items, S sp) ↔ ∀ n ∈ items, n.SpansIn S := by
  induction items with
  | nil => simp [spansAll]
  | cons n rest ih =>
    simp only [spansAll, List.mem_append, or_imp, forall_and, ih, List.forall_mem_cons, SpansIn]

theorem spansIn_list_iff {items : List Node} {span : Span} :
    (Node.list items span).SpansIn S ↔ S span ∧ ∀ n ∈ items, n.SpansIn S := by
  simp only [SpansIn, spans, List.forall_mem_cons]
  rw [forall_mem_spansAll]
  rfl

theorem spansIn_spansAll {prog : List Node} : ∀ n ∈ prog, n.SpansIn (· ∈ spansAll prog) :=
  forall_mem_spansAll.1 fun _ h ↦ h

end Node

namespace Env

variable {S : Span → Prop} {e e' : Env}

def BodiesIn (S : Span → Prop) (e : Env) : Prop :=
  ∀ (name : String) (params : List String) (body : List Node),
    e.funcs[name]? = some (.user params body) → ∀ b ∈ body, b.SpansIn S

theorem BodiesIn.of_funcs (h : e.BodiesIn S) (hf : e'.funcs = e.funcs) : e'.BodiesIn S := by
  intro name params body hb
  rw [hf] at hb
  exact h name params body hb

theorem BodiesIn.defineFunction (h : e.BodiesIn S) (name : String) (params : List String)
    {body : List Node} (hb : ∀ b ∈ body, b.SpansIn S) :
    (e.defineFunction name params body).BodiesIn S := by
  intro f ps bs hf
  simp only [Env.defineFunction, Std.TreeMap.getElem?_insert] at hf
  split at hf
  · cases hf
    exact hb
  · exact h f ps bs hf

theorem bodiesIn_initial : initial.BodiesIn S := by
  -- the initial functions are the built-ins, inserted one after another into the empty table
  have hfold : ∀ (bs : List Builtin) (t : Std.TreeMap String Callable),
      (∀ (name : String) params body, t[name]? = some (Callable.user params body) →
        ∀ b ∈ body, Node.SpansIn S b) →
      ∀ (name : String) params body, (bs.foldl (fun t b ↦ t.insert b.name (.builtin b)) t)[name]? =
        some (Callable.user params body) → ∀ b ∈ body, Node.SpansIn S b := by
    intro bs
    induction bs with
    | nil => exact fun _ ht ↦ ht
    | cons b bs ih =>
      intro t ht
      apply ih
      intro name params body hlook
      rw [Std.TreeMap.getElem?_insert] at hlook
      split at hlook
      · cases hlook
      · exact ht name params body hlook
  intro name params body hlook
  have hempty : ∀ (name : String) params body, ({} : Std.TreeMap String Callable)[name]? =
      some (Callable.user params body) → ∀ b ∈ body, Node.SpansIn S b := by
    intro _ _ _ h
    simp at h
  exact hfold Builtin.all {} hempty name params body hlook

end Env

namespace Exec

variable {α β : Type} {S : Span → Prop} {ev : Node → Exec (Option Cell)}

/-- The step keeps the function bodies within `S`, and every evaluation error it raises blames
a span in `S`. -/
def Blames (S : Span → Prop) (x : Exec α) : Prop :=
  ∀ (cfg : Config) (m : Machine), cfg.store = .arenas → m.env.BodiesIn S →
    (x.execute cfg m).2.env.BodiesIn S ∧ ∀ e, (x.execute cfg m).1 = .error (.error e) → S e.span

namespace Blames

theorem of_funcs {x : Exec α} (h : ∀ cfg m, cfg.store = .arenas →
    (x.execute cfg m).2.env.funcs = m.env.funcs ∧
      ∀ e, (x.execute cfg m).1 = .error (.error e) → S e.span) : Blames S x :=
  fun cfg m hs hb ↦ ⟨hb.of_funcs (h cfg m hs).1, (h cfg m hs).2⟩

theorem bind {x : Exec α} {f : α → Exec β} (hx : Blames S x) (hf : ∀ a, Blames S (f a)) :
    Blames S (x >>= f) := by
  intro cfg m hs hb
  obtain ⟨hb', he⟩ := hx cfg m hs hb
  rw [execute_bind]
  rcases h : x.execute cfg m with ⟨e | a, m'⟩
  · rw [h] at hb' he
    dsimp only at hb' he ⊢
    exact ⟨hb', fun e' h' ↦ he e' (congrArg _ (Except.error.inj h'))⟩
  · rw [h] at hb'
    dsimp only
    exact hf a cfg m' hs hb'

theorem pure (a : α) : Blames S (Pure.pure a : Exec α) :=
  of_funcs fun _ _ _ ↦ ⟨rfl, by simp⟩

theorem throw (f : Fault) (hf : ∀ e, f = .error e → S e.span) :
    Blames S (MonadExcept.throw f : Exec α) :=
  of_funcs fun _ _ _ ↦ ⟨rfl, fun e h ↦ hf e (by simpa using h)⟩

theorem fail {e : EvalError} (he : S e.span) : Blames S (Exec.fail e : Exec α) :=
  of_funcs fun _ _ _ ↦ ⟨rfl, fun e' h ↦ by simp at h; exact h ▸ he⟩

theorem read : Blames S (MonadReader.read : Exec Config) := of_funcs fun _ _ _ ↦ ⟨rfl, by simp⟩

theorem depth : Blames S Exec.depth := of_funcs fun _ _ _ ↦ ⟨rfl, by simp⟩

theorem emit (ev : Event) : Blames S (Exec.emit ev) :=
  of_funcs fun _ _ _ ↦ by rw [execute_emit]; exact ⟨rfl, by simp⟩

theorem printLine (text : String) {span : Span} (hspan : S span) :
    Blames S (Exec.printLine text span) := by
  refine read.bind fun c ↦ ?_
  split
  · exact fail hspan
  · exact of_funcs fun _ _ _ ↦ ⟨rfl, by simp⟩

theorem env_bind {f : Env → Exec α} (hf : ∀ e : Env, e.BodiesIn S → Blames S (f e)) :
    Blames S (Exec.env >>= f) := by
  intro cfg m hs hb
  rw [execute_bind_ok execute_env]
  exact hf m.env hb cfg m hs hb

theorem modifyEnv {f : Env → Env} (hf : ∀ e, e.BodiesIn S → (f e).BodiesIn S) :
    Blames S (Exec.modifyEnv f) := by
  intro cfg m _ hb
  rw [execute_modifyEnv]
  exact ⟨hf m.env hb, by simp⟩

theorem temporary (v : Variable) : Blames S (Exec.temporary v) := by
  refine of_funcs fun cfg m hs ↦ ?_
  rw [execute_temporary, hs]
  exact ⟨by simp [Env.temporary], by simp⟩

theorem releaseSince (mark : Nat) (keep : Option Cell) : Blames S (Exec.releaseSince mark keep) := by
  refine of_funcs fun cfg m hs ↦ ?_
  obtain ⟨evs, h⟩ := execute_releaseSince cfg m mark keep
  rw [h, hs]
  exact ⟨Env.funcs_releaseSince _ _ _, by simp⟩

theorem inFrame {body : Exec (Option Cell)} (hb : Blames S body) : Blames S (Exec.inFrame body) := by
  intro cfg m hs hw
  rw [execute_inFrame_eq]
  obtain ⟨hw', he⟩ := hb { cfg with depth := cfg.depth + 1 } (enterFrame cfg m) hs hw
  refine ⟨hw'.of_funcs ?_, he⟩
  simp only [leaveFrame, hs, Store.arenas_popFrame]
  exact Env.funcs_popFrame _ _

def unary (S : Span → Prop) : Unary where
  P c _ x := c → Blames S x
  Ok := Node.SpansIn S
  Sp := S
  EnvOk := Env.BodiesIn S

theorem rules : (unary S).Rules where
  mono hc hx h := hx (hc h)
  bind hx hf hc := (hx hc).bind fun a ↦ hf a hc
  stuck _ := ⟨MonadExcept.throw .outOfFuel, fun _ ↦ throw .outOfFuel fun _ h ↦ by cases h⟩
  pure a _ := pure a
  fail hsp hc := fail (hsp hc)
  emit ev _ := emit ev
  depth _ := depth
  env hf hc := env_bind fun e he ↦ hf e ⟨hc, he⟩
  temporary v _ := temporary v
  releaseSince _ _ _ := releaseSince _ _
  printLine text := fun hsp hc ↦ printLine text (hsp hc)
  define name := fun hok hc ↦ modifyEnv fun _ he ↦
    he.defineFunction name _ fun b hb ↦ hok hc b (List.mem_filter.1 hb).1
  declared _ _ _ := modifyEnv fun _ he ↦ he.of_funcs rfl
  rebind _ _ _ := modifyEnv fun e he ↦ he.of_funcs (Env.funcs_rebind e _ _)
  inFrame hb hc := inFrame (hb hc)
  span h := h.span
  list h := Node.spansIn_list_iff.1 h

theorem callUser (hev : ∀ n, n.SpansIn S → Blames S (ev n)) (name : String)
    (params : List String) {body : List Node} (args : List Cell) {span : Span} (hspan : S span)
    (hbody : ∀ b ∈ body, b.SpansIn S) : Blames S (Exec.callUser ev name params body args span) := by
  intro cfg m hs hb
  rw [execute_callUser]
  split_ifs with harity hlimit
  · exact ⟨hb, fun e h ↦ by simp at h; exact h ▸ hspan⟩
  · exact ⟨hb, fun e h ↦ by simp at h; exact h ▸ hspan⟩
  · dsimp only
    have hb₁ : (Env.bindAll cfg.depth m.env (params.zip args) []).2.BodiesIn S :=
      hb.of_funcs (Env.funcs_bindAll _ _ _ _)
    obtain ⟨hb₂, he⟩ := rules.sequence hev body hbody cfg
      { m with env := (Env.bindAll cfg.depth m.env (params.zip args) []).2, calls := m.calls + 1 }
      hs hb₁
    exact ⟨hb₂.of_funcs (Env.funcs_restoreAll _ _), he⟩

theorem calls (hev : ∀ n, n.SpansIn S → Blames S (ev n)) : (unary S).walk.Calls ev :=
  Unary.calls fun name _ _ params body args hcallee hc ↦
    callUser hev name params args hc.1 (hc.2 name params body hcallee)

theorem eval (fuel : Nat) : ∀ n : Node, n.SpansIn S → Blames S (Exec.eval fuel n) :=
  rules.eval calls (fun _ ↦ throw .outOfFuel fun _ h ↦ by cases h) fuel

theorem program {prog : List Node} (hprog : ∀ n ∈ prog, n.SpansIn S) (fuel : Nat) :
    Blames S (Exec.program fuel prog) :=
  rules.program (eval fuel) prog hprog

end Blames

end Exec

theorem isValid_of_split {s : String} {pre mid post : List Char}
    (h : s.toList = pre ++ mid ++ post) :
    (⟨byteLength pre⟩ : String.Pos.Raw).IsValid s ∧
      (⟨byteLength pre + byteLength mid⟩ : String.Pos.Raw).IsValid s ∧
      byteLength pre + byteLength mid ≤ s.utf8ByteSize := by
  have hs : s = String.ofList pre ++ String.ofList mid ++ String.ofList post := by
    rw [← String.ofList_toList (s := s), h, String.ofList_append, String.ofList_append]
  refine ⟨?_, ?_, ?_⟩
  · exact String.Pos.Raw.isValid_iff_exists_append.2
      ⟨String.ofList pre, String.ofList mid ++ String.ofList post, by rw [hs, String.append_assoc],
        rfl⟩
  · exact String.Pos.Raw.isValid_iff_exists_append.2
      ⟨String.ofList pre ++ String.ofList mid, String.ofList post, hs, by
        simp [String.rawEndPos, String.utf8ByteSize_append, byteLength]⟩
  · rw [← byteLength_toList, h, byteLength_append, byteLength_append]
    omega

theorem parseProgram_error_span {src : String} {e : ParseError} (h : parseProgram src = .error e) :
    e.span.start < e.span.stop ∧ e.span.stop ≤ src.utf8ByteSize ∧
      (⟨e.span.start⟩ : String.Pos.Raw).IsValid src ∧
      (⟨e.span.stop⟩ : String.Pos.Raw).IsValid src := by
  unfold parseProgram at h
  split at h
  · -- a fault of the scanner: a backslash, or an open literal up to the end
    rename_i le hle
    cases h
    rcases (tokenize_eq_error_iff.1 hle).at_fault with ⟨pre, post, hs, rfl⟩ |
      ⟨pre, body, hs, _, rfl⟩
    · have hsplit : src.toList = pre ++ ['\\'] ++ post := by rw [hs]; simp
      obtain ⟨hv₁, hv₂, hle'⟩ := isValid_of_split hsplit
      simp only [byteLength_cons, byteLength_nil, utf8Size_backslash, Nat.add_zero] at hv₂ hle'
      simp only [ParseError.span, Nat.zero_add]
      exact ⟨Nat.lt_succ_self _, hle', hv₁, hv₂⟩
    · have hsplit : src.toList = pre ++ ('"' :: body) ++ [] := by rw [hs, List.append_nil]
      obtain ⟨hv₁, hv₂, -⟩ := isValid_of_split hsplit
      have hend : byteLength pre + byteLength ('"' :: body) = src.utf8ByteSize := by
        rw [← byteLength_toList, hs, byteLength_append]
      rw [hend] at hv₂
      simp only [ParseError.span, Nat.zero_add, byteLength_toList]
      refine ⟨?_, le_refl _, hv₁, hv₂⟩
      rw [← hend, byteLength_cons, utf8Size_quote]
      omega
  · -- a fault of the reader points at a parenthesis token
    rename_i ts hts
    have htok : ∃ t ∈ ts, t.span = e.span := by
      cases e with
      | unbalancedClose sp =>
        obtain ⟨pre, t, post, rfl, -, -, hsp⟩ := (ofTokens_unbalancedClose_iff sp).1 h
        exact ⟨t, by simp, hsp⟩
      | unbalancedParen sp =>
        obtain ⟨-, pre, t, post, rfl, -, -, hsp⟩ := (ofTokens_unbalancedParen_iff sp).1 h
        exact ⟨t, by simp, hsp⟩
      | lex le => exact absurd h (Node.build_ne_lex ts [] [] le)
    obtain ⟨t, ht, hsp⟩ := htok
    have hseg := tokenize_segments hts
    obtain ⟨pre, post, hcs, htspan⟩ := hseg.split t ht
    obtain ⟨hv₁, hv₂, hle⟩ := isValid_of_split hcs
    have hlt := hseg.start_lt_stop t ht
    rw [← hsp, htspan] at *
    simp only [Nat.zero_add, byteLength_toList] at hv₁ hv₂ hle hlt ⊢
    exact ⟨hlt, hle, hv₁, hv₂⟩

namespace Interpreter

variable {it : Interpreter} {prog : List Node}

theorem runProgram_ne_parse (it : Interpreter) (prog : List Node) (e : ParseError) :
    (it.runProgram prog).1.result ≠ .error (.parse e) := by
  rw [runProgram_result]
  cases hr : ((Exec.program fuel prog).execute it.config it.machine).1 with
  | error f => cases f <;> simp [RunError.ofFault]
  | ok v => simp

theorem runProgram_blames {S : Span → Prop} (hs : it.store = .arenas) (hb : it.env.BodiesIn S)
    (hprog : ∀ n ∈ prog, n.SpansIn S) {e : EvalError}
    (h : (it.runProgram prog).1.result = .error (.eval e)) : S e.span := by
  rw [runProgram_result] at h
  cases hr : ((Exec.program fuel prog).execute it.config it.machine).1 with
  | error f =>
    rw [hr] at h
    cases f with
    | error e' =>
      cases h
      exact (Exec.Blames.program hprog fuel it.config it.machine hs hb).2 _ hr
    | outOfFuel => cases h
  | ok v => rw [hr] at h; cases h

end Interpreter

/-- Every error of a run on a new interpreter points into the source text. A fault of the
scanner or the reader covers a non-empty range of whole characters within the text; an
evaluation error carries exactly the span of an expression of the program, at some depth,
including when it is raised in the body of a function the program defines. -/
theorem run_errors_point_into_source (callLimit : Nat) (verbosity : Verbosity)
    (outputClosed : Bool) (src : String) :
    (∀ e, (({ callLimit := callLimit, verbosity := verbosity, outputClosed := outputClosed } :
        Interpreter).run src).1.result = .error (.parse e) →
      e.span.start < e.span.stop ∧ e.span.stop ≤ src.utf8ByteSize ∧
        (⟨e.span.start⟩ : String.Pos.Raw).IsValid src ∧
        (⟨e.span.stop⟩ : String.Pos.Raw).IsValid src) ∧
    (∀ e, (({ callLimit := callLimit, verbosity := verbosity, outputClosed := outputClosed } :
        Interpreter).run src).1.result = .error (.eval e) →
      ∃ prog, parseProgram src = .ok prog ∧ e.span ∈ Node.spansAll prog) := by
  unfold Interpreter.run
  split
  · rename_i pe hpe
    refine ⟨fun e h ↦ ?_, fun e h ↦ by cases h⟩
    cases h
    exact parseProgram_error_span hpe
  · rename_i prog hprog
    refine ⟨fun e h ↦ absurd h (Interpreter.runProgram_ne_parse _ prog e),
      fun e h ↦ ⟨prog, hprog, ?_⟩⟩
    -- a new interpreter holds no function body
    exact Interpreter.runProgram_blames rfl Env.bodiesIn_initial Node.spansIn_spansAll h

end WordLang

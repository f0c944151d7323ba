import WordLang.Proofs.Exec
import WordLang.Proofs.Spans

namespace WordLang

namespace Exec

variable {α β : Type}

/-- Every answer the step gives, from any machine, is one that `A` allows. -/
def Yields (A : α → Prop) (x : Exec α) : Prop :=
  ∀ cfg m a, (x.execute cfg m).1 = .ok a → A a

namespace Yields

variable {A A' : α → Prop} {B : β → Prop} {x : Exec α}

theorem mono (hx : Yields A x) (h : ∀ a, A a → A' a) : Yields A' x :=
  fun cfg m a ha ↦ h a (hx cfg m a ha)

theorem trivial (x : Exec α) : Yields (fun _ ↦ True) x := fun _ _ _ _ ↦ True.intro

theorem pure {a : α} (ha : A a) : Yields A (Pure.pure a) := fun _ _ _ h ↦ by
  cases h
  exact ha

theorem fail (e : EvalError) : Yields A (Exec.fail e) := fun _ _ _ h ↦ by cases h

theorem throw (f : Fault) : Yields A (MonadExcept.throw f : Exec α) := fun _ _ _ h ↦ by cases h

theorem bind (hx : Yields A x) {f : α → Exec β} (hf : ∀ a, A a → Yields B (f a)) :
    Yields B (x >>= f) := by
  intro cfg m b hb
  rw [execute_bind] at hb
  rcases h : x.execute cfg m with ⟨_ | a, m₁⟩ <;> rw [h] at hb
  · cases hb
  · exact hf a (hx cfg m a (by rw [h])) cfg m₁ b hb

theorem env_bind {f : Env → Exec α} (hf : ∀ e, Yields A (f e)) : Yields A (Exec.env >>= f) :=
  fun cfg m a ha ↦ hf m.env cfg m a (by rwa [execute_bind_ok execute_env] at ha)

theorem inFrame {A : Option Cell → Prop} {body : Exec (Option Cell)} (hb : Yields A body) :
    Yields A (Exec.inFrame body) := fun cfg m a ha ↦ by
  rw [execute_inFrame_eq] at ha
  exact hb _ _ a ha

theorem bind_congr (hx : Yields A x) {f : α → Exec β} (f' : α → Exec β)
    (h : ∀ a, A a → f' a = f a) : x >>= f' = x >>= f := by
  funext cfg m
  show (x >>= f').execute cfg m = (x >>= f).execute cfg m
  rw [execute_bind, execute_bind]
  rcases hr : x.execute cfg m with ⟨_ | a, m₁⟩
  · rfl
  · dsimp only
    rw [h a (hx cfg m a (by rw [hr]))]

theorem bind_of {P : {γ : Type} → Exec γ → Prop}
    (hbind : ∀ {γ δ : Type} {x : Exec γ} {f : γ → Exec δ}, P x → (∀ a, P (f a)) → P (x >>= f))
    (hsome : ∀ γ : Type, ∃ z : Exec γ, P z) (hP : P x) (hx : Yields A x) {f : α → Exec β}
    (hf : ∀ a, A a → P (f a)) : P (x >>= f) := by
  classical
  obtain ⟨z, hz⟩ := hsome β
  rw [← hx.bind_congr (fun a ↦ if A a then f a else z) fun a ha ↦ if_pos ha]
  refine hbind hP fun a ↦ ?_
  by_cases ha : A a
  · simpa only [if_pos ha] using hf a ha
  · simpa only [if_neg ha] using hz

end Yields

/-- What a walk over the forms of the evaluator is about. `R c A x y` relates the step `x` to
the step `y`, which reads each expression with its spans relabeled by `σ`, provided the guard
`c` holds; and `x` answers within `A`. The two sides read environments related by `E`, of which
the first satisfies `EnvOk`; a function body read on the second side is relabeled by a map that
`Adm` allows. -/
structure Walk : Type 1 where
  R : Prop → {α : Type} → (α → Prop) → Exec α → Exec α → Prop
  σ : Span → Span
  Ok : Node → Prop
  Sp : Span → Prop
  Avar : Variable → Prop
  E : Env → Env → Prop
  EnvOk : Env → Prop
  Adm : (Span → Span) → Prop

namespace Walk

variable (W : Walk)

def Answer (r : Option Cell) : Prop := ∀ c ∈ r, W.Avar c.var

def Evaluates (ev : Node → Exec (Option Cell)) : Prop :=
  ∀ n, W.R (W.Ok n) W.Answer (ev n) (ev (n.mapSpans W.σ))

def Calls (ev : Node → Exec (Option Cell)) : Prop :=
  ∀ (name : String) (span : Span) (e : Env) (params : List String) (body : List Node)
    (g : Span → Span) (args : List Cell), e.callable? name = some (.user params body) → W.Adm g →
    (∀ c ∈ args, W.Avar c.var) →
    W.R (W.Sp span ∧ W.EnvOk e) W.Answer (Exec.callUser ev name params body args span)
      (Exec.callUser ev name params (body.map (Node.mapSpans g)) args (W.σ span))

/-- Running out of fuel relates to running out of fuel, whatever the guard and the answers. -/
abbrev OutOfFuel : Prop :=
  ∀ {c : Prop} {γ : Type} {A : γ → Prop},
    W.R c A (MonadExcept.throw .outOfFuel) (MonadExcept.throw .outOfFuel)

structure Rules : Prop where
  mono {c c' : Prop} {α : Type} {A A' : α → Prop} {x y : Exec α} :
    (c' → c) → (∀ a, A a → A' a) → W.R c A x y → W.R c' A' x y
  rewrite {c : Prop} {α : Type} {A : α → Prop} {x y y' : Exec α} :
    (c → y' = y) → W.R c A x y → W.R c A x y'
  bind {c : Prop} {α β : Type} {A : α → Prop} {B : β → Prop} {x y : Exec α}
    {f g : α → Exec β} : W.R c A x y → (∀ a, A a → W.R c B (f a) (g a)) →
      W.R c B (x >>= f) (y >>= g)
  pure {c : Prop} {α : Type} {A : α → Prop} {a : α} : A a → W.R c A (Pure.pure a) (Pure.pure a)
  fail {c : Prop} {α : Type} {A : α → Prop} {e : EvalError} :
    (c → W.Sp e.span) → W.R c A (Exec.fail e) (Exec.fail (e.mapSpan W.σ))
  emit {c : Prop} (ev : Event) : W.R c (fun _ ↦ True) (Exec.emit ev) (Exec.emit ev)
  depth {c : Prop} : W.R c (fun _ ↦ True) Exec.depth Exec.depth
  env {c : Prop} {α : Type} {A : α → Prop} {f g : Env → Exec α} :
    (∀ e e', W.E e e' → W.R (c ∧ W.EnvOk e) A (f e) (g e')) →
      W.R c A (Exec.env >>= f) (Exec.env >>= g)
  temporary {c : Prop} {v : Variable} :
    W.Avar v → W.R c (fun cl ↦ W.Avar cl.var) (Exec.temporary v) (Exec.temporary v)
  found {c : Prop} {e : Env} {text : String} {cl : Cell} :
    e.lookup text = some cl →
      W.R (c ∧ W.EnvOk e) (fun cl ↦ W.Avar cl.var) (Pure.pure cl) (Pure.pure cl)
  releaseTop {c : Prop} :
    W.R c (fun _ ↦ True) (Exec.releaseSince 0 none) (Exec.releaseSince 0 none)
  releaseMark {c : Prop} {e e' : Env} : W.E e e' → ∀ keep,
    W.R c (fun _ ↦ True) (Exec.releaseSince e.mark keep) (Exec.releaseSince e'.mark keep)
  printLine {c : Prop} (text : String) {span : Span} : (c → W.Sp span) →
    W.R c (fun _ ↦ True) (Exec.printLine text span) (Exec.printLine text (W.σ span))
  define {c : Prop} (name : String) {rest : List Node} : (c → ∀ n ∈ rest, W.Ok n) →
    W.R c (fun _ ↦ True)
      (Exec.modifyEnv (·.defineFunction name (rest.filterMap paramName) (rest.filter isList)))
      (Exec.modifyEnv (·.defineFunction name (rest.filterMap paramName)
        ((rest.filter isList).map (Node.mapSpans W.σ))))
  declared {c : Prop} {name : String} {s : Span} (k : Kind) : (c → W.Ok (.atom name s)) →
    W.R c (fun _ ↦ True) (Exec.modifyEnv (·.declare name (Variable.declared k)))
      (Exec.modifyEnv (·.declare name (Variable.declared k)))
  rebind {c : Prop} {name : String} {s : Span} {cl : Cell} : (c → W.Ok (.atom name s)) →
    W.Avar cl.var →
      W.R c (fun _ ↦ True) (Exec.modifyEnv (·.rebind name cl)) (Exec.modifyEnv (·.rebind name cl))
  contains {e e' : Env} {name : String} {s : Span} :
    W.E e e' → W.Ok (.atom name s) → e'.vars.contains name = e.vars.contains name
  lookup {e e' : Env} {text : String} {s : Span} :
    W.E e e' → W.Ok (.atom text s) → e'.lookup text = e.lookup text
  callable {e e' : Env} (name : String) : W.E e e' →
    ∃ g, W.Adm g ∧ e'.callable? name = (e.callable? name).map (Callable.mapSpans g)
  inFrame {c : Prop} {A : Option Cell → Prop} {body body' : Exec (Option Cell)} :
    W.R c A body body' → W.R c A (Exec.inFrame body) (Exec.inFrame body')
  literal (text : String) : W.Avar ⟨.string, .text text, 0⟩
  digits {text : String} {ch : Char} {k : Kind} {n : Int64} : text.toList.head? = some ch →
    ch.isDigit = true → readInt64? (String.ofList text.toList.dropLast) = some n →
    W.Avar ⟨k, .int n, 0⟩
  builtin {b : Builtin} {args : List Cell} {span : Span} {v : Variable} :
    (∀ cl ∈ args, W.Avar cl.var) → b.apply (args.map (·.var)) span = .ok (.value v) → W.Avar v
  span {n : Node} : W.Ok n → W.Sp n.span
  list {items : List Node} {s : Span} : W.Ok (.list items s) → W.Sp s ∧ ∀ n ∈ items, W.Ok n

@[simp] theorem answer_none : W.Answer none := fun _ h ↦ by cases h

@[simp] theorem answer_some {c : Cell} : W.Answer (some c) ↔ W.Avar c.var :=
  ⟨fun h ↦ h c rfl, fun h _ hc ↦ by cases hc; exact h⟩

namespace Rules

variable {W : Walk} (hW : W.Rules) {c : Prop} {A : α → Prop} {B : β → Prop}
  {ev : Node → Exec (Option Cell)}
include hW

theorem fail_of {e e' : EvalError} (hsp : c → W.Sp e.span) (h : e' = e.mapSpan W.σ) :
    W.R c A (Exec.fail e) (Exec.fail e') :=
  h ▸ hW.fail hsp

theorem fail_bind {e e' : EvalError} (hsp : c → W.Sp e.span) (h : e' = e.mapSpan W.σ)
    (f g : α → Exec β) : W.R c B (Exec.fail e >>= f) (Exec.fail e' >>= g) :=
  hW.bind (hW.fail_of (A := fun _ ↦ False) hsp h) fun _ ha ↦ ha.elim

theorem map {x y : Exec α} (hxy : W.R c A x y) (f : α → β) (hf : ∀ a, A a → B (f a)) :
    W.R c B (f <$> x) (f <$> y) := by
  simp only [map_eq_pure_bind]
  exact hW.bind hxy fun a ha ↦ hW.pure (hf a ha)

theorem expectName_bind (form : String) {n : Node} (hn : c → W.Sp n.span)
    {f g : String → Exec β} (hfg : ∀ t s, n = .atom t s → W.R c B (f t) (g t)) :
    W.R c B (Exec.expectName form n >>= f) (Exec.expectName form (n.mapSpans W.σ) >>= g) := by
  cases n with
  | atom t s =>
    simp only [Node.mapSpans, expectName, pure_bind]
    exact hfg t s rfl
  | int v s => exact hW.fail_bind hn (by simp [EvalError.mapSpan]) f g
  | list items s => exact hW.fail_bind hn (by simp [EvalError.mapSpan]) f g

theorem defineFunction (operands : List Node) (span : Span) :
    W.R (W.Sp span ∧ ∀ n ∈ operands, W.Ok n) W.Answer (Exec.defineFunction operands span)
      (Exec.defineFunction (operands.map (Node.mapSpans W.σ)) (W.σ span)) := by
  cases operands with
  | nil => exact hW.fail And.left
  | cons nameNode rest =>
    simp only [List.map_cons, Exec.defineFunction, List.filterMap_map, List.filter_map,
      paramName_comp_mapSpans, isList_comp_mapSpans, List.length_map]
    refine hW.expectName_bind _ (fun hc ↦ hW.span (hc.2 nameNode (by simp))) fun name _ _ ↦ ?_
    refine hW.bind (hW.emit _) fun _ _ ↦ hW.bind (hW.define name ?_) fun _ _ ↦ hW.pure W.answer_none
    exact fun hc n hn ↦ hc.2 n (List.mem_cons_of_mem _ hn)

theorem declare (operands : List Node) (span : Span) :
    W.R (W.Sp span ∧ ∀ n ∈ operands, W.Ok n) W.Answer (Exec.declare operands span)
      (Exec.declare (operands.map (Node.mapSpans W.σ)) (W.σ span)) := by
  match operands with
  | [nameNode, kindNode] =>
    simp only [List.map_cons, List.map_nil, Exec.declare, Node.render_mapSpans]
    refine hW.expectName_bind _ (fun hc ↦ hW.span (hc.2 nameNode (by simp)))
      fun name s hname ↦ ?_
    cases Kind.ofName? kindNode.render with
    | none =>
      exact hW.fail_of (fun hc ↦ hW.span (hc.2 kindNode (by simp))) (by simp [EvalError.mapSpan])
    | some k =>
      refine hW.bind (hW.emit _) fun _ _ ↦ hW.bind (hW.declared (s := s) k ?_) fun _ _ ↦
        hW.pure W.answer_none
      exact fun hc ↦ hname ▸ hc.2 nameNode (by simp)
  | [] | [_] | _ :: _ :: _ :: _ =>
    simp only [List.map_cons, List.map_nil, Exec.declare]
    exact hW.fail_of And.left (by simp [EvalError.mapSpan])

theorem assign (hev : W.Evaluates ev) (operands : List Node) (span : Span) :
    W.R (W.Sp span ∧ ∀ n ∈ operands, W.Ok n) W.Answer (Exec.assign ev operands span)
      (Exec.assign ev (operands.map (Node.mapSpans W.σ)) (W.σ span)) := by
  match operands with
  | [nameNode, expr] =>
    simp only [List.map_cons, List.map_nil, Exec.assign]
    refine hW.expectName_bind _ (fun hc ↦ hW.span (hc.2 nameNode (by simp)))
      fun name s hname ↦ hW.env fun e e' he ↦ ?_
    -- the name is declared on one side exactly when on the other
    refine hW.rewrite (fun hc ↦ by
      rw [hW.contains he (hname ▸ hc.1.2 nameNode (by simp))]) ?_
    by_cases hd : (!e.vars.contains name) = true
    · rw [if_pos hd, if_pos hd]
      exact hW.fail_of (fun hc ↦ hW.span (hc.1.2 nameNode (by simp)))
        (by simp [EvalError.mapSpan])
    · rw [if_neg hd, if_neg hd]
      refine hW.bind (hW.mono (fun hc ↦ hc.1.2 expr (by simp)) (fun _ h ↦ h) (hev expr))
        fun r hr ↦ ?_
      cases r with
      | none =>
        exact hW.fail_of (fun hc ↦ hW.span (hc.1.2 expr (by simp))) (by simp [EvalError.mapSpan])
      | some cl =>
        refine hW.bind (hW.emit _) fun _ _ ↦ hW.bind (hW.rebind (s := s) ?_ ((W.answer_some).1 hr))
          fun _ _ ↦ hW.pure W.answer_none
        exact fun hc ↦ hname ▸ hc.1.2 nameNode (by simp)
  | [] | [_] | _ :: _ :: _ :: _ =>
    simp only [List.map_cons, List.map_nil, Exec.assign]
    exact hW.fail_of And.left (by simp [EvalError.mapSpan])

theorem holds (hev : W.Evaluates ev) (cond : Node) :
    W.R (W.Ok cond) (fun _ ↦ True) (Exec.holds ev cond) (Exec.holds ev (cond.mapSpans W.σ)) :=
  hW.bind (hev cond) fun r _ ↦ by cases r <;> exact hW.pure trivial

theorem sequence (hev : W.Evaluates ev) (body : List Node) :
    W.R (∀ b ∈ body, W.Ok b) W.Answer (Exec.sequence ev body)
      (Exec.sequence ev (body.map (Node.mapSpans W.σ))) := by
  unfold Exec.sequence
  -- the answer so far is allowed, from the `none` the fold starts with
  suffices h : ∀ init, W.Answer init → W.R (∀ b ∈ body, W.Ok b) W.Answer
      (body.foldlM (fun _ e ↦ ev e) init)
      ((body.map (Node.mapSpans W.σ)).foldlM (fun _ e ↦ ev e) init) from h none W.answer_none
  induction body with
  | nil => exact fun _ hinit ↦ hW.pure hinit
  | cons b rest ih =>
    intro init _
    rw [List.map_cons, List.foldlM_cons, List.foldlM_cons]
    refine hW.bind (hW.mono (fun hc ↦ hc b (by simp)) (fun _ h ↦ h) (hev b)) fun r hr ↦ ?_
    exact hW.mono (fun hc x hx ↦ hc x (List.mem_cons_of_mem _ hx)) (fun _ h ↦ h) (ih r hr)

theorem loop (hev : W.Evaluates ev)
    (hfuel : W.OutOfFuel)
    {mark mark' : Nat} (hrel : ∀ {c : Prop} keep,
      W.R c (fun _ ↦ True) (releaseSince mark keep) (releaseSince mark' keep))
    (cond : Node) (body : List Node) (fuel : Nat) :
    ∀ (result : Option Cell) (n : Nat), W.Answer result →
      W.R (W.Ok cond ∧ ∀ b ∈ body, W.Ok b) (fun p ↦ W.Answer p.1)
        (Exec.loop ev mark cond body fuel result n)
        (Exec.loop ev mark' (cond.mapSpans W.σ) (body.map (Node.mapSpans W.σ)) fuel result n) := by
  induction fuel with
  | zero =>
    intro result n _
    rw [Exec.loop, Exec.loop]
    exact hfuel
  | succ fuel ih =>
    intro result n hresult
    rw [Exec.loop, Exec.loop]
    refine hW.bind (hrel _) fun _ _ ↦ ?_
    refine hW.bind (hW.mono And.left (fun _ h ↦ h) (hW.holds hev cond)) fun b _ ↦ ?_
    split_ifs
    · refine hW.bind (hW.mono And.right (fun _ h ↦ h) (hW.sequence hev body)) fun r hr ↦ ?_
      exact ih r (n + 1) hr
    · exact hW.pure hresult

theorem whileLoop (hev : W.Evaluates ev)
    (hfuel : W.OutOfFuel)
    (fuel : Nat) (operands : List Node) (span : Span) :
    W.R (W.Sp span ∧ ∀ n ∈ operands, W.Ok n) W.Answer (Exec.whileLoop ev fuel operands span)
      (Exec.whileLoop ev fuel (operands.map (Node.mapSpans W.σ)) (W.σ span)) := by
  match operands with
  | cond :: b :: rest =>
    simp only [List.map_cons, Exec.whileLoop]
    refine hW.env fun e e' he ↦ hW.bind (hW.mono ?_ (fun _ h ↦ h)
      (hW.loop hev hfuel (hW.releaseMark he) cond (b :: rest) fuel none 0 W.answer_none))
      fun p hp ↦ ?_
    · exact fun hc ↦ ⟨hc.1.2 cond (by simp), fun x hx ↦ hc.1.2 x (List.mem_cons_of_mem _ hx)⟩
    · obtain ⟨result, n⟩ := p
      exact hW.bind (hW.emit _) fun _ _ ↦ hW.pure hp
  | [] | [_] =>
    simp only [List.map_cons, List.map_nil, Exec.whileLoop]
    exact hW.fail_of And.left (by simp [EvalError.mapSpan])

theorem branch (hev : W.Evaluates ev) (operands : List Node) (span : Span) :
    W.R (W.Sp span ∧ ∀ n ∈ operands, W.Ok n) W.Answer (Exec.branch ev operands span)
      (Exec.branch ev (operands.map (Node.mapSpans W.σ)) (W.σ span)) := by
  have hop : ∀ x ∈ operands, W.R (W.Sp span ∧ ∀ n ∈ operands, W.Ok n) W.Answer (ev x)
      (ev (x.mapSpans W.σ)) := fun x hx ↦ hW.mono (fun hc ↦ hc.2 x hx) (fun _ h ↦ h) (hev x)
  match operands with
  | [cond, thenNode] =>
    simp only [List.map_cons, List.map_nil, Exec.branch]
    refine hW.bind (hW.mono (fun hc ↦ hc.2 cond (by simp)) (fun _ h ↦ h) (hW.holds hev cond))
      fun b _ ↦ ?_
    split_ifs
    · exact hop thenNode (by simp)
    · exact hW.pure W.answer_none
  | [cond, thenNode, elseNode] =>
    simp only [List.map_cons, List.map_nil, Exec.branch]
    refine hW.bind (hW.mono (fun hc ↦ hc.2 cond (by simp)) (fun _ h ↦ h) (hW.holds hev cond))
      fun b _ ↦ ?_
    split_ifs
    · exact hop thenNode (by simp)
    · exact hop elseNode (by simp)
  | [] | [_] | _ :: _ :: _ :: _ :: _ =>
    simp only [List.map_cons, List.map_nil, Exec.branch]
    exact hW.fail_of And.left (by simp [EvalError.mapSpan])

theorem arguments (hev : W.Evaluates ev) (name : String) (position : Nat)
    (operands : List Node) :
    W.R (∀ n ∈ operands, W.Ok n) (fun cs ↦ ∀ cl ∈ cs, W.Avar cl.var)
      (Exec.arguments ev name position operands)
      (Exec.arguments ev name position (operands.map (Node.mapSpans W.σ))) := by
  induction operands generalizing position with
  | nil => exact hW.pure fun _ h ↦ by cases h
  | cons a rest ih =>
    rw [List.map_cons, Exec.arguments, Exec.arguments]
    refine hW.bind (hW.mono (fun hc ↦ hc a (by simp)) (fun _ h ↦ h) (hev a)) fun r hr ↦ ?_
    cases r with
    | none =>
      exact hW.fail_of (fun hc ↦ hW.span (hc a (by simp))) (by simp [EvalError.mapSpan])
    | some cl =>
      refine hW.bind (hW.mono (fun hc x hx ↦ hc x (List.mem_cons_of_mem _ hx)) (fun _ h ↦ h)
        (ih (position + 1))) fun cs hcs ↦ hW.pure ?_
      exact List.forall_mem_cons.2 ⟨(W.answer_some).1 hr, hcs⟩

theorem call (hev : W.Evaluates ev) (hcall : W.Calls ev) (name : String) (operands : List Node)
    (span : Span) :
    W.R (W.Sp span ∧ ∀ n ∈ operands, W.Ok n) W.Answer (Exec.call ev name operands span)
      (Exec.call ev name (operands.map (Node.mapSpans W.σ)) (W.σ span)) := by
  refine hW.env fun e e' he ↦ ?_
  obtain ⟨g, hg, hcallable⟩ := hW.callable name he
  rw [hcallable]
  cases hcallee : e.callable? name with
  | none => exact hW.fail fun hc ↦ hc.1.1
  | some callee =>
    refine hW.bind (hW.mono (fun hc ↦ hc.1.2) (fun _ h ↦ h) (hW.arguments hev name 1 operands))
      fun args hargs ↦ hW.bind hW.depth fun _ _ ↦ hW.bind (hW.emit _) fun _ _ ↦ ?_
    cases callee with
    | builtin b =>
      simp only [Callable.mapSpans, Builtin.apply_mapSpan]
      cases hb : b.apply (args.map (·.var)) span with
      | error err =>
        exact hW.fail fun hc ↦ (Builtin.apply_error_span hb) ▸ hc.1.1
      | ok out =>
        cases out with
        | value v =>
          exact hW.map (hW.temporary (hW.builtin hargs hb)) _ fun _ h ↦ (W.answer_some).2 h
        | line t =>
          exact hW.bind (hW.printLine t fun hc ↦ hc.1.1) fun _ _ ↦ hW.pure W.answer_none
    | user params body =>
      simp only [Callable.mapSpans]
      exact hW.mono (fun hc ↦ ⟨hc.1.1, hc.2⟩) (fun _ h ↦ h)
        (hcall name span e params body g args hcallee hg hargs)

theorem dispatch (hev : W.Evaluates ev) (hcall : W.Calls ev)
    (hfuel : W.OutOfFuel)
    (fuel : Nat) (items : List Node) (span : Span) :
    W.R (W.Sp span ∧ ∀ n ∈ items, W.Ok n) W.Answer (Exec.dispatch ev fuel items span)
      (Exec.dispatch ev fuel (items.map (Node.mapSpans W.σ)) (W.σ span)) := by
  cases items with
  | nil => exact hW.fail And.left
  | cons head rest =>
    have hrest : (W.Sp span ∧ ∀ n ∈ head :: rest, W.Ok n) → W.Sp span ∧ ∀ n ∈ rest, W.Ok n :=
      fun hc ↦ ⟨hc.1, fun n hn ↦ hc.2 n (List.mem_cons_of_mem _ hn)⟩
    cases head with
    | atom name s =>
      simp only [List.map_cons, Exec.dispatch, Node.mapSpans]
      split_ifs
      · exact hW.mono hrest (fun _ h ↦ h) (hW.defineFunction rest span)
      · exact hW.mono hrest (fun _ h ↦ h) (hW.declare rest span)
      · exact hW.mono hrest (fun _ h ↦ h) (hW.assign hev rest span)
      · exact hW.mono hrest (fun _ h ↦ h) (hW.whileLoop hev hfuel fuel rest span)
      · exact hW.mono hrest (fun _ h ↦ h) (hW.branch hev rest span)
      · exact hW.mono hrest (fun _ h ↦ h) (hW.call hev hcall name rest span)
    | int v s =>
      exact hW.fail_of (fun hc ↦ hW.span (hc.2 (.int v s) (by simp))) (by simp [EvalError.mapSpan])
    | list items s =>
      exact hW.fail_of (fun hc ↦ hW.span (hc.2 (.list items s) (by simp)))
        (by simp [EvalError.mapSpan])

theorem immediate {text : String} (hd : ∀ ch ∈ text.toList.head?, ch.isDigit = true)
    {span : Span} (hspan : c → W.Sp span) :
    W.R c (fun cl ↦ W.Avar cl.var) (Exec.immediate text span) (Exec.immediate text (W.σ span)) := by
  unfold Exec.immediate
  cases hlast : text.toList.getLast? with
  | none => exact hW.fail hspan
  | some suffix =>
    dsimp only
    cases Kind.ofSuffix? suffix with
    | none => exact hW.fail hspan
    | some k =>
      dsimp only
      cases hn : readInt64? (String.ofList text.toList.dropLast) with
      | none => exact hW.fail hspan
      | some n =>
        dsimp only
        -- a text with a last character has a first one
        obtain ⟨ch, hhead⟩ : ∃ ch, text.toList.head? = some ch := by
          cases hcs : text.toList with
          | nil => simp [hcs] at hlast
          | cons ch rest => exact ⟨ch, rfl⟩
        exact hW.temporary (hW.digits hhead (hd ch hhead) hn)

theorem resolveAtom (text : String) (span : Span) :
    W.R (W.Ok (.atom text span)) (fun cl ↦ W.Avar cl.var) (Exec.resolveAtom text span)
      (Exec.resolveAtom text (W.σ span)) := by
  refine hW.env fun e e' he ↦ hW.rewrite (fun hc ↦ by rw [hW.lookup he hc.1]) ?_
  have hspan : W.Ok (.atom text span) ∧ W.EnvOk e → W.Sp span := fun hc ↦ hW.span hc.1
  cases hl : e.lookup text with
  | some cl => exact hW.found hl
  | none =>
    dsimp only
    split
    · exact hW.temporary (hW.literal _)
    · rename_i ch rest htext
      split_ifs with hdigit
      · exact hW.immediate (fun x hx ↦ by rw [htext] at hx; cases hx; exact hdigit) hspan
      · exact hW.fail hspan
    · exact hW.fail hspan

theorem eval_succ {k : Nat} (hev : W.Evaluates (Exec.eval k)) (hcall : W.Calls (Exec.eval k))
    (hfuel : W.OutOfFuel) :
    W.Evaluates (Exec.eval (k + 1)) := by
  intro node
  cases node with
  | int v span => exact hW.fail_of hW.span (by simp [EvalError.mapSpan])
  | atom t span =>
    simp only [Node.mapSpans, Exec.eval]
    exact hW.map (hW.resolveAtom t span) _ fun _ h ↦ (W.answer_some).2 h
  | list items span =>
    simp only [Node.mapSpans, Node.mapSpansAll_eq, Exec.eval]
    exact hW.inFrame (hW.mono hW.list (fun _ h ↦ h) (hW.dispatch hev hcall hfuel k items span))

theorem eval (hcall : ∀ k, W.Evaluates (Exec.eval k) → W.Calls (Exec.eval k))
    (hfuel : W.OutOfFuel) :
    ∀ k, W.Evaluates (Exec.eval k) := by
  intro k
  induction k with
  | zero =>
    intro node
    rw [Exec.eval, Exec.eval]
    exact hfuel
  | succ k ih => exact hW.eval_succ ih (hcall k ih) hfuel

theorem program {fuel : Nat} (hev : W.Evaluates (Exec.eval fuel)) (prog : List Node) :
    W.R (∀ n ∈ prog, W.Ok n) W.Answer (Exec.program fuel prog)
      (Exec.program fuel (prog.map (Node.mapSpans W.σ))) := by
  unfold Exec.program
  -- the answer of the expression before is allowed, from the `none` the fold starts with
  suffices h : ∀ init, W.Answer init → W.R (∀ n ∈ prog, W.Ok n) W.Answer
      (prog.foldlM (fun _ node ↦ do Exec.releaseSince 0 none; Exec.eval fuel node) init)
      ((prog.map (Node.mapSpans W.σ)).foldlM
        (fun _ node ↦ do Exec.releaseSince 0 none; Exec.eval fuel node) init) from
    h none W.answer_none
  induction prog with
  | nil => exact fun _ hinit ↦ hW.pure hinit
  | cons node rest ih =>
    intro init _
    rw [List.map_cons, List.foldlM_cons, List.foldlM_cons]
    refine hW.bind (hW.bind hW.releaseTop fun _ _ ↦
      hW.mono (fun hc ↦ hc node (by simp)) (fun _ h ↦ h) (hev node)) fun r hr ↦ ?_
    exact hW.mono (fun hc x hx ↦ hc x (List.mem_cons_of_mem _ hx)) (fun _ h ↦ h) (ih r hr)

end Rules

end Walk

/-- A property of single steps, under a guard, that a walk carries: the walk relates a step to
itself with its spans as they are, and knows of an answer only what the step yields. -/
structure Unary : Type 1 where
  P : Prop → {α : Type} → Exec α → Prop
  Ok : Node → Prop
  Sp : Span → Prop
  EnvOk : Env → Prop

namespace Unary

variable (U : Unary)

def walk : Walk where
  R c _ A x _ := U.P c x ∧ Yields A x
  σ := id
  Ok := U.Ok
  Sp := U.Sp
  Avar _ := True
  E := Eq
  EnvOk := U.EnvOk
  Adm g := g = id

structure Rules : Prop where
  mono {c c' : Prop} {α : Type} {x : Exec α} : (c' → c) → U.P c x → U.P c' x
  bind {c : Prop} {α β : Type} {x : Exec α} {f : α → Exec β} :
    U.P c x → (∀ a, U.P c (f a)) → U.P c (x >>= f)
  stuck {c : Prop} (γ : Type) : ∃ z : Exec γ, U.P c z
  pure {c : Prop} {α : Type} (a : α) : U.P c (Pure.pure a)
  fail {c : Prop} {α : Type} {e : EvalError} : (c → U.Sp e.span) → U.P c (Exec.fail e : Exec α)
  emit {c : Prop} (ev : Event) : U.P c (Exec.emit ev)
  depth {c : Prop} : U.P c Exec.depth
  env {c : Prop} {α : Type} {f : Env → Exec α} :
    (∀ e, U.P (c ∧ U.EnvOk e) (f e)) → U.P c (Exec.env >>= f)
  temporary {c : Prop} (v : Variable) : U.P c (Exec.temporary v)
  releaseSince {c : Prop} (mark : Nat) (keep : Option Cell) : U.P c (Exec.releaseSince mark keep)
  printLine {c : Prop} (text : String) {span : Span} :
    (c → U.Sp span) → U.P c (Exec.printLine text span)
  define {c : Prop} (name : String) {rest : List Node} : (c → ∀ n ∈ rest, U.Ok n) →
    U.P c (Exec.modifyEnv (·.defineFunction name (rest.filterMap paramName) (rest.filter isList)))
  declared {c : Prop} {name : String} {s : Span} (k : Kind) : (c → U.Ok (.atom name s)) →
    U.P c (Exec.modifyEnv (·.declare name (Variable.declared k)))
  rebind {c : Prop} {name : String} {s : Span} (cl : Cell) : (c → U.Ok (.atom name s)) →
    U.P c (Exec.modifyEnv (·.rebind name cl))
  inFrame {c : Prop} {body : Exec (Option Cell)} : U.P c body → U.P c (Exec.inFrame body)
  span {n : Node} : U.Ok n → U.Sp n.span
  list {items : List Node} {s : Span} : U.Ok (.list items s) → U.Sp s ∧ ∀ n ∈ items, U.Ok n

theorem answer (r : Option Cell) : U.walk.Answer r := fun _ _ ↦ True.intro

variable {U} {ev : Node → Exec (Option Cell)}

theorem evaluates (h : ∀ n, U.P (U.Ok n) (ev n)) : U.walk.Evaluates ev :=
  fun n ↦ ⟨h n, fun _ _ a _ ↦ U.answer a⟩

theorem calls (h : ∀ name span (e : Env) params body args,
    e.callable? name = some (.user params body) →
      U.P (U.Sp span ∧ U.EnvOk e) (Exec.callUser ev name params body args span)) :
    U.walk.Calls ev := by
  intro name span e params body g args hcallee hg _
  exact ⟨h name span e params body args hcallee, fun _ _ a _ ↦ U.answer a⟩

theorem outOfFuel (h : ∀ {c : Prop} {γ : Type}, U.P c (MonadExcept.throw .outOfFuel : Exec γ)) :
    U.walk.OutOfFuel :=
  ⟨h, Yields.throw _⟩

theorem Rules.walk (hU : U.Rules) : U.walk.Rules where
  mono hc hA hx := ⟨hU.mono hc hx.1, hx.2.mono hA⟩
  rewrite _ hx := hx
  bind hx hf := ⟨Yields.bind_of (P := U.P _) hU.bind hU.stuck hx.1 hx.2 fun a ha ↦ (hf a ha).1,
    hx.2.bind fun a ha ↦ (hf a ha).2⟩
  pure ha := ⟨hU.pure _, Yields.pure ha⟩
  fail hsp := ⟨hU.fail hsp, Yields.fail _⟩
  emit ev := ⟨hU.emit ev, Yields.trivial _⟩
  depth := ⟨hU.depth, Yields.trivial _⟩
  env hf := ⟨hU.env fun e ↦ (hf e e rfl).1, Yields.env_bind fun e ↦ (hf e e rfl).2⟩
  temporary _ := ⟨hU.temporary _, Yields.trivial _⟩
  found _ := ⟨hU.pure _, Yields.trivial _⟩
  releaseTop := ⟨hU.releaseSince _ _, Yields.trivial _⟩
  releaseMark he _ := by
    cases he
    exact ⟨hU.releaseSince _ _, Yields.trivial _⟩
  printLine text := fun hsp ↦ ⟨hU.printLine text hsp, Yields.trivial _⟩
  define name := fun hok ↦ ⟨hU.define name hok, Yields.trivial _⟩
  declared k hok := ⟨hU.declared k hok, Yields.trivial _⟩
  rebind hok _ := ⟨hU.rebind _ hok, Yields.trivial _⟩
  contains he _ := by rw [he]
  lookup he _ := by rw [he]
  callable name he := ⟨id, rfl, by cases he; cases _ : Env.callable? _ name <;> simp⟩
  inFrame hb := ⟨hU.inFrame hb.1, hb.2.inFrame⟩
  literal _ := True.intro
  digits _ _ _ := True.intro
  builtin _ _ := True.intro
  span := hU.span
  list := hU.list

namespace Rules

variable (hU : U.Rules)
include hU

theorem sequence (hev : ∀ n, U.P (U.Ok n) (ev n)) (body : List Node) :
    U.P (∀ b ∈ body, U.Ok b) (Exec.sequence ev body) :=
  (hU.walk.sequence (evaluates hev) body).1

/-- The evaluator at every fuel, when the user calls of an evaluator that has the property
have it too. -/
theorem eval (hcall : ∀ {ev : Node → Exec (Option Cell)}, (∀ n, U.P (U.Ok n) (ev n)) →
      U.walk.Calls ev)
    (hfuel : ∀ {c : Prop} {γ : Type}, U.P c (MonadExcept.throw .outOfFuel : Exec γ)) (k : Nat)
    (n : Node) : U.P (U.Ok n) (Exec.eval k n) :=
  (hU.walk.eval (fun _ hev ↦ hcall fun n ↦ (hev n).1) (outOfFuel hfuel) k n).1

theorem program {fuel : Nat} (hev : ∀ n, U.P (U.Ok n) (Exec.eval fuel n)) (prog : List Node) :
    U.P (∀ n ∈ prog, U.Ok n) (Exec.program fuel prog) :=
  (hU.walk.program (evaluates hev) prog).1

end Rules

end Unary

end Exec

end WordLang

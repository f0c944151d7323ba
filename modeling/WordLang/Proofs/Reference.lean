import WordLang.Proofs.Frames

namespace WordLang

open Env

def Store.direct : Store where
  temporary e d v := e.alloc (v.inFrame d)
  releaseSince e _ _ := (e, none)
  popFrame e _ := ({ e with frames := e.frames.tail }, none)

namespace Env

/-- An environment under the arena store and one under the direct store that agree on every
named binding, on the callables and on the next identity. -/
structure Mirrors (e e' : Env) : Prop where
  vars : ∀ k, Plain k → e.vars[k]? = e'.vars[k]?
  funcs : e.funcs = e'.funcs
  fresh : e.fresh = e'.fresh

section Mirrors

variable {e e' : Env}

theorem Mirrors.refl (e : Env) : e.Mirrors e := ⟨fun _ _ ↦ rfl, rfl, rfl⟩

theorem Mirrors.lookup_insert (h : e.Mirrors e') (key : String) (c : Cell) :
    ∀ k, Plain k → (e.vars.insert key c)[k]? = (e'.vars.insert key c)[k]? := by
  intro k hk
  rw [Std.TreeMap.getElem?_insert, Std.TreeMap.getElem?_insert, h.vars k hk]

theorem Mirrors.lookup_erase (h : e.Mirrors e') (key : String) :
    ∀ k, Plain k → (e.vars.erase key)[k]? = (e'.vars.erase key)[k]? := by
  intro k hk
  rw [Std.TreeMap.getElem?_erase, Std.TreeMap.getElem?_erase, h.vars k hk]

theorem Mirrors.declare (h : e.Mirrors e') (name : String) (v : Variable) :
    (e.declare name v).Mirrors (e'.declare name v) := by
  refine ⟨?_, h.funcs, by simp [Env.declare, Env.alloc, h.fresh]⟩
  simpa [Env.declare, Env.alloc, h.fresh] using h.lookup_insert name ⟨e'.fresh, v⟩

theorem Mirrors.rebind (h : e.Mirrors e') {name : String} (hp : Plain name) (c : Cell) :
    (e.rebind name c).Mirrors (e'.rebind name c) := by
  have hc : e.vars.contains name = e'.vars.contains name := by
    rw [Std.TreeMap.contains_eq_isSome_getElem?, Std.TreeMap.contains_eq_isSome_getElem?,
      h.vars name hp]
  unfold Env.rebind
  rw [hc]
  split
  · exact ⟨h.lookup_insert name c, h.funcs, h.fresh⟩
  · exact h

theorem Mirrors.bindLocal (h : e.Mirrors e') {name : String} (hp : Plain name) (v : Variable) :
    (e.bindLocal name v).1 = (e'.bindLocal name v).1 ∧
      (e.bindLocal name v).2.Mirrors (e'.bindLocal name v).2 := by
  refine ⟨h.vars name hp, ?_, h.funcs, by simp [Env.bindLocal, Env.alloc, h.fresh]⟩
  simpa [Env.bindLocal, Env.alloc, h.fresh] using h.lookup_insert name ⟨e'.fresh, v⟩

theorem Mirrors.restore (h : e.Mirrors e') (name : String) (prev : Option Cell) :
    (e.restore name prev).Mirrors (e'.restore name prev) := by
  cases prev with
  | some c => exact ⟨h.lookup_insert name c, h.funcs, h.fresh⟩
  | none => exact ⟨h.lookup_erase name, h.funcs, h.fresh⟩

theorem Mirrors.defineFunction (h : e.Mirrors e') (name : String) (params : List String)
    (body : List Node) :
    (e.defineFunction name params body).Mirrors (e'.defineFunction name params body) :=
  ⟨h.vars, by simp [Env.defineFunction, h.funcs], h.fresh⟩

theorem Mirrors.callable (h : e.Mirrors e') (name : String) :
    e'.callable? name = e.callable? name := by
  rw [Env.callable?, Env.callable?, h.funcs]

theorem Mirrors.pushFrame (h : e.Mirrors e') : e.pushFrame.Mirrors e'.pushFrame :=
  ⟨h.vars, h.funcs, h.fresh⟩

theorem Mirrors.temporary (h : e.Mirrors e') (d : Nat) (v : Variable) :
    (e.temporary d v).1 = (Store.direct.temporary e' d v).1 ∧
      (e.temporary d v).2.Mirrors (Store.direct.temporary e' d v).2 := by
  refine ⟨by simp [Env.temporary, Store.direct, Env.alloc, h.fresh], fun k hk ↦ ?_,
    by simp [Env.temporary, Store.direct, Env.alloc, h.funcs],
    by simp [Env.temporary, Store.direct, Env.alloc, h.fresh]⟩
  simp only [Env.temporary, Store.direct, Env.alloc]
  rw [Std.TreeMap.getElem?_insert, if_neg, h.vars k hk]
  simpa using (hk (e.made + 1)).symm

theorem Mirrors.releaseSince (h : e.Mirrors e') (hi : e.Inv) (mark : Nat) (keep : Option Nat) :
    (e.releaseSince mark keep).1.Mirrors e' :=
  ⟨fun k hk ↦ (hi.releaseSince_lookup hk mark keep).trans (h.vars k hk),
    (funcs_releaseSince e mark keep).trans h.funcs, (fresh_releaseSince e mark keep).trans h.fresh⟩

theorem Mirrors.popFrame (h : e.Mirrors e') (hi : e.Inv) (keep keep' : Option Nat) :
    (e.popFrame keep).1.Mirrors (Store.direct.popFrame e' keep').1 :=
  ⟨fun k hk ↦ (hi.popFrame_lookup hk keep).trans (h.vars k hk),
    (funcs_popFrame e keep).trans h.funcs, (fresh_popFrame e keep).trans h.fresh⟩

theorem Mirrors.bindAll {d : Nat} (h : e.Mirrors e') {pairs : List (String × Cell)}
    (hp : ∀ p ∈ pairs.map Prod.fst, Plain p) (shadowed : List (String × Option Cell)) :
    (bindAll d e pairs shadowed).1 = (bindAll d e' pairs shadowed).1 ∧
      (bindAll d e pairs shadowed).2.Mirrors (bindAll d e' pairs shadowed).2 := by
  induction pairs generalizing e e' shadowed with
  | nil => exact ⟨rfl, h⟩
  | cons pa rest ih =>
    obtain ⟨p, a⟩ := pa
    have hrest : ∀ q ∈ rest.map Prod.fst, Plain q := fun q hq ↦ hp q (by simp_all)
    obtain ⟨hprev, hb⟩ := h.bindLocal (hp p (by simp)) (a.var.inFrame d)
    simp only [Env.bindAll]
    rw [hprev]
    exact ih hb hrest _

theorem Mirrors.restoreAll (h : e.Mirrors e') (shadowed : List (String × Option Cell)) :
    (restoreAll e shadowed).Mirrors (restoreAll e' shadowed) := by
  induction shadowed generalizing e e' with
  | nil => exact h
  | cons pp rest ih =>
    obtain ⟨p, prev⟩ := pp
    exact ih (h.restore p prev)

end Mirrors

end Env

structure Machine.Mirrors (m m' : Machine) : Prop where
  good : m.env.Good
  env : m.env.Mirrors m'.env
  calls : m.calls = m'.calls
  output : m.output = m'.output

namespace Exec

variable {α β : Type} {clean : Prop}

/-- `x` under the arena store and `y` under the direct store, run on clean work from machines
that mirror each other, answer the same and end on machines that mirror each other. -/
def Sim (clean : Prop) (x y : Exec α) : Prop :=
  ∀ cfg m m', cfg.store = .arenas → clean → m.Mirrors m' →
    (x.execute cfg m).1 = (y.execute { cfg with store := Store.direct } m').1 ∧
      (x.execute cfg m).2.Mirrors (y.execute { cfg with store := Store.direct } m').2

def Mirrored (ev : Node → Exec (Option Cell)) : Prop := ∀ n, Sim n.Clean (ev n) (ev n)

namespace Sim

theorem mono {clean' : Prop} {x y : Exec α} (hxy : Sim clean x y) (h : clean' → clean) :
    Sim clean' x y :=
  fun cfg m m' hs hc hm ↦ hxy cfg m m' hs (h hc) hm

theorem bind {A : α → Prop} {x y : Exec α} {f g : α → Exec β} (hxy : Sim clean x y)
    (hx : Yields A x) (hfg : ∀ a, A a → Sim clean (f a) (g a)) : Sim clean (x >>= f) (y >>= g) := by
  intro cfg m m' hs hc hm
  obtain ⟨hr, hm₁⟩ := hxy cfg m m' hs hc hm
  rw [execute_bind, execute_bind]
  rcases h : x.execute cfg m with ⟨r, m₁⟩
  rcases h' : y.execute { cfg with store := Store.direct } m' with ⟨r', m₁'⟩
  rw [h, h'] at hr hm₁
  dsimp only at hr hm₁
  subst hr
  cases r with
  | error e => exact ⟨rfl, hm₁⟩
  | ok a => exact hfg a (hx cfg m a (by rw [h])) cfg m₁ m₁' hs hc hm₁

theorem pure (a : α) : Sim clean (Pure.pure a : Exec α) (Pure.pure a) :=
  fun _ _ _ _ _ hm ↦ ⟨rfl, hm⟩

theorem throw (f : Fault) : Sim clean (MonadExcept.throw f : Exec α) (MonadExcept.throw f) :=
  fun _ _ _ _ _ hm ↦ ⟨rfl, hm⟩

theorem fail (e : EvalError) : Sim clean (Exec.fail e : Exec α) (Exec.fail e) :=
  fun _ _ _ _ _ hm ↦ ⟨rfl, hm⟩

theorem depth : Sim clean Exec.depth Exec.depth := fun _ _ _ _ _ hm ↦ ⟨rfl, hm⟩

theorem emit (ev : Event) : Sim clean (Exec.emit ev) (Exec.emit ev) := by
  intro cfg m m' _ _ hm
  rw [execute_emit, execute_emit]
  exact ⟨rfl, hm.good, hm.env, hm.calls, hm.output⟩

theorem printLine (text : String) (span : Span) :
    Sim clean (Exec.printLine text span) (Exec.printLine text span) := by
  intro cfg m m' _ _ hm
  simp only [Exec.printLine, execute_bind_ok execute_read]
  cases cfg.outputClosed
  · simp only [Bool.false_eq_true, ↓reduceIte, execute_modify]
    exact ⟨trivial, hm.good, hm.env, hm.calls, by rw [hm.output]⟩
  · exact ⟨rfl, hm⟩

theorem env_bind {f g : Env → Exec α}
    (hfg : ∀ e e', e.Mirrors e' → Sim (clean ∧ FuncsClean e.funcs) (f e) (g e')) :
    Sim clean (Exec.env >>= f) (Exec.env >>= g) := by
  intro cfg m m' hs hc hm
  rw [execute_bind_ok execute_env, execute_bind_ok execute_env]
  exact hfg m.env m'.env hm.env cfg m m' hs ⟨hc, hm.good.funcs⟩ hm

theorem modifyEnv {f f' : Env → Env}
    (h : clean → ∀ e e', e.Good → e.Mirrors e' → (f e).Good ∧ (f e).Mirrors (f' e')) :
    Sim clean (Exec.modifyEnv f) (Exec.modifyEnv f') := by
  intro cfg m m' _ hc hm
  rw [execute_modifyEnv, execute_modifyEnv]
  obtain ⟨hg, he⟩ := h hc _ _ hm.good hm.env
  exact ⟨rfl, hg, he, hm.calls, hm.output⟩

theorem temporary (v : Variable) : Sim clean (Exec.temporary v) (Exec.temporary v) := by
  intro cfg m m' hs _ hm
  rw [execute_temporary, execute_temporary, hs]
  obtain ⟨hc, he⟩ := hm.env.temporary cfg.depth v
  exact ⟨congrArg Except.ok hc, hm.good.temporary _ _, he, hm.calls, hm.output⟩

theorem releaseSince (mark mark' : Nat) (keep : Option Cell) :
    Sim clean (Exec.releaseSince mark keep) (Exec.releaseSince mark' keep) := by
  intro cfg m m' hs _ hm
  obtain ⟨evs, h⟩ := execute_releaseSince cfg m mark keep
  obtain ⟨evs', h'⟩ := execute_releaseSince { cfg with store := Store.direct } m' mark' keep
  rw [h, h', hs]
  exact ⟨rfl, hm.good.releaseSince _ _, hm.env.releaseSince hm.good.inv mark _, hm.calls,
    hm.output⟩

theorem inFrame {body body' : Exec (Option Cell)} (hsim : Sim clean body body') :
    Sim clean (Exec.inFrame body) (Exec.inFrame body') := by
  intro cfg m m' hs hc hm
  obtain ⟨evs₀, evs, h⟩ := execute_inFrame cfg m body
  obtain ⟨evs₀', evs', h'⟩ := execute_inFrame { cfg with store := Store.direct } m' body'
  obtain ⟨hr, hm₁⟩ := hsim { cfg with depth := cfg.depth + 1 }
    { m with env := m.env.pushFrame, events := evs₀ }
    { m' with env := m'.env.pushFrame, events := evs₀' } hs hc
    ⟨hm.good.pushFrame, hm.env.pushFrame, hm.calls, hm.output⟩
  rw [h, h']
  generalize body.execute { cfg with depth := cfg.depth + 1 }
    { m with env := m.env.pushFrame, events := evs₀ } = res at hr hm₁ ⊢
  generalize body'.execute { { cfg with depth := cfg.depth + 1 } with store := Store.direct }
    { m' with env := m'.env.pushFrame, events := evs₀' } = res' at hr hm₁ ⊢
  rw [hs]
  exact ⟨hr, hm₁.good.popFrame _, hm₁.env.popFrame hm₁.good.inv (keptId res.1) (keptId res'.1),
    hm₁.calls, hm₁.output⟩

theorem define (name : String) {rest : List Node} (hok : clean → ∀ n ∈ rest, n.Clean) :
    Sim clean
      (Exec.modifyEnv (·.defineFunction name (rest.filterMap paramName) (rest.filter isList)))
      (Exec.modifyEnv (·.defineFunction name (rest.filterMap paramName)
        ((rest.filter isList).map (Node.mapSpans id)))) := by
  rw [Node.map_mapSpans_id]
  exact modifyEnv fun hc _ _ hg h ↦ ⟨hg.defineOperands (hok hc) name, h.defineFunction _ _ _⟩

def walk : Walk where
  R c _ A x y := Sim c x y ∧ Yields A x
  σ := id
  Ok := Node.Clean
  Sp _ := True
  Avar _ := True
  E := Env.Mirrors
  EnvOk e := FuncsClean e.funcs
  Adm g := g = id

theorem rules : walk.Rules where
  mono hc hA hx := ⟨hx.1.mono hc, hx.2.mono hA⟩
  rewrite h hx := ⟨fun cfg m m' hs hc hm ↦ by rw [h hc]; exact hx.1 cfg m m' hs hc hm, hx.2⟩
  bind hx hf := ⟨bind hx.1 hx.2 fun a ha ↦ (hf a ha).1, hx.2.bind fun a ha ↦ (hf a ha).2⟩
  pure ha := ⟨pure _, Yields.pure ha⟩
  fail _ := ⟨by
    show Sim _ _ (Exec.fail (EvalError.mapSpan id _))
    rw [EvalError.mapSpan_id]
    exact fail _, Yields.fail _⟩
  emit ev := ⟨emit ev, Yields.trivial _⟩
  depth := ⟨depth, Yields.trivial _⟩
  env hf := ⟨env_bind fun e e' h ↦ (hf e e' h).1, Yields.env_bind fun e ↦ (hf e e (Mirrors.refl e)).2⟩
  temporary _ := ⟨temporary _, Yields.trivial _⟩
  found _ := ⟨pure _, Yields.trivial _⟩
  releaseTop := ⟨releaseSince 0 0 none, Yields.trivial _⟩
  releaseMark _ keep := ⟨releaseSince _ _ keep, Yields.trivial _⟩
  printLine text := fun _ ↦ ⟨printLine text _, Yields.trivial _⟩
  define name := fun hok ↦ ⟨define name hok, Yields.trivial _⟩
  declared _ hok := ⟨modifyEnv fun hc _ _ hg h ↦
    ⟨hg.declare (Node.clean_atom_iff.1 (hok hc)) _, h.declare _ _⟩, Yields.trivial _⟩
  rebind hok _ := ⟨modifyEnv fun hc _ _ hg h ↦ ⟨hg.rebind (Node.clean_atom_iff.1 (hok hc)) _,
    h.rebind (Node.clean_atom_iff.1 (hok hc)) _⟩, Yields.trivial _⟩
  contains he hok := by
    rw [Std.TreeMap.contains_eq_isSome_getElem?, Std.TreeMap.contains_eq_isSome_getElem?,
      he.vars _ (Node.clean_atom_iff.1 hok)]
  lookup he hok := (he.vars _ (Node.clean_atom_iff.1 hok)).symm
  callable name he := ⟨id, rfl, by
    rw [he.callable name]
    cases Env.callable? _ name <;> simp⟩
  inFrame hb := ⟨inFrame hb.1, hb.2.inFrame⟩
  literal _ := True.intro
  digits _ _ _ := True.intro
  builtin _ _ := True.intro
  span _ := True.intro
  list h := ⟨True.intro, Node.clean_list_iff.1 h⟩

theorem evaluates (hev : Mirrored ev) : walk.Evaluates ev := fun n ↦ by
  refine ⟨?_, fun _ _ _ _ _ _ ↦ True.intro⟩
  show Sim n.Clean (ev n) (ev (n.mapSpans id))
  rw [Node.mapSpans_id]
  exact hev n

theorem sequence (hev : Mirrored ev) (body : List Node) :
    Sim (∀ b ∈ body, b.Clean) (Exec.sequence ev body) (Exec.sequence ev body) := by
  have h : Sim (∀ b ∈ body, b.Clean) (Exec.sequence ev body)
      (Exec.sequence ev (body.map (Node.mapSpans id))) := (rules.sequence (evaluates hev) body).1
  rwa [Node.map_mapSpans_id] at h

theorem callUser (hev : Mirrored ev) (name : String) (params : List String) (body : List Node)
    (args : List Cell) (span : Span) :
    Sim ((∀ p ∈ params, Plain p) ∧ ∀ b ∈ body, b.Clean)
      (Exec.callUser ev name params body args span)
      (Exec.callUser ev name params body args span) := by
  intro cfg m m' hs hc hm
  rw [execute_callUser, execute_callUser]
  dsimp only
  rw [← hm.calls]
  split_ifs with harity hlimit
  · exact ⟨rfl, hm⟩
  · exact ⟨rfl, hm⟩
  · have hnames := plain_zip_names hc.1 args
    obtain ⟨hbound, hmb⟩ := hm.env.bindAll (d := cfg.depth) hnames []
    obtain ⟨hr, hm₁⟩ := sequence hev body cfg
      { m with env := (bindAll cfg.depth m.env (params.zip args) []).2, calls := m.calls + 1 }
      { m' with env := (bindAll cfg.depth m'.env (params.zip args) []).2, calls := m.calls + 1 }
      hs hc.2 ⟨hm.good.bindAll hnames [], hmb, rfl, hm.output⟩
    rw [← hbound]
    refine ⟨hr, ?_, hm₁.env.restoreAll _, by rw [hm₁.calls], hm₁.output⟩
    refine hm₁.good.restoreAll fun p hmem ↦ ?_
    rw [bindAll_names, List.map_nil, List.append_nil, List.mem_reverse] at hmem
    exact hnames p hmem

theorem calls (hev : Mirrored ev) : walk.Calls ev := by
  intro name span e params body g args hcallee hg _
  subst hg
  refine ⟨?_, fun _ _ _ _ _ _ ↦ True.intro⟩
  show Sim _ _ (Exec.callUser ev name params (body.map (Node.mapSpans id)) args span)
  rw [Node.map_mapSpans_id]
  exact (callUser hev name params body args span).mono fun hc ↦ hc.2 name params body hcallee

theorem mirrored (h : walk.Evaluates ev) : Mirrored ev := fun n ↦ by
  have h' : Sim n.Clean (ev n) (ev (n.mapSpans id)) := (h n).1
  rwa [Node.mapSpans_id] at h'

theorem eval (n : Nat) : Mirrored (Exec.eval n) :=
  mirrored (rules.eval (fun _ hev ↦ calls (mirrored hev)) ⟨throw _, Yields.throw _⟩ n)

theorem program (fuel : Nat) (prog : List Node) :
    Sim (∀ n ∈ prog, n.Clean) (Exec.program fuel prog) (Exec.program fuel prog) := by
  have h : Sim (∀ n ∈ prog, n.Clean) (Exec.program fuel prog)
      (Exec.program fuel (prog.map (Node.mapSpans id))) :=
    (rules.program (evaluates (eval fuel)) prog).1
  rwa [Node.map_mapSpans_id] at h

end Sim

end Exec

namespace Interpreter

/-- An interpreter under the arena store and one under the direct store with the same
settings, good and mirrored environments, and as many calls in progress. -/
structure Mirrors (it it' : Interpreter) : Prop where
  store : it.store = .arenas
  config : it'.config = { it.config with store := Store.direct }
  machine : it.machine.Mirrors it'.machine

theorem Mirrors.run {it it' : Interpreter} (h : it.Mirrors it') (src : String) :
    (it.run src).1.result = (it'.run src).1.result ∧
      (it.run src).1.output = (it'.run src).1.output ∧ (it.run src).2.Mirrors (it'.run src).2 := by
  unfold Interpreter.run
  split
  · exact ⟨rfl, rfl, h⟩
  · rename_i prog hp
    obtain ⟨hr, hm⟩ := Exec.Sim.program fuel prog it.config it.machine it'.machine h.store
      (parseProgram_clean hp) h.machine
    rw [runProgram_result, runProgram_result, runProgram_output, runProgram_output, runProgram_snd,
      runProgram_snd, h.config]
    refine ⟨by rw [hr], hm.output, h.store, h.config, ?_⟩
    exact ⟨hm.good, hm.env, hm.calls, rfl⟩

def runAll (it : Interpreter) : List String → List Outcome × Interpreter
  | [] => ([], it)
  | src :: rest =>
    ((it.run src).1 :: (runAll (it.run src).2 rest).1, (runAll (it.run src).2 rest).2)

theorem Mirrors.runAll {it it' : Interpreter} (h : it.Mirrors it') (srcs : List String) :
    (it.runAll srcs).1.map Outcome.result = (it'.runAll srcs).1.map Outcome.result ∧
      (it.runAll srcs).1.map Outcome.output = (it'.runAll srcs).1.map Outcome.output ∧
      (it.runAll srcs).2.Mirrors (it'.runAll srcs).2 := by
  induction srcs generalizing it it' with
  | nil => exact ⟨rfl, rfl, h⟩
  | cons src rest ih =>
    obtain ⟨hr, ho, h₁⟩ := h.run src
    obtain ⟨hrs, hos, h₂⟩ := ih h₁
    simp only [Interpreter.runAll, List.map_cons]
    exact ⟨by rw [hr, hrs], by rw [ho, hos], h₂⟩

/-- Keeping temporaries in arenas cannot be observed: over every session of source texts run
on a new interpreter, whatever its call limit, verbosity and output, each run answers or fails
and prints exactly as a reference interpreter that makes literals and results as bare cells,
binding, holding and releasing nothing; and after the session both bind every name a program
can write alike and hold the same functions. -/
theorem session_matches_reference (callLimit : Nat) (verbosity : Verbosity) (outputClosed : Bool)
    (srcs : List String) :
    let it : Interpreter :=
      { callLimit := callLimit, verbosity := verbosity, outputClosed := outputClosed }
    let ref : Interpreter := { it with store := Store.direct }
    (it.runAll srcs).1.map Outcome.result = (ref.runAll srcs).1.map Outcome.result ∧
      (it.runAll srcs).1.map Outcome.output = (ref.runAll srcs).1.map Outcome.output ∧
      (∀ k, Plain k → (it.runAll srcs).2.env.vars[k]? = (ref.runAll srcs).2.env.vars[k]?) ∧
      (it.runAll srcs).2.env.funcs = (ref.runAll srcs).2.env.funcs := by
  intro it ref
  have h : it.Mirrors ref :=
    ⟨rfl, rfl, good_initial, ⟨fun _ _ ↦ rfl, rfl, rfl⟩, rfl, rfl⟩
  obtain ⟨hr, ho, hm⟩ := h.runAll srcs
  exact ⟨hr, ho, hm.machine.env.vars, hm.machine.env.funcs⟩

end Interpreter

end WordLang

import WordLang.Proofs.Frames
import WordLang.Proofs.Scanning

namespace WordLang

namespace Env

section WithFuncs

variable (e : Env) (F : Std.TreeMap String Callable)

theorem setArena_withFuncs (a : List String) :
    ({ e with funcs := F } : Env).setArena a = { e.setArena a with funcs := F } := by
  cases h : e.frames <;> simp [Env.setArena, h]

theorem arena_withFuncs : ({ e with funcs := F } : Env).arena = e.arena := rfl

theorem temporary_withFuncs (d : Nat) (v : Variable) :
    ({ e with funcs := F } : Env).temporary d v =
      ((e.temporary d v).1, { (e.temporary d v).2 with funcs := F }) := by
  simp only [Env.temporary, arena_withFuncs, setArena_withFuncs]

theorem releaseSince_withFuncs (mark : Nat) (keep : Option Nat) :
    ({ e with funcs := F } : Env).releaseSince mark keep =
      ({ (e.releaseSince mark keep).1 with funcs := F }, (e.releaseSince mark keep).2) := by
  unfold Env.releaseSince
  simp only [arena_withFuncs]
  by_cases hm : e.arena.length ≤ mark
  · simp only [hm, if_true]
  · simp only [hm, if_false, setArena_withFuncs]

theorem popFrame_withFuncs (keep : Option Nat) :
    ({ e with funcs := F } : Env).popFrame keep =
      ({ (e.popFrame keep).1 with funcs := F }, (e.popFrame keep).2) := by
  cases hfr : e.frames with
  | nil => simp only [Env.popFrame, hfr]
  | cons a rest =>
    simp only [Env.popFrame, hfr]
    rw [← setArena_withFuncs]
    rfl

end WithFuncs

/-- Two environments alike but for their callables, each callable of the second being that of
the first with the spans of its body relabeled by a map of `G`. -/
def Relabeled (G : (Span → Span) → Prop) (e e' : Env) : Prop :=
  ∃ F : Std.TreeMap String Callable, e' = { e with funcs := F } ∧
    ∀ name : String, ∃ g, G g ∧ F[name]? = (e.funcs[name]?).map (Callable.mapSpans g)

section Relabeled

variable {G : (Span → Span) → Prop} {e e' : Env}

theorem Relabeled.refl (hG : G id) (e : Env) : Relabeled G e e := by
  refine ⟨e.funcs, rfl, fun name ↦ ⟨id, hG, ?_⟩⟩
  cases e.funcs[name]? <;> simp

theorem Relabeled.vars (h : Relabeled G e e') : e'.vars = e.vars := by
  obtain ⟨F, rfl, -⟩ := h
  rfl

theorem Relabeled.arena (h : Relabeled G e e') : e'.arena = e.arena := by
  obtain ⟨F, rfl, -⟩ := h
  rfl

theorem Relabeled.lookup (h : Relabeled G e e') (name : String) :
    e'.lookup name = e.lookup name := by
  rw [Env.lookup, Env.lookup, h.vars]

theorem Relabeled.mark (h : Relabeled G e e') : e'.mark = e.mark := by
  rw [Env.mark, Env.mark, h.arena]

theorem Relabeled.callable (h : Relabeled G e e') (name : String) :
    ∃ g, G g ∧ e'.callable? name = (e.callable? name).map (Callable.mapSpans g) := by
  obtain ⟨F, rfl, hF⟩ := h
  exact hF name

theorem Relabeled.map (h : Relabeled G e e') (f : Env → Env)
    (hf : ∀ F, f { e with funcs := F } = { f e with funcs := F }) (hfuncs : (f e).funcs = e.funcs) :
    Relabeled G (f e) (f e') := by
  obtain ⟨F, rfl, hF⟩ := h
  exact ⟨F, hf F, by rw [hfuncs]; exact hF⟩

theorem Relabeled.declare (h : Relabeled G e e') (name : String) (v : Variable) :
    Relabeled G (e.declare name v) (e'.declare name v) :=
  h.map (·.declare name v) (fun _ ↦ rfl) rfl

theorem Relabeled.rebind (h : Relabeled G e e') (name : String) (c : Cell) :
    Relabeled G (e.rebind name c) (e'.rebind name c) := by
  refine h.map (·.rebind name c) (fun F ↦ ?_) ?_
  · unfold Env.rebind
    split <;> rfl
  · unfold Env.rebind
    split <;> rfl

theorem Relabeled.bindLocal (h : Relabeled G e e') (name : String) (v : Variable) :
    (e'.bindLocal name v).1 = (e.bindLocal name v).1 ∧
      Relabeled G (e.bindLocal name v).2 (e'.bindLocal name v).2 := by
  refine ⟨by rw [Env.bindLocal, Env.bindLocal, h.vars], ?_⟩
  exact h.map (fun e ↦ (e.bindLocal name v).2) (fun _ ↦ rfl) rfl

theorem Relabeled.restore (h : Relabeled G e e') (name : String) (prev : Option Cell) :
    Relabeled G (e.restore name prev) (e'.restore name prev) := by
  cases prev <;> exact h.map (·.restore name _) (fun _ ↦ rfl) rfl

theorem Relabeled.pushFrame (h : Relabeled G e e') : Relabeled G e.pushFrame e'.pushFrame :=
  h.map Env.pushFrame (fun _ ↦ rfl) rfl

theorem Relabeled.temporary (h : Relabeled G e e') (d : Nat) (v : Variable) :
    (e'.temporary d v).1 = (e.temporary d v).1 ∧
      Relabeled G (e.temporary d v).2 (e'.temporary d v).2 := by
  obtain ⟨F, rfl, hF⟩ := h
  rw [temporary_withFuncs]
  exact ⟨rfl, F, rfl, by simpa only [Env.temporary, funcs_setArena] using hF⟩

theorem Relabeled.releaseSince (h : Relabeled G e e') (mark : Nat) (keep : Option Nat) :
    (e'.releaseSince mark keep).2 = (e.releaseSince mark keep).2 ∧
      Relabeled G (e.releaseSince mark keep).1 (e'.releaseSince mark keep).1 := by
  obtain ⟨F, rfl, hF⟩ := h
  rw [releaseSince_withFuncs]
  exact ⟨rfl, F, rfl, by rw [funcs_releaseSince]; exact hF⟩

theorem Relabeled.popFrame (h : Relabeled G e e') (keep : Option Nat) :
    (e'.popFrame keep).2 = (e.popFrame keep).2 ∧
      Relabeled G (e.popFrame keep).1 (e'.popFrame keep).1 := by
  obtain ⟨F, rfl, hF⟩ := h
  rw [popFrame_withFuncs]
  exact ⟨rfl, F, rfl, by rw [funcs_popFrame]; exact hF⟩

theorem Relabeled.defineFunction (h : Relabeled G e e') {g : Span → Span} (hg : G g)
    (name : String) (params : List String) (body : List Node) :
    Relabeled G (e.defineFunction name params body)
      (e'.defineFunction name params (body.map (Node.mapSpans g))) := by
  obtain ⟨F, rfl, hF⟩ := h
  refine ⟨F.insert name (.user params (body.map (Node.mapSpans g))), rfl, fun k ↦ ?_⟩
  simp only [Env.defineFunction, Std.TreeMap.getElem?_insert]
  split
  · exact ⟨g, hg, rfl⟩
  · exact hF k

theorem Relabeled.bindAll (d : Nat) (pairs : List (String × Cell)) :
    ∀ {e e' : Env} (shadowed : List (String × Option Cell)), Relabeled G e e' →
      (bindAll d e' pairs shadowed).1 = (bindAll d e pairs shadowed).1 ∧
        Relabeled G (bindAll d e pairs shadowed).2 (bindAll d e' pairs shadowed).2 := by
  induction pairs with
  | nil => exact fun _ h ↦ ⟨rfl, h⟩
  | cons pa rest ih =>
    obtain ⟨p, a⟩ := pa
    intro e e' shadowed h
    obtain ⟨hprev, hb⟩ := h.bindLocal p (a.var.inFrame d)
    simp only [Env.bindAll]
    rw [hprev]
    exact ih _ hb

theorem Relabeled.restoreAll (shadowed : List (String × Option Cell)) :
    ∀ {e e' : Env}, Relabeled G e e' →
      Relabeled G (restoreAll e shadowed) (restoreAll e' shadowed) := by
  induction shadowed with
  | nil => exact fun h ↦ h
  | cons pp rest ih =>
    obtain ⟨p, prev⟩ := pp
    exact fun h ↦ ih (h.restore p prev)

end Relabeled

end Env

namespace Machine

/-- The machine `m'` is `m` with its callables relabeled by maps of `G`, the two having printed
and recorded alike after the output `o₀` and the events `e₀` that `m'` started with. -/
structure Relabeled (G : (Span → Span) → Prop) (o₀ : String) (e₀ : Array Event)
    (m m' : Machine) : Prop where
  env : m.env.Relabeled G m'.env
  calls : m'.calls = m.calls
  output : m'.output = o₀ ++ m.output
  events : m'.events = e₀ ++ m.events

variable {G : (Span → Span) → Prop} {o₀ : String} {e₀ : Array Event} {m m' : Machine}

theorem Relabeled.withEnv (h : Relabeled G o₀ e₀ m m') {e e' : Env} (he : e.Relabeled G e') :
    Relabeled G o₀ e₀ { m with env := e } { m' with env := e' } :=
  ⟨he, h.calls, h.output, h.events⟩

theorem Relabeled.record (h : Relabeled G o₀ e₀ m m') (cfg : Config) (ev : Event) :
    Relabeled G o₀ e₀ { m with events := Exec.record cfg ev m.events }
      { m' with events := Exec.record cfg ev m'.events } := by
  refine ⟨h.env, h.calls, h.output, ?_⟩
  simp only [Exec.record, h.events]
  split
  · exact Array.append_push.symm
  · rfl

end Machine

namespace Exec

/-- Two outcomes alike up to spans: the same value, or faults that differ by a map of `G`. -/
inductive ResultRelabeled (G : (Span → Span) → Prop) {α : Type} :
    Except Fault α → Except Fault α → Prop
  | ok (a : α) : ResultRelabeled G (.ok a) (.ok a)
  | error (f : Fault) {g : Span → Span} (hg : G g) :
    ResultRelabeled G (.error f) (.error (f.mapSpan g))

theorem ResultRelabeled.toBool_eq {G : (Span → Span) → Prop} {α : Type} {r r' : Except Fault α}
    (h : ResultRelabeled G r r') : r'.toBool = r.toBool := by
  cases h <;> rfl

theorem ResultRelabeled.keptId_eq {G : (Span → Span) → Prop} {r r' : Except Fault (Option Cell)}
    (h : ResultRelabeled G r r') : keptId r' = keptId r := by
  cases h <;> rfl

theorem ResultRelabeled.ofFault {G : (Span → Span) → Prop} (hG : G id) {α : Type}
    {r r' : Except Fault α} (h : ResultRelabeled G r r') :
    ∃ g, G g ∧ r'.mapError RunError.ofFault =
      (r.mapError RunError.ofFault).mapError (RunError.mapSpan g) := by
  cases h with
  | ok a => exact ⟨id, hG, rfl⟩
  | error f hg => exact ⟨_, hg, by simp only [Except.mapError, RunError.ofFault_mapSpan]⟩

def RunRelabeled (G : (Span → Span) → Prop) (o₀ : String) (e₀ : Array Event) {α : Type}
    (a b : Except Fault α × Machine) : Prop :=
  ResultRelabeled G a.1 b.1 ∧ Machine.Relabeled G o₀ e₀ a.2 b.2

/-- The step `y` does what `x` does up to spans: run under the arena store from related
machines, the two end alike. -/
def Relabels (G : (Span → Span) → Prop) {α : Type} (x y : Exec α) : Prop :=
  ∀ cfg m m' o₀ e₀, cfg.store = .arenas → Machine.Relabeled G o₀ e₀ m m' →
    RunRelabeled G o₀ e₀ (x.execute cfg m) (y.execute cfg m')

namespace Relabels

variable {G : (Span → Span) → Prop} {α β : Type} {g : Span → Span}

theorem bind {A : α → Prop} {x y : Exec α} {f f' : α → Exec β} (hx : Relabels G x y)
    (hA : Yields A x) (hf : ∀ a, A a → Relabels G (f a) (f' a)) :
    Relabels G (x >>= f) (y >>= f') := by
  intro cfg m m' o₀ e₀ hs hm
  obtain ⟨hr, hm₁⟩ := hx cfg m m' o₀ e₀ hs hm
  have hA₁ := hA cfg m
  rw [execute_bind, execute_bind]
  generalize x.execute cfg m = a at hr hm₁ hA₁ ⊢
  generalize y.execute cfg m' = b at hr hm₁ ⊢
  obtain ⟨r, m₁⟩ := a
  obtain ⟨r', m₁'⟩ := b
  cases hr with
  | ok a => exact hf a (hA₁ a rfl) cfg m₁ m₁' o₀ e₀ hs hm₁
  | error f hg => exact ⟨.error f hg, hm₁⟩

theorem pure (a : α) : Relabels G (Pure.pure a : Exec α) (Pure.pure a) :=
  fun _ _ _ _ _ _ hm ↦ ⟨.ok a, hm⟩

theorem throw (hg : G g) (f : Fault) :
    Relabels G (MonadExcept.throw f : Exec α) (MonadExcept.throw (f.mapSpan g)) :=
  fun _ _ _ _ _ _ hm ↦ ⟨.error f hg, hm⟩

theorem fail (hg : G g) (e : EvalError) :
    Relabels G (Exec.fail e : Exec α) (Exec.fail (e.mapSpan g)) :=
  throw hg (.error e)

theorem depth : Relabels G Exec.depth Exec.depth := fun _ _ _ _ _ _ hm ↦ ⟨.ok _, hm⟩

theorem env_bind {f f' : Env → Exec α}
    (hf : ∀ e e', e.Relabeled G e' → Relabels G (f e) (f' e')) :
    Relabels G (Exec.env >>= f) (Exec.env >>= f') := by
  intro cfg m m' o₀ e₀ hs hm
  rw [execute_bind_ok execute_env, execute_bind_ok execute_env]
  exact hf _ _ hm.env cfg m m' o₀ e₀ hs hm

theorem modifyEnv {f f' : Env → Env} (hf : ∀ e e', e.Relabeled G e' → (f e).Relabeled G (f' e')) :
    Relabels G (Exec.modifyEnv f) (Exec.modifyEnv f') :=
  fun _ _ _ _ _ _ hm ↦ ⟨.ok (), hf _ _ hm.env, hm.calls, hm.output, hm.events⟩

theorem emit (ev : Event) : Relabels G (Exec.emit ev) (Exec.emit ev) := by
  intro cfg m m' o₀ e₀ _ hm
  rw [execute_emit, execute_emit]
  exact ⟨.ok (), hm.record cfg ev⟩

theorem temporary (v : Variable) : Relabels G (Exec.temporary v) (Exec.temporary v) := by
  intro cfg m m' o₀ e₀ hs hm
  obtain ⟨hc, he⟩ := hm.env.temporary cfg.depth v
  rw [execute_temporary, execute_temporary, hs, Store.arenas_temporary, hc]
  exact ⟨.ok _, hm.withEnv he⟩

theorem reportRelease (count : Option Nat) :
    Relabels G (Exec.reportRelease count) (Exec.reportRelease count) := by
  cases count with
  | none => exact pure ()
  | some n => exact depth.bind (Yields.trivial _) fun _ _ ↦ emit _

theorem releaseSince (mark : Nat) (keep : Option Cell) :
    Relabels G (Exec.releaseSince mark keep) (Exec.releaseSince mark keep) := by
  intro cfg m m' o₀ e₀ hs hm
  obtain ⟨hc, he⟩ := hm.env.releaseSince mark (keep.map Cell.id)
  rw [execute_releaseSince_eq, execute_releaseSince_eq, hs, Store.arenas_releaseSince, hc]
  exact reportRelease _ cfg _ _ o₀ e₀ hs (hm.withEnv he)

theorem printLine (hg : G g) (text : String) (span : Span) :
    Relabels G (Exec.printLine text span) (Exec.printLine text (g span)) := by
  intro cfg m m' o₀ e₀ _ hm
  simp only [Exec.printLine, execute_bind_ok execute_read]
  split
  · exact ⟨.error _ hg, hm⟩
  · refine ⟨.ok (), hm.env, hm.calls, ?_, hm.events⟩
    simp only [execute_modify, hm.output, String.append_assoc]

theorem leaveFrame {cfg : Config} (hs : cfg.store = .arenas) {o₀ : String} {e₀ : Array Event}
    {a b : Except Fault (Option Cell) × Machine} (h : RunRelabeled G o₀ e₀ a b) :
    RunRelabeled G o₀ e₀ (Exec.leaveFrame cfg a) (Exec.leaveFrame cfg b) := by
  obtain ⟨r, m₁⟩ := a
  obtain ⟨r', m₁'⟩ := b
  obtain ⟨hr, hm⟩ := h
  obtain ⟨hc, he⟩ := hm.env.popFrame (keptId r)
  have hx := (hm.withEnv he).record cfg (.frameExited (cfg.depth + 1) r.toBool)
  refine ⟨hr, ?_⟩
  simp only [Exec.leaveFrame, hs, Store.arenas_popFrame, hr.toBool_eq, hr.keptId_eq, hc]
  cases (m₁.env.popFrame (keptId r)).2 with
  | none => exact hx
  | some n => exact hx.record cfg (.released cfg.depth n)

theorem inFrame {body body' : Exec (Option Cell)} (hb : Relabels G body body') :
    Relabels G (Exec.inFrame body) (Exec.inFrame body') := by
  intro cfg m m' o₀ e₀ hs hm
  rw [execute_inFrame_eq, execute_inFrame_eq]
  have hm₁ : Machine.Relabeled G o₀ e₀ (enterFrame cfg m) (enterFrame cfg m') :=
    (hm.withEnv hm.env.pushFrame).record cfg _
  exact leaveFrame hs (hb _ _ _ o₀ e₀ hs hm₁)

end Relabels

def RelabelsEval (G : (Span → Span) → Prop) (ev : Node → Exec (Option Cell)) : Prop :=
  ∀ n g, G g → Relabels G (ev n) (ev (n.mapSpans g))

namespace Relabels

variable {G : (Span → Span) → Prop} {g : Span → Span} {ev : Node → Exec (Option Cell)}

def walk (G : (Span → Span) → Prop) (g : Span → Span) : Walk where
  R c _ A x y := (c → Relabels G x y) ∧ Yields A x
  σ := g
  Ok _ := True
  Sp _ := True
  Avar _ := True
  E := Env.Relabeled G
  EnvOk _ := True
  Adm := G

theorem rules (hG : G id) (hg : G g) : (walk G g).Rules where
  mono hc hA hx := ⟨fun h ↦ hx.1 (hc h), hx.2.mono hA⟩
  rewrite h hx := ⟨fun hc ↦ by rw [h hc]; exact hx.1 hc, hx.2⟩
  bind hx hf := ⟨fun hc ↦ bind (hx.1 hc) hx.2 fun a ha ↦ (hf a ha).1 hc,
    hx.2.bind fun a ha ↦ (hf a ha).2⟩
  pure ha := ⟨fun _ ↦ pure _, Yields.pure ha⟩
  fail _ := ⟨fun _ ↦ fail hg _, Yields.fail _⟩
  emit ev := ⟨fun _ ↦ emit ev, Yields.trivial _⟩
  depth := ⟨fun _ ↦ depth, Yields.trivial _⟩
  env hf := ⟨fun hc ↦ env_bind fun e e' he ↦ (hf e e' he).1 ⟨hc, True.intro⟩,
    Yields.env_bind fun e ↦ (hf e e (Env.Relabeled.refl hG e)).2⟩
  temporary _ := ⟨fun _ ↦ temporary _, Yields.trivial _⟩
  found _ := ⟨fun _ ↦ pure _, Yields.trivial _⟩
  releaseTop := ⟨fun _ ↦ releaseSince _ _, Yields.trivial _⟩
  releaseMark he _ := ⟨fun _ ↦ by rw [he.mark]; exact releaseSince _ _, Yields.trivial _⟩
  printLine text := fun _ ↦ ⟨fun _ ↦ printLine hg text _, Yields.trivial _⟩
  define _ := fun _ ↦ ⟨fun _ ↦ modifyEnv fun _ _ he ↦ he.defineFunction hg _ _ _,
    Yields.trivial _⟩
  declared _ _ := ⟨fun _ ↦ modifyEnv fun _ _ he ↦ he.declare _ _, Yields.trivial _⟩
  rebind _ _ := ⟨fun _ ↦ modifyEnv fun _ _ he ↦ he.rebind _ _, Yields.trivial _⟩
  contains he _ := by rw [he.vars]
  lookup he _ := he.lookup _
  callable name he := he.callable name
  inFrame hb := ⟨fun hc ↦ inFrame (hb.1 hc), hb.2.inFrame⟩
  literal _ := True.intro
  digits _ _ _ := True.intro
  builtin _ _ := True.intro
  span _ := True.intro
  list _ := ⟨True.intro, fun _ _ ↦ True.intro⟩

theorem evaluates (hev : RelabelsEval G ev) (hg : G g) : (walk G g).Evaluates ev :=
  fun n ↦ ⟨fun _ ↦ hev n g hg, fun _ _ _ _ _ _ ↦ True.intro⟩

theorem sequence (hG : G id) (hev : RelabelsEval G ev) (hg : G g) (body : List Node) :
    Relabels G (Exec.sequence ev body) (Exec.sequence ev (body.map (Node.mapSpans g))) :=
  ((rules hG hg).sequence (evaluates hev hg) body).1 fun _ _ ↦ True.intro

theorem callUser (hG : G id) (hev : RelabelsEval G ev) {g' : Span → Span} (hg : G g) (hg' : G g')
    (name : String) (params : List String) (body : List Node) (args : List Cell) (span : Span) :
    Relabels G (Exec.callUser ev name params body args span)
      (Exec.callUser ev name params (body.map (Node.mapSpans g')) args (g span)) := by
  intro cfg m m' o₀ e₀ hs hm
  rw [execute_callUser, execute_callUser, hm.calls]
  split_ifs
  · exact ⟨.error _ hg, hm⟩
  · exact ⟨.error _ hg, hm⟩
  · -- the parameters are bound alike, and the bodies run from related machines
    obtain ⟨hsh, hb⟩ := Env.Relabeled.bindAll cfg.depth (params.zip args) [] hm.env
    dsimp only
    rw [hsh]
    have hm₁ : Machine.Relabeled G o₀ e₀
        { m with env := (Env.bindAll cfg.depth m.env (params.zip args) []).2, calls := m.calls + 1 }
        { m' with env := (Env.bindAll cfg.depth m'.env (params.zip args) []).2
                  calls := m.calls + 1 } :=
      ⟨hb, rfl, hm.output, hm.events⟩
    obtain ⟨hr, hm₂⟩ := sequence hG hev hg' body cfg _ _ o₀ e₀ hs hm₁
    exact ⟨hr, hm₂.env.restoreAll _, by rw [hm₂.calls], hm₂.output, hm₂.events⟩

theorem calls (hG : G id) (hev : RelabelsEval G ev) (hg : G g) : (walk G g).Calls ev :=
  fun name span _ params body _ args _ hg' _ ↦
    ⟨fun _ ↦ callUser hG hev hg hg' name params body args span, fun _ _ _ _ _ _ ↦ True.intro⟩

theorem eval (hG : G id) (n : Nat) : RelabelsEval G (Exec.eval n) := by
  induction n with
  | zero =>
    intro node g hg
    rw [Exec.eval, Exec.eval]
    exact throw hg _
  | succ n ih =>
    intro node g hg
    exact ((rules hG hg).eval_succ (evaluates ih hg) (calls hG ih hg)
      ⟨fun _ ↦ throw hg _, Yields.throw _⟩ node).1 True.intro

theorem program (hG : G id) (hg : G g) (fuel : Nat) (prog : List Node) :
    Relabels G (Exec.program fuel prog) (Exec.program fuel (prog.map (Node.mapSpans g))) :=
  ((rules hG hg).program (evaluates (eval hG fuel) hg) prog).1 fun _ _ ↦ True.intro

end Relabels

theorem program_append (fuel : Nat) (p : List Node) {q : List Node} (hq : q ≠ []) :
    program fuel (p ++ q) = (program fuel p >>= fun _ ↦ program fuel q) := by
  unfold program
  rw [List.foldlM_append]
  congr 1
  funext r
  cases q with
  | nil => exact absurd rfl hq
  | cons node rest => rw [List.foldlM_cons, List.foldlM_cons]

theorem program_append_relabels {G : (Span → Span) → Prop} (hG : G id) {g : Span → Span}
    (hg : G g) {cfg : Config} (hs : cfg.store = .arenas) (fuel : Nat) {p : List Node}
    {m m₁ : Machine} {r₁ : Option Cell} (h : (program fuel p).execute cfg m = (.ok r₁, m₁))
    (q : List Node) :
    Machine.Relabeled G m₁.output m₁.events
        ((program fuel q).execute cfg { env := m₁.env, calls := m₁.calls }).2
        ((program fuel (p ++ q.map (Node.mapSpans g))).execute cfg m).2 ∧
      (q ≠ [] → ResultRelabeled G
        ((program fuel q).execute cfg { env := m₁.env, calls := m₁.calls }).1
        ((program fuel (p ++ q.map (Node.mapSpans g))).execute cfg m).1) := by
  have hm₀ : Machine.Relabeled G m₁.output m₁.events { env := m₁.env, calls := m₁.calls } m₁ :=
    ⟨.refl hG m₁.env, rfl, String.append_empty.symm, Array.append_empty.symm⟩
  by_cases hq : q = []
  · subst hq
    rw [List.map_nil, List.append_nil, h]
    exact ⟨hm₀, fun hne ↦ absurd rfl hne⟩
  · rw [program_append fuel p (by simpa using hq), execute_bind_ok h]
    have hrun := Relabels.program hG hg fuel q cfg _ m₁ _ _ hs hm₀
    exact ⟨hrun.2, fun _ ↦ hrun.1⟩

end Exec

def Span.KeptOrShifted (k : Nat) (g : Span → Span) : Prop := g = id ∨ g = Span.shift k

namespace Interpreter

theorem run_of_parse (it : Interpreter) {src : String} {prog : List Node}
    (h : parseProgram src = .ok prog) : it.run src = it.runProgram prog := by
  unfold Interpreter.run
  rw [h]

theorem exists_parse_of_result_ok {it : Interpreter} {src : String} {r : Option Cell}
    (h : (it.run src).1.result = .ok r) : ∃ p, parseProgram src = .ok p := by
  unfold Interpreter.run at h
  split at h
  · cases h
  · exact ⟨_, ‹_›⟩

theorem runProgram_events (it : Interpreter) (prog : List Node) :
    (it.runProgram prog).1.events = ((Exec.program fuel prog).execute it.config it.machine).2.events
      := rfl

/-- A session is one long program. From a reachable interpreter, running `P₁` to an answer and
then `P₂`, a text that reads as a program, does what running `P₁`, a line feed and `P₂` at once
does: the same bindings, temporaries and open frames; the same functions, but that the joined
text moves the spans of the bodies `P₂` defines past `P₁` and the line feed; the same output and
events in all; and if `P₂` has an expression, the same answer, or the same error at a span kept
or moved the same way. -/
theorem run_session_as_one_program {it : Interpreter} (hit : it.Reachable) {P₁ P₂ : String}
    {r₁ : Option Cell} {q : List Node} (h₁ : (it.run P₁).1.result = .ok r₁)
    (h₂ : parseProgram P₂ = .ok q) :
    ((it.run P₁).2.run P₂).2.env.Relabeled (Span.KeptOrShifted (P₁.utf8ByteSize + 1))
        (it.run (P₁ ++ "\n" ++ P₂)).2.env ∧
      (it.run (P₁ ++ "\n" ++ P₂)).2 =
        { ((it.run P₁).2.run P₂).2 with env := (it.run (P₁ ++ "\n" ++ P₂)).2.env } ∧
      (it.run (P₁ ++ "\n" ++ P₂)).1.output =
        (it.run P₁).1.output ++ ((it.run P₁).2.run P₂).1.output ∧
      (it.run (P₁ ++ "\n" ++ P₂)).1.events =
        (it.run P₁).1.events ++ ((it.run P₁).2.run P₂).1.events ∧
      (q ≠ [] → ∃ g, Span.KeptOrShifted (P₁.utf8ByteSize + 1) g ∧
        (it.run (P₁ ++ "\n" ++ P₂)).1.result =
          ((it.run P₁).2.run P₂).1.result.mapError (RunError.mapSpan g)) := by
  obtain ⟨p, hp⟩ := exists_parse_of_result_ok h₁
  rw [run_of_parse it hp, runProgram_result] at h₁
  rcases h₀ : (Exec.program fuel p).execute it.config it.machine with ⟨r, m₁⟩
  rw [h₀] at h₁
  obtain rfl : r = .ok r₁ := by
    cases r with
    | error f => cases h₁
    | ok a => cases h₁; rfl
  obtain ⟨hm, hres⟩ := Exec.program_append_relabels (G := Span.KeptOrShifted (P₁.utf8ByteSize + 1))
    (.inl rfl) (.inr rfl) hit.idle.store fuel h₀ q
  have hit₁ : (it.runProgram p).2 = { it with env := m₁.env, calls := m₁.calls } := by
    rw [runProgram_snd, h₀]
  rw [run_of_parse it (parseProgram_append_newline hp h₂), run_of_parse it hp, hit₁,
    run_of_parse _ h₂]
  -- the interpreter after `P₁` runs `P₂` under the same configuration, from `m₁` cleared
  have hcfg : ({ it with env := m₁.env, calls := m₁.calls } : Interpreter).config = it.config := rfl
  have hmach : ({ it with env := m₁.env, calls := m₁.calls } : Interpreter).machine =
      { env := m₁.env, calls := m₁.calls } := rfl
  simp only [runProgram_snd, runProgram_result, runProgram_output, runProgram_events, hcfg, hmach,
    h₀]
  generalize (Exec.program fuel q).execute it.config { env := m₁.env, calls := m₁.calls } = A
    at hm hres ⊢
  generalize Exec.execute
      (Exec.program fuel (p ++ q.map (Node.mapSpans (Span.shift (P₁.utf8ByteSize + 1)))))
      it.config it.machine = B at hm hres ⊢
  refine ⟨hm.env, by rw [hm.calls], hm.output, hm.events, fun hq ↦ (hres hq).ofFault (.inl rfl)⟩

theorem run_definition_then_call_as_one_program :
    Reachable ({} : Interpreter) ∧
      (({} : Interpreter).run "(function f (x) x)").1.result = .ok none ∧
      parseProgram "(f 2w)" = .ok [.list [.atom "f" ⟨1, 2⟩, .atom "2w" ⟨3, 5⟩] ⟨0, 6⟩] ∧
      [Node.list [.atom "f" ⟨1, 2⟩, .atom "2w" ⟨3, 5⟩] ⟨0, 6⟩] ≠ [] ∧
      (((({} : Interpreter).run "(function f (x) x)").2.run "(f 2w)").2.env.Relabeled
          (Span.KeptOrShifted ("(function f (x) x)".utf8ByteSize + 1))
          (({} : Interpreter).run ("(function f (x) x)" ++ "\n" ++ "(f 2w)")).2.env ∧
        (({} : Interpreter).run ("(function f (x) x)" ++ "\n" ++ "(f 2w)")).2 =
          { ((({} : Interpreter).run "(function f (x) x)").2.run "(f 2w)").2 with
            env := (({} : Interpreter).run ("(function f (x) x)" ++ "\n" ++ "(f 2w)")).2.env } ∧
        (({} : Interpreter).run ("(function f (x) x)" ++ "\n" ++ "(f 2w)")).1.output =
          (({} : Interpreter).run "(function f (x) x)").1.output ++
            ((({} : Interpreter).run "(function f (x) x)").2.run "(f 2w)").1.output ∧
        (({} : Interpreter).run ("(function f (x) x)" ++ "\n" ++ "(f 2w)")).1.events =
          (({} : Interpreter).run "(function f (x) x)").1.events ++
            ((({} : Interpreter).run "(function f (x) x)").2.run "(f 2w)").1.events ∧
        ([Node.list [.atom "f" ⟨1, 2⟩, .atom "2w" ⟨3, 5⟩] ⟨0, 6⟩] ≠ [] →
          ∃ g, Span.KeptOrShifted ("(function f (x) x)".utf8ByteSize + 1) g ∧
            (({} : Interpreter).run ("(function f (x) x)" ++ "\n" ++ "(f 2w)")).1.result =
              ((({} : Interpreter).run "(function f (x) x)").2.run "(f 2w)").1.result.mapError
                (RunError.mapSpan g))) := by
  have hreach : Reachable ({} : Interpreter) := .new 10000 {} false
  have hdef : (({} : Interpreter).run "(function f (x) x)").1.result = .ok none := by
    -- evaluated by the kernel, through a result type with decidable equality
    have h : (({} : Interpreter).run "(function f (x) x)").1.result.toOption = some none := by
      decide +kernel
    revert h
    cases (({} : Interpreter).run "(function f (x) x)").1.result <;> simp [Except.toOption]
  have hparse :
      parseProgram "(f 2w)" = .ok [.list [.atom "f" ⟨1, 2⟩, .atom "2w" ⟨3, 5⟩] ⟨0, 6⟩] := by
    rfl
  exact ⟨hreach, hdef, hparse, List.cons_ne_nil _ _,
    run_session_as_one_program hreach hdef hparse⟩

end Interpreter

end WordLang

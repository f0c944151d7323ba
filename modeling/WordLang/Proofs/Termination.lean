import WordLang.Proofs.Forms

namespace WordLang

namespace Node

/-- An expression with no `while` form in it: no list, however deep, is headed by the atom
`while`. -/
inductive NoWhile : Node → Prop
  | int (v : Int64) (span : Span) : NoWhile (.int v span)
  | atom (text : String) (span : Span) : NoWhile (.atom text span)
  | list {items : List Node} (span : Span) : (∀ sp rest, items ≠ .atom "while" sp :: rest) →
      (∀ n ∈ items, NoWhile n) → NoWhile (.list items span)

theorem noWhile_list_iff {items : List Node} {span : Span} :
    (Node.list items span).NoWhile ↔
      (∀ sp rest, items ≠ .atom "while" sp :: rest) ∧ ∀ n ∈ items, n.NoWhile :=
  ⟨fun h ↦ by cases h with | list _ hw hi => exact ⟨hw, hi⟩, fun h ↦ .list span h.1 h.2⟩

def headsWhile : List Node → Bool
  | .atom t _ :: _ => t == "while"
  | _ => false

theorem headsWhile_eq_false_iff {items : List Node} :
    headsWhile items = false ↔ ∀ sp rest, items ≠ .atom "while" sp :: rest := by
  cases items with
  | nil => simp [headsWhile]
  | cons head rest => cases head <;> simp [headsWhile]

mutual

def hasWhile : Node → Bool
  | .int .. => false
  | .atom .. => false
  | .list items _ => headsWhile items || hasWhileAll items

def hasWhileAll : List Node → Bool
  | [] => false
  | n :: rest => n.hasWhile || hasWhileAll rest

end

mutual

theorem noWhile_iff : (n : Node) → (n.NoWhile ↔ n.hasWhile = false)
  | .int v span => ⟨fun _ ↦ rfl, fun _ ↦ .int v span⟩
  | .atom t span => ⟨fun _ ↦ rfl, fun _ ↦ .atom t span⟩
  | .list items span => by
    rw [noWhile_list_iff, hasWhile, Bool.or_eq_false_iff, headsWhile_eq_false_iff,
      forall_noWhile_iff items]

theorem forall_noWhile_iff : (ns : List Node) → ((∀ n ∈ ns, n.NoWhile) ↔ hasWhileAll ns = false)
  | [] => by simp [hasWhileAll]
  | n :: rest => by
    rw [List.forall_mem_cons, hasWhileAll, Bool.or_eq_false_iff, noWhile_iff n,
      forall_noWhile_iff rest]

end

instance : DecidablePred NoWhile := fun n ↦ decidable_of_iff _ (noWhile_iff n).symm

mutual

def depth : Node → Nat
  | .int .. => 0
  | .atom .. => 0
  | .list items _ => depthAll items + 1

def depthAll : List Node → Nat
  | [] => 0
  | n :: rest => max n.depth (depthAll rest)

end

theorem depth_le_depthAll {n : Node} {ns : List Node} (h : n ∈ ns) : n.depth ≤ depthAll ns := by
  induction ns with
  | nil => cases h
  | cons m rest ih =>
    rw [depthAll]
    rcases List.mem_cons.1 h with rfl | h
    · exact Nat.le_max_left _ _
    · exact Nat.le_trans (ih h) (Nat.le_max_right _ _)

theorem NoWhile.of_mem {items : List Node} {span : Span} (h : (Node.list items span).NoWhile)
    {n : Node} (hn : n ∈ items) : n.NoWhile ∧ n.depth + 1 ≤ (Node.list items span).depth :=
  ⟨(noWhile_list_iff.1 h).2 n hn, Nat.succ_le_succ (depth_le_depthAll hn)⟩

end Node

def Callable.body : Callable → List Node
  | .builtin _ => []
  | .user _ body => body

namespace Env

def BodiesWithin (D : Nat) (e : Env) : Prop :=
  ∀ (name : String) (params : List String) (body : List Node),
    e.funcs[name]? = some (.user params body) → ∀ b ∈ body, b.NoWhile ∧ b.depth ≤ D

def bodyDepth (e : Env) : Nat := Node.depthAll (e.funcs.toList.flatMap fun p ↦ p.2.body)

theorem BodiesWithin.of_funcs {D : Nat} {e e' : Env} (h : e.BodiesWithin D)
    (hf : e'.funcs = e.funcs) : e'.BodiesWithin D := by
  intro name params body hb
  rw [hf] at hb
  exact h name params body hb

theorem BodiesWithin.mono {D D' : Nat} {e : Env} (h : e.BodiesWithin D) (hD : D ≤ D') :
    e.BodiesWithin D' := fun name params body hf b hb ↦
  ⟨(h name params body hf b hb).1, Nat.le_trans (h name params body hf b hb).2 hD⟩

theorem BodiesWithin.defineFunction {D : Nat} {e : Env} (h : e.BodiesWithin D) (name : String)
    (params : List String) {body : List Node} (hb : ∀ b ∈ body, b.NoWhile ∧ b.depth ≤ D) :
    (e.defineFunction name params body).BodiesWithin D := by
  intro f ps bs hf
  simp only [Env.defineFunction, Std.TreeMap.getElem?_insert] at hf
  split at hf
  · cases hf
    exact hb
  · exact h f ps bs hf

theorem bodiesWithin_bodyDepth {e : Env} (h : ∀ (name : String) (params : List String)
    (body : List Node), e.funcs[name]? = some (.user params body) → ∀ b ∈ body, b.NoWhile) :
    e.BodiesWithin e.bodyDepth := by
  intro name params body hf b hb
  refine ⟨h name params body hf b hb, Node.depth_le_depthAll ?_⟩
  exact List.mem_flatMap.2 ⟨(name, .user params body),
    Std.TreeMap.mem_toList_iff_getElem?_eq_some.2 hf, hb⟩

theorem funcs_bindAll (d : Nat) (e : Env) (pairs : List (String × Cell))
    (shadowed : List (String × Option Cell)) : (bindAll d e pairs shadowed).2.funcs = e.funcs := by
  induction pairs generalizing e shadowed with
  | nil => rfl
  | cons pa rest ih => exact ih _ _

theorem funcs_restoreAll (e : Env) (shadowed : List (String × Option Cell)) :
    (restoreAll e shadowed).funcs = e.funcs := by
  induction shadowed generalizing e with
  | nil => rfl
  | cons pp rest ih =>
    obtain ⟨p, prev⟩ := pp
    rw [restoreAll, ih]
    cases prev <;> rfl

end Env

namespace Exec

variable {α β : Type} {D k : Nat}

/-- The step `x` does not run out of fuel from a machine with at most `k` more calls allowed
whose function bodies are within `D`, keeps the bodies within `D`, and gives the count of calls
back. -/
def Finishes (D k : Nat) (x : Exec α) : Prop :=
  ∀ cfg m, cfg.store = .arenas → cfg.callLimit - m.calls ≤ k → m.env.BodiesWithin D →
    (x.execute cfg m).1 ≠ .error .outOfFuel ∧ (x.execute cfg m).2.env.BodiesWithin D ∧
      (x.execute cfg m).2.calls = m.calls

namespace Finishes

theorem of_funcs {x : Exec α} (h : ∀ cfg m, cfg.store = .arenas →
    (x.execute cfg m).1 ≠ .error .outOfFuel ∧ (x.execute cfg m).2.env.funcs = m.env.funcs ∧
      (x.execute cfg m).2.calls = m.calls) : Finishes D k x := by
  intro cfg m hs _ hb
  obtain ⟨hr, hf, hc⟩ := h cfg m hs
  exact ⟨hr, hb.of_funcs hf, hc⟩

theorem bind {x : Exec α} {f : α → Exec β} (hx : Finishes D k x) (hf : ∀ a, Finishes D k (f a)) :
    Finishes D k (x >>= f) := by
  intro cfg m hs hl hb
  obtain ⟨hr, hb', hc⟩ := hx cfg m hs hl hb
  rw [execute_bind]
  rcases h : x.execute cfg m with ⟨e | a, m'⟩
  · rw [h] at hr hb' hc
    dsimp only at hr hb' hc ⊢
    exact ⟨fun he ↦ hr (congrArg _ (Except.error.inj he)), hb', hc⟩
  · rw [h] at hb' hc
    dsimp only
    obtain ⟨hr₂, hb₂, hc₂⟩ := hf a cfg m' hs (by rw [hc]; exact hl) hb'
    exact ⟨hr₂, hb₂, hc₂.trans hc⟩

theorem map {x : Exec α} (f : α → β) (hx : Finishes D k x) : Finishes D k (f <$> x) := by
  intro cfg m hs hl hb
  obtain ⟨hr, hb', hc⟩ := hx cfg m hs hl hb
  rw [execute_map]
  refine ⟨fun h ↦ hr ?_, hb', hc⟩
  cases hx' : (x.execute cfg m).1 with
  | error e => rw [hx'] at h; exact congrArg _ (Except.error.inj h)
  | ok a => rw [hx'] at h; cases h

theorem pure (a : α) : Finishes D k (Pure.pure a : Exec α) :=
  of_funcs fun _ _ _ ↦ ⟨by simp, rfl, rfl⟩

theorem fail (e : EvalError) : Finishes D k (Exec.fail e : Exec α) :=
  of_funcs fun _ _ _ ↦ ⟨by simp, rfl, rfl⟩

theorem read : Finishes D k (MonadReader.read : Exec Config) :=
  of_funcs fun _ _ _ ↦ ⟨by simp, rfl, rfl⟩

theorem depth : Finishes D k Exec.depth := of_funcs fun _ _ _ ↦ ⟨by simp, rfl, rfl⟩

theorem emit (ev : Event) : Finishes D k (Exec.emit ev) :=
  of_funcs fun _ _ _ ↦ by rw [execute_emit]; exact ⟨by simp, rfl, rfl⟩

theorem printLine (text : String) (span : Span) : Finishes D k (Exec.printLine text span) := by
  refine read.bind fun c ↦ ?_
  split
  · exact fail _
  · exact of_funcs fun _ _ _ ↦ ⟨by simp, rfl, rfl⟩

theorem env_bind {f : Env → Exec α} (hf : ∀ e : Env, e.BodiesWithin D → Finishes D k (f e)) :
    Finishes D k (Exec.env >>= f) := by
  intro cfg m hs hl hb
  rw [execute_bind_ok execute_env]
  exact hf m.env hb cfg m hs hl hb

theorem modifyEnv {f : Env → Env} (hf : ∀ e, e.BodiesWithin D → (f e).BodiesWithin D) :
    Finishes D k (Exec.modifyEnv f) := by
  intro cfg m _ _ hb
  rw [execute_modifyEnv]
  exact ⟨by simp, hf m.env hb, rfl⟩

theorem temporary (v : Variable) : Finishes D k (Exec.temporary v) := by
  refine of_funcs fun cfg m hs ↦ ?_
  rw [execute_temporary, hs]
  exact ⟨by simp, by simp [Env.temporary], rfl⟩

theorem releaseSince (mark : Nat) (keep : Option Cell) :
    Finishes D k (Exec.releaseSince mark keep) := by
  refine of_funcs fun cfg m hs ↦ ?_
  obtain ⟨evs, h⟩ := execute_releaseSince cfg m mark keep
  rw [h, hs]
  exact ⟨by simp, Env.funcs_releaseSince _ _ _, rfl⟩

theorem inFrame {body : Exec (Option Cell)} (hb : Finishes D k body) :
    Finishes D k (Exec.inFrame body) := by
  intro cfg m hs hl hw
  rw [execute_inFrame_eq]
  obtain ⟨hr, hw', hc⟩ := hb { cfg with depth := cfg.depth + 1 } (enterFrame cfg m) hs hl hw
  refine ⟨hr, hw'.of_funcs ?_, hc⟩
  simp only [leaveFrame, hs, Store.arenas_popFrame]
  exact Env.funcs_popFrame _ _

def unary (D k f : Nat) : Unary where
  P c _ x := c → Finishes D k x
  Ok n := n.NoWhile ∧ n.depth ≤ D ∧ n.depth + 1 + k * (D + 1) ≤ f
  Sp _ := True
  EnvOk := Env.BodiesWithin D

theorem rules (f : Nat) : (unary D k f).Rules where
  mono hc hx h := hx (hc h)
  bind hx hf hc := (hx hc).bind fun a ↦ hf a hc
  stuck _ := ⟨_, fun _ ↦ fail (.illFormed "" ⟨0, 0⟩)⟩
  pure a _ := pure a
  fail _ _ := fail _
  emit ev _ := emit ev
  depth _ := depth
  env hf hc := env_bind fun e he ↦ hf e ⟨hc, he⟩
  temporary v _ := temporary v
  releaseSince _ _ _ := releaseSince _ _
  printLine text := fun _ _ ↦ printLine text _
  define name := fun hok hc ↦ modifyEnv fun _ he ↦ he.defineFunction name _ fun b hb ↦
    have hb := hok hc b (List.mem_filter.1 hb).1
    ⟨hb.1, hb.2.1⟩
  declared _ _ _ := modifyEnv fun _ he ↦ he.of_funcs rfl
  rebind _ _ _ := modifyEnv fun e he ↦ he.of_funcs (Env.funcs_rebind e _ _)
  inFrame hb hc := inFrame (hb hc)
  span _ := True.intro
  list h := ⟨True.intro, fun n hn ↦ by
    obtain ⟨hnw, hD, hf⟩ := h
    have hd := Node.NoWhile.of_mem hnw hn
    exact ⟨hd.1, by omega, by omega⟩⟩

variable {ev : Node → Exec (Option Cell)} {f : Nat}

theorem callUser (hev : 0 < k → (unary D (k - 1) f).walk.Evaluates ev) (name : String)
    (params : List String) {body : List Node} (args : List Cell) (span : Span)
    (hbody : 0 < k → ∀ b ∈ body, (unary D (k - 1) f).Ok b) :
    Finishes D k (Exec.callUser ev name params body args span) := by
  intro cfg m hs hl hb
  rw [execute_callUser]
  split_ifs with harity hlimit
  · exact ⟨by simp, hb, rfl⟩
  · exact ⟨by simp, hb, rfl⟩
  · dsimp only
    generalize hbound : Env.bindAll cfg.depth m.env (params.zip args) [] = bound
    have hk : 0 < k := by omega
    have hb₁ : bound.2.BodiesWithin D := hb.of_funcs (hbound ▸ Env.funcs_bindAll _ _ _ _)
    obtain ⟨hr, hb₂, hc⟩ := ((rules f).walk.sequence (hev hk) body).1 (hbody hk) cfg
      { m with env := bound.2, calls := m.calls + 1 } hs (by dsimp only; omega) hb₁
    refine ⟨hr, hb₂.of_funcs (Env.funcs_restoreAll _ _), ?_⟩
    dsimp only at hc ⊢
    omega

theorem calls (hk : k * (D + 1) ≤ f) (hev : 0 < k → (unary D (k - 1) f).walk.Evaluates ev) :
    (unary D k f).walk.Calls ev :=
  Unary.calls fun name span _ params body args hcallee hc ↦
    callUser hev name params args span fun hpos b hb ↦ by
      obtain ⟨hnw, hd⟩ := hc.2 name params body hcallee b hb
      refine ⟨hnw, hd, ?_⟩
      have : (k - 1 + 1) * (D + 1) ≤ f := by rwa [Nat.sub_add_cancel hpos]
      rw [Nat.succ_mul] at this
      omega

theorem dispatch (hev : (unary D k f).walk.Evaluates ev) (hcall : (unary D k f).walk.Calls ev)
    (fuel : Nat) {items : List Node} (hnw : ∀ sp rest, items ≠ .atom "while" sp :: rest)
    (span : Span) (hitems : ∀ n ∈ items, (unary D k f).Ok n) :
    Finishes D k (Exec.dispatch ev fuel items span) := by
  have hW := (rules (D := D) (k := k) f).walk
  cases items with
  | nil => exact fail _
  | cons head rest =>
    have hrest : True ∧ ∀ n ∈ rest, (unary D k f).Ok n :=
      ⟨True.intro, fun n hn ↦ hitems n (List.mem_cons_of_mem _ hn)⟩
    cases head with
    | atom name sp =>
      simp only [Exec.dispatch]
      split_ifs with hfun hdecl hset hwhile
      · exact (hW.defineFunction rest span).1 hrest
      · exact (hW.declare rest span).1 hrest
      · exact (hW.assign hev rest span).1 hrest
      · exact absurd (by simpa using hwhile) fun h : name = "while" ↦ hnw sp rest (by rw [h])
      · exact (hW.branch hev rest span).1 hrest
      · exact (hW.call hev hcall name rest span).1 hrest
    | int _ _ => exact fail _
    | list _ _ => exact fail _

theorem eval (f : Nat) : ∀ k, (unary D k f).walk.Evaluates (Exec.eval f) := by
  induction f with
  | zero => exact fun _ ↦ Unary.evaluates fun _ hn ↦ absurd hn.2.2 (by omega)
  | succ f ih =>
    intro k
    refine Unary.evaluates fun n hn ↦ ?_
    cases n with
    | int v span =>
      rw [Exec.eval]
      exact fail _
    | atom t span =>
      rw [Exec.eval]
      exact (((rules (f + 1)).walk.resolveAtom t span).1 hn).map _
    | list items span =>
      rw [Exec.eval]
      obtain ⟨hnw, hD, hf⟩ := hn
      have hitems : ∀ n ∈ items, (unary D k f).Ok n := fun n hmem ↦ by
        have hd := Node.NoWhile.of_mem hnw hmem
        exact ⟨hd.1, by omega, by omega⟩
      have hk : k * (D + 1) ≤ f := by
        have : 0 < (Node.list items span).depth := by simp [Node.depth]
        omega
      exact inFrame (dispatch (ih k) (calls hk fun _ ↦ ih (k - 1)) f
        (Node.noWhile_list_iff.1 hnw).1 span hitems)

theorem program {prog : List Node} (hprog : ∀ n ∈ prog, n.NoWhile ∧ n.depth ≤ D) {fuel : Nat}
    (hfuel : D + 1 + k * (D + 1) ≤ fuel) : Finishes D k (Exec.program fuel prog) :=
  ((rules fuel).walk.program (eval fuel k) prog).1 fun n hn ↦
    ⟨(hprog n hn).1, (hprog n hn).2, by have := (hprog n hn).2; omega⟩

end Finishes

end Exec

/-- Only `while` can run for ever: a program with no `while` form, run from a machine whose
function bodies have none either, under any call limit, ends with a value or an error and does
not run out of fuel, once the fuel covers the nesting of the program and of the bodies for
every call the limit still allows. -/
theorem program_finishes_without_while (cfg : Config) (m : Machine) (prog : List Node)
    (hstore : cfg.store = .arenas) (hprog : ∀ n ∈ prog, n.NoWhile)
    (hfuncs : ∀ (name : String) (params : List String) (body : List Node),
      m.env.funcs[name]? = some (.user params body) → ∀ b ∈ body, b.NoWhile)
    (fuel : Nat)
    (hfuel : (cfg.callLimit - m.calls + 1) * (max (Node.depthAll prog) m.env.bodyDepth + 1) ≤
      fuel) :
    ((Exec.program fuel prog).execute cfg m).1 ≠ .error .outOfFuel := by
  generalize hD : max (Node.depthAll prog) m.env.bodyDepth = D at hfuel
  have hbodies : m.env.BodiesWithin D :=
    (Env.bodiesWithin_bodyDepth hfuncs).mono (hD ▸ Nat.le_max_right _ _)
  have hnodes : ∀ n ∈ prog, n.NoWhile ∧ n.depth ≤ D := fun n hn ↦
    ⟨hprog n hn, Nat.le_trans (Node.depth_le_depthAll hn) (hD ▸ Nat.le_max_left _ _)⟩
  have hfuel' : D + 1 + (cfg.callLimit - m.calls) * (D + 1) ≤ fuel := by
    rw [Nat.succ_mul] at hfuel
    omega
  exact (Exec.Finishes.program hnodes hfuel' cfg m hstore (Nat.le_refl _) hbodies).1

theorem self_call_finishes :
    ((Exec.program Interpreter.fuel
      [.list [.atom "function" ⟨1, 9⟩, .atom "loop" ⟨10, 14⟩,
        .list [.atom "loop" ⟨16, 20⟩] ⟨15, 21⟩] ⟨0, 22⟩,
       .list [.atom "loop" ⟨24, 28⟩] ⟨23, 29⟩]).execute {} { env := {} }).1 ≠ .error .outOfFuel :=
  program_finishes_without_while {} { env := {} } _ rfl (by decide) (fun _ _ _ h ↦ by simp at h) _
    (by decide)

end WordLang

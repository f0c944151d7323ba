import WordLang.Proofs.Frames

namespace WordLang

open Env

namespace Env

def HeldTemps (e : Env) : Prop := ∀ k ∈ e.held, ∃ n, k = tempKey n

/-- `e'` keeps the arenas holding only keys of temporaries, and binds every name `e` binds. -/
structure Retains (e e' : Env) : Prop where
  temps : e'.HeldTemps
  names : ∀ k, Plain k → k ∈ e.vars → k ∈ e'.vars

section Retains

variable {e e' e'' : Env}

theorem HeldTemps.not_held (h : e.HeldTemps) {k : String} (hk : Plain k) : k ∉ e.held :=
  fun hm ↦ by
    obtain ⟨n, rfl⟩ := h _ hm
    exact hk n rfl

theorem HeldTemps.of_subset (h : e.HeldTemps) (hsub : ∀ k ∈ e'.held, k ∈ e.held) :
    e'.HeldTemps :=
  fun k hk ↦ h k (hsub k hk)

theorem Inv.heldTemps (hi : e.Inv) : e.HeldTemps := fun k hk ↦ by
  obtain ⟨n, -, -, rfl⟩ := hi.generated k hk
  exact ⟨n, rfl⟩

theorem Retains.refl (h : e.HeldTemps) : e.Retains e := ⟨h, fun _ _ hk ↦ hk⟩

theorem Retains.trans (h₁ : e.Retains e') (h₂ : e'.Retains e'') : e.Retains e'' :=
  ⟨h₂.temps, fun k hp hk ↦ h₂.names k hp (h₁.names k hp hk)⟩

theorem Retains.of_vars (h : e.HeldTemps) (hheld : e'.held = e.held)
    (hvars : ∀ k, k ∈ e.vars → k ∈ e'.vars) : e.Retains e' :=
  ⟨h.of_subset fun _ hk ↦ hheld ▸ hk, fun k _ hk ↦ hvars k hk⟩

theorem retains_declare (h : e.HeldTemps) (name : String) (v : Variable) :
    e.Retains (e.declare name v) :=
  .of_vars h rfl fun _ hk ↦ Std.TreeMap.mem_insert.2 (.inr hk)

theorem retains_rebind (h : e.HeldTemps) (name : String) (c : Cell) :
    e.Retains (e.rebind name c) := by
  unfold Env.rebind
  split
  · exact .of_vars h rfl fun _ hk ↦ Std.TreeMap.mem_insert.2 (.inr hk)
  · exact .refl h

theorem retains_bindLocal (h : e.HeldTemps) (name : String) (v : Variable) :
    e.Retains (e.bindLocal name v).2 :=
  .of_vars h rfl fun _ hk ↦ Std.TreeMap.mem_insert.2 (.inr hk)

theorem retains_defineFunction (h : e.HeldTemps) (name : String) (params : List String)
    (body : List Node) : e.Retains (e.defineFunction name params body) :=
  .of_vars h rfl fun _ hk ↦ hk

theorem retains_pushFrame (h : e.HeldTemps) : e.Retains e.pushFrame :=
  .of_vars h (by simp [held, arenas, Env.pushFrame]) fun _ hk ↦ hk

theorem retains_temporary (h : e.HeldTemps) (d : Nat) (v : Variable) :
    e.Retains (e.temporary d v).2 := by
  refine ⟨fun k hk ↦ ?_, fun k _ hk ↦ Std.TreeMap.mem_insert.2 (.inr hk)⟩
  have hheld : (e.temporary d v).2.held = (e.setArena (e.arena ++ [tempKey (e.made + 1)])).held :=
    rfl
  rw [hheld, held_setArena] at hk
  rcases List.mem_append.1 hk with hk | hk
  · rcases List.mem_append.1 hk with hk | hk
    · exact h k (by rw [held_eq]; exact List.mem_append_left _ hk)
    · exact ⟨e.made + 1, List.mem_singleton.1 hk⟩
  · exact h k (by rw [held_eq]; exact List.mem_append_right _ hk)

theorem retains_releaseSince (h : e.HeldTemps) (mark : Nat) (keep : Option Nat) :
    e.Retains (e.releaseSince mark keep).1 := by
  refine ⟨h.of_subset fun k hk ↦ ?_, fun k hp hk ↦ ?_⟩
  · unfold Env.releaseSince at hk
    dsimp only at hk
    split at hk
    · exact hk
    · have hh : ({ e.setArena (e.arena.take mark ++ (release e.vars keep (e.arena.drop mark)).2)
          with vars := (release e.vars keep (e.arena.drop mark)).1 } : Env).held =
          (e.setArena (e.arena.take mark ++ (release e.vars keep (e.arena.drop mark)).2)).held :=
        rfl
      rw [hh, held_setArena, release_kept] at hk
      rw [held_eq]
      simp only [List.mem_append, List.mem_filter] at hk ⊢
      rcases hk with (hk | hk) | hk
      · exact .inl (List.mem_of_mem_take hk)
      · exact .inl (List.mem_of_mem_drop hk.1)
      · exact .inr hk
  · rw [Std.TreeMap.mem_iff_isSome_getElem?,
      releaseSince_lookup_of_not_held (h.not_held hp) mark keep,
      ← Std.TreeMap.mem_iff_isSome_getElem?]
    exact hk

theorem retains_popFrame (h : e.HeldTemps) (keep : Option Nat) :
    e.Retains (e.popFrame keep).1 := by
  refine ⟨h.of_subset fun k hk ↦ ?_, fun k hp hk ↦ ?_⟩
  · unfold Env.popFrame at hk
    split at hk
    · exact hk
    · rename_i a rest hf
      rw [held_setArena, release_kept, held_pop hf e.vars, held_eq] at *
      simp only [List.mem_append, List.mem_filter] at hk ⊢
      rcases hk with (hk | hk) | hk
      · exact .inr (.inl hk)
      · exact .inl hk.1
      · exact .inr (.inr hk)
  · rw [Std.TreeMap.mem_iff_isSome_getElem?, popFrame_lookup_of_not_held (h.not_held hp) keep,
      ← Std.TreeMap.mem_iff_isSome_getElem?]
    exact hk

end Retains

section Params

variable {d : Nat}

theorem held_restoreAll (e : Env) (shadowed : List (String × Option Cell)) :
    (restoreAll e shadowed).held = e.held := by
  induction shadowed generalizing e with
  | nil => rfl
  | cons pp rest ih =>
    obtain ⟨p, prev⟩ := pp
    rw [restoreAll, ih]
    cases prev <;> rfl

theorem retains_bindAll {e : Env} (h : e.HeldTemps) (pairs : List (String × Cell))
    (shadowed : List (String × Option Cell)) : e.Retains (bindAll d e pairs shadowed).2 := by
  induction pairs generalizing e shadowed with
  | nil => exact .refl h
  | cons pa rest ih =>
    obtain ⟨p, a⟩ := pa
    have hb := retains_bindLocal h p (a.var.inFrame d)
    exact hb.trans (ih hb.temps _)

theorem lookup_restoreAll_of_not_mem (e : Env) {k : String} :
    ∀ {shadowed : List (String × Option Cell)}, k ∉ shadowed.map Prod.fst →
      (restoreAll e shadowed).vars[k]? = e.vars[k]? := by
  intro shadowed
  induction shadowed generalizing e with
  | nil => intro _; rfl
  | cons pp rest ih =>
    obtain ⟨p, prev⟩ := pp
    intro hk
    simp only [List.map_cons, List.mem_cons, not_or] at hk
    rw [restoreAll, ih _ hk.2, lookup_restore, if_neg (Ne.symm hk.1)]

theorem lookup_restoreAll_shadowed (e e' : Env) (pairs : List (String × Cell)) {k : String}
    (hk : k ∈ (bindAll d e pairs []).1.map Prod.fst) :
    (restoreAll e' (bindAll d e pairs []).1).vars[k]? = e.vars[k]? :=
  calc (restoreAll e' (bindAll d e pairs []).1).vars[k]?
      = (restoreAll (bindAll d e pairs []).2 (bindAll d e pairs []).1).vars[k]? :=
        lookup_restoreAll_congr (.inl hk)
    _ = (restoreAll e []).vars[k]? := lookup_restoreAll_bindAll e pairs [] k
    _ = e.vars[k]? := rfl

end Params

end Env

namespace Exec

variable {α β : Type} {ev : Node → Exec (Option Cell)}

/-- The step, on an environment whose arenas hold only keys of temporaries, keeps them so and
leaves bound every name that was bound. -/
def KeepsNames (x : Exec α) : Prop :=
  ∀ (cfg : Config) (m : Machine), cfg.store = .arenas → m.env.HeldTemps → m.env.Retains (x.execute cfg m).2.env

namespace KeepsNames

theorem of_env {x : Exec α} (h : ∀ cfg m, (x.execute cfg m).2.env = m.env) : KeepsNames x :=
  fun cfg m _ ht ↦ by rw [h cfg m]; exact .refl ht

theorem bind {x : Exec α} {f : α → Exec β} (hx : KeepsNames x) (hf : ∀ a, KeepsNames (f a)) :
    KeepsNames (x >>= f) := by
  intro cfg m hs ht
  have hk := hx cfg m hs ht
  rw [execute_bind]
  rcases h : x.execute cfg m with ⟨_ | a, m'⟩
  · rw [h] at hk
    exact hk
  · rw [h] at hk
    exact hk.trans (hf a cfg m' hs hk.temps)

theorem pure (a : α) : KeepsNames (Pure.pure a : Exec α) := of_env fun _ _ ↦ rfl

theorem throw (f : Fault) : KeepsNames (MonadExcept.throw f : Exec α) := of_env fun _ _ ↦ rfl

theorem fail (e : EvalError) : KeepsNames (Exec.fail e : Exec α) := of_env fun _ _ ↦ rfl

theorem read : KeepsNames (MonadReader.read : Exec Config) := of_env fun _ _ ↦ rfl

theorem env : KeepsNames Exec.env := of_env fun _ _ ↦ rfl

theorem depth : KeepsNames Exec.depth := of_env fun _ _ ↦ rfl

theorem emit (ev : Event) : KeepsNames (Exec.emit ev) :=
  of_env fun _ _ ↦ by rw [execute_emit]

theorem printLine (text : String) (span : Span) : KeepsNames (Exec.printLine text span) := by
  refine read.bind fun c ↦ ?_
  split
  · exact fail _
  · exact of_env fun _ _ ↦ rfl

theorem modifyEnv {f : Env → Env} (hf : ∀ e : Env, e.HeldTemps → e.Retains (f e)) :
    KeepsNames (Exec.modifyEnv f) :=
  fun _ m _ ht ↦ by rw [execute_modifyEnv]; exact hf m.env ht

theorem temporary (v : Variable) : KeepsNames (Exec.temporary v) := fun cfg m hs ht ↦ by
  rw [execute_temporary, hs]
  exact retains_temporary ht _ _

theorem releaseSince (mark : Nat) (keep : Option Cell) :
    KeepsNames (Exec.releaseSince mark keep) := fun cfg m hs ht ↦ by
  obtain ⟨evs, h⟩ := execute_releaseSince cfg m mark keep
  rw [h, hs]
  exact retains_releaseSince ht _ _

theorem inFrame {body : Exec (Option Cell)} (hb : KeepsNames body) :
    KeepsNames (Exec.inFrame body) := by
  intro cfg m hs ht
  rw [execute_inFrame_eq]
  have hpush := retains_pushFrame ht
  have hk := hb { cfg with depth := cfg.depth + 1 } (enterFrame cfg m) hs hpush.temps
  generalize body.execute { cfg with depth := cfg.depth + 1 } (enterFrame cfg m) = res at hk ⊢
  simp only [leaveFrame, hs, Store.arenas_popFrame]
  exact hpush.trans (hk.trans (retains_popFrame hk.temps _))

def unary : Unary where
  P _ _ x := KeepsNames x
  Ok _ := True
  Sp _ := True
  EnvOk _ := True

theorem rules : unary.Rules where
  mono _ hx := hx
  bind := bind
  stuck _ := ⟨_, throw .outOfFuel⟩
  pure := pure
  fail _ := fail _
  emit := emit
  depth := depth
  env hf := env.bind hf
  temporary := temporary
  releaseSince := releaseSince
  printLine text := fun _ ↦ printLine text _
  define _ := fun _ ↦ modifyEnv fun _ he ↦ retains_defineFunction he _ _ _
  declared _ _ := modifyEnv fun _ he ↦ retains_declare he _ _
  rebind _ _ := modifyEnv fun _ he ↦ retains_rebind he _ _
  inFrame := inFrame
  span _ := True.intro
  list _ := ⟨True.intro, fun _ _ ↦ True.intro⟩

section Forms

variable (hev : ∀ n, KeepsNames (ev n))
include hev

theorem assign (operands : List Node) (span : Span) : KeepsNames (Exec.assign ev operands span) :=
  (rules.walk.assign (Unary.evaluates hev) operands span).1

theorem sequence (body : List Node) : KeepsNames (Exec.sequence ev body) :=
  rules.sequence hev body

theorem callUser (name : String) (params : List String) (body : List Node) (args : List Cell)
    (span : Span) : KeepsNames (Exec.callUser ev name params body args span) := by
  intro cfg m hs ht
  rw [execute_callUser]
  split_ifs with harity hlimit
  · exact .refl ht
  · exact .refl ht
  · dsimp only
    have hbound := retains_bindAll (d := cfg.depth) ht (params.zip args) []
    have hk := sequence hev body cfg
      { m with env := (bindAll cfg.depth m.env (params.zip args) []).2, calls := m.calls + 1 }
      hs hbound.temps
    generalize (Exec.sequence ev body).execute cfg
      { m with env := (bindAll cfg.depth m.env (params.zip args) []).2, calls := m.calls + 1 } = run
      at hk ⊢
    refine ⟨hk.temps.of_subset fun k hkm ↦ by rwa [held_restoreAll] at hkm, fun k hp hkm ↦ ?_⟩
    rw [Std.TreeMap.mem_iff_isSome_getElem?] at hkm ⊢
    by_cases hpar : k ∈ (bindAll cfg.depth m.env (params.zip args) []).1.map Prod.fst
    · rw [lookup_restoreAll_shadowed m.env _ _ hpar]
      exact hkm
    · rw [lookup_restoreAll_of_not_mem _ hpar, ← Std.TreeMap.mem_iff_isSome_getElem?]
      exact hk.names k hp (hbound.names k hp (Std.TreeMap.mem_iff_isSome_getElem?.2 hkm))

theorem calls : unary.walk.Calls ev :=
  Unary.calls fun name _ _ params body args _ ↦ callUser hev name params body args _

end Forms

theorem eval (fuel : Nat) (node : Node) : KeepsNames (Exec.eval fuel node) :=
  rules.eval calls (throw _) fuel node

end KeepsNames

theorem assign_binds_value (hev : ∀ n, KeepsNames (ev n)) {x : String} {nameSpan span : Span}
    {expr : Node} {cfg : Config} {m m' : Machine} {r : Option Cell} (hs : cfg.store = .arenas)
    (ht : m.env.HeldTemps) (hx : Plain x)
    (h : (assign ev [.atom x nameSpan, expr] span).execute cfg m = (.ok r, m')) :
    r = none ∧ ∃ c, ((ev expr).execute cfg m).1 = .ok (some c) ∧ m'.env.vars[x]? = some c := by
  simp only [Exec.assign, Exec.expectName, pure_bind] at h
  rw [execute_bind_ok execute_env] at h
  split at h
  · simp at h
  · rename_i hbound
    have hx₀ : x ∈ m.env.vars := by simpa using hbound
    rw [execute_bind] at h
    have hk := hev expr cfg m hs ht
    rcases hr : (ev expr).execute cfg m with ⟨_ | _ | c, m₁⟩ <;> rw [hr] at h hk
    · cases h
    · simp at h
    · -- the name is still bound after the value, so the rebinding takes effect
      have hx₁ : x ∈ m₁.env.vars := hk.names x hx hx₀
      simp only [execute_bind_ok (execute_emit _), execute_bind_ok (execute_modifyEnv _),
        execute_pure, Prod.mk.injEq, Except.ok.injEq] at h
      obtain ⟨rfl, rfl⟩ := h
      refine ⟨rfl, c, rfl, ?_⟩
      simp [Env.rebind, hx₁]

theorem eval_set_binds_value (fuel : Nat) {x : String} {setSpan nameSpan span : Span}
    {expr : Node} {cfg : Config} {m m' : Machine} {r : Option Cell} (hs : cfg.store = .arenas)
    (ht : m.env.HeldTemps) (hx : Plain x)
    (h : (eval (fuel + 1) (.list [.atom "set" setSpan, .atom x nameSpan, expr] span)).execute cfg m =
      (.ok r, m')) :
    ∃ c, ((eval fuel expr).execute { cfg with depth := cfg.depth + 1 } (enterFrame cfg m)).1 =
      .ok (some c) ∧ m'.env.vars[x]? = some c := by
  have hdispatch : dispatch (eval fuel) fuel [.atom "set" setSpan, .atom x nameSpan, expr] span =
      assign (eval fuel) [.atom x nameSpan, expr] span := by
    simp [dispatch]
  rw [eval, execute_inFrame_eq, hdispatch] at h
  have hpush := retains_pushFrame ht
  generalize hres : (assign (eval fuel) [.atom x nameSpan, expr] span).execute
    { cfg with depth := cfg.depth + 1 } (enterFrame cfg m) = res at h
  rcases res with ⟨_ | r', m₁⟩
  · simp [leaveFrame] at h
  · have hk := KeepsNames.assign (KeepsNames.eval fuel) [.atom x nameSpan, expr] span
      { cfg with depth := cfg.depth + 1 } (enterFrame cfg m) hs hpush.temps
    rw [hres] at hk
    have hs' : ({ cfg with depth := cfg.depth + 1 } : Config).store = .arenas := hs
    have ht' : (enterFrame cfg m).env.HeldTemps := hpush.temps
    obtain ⟨-, c, hc, hxc⟩ := assign_binds_value (KeepsNames.eval fuel) hs' ht' hx hres
    refine ⟨c, hc, ?_⟩
    simp only [leaveFrame, hs, Store.arenas_popFrame, Prod.mk.injEq] at h
    rw [← h.2, popFrame_lookup_of_not_held (hk.temps.not_held hx)]
    exact hxc

end Exec

/-- Evaluating an expression never unbinds a name: from any machine whose arenas hold only keys
of temporaries, as every reachable one does, whatever the evaluation ends with, every name bound
before is still bound, perhaps to another cell. In particular `(set x e)`, once it answers, has
made `x` share the very cell that `e` answered. -/
theorem eval_keeps_named_bindings (fuel : Nat) (node : Node) (cfg : Config) (m : Machine)
    (hs : cfg.store = .arenas) (ht : m.env.HeldTemps) :
    (∀ k, Plain k → k ∈ m.env.vars → k ∈ ((Exec.eval fuel node).execute cfg m).2.env.vars) ∧
    ∀ (x : String) (setSpan nameSpan span : Span) (expr : Node) (r : Option Cell) (m' : Machine),
      Plain x →
      (Exec.eval (fuel + 1) (.list [.atom "set" setSpan, .atom x nameSpan, expr] span)).execute
        cfg m = (.ok r, m') →
      ∃ c, ((Exec.eval fuel expr).execute { cfg with depth := cfg.depth + 1 }
          (Exec.enterFrame cfg m)).1 = .ok (some c) ∧ m'.env.vars[x]? = some c :=
  ⟨(Exec.KeepsNames.eval fuel node cfg m hs ht).names,
    fun _ _ _ _ _ _ _ hx h ↦ Exec.eval_set_binds_value fuel hs ht hx h⟩

namespace Interpreter

theorem Reachable.heldTemps {it : Interpreter} (h : it.Reachable) : it.env.HeldTemps :=
  h.idle.good.inv.heldTemps

end Interpreter

theorem eval_keeps_named_bindings_initial :
    ({} : Config).store = .arenas ∧ ({} : Machine).env.HeldTemps ∧
      ((∀ k, Plain k → k ∈ ({} : Machine).env.vars →
        k ∈ ((Exec.eval 1 (.atom "x" ⟨0, 1⟩)).execute {} {}).2.env.vars) ∧
      ∀ (x : String) (setSpan nameSpan span : Span) (expr : Node) (r : Option Cell) (m' : Machine),
        Plain x →
        (Exec.eval (1 + 1) (.list [.atom "set" setSpan, .atom x nameSpan, expr] span)).execute
          {} {} = (.ok r, m') →
        ∃ c, ((Exec.eval 1 expr).execute { ({} : Config) with depth := ({} : Config).depth + 1 }
            (Exec.enterFrame {} {})).1 = .ok (some c) ∧ m'.env.vars[x]? = some c) :=
  have ht : ({} : Machine).env.HeldTemps := Env.good_initial.inv.heldTemps
  ⟨rfl, ht, eval_keeps_named_bindings 1 (.atom "x" ⟨0, 1⟩) {} {} rfl ht⟩

end WordLang

import WordLang.Proofs.Steady
import WordLang.Proofs.Walk

namespace WordLang

open Env

namespace Env

theorem outer_rebind (e : Env) (name : String) (c : Cell) : (e.rebind name c).outer = e.outer := by
  unfold Env.rebind
  split <;> rfl

theorem funcs_rebind (e : Env) (name : String) (c : Cell) : (e.rebind name c).funcs = e.funcs := by
  unfold Env.rebind
  split <;> rfl

theorem frames_of_outer_pushFrame {e e' : Env} (h : e'.outer = e.pushFrame.outer) :
    ∃ a, e'.frames = a :: e.frames ∧ e'.top = e.top := by
  simp only [outer, arenas, pushFrame, List.cons_append, List.tail_cons] at h
  rcases hf : e'.frames with _ | ⟨a, rest⟩
  · rw [hf] at h
    simp at h
  · rw [hf] at h
    obtain ⟨hr, ht⟩ := List.append_inj' h rfl
    exact ⟨a, by rw [hr], by simpa using ht⟩

theorem popFrame_pushed {e e' : Env} (h : e'.outer = e.pushFrame.outer) (keep : Option Nat) :
    ∃ a, e'.frames = a :: e.frames ∧
      (e'.popFrame keep).1.arena = e.arena ++ a.filter (escapes e'.vars keep) ∧
      (e'.popFrame keep).1.outer = e.outer ∧
      (e'.popFrame keep).1.vars = (release e'.vars keep a).1 := by
  obtain ⟨a, hf, ht⟩ := frames_of_outer_pushFrame h
  refine ⟨a, hf, ?_⟩
  have harena : ∀ vars : Std.TreeMap String Cell,
      ({ e' with vars := vars, frames := e.frames } : Env).arena = e.arena := by
    intro vars
    cases hfr : e.frames <;> simp [arena, hfr, ht]
  have houter : ∀ vars : Std.TreeMap String Cell,
      ({ e' with vars := vars, frames := e.frames } : Env).outer = e.outer := by
    intro vars
    simp [outer, arenas, ht]
  unfold Env.popFrame
  rw [hf]
  dsimp only
  rw [arena_setArena, harena, outer_setArena, houter, vars_setArena, release_kept]
  exact ⟨rfl, rfl, rfl⟩

theorem Good.defineOperands {e : Env} (hg : e.Good) {rest : List Node}
    (hc : ∀ n ∈ rest, n.Clean) (name : String) :
    (e.defineFunction name (rest.filterMap Exec.paramName) (rest.filter Exec.isList)).Good := by
  refine hg.defineFunction (fun p hp ↦ ?_) fun b hb ↦ hc b (List.mem_filter.1 hb).1
  obtain ⟨n, hn, hnp⟩ := List.mem_filterMap.1 hp
  exact Exec.paramName_plain (hc n hn) hnp

end Env

namespace Exec

variable {α β : Type} {ev : Node → Exec (Option Cell)} {cfg : Config} {m : Machine}

def Evaluates (ev : Node → Exec (Option Cell)) : Prop := ∀ n, Steady n.Clean (ev n)

theorem execute_callUser (ev : Node → Exec (Option Cell)) (name : String) (params : List String)
    (body : List Node) (args : List Cell) (span : Span) :
    (callUser ev name params body args span).execute cfg m =
      if args.length != params.length then
        (.error (.error (.arity name (toString params.length ++ " arguments") args.length span)), m)
      else if m.calls ≥ cfg.callLimit then
        (.error (.error (.recursionLimit name cfg.callLimit span)), m)
      else
        let bound := bindAll cfg.depth m.env (params.zip args) []
        let run := (sequence ev body).execute cfg { m with env := bound.2, calls := m.calls + 1 }
        (run.1, { run.2 with env := restoreAll run.2.env bound.1, calls := run.2.calls - 1 }) := by
  unfold callUser
  split_ifs with harity hlimit
  · exact execute_fail _
  · simp only [execute_bind_ok execute_read, execute_bind_ok execute_get, if_pos hlimit]
    exact execute_fail _
  · simp only [execute_bind_ok execute_read, execute_bind_ok execute_get, if_neg hlimit,
      execute_bind_ok execute_depth, execute_bind_ok (execute_bindParams _ _ _)]
    rw [execute_bind_ok (execute_modify _), execute_bind_ok (execute_attempt _),
      execute_bind_ok (execute_modify _), execute_bind_ok (execute_restoreParams _), execute_resume]

theorem plain_zip_names {params : List String} (hp : ∀ p ∈ params, Plain p) (args : List Cell) :
    ∀ p ∈ (params.zip args).map Prod.fst, Plain p := by
  intro p hmem
  obtain ⟨⟨q, a⟩, hq, rfl⟩ := List.mem_map.1 hmem
  exact hp q (List.of_mem_zip hq).1

namespace Steady

variable {clean : Prop}

def unary : Unary where
  P c _ x := Steady c x
  Ok := Node.Clean
  Sp _ := True
  EnvOk e := FuncsClean e.funcs

theorem inFrame {body : Exec (Option Cell)} (hb : Steady clean body) :
    Steady clean (Exec.inFrame body) := by
  intro cfg m
  obtain ⟨evs₀, evs, h⟩ := execute_inFrame cfg m body
  have hk := hb { cfg with depth := cfg.depth + 1 }
    { m with env := m.env.pushFrame, events := evs₀ }
  rw [h]
  generalize body.execute { cfg with depth := cfg.depth + 1 }
    { m with env := m.env.pushFrame, events := evs₀ } = res at hk ⊢
  refine ⟨hk.calls, fun hs ↦ ?_, fun hs hc hg ↦ ?_⟩
  · rw [hs]
    obtain ⟨-, -, -, houter, -⟩ := popFrame_pushed (hk.outer hs) (keptId _)
    exact houter
  · rw [hs]
    exact (hk.good hs hc hg.pushFrame).popFrame _

theorem rules : unary.Rules where
  mono hc hx := hx.mono hc
  bind := Steady.bind
  stuck _ := ⟨_, Steady.throw .outOfFuel⟩
  pure := Steady.pure
  fail _ := Steady.fail _
  emit := Steady.emit
  depth := Steady.depth
  env := Steady.env_bind
  temporary := Steady.temporary
  releaseSince := Steady.releaseSince
  printLine text := fun _ ↦ Steady.printLine text _
  define name := fun hok ↦ modifyEnv (fun _ ↦ rfl) fun hc _ hg ↦ hg.defineOperands (hok hc) name
  declared _ hok := modifyEnv (fun _ ↦ rfl) fun hc _ hg ↦ hg.declare (Node.clean_atom_iff.1 (hok hc)) _
  rebind cl hok := modifyEnv (fun e ↦ outer_rebind e _ cl) fun hc _ hg ↦
    hg.rebind (Node.clean_atom_iff.1 (hok hc)) cl
  inFrame := inFrame
  span _ := True.intro
  list h := ⟨True.intro, Node.clean_list_iff.1 h⟩

theorem holds (hev : Evaluates ev) (cond : Node) : Steady cond.Clean (Exec.holds ev cond) :=
  (rules.walk.holds (Unary.evaluates hev) cond).1

theorem sequence (hev : Evaluates ev) (body : List Node) :
    Steady (∀ b ∈ body, b.Clean) (Exec.sequence ev body) :=
  rules.sequence hev body

theorem callUser (hev : Evaluates ev) (name : String) (params : List String) (body : List Node)
    (args : List Cell) (span : Span) :
    Steady ((∀ p ∈ params, Plain p) ∧ ∀ b ∈ body, b.Clean)
      (Exec.callUser ev name params body args span) := by
  intro cfg m
  rw [execute_callUser]
  split_ifs with harity hlimit
  · exact .refl
  · exact .refl
  · dsimp only
    generalize hbound : bindAll cfg.depth m.env (params.zip args) [] = bound
    have hk := sequence hev body cfg { m with env := bound.2, calls := m.calls + 1 }
    refine ⟨?_, fun hs ↦ ?_, fun hs hc hg ↦ ?_⟩
    · simp only [hk.calls]
      omega
    · rw [outer_restoreAll, hk.outer hs, ← hbound, outer_bindAll]
    · have hg₁ : bound.2.Good := hbound ▸ hg.bindAll (plain_zip_names hc.1 args) []
      refine (hk.good hs hc.2 hg₁).restoreAll fun p hmem ↦ ?_
      rw [← hbound, bindAll_names, List.map_nil, List.append_nil, List.mem_reverse] at hmem
      exact plain_zip_names hc.1 args p hmem

theorem calls (hev : Evaluates ev) : unary.walk.Calls ev :=
  Unary.calls fun name _ _ params body args hcallee ↦
    (callUser hev name params body args _).mono fun hc ↦ hc.2 name params body hcallee

theorem dispatch (hev : Evaluates ev) (fuel : Nat) (items : List Node) (span : Span) :
    Steady (∀ n ∈ items, n.Clean) (Exec.dispatch ev fuel items span) :=
  (rules.walk.dispatch (Unary.evaluates hev) (calls hev) (Unary.outOfFuel (Steady.throw _)) fuel
    items span).1.mono fun hc ↦ ⟨True.intro, hc⟩

theorem eval (n : Nat) : Evaluates (Exec.eval n) :=
  rules.eval calls (Steady.throw _) n

end Steady

/-- A user call puts back the binding of each of its parameters as it was before the call, and
the count of calls in progress, whatever its body ends with: a value, a fault of its own or
of a call nested in it, or the call limit reached deeper down. -/
theorem callUser_restores_params (fuel : Nat) (name : String) (params : List String)
    (body : List Node) (args : List Cell) (span : Span) (cfg : Config) (m : Machine) :
    (∀ p ∈ params,
      ((callUser (eval fuel) name params body args span).execute cfg m).2.env.vars[p]? =
        m.env.vars[p]?) ∧
      ((callUser (eval fuel) name params body args span).execute cfg m).2.calls = m.calls := by
  rw [execute_callUser]
  split_ifs with harity hlimit
  · exact ⟨fun _ _ ↦ rfl, rfl⟩
  · exact ⟨fun _ _ ↦ rfl, rfl⟩
  · dsimp only
    generalize hbound : bindAll cfg.depth m.env (params.zip args) [] = bound
    have hk := Steady.sequence (Steady.eval fuel) body cfg
      { m with env := bound.2, calls := m.calls + 1 }
    refine ⟨fun p hp ↦ ?_, by rw [hk.calls]; rfl⟩
    have hlen : params.length ≤ args.length := by
      simp only [bne_iff_ne, ne_eq, Decidable.not_not] at harity
      omega
    -- every parameter is among the keys restored, so the body's bindings of it do not matter
    have hmem : p ∈ bound.1.map Prod.fst := by
      rw [← hbound, bindAll_names, List.map_nil, List.append_nil, List.mem_reverse,
        List.map_fst_zip hlen]
      exact hp
    calc (restoreAll ((sequence (eval fuel) body).execute cfg
            { m with env := bound.2, calls := m.calls + 1 }).2.env bound.1).vars[p]?
        = (restoreAll bound.2 bound.1).vars[p]? := lookup_restoreAll_congr (.inl hmem)
      _ = (restoreAll m.env []).vars[p]? := by rw [← hbound, lookup_restoreAll_bindAll]
      _ = m.env.vars[p]? := rfl

end Exec

end WordLang

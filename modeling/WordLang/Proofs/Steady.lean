import WordLang.Proofs.Arena
import WordLang.Proofs.Exec

namespace WordLang

open Env

namespace Env

def FuncsClean (funcs : Std.TreeMap String Callable) : Prop :=
  ∀ (name : String) (params : List String) (body : List Node),
    funcs[name]? = some (.user params body) → (∀ p ∈ params, Plain p) ∧ ∀ b ∈ body, b.Clean

theorem FuncsClean.insert {funcs : Std.TreeMap String Callable} (hf : FuncsClean funcs)
    {name : String} {params : List String} {body : List Node} (hp : ∀ p ∈ params, Plain p)
    (hb : ∀ b ∈ body, b.Clean) : FuncsClean (funcs.insert name (.user params body)) := by
  intro f ps bs h
  rw [Std.TreeMap.getElem?_insert] at h
  split at h
  · cases h
    exact ⟨hp, hb⟩
  · exact hf f ps bs h

/-- An environment that keeps its invariant and whose user functions are clean. -/
structure Good (e : Env) : Prop where
  inv : e.Inv
  funcs : FuncsClean e.funcs

theorem releaseSince_eq (e : Env) (mark : Nat) (keep : Option Nat) :
    (e.releaseSince mark keep).1.funcs = e.funcs ∧
      (e.releaseSince mark keep).1.fresh = e.fresh := by
  unfold Env.releaseSince
  dsimp only
  split
  · exact ⟨rfl, rfl⟩
  · simp

theorem funcs_releaseSince (e : Env) (mark : Nat) (keep : Option Nat) :
    (e.releaseSince mark keep).1.funcs = e.funcs := (releaseSince_eq e mark keep).1

theorem fresh_releaseSince (e : Env) (mark : Nat) (keep : Option Nat) :
    (e.releaseSince mark keep).1.fresh = e.fresh := (releaseSince_eq e mark keep).2

theorem popFrame_eq (e : Env) (keep : Option Nat) :
    (e.popFrame keep).1.funcs = e.funcs ∧ (e.popFrame keep).1.fresh = e.fresh := by
  unfold Env.popFrame
  split
  · exact ⟨rfl, rfl⟩
  · simp

theorem funcs_popFrame (e : Env) (keep : Option Nat) : (e.popFrame keep).1.funcs = e.funcs :=
  (popFrame_eq e keep).1

theorem fresh_popFrame (e : Env) (keep : Option Nat) : (e.popFrame keep).1.fresh = e.fresh :=
  (popFrame_eq e keep).2

section Good

variable {e : Env} {name : String}

theorem Good.declare (hg : e.Good) (hp : Plain name) (v : Variable) : (e.declare name v).Good :=
  ⟨hg.inv.declare hp v, hg.funcs⟩

theorem Good.rebind (hg : e.Good) (hp : Plain name) (c : Cell) : (e.rebind name c).Good := by
  refine ⟨hg.inv.rebind hp c, ?_⟩
  unfold Env.rebind
  split <;> exact hg.funcs

theorem Good.bindLocal (hg : e.Good) (hp : Plain name) (v : Variable) :
    (e.bindLocal name v).2.Good :=
  ⟨hg.inv.bindLocal hp v, hg.funcs⟩

theorem Good.restore (hg : e.Good) (hp : Plain name) (prev : Option Cell) :
    (e.restore name prev).Good := by
  refine ⟨hg.inv.restore hp prev, ?_⟩
  cases prev <;> exact hg.funcs

theorem Good.defineFunction (hg : e.Good) {params : List String} {body : List Node}
    (hp : ∀ p ∈ params, Plain p) (hb : ∀ b ∈ body, b.Clean) :
    (e.defineFunction name params body).Good :=
  ⟨hg.inv.defineFunction name params body, hg.funcs.insert hp hb⟩

theorem Good.temporary (hg : e.Good) (d : Nat) (v : Variable) : (e.temporary d v).2.Good :=
  ⟨hg.inv.temporary d v, by simpa [Env.temporary] using hg.funcs⟩

theorem Good.releaseSince (hg : e.Good) (mark : Nat) (keep : Option Nat) :
    (e.releaseSince mark keep).1.Good :=
  ⟨hg.inv.releaseSince mark keep, (funcs_releaseSince e mark keep).symm ▸ hg.funcs⟩

theorem Good.pushFrame (hg : e.Good) : e.pushFrame.Good := ⟨hg.inv.pushFrame, hg.funcs⟩

theorem Good.popFrame (hg : e.Good) (keep : Option Nat) : (e.popFrame keep).1.Good :=
  ⟨hg.inv.popFrame keep, (funcs_popFrame e keep).symm ▸ hg.funcs⟩

end Good

theorem outer_temporary (e : Env) (d : Nat) (v : Variable) : (e.temporary d v).2.outer = e.outer :=
  outer_setArena e _

theorem outer_releaseSince (e : Env) (mark : Nat) (keep : Option Nat) :
    (e.releaseSince mark keep).1.outer = e.outer := by
  unfold Env.releaseSince
  dsimp only
  split
  · rfl
  · exact outer_setArena e _

section Params

def bindAll (d : Nat) :
    Env → List (String × Cell) → List (String × Option Cell) → List (String × Option Cell) × Env
  | e, [], shadowed => (shadowed, e)
  | e, (p, a) :: rest, shadowed =>
    bindAll d (e.bindLocal p (a.var.inFrame d)).2 rest
      ((p, (e.bindLocal p (a.var.inFrame d)).1) :: shadowed)

def restoreAll : Env → List (String × Option Cell) → Env
  | e, [] => e
  | e, (p, prev) :: rest => restoreAll (e.restore p prev) rest

variable {d : Nat}

theorem bindAll_names (e : Env) (pairs : List (String × Cell))
    (shadowed : List (String × Option Cell)) :
    (bindAll d e pairs shadowed).1.map Prod.fst =
      (pairs.map Prod.fst).reverse ++ shadowed.map Prod.fst := by
  induction pairs generalizing e shadowed with
  | nil => rfl
  | cons pa rest ih =>
    obtain ⟨p, a⟩ := pa
    simp [bindAll, ih]

theorem outer_bindAll (e : Env) (pairs : List (String × Cell))
    (shadowed : List (String × Option Cell)) : (bindAll d e pairs shadowed).2.outer = e.outer := by
  induction pairs generalizing e shadowed with
  | nil => rfl
  | cons pa rest ih => exact ih _ _

theorem Good.bindAll {e : Env} (hg : e.Good) {pairs : List (String × Cell)}
    (hp : ∀ p ∈ pairs.map Prod.fst, Plain p) (shadowed : List (String × Option Cell)) :
    (bindAll d e pairs shadowed).2.Good := by
  induction pairs generalizing e shadowed with
  | nil => exact hg
  | cons pa rest ih =>
    obtain ⟨p, a⟩ := pa
    have hrest : ∀ q ∈ rest.map Prod.fst, Plain q := fun q hq ↦ hp q (by simp_all)
    exact ih (hg.bindLocal (hp p (by simp)) _) hrest _

theorem outer_restoreAll (e : Env) (shadowed : List (String × Option Cell)) :
    (restoreAll e shadowed).outer = e.outer := by
  induction shadowed generalizing e with
  | nil => rfl
  | cons pp rest ih =>
    obtain ⟨p, prev⟩ := pp
    rw [restoreAll, ih]
    cases prev <;> rfl

theorem Good.restoreAll {e : Env} (hg : e.Good) {shadowed : List (String × Option Cell)}
    (hp : ∀ p ∈ shadowed.map Prod.fst, Plain p) : (restoreAll e shadowed).Good := by
  induction shadowed generalizing e with
  | nil => exact hg
  | cons pp rest ih =>
    obtain ⟨p, prev⟩ := pp
    have hrest : ∀ q ∈ rest.map Prod.fst, Plain q := fun q hq ↦ hp q (by simp_all)
    exact ih (hg.restore (hp p (by simp)) prev) hrest

theorem lookup_restore (e : Env) (p : String) (prev : Option Cell) (k : String) :
    (e.restore p prev).vars[k]? = if p = k then prev else e.vars[k]? := by
  cases prev <;>
    simp [Env.restore, Std.TreeMap.getElem?_insert, Std.TreeMap.getElem?_erase,
      Std.LawfulEqCmp.compare_eq_iff_eq]

theorem lookup_restoreAll_congr {e e' : Env} {k : String} :
    ∀ {shadowed : List (String × Option Cell)},
      (k ∈ shadowed.map Prod.fst ∨ e.vars[k]? = e'.vars[k]?) →
      (restoreAll e shadowed).vars[k]? = (restoreAll e' shadowed).vars[k]? := by
  intro shadowed
  induction shadowed generalizing e e' with
  | nil =>
    intro h
    exact h.resolve_left (by simp)
  | cons pp rest ih =>
    obtain ⟨p, prev⟩ := pp
    intro h
    apply ih
    by_cases hk : k ∈ rest.map Prod.fst
    · exact .inl hk
    · right
      rw [lookup_restore, lookup_restore]
      split
      · rfl
      · rename_i hpk
        rcases h with h | h
        · simp only [List.map_cons, List.mem_cons] at h
          rcases h with h | h
          · exact absurd h.symm hpk
          · exact absurd h hk
        · exact h

theorem lookup_restoreAll_bindAll (e : Env) (pairs : List (String × Cell))
    (shadowed : List (String × Option Cell)) (k : String) :
    (restoreAll (bindAll d e pairs shadowed).2 (bindAll d e pairs shadowed).1).vars[k]? =
      (restoreAll e shadowed).vars[k]? := by
  induction pairs generalizing e shadowed with
  | nil => rfl
  | cons pa rest ih =>
    obtain ⟨p, a⟩ := pa
    rw [bindAll, ih]
    simp only [restoreAll]
    apply lookup_restoreAll_congr
    right
    rw [lookup_restore]
    split
    · rename_i h
      subst h
      rfl
    · rename_i h
      simp [Env.bindLocal, Env.alloc, Std.TreeMap.getElem?_insert,
        Std.LawfulEqCmp.compare_eq_iff_eq, h]

end Params

end Env

namespace Exec

variable {α β : Type} {cfg : Config} {m : Machine}

theorem execute_bindParams (d : Nat) (pairs : List (String × Cell))
    (shadowed : List (String × Option Cell)) :
    (bindParams d pairs shadowed).execute cfg m =
      (.ok (bindAll d m.env pairs shadowed).1, { m with env := (bindAll d m.env pairs shadowed).2 })
      := by
  induction pairs generalizing m shadowed with
  | nil => rfl
  | cons pa rest ih =>
    obtain ⟨p, a⟩ := pa
    simp only [bindParams, execute_bind_ok execute_env]
    rw [execute_bind_ok (execute_modifyEnv _), ih]
    rfl

theorem execute_restoreParams (shadowed : List (String × Option Cell)) :
    (restoreParams shadowed).execute cfg m = (.ok (), { m with env := restoreAll m.env shadowed })
      := by
  induction shadowed generalizing m with
  | nil => rfl
  | cons pp rest ih =>
    obtain ⟨p, prev⟩ := pp
    simp only [restoreParams]
    rw [execute_bind_ok (execute_modifyEnv _), ih]
    rfl

/-- What a step keeps from the machine `m` it starts on to the machine `m'` it ends on. -/
structure Keeps (clean : Prop) (store : Store) (m m' : Machine) : Prop where
  calls : m'.calls = m.calls
  outer : store = .arenas → m'.env.outer = m.env.outer
  good : store = .arenas → clean → m.env.Good → m'.env.Good

section Keeps

variable {clean : Prop} {store : Store} {m₁ m₂ m₃ : Machine}

theorem Keeps.of_env (he : m₂.env = m₁.env) (hc : m₂.calls = m₁.calls) :
    Keeps clean store m₁ m₂ :=
  ⟨hc, fun _ ↦ by rw [he], fun _ _ hg ↦ he ▸ hg⟩

theorem Keeps.refl : Keeps clean store m₁ m₁ := .of_env rfl rfl

theorem Keeps.trans (h₁ : Keeps clean store m₁ m₂) (h₂ : Keeps clean store m₂ m₃) :
    Keeps clean store m₁ m₃ :=
  ⟨h₂.calls.trans h₁.calls, fun hs ↦ (h₂.outer hs).trans (h₁.outer hs),
    fun hs hc hg ↦ h₂.good hs hc (h₁.good hs hc hg)⟩

theorem Keeps.mono {clean' : Prop} (h : Keeps clean store m₁ m₂) (hc : clean' → clean) :
    Keeps clean' store m₁ m₂ :=
  ⟨h.calls, h.outer, fun hs hc' ↦ h.good hs (hc hc')⟩

end Keeps

/-- A step that keeps what `Keeps` says from every machine and under every configuration. -/
def Steady (clean : Prop) (x : Exec α) : Prop :=
  ∀ cfg m, Keeps clean cfg.store m (x.execute cfg m).2

namespace Steady

variable {clean : Prop}

theorem mono {clean' : Prop} {x : Exec α} (hx : Steady clean x) (hc : clean' → clean) :
    Steady clean' x :=
  fun cfg m ↦ (hx cfg m).mono hc

theorem bind {x : Exec α} {f : α → Exec β} (hx : Steady clean x) (hf : ∀ a, Steady clean (f a)) :
    Steady clean (x >>= f) := by
  intro cfg m
  have hk := hx cfg m
  rw [execute_bind]
  rcases h : x.execute cfg m with ⟨_ | a, m'⟩
  · rw [h] at hk
    exact hk
  · rw [h] at hk
    exact hk.trans (hf a cfg m')

theorem pure (a : α) : Steady clean (Pure.pure a : Exec α) := fun _ _ ↦ .refl

theorem throw (f : Fault) : Steady clean (MonadExcept.throw f : Exec α) := fun _ _ ↦ .refl

theorem fail (e : EvalError) : Steady clean (Exec.fail e : Exec α) := fun _ _ ↦ .refl

theorem read : Steady clean (MonadReader.read : Exec Config) := fun _ _ ↦ .refl

theorem depth : Steady clean Exec.depth := fun _ _ ↦ .refl

theorem emit (ev : Event) : Steady clean (Exec.emit ev) :=
  fun _ _ ↦ by rw [execute_emit]; exact .of_env rfl rfl

theorem printLine (text : String) (span : Span) : Steady clean (Exec.printLine text span) := by
  refine bind read fun c ↦ ?_
  split
  · exact fail _
  · exact fun _ _ ↦ .of_env rfl rfl

theorem env_bind {f : Env → Exec α} (hf : ∀ e : Env, Steady (clean ∧ FuncsClean e.funcs) (f e)) :
    Steady clean (Exec.env >>= f) := by
  intro cfg m
  rw [execute_bind_ok execute_env]
  have hk := hf m.env cfg m
  exact ⟨hk.calls, hk.outer, fun hs hc hg ↦ hk.good hs ⟨hc, hg.funcs⟩ hg⟩

theorem modifyEnv {f : Env → Env} (ho : ∀ e, (f e).outer = e.outer)
    (hg : clean → ∀ e, e.Good → (f e).Good) : Steady clean (Exec.modifyEnv f) :=
  fun _ m ↦ by
    rw [execute_modifyEnv]
    exact ⟨rfl, fun _ ↦ ho m.env, fun _ hc ↦ hg hc m.env⟩

theorem temporary (v : Variable) : Steady clean (Exec.temporary v) := by
  intro cfg m
  rw [execute_temporary]
  refine ⟨rfl, fun hs ↦ ?_, fun hs _ hg ↦ ?_⟩
  · rw [hs]
    exact outer_temporary _ _ _
  · rw [hs]
    exact hg.temporary _ _

theorem releaseSince (mark : Nat) (keep : Option Cell) :
    Steady clean (Exec.releaseSince mark keep) := by
  intro cfg m
  obtain ⟨evs, h⟩ := execute_releaseSince cfg m mark keep
  rw [h]
  refine ⟨rfl, fun hs ↦ ?_, fun hs _ hg ↦ ?_⟩
  · rw [hs]
    exact outer_releaseSince _ _ _
  · rw [hs]
    exact hg.releaseSince _ _

end Steady

end Exec

end WordLang

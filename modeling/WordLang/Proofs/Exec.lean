import WordLang.Eval.Program

namespace WordLang

namespace Store

@[simp] theorem arenas_temporary : Store.arenas.temporary = Env.temporary := rfl

@[simp] theorem arenas_releaseSince : Store.arenas.releaseSince = Env.releaseSince := rfl

@[simp] theorem arenas_popFrame : Store.arenas.popFrame = Env.popFrame := rfl

end Store

namespace Exec

variable {α β : Type} {cfg : Config} {m : Machine}

@[simp] theorem execute_pure (a : α) : (pure a : Exec α).execute cfg m = (.ok a, m) := rfl

theorem execute_bind (x : Exec α) (f : α → Exec β) :
    (x >>= f).execute cfg m =
      match x.execute cfg m with
      | (.ok a, m') => (f a).execute cfg m'
      | (.error e, m') => (.error e, m') := by
  simp only [execute, ReaderT.run_bind, ExceptT.run_bind, StateT.run_bind]
  rcases ((x.run cfg).run).run m with ⟨_ | a, m'⟩ <;> rfl

theorem execute_bind_ok {x : Exec α} {f : α → Exec β} {a : α} {m' : Machine}
    (h : x.execute cfg m = (.ok a, m')) : (x >>= f).execute cfg m = (f a).execute cfg m' := by
  rw [execute_bind, h]

theorem execute_bind_error {x : Exec α} {f : α → Exec β} {e : Fault} {m' : Machine}
    (h : x.execute cfg m = (.error e, m')) : (x >>= f).execute cfg m = (.error e, m') := by
  rw [execute_bind, h]

@[simp] theorem execute_map (f : α → β) (x : Exec α) :
    (f <$> x).execute cfg m = ((x.execute cfg m).1.map f, (x.execute cfg m).2) := by
  rw [map_eq_pure_bind, execute_bind]
  rcases x.execute cfg m with ⟨_ | a, m'⟩ <;> rfl

@[simp] theorem execute_throw (e : Fault) : (throw e : Exec α).execute cfg m = (.error e, m) := rfl

@[simp] theorem execute_fail (e : EvalError) :
    (fail e : Exec α).execute cfg m = (.error (.error e), m) := rfl

@[simp] theorem execute_read : (read : Exec Config).execute cfg m = (.ok cfg, m) := rfl

@[simp] theorem execute_get : (get : Exec Machine).execute cfg m = (.ok m, m) := rfl

@[simp] theorem execute_modify (g : Machine → Machine) :
    (modify g : Exec Unit).execute cfg m = (.ok (), g m) := rfl

@[simp] theorem execute_withReader (g : Config → Config) (x : Exec α) :
    (withReader g x).execute cfg m = x.execute (g cfg) m := rfl

@[simp] theorem execute_attempt (x : Exec α) :
    (attempt x).execute cfg m = (.ok (x.execute cfg m).1, (x.execute cfg m).2) := by
  have h : (attempt x).run cfg = tryCatch ((Except.ok <$> x).run cfg) (fun f ↦ pure (.error f)) :=
    rfl
  simp only [execute, h, ExceptT.run_tryCatch, ReaderT.run_map, ExceptT.run_map, StateT.run_bind,
    StateT.run_map]
  rcases ((x.run cfg).run).run m with ⟨_ | a, m'⟩ <;> rfl

@[simp] theorem execute_resume (r : Except Fault α) : (resume r).execute cfg m = (r, m) := by
  cases r <;> rfl

@[simp] theorem execute_env : env.execute cfg m = (.ok m.env, m) := rfl

@[simp] theorem execute_modifyEnv (f : Env → Env) :
    (modifyEnv f).execute cfg m = (.ok (), { m with env := f m.env }) := rfl

@[simp] theorem execute_depth : depth.execute cfg m = (.ok cfg.depth, m) := rfl

theorem execute_emit (ev : Event) :
    (emit ev).execute cfg m =
      (.ok (), { m with
        events := (if cfg.verbosity.records ev then m.events.push ev else m.events) }) := by
  rw [emit, execute_bind_ok execute_read]
  split <;> rfl

theorem execute_reportRelease (cfg : Config) (m : Machine) (count : Option Nat) :
    ∃ evs, (reportRelease count).execute cfg m = (.ok (), { m with events := evs }) := by
  cases count with
  | none => exact ⟨m.events, rfl⟩
  | some n =>
    simp only [reportRelease, execute_bind_ok execute_depth]
    exact ⟨_, execute_emit _⟩

theorem execute_reportRelease_resume (cfg : Config) (m : Machine) (count : Option Nat)
    (r : Except Fault α) :
    ∃ evs, (reportRelease count >>= fun _ ↦ resume r).execute cfg m =
      (r, { m with events := evs }) := by
  obtain ⟨evs, h⟩ := execute_reportRelease cfg m count
  exact ⟨evs, by rw [execute_bind_ok h, execute_resume]⟩

theorem execute_temporary (v : Variable) :
    (temporary v).execute cfg m =
      (.ok (cfg.store.temporary m.env cfg.depth v).1,
        { m with env := (cfg.store.temporary m.env cfg.depth v).2 }) := rfl

theorem execute_releaseSince (cfg : Config) (m : Machine) (mark : Nat) (keep : Option Cell) :
    ∃ evs, (releaseSince mark keep).execute cfg m =
      (.ok (), { m with
        env := (cfg.store.releaseSince m.env mark (keep.map Cell.id)).1
        events := evs }) := by
  simp only [releaseSince, execute_bind_ok execute_read, execute_bind_ok execute_env]
  obtain ⟨evs, h⟩ := execute_reportRelease cfg
    { m with env := (cfg.store.releaseSince m.env mark (keep.map Cell.id)).1 }
    (cfg.store.releaseSince m.env mark (keep.map Cell.id)).2
  exact ⟨evs, by rw [execute_bind_ok (execute_modifyEnv _)]; exact h⟩

theorem execute_releaseSince_eq (cfg : Config) (m : Machine) (mark : Nat) (keep : Option Cell) :
    (releaseSince mark keep).execute cfg m =
      (reportRelease (cfg.store.releaseSince m.env mark (keep.map Cell.id)).2).execute cfg
        { m with env := (cfg.store.releaseSince m.env mark (keep.map Cell.id)).1 } := by
  simp only [releaseSince, execute_bind_ok execute_read, execute_bind_ok execute_env]
  rw [execute_bind_ok (execute_modifyEnv _)]

theorem execute_inFrame (cfg : Config) (m : Machine) (body : Exec (Option Cell)) :
    ∃ evs₀ evs, (inFrame body).execute cfg m =
      ((body.execute { cfg with depth := cfg.depth + 1 }
          { m with env := m.env.pushFrame, events := evs₀ }).1,
        { (body.execute { cfg with depth := cfg.depth + 1 }
            { m with env := m.env.pushFrame, events := evs₀ }).2 with
          env := (cfg.store.popFrame (body.execute { cfg with depth := cfg.depth + 1 }
              { m with env := m.env.pushFrame, events := evs₀ }).2.env
            (keptId (body.execute { cfg with depth := cfg.depth + 1 }
              { m with env := m.env.pushFrame, events := evs₀ }).1)).1
          events := evs }) := by
  simp only [inFrame, execute_bind_ok execute_depth, execute_bind_ok (execute_modifyEnv _),
    execute_bind_ok (execute_emit _)]
  rw [execute_bind_ok (execute_attempt _), execute_withReader]
  refine ⟨if cfg.verbosity.records (.frameEntered (cfg.depth + 1)) then
    m.events.push (.frameEntered (cfg.depth + 1)) else m.events, ?_⟩
  generalize body.execute { cfg with depth := cfg.depth + 1 } _ = res
  rcases res with ⟨r, m₁⟩
  rw [execute_bind_ok (execute_emit _), execute_bind_ok execute_read, execute_bind_ok execute_env,
    execute_bind_ok (execute_modifyEnv _)]
  dsimp only
  exact execute_reportRelease_resume _ _ _ _

def record (cfg : Config) (ev : Event) (evs : Array Event) : Array Event :=
  if cfg.verbosity.records ev then evs.push ev else evs

def enterFrame (cfg : Config) (m : Machine) : Machine :=
  { m with
    env := m.env.pushFrame
    events := record cfg (.frameEntered (cfg.depth + 1)) m.events }

def leaveFrame (cfg : Config) (res : Except Fault (Option Cell) × Machine) :
    Except Fault (Option Cell) × Machine :=
  let evs := record cfg (.frameExited (cfg.depth + 1) res.1.toBool) res.2.events
  let closed := cfg.store.popFrame res.2.env (keptId res.1)
  (res.1, { res.2 with
    env := closed.1
    events := match closed.2 with
      | some n => record cfg (.released cfg.depth n) evs
      | none => evs })

theorem execute_inFrame_eq (cfg : Config) (m : Machine) (body : Exec (Option Cell)) :
    (inFrame body).execute cfg m =
      leaveFrame cfg (body.execute { cfg with depth := cfg.depth + 1 } (enterFrame cfg m)) := by
  simp only [inFrame, enterFrame, record, execute_bind_ok execute_depth,
    execute_bind_ok (execute_modifyEnv _), execute_bind_ok (execute_emit _)]
  rw [execute_bind_ok (execute_attempt _), execute_withReader]
  generalize body.execute { cfg with depth := cfg.depth + 1 } _ = res
  rcases res with ⟨r, m₁⟩
  rw [execute_bind_ok (execute_emit _), execute_bind_ok execute_read, execute_bind_ok execute_env,
    execute_bind_ok (execute_modifyEnv _)]
  dsimp only
  -- the release is reported only if one happened
  cases hcount : (cfg.store.popFrame m₁.env (keptId r)).2 with
  | none =>
    simp only [hcount, reportRelease, leaveFrame, record, pure_bind, execute_resume]
    cases r <;> rfl
  | some n =>
    simp only [hcount, reportRelease, leaveFrame, record, bind_assoc,
      execute_bind_ok execute_depth]
    rw [execute_bind_ok (execute_emit _), execute_resume]
    cases r <;> rfl

end Exec

end WordLang

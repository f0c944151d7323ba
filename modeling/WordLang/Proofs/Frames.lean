import WordLang.Proofs.Forms

namespace WordLang

open Env

namespace Env

def Leaves (e e' : Env) (keep : Option Nat) : Prop :=
  ∃ new, e'.arena = e.arena ++ new ∧ new.length ≤ 1 ∧ ∀ k ∈ new, (e'.vars[k]?).map Cell.id = keep

theorem Leaves.refl (e : Env) (keep : Option Nat) : Leaves e e keep :=
  ⟨[], by simp, by simp, by simp⟩

theorem Inv.kept_length_le_one {e : Env} (hi : e.Inv) {keys : List String} (hk : keys ⊆ e.held)
    (hnd : keys.Nodup) (keep : Option Nat) : (keys.filter (escapes e.vars keep)).length ≤ 1 := by
  have heq : ∀ k₁ ∈ keys.filter (escapes e.vars keep), ∀ k₂ ∈ keys.filter (escapes e.vars keep),
      k₁ = k₂ := by
    intro k₁ h₁ k₂ h₂
    rw [List.mem_filter] at h₁ h₂
    obtain ⟨c₁, hc₁, hid₁⟩ := escapes_lookup h₁.2
    obtain ⟨c₂, hc₂, hid₂⟩ := escapes_lookup h₂.2
    exact hi.distinct k₁ (hk h₁.1) k₂ (hk h₂.1) c₁ c₂ hc₁ hc₂
      (Option.some.inj (hid₁.symm.trans hid₂))
  have hnd' := hnd.filter (escapes e.vars keep)
  rcases hf : keys.filter (escapes e.vars keep) with _ | ⟨k₁, _ | ⟨k₂, rest⟩⟩
  · simp
  · simp
  · rw [hf] at heq hnd'
    have h₁₂ : k₁ = k₂ := heq k₁ (by simp) k₂ (by simp)
    subst h₁₂
    simp at hnd'

theorem Inv.release_leaves {e : Env} (hi : e.Inv) {keys : List String} (hk : keys ⊆ e.held)
    (hnd : keys.Nodup) (keep : Option Nat) :
    (Env.release e.vars keep keys).2.length ≤ 1 ∧
      ∀ k ∈ (Env.release e.vars keep keys).2,
        ((Env.release e.vars keep keys).1[k]?).map Cell.id = keep := by
  rw [release_kept]
  refine ⟨hi.kept_length_le_one hk hnd keep, fun k hkept ↦ ?_⟩
  rw [List.mem_filter] at hkept
  obtain ⟨c, hc, hid⟩ := escapes_lookup hkept.2
  rw [release_lookup, if_neg (by simp [hkept.2]), hc, hid]
  rfl

theorem Inv.popFrame_leaves {e e' : Env} (hi : e'.Inv) (h : e'.outer = e.pushFrame.outer)
    (keep : Option Nat) : Leaves e (e'.popFrame keep).1 keep := by
  obtain ⟨a, hf, harena, -, hvars⟩ := popFrame_pushed h keep
  have hnd : a.Nodup := by
    have := hi.nodup
    rw [held_pop hf e'.vars] at this
    exact (List.nodup_append.1 this).1
  have hsub : a ⊆ e'.held := fun k hk ↦ by
    rw [held_pop hf e'.vars]
    exact List.mem_append_left _ hk
  obtain ⟨hlen, hbound⟩ := hi.release_leaves hsub hnd keep
  rw [release_kept] at hlen hbound
  refine ⟨a.filter (escapes e'.vars keep), harena, hlen, fun k hk ↦ ?_⟩
  rw [hvars]
  exact hbound k hk

theorem leaves_temporary (e : Env) (d : Nat) (v : Variable) :
    Leaves e (e.temporary d v).2 (some (e.temporary d v).1.id) :=
  ⟨[tempKey (e.made + 1)], arena_setArena e _, by simp, by simp [Env.temporary]⟩

def TopHolds (e : Env) (keep : Option Nat) : Prop :=
  e.top.length ≤ 1 ∧ ∀ k ∈ e.top, (e.vars[k]?).map Cell.id = keep

theorem outer_eq_nil_iff (e : Env) : e.outer = [] ↔ e.frames = [] := by
  rcases hf : e.frames with _ | ⟨a, rest⟩ <;> simp [outer, arenas, hf]

theorem arena_of_frames_nil {e : Env} (h : e.frames = []) : e.arena = e.top := by
  simp [arena, h]

theorem held_of_frames_nil {e : Env} (h : e.frames = []) : e.held = e.top := by
  simp [held, arenas, h]

theorem Inv.bound_of_topHolds {e : Env} (hi : e.Inv) (hf : e.frames = []) {keep : Option Nat}
    (ht : TopHolds e keep) :
    (∀ n₁ n₂, tempKey n₁ ∈ e.vars → tempKey n₂ ∈ e.vars → n₁ = n₂) ∧
      ∀ n, tempKey n ∈ e.vars → ∃ c, e.vars[tempKey n]? = some c ∧ keep = some c.id := by
  have hheld : ∀ n, tempKey n ∈ e.vars ↔ tempKey n ∈ e.top := fun n ↦ by
    rw [hi.bound n, held_of_frames_nil hf]
  refine ⟨fun n₁ n₂ h₁ h₂ ↦ ?_, fun n hn ↦ ?_⟩
  · rw [hheld] at h₁ h₂
    have hlen := ht.1
    rcases htop : e.top with _ | ⟨k, _ | ⟨k', rest⟩⟩
    · simp [htop] at h₁
    · rw [htop, List.mem_singleton] at h₁ h₂
      exact tempKey_inj.1 (h₁.trans h₂.symm)
    · rw [htop] at hlen
      simp at hlen
  · obtain ⟨c, hc⟩ := hi.lookup_of_held ((held_of_frames_nil hf).symm ▸ (hheld n).1 hn)
    have hk := ht.2 _ ((hheld n).1 hn)
    rw [hc] at hk
    exact ⟨c, hc, hk.symm⟩

theorem arena_releaseSince_zero (e : Env) : (e.releaseSince 0 none).1.arena = [] := by
  unfold Env.releaseSince
  dsimp only
  split
  · rename_i h
    exact List.eq_nil_of_length_eq_zero (Nat.le_zero.1 h)
  · show (e.setArena _).arena = []
    rw [arena_setArena, List.take_zero, List.nil_append, release_kept]
    exact List.filter_eq_nil_iff.2 fun _ _ ↦ by simp [escapes]

end Env

namespace Exec

variable {cfg : Config} {m : Machine}

theorem keptId_eq_some {r : Except Fault (Option Cell)} {i : Nat} (h : keptId r = some i) :
    ∃ c, r = .ok (some c) ∧ c.id = i := by
  rcases r with f | _ | c
  · cases h
  · cases h
  · exact ⟨c, rfl, Option.some.inj h⟩

def Answers (x : Exec Cell) : Prop :=
  ∀ cfg m, cfg.store = .arenas →
    Leaves m.env (x.execute cfg m).2.env (keptId ((x.execute cfg m).1.map some))

namespace Answers

theorem pure (c : Cell) : Answers (Pure.pure c) := fun _ m _ ↦ Leaves.refl m.env _

theorem fail (e : EvalError) : Answers (Exec.fail e) := fun _ m _ ↦ Leaves.refl m.env _

theorem temporary (v : Variable) : Answers (Exec.temporary v) := fun cfg m hs ↦ by
  rw [execute_temporary, hs]
  exact leaves_temporary m.env cfg.depth v

theorem immediate (text : String) (span : Span) : Answers (Exec.immediate text span) := by
  unfold Exec.immediate
  split
  · exact fail _
  · split
    · exact fail _
    · split
      · exact fail _
      · exact temporary _

theorem resolveAtom (text : String) (span : Span) : Answers (Exec.resolveAtom text span) := by
  intro cfg m hs
  simp only [Exec.resolveAtom, execute_bind_ok execute_env]
  split
  · exact pure _ cfg m hs
  · split
    · exact temporary _ cfg m hs
    · split_ifs
      · exact immediate _ _ cfg m hs
      · exact fail _ cfg m hs
    · exact fail _ cfg m hs

end Answers

theorem leaves_inFrame {clean : Prop} {body : Exec (Option Cell)} (hb : Steady clean body)
    (hs : cfg.store = .arenas) (hc : clean) (hg : m.env.Good) :
    Leaves m.env ((inFrame body).execute cfg m).2.env
      (keptId ((inFrame body).execute cfg m).1) := by
  obtain ⟨evs₀, evs, h⟩ := execute_inFrame cfg m body
  have hk := hb { cfg with depth := cfg.depth + 1 }
    { m with env := m.env.pushFrame, events := evs₀ }
  rw [h]
  generalize body.execute { cfg with depth := cfg.depth + 1 }
    { m with env := m.env.pushFrame, events := evs₀ } = res at hk ⊢
  rw [hs]
  exact (hk.good hs hc hg.pushFrame).inv.popFrame_leaves (hk.outer hs) _

theorem leaves_eval (n : Nat) (node : Node) (hs : cfg.store = .arenas) (hc : node.Clean)
    (hg : m.env.Good) :
    Leaves m.env ((eval n node).execute cfg m).2.env (keptId ((eval n node).execute cfg m).1) := by
  cases n with
  | zero =>
    rw [eval, execute_throw]
    exact Leaves.refl _ _
  | succ n =>
    cases node with
    | int v span =>
      rw [eval, execute_fail]
      exact Leaves.refl _ _
    | atom t span =>
      rw [eval, execute_map]
      exact Answers.resolveAtom t span cfg m hs
    | list items span =>
      rw [eval]
      exact leaves_inFrame (Steady.dispatch (Steady.eval n) n items span) hs
        (Node.clean_list_iff.1 hc) hg

structure BackAtTop (m : Machine) (r : Except Fault (Option Cell) × Machine) : Prop where
  calls : r.2.calls = m.calls
  good : r.2.env.Good
  frames : r.2.env.frames = []

theorem step_topHolds (fuel : Nat) (node : Node) (hs : cfg.store = .arenas) (hc : node.Clean)
    (hg : m.env.Good) (htop : m.env.frames = []) :
    BackAtTop m ((releaseSince 0 none >>= fun _ ↦ eval fuel node).execute cfg m) ∧
      TopHolds ((releaseSince 0 none >>= fun _ ↦ eval fuel node).execute cfg m).2.env
        (keptId ((releaseSince 0 none >>= fun _ ↦ eval fuel node).execute cfg m).1) := by
  obtain ⟨evs, h⟩ := execute_releaseSince cfg m 0 none
  have hr : Keeps True cfg.store m ((releaseSince 0 none).execute cfg m).2 :=
    Steady.releaseSince 0 none cfg m
  rw [h] at hr
  rw [execute_bind_ok h]
  generalize hm₁ : ({ m with
      env := (cfg.store.releaseSince m.env 0 (none.map Cell.id)).1
      events := evs } : Machine) = m₁ at hr ⊢
  have hg₁ : m₁.env.Good := hr.good hs trivial hg
  have harena : m₁.env.arena = [] := by rw [← hm₁, hs]; exact arena_releaseSince_zero m.env
  have hk := Steady.eval fuel node cfg m₁
  obtain ⟨new, hnew, hlen, hkeys⟩ := leaves_eval fuel node hs hc hg₁ (m := m₁)
  have hframes : ((eval fuel node).execute cfg m₁).2.env.frames = [] := by
    rw [← outer_eq_nil_iff, hk.outer hs, hr.outer hs, outer_eq_nil_iff]
    exact htop
  rw [harena, List.nil_append, arena_of_frames_nil hframes] at hnew
  refine ⟨⟨hk.calls.trans hr.calls, hk.good hs hc hg₁, hframes⟩, ?_, ?_⟩
  · rw [hnew]
    exact hlen
  · rw [hnew]
    exact hkeys

theorem foldlM_topHolds (fuel : Nat) (hs : cfg.store = .arenas) (prog : List Node)
    (init : Option Cell) (hc : ∀ n ∈ prog, n.Clean) (hg : m.env.Good) (htop : m.env.frames = []) :
    BackAtTop m ((prog.foldlM (fun _ node ↦ releaseSince 0 none >>= fun _ ↦ eval fuel node)
        init).execute cfg m) ∧
      (prog ≠ [] → TopHolds ((prog.foldlM (fun _ node ↦ releaseSince 0 none >>= fun _ ↦
          eval fuel node) init).execute cfg m).2.env
        (keptId ((prog.foldlM (fun _ node ↦ releaseSince 0 none >>= fun _ ↦ eval fuel node)
          init).execute cfg m).1)) := by
  induction prog generalizing init m with
  | nil => exact ⟨⟨rfl, hg, htop⟩, fun h ↦ absurd rfl h⟩
  | cons node rest ih =>
    rw [List.foldlM_cons, execute_bind]
    obtain ⟨hback, hheld⟩ := step_topHolds fuel node hs (hc node (by simp)) hg htop (m := m)
    rcases hr : (releaseSince 0 none >>= fun _ ↦ eval fuel node).execute cfg m with ⟨_ | v, m₂⟩
    · rw [hr] at hback hheld
      exact ⟨hback, fun _ ↦ hheld⟩
    · rw [hr] at hback hheld
      obtain ⟨hback', hheld'⟩ :=
        ih v (fun n hn ↦ hc n (List.mem_cons_of_mem _ hn)) hback.good hback.frames (m := m₂)
      refine ⟨⟨hback'.calls.trans hback.calls, hback'.good, hback'.frames⟩, fun _ ↦ ?_⟩
      cases rest with
      | nil => exact hheld
      | cons n' rest' => exact hheld' (List.cons_ne_nil _ _)

theorem program_topHolds (fuel : Nat) (prog : List Node) (hs : cfg.store = .arenas)
    (hc : ∀ n ∈ prog, n.Clean) (hg : m.env.Good) (htop : m.env.frames = []) :
    BackAtTop m ((program fuel prog).execute cfg m) ∧
      (prog ≠ [] → TopHolds ((program fuel prog).execute cfg m).2.env
        (keptId ((program fuel prog).execute cfg m).1)) :=
  foldlM_topHolds fuel hs prog none hc hg htop

end Exec

namespace Env

theorem funcsClean_initial : FuncsClean initial.funcs := by
  -- the initial functions are the built-ins, inserted one after another into the empty table
  suffices h : ∀ (bs : List Builtin) (t : Std.TreeMap String Callable), FuncsClean t →
      FuncsClean (bs.foldl (fun t b ↦ t.insert b.name (.builtin b)) t) from
    h Builtin.all {} fun name params body h ↦ by simp at h
  intro bs
  induction bs with
  | nil => exact fun _ ht ↦ ht
  | cons b bs ih =>
    intro t ht
    apply ih
    intro name params body hlook
    rw [Std.TreeMap.getElem?_insert] at hlook
    split at hlook
    · cases hlook
    · exact ht name params body hlook

theorem good_initial : initial.Good := ⟨inv_of_empty rfl rfl rfl, funcsClean_initial⟩

end Env

namespace Interpreter

/-- The interpreters that running source texts one after another reaches from a new one; the
call limit, the verbosity and whether output can be written may be set anew at any moment. -/
inductive Reachable : Interpreter → Prop
  | new (callLimit : Nat) (verbosity : Verbosity) (outputClosed : Bool) :
      Reachable { callLimit := callLimit, verbosity := verbosity, outputClosed := outputClosed }
  | configure {it : Interpreter} (callLimit : Nat) (verbosity : Verbosity) (outputClosed : Bool) :
      Reachable it → Reachable
        { it with callLimit := callLimit, verbosity := verbosity, outputClosed := outputClosed }
  | run {it : Interpreter} (src : String) : Reachable it → Reachable (it.run src).2

/-- An interpreter between runs: temporaries kept in arenas, no call in progress, no frame
open, and a good environment. -/
structure Idle (it : Interpreter) : Prop where
  store : it.store = .arenas
  calls : it.calls = 0
  frames : it.env.frames = []
  good : it.env.Good

theorem runProgram_snd (it : Interpreter) (prog : List Node) :
    (it.runProgram prog).2 =
      { it with
        env := ((Exec.program fuel prog).execute it.config it.machine).2.env
        calls := ((Exec.program fuel prog).execute it.config it.machine).2.calls } := rfl

theorem runProgram_result (it : Interpreter) (prog : List Node) :
    (it.runProgram prog).1.result =
      ((Exec.program fuel prog).execute it.config it.machine).1.mapError RunError.ofFault := rfl

theorem runProgram_output (it : Interpreter) (prog : List Node) :
    (it.runProgram prog).1.output = ((Exec.program fuel prog).execute it.config it.machine).2.output
      := rfl

theorem Idle.run {it : Interpreter} (hi : it.Idle) (src : String) : (it.run src).2.Idle := by
  unfold Interpreter.run
  split
  · exact hi
  · rename_i prog hp
    obtain ⟨hback, -⟩ := Exec.program_topHolds (m := it.machine) fuel prog
      (show it.config.store = .arenas from hi.store) (parseProgram_clean hp) hi.good hi.frames
    rw [runProgram_snd]
    exact ⟨hi.store, hback.calls.trans hi.calls, hback.frames, hback.good⟩

theorem Reachable.idle {it : Interpreter} (h : it.Reachable) : it.Idle := by
  induction h with
  | new => exact ⟨rfl, rfl, rfl, good_initial⟩
  | configure _ _ _ _ hi => exact ⟨hi.store, hi.calls, hi.frames, hi.good⟩
  | run src _ hi => exact hi.run src

/-- The discipline of frames over whole runs: from any reachable interpreter, a source text
that parses to at least one expression ends, whether it answers or fails, with no frame open and
no call counted, and with at most one temporary still bound; a temporary still bound means the
run answered a cell, and it is bound to that very cell. -/
theorem run_keeps_only_result {it : Interpreter} (hit : it.Reachable) {src : String}
    {prog : List Node} (hp : parseProgram src = .ok prog) (hne : prog ≠ []) :
    (it.run src).2.env.depth = 0 ∧ (it.run src).2.calls = 0 ∧
      (∀ n₁ n₂, tempKey n₁ ∈ (it.run src).2.env.vars → tempKey n₂ ∈ (it.run src).2.env.vars →
        n₁ = n₂) ∧
      ∀ n, tempKey n ∈ (it.run src).2.env.vars →
        ∃ c, (it.run src).1.result = .ok (some c) ∧
          ((it.run src).2.env.vars[tempKey n]?).map Cell.id = some c.id := by
  have hi := hit.idle
  have hrun : it.run src = it.runProgram prog := by
    unfold Interpreter.run
    rw [hp]
  obtain ⟨hback, hheld⟩ := Exec.program_topHolds (m := it.machine) fuel prog
    (show it.config.store = .arenas from hi.store) (parseProgram_clean hp) hi.good hi.frames
  rw [hrun, runProgram_snd, runProgram_result]
  generalize (Exec.program fuel prog).execute it.config it.machine = x at hback hheld ⊢
  obtain ⟨hone, hkeys⟩ := hback.good.inv.bound_of_topHolds hback.frames (hheld hne)
  refine ⟨by simp [depth, hback.frames], hback.calls.trans hi.calls, hone, fun n hn ↦ ?_⟩
  obtain ⟨c', hc', hkeep⟩ := hkeys n hn
  obtain ⟨c, hr, hid⟩ := Exec.keptId_eq_some hkeep
  rw [hr, hc']
  exact ⟨c, rfl, by rw [hid]; rfl⟩

theorem run_literal_keeps_only_result :
    Reachable {} ∧ parseProgram "5w" = .ok [.atom "5w" ⟨0, 2⟩] ∧ [Node.atom "5w" ⟨0, 2⟩] ≠ [] ∧
      (({} : Interpreter).run "5w").2.env.depth = 0 ∧ (({} : Interpreter).run "5w").2.calls = 0 ∧
      (∀ n₁ n₂, tempKey n₁ ∈ (({} : Interpreter).run "5w").2.env.vars →
        tempKey n₂ ∈ (({} : Interpreter).run "5w").2.env.vars → n₁ = n₂) ∧
      ∀ n, tempKey n ∈ (({} : Interpreter).run "5w").2.env.vars →
        ∃ c, (({} : Interpreter).run "5w").1.result = .ok (some c) ∧
          ((({} : Interpreter).run "5w").2.env.vars[tempKey n]?).map Cell.id = some c.id :=
  ⟨.new 10000 {} false, rfl, List.cons_ne_nil _ _,
    run_keeps_only_result (.new 10000 {} false) rfl (List.cons_ne_nil _ _)⟩

end Interpreter

end WordLang

import WordLang.Proofs.Forms

namespace WordLang

namespace Env

theorem setArena_arena (e : Env) : e.setArena e.arena = e := by
  cases e with
  | mk vars funcs top frames fresh made =>
    cases frames <;> rfl

theorem popFrame_pushFrame (e : Env) (keep : Option Nat) : e.pushFrame.popFrame keep = (e, some 0) := by
  simp only [popFrame, pushFrame, release, List.append_nil, List.length_nil]
  exact congrArg (·, some 0) (setArena_arena e)

end Env

namespace Exec

variable {cfg : Config} {m : Machine}

theorem leaveFrame_enterFrame_error (hs : cfg.store = .arenas) (f : Fault) :
    ∃ evs, leaveFrame cfg (.error f, enterFrame cfg m) = (.error f, { m with events := evs }) := by
  simp only [leaveFrame, enterFrame, hs, Store.arenas_popFrame, keptId, Env.popFrame_pushFrame]
  exact ⟨_, rfl⟩

def specialForms : List String := ["function", "declare", "set", "while", "if"]

def takesOperands : String → Nat → Bool
  | "function", n => 1 ≤ n
  | "declare", n => n == 2
  | "set", n => n == 2
  | "while", n => 2 ≤ n
  | "if", n => n == 2 || n == 3
  | _, _ => true

section Dispatch

variable {rest : List Node}

theorem dispatch_special_arity (ev : Node → Exec (Option Cell)) (fuel : Nat) (headSpan span : Span)
    {form : String} (hf : form ∈ specialForms)
    (hn : takesOperands form rest.length = false) :
    ∃ expected, dispatch ev fuel (.atom form headSpan :: rest) span =
      fail (.arity form expected (rest.length + 1) span) := by
  simp only [specialForms, List.mem_cons, List.not_mem_nil, or_false] at hf
  rcases hf with rfl | rfl | rfl | rfl | rfl
  · cases rest with
    | nil => exact ⟨_, rfl⟩
    | cons _ _ => simp [takesOperands] at hn
  · refine ⟨"exactly 3 elements", ?_⟩
    have hd : dispatch ev fuel (.atom "declare" headSpan :: rest) span = declare rest span := by
      simp [dispatch]
    rw [hd]
    unfold declare
    split
    · simp [takesOperands] at hn
    · rfl
  · refine ⟨"exactly 3 elements", ?_⟩
    have hd : dispatch ev fuel (.atom "set" headSpan :: rest) span = assign ev rest span := by
      simp [dispatch]
    rw [hd]
    unfold assign
    split
    · simp [takesOperands] at hn
    · rfl
  · refine ⟨"at least 3 elements", ?_⟩
    have hd : dispatch ev fuel (.atom "while" headSpan :: rest) span = whileLoop ev fuel rest span := by
      simp [dispatch]
    rw [hd]
    unfold whileLoop
    split
    · simp [takesOperands] at hn
    · rfl
  · refine ⟨"3 or 4 elements", ?_⟩
    have hd : dispatch ev fuel (.atom "if" headSpan :: rest) span = branch ev rest span := by
      simp [dispatch]
    rw [hd]
    unfold branch
    split
    · simp [takesOperands] at hn
    · simp [takesOperands] at hn
    · rfl

theorem dispatch_call {ev : Node → Exec (Option Cell)} {fuel : Nat} {headSpan span : Span}
    {form : String} (hf : form ∉ specialForms) :
    dispatch ev fuel (.atom form headSpan :: rest) span = call ev form rest span := by
  simp only [specialForms, List.mem_cons, List.not_mem_nil, or_false, not_or] at hf
  obtain ⟨h₁, h₂, h₃, h₄, h₅⟩ := hf
  simp [dispatch, h₁, h₂, h₃, h₄, h₅]

end Dispatch

section Calls

variable {ev : Node → Exec (Option Cell)} {name : String} {rest : List Node}
  {args : List Cell} {m₁ : Machine}

theorem call_user_arity (span : Span) {params : List String} {body : List Node}
    (hc : m.env.callable? name = some (.user params body))
    (ha : (arguments ev name 1 rest).execute cfg m = (.ok args, m₁))
    (hn : args.length ≠ params.length) :
    ∃ evs, (call ev name rest span).execute cfg m =
      (.error (.error (.arity name (toString params.length ++ " arguments") args.length span)),
        { m₁ with events := evs }) := by
  simp only [call, execute_bind_ok execute_env, hc]
  rw [execute_bind_ok ha, execute_bind_ok execute_depth, execute_bind_ok (execute_emit _),
    execute_callUser, if_pos (by simpa using hn)]
  exact ⟨_, rfl⟩

theorem call_builtin_error {span : Span} {b : Builtin} {e : EvalError}
    (hc : m.env.callable? name = some (.builtin b))
    (ha : (arguments ev name 1 rest).execute cfg m = (.ok args, m₁))
    (he : b.apply (args.map (·.var)) span = .error e) :
    ∃ evs, (call ev name rest span).execute cfg m = (.error (.error e), { m₁ with events := evs }) := by
  simp only [call, execute_bind_ok execute_env, hc]
  rw [execute_bind_ok ha, execute_bind_ok execute_depth, execute_bind_ok (execute_emit _)]
  simp only [he, execute_fail]
  exact ⟨_, rfl⟩

end Calls

/-- Where the evaluator checks the number of operands. A special form with the wrong number of
operands fails with an Arity error and leaves the machine as it was, apart from its events. A
call first evaluates its arguments, in its frame; if the callee then rejects their number (a user
function) or them (a built-in), the call fails right where the arguments left the machine, and
only its frame is closed: whatever the arguments printed or assigned stays. -/
theorem arity_checked_before_operands_only_in_special_forms (fuel : Nat) (form : String)
    (headSpan span : Span) (rest : List Node) (cfg : Config) (m : Machine)
    (hs : cfg.store = .arenas) :
    (form ∈ specialForms → takesOperands form rest.length = false →
      ∃ expected evs, (eval (fuel + 1) (.list (.atom form headSpan :: rest) span)).execute cfg m =
        (.error (.error (.arity form expected (rest.length + 1) span)), { m with events := evs })) ∧
    (form ∉ specialForms → ∀ callee args m₁, m.env.callable? form = some callee →
      (arguments (eval fuel) form 1 rest).execute { cfg with depth := cfg.depth + 1 }
          (enterFrame cfg m) = (.ok args, m₁) →
      (∀ params body, callee = .user params body → args.length ≠ params.length →
        ∃ evs, (eval (fuel + 1) (.list (.atom form headSpan :: rest) span)).execute cfg m =
          leaveFrame cfg (.error (.error (.arity form (toString params.length ++ " arguments")
            args.length span)), { m₁ with events := evs })) ∧
      (∀ b e, callee = .builtin b → b.apply (args.map (·.var)) span = .error e →
        ∃ evs, (eval (fuel + 1) (.list (.atom form headSpan :: rest) span)).execute cfg m =
          leaveFrame cfg (.error (.error e), { m₁ with events := evs }))) := by
  refine ⟨fun hf hn ↦ ?_, fun hf callee args m₁ hc ha ↦ ⟨?_, ?_⟩⟩
  · obtain ⟨expected, hd⟩ := dispatch_special_arity (eval fuel) fuel headSpan span hf hn
    obtain ⟨evs, h⟩ := leaveFrame_enterFrame_error (m := m) hs
      (.error (.arity form expected (rest.length + 1) span))
    refine ⟨expected, evs, ?_⟩
    rw [eval, execute_inFrame_eq, hd, execute_fail, h]
  · -- the frame changes no function, so the callee is found as before
    rintro params body rfl hn
    obtain ⟨evs, h⟩ :=
      call_user_arity span (show (enterFrame cfg m).env.callable? form = _ from hc) ha hn
    exact ⟨evs, by rw [eval, execute_inFrame_eq, dispatch_call hf, h]⟩
  · rintro b e rfl he
    obtain ⟨evs, h⟩ :=
      call_builtin_error (show (enterFrame cfg m).env.callable? form = _ from hc) ha he
    exact ⟨evs, by rw [eval, execute_inFrame_eq, dispatch_call hf, h]⟩

theorem declare_arity_leaves_machine :
    ({} : Config).store = .arenas ∧ "declare" ∈ specialForms ∧ takesOperands "declare" 0 = false ∧
      ∃ expected evs, (eval (0 + 1) (.list [.atom "declare" ⟨1, 8⟩] ⟨0, 9⟩)).execute {} {} =
        (.error (.error (.arity "declare" expected 1 ⟨0, 9⟩)), { ({} : Machine) with events := evs }) :=
  ⟨rfl, by decide, rfl,
    (arity_checked_before_operands_only_in_special_forms 0 "declare" ⟨1, 8⟩ ⟨0, 9⟩ [] {} {} rfl).1
      (by decide) rfl⟩

theorem call_prints_before_arity_error :
    (({} : Interpreter).run "(gt (if (print 1w) 1w 2w))").1.output = "1\n" ∧
      (({} : Interpreter).run "(gt (if (print 1w) 1w 2w))").1.result.mapError RunError.message =
        .error "Arity error: 'gt' expects exactly 2 arguments, got 1" :=
  ⟨by decide +kernel, by decide +kernel⟩

end Exec

end WordLang

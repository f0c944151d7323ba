import WordLang.Proofs.Frames

namespace WordLang

namespace Machine

def Continues (m m' : Machine) : Prop := ∃ rest, m'.output = m.output ++ rest

section Continues

variable {m₁ m₂ m₃ : Machine}

theorem Continues.of_output (h : m₂.output = m₁.output) : m₁.Continues m₂ :=
  ⟨"", by rw [h, String.append_empty]⟩

theorem Continues.refl (m : Machine) : m.Continues m := .of_output rfl

theorem Continues.trans (h₁ : m₁.Continues m₂) (h₂ : m₂.Continues m₃) : m₁.Continues m₃ := by
  obtain ⟨r₁, h₁⟩ := h₁
  obtain ⟨r₂, h₂⟩ := h₂
  exact ⟨r₁ ++ r₂, by rw [h₂, h₁, String.append_assoc]⟩

end Continues

end Machine

namespace Exec

variable {α β : Type} {L L' : Nat}

structure CallSite where
  name : String
  span : Span
  machine : Machine

inductive Exit where
  | call (shadowed : List (String × Option Cell))
  | frame (cfg : Config)

def Exit.leave (f : Fault) : Exit → Machine → Machine
  | .call shadowed, m => { m with env := Env.restoreAll m.env shadowed, calls := m.calls - 1 }
  | .frame cfg, m => (leaveFrame cfg (.error f, m)).2

def unwind (f : Fault) : List Exit → Machine → Machine
  | [], m => m
  | x :: xs, m => x.leave f (unwind f xs m)

theorem unwind_output (f : Fault) (exits : List Exit) (m : Machine) :
    (unwind f exits m).output = m.output := by
  induction exits with
  | nil => rfl
  | cons x xs ih =>
    cases x <;> exact ih

def CallSite.cutOff (site : CallSite) (L : Nat) (exits : List Exit) : Machine :=
  unwind (.error (.recursionLimit site.name L site.span)) exits site.machine

/-- The run of a step under `cfg` from `m` comes to a user call with as many arguments as
parameters at `site`, having entered the calls and frames `exits` on the way there, outermost
first. Each call entered on the way was made below the limit, and in a sequence of steps each
one before the one that comes to the call answered. -/
inductive Reaches : {α : Type} → Exec α → Config → Machine → CallSite → List Exit → Prop
  | here {ev : Node → Exec (Option Cell)} {name : String} {params : List String}
      {body : List Node} {args : List Cell} {span : Span} {cfg : Config} {m : Machine} :
      args.length = params.length →
      Reaches (callUser ev name params body args span) cfg m ⟨name, span, m⟩ []
  | body {ev : Node → Exec (Option Cell)} {name : String} {params : List String}
      {body : List Node} {args : List Cell} {span : Span} {cfg : Config} {m : Machine}
      {site : CallSite} {exits : List Exit} :
      args.length = params.length → m.calls < cfg.callLimit →
      Reaches (sequence ev body) cfg
        { m with env := (Env.bindAll cfg.depth m.env (params.zip args) []).2
                 calls := m.calls + 1 } site exits →
      Reaches (callUser ev name params body args span) cfg m site
        (.call (Env.bindAll cfg.depth m.env (params.zip args) []).1 :: exits)
  | frame {body : Exec (Option Cell)} {cfg : Config} {m : Machine} {site : CallSite}
      {exits : List Exit} :
      Reaches body { cfg with depth := cfg.depth + 1 } (enterFrame cfg m) site exits →
      Reaches (inFrame body) cfg m site (.frame cfg :: exits)
  | left {α β : Type} {x : Exec α} {f : α → Exec β} {cfg : Config} {m : Machine}
      {site : CallSite} {exits : List Exit} :
      Reaches x cfg m site exits → Reaches (x >>= f) cfg m site exits
  | right {α β : Type} {x : Exec α} {f : α → Exec β} {cfg : Config} {m m₁ : Machine} {a : α}
      {site : CallSite} {exits : List Exit} :
      x.execute cfg m = (.ok a, m₁) → Reaches (f a) cfg m₁ site exits →
      Reaches (x >>= f) cfg m site exits

theorem Reaches.execute {x : Exec α} {cfg : Config} {m : Machine} {site : CallSite}
    {exits : List Exit} (h : Reaches x cfg m site exits) :
    cfg.callLimit ≤ site.machine.calls →
      x.execute cfg m = (.error (.error (.recursionLimit site.name cfg.callLimit site.span)),
        site.cutOff cfg.callLimit exits) := by
  induction h with
  | here harity =>
    intro hl
    rw [execute_callUser, if_neg (by simpa using harity), if_pos hl]
    rfl
  | body harity hlt _ ih =>
    intro hl
    rw [execute_callUser, if_neg (by simpa using harity), if_neg (by omega)]
    dsimp only
    rw [ih hl]
    rfl
  | frame _ ih =>
    intro hl
    rw [execute_inFrame_eq, ih hl]
    rfl
  | left _ ih =>
    intro hl
    rw [execute_bind, ih hl]
  | right hx _ ih =>
    intro hl
    rw [execute_bind_ok hx, ih hl]

def Grows (x : Exec α) : Prop :=
  ∀ (cfg : Config) (m : Machine), m.Continues (x.execute cfg m).2 ∧
    (x.execute cfg m).2.calls = m.calls

theorem Grows.bind {x : Exec α} {f : α → Exec β} (hx : Grows x) (hf : ∀ a, Grows (f a)) :
    Grows (x >>= f) := by
  intro cfg m
  rw [execute_bind]
  rcases h : x.execute cfg m with ⟨_ | a, m₁⟩
  · simpa only [h] using hx cfg m
  · obtain ⟨hcont, hcalls⟩ : m.Continues m₁ ∧ m₁.calls = m.calls := by simpa only [h] using hx cfg m
    exact ⟨hcont.trans (hf a cfg m₁).1, (hf a cfg m₁).2.trans hcalls⟩

theorem Grows.of_machine {x : Exec α}
    (h : ∀ cfg m, (x.execute cfg m).2.output = m.output ∧ (x.execute cfg m).2.calls = m.calls) :
    Grows x :=
  fun cfg m ↦ ⟨.of_output (h cfg m).1, (h cfg m).2⟩

/-- How the runs of `x` from `m` under the call limit `cfg` sets and under the limit `L'` stand
to each other: they end alike, or both come to the same user call at the same machine, made
with `L` calls in progress, and the run under `L'` prints on from there. -/
def Cut (L L' : Nat) (x : Exec α) (cfg : Config) (m : Machine) : Prop :=
  x.execute cfg m = x.execute { cfg with callLimit := L' } m ∨
    ∃ site exits exits', site.machine.calls = L ∧ Reaches x cfg m site exits ∧
      Reaches x { cfg with callLimit := L' } m site exits' ∧
      site.machine.Continues (x.execute { cfg with callLimit := L' } m).2

def Cuts (L L' : Nat) (x : Exec α) : Prop :=
  Grows x ∧ ∀ cfg m, cfg.callLimit = L → m.calls ≤ L → Cut L L' x cfg m

namespace Cuts

theorem of_limitFree {x : Exec α} (hx : Grows x)
    (h : ∀ cfg m, x.execute { cfg with callLimit := L' } m = x.execute cfg m) : Cuts L L' x :=
  ⟨hx, fun cfg m _ _ ↦ .inl (h cfg m).symm⟩

theorem bind {x : Exec α} {f : α → Exec β} (hx : Cuts L L' x) (hf : ∀ a, Cuts L L' (f a)) :
    Cuts L L' (x >>= f) := by
  refine ⟨hx.1.bind fun a ↦ (hf a).1, fun cfg m hL hc ↦ ?_⟩
  rcases hx.2 cfg m hL hc with h | ⟨site, exits, exits', hsite, hr, hr', hcont⟩
  · -- the first step ends alike; what follows runs from the same machine
    rcases hrun : x.execute cfg m with ⟨_ | a, m₁⟩
    · left
      rw [execute_bind, execute_bind, ← h, hrun]
    · have hrun' : x.execute { cfg with callLimit := L' } m = (.ok a, m₁) := h ▸ hrun
      have hc₁ : m₁.calls ≤ L := by
        have hcalls : m₁.calls = m.calls := by simpa only [hrun] using (hx.1 cfg m).2
        omega
      rcases (hf a).2 cfg m₁ hL hc₁ with h₁ | ⟨site, exits, exits', hsite, hr, hr', hcont⟩
      · left
        rw [execute_bind_ok hrun, execute_bind_ok hrun', h₁]
      · right
        refine ⟨site, exits, exits', hsite, .right hrun hr, .right hrun' hr', ?_⟩
        rwa [execute_bind_ok hrun']
  · -- the run under `L` stops in the first step; the other one goes on and only prints more
    right
    refine ⟨site, exits, exits', hsite, .left hr, .left hr', ?_⟩
    rw [execute_bind]
    rcases h₂ : x.execute { cfg with callLimit := L' } m with ⟨_ | a, m₂⟩
    · simpa only [h₂] using hcont
    · exact (by simpa only [h₂] using hcont : site.machine.Continues m₂).trans ((hf a).1 _ m₂).1

theorem pure (a : α) : Cuts L L' (Pure.pure a : Exec α) :=
  of_limitFree (.of_machine fun _ _ ↦ ⟨rfl, rfl⟩) fun _ _ ↦ rfl

theorem throw (f : Fault) : Cuts L L' (MonadExcept.throw f : Exec α) :=
  of_limitFree (.of_machine fun _ _ ↦ ⟨rfl, rfl⟩) fun _ _ ↦ rfl

theorem fail (e : EvalError) : Cuts L L' (Exec.fail e : Exec α) := throw _

theorem env : Cuts L L' Exec.env := of_limitFree (.of_machine fun _ _ ↦ ⟨rfl, rfl⟩) fun _ _ ↦ rfl

theorem depth : Cuts L L' Exec.depth :=
  of_limitFree (.of_machine fun _ _ ↦ ⟨rfl, rfl⟩) fun _ _ ↦ rfl

theorem modifyEnv (f : Env → Env) : Cuts L L' (Exec.modifyEnv f) :=
  of_limitFree (.of_machine fun _ _ ↦ ⟨rfl, rfl⟩) fun _ _ ↦ rfl

theorem emit (ev : Event) : Cuts L L' (Exec.emit ev) :=
  of_limitFree (.of_machine fun _ _ ↦ by rw [execute_emit]; exact ⟨rfl, rfl⟩)
    fun _ _ ↦ by simp only [execute_emit]

theorem temporary (v : Variable) : Cuts L L' (Exec.temporary v) :=
  of_limitFree (.of_machine fun _ _ ↦ ⟨rfl, rfl⟩) fun _ _ ↦ rfl

theorem releaseSince (mark : Nat) (keep : Option Cell) : Cuts L L' (Exec.releaseSince mark keep) := by
  refine of_limitFree (.of_machine fun cfg m ↦ ?_) fun _ _ ↦ ?_
  · obtain ⟨evs, h⟩ := execute_releaseSince cfg m mark keep
    rw [h]
    exact ⟨rfl, rfl⟩
  · simp only [Exec.releaseSince, execute_bind_ok execute_read, execute_bind_ok execute_env,
      execute_bind_ok (execute_modifyEnv _)]
    cases (Config.store _).releaseSince _ mark (keep.map Cell.id) |>.2 with
    | none => rfl
    | some n => simp only [reportRelease, execute_bind_ok execute_depth, execute_emit]

theorem printLine (text : String) (span : Span) : Cuts L L' (Exec.printLine text span) := by
  refine of_limitFree (fun cfg m ↦ ?_) fun _ _ ↦ ?_
  · simp only [Exec.printLine, execute_bind_ok execute_read]
    split
    · exact ⟨.refl m, rfl⟩
    · exact ⟨⟨text ++ "\n", by simp [String.append_assoc]⟩, rfl⟩
  · simp only [Exec.printLine, execute_bind_ok execute_read]
    split <;> rfl

theorem inFrame {body : Exec (Option Cell)} (hb : Cuts L L' body) :
    Cuts L L' (Exec.inFrame body) := by
  refine ⟨fun cfg m ↦ ?_, fun cfg m hlim hc ↦ ?_⟩
  · rw [execute_inFrame_eq]
    exact hb.1 _ (enterFrame cfg m)
  · rcases hb.2 { cfg with depth := cfg.depth + 1 } (enterFrame cfg m) hlim hc with
      h | ⟨site, exits, exits', hsite, hr, hr', hcont⟩
    · left
      rw [execute_inFrame_eq, execute_inFrame_eq, h]
      rfl
    · right
      refine ⟨site, .frame cfg :: exits, .frame { cfg with callLimit := L' } :: exits', hsite,
        .frame hr, .frame hr', ?_⟩
      rw [execute_inFrame_eq]
      exact hcont

def unary (L L' : Nat) : Unary where
  P _ _ x := Cuts L L' x
  Ok _ := True
  Sp _ := True
  EnvOk _ := True

theorem rules : (unary L L').Rules where
  mono _ hx := hx
  bind := bind
  stuck _ := ⟨_, throw .outOfFuel⟩
  pure := pure
  fail _ := fail _
  emit := emit
  depth := depth
  env hf := env.bind hf
  temporary := temporary
  releaseSince := releaseSince
  printLine text := fun _ ↦ printLine text _
  define _ := fun _ ↦ modifyEnv _
  declared _ _ := modifyEnv _
  rebind _ _ := modifyEnv _
  inFrame := inFrame
  span _ := True.intro
  list _ := ⟨True.intro, fun _ _ ↦ True.intro⟩

end Cuts

def CutsEval (L L' : Nat) (ev : Node → Exec (Option Cell)) : Prop := ∀ n, Cuts L L' (ev n)

namespace Cuts

variable {ev : Node → Exec (Option Cell)}

theorem sequence (hev : CutsEval L L' ev) (body : List Node) : Cuts L L' (Exec.sequence ev body) :=
  rules.sequence hev body

theorem callUser (hev : CutsEval L L' ev) (hL : L ≤ L') (name : String) (params : List String)
    (body : List Node) (args : List Cell) (span : Span) :
    Cuts L L' (Exec.callUser ev name params body args span) := by
  have hseq := sequence hev body
  have hgrows : Grows (Exec.callUser ev name params body args span) := by
    intro cfg m
    rw [execute_callUser]
    split_ifs
    · exact ⟨.refl m, rfl⟩
    · exact ⟨.refl m, rfl⟩
    · obtain ⟨hcont, hcalls⟩ := hseq.1 cfg
        { m with env := (Env.bindAll cfg.depth m.env (params.zip args) []).2, calls := m.calls + 1 }
      exact ⟨hcont, by dsimp only at hcalls ⊢; omega⟩
  refine ⟨hgrows, fun cfg m hlim hc ↦ ?_⟩
  by_cases harity : args.length = params.length
  · have hne : ¬(args.length != params.length) = true := by simpa using harity
    by_cases hcut : L ≤ m.calls
    · -- the run under `L` is refused at this very call, made with `L` calls in progress
      exact .inr ⟨⟨name, span, m⟩, [], [], show m.calls = L by omega, .here harity, .here harity,
        (hgrows _ m).1⟩
    · -- both runs enter the body with one call more in progress
      have hlt : m.calls < cfg.callLimit := by omega
      have hlt' : m.calls < ({ cfg with callLimit := L' } : Config).callLimit := by
        show m.calls < L'
        omega
      have hc₁ : ({ m with env := (Env.bindAll cfg.depth m.env (params.zip args) []).2
                           calls := m.calls + 1 } : Machine).calls ≤ L := by
        show m.calls + 1 ≤ L
        omega
      rcases hseq.2 cfg _ hlim hc₁ with h | ⟨site, exits, exits', hsite, hr, hr', hcont⟩
      · left
        rw [execute_callUser, execute_callUser, if_neg hne, if_neg hne, if_neg (by omega),
          if_neg (by omega)]
        dsimp only
        rw [h]
      · right
        refine ⟨site, _, _, hsite, .body harity hlt hr, .body harity hlt' hr', ?_⟩
        rw [execute_callUser, if_neg hne, if_neg (by omega)]
        exact hcont
  · left
    have he : (args.length != params.length) = true := by simpa using harity
    rw [execute_callUser, execute_callUser, if_pos he, if_pos he]

theorem calls (hL : L ≤ L') (hev : CutsEval L L' ev) : (unary L L').walk.Calls ev :=
  Unary.calls fun name span _ params body args _ ↦ callUser hev hL name params body args span

theorem eval (hL : L ≤ L') (n : Nat) : CutsEval L L' (Exec.eval n) :=
  rules.eval (calls hL) (throw _) n

theorem program (hL : L ≤ L') (fuel : Nat) (prog : List Node) :
    Cuts L L' (Exec.program fuel prog) :=
  rules.program (eval hL fuel) prog

end Cuts

end Exec

namespace Interpreter

/-- The call limit only cuts runs short. Run from the same interpreter with at most `L` calls in
progress, a source text under a limit `L` does exactly what it does under a higher limit `L'`:
the same result, output and events, and the same interpreter afterwards but for the limit. Or
both runs come, having printed and done the same, to the same user call with as many arguments
as parameters, the first one made with `L` calls in progress. There the run under `L` fails with
`recursionLimit` at limit `L`, before binding anything, and ends as that failure leaves the calls
and frames it passed through, having printed only what it had printed there; the run under `L'`
goes on from that call and prints more. -/
theorem run_callLimit_cuts (it : Interpreter) (src : String) {L L' : Nat} (hL : L ≤ L')
    (hc : it.calls ≤ L) :
    (({ it with callLimit := L }.run src).1 = ({ it with callLimit := L' }.run src).1 ∧
      ({ it with callLimit := L }.run src).2 =
        { ({ it with callLimit := L' }.run src).2 with callLimit := L }) ∨
    ∃ prog site exits exits', parseProgram src = .ok prog ∧ site.machine.calls = L ∧
      Exec.Reaches (Exec.program fuel prog) { it with callLimit := L }.config it.machine site
        exits ∧
      Exec.Reaches (Exec.program fuel prog) { it with callLimit := L' }.config it.machine site
        exits' ∧
      { it with callLimit := L }.run src =
        (⟨.error (.eval (.recursionLimit site.name L site.span)), site.machine.output,
          (site.cutOff L exits).events⟩,
         { it with callLimit := L, env := (site.cutOff L exits).env
                   calls := (site.cutOff L exits).calls }) ∧
      ∃ rest, ({ it with callLimit := L' }.run src).1.output = site.machine.output ++ rest := by
  unfold Interpreter.run
  split
  · exact .inl ⟨rfl, rfl⟩
  · rename_i prog hprog
    -- the configuration under `L'` is the one under `L` with the limit raised
    rcases (Exec.Cuts.program hL fuel prog).2 { it with callLimit := L }.config
      { it with callLimit := L }.machine rfl hc with h | ⟨site, exits, exits', hsite, hr, hr', hcont⟩
    · have h' : (Exec.program fuel prog).execute { it with callLimit := L }.config
          { it with callLimit := L }.machine =
          (Exec.program fuel prog).execute { it with callLimit := L' }.config
            { it with callLimit := L' }.machine := h
      left
      unfold runProgram
      rw [h']
      exact ⟨rfl, rfl⟩
    · right
      obtain ⟨rest, hout⟩ := hcont
      refine ⟨prog, site, exits, exits', hprog, hsite, hr, hr', ?_, rest, hout⟩
      unfold runProgram
      rw [hr.execute (by rw [hsite]; exact Nat.le_refl _)]
      simp only [Exec.CallSite.cutOff, Exec.unwind_output]
      rfl

theorem run_self_call_cuts :
    1 ≤ 2 ∧ ({} : Interpreter).calls ≤ 1 ∧
      ((({ ({} : Interpreter) with callLimit := 1 }.run "(function f (f)) (f)").1 =
          ({ ({} : Interpreter) with callLimit := 2 }.run "(function f (f)) (f)").1 ∧
        ({ ({} : Interpreter) with callLimit := 1 }.run "(function f (f)) (f)").2 =
          { ({ ({} : Interpreter) with callLimit := 2 }.run "(function f (f)) (f)").2 with
            callLimit := 1 }) ∨
      ∃ prog site exits exits', parseProgram "(function f (f)) (f)" = .ok prog ∧
        site.machine.calls = 1 ∧
        Exec.Reaches (Exec.program fuel prog) { ({} : Interpreter) with callLimit := 1 }.config
          ({} : Interpreter).machine site exits ∧
        Exec.Reaches (Exec.program fuel prog) { ({} : Interpreter) with callLimit := 2 }.config
          ({} : Interpreter).machine site exits' ∧
        { ({} : Interpreter) with callLimit := 1 }.run "(function f (f)) (f)" =
          (⟨.error (.eval (.recursionLimit site.name 1 site.span)), site.machine.output,
            (site.cutOff 1 exits).events⟩,
           { ({} : Interpreter) with callLimit := 1, env := (site.cutOff 1 exits).env
                                     calls := (site.cutOff 1 exits).calls }) ∧
        ∃ rest, ({ ({} : Interpreter) with callLimit := 2 }.run "(function f (f)) (f)").1.output =
          site.machine.output ++ rest) := by
  have h := run_callLimit_cuts {} "(function f (f)) (f)" (show 1 ≤ 2 by decide)
    (show ({} : Interpreter).calls ≤ 1 by decide)
  refine ⟨by decide, by decide, ?_⟩
  -- the limits set on a new interpreter, written field by field
  simp only [] at h ⊢
  exact h

end Interpreter

end WordLang

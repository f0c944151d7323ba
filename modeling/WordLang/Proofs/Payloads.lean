import WordLang.Proofs.Frames

namespace WordLang

namespace Variable

def Natural (v : Variable) : Prop :=
  ∀ n, v.payload = .int n → 0 ≤ n.toInt ∧ n.toInt ≤ 9223372036854775807

theorem natural_of_nonneg {v : Variable} (h : ∀ n, v.payload = .int n → 0 ≤ n.toInt) :
    v.Natural :=
  fun n hn ↦ ⟨h n hn, Int64.toInt_le n⟩

@[simp] theorem natural_inFrame (v : Variable) (d : Nat) : (v.inFrame d).Natural ↔ v.Natural :=
  Iff.rfl

theorem natural_declared (k : Kind) : (declared k).Natural := fun _ h ↦ Payload.noConfusion h

def intValue (v : Variable) : Int :=
  match v.payload with
  | .int n => n.toInt
  | _ => 0

theorem intValue_nonneg {v : Variable} (hv : v.Natural) : 0 ≤ v.intValue := by
  unfold intValue
  split
  · rename_i n hn
    exact (hv n hn).1
  · exact le_rfl

end Variable

def intSum : List Variable → Int
  | [] => 0
  | v :: vs => v.intValue + intSum vs

theorem intSum_nonneg : ∀ {vs : List Variable}, (∀ v ∈ vs, v.Natural) → 0 ≤ intSum vs
  | [], _ => le_rfl
  | v :: vs, h => by
    have hv := Variable.intValue_nonneg (h v (by simp))
    have hvs := intSum_nonneg fun w hw ↦ h w (List.mem_cons_of_mem _ hw)
    simp only [intSum]
    omega

namespace Builtin

theorem checkedAdd_of_natural {a b : Int64} (ha : 0 ≤ a.toInt) (hb : 0 ≤ b.toInt) :
    checkedAdd a b = if a.toInt + b.toInt ≤ 9223372036854775807 then
      some (Int64.ofInt (a.toInt + b.toInt)) else none := by
  have hfits : fitsInt64 (a.toInt + b.toInt) =
      decide (a.toInt + b.toInt ≤ 9223372036854775807) := by
    simp only [fitsInt64]
    by_cases h : a.toInt + b.toInt ≤ 9223372036854775807
    · simp [h]; omega
    · simp [h]; omega
  simp only [checkedAdd, hfits, decide_eq_true_eq]

theorem toInt_ofInt_natural {s : Int} (h₀ : 0 ≤ s) (h₁ : s ≤ 9223372036854775807) :
    (Int64.ofInt s).toInt = s :=
  Int64.toInt_ofInt_of_le (by omega) (by omega)

theorem expectInteger_of_int {callee : String} {span : Span} {position : Nat} {v : Variable}
    (hk : v.kind.isNumeric) {n : Int64} (hn : v.payload = .int n) :
    expectInteger callee span position v = .ok n := by
  simp [expectInteger, hk, hn]

theorem sumFrom_exact (span : Span) : ∀ (args : List Variable) (total : Int64) (position : Nat),
    0 ≤ total.toInt → (∀ v ∈ args, v.Natural ∧ v.kind.isNumeric ∧ ∃ n, v.payload = .int n) →
    sumFrom span total position args =
      if total.toInt + intSum args ≤ 9223372036854775807 then
        .ok (Int64.ofInt (total.toInt + intSum args))
      else .error (.overflow "add" span)
  | [], total, _, _, _ => by
    simp only [sumFrom, intSum, Int.add_zero, Int64.ofInt_toInt]
    exact (if_pos (Int64.toInt_le total)).symm
  | v :: rest, total, position, ht, hargs => by
    obtain ⟨hv, hk, n, hn⟩ := hargs v (by simp)
    have hrest : ∀ w ∈ rest, w.Natural ∧ w.kind.isNumeric ∧ ∃ n, w.payload = .int n :=
      fun w hw ↦ hargs w (List.mem_cons_of_mem _ hw)
    have hn₀ : 0 ≤ n.toInt := (hv n hn).1
    have hvalue : v.intValue = n.toInt := by simp [Variable.intValue, hn]
    have hrest₀ : 0 ≤ intSum rest := intSum_nonneg fun w hw ↦ (hrest w hw).1
    simp only [sumFrom, expectInteger_of_int hk hn, checkedAdd_of_natural ht hn₀, bind,
      Except.bind]
    by_cases hfit : total.toInt + n.toInt ≤ 9223372036854775807
    · have hpartial := toInt_ofInt_natural (by omega) hfit
      rw [if_pos hfit]
      dsimp only
      rw [sumFrom_exact span rest _ _ (by omega) hrest, hpartial]
      simp only [intSum, hvalue, Int.add_assoc]
    · -- the partial sum already passes the bound, and the rest only adds to it
      have hover : ¬ total.toInt + intSum (v :: rest) ≤ 9223372036854775807 := by
        simp only [intSum, hvalue]
        omega
      rw [if_neg hfit, if_neg hover]

theorem payload_of_expectInteger {callee : String} {span : Span} {position : Nat}
    {v : Variable} {n : Int64} (h : expectInteger callee span position v = .ok n) :
    v.payload = .int n := by
  unfold expectInteger at h
  split at h
  · cases h
  · split at h
    · rename_i m hm
      cases h
      exact hm
    · cases h

theorem sumFrom_nonneg (span : Span) : ∀ (args : List Variable) (total : Int64) (position : Nat)
    {t : Int64}, 0 ≤ total.toInt → (∀ v ∈ args, v.Natural) →
    sumFrom span total position args = .ok t → 0 ≤ t.toInt
  | [], total, _, t, ht, _, h => by
    cases h
    exact ht
  | v :: rest, total, position, t, ht, hargs, h => by
    simp only [sumFrom, bind, Except.bind] at h
    split at h
    · cases h
    · rename_i n hn
      have hn₀ : 0 ≤ n.toInt := (hargs v (by simp) n (payload_of_expectInteger hn)).1
      rw [checkedAdd_of_natural ht hn₀] at h
      split_ifs at h with hfit
      · exact sumFrom_nonneg span rest _ _ (by rw [toInt_ofInt_natural (by omega) hfit]; omega)
          (fun w hw ↦ hargs w (List.mem_cons_of_mem _ hw)) h

theorem compare_value {callee : String} {rel : Int64 → Int64 → Bool} {args : List Variable}
    {span : Span} {v : Variable} (h : compare callee rel args span = .ok (.value v)) :
    ∃ b, v = ⟨.bool, .bool b, 0⟩ := by
  simp only [compare, bind, Except.bind] at h
  split at h
  · cases h
  · split at h
    · split at h
      · cases h
      · split at h
        · cases h
        · cases h
          exact ⟨_, rfl⟩
    · cases h

theorem apply_natural {b : Builtin} {args : List Variable} {span : Span} {v : Variable}
    (hargs : ∀ w ∈ args, w.Natural) (h : b.apply args span = .ok (.value v)) : v.Natural := by
  cases b with
  | add =>
    simp only [apply, bind, Except.bind] at h
    split at h
    · cases h
    · split at h
      · cases h
      · rename_i t ht
        cases h
        refine Variable.natural_of_nonneg fun n hn ↦ ?_
        cases hn
        exact sumFrom_nonneg span args 0 1 (by decide) hargs ht
  | print =>
    simp only [apply, bind, Except.bind] at h
    split at h
    · cases h
    · split at h <;> cases h
  | gt =>
    obtain ⟨b, rfl⟩ := compare_value h
    exact fun _ hn ↦ Payload.noConfusion hn
  | lt =>
    obtain ⟨b, rfl⟩ := compare_value h
    exact fun _ hn ↦ Payload.noConfusion hn
  | address =>
    cases h
    refine Variable.natural_of_nonneg fun n hn ↦ ?_
    cases hn
    decide

end Builtin

namespace Env

def NaturalVars (vars : Std.TreeMap String Cell) : Prop :=
  ∀ (k : String) (c : Cell), vars[k]? = some c → c.var.Natural

def Natural (e : Env) : Prop := NaturalVars e.vars

section Natural

variable {vars : Std.TreeMap String Cell} {e : Env}

theorem NaturalVars.insert (h : NaturalVars vars) {c : Cell} (hc : c.var.Natural) (k : String) :
    NaturalVars (vars.insert k c) := by
  intro k' c' hc'
  rw [Std.TreeMap.getElem?_insert] at hc'
  split at hc'
  · cases hc'
    exact hc
  · exact h k' c' hc'

theorem NaturalVars.erase (h : NaturalVars vars) (k : String) : NaturalVars (vars.erase k) := by
  intro k' c' hc'
  rw [Std.TreeMap.getElem?_erase] at hc'
  split at hc'
  · cases hc'
  · exact h k' c' hc'

theorem NaturalVars.release (h : NaturalVars vars) (keep : Option Nat) (keys : List String) :
    NaturalVars (release vars keep keys).1 := by
  intro k c hc
  rw [release_lookup] at hc
  split at hc
  · cases hc
  · exact h k c hc

theorem Natural.lookup (he : e.Natural) {name : String} {c : Cell} (h : e.lookup name = some c) :
    c.var.Natural :=
  he name c h

theorem Natural.declare (he : e.Natural) (name : String) {v : Variable} (hv : v.Natural) :
    (e.declare name v).Natural :=
  NaturalVars.insert he (c := ⟨e.fresh, v⟩) hv name

theorem Natural.rebind (he : e.Natural) (name : String) {c : Cell} (hc : c.var.Natural) :
    (e.rebind name c).Natural := by
  unfold Env.rebind
  split
  · exact NaturalVars.insert he hc name
  · exact he

theorem Natural.bindLocal (he : e.Natural) (name : String) {v : Variable} (hv : v.Natural) :
    (e.bindLocal name v).2.Natural ∧ ∀ c ∈ (e.bindLocal name v).1, c.var.Natural :=
  ⟨NaturalVars.insert he (c := ⟨e.fresh, v⟩) hv name, he name⟩

theorem Natural.restore (he : e.Natural) (name : String) {prev : Option Cell}
    (hprev : ∀ c ∈ prev, c.var.Natural) : (e.restore name prev).Natural := by
  cases prev with
  | none => exact NaturalVars.erase he name
  | some c => exact NaturalVars.insert he (hprev c rfl) name

theorem Natural.temporary (he : e.Natural) (d : Nat) {v : Variable} (hv : v.Natural) :
    (e.temporary d v).2.Natural ∧ (e.temporary d v).1.var.Natural :=
  ⟨NaturalVars.insert he (c := ⟨e.fresh, v.inFrame d⟩) hv _, hv⟩

theorem Natural.pushFrame (he : e.Natural) : e.pushFrame.Natural := he

theorem Natural.defineFunction (he : e.Natural) (name : String) (params : List String)
    (body : List Node) : (e.defineFunction name params body).Natural :=
  he

theorem Natural.releaseSince (he : e.Natural) (mark : Nat) (keep : Option Nat) :
    (e.releaseSince mark keep).1.Natural := by
  unfold Env.releaseSince
  dsimp only
  split
  · exact he
  · exact NaturalVars.release he _ _

theorem Natural.popFrame (he : e.Natural) (keep : Option Nat) : (e.popFrame keep).1.Natural := by
  unfold Env.popFrame
  split
  · exact he
  · show NaturalVars (Env.setArena _ _).vars
    rw [vars_setArena]
    exact NaturalVars.release he _ _

theorem Natural.bindAll (d : Nat) {pairs : List (String × Cell)}
    (hargs : ∀ p ∈ pairs, p.2.var.Natural) :
    ∀ {e : Env} {shadowed : List (String × Option Cell)}, e.Natural →
      (∀ p ∈ shadowed, ∀ c ∈ p.2, c.var.Natural) →
      (bindAll d e pairs shadowed).2.Natural ∧
        ∀ p ∈ (bindAll d e pairs shadowed).1, ∀ c ∈ p.2, c.var.Natural := by
  induction pairs with
  | nil => exact fun he hsh ↦ ⟨he, hsh⟩
  | cons pa rest ih =>
    obtain ⟨p, a⟩ := pa
    intro e shadowed he hsh
    obtain ⟨he', hprev⟩ := he.bindLocal p (v := a.var.inFrame d) (hargs (p, a) (by simp))
    refine ih (fun q hq ↦ hargs q (List.mem_cons_of_mem _ hq)) he' fun q hq ↦ ?_
    rcases List.mem_cons.1 hq with rfl | hq
    · exact hprev
    · exact hsh q hq

theorem Natural.restoreAll {shadowed : List (String × Option Cell)}
    (hsh : ∀ p ∈ shadowed, ∀ c ∈ p.2, c.var.Natural) : ∀ {e : Env}, e.Natural →
    (restoreAll e shadowed).Natural := by
  induction shadowed with
  | nil => exact fun he ↦ he
  | cons pp rest ih =>
    obtain ⟨p, prev⟩ := pp
    intro e he
    exact ih (fun q hq ↦ hsh q (List.mem_cons_of_mem _ hq)) (he.restore p (hsh (p, prev) (by simp)))

end Natural

end Env

theorem readInt64?_nonneg {s : String} (hs : s.toList.head? ≠ some '-') {n : Int64}
    (h : readInt64? s = some n) : 0 ≤ n.toInt := by
  have hsign : ∀ rest, s.toList ≠ '-' :: rest := fun rest hr ↦ hs (by rw [hr]; rfl)
  unfold readInt64? at h
  split at h
  rename_i negative digits hpair
  -- with no minus sign in front the numeral is read as positive
  have hneg : negative = false := by
    split at hpair
    · rename_i rest hr
      exact absurd hr (hsign rest)
    all_goals
      cases hpair
      rfl
  subst hneg
  split at h
  · cases h
  · rename_i v _
    simp only [Bool.false_eq_true, ↓reduceIte] at h
    split at h
    · rename_i hfits
      cases h
      have hv : (v : Int) < 9223372036854775808 := by
        simp only [fitsInt64, Bool.and_eq_true, decide_eq_true_eq] at hfits
        exact hfits.2
      rw [Builtin.toInt_ofInt_natural (Int.natCast_nonneg v) (by omega)]
      exact Int.natCast_nonneg v
    · cases h

namespace Exec

variable {α β : Type} {P : α → Prop} {Q : β → Prop}

/-- Under the arena store, a step from a machine whose variables are all natural ends on such a
machine, and answers, when it answers, what `P` says. -/
def KeepsNatural (P : α → Prop) (x : Exec α) : Prop :=
  ∀ cfg m, cfg.store = .arenas → m.env.Natural →
    (x.execute cfg m).2.env.Natural ∧ ∀ a, (x.execute cfg m).1 = .ok a → P a

namespace KeepsNatural

theorem mono {x : Exec α} (hx : KeepsNatural P x) {P' : α → Prop} (h : ∀ a, P a → P' a) :
    KeepsNatural P' x :=
  fun cfg m hs he ↦ ⟨(hx cfg m hs he).1, fun a ha ↦ h a ((hx cfg m hs he).2 a ha)⟩

theorem bind {x : Exec α} {f : α → Exec β} (hx : KeepsNatural P x)
    (hf : ∀ a, P a → KeepsNatural Q (f a)) : KeepsNatural Q (x >>= f) := by
  intro cfg m hs he
  obtain ⟨he', hP⟩ := hx cfg m hs he
  rw [execute_bind]
  rcases h : x.execute cfg m with ⟨_ | a, m'⟩
  · rw [h] at he'
    exact ⟨he', fun _ ha ↦ by cases ha⟩
  · rw [h] at he' hP
    exact hf a (hP a rfl) cfg m' hs he'

theorem pure {a : α} (h : P a) : KeepsNatural P (Pure.pure a : Exec α) :=
  fun _ _ _ he ↦ ⟨he, fun _ ha ↦ by cases ha; exact h⟩

theorem of_env {x : Exec α} (h : ∀ cfg m, (x.execute cfg m).2.env = m.env) :
    KeepsNatural (fun _ ↦ True) x :=
  fun cfg m _ he ↦ ⟨(h cfg m).symm ▸ he, fun _ _ ↦ trivial⟩

theorem throw (f : Fault) : KeepsNatural P (MonadExcept.throw f : Exec α) :=
  fun _ _ _ he ↦ ⟨he, fun _ ha ↦ by cases ha⟩

theorem fail (e : EvalError) : KeepsNatural P (Exec.fail e : Exec α) := throw _

theorem read : KeepsNatural (fun _ ↦ True) (MonadReader.read : Exec Config) :=
  of_env fun _ _ ↦ rfl

theorem depth : KeepsNatural (fun _ ↦ True) Exec.depth := of_env fun _ _ ↦ rfl

theorem emit (ev : Event) : KeepsNatural (fun _ ↦ True) (Exec.emit ev) :=
  of_env fun _ _ ↦ by rw [execute_emit]

theorem printLine (text : String) (span : Span) :
    KeepsNatural (fun _ ↦ True) (Exec.printLine text span) := by
  refine read.bind fun c _ ↦ ?_
  split
  · exact fail _
  · exact of_env fun _ _ ↦ rfl

theorem env_bind {f : Env → Exec α} (hf : ∀ e : Env, e.Natural → KeepsNatural P (f e)) :
    KeepsNatural P (Exec.env >>= f) := by
  intro cfg m hs he
  rw [execute_bind_ok execute_env]
  exact hf m.env he cfg m hs he

theorem modifyEnv {f : Env → Env} (hf : ∀ e : Env, e.Natural → (f e).Natural) :
    KeepsNatural (fun _ ↦ True) (Exec.modifyEnv f) :=
  fun _ m _ he ↦ ⟨hf m.env he, fun _ _ ↦ trivial⟩

theorem temporary {v : Variable} (hv : v.Natural) :
    KeepsNatural (fun c ↦ c.var.Natural) (Exec.temporary v) := by
  intro cfg m hs he
  rw [execute_temporary, hs]
  obtain ⟨he', hc⟩ := he.temporary cfg.depth hv
  exact ⟨he', fun c h ↦ by cases h; exact hc⟩

theorem releaseSince (mark : Nat) (keep : Option Cell) :
    KeepsNatural (fun _ ↦ True) (Exec.releaseSince mark keep) := by
  intro cfg m hs he
  obtain ⟨evs, h⟩ := execute_releaseSince cfg m mark keep
  rw [h, hs]
  exact ⟨he.releaseSince _ _, fun _ _ ↦ trivial⟩

end KeepsNatural

def NaturalAnswer (r : Option Cell) : Prop := ∀ c ∈ r, c.var.Natural

@[simp] theorem naturalAnswer_none : NaturalAnswer none := fun _ h ↦ by cases h

@[simp] theorem naturalAnswer_some {c : Cell} : NaturalAnswer (some c) ↔ c.var.Natural :=
  ⟨fun h ↦ h c rfl, fun h _ hc ↦ by cases hc; exact h⟩

def EvaluatesNatural (ev : Node → Exec (Option Cell)) : Prop :=
  ∀ n, KeepsNatural NaturalAnswer (ev n)

namespace KeepsNatural

variable {ev : Node → Exec (Option Cell)}

theorem inFrame {A : Option Cell → Prop} {body : Exec (Option Cell)} (hb : KeepsNatural A body) :
    KeepsNatural A (Exec.inFrame body) := by
  intro cfg m hs he
  obtain ⟨evs₀, evs, h⟩ := execute_inFrame cfg m body
  obtain ⟨hbody, hanswer⟩ := hb { cfg with depth := cfg.depth + 1 }
    { m with env := m.env.pushFrame, events := evs₀ } hs he.pushFrame
  rw [h]
  generalize body.execute { cfg with depth := cfg.depth + 1 }
    { m with env := m.env.pushFrame, events := evs₀ } = res at hbody hanswer ⊢
  rw [hs]
  exact ⟨hbody.popFrame _, hanswer⟩

theorem natural_of_digits {text : String} {ch : Char} (hhead : text.toList.head? = some ch)
    (hd : ch.isDigit = true) {n : Int64} (hn : readInt64? (String.ofList text.toList.dropLast) = some n)
    (k : Kind) : Variable.Natural ⟨k, .int n, 0⟩ := by
  have hsign : (String.ofList text.toList.dropLast).toList.head? ≠ some '-' := by
    rw [String.toList_ofList, List.head?_dropLast]
    split
    · intro h
      rw [hhead] at h
      cases h
      exact absurd hd (by decide)
    · simp
  refine Variable.natural_of_nonneg fun m hm ↦ ?_
  cases hm
  exact readInt64?_nonneg hsign hn

def walk : Walk where
  R c _ A x _ := c → KeepsNatural A x
  σ := id
  Ok _ := True
  Sp _ := True
  Avar := Variable.Natural
  E := Eq
  EnvOk := Env.Natural
  Adm g := g = id

theorem rules : walk.Rules where
  mono hc hA hx h := (hx (hc h)).mono hA
  rewrite _ hx := hx
  bind hx hf hc := (hx hc).bind fun a ha ↦ hf a ha hc
  pure ha _ := pure ha
  fail _ _ := fail _
  emit ev _ := emit ev
  depth _ := depth
  env hf hc := env_bind fun e he ↦ hf e e rfl ⟨hc, he⟩
  temporary hv _ := temporary hv
  found hl hc := pure (hc.2.lookup hl)
  releaseTop _ := releaseSince _ _
  releaseMark he _ := by
    cases he
    exact fun _ ↦ releaseSince _ _
  printLine text := fun _ _ ↦ printLine text _
  define _ := fun _ _ ↦ modifyEnv fun _ he ↦ he.defineFunction _ _ _
  declared k _ _ := modifyEnv fun _ he ↦ he.declare _ (Variable.natural_declared k)
  rebind _ hcl _ := modifyEnv fun _ he ↦ he.rebind _ hcl
  contains he _ := by rw [he]
  lookup he _ := by rw [he]
  callable name he := ⟨id, rfl, by cases he; cases _ : Env.callable? _ name <;> simp⟩
  inFrame hb hc := inFrame (hb hc)
  literal _ _ h := by cases h
  digits hhead hd hn := natural_of_digits hhead hd hn _
  builtin hargs hb := Builtin.apply_natural (fun w hw ↦ by
    obtain ⟨c, hc, rfl⟩ := List.mem_map.1 hw
    exact hargs c hc) hb
  span _ := True.intro
  list _ := ⟨True.intro, fun _ _ ↦ True.intro⟩

theorem sequence (hev : EvaluatesNatural ev) (body : List Node) :
    KeepsNatural NaturalAnswer (Exec.sequence ev body) :=
  rules.sequence (fun n _ ↦ hev n) body fun _ _ ↦ True.intro

theorem arguments (hev : EvaluatesNatural ev) (name : String) (position : Nat)
    (operands : List Node) :
    KeepsNatural (fun cs ↦ ∀ c ∈ cs, c.var.Natural) (Exec.arguments ev name position operands) :=
  rules.arguments (fun n _ ↦ hev n) name position operands fun _ _ ↦ True.intro

theorem callUser (hev : EvaluatesNatural ev) (name : String) (params : List String)
    (body : List Node) {args : List Cell} (hargs : ∀ c ∈ args, c.var.Natural) (span : Span) :
    KeepsNatural NaturalAnswer (Exec.callUser ev name params body args span) := by
  intro cfg m hs he
  rw [execute_callUser]
  split_ifs with harity hlimit
  · exact ⟨he, fun _ h ↦ by cases h⟩
  · exact ⟨he, fun _ h ↦ by cases h⟩
  · dsimp only
    obtain ⟨hbound, hshadowed⟩ := Env.Natural.bindAll cfg.depth
      (fun p hp ↦ hargs p.2 (List.of_mem_zip hp).2) he
      ((fun _ h ↦ by cases h) : ∀ p ∈ ([] : List (String × Option Cell)), ∀ c ∈ p.2, c.var.Natural)
    obtain ⟨hbody, hanswer⟩ := sequence hev body cfg
      { m with env := (Env.bindAll cfg.depth m.env (params.zip args) []).2, calls := m.calls + 1 }
      hs hbound
    exact ⟨Env.Natural.restoreAll hshadowed hbody, hanswer⟩

theorem calls (hev : EvaluatesNatural ev) : walk.Calls ev :=
  fun name span _ params body _ _ _ _ hargs _ ↦ callUser hev name params body hargs span

theorem eval (n : Nat) : EvaluatesNatural (Exec.eval n) := fun node ↦
  rules.eval (fun _ hev ↦ calls fun n ↦ hev n True.intro) (fun _ ↦ throw _) n node True.intro

theorem program (fuel : Nat) (prog : List Node) :
    KeepsNatural NaturalAnswer (Exec.program fuel prog) :=
  rules.program (fun n _ ↦ eval fuel n) prog fun _ _ ↦ True.intro

end KeepsNatural

theorem call_add_exact {ev : Node → Exec (Option Cell)} {operands : List Node} {span : Span}
    {cfg : Config} {m m₁ : Machine} {cs : List Cell} (hs : cfg.store = .arenas)
    (hadd : m.env.callable? "add" = some (.builtin .add))
    (hargs : (arguments ev "add" 1 operands).execute cfg m = (.ok cs, m₁)) (hne : cs ≠ [])
    (hint : ∀ c ∈ cs, c.var.Natural ∧ c.var.kind.isNumeric ∧ ∃ n, c.var.payload = .int n) :
    ((call ev "add" operands span).execute cfg m).1 =
      if intSum (cs.map (·.var)) ≤ 9223372036854775807 then
        .ok (some ⟨m₁.env.fresh,
          ⟨.word, .int (Int64.ofInt (intSum (cs.map (·.var)))), cfg.depth⟩⟩)
      else .error (.error (.overflow "add" span)) := by
  have hvars : ∀ v ∈ cs.map (·.var), v.Natural ∧ v.kind.isNumeric ∧ ∃ n, v.payload = .int n := by
    intro v hv
    obtain ⟨c, hc, rfl⟩ := List.mem_map.1 hv
    exact hint c hc
  have happly := Builtin.sumFrom_exact span _ 0 1 le_rfl hvars
  rw [Int64.toInt_zero, Int.zero_add] at happly
  unfold call
  rw [execute_bind_ok execute_env]
  simp only [hadd]
  rw [execute_bind_ok hargs, execute_bind_ok execute_depth, execute_bind_ok (execute_emit _)]
  simp only [Builtin.apply, List.isEmpty_iff, List.map_eq_nil_iff, hne, if_false, happly]
  by_cases hsum : intSum (cs.map (·.var)) ≤ 9223372036854775807
  · simp only [if_pos hsum, bind, Except.bind]
    rw [execute_map, execute_temporary, hs]
    rfl
  · simp only [if_neg hsum, bind, Except.bind]
    rfl

end Exec

theorem Env.natural_initial : Env.initial.Natural := fun k c h ↦ by
  simp [Env.initial] at h

namespace Interpreter

theorem run_natural {it : Interpreter} (hs : it.store = .arenas) (he : it.env.Natural)
    (src : String) :
    (it.run src).2.env.Natural ∧ ∀ c, (it.run src).1.result = .ok (some c) → c.var.Natural := by
  unfold Interpreter.run
  split
  · exact ⟨he, fun _ h ↦ by cases h⟩
  · rename_i prog _
    obtain ⟨he', hanswer⟩ := Exec.KeepsNatural.program fuel prog it.config it.machine hs he
    refine ⟨by rw [runProgram_snd]; exact he', fun c hc ↦ ?_⟩
    rw [runProgram_result] at hc
    rcases h : ((Exec.program fuel prog).execute it.config it.machine).1 with f | r
    · rw [h] at hc
      cases hc
    · rw [h] at hc
      cases hc
      exact hanswer _ h c rfl

theorem Reachable.natural {it : Interpreter} (h : it.Reachable) : it.env.Natural := by
  induction h with
  | new => exact Env.natural_initial
  | configure _ _ _ _ hn => exact hn
  | run src hit hn => exact (run_natural hit.idle.store hn src).1

end Interpreter

/-- No reachable integer is negative, so `add` is exact. Every interpreter that runs reach binds
only variables whose integers lie in `0 ≤ n ≤ 2^63 - 1`, and every run answers such a variable;
every evaluation from such variables, with parameters bound and temporaries made along the way,
ends on such variables and answers one. So `add`, on initialized integer arguments evaluated
from such variables, answers a new word holding their exact sum, or overflows, and overflows
exactly when that sum passes `2^63 - 1`, although it checks each partial sum. -/
theorem integers_natural_and_add_exact :
    (∀ it : Interpreter, it.Reachable →
      it.env.Natural ∧ ∀ src c, (it.run src).1.result = .ok (some c) → c.var.Natural) ∧
    (∀ fuel node (cfg : Config) (m : Machine), cfg.store = .arenas → m.env.Natural →
      ((Exec.eval fuel node).execute cfg m).2.env.Natural ∧
        ∀ c, ((Exec.eval fuel node).execute cfg m).1 = .ok (some c) → c.var.Natural) ∧
    ∀ fuel operands span (cfg : Config) (m m₁ : Machine) (cs : List Cell),
      cfg.store = .arenas → m.env.Natural → m.env.callable? "add" = some (.builtin .add) →
      (Exec.arguments (Exec.eval fuel) "add" 1 operands).execute cfg m = (.ok cs, m₁) →
      cs ≠ [] → (∀ c ∈ cs, c.var.kind.isNumeric ∧ ∃ n, c.var.payload = .int n) →
      ((Exec.call (Exec.eval fuel) "add" operands span).execute cfg m).1 =
        if intSum (cs.map (·.var)) ≤ 9223372036854775807 then
          .ok (some ⟨m₁.env.fresh,
            ⟨.word, .int (Int64.ofInt (intSum (cs.map (·.var)))), cfg.depth⟩⟩)
        else .error (.error (.overflow "add" span)) := by
  refine ⟨fun it hit ↦ ⟨hit.natural, fun src c hc ↦ ?_⟩, fun fuel node cfg m hs he ↦ ?_,
    fun fuel operands span cfg m m₁ cs hs he hadd hargs hne hint ↦ ?_⟩
  · exact (Interpreter.run_natural hit.idle.store hit.natural src).2 c hc
  · obtain ⟨he', hanswer⟩ := Exec.KeepsNatural.eval fuel node cfg m hs he
    exact ⟨he', fun c hc ↦ hanswer _ hc c rfl⟩
  · -- the arguments were evaluated from natural variables, so they are natural
    have hnat := (Exec.KeepsNatural.arguments (Exec.KeepsNatural.eval fuel) "add" 1 operands
      cfg m hs he).2 cs (by rw [hargs])
    exact Exec.call_add_exact hs hadd hargs hne fun c hc ↦ ⟨hnat c hc, hint c hc⟩

theorem add_two_three_exact :
    Interpreter.Reachable {} ∧
      ((Exec.call (Exec.eval 1) "add" [.atom "2w" ⟨5, 7⟩, .atom "3w" ⟨8, 10⟩] ⟨0, 11⟩).execute
        {} {}).1 = .ok (some ⟨2, ⟨.word, .int 5, 0⟩⟩) := by
  have hit : Interpreter.Reachable {} := .new 10000 {} false
  have hnat : ({} : Interpreter).env.Natural := (integers_natural_and_add_exact.1 {} hit).1
  obtain ⟨m₁, hargs⟩ : ∃ m₁, (Exec.arguments (Exec.eval 1) "add" 1
      [.atom "2w" ⟨5, 7⟩, .atom "3w" ⟨8, 10⟩]).execute {} {} =
      (.ok [⟨0, ⟨.word, .int 2, 0⟩⟩, ⟨1, ⟨.word, .int 3, 0⟩⟩], m₁) := ⟨_, rfl⟩
  have hfresh : m₁.env.fresh = 2 := by
    have h : m₁ = ((Exec.arguments (Exec.eval 1) "add" 1
        [.atom "2w" ⟨5, 7⟩, .atom "3w" ⟨8, 10⟩]).execute {} {}).2 := by rw [hargs]
    rw [h]
    rfl
  refine ⟨hit, ?_⟩
  rw [integers_natural_and_add_exact.2.2 1 _ _ {} {} m₁ _ rfl hnat rfl hargs
    (List.cons_ne_nil _ _) (by simp [Kind.isNumeric]), hfresh]
  rfl

end WordLang

import Mathlib.Data.Set.Card
import Std.Data.TreeMap.Lemmas
import WordLang.Proofs.Keys

namespace WordLang

namespace Env

def arenas (e : Env) : List (List String) := e.frames ++ [e.top]

def outer (e : Env) : List (List String) := e.arenas.tail

def held (e : Env) : List String := e.arenas.flatten

theorem arenas_eq (e : Env) : e.arenas = e.arena :: e.outer := by
  rcases e with ⟨vars, funcs, top, _ | ⟨a, rest⟩, made, fresh⟩ <;> rfl

theorem held_eq (e : Env) : e.held = e.arena ++ e.outer.flatten := by
  rw [held, arenas_eq, List.flatten_cons]

@[simp] theorem arena_setArena (e : Env) (a : List String) : (e.setArena a).arena = a := by
  cases h : e.frames <;> simp [setArena, arena, h]

@[simp] theorem outer_setArena (e : Env) (a : List String) : (e.setArena a).outer = e.outer := by
  cases h : e.frames <;> simp [setArena, outer, arenas, h]

theorem held_setArena (e : Env) (a : List String) : (e.setArena a).held = a ++ e.outer.flatten := by
  rw [held_eq, arena_setArena, outer_setArena]

@[simp] theorem vars_setArena (e : Env) (a : List String) : (e.setArena a).vars = e.vars := by
  cases h : e.frames <;> simp [setArena, h]

@[simp] theorem made_setArena (e : Env) (a : List String) : (e.setArena a).made = e.made := by
  cases h : e.frames <;> simp [setArena, h]

@[simp] theorem fresh_setArena (e : Env) (a : List String) : (e.setArena a).fresh = e.fresh := by
  cases h : e.frames <;> simp [setArena, h]

@[simp] theorem funcs_setArena (e : Env) (a : List String) : (e.setArena a).funcs = e.funcs := by
  cases h : e.frames <;> simp [setArena, h]

@[simp] theorem frames_length_setArena (e : Env) (a : List String) :
    (e.setArena a).frames.length = e.frames.length := by
  cases h : e.frames <;> simp [setArena, h]

theorem temporaryCount_eq (e : Env) : e.temporaryCount = e.held.length := by
  have step : ∀ (fs : List (List String)) (n : Nat),
      fs.foldl (fun n f => n + f.length) n = n + (fs.map List.length).sum := by
    intro fs
    induction fs with
    | nil => simp
    | cons f fs ih => intro n; simp [ih]; omega
  simp [temporaryCount, held, arenas, step, List.length_flatten, Nat.add_comm]

section Release

variable {vars : Std.TreeMap String Cell} {keep : Option Nat}

theorem escapes_erase {k : String} (h : escapes vars keep k = false) (k' : String) :
    escapes (vars.erase k) keep k' = escapes vars keep k' := by
  by_cases hk : k = k'
  · subst hk
    rw [h]
    cases keep <;> simp [escapes]
  · simp [escapes, Std.TreeMap.getElem?_erase, hk]

theorem escapes_lookup {k : String} (h : escapes vars keep k = true) :
    ∃ c, vars[k]? = some c ∧ keep = some c.id := by
  cases keep with
  | none => simp [escapes] at h
  | some id =>
    cases hc : vars[k]? with
    | none => simp [escapes, hc] at h
    | some c =>
      simp only [escapes, hc, beq_iff_eq] at h
      exact ⟨c, rfl, by rw [h]⟩

theorem release_kept (keys : List String) :
    (release vars keep keys).2 = keys.filter (escapes vars keep) := by
  induction keys generalizing vars with
  | nil => rfl
  | cons k keys ih =>
    by_cases hk : escapes vars keep k = true
    · simp [release, hk, ih]
    · have hk' : escapes vars keep k = false := by simpa using hk
      simp only [release, hk', Bool.false_eq_true, ↓reduceIte, ih, List.filter_cons]
      rw [show escapes (vars.erase k) keep = escapes vars keep from funext (escapes_erase hk')]

theorem release_lookup (keys : List String) (k : String) :
    (release vars keep keys).1[k]? =
      if k ∈ keys ∧ escapes vars keep k = false then none else vars[k]? := by
  induction keys generalizing vars with
  | nil => simp [release]
  | cons k₀ keys ih =>
    by_cases h₀ : escapes vars keep k₀ = true
    · simp only [release, h₀, ↓reduceIte, ih, List.mem_cons]
      by_cases hk : k = k₀
      · subst hk; simp [h₀]
      · simp [hk]
    · have h₀' : escapes vars keep k₀ = false := by simpa using h₀
      simp only [release, h₀', Bool.false_eq_true, ↓reduceIte, ih, escapes_erase h₀',
        List.mem_cons]
      by_cases hk : k = k₀
      · subst hk; simp [h₀']
      · simp [Std.TreeMap.getElem?_erase, Ne.symm hk, hk]

theorem release_lookup_of_not_mem {keys : List String} {k : String} (h : k ∉ keys) :
    (release vars keep keys).1[k]? = vars[k]? := by
  simp [release_lookup, h]

end Release

/-- The representation invariant of an environment. -/
structure Inv (e : Env) : Prop where
  nodup : e.held.Nodup
  generated : ∀ k ∈ e.held, ∃ n, 1 ≤ n ∧ n ≤ e.made ∧ k = tempKey n
  bound : ∀ n, tempKey n ∈ e.vars ↔ tempKey n ∈ e.held
  distinct : ∀ k₁ ∈ e.held, ∀ k₂ ∈ e.held, ∀ c₁ c₂, e.vars[k₁]? = some c₁ →
    e.vars[k₂]? = some c₂ → c₁.id = c₂.id → k₁ = k₂
  fresh : ∀ k ∈ e.held, ∀ c, e.vars[k]? = some c → c.id < e.fresh

theorem Inv.not_held_of_plain {e : Env} (hi : e.Inv) {name : String} (hp : Plain name) :
    name ∉ e.held := fun h ↦ by
  obtain ⟨n, -, -, rfl⟩ := hi.generated name h
  exact hp n rfl

theorem Inv.lookup_of_held {e : Env} (hi : e.Inv) {k : String} (hk : k ∈ e.held) :
    ∃ c, e.vars[k]? = some c := by
  obtain ⟨n, -, -, rfl⟩ := hi.generated k hk
  have hm := (hi.bound n).2 hk
  exact Option.isSome_iff_exists.1 (Std.TreeMap.mem_iff_isSome_getElem?.1 hm)

theorem Inv.of_temporaries {e e' : Env} (hi : e.Inv) (hheld : e'.held = e.held)
    (hmade : e'.made = e.made) (hfresh : e.fresh ≤ e'.fresh)
    (hvars : ∀ n, e'.vars[tempKey n]? = e.vars[tempKey n]?) : e'.Inv := by
  have hk : ∀ k ∈ e.held, e'.vars[k]? = e.vars[k]? := fun k h ↦ by
    obtain ⟨n, -, -, rfl⟩ := hi.generated k h
    exact hvars n
  refine ⟨hheld ▸ hi.nodup, ?_, ?_, ?_, ?_⟩
  · intro k h
    rw [hheld] at h
    simpa [hmade] using hi.generated k h
  · intro n
    rw [hheld, Std.TreeMap.mem_iff_isSome_getElem?, hvars, ← Std.TreeMap.mem_iff_isSome_getElem?]
    exact hi.bound n
  · intro k₁ h₁ k₂ h₂ c₁ c₂ hc₁ hc₂ hid
    rw [hheld] at h₁ h₂
    rw [hk k₁ h₁] at hc₁
    rw [hk k₂ h₂] at hc₂
    exact hi.distinct k₁ h₁ k₂ h₂ c₁ c₂ hc₁ hc₂ hid
  · intro k h c hc
    rw [hheld] at h
    rw [hk k h] at hc
    exact Nat.lt_of_lt_of_le (hi.fresh k h c hc) hfresh

theorem Inv.release {e e' : Env} (hi : e.Inv) {keys kept : List String} {keep : Option Nat}
    {vars' : Std.TreeMap String Cell} (hr : Env.release e.vars keep keys = (vars', kept))
    (rest : List String) (hheld : e.held.Perm (keys ++ rest)) (hheld' : e'.held.Perm (kept ++ rest))
    (hvars : e'.vars = vars') (hmade : e'.made = e.made) (hfresh : e'.fresh = e.fresh) :
    e'.Inv := by
  have hkept : kept = keys.filter (escapes e.vars keep) := by rw [← release_kept, hr]
  have hvars' : e'.vars = (Env.release e.vars keep keys).1 := by rw [hr, hvars]
  subst hkept
  have hnd : (keys ++ rest).Nodup := hheld.nodup_iff.1 hi.nodup
  have hsub : ∀ k ∈ e'.held, k ∈ e.held := fun k hk ↦ by
    rw [hheld.mem_iff]
    rcases List.mem_append.1 (hheld'.mem_iff.1 hk) with hk | hk
    · exact List.mem_append_left _ (List.mem_of_mem_filter hk)
    · exact List.mem_append_right _ hk
  -- a key still held was kept, or was never released
  have hlook : ∀ k ∈ e'.held, e'.vars[k]? = e.vars[k]? := fun k hk ↦ by
    rw [hvars', release_lookup, if_neg]
    rintro ⟨hin, hesc⟩
    rcases List.mem_append.1 (hheld'.mem_iff.1 hk) with hk | hk
    · rw [(List.mem_filter.1 hk).2] at hesc
      cases hesc
    · exact List.disjoint_of_nodup_append hnd hin hk
  refine ⟨?_, ?_, ?_, ?_, ?_⟩
  · exact hheld'.nodup_iff.2 (hnd.sublist (List.filter_sublist.append_right rest))
  · intro k hk
    simpa [hmade] using hi.generated k (hsub k hk)
  · intro n
    constructor
    · intro hm
      have hs := Std.TreeMap.mem_iff_isSome_getElem?.1 hm
      rw [hvars', release_lookup] at hs
      split at hs
      · cases hs
      · rename_i hcond
        have hk := (hi.bound n).1 (Std.TreeMap.mem_iff_isSome_getElem?.2 hs)
        rw [hheld'.mem_iff]
        rcases List.mem_append.1 (hheld.mem_iff.1 hk) with hk | hk
        · have hesc : escapes e.vars keep (tempKey n) = true := by
            simpa [hk] using hcond
          exact List.mem_append_left _ (List.mem_filter.2 ⟨hk, hesc⟩)
        · exact List.mem_append_right _ hk
    · intro hk
      rw [Std.TreeMap.mem_iff_isSome_getElem?, hlook _ hk, ← Std.TreeMap.mem_iff_isSome_getElem?]
      exact (hi.bound n).2 (hsub _ hk)
  · intro k₁ h₁ k₂ h₂ c₁ c₂ hc₁ hc₂ hid
    rw [hlook k₁ h₁] at hc₁
    rw [hlook k₂ h₂] at hc₂
    exact hi.distinct k₁ (hsub k₁ h₁) k₂ (hsub k₂ h₂) c₁ c₂ hc₁ hc₂ hid
  · intro k hk c hc
    rw [hlook k hk] at hc
    exact hfresh ▸ hi.fresh k (hsub k hk) c hc

theorem held_pop {e : Env} {a : List String} {rest : List (List String)}
    (h : e.frames = a :: rest) (vars : Std.TreeMap String Cell) :
    e.held = a ++ ({ e with vars := vars, frames := rest } : Env).held := by
  simp [held, arenas, h]

theorem Inv.popFrame {e : Env} (hi : e.Inv) (keep : Option Nat) : (e.popFrame keep).1.Inv := by
  unfold Env.popFrame
  split
  · exact hi
  · rename_i a rest h
    rcases hr : Env.release e.vars keep a with ⟨vars', kept⟩
    refine hi.release hr ({ e with vars := vars', frames := rest } : Env).held
      (by rw [held_pop h vars']) ?_ (by simp) (by simp) (by simp)
    rw [held_setArena, held_eq]
    exact List.perm_iff_count.2 fun x ↦ by simp [List.count_append]; omega

theorem Inv.releaseSince {e : Env} (hi : e.Inv) (mark : Nat) (keep : Option Nat) :
    (e.releaseSince mark keep).1.Inv := by
  unfold Env.releaseSince
  dsimp only
  split
  · exact hi
  · rcases hr : Env.release e.vars keep (e.arena.drop mark) with ⟨vars', kept⟩
    refine hi.release hr (e.arena.take mark ++ e.outer.flatten) ?_ ?_ rfl
      (by simp) (by simp)
    · rw [held_eq]
      refine List.perm_iff_count.2 fun x ↦ ?_
      have hc : e.arena.count x = (e.arena.take mark).count x + (e.arena.drop mark).count x := by
        rw [← List.count_append, List.take_append_drop]
      simp [List.count_append]; omega
    · have hh : ({ e.setArena (e.arena.take mark ++ kept) with vars := vars' } : Env).held =
          (e.setArena (e.arena.take mark ++ kept)).held := rfl
      rw [hh, held_setArena]
      exact List.perm_iff_count.2 fun x ↦ by simp [List.count_append]; omega

theorem Inv.not_held_next {e : Env} (hi : e.Inv) : tempKey (e.made + 1) ∉ e.held := fun h ↦ by
  obtain ⟨n, -, hn, he⟩ := hi.generated _ h
  rw [tempKey_inj] at he
  omega

theorem Inv.temporary {e : Env} (hi : e.Inv) (d : Nat) (v : Variable) :
    (e.temporary d v).2.Inv := by
  set K := tempKey (e.made + 1) with hK
  have hnew : K ∉ e.held := hi.not_held_next
  have hheld : (e.temporary d v).2.held.Perm (K :: e.held) := by
    have hh : (e.temporary d v).2.held = (e.setArena (e.arena ++ [K])).held := rfl
    rw [hh, held_setArena, held_eq]
    exact List.perm_iff_count.2 fun x ↦ by simp [List.count_append, List.count_cons]; omega
  have hvars : (e.temporary d v).2.vars = e.vars.insert K ⟨e.fresh, v.inFrame d⟩ := rfl
  have hmade : (e.temporary d v).2.made = e.made + 1 := rfl
  have hfresh : (e.temporary d v).2.fresh = e.fresh + 1 := rfl
  -- lookups of keys held before are unchanged, and the new key has the new cell
  have hold : ∀ k ∈ e.held, (e.temporary d v).2.vars[k]? = e.vars[k]? := fun k hk ↦ by
    rw [hvars, Std.TreeMap.getElem?_insert, if_neg]
    simpa using fun h : K = k ↦ hnew (h ▸ hk)
  have hmem : ∀ k, k ∈ (e.temporary d v).2.held ↔ k = K ∨ k ∈ e.held := fun k ↦ by
    rw [hheld.mem_iff, List.mem_cons]
  refine ⟨hheld.nodup_iff.2 (List.nodup_cons.2 ⟨hnew, hi.nodup⟩), ?_, ?_, ?_, ?_⟩
  · intro k hk
    rcases (hmem k).1 hk with rfl | hk
    · exact ⟨e.made + 1, by omega, by simp [hmade], rfl⟩
    · obtain ⟨n, h1, h2, rfl⟩ := hi.generated k hk
      exact ⟨n, h1, by simp [hmade]; omega, rfl⟩
  · intro n
    rw [hmem, hvars]
    simp only [Std.TreeMap.mem_insert, Std.LawfulEqCmp.compare_eq_iff_eq]
    rw [hi.bound n, eq_comm]
  · intro k₁ h₁ k₂ h₂ c₁ c₂ hc₁ hc₂ hid
    rcases (hmem k₁).1 h₁ with rfl | h₁ <;> rcases (hmem k₂).1 h₂ with rfl | h₂
    · rfl
    · rw [hold k₂ h₂] at hc₂
      rw [hvars, Std.TreeMap.getElem?_insert_self] at hc₁
      have := hi.fresh k₂ h₂ c₂ hc₂
      cases hc₁
      simp at hid
      omega
    · rw [hold k₁ h₁] at hc₁
      rw [hvars, Std.TreeMap.getElem?_insert_self] at hc₂
      have := hi.fresh k₁ h₁ c₁ hc₁
      cases hc₂
      simp at hid
      omega
    · rw [hold k₁ h₁] at hc₁
      rw [hold k₂ h₂] at hc₂
      exact hi.distinct k₁ h₁ k₂ h₂ c₁ c₂ hc₁ hc₂ hid
  · intro k hk c hc
    rw [hfresh]
    rcases (hmem k).1 hk with rfl | hk
    · rw [hvars, Std.TreeMap.getElem?_insert_self] at hc
      cases hc
      simp
    · rw [hold k hk] at hc
      have := hi.fresh k hk c hc
      omega

theorem Inv.pushFrame {e : Env} (hi : e.Inv) : e.pushFrame.Inv :=
  hi.of_temporaries (by simp [held, arenas, Env.pushFrame]) rfl le_rfl (fun _ ↦ rfl)

theorem lookup_insert_plain {vars : Std.TreeMap String Cell} {name : String} (hp : Plain name)
    (c : Cell) (n : Nat) : (vars.insert name c)[tempKey n]? = vars[tempKey n]? := by
  rw [Std.TreeMap.getElem?_insert, if_neg]
  simpa using hp n

theorem lookup_erase_plain {vars : Std.TreeMap String Cell} {name : String} (hp : Plain name)
    (n : Nat) : (vars.erase name)[tempKey n]? = vars[tempKey n]? := by
  rw [Std.TreeMap.getElem?_erase, if_neg]
  simpa using hp n

section Named

variable {e : Env} {name : String}

theorem Inv.declare (hi : e.Inv) (hp : Plain name) (v : Variable) : (e.declare name v).Inv :=
  hi.of_temporaries rfl rfl (Nat.le_succ _) (lookup_insert_plain hp _)

theorem Inv.rebind (hi : e.Inv) (hp : Plain name) (c : Cell) : (e.rebind name c).Inv := by
  unfold Env.rebind
  split
  · exact hi.of_temporaries rfl rfl le_rfl (lookup_insert_plain hp _)
  · exact hi

theorem Inv.bindLocal (hi : e.Inv) (hp : Plain name) (v : Variable) :
    (e.bindLocal name v).2.Inv :=
  hi.of_temporaries rfl rfl (Nat.le_succ _) (lookup_insert_plain hp _)

theorem Inv.restore (hi : e.Inv) (hp : Plain name) (prev : Option Cell) :
    (e.restore name prev).Inv := by
  cases prev with
  | some c => exact hi.of_temporaries rfl rfl le_rfl (lookup_insert_plain hp _)
  | none => exact hi.of_temporaries rfl rfl le_rfl (lookup_erase_plain hp)

theorem Inv.defineFunction (hi : e.Inv) (f : String) (params : List String) (body : List Node) :
    (e.defineFunction f params body).Inv :=
  hi.of_temporaries rfl rfl le_rfl (fun _ ↦ rfl)

theorem popFrame_lookup_of_not_held (h : name ∉ e.held) (keep : Option Nat) :
    (e.popFrame keep).1.vars[name]? = e.vars[name]? := by
  unfold Env.popFrame
  split
  · rfl
  · rename_i a rest hf
    have ha : name ∉ a := fun hm ↦ h (by rw [held_pop hf e.vars]; simp [hm])
    simpa using release_lookup_of_not_mem ha

theorem releaseSince_lookup_of_not_held (h : name ∉ e.held) (mark : Nat) (keep : Option Nat) :
    (e.releaseSince mark keep).1.vars[name]? = e.vars[name]? := by
  unfold Env.releaseSince
  dsimp only
  split
  · rfl
  · have ha : name ∉ e.arena.drop mark := fun hm ↦ h (by
      rw [held_eq]
      exact List.mem_append_left _ (List.mem_of_mem_drop hm))
    simpa using release_lookup_of_not_mem ha

theorem Inv.popFrame_lookup (hi : e.Inv) (hp : Plain name) (keep : Option Nat) :
    (e.popFrame keep).1.vars[name]? = e.vars[name]? :=
  popFrame_lookup_of_not_held (hi.not_held_of_plain hp) keep

theorem Inv.releaseSince_lookup (hi : e.Inv) (hp : Plain name) (mark : Nat) (keep : Option Nat) :
    (e.releaseSince mark keep).1.vars[name]? = e.vars[name]? :=
  releaseSince_lookup_of_not_held (hi.not_held_of_plain hp) mark keep

end Named

theorem Inv.temporaryCount_eq_ncard {e : Env} (hi : e.Inv) :
    e.temporaryCount = {k | k ∈ e.vars ∧ ∃ n, k = tempKey n}.ncard := by
  have hS : {k | k ∈ e.vars ∧ ∃ n, k = tempKey n} = ↑e.held.toFinset := by
    ext k
    simp only [Set.mem_ofPred_eq, List.coe_toFinset]
    constructor
    · rintro ⟨hm, n, rfl⟩
      exact (hi.bound n).1 hm
    · intro hk
      obtain ⟨n, -, -, rfl⟩ := hi.generated k hk
      exact ⟨(hi.bound n).2 hk, n, rfl⟩
  rw [hS, Set.ncard_coe_finset, List.toFinset_card_of_nodup hi.nodup, temporaryCount_eq]

theorem inv_of_empty {e : Env} (hv : e.vars = {}) (hf : e.frames = []) (ht : e.top = []) :
    e.Inv := by
  have hheld : e.held = [] := by simp [held, arenas, hf, ht]
  refine ⟨by simp [hheld], by simp [hheld], fun n ↦ ?_, by simp [hheld], by simp [hheld]⟩
  simp [hheld, hv]

inductive Op
  | temporary (d : Nat) (v : Variable)
  | pushFrame
  | popFrame (keep : Option Nat)
  | releaseSince (mark : Nat) (keep : Option Nat)
  | declare (name : String) (v : Variable)
  | rebind (name : String) (c : Cell)
  | bindLocal (name : String) (v : Variable)
  | restore (name : String) (prev : Option Cell)

namespace Op

def apply : Op → Env → Env
  | temporary d v, e => (e.temporary d v).2
  | pushFrame, e => e.pushFrame
  | popFrame keep, e => (e.popFrame keep).1
  | releaseSince mark keep, e => (e.releaseSince mark keep).1
  | declare name v, e => e.declare name v
  | rebind name c, e => e.rebind name c
  | bindLocal name v, e => (e.bindLocal name v).2
  | restore name prev, e => e.restore name prev

def name? : Op → Option String
  | declare name _ | rebind name _ | bindLocal name _ | restore name _ => some name
  | _ => none

end Op

theorem Inv.apply {e : Env} (hi : e.Inv) (op : Op)
    (hp : ∀ name, op.name? = some name → Plain name) : (op.apply e).Inv := by
  cases op with
  | temporary d v => exact hi.temporary d v
  | pushFrame => exact hi.pushFrame
  | popFrame keep => exact hi.popFrame keep
  | releaseSince mark keep => exact hi.releaseSince mark keep
  | declare name v => exact hi.declare (hp name rfl) v
  | rebind name c => exact hi.rebind (hp name rfl) c
  | bindLocal name v => exact hi.bindLocal (hp name rfl) v
  | restore name prev => exact hi.restore (hp name rfl) prev

/-- The representation invariant holds of a new environment and of the initial one, and every
call keeps it as long as the names it binds are not keys of temporaries. So the count of
temporaries is always the number of keys of temporaries bound, and closing a frame or
releasing after a mark never changes a named binding. -/
theorem inv_new_and_preserved :
    Inv ({} : Env) ∧ Inv initial ∧
    (∀ (e : Env) (op : Op), e.Inv → (∀ name, op.name? = some name → Plain name) →
      (op.apply e).Inv) ∧
    (∀ e : Env, e.Inv → e.temporaryCount = {k | k ∈ e.vars ∧ ∃ n, k = tempKey n}.ncard) ∧
    (∀ (e : Env) (keep : Option Nat) (name : String), e.Inv → Plain name →
      (e.popFrame keep).1.vars[name]? = e.vars[name]?) ∧
    (∀ (e : Env) (mark : Nat) (keep : Option Nat) (name : String), e.Inv → Plain name →
      (e.releaseSince mark keep).1.vars[name]? = e.vars[name]?) :=
  ⟨inv_of_empty rfl rfl rfl, inv_of_empty rfl rfl rfl, fun _ op hi hp ↦ hi.apply op hp,
    fun _ hi ↦ hi.temporaryCount_eq_ncard, fun _ keep _ hi hp ↦ hi.popFrame_lookup hp keep,
    fun _ mark keep _ hi hp ↦ hi.releaseSince_lookup hp mark keep⟩

end Env

end WordLang

import WordLang.Proofs.Frames

namespace WordLang

open Env

namespace Env

theorem Inv.releaseSince_leaves {e₀ e : Env} (hi : e.Inv) (hpre : e₀.arena <+: e.arena)
    (keep : Option Nat) : Leaves e₀ (e.releaseSince e₀.mark keep).1 keep := by
  have hnd : e.arena.Nodup := by
    have := hi.nodup
    rw [held_eq] at this
    exact (List.nodup_append.1 this).1
  have hsub : e.arena ⊆ e.held := fun k hk ↦ by
    rw [held_eq]
    exact List.mem_append_left _ hk
  have htake : e.arena.take e₀.mark = e₀.arena := by
    obtain ⟨rest, hrest⟩ := hpre
    rw [← hrest, mark, List.take_left]
  unfold Env.releaseSince
  dsimp only
  split
  · -- nothing was made after the mark: the arena is still that of `e₀`
    rename_i hle
    obtain ⟨rest, hrest⟩ := hpre
    have hnil : rest = [] := by
      rw [← hrest, List.length_append, mark] at hle
      exact List.eq_nil_of_length_eq_zero (by omega)
    refine ⟨[], ?_, by simp, by simp⟩
    rw [← hrest, hnil]
  · have hdrop : e.arena.drop e₀.mark ⊆ e.held := fun k hk ↦ hsub (List.mem_of_mem_drop hk)
    obtain ⟨hlen, hbound⟩ := hi.release_leaves hdrop (hnd.sublist (List.drop_sublist _ _)) keep
    rcases hr : Env.release e.vars keep (e.arena.drop e₀.mark) with ⟨vars', kept⟩
    rw [hr] at hlen hbound
    refine ⟨kept, ?_, hlen, hbound⟩
    show (e.setArena (e.arena.take e₀.mark ++ kept)).arena = e₀.arena ++ kept
    rw [arena_setArena, htake]

theorem leaves_length_le {e e' : Env} {keep : Option Nat} (h : Leaves e e' keep) :
    e'.arena.length ≤ e.mark + 1 := by
  obtain ⟨new, hnew, hlen, -⟩ := h
  rw [hnew, List.length_append, mark]
  omega

end Env

namespace Exec

variable {α β : Type} {clean : Prop} {cfg : Config} {m : Machine}

def Appends (clean : Prop) (x : Exec α) : Prop :=
  ∀ cfg m, cfg.store = .arenas → clean → m.env.Good →
    m.env.arena <+: (x.execute cfg m).2.env.arena

namespace Appends

theorem mono {clean' : Prop} {x : Exec α} (hx : Appends clean x) (hc : clean' → clean) :
    Appends clean' x :=
  fun cfg m hs hc' hg ↦ hx cfg m hs (hc hc') hg

theorem pure (a : α) : Appends clean (Pure.pure a : Exec α) := fun _ _ _ _ _ ↦ List.prefix_refl _

theorem bind {x : Exec α} {f : α → Exec β} (hx : Appends clean x) (hxs : Steady clean x)
    (hf : ∀ a, Appends clean (f a)) : Appends clean (x >>= f) := by
  intro cfg m hs hc hg
  have hk := hxs cfg m
  have hp := hx cfg m hs hc hg
  rw [execute_bind]
  rcases h : x.execute cfg m with ⟨_ | a, m'⟩
  · rw [h] at hp
    exact hp
  · rw [h] at hp hk
    exact hp.trans (hf a cfg m' hs hc (hk.good hs hc hg))

theorem eval (k : Nat) (node : Node) : Appends node.Clean (Exec.eval k node) := by
  intro cfg m hs hc hg
  obtain ⟨new, hnew, -, -⟩ := leaves_eval k node hs hc hg (m := m)
  exact ⟨new, hnew.symm⟩

theorem holds (k : Nat) (cond : Node) : Appends cond.Clean (Exec.holds (Exec.eval k) cond) :=
  (eval k cond).bind (Steady.eval k cond) fun r ↦ by cases r <;> exact pure _

theorem sequence (k : Nat) (body : List Node) :
    Appends (∀ b ∈ body, b.Clean) (Exec.sequence (Exec.eval k) body) := by
  unfold Exec.sequence
  generalize (none : Option Cell) = init
  induction body generalizing init with
  | nil => exact pure _
  | cons b rest ih =>
    rw [List.foldlM_cons]
    have hb : (∀ x ∈ b :: rest, x.Clean) → b.Clean := fun hc ↦ hc b (by simp)
    have hrest : (∀ x ∈ b :: rest, x.Clean) → ∀ x ∈ rest, x.Clean :=
      fun hc x hx ↦ hc x (List.mem_cons_of_mem _ hx)
    exact ((eval k b).mono hb).bind ((Steady.eval k b).mono hb) fun r ↦ (ih r).mono hrest

end Appends

/-- The machines at the heads of the iterations of a loop begun on `m₀` with the value `r₀`:
each is the machine right after the release that starts an iteration, with the value of the
iteration before. The first follows the loop's start; each next one follows a head whose
condition held and whose body then answered. -/
inductive LoopHead (ev : Node → Exec (Option Cell)) (cfg : Config) (mark : Nat) (cond : Node)
    (body : List Node) (m₀ : Machine) (r₀ : Option Cell) : Option Cell → Machine → Prop
  | first : LoopHead ev cfg mark cond body m₀ r₀ r₀ ((releaseSince mark r₀).execute cfg m₀).2
  | next {r r' : Option Cell} {m m₁ m₂ : Machine} :
      LoopHead ev cfg mark cond body m₀ r₀ r m →
      (holds ev cond).execute cfg m = (.ok true, m₁) →
      (sequence ev body).execute cfg m₁ = (.ok r', m₂) →
      LoopHead ev cfg mark cond body m₀ r₀ r' ((releaseSince mark r').execute cfg m₂).2

theorem releaseSince_ok (cfg : Config) (m : Machine) (mark : Nat) (keep : Option Cell) :
    (releaseSince mark keep).execute cfg m = (.ok (), ((releaseSince mark keep).execute cfg m).2) := by
  obtain ⟨evs, h⟩ := execute_releaseSince cfg m mark keep
  rw [h]

theorem loop_ends_at_head {ev : Node → Exec (Option Cell)} {mark : Nat} {cond : Node}
    {body : List Node} {m₀ : Machine} {r₀ : Option Cell} (fuel : Nat) :
    ∀ {r : Option Cell} {n : Nat} {m : Machine},
      LoopHead ev cfg mark cond body m₀ r₀ r ((releaseSince mark r).execute cfg m).2 →
      ∀ {r' : Option Cell} {n' : Nat} {m' : Machine},
        (loop ev mark cond body fuel r n).execute cfg m = (.ok (r', n'), m') →
        ∃ h, LoopHead ev cfg mark cond body m₀ r₀ r' h ∧
          (holds ev cond).execute cfg h = (.ok false, m') := by
  induction fuel with
  | zero =>
    intro r n m _ r' n' m' hrun
    rw [loop, execute_throw] at hrun
    cases hrun
  | succ fuel ih =>
    intro r n m hhead r' n' m' hrun
    rw [loop, execute_bind_ok (releaseSince_ok cfg m mark r), execute_bind] at hrun
    rcases hcond : (holds ev cond).execute cfg ((releaseSince mark r).execute cfg m).2 with
      ⟨f | b, m₁⟩
    · rw [hcond] at hrun
      cases hrun
    · rw [hcond] at hrun
      cases b with
      | false =>
        -- the condition is false at this head: the loop answers its value
        simp only [Bool.false_eq_true, ↓reduceIte, execute_pure, Prod.mk.injEq,
          Except.ok.injEq] at hrun
        obtain ⟨⟨rfl, -⟩, rfl⟩ := hrun
        exact ⟨_, hhead, hcond⟩
      | true =>
        simp only [↓reduceIte] at hrun
        rw [execute_bind] at hrun
        rcases hbody : (sequence ev body).execute cfg m₁ with ⟨f | r₁, m₂⟩
        · rw [hbody] at hrun
          cases hrun
        · rw [hbody] at hrun
          exact ih (hhead.next hcond hbody) hrun

variable {k : Nat} {cond : Node} {body : List Node} {m₀ : Machine}

theorem LoopHead.holds_one_more (hs : cfg.store = .arenas) (hc : cond.Clean)
    (hb : ∀ x ∈ body, x.Clean) (hg : m₀.env.Good) {r₀ r : Option Cell} {m : Machine}
    (h : LoopHead (eval k) cfg m₀.env.mark cond body m₀ r₀ r m) :
    m.env.Good ∧ m.env.outer = m₀.env.outer ∧ Leaves m₀.env m.env (r.map Cell.id) := by
  induction h with
  | first =>
    obtain ⟨evs, hrel⟩ := execute_releaseSince cfg m₀ m₀.env.mark r₀
    rw [hrel, hs]
    exact ⟨hg.releaseSince _ _, outer_releaseSince _ _ _,
      hg.inv.releaseSince_leaves (List.prefix_refl _) _⟩
  | @next r r' m m₁ m₂ _ hcond hbody ih =>
    obtain ⟨hgood, houter, hleaves⟩ := ih
    -- the condition and the body keep the environment good and the frames around it, and only
    -- add keys after those the loop began with
    have hk₁ := Steady.holds (Steady.eval k) cond cfg m
    have hk₂ := Steady.sequence (Steady.eval k) body cfg m₁
    have hp₁ := Appends.holds k cond cfg m hs hc hgood
    rw [hcond] at hk₁ hp₁
    dsimp only at hk₁ hp₁
    have hg₁ := hk₁.good hs hc hgood
    have hp₂ := Appends.sequence k body cfg m₁ hs hb hg₁
    rw [hbody] at hk₂ hp₂
    dsimp only at hk₂ hp₂
    have hg₂ := hk₂.good hs hb hg₁
    have hpre : m₀.env.arena <+: m₂.env.arena := by
      obtain ⟨new, hnew, -, -⟩ := hleaves
      exact (hnew ▸ List.prefix_append _ _).trans (hp₁.trans hp₂)
    obtain ⟨evs, hrel⟩ := execute_releaseSince cfg m₂ m₀.env.mark r'
    rw [hrel, hs]
    refine ⟨hg₂.releaseSince _ _, ?_, hg₂.inv.releaseSince_leaves hpre _⟩
    exact (outer_releaseSince _ _ _).trans (by rw [hk₂.outer hs, hk₁.outer hs, houter])

/-- A `while` loop runs in bounded space. Begun on a good environment, at the head of every
iteration, right after releasing what the iteration before made, the frames around the loop's
are as they were and the loop's arena holds the keys it held when the loop began and at most
one more, bound to the value of the iteration before. A loop that answers ends at one of these
heads, where its condition is false; and the whole `while` expression adds to the arena around
its frame at most the key of the loop's value. -/
theorem loop_heads_hold_one_more (k : Nat) {cfg : Config} {cond : Node} {body : List Node}
    {m₀ : Machine} (hs : cfg.store = .arenas) (hc : cond.Clean) (hb : ∀ x ∈ body, x.Clean)
    (hg : m₀.env.Good) :
    (∀ r m, LoopHead (eval k) cfg m₀.env.mark cond body m₀ none r m →
      m.env.outer = m₀.env.outer ∧ m.env.arena.length ≤ m₀.env.mark + 1 ∧
        Leaves m₀.env m.env (r.map Cell.id)) ∧
    (∀ fuel r n m', (loop (eval k) m₀.env.mark cond body fuel none 0).execute cfg m₀ =
        (.ok (r, n), m') →
      ∃ m, LoopHead (eval k) cfg m₀.env.mark cond body m₀ none r m ∧
        (holds (eval k) cond).execute cfg m = (.ok false, m')) ∧
    ∀ (m : Machine), m.env.Good → ∀ head span : Span,
      Leaves m.env ((eval (k + 1) (.list (.atom "while" head :: cond :: body) span)).execute
          cfg m).2.env
        (keptId ((eval (k + 1) (.list (.atom "while" head :: cond :: body) span)).execute
          cfg m).1) := by
  refine ⟨fun r m h ↦ ?_, fun fuel r n m' hrun ↦ loop_ends_at_head fuel .first hrun,
    fun m hgm head span ↦ ?_⟩
  · obtain ⟨-, houter, hleaves⟩ := h.holds_one_more hs hc hb hg
    exact ⟨houter, leaves_length_le hleaves, hleaves⟩
  · have hwhile : (Node.atom "while" head).Clean := .atom head (plain_of_head (by simp))
    refine leaves_eval (k + 1) _ hs (Node.clean_list_iff.2 fun x hx ↦ ?_) hgm
    rcases List.mem_cons.1 hx with rfl | hx
    · exact hwhile
    rcases List.mem_cons.1 hx with rfl | hx
    · exact hc
    · exact hb x hx

theorem loop_heads_hold_one_more_new :
    ({} : Config).store = .arenas ∧ (Node.atom "go" ⟨7, 9⟩).Clean ∧
      (∀ x ∈ [Node.atom "1w" ⟨10, 12⟩], x.Clean) ∧ ({} : Machine).env.Good ∧
      (∀ r m, LoopHead (eval 1) {} ({} : Machine).env.mark (.atom "go" ⟨7, 9⟩)
          [.atom "1w" ⟨10, 12⟩] {} none r m →
        m.env.outer = ({} : Machine).env.outer ∧
          m.env.arena.length ≤ ({} : Machine).env.mark + 1 ∧
          Leaves ({} : Machine).env m.env (r.map Cell.id)) ∧
      (∀ fuel r n m', (loop (eval 1) ({} : Machine).env.mark (.atom "go" ⟨7, 9⟩)
            [.atom "1w" ⟨10, 12⟩] fuel none 0).execute {} {} = (.ok (r, n), m') →
        ∃ m, LoopHead (eval 1) {} ({} : Machine).env.mark (.atom "go" ⟨7, 9⟩)
            [.atom "1w" ⟨10, 12⟩] {} none r m ∧
          (holds (eval 1) (.atom "go" ⟨7, 9⟩)).execute {} m = (.ok false, m')) ∧
      ∀ (m : Machine), m.env.Good → ∀ head span : Span,
        Leaves m.env ((eval 2 (.list [.atom "while" head, .atom "go" ⟨7, 9⟩,
            .atom "1w" ⟨10, 12⟩] span)).execute {} m).2.env
          (keptId ((eval 2 (.list [.atom "while" head, .atom "go" ⟨7, 9⟩,
            .atom "1w" ⟨10, 12⟩] span)).execute {} m).1) := by
  have hc : (Node.atom "go" ⟨7, 9⟩).Clean := .atom _ (plain_of_head (by simp))
  have hb : ∀ x ∈ [Node.atom "1w" ⟨10, 12⟩], x.Clean := by
    intro x hx
    rw [List.mem_singleton] at hx
    exact hx ▸ .atom _ (plain_of_head (by simp))
  exact ⟨rfl, hc, hb, good_initial, loop_heads_hold_one_more 1 rfl hc hb good_initial⟩

end Exec

end WordLang

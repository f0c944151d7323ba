import WordLang.Proofs.Brackets

namespace WordLang

namespace Span

def fromTo (a b : Span) : Span := ⟨a.start, b.stop⟩

theorem merge_eq_fromTo {a b : Span} (ha : a.start ≤ a.stop) (hab : a.stop ≤ b.start)
    (hb : b.start ≤ b.stop) : a.merge b = a.fromTo b := by
  simp only [merge, fromTo, Span.mk.injEq]
  omega

end Span

namespace Token

def openCount (ts : List Token) : Nat := ts.countP (·.kind == .openParen)

def closeCount (ts : List Token) : Nat := ts.countP (·.kind == .closeParen)

@[simp] theorem openCount_nil : openCount [] = 0 := rfl

@[simp] theorem closeCount_nil : closeCount [] = 0 := rfl

@[simp] theorem openCount_append (a b : List Token) :
    openCount (a ++ b) = openCount a + openCount b := List.countP_append

@[simp] theorem closeCount_append (a b : List Token) :
    closeCount (a ++ b) = closeCount a + closeCount b := List.countP_append

theorem openCount_cons (t : Token) (ts : List Token) :
    openCount (t :: ts) = openCount [t] + openCount ts := openCount_append [t] ts

theorem closeCount_cons (t : Token) (ts : List Token) :
    closeCount (t :: ts) = closeCount [t] + closeCount ts := closeCount_append [t] ts

theorem counts_openParen {t : Token} (h : t.kind = .openParen) :
    openCount [t] = 1 ∧ closeCount [t] = 0 := by
  simp [openCount, closeCount, h]

theorem counts_closeParen {t : Token} (h : t.kind = .closeParen) :
    openCount [t] = 0 ∧ closeCount [t] = 1 := by
  simp [openCount, closeCount, h]

def IsAtom (t : Token) : Prop := t.kind ≠ .openParen ∧ t.kind ≠ .closeParen

theorem IsAtom.counts {t : Token} (h : t.IsAtom) : openCount [t] = 0 ∧ closeCount [t] = 0 := by
  simp [openCount, closeCount, h.1, h.2]

def NoStrayFrom (d : Nat) (ts : List Token) : Prop :=
  ∀ p, p <+: ts → closeCount p ≤ d + openCount p

structure Balanced (ts : List Token) : Prop where
  noStray : NoStrayFrom 0 ts
  settled : closeCount ts = openCount ts

def InOrder (ts : List Token) : Prop :=
  (∀ t ∈ ts, t.span.start ≤ t.span.stop) ∧ ts.Pairwise fun a b ↦ a.span.stop ≤ b.span.start

instance (ts : List Token) : Decidable (InOrder ts) :=
  inferInstanceAs (Decidable (_ ∧ _))

section NoStray

variable {d : Nat} {t : Token} {ts : List Token}

@[simp] theorem noStrayFrom_nil (d : Nat) : NoStrayFrom d [] := by
  intro p hp
  rw [List.prefix_nil.1 hp]
  simp

theorem noStrayFrom_cons :
    NoStrayFrom d (t :: ts) ↔ closeCount [t] ≤ d + openCount [t] ∧
      NoStrayFrom (d + openCount [t] - closeCount [t]) ts := by
  constructor
  · intro h
    have hfirst := h [t] (List.prefix_cons_inj t |>.2 List.nil_prefix)
    refine ⟨hfirst, fun p hp ↦ ?_⟩
    have hp' := h (t :: p) ((List.prefix_cons_inj t).2 hp)
    rw [openCount_cons, closeCount_cons] at hp'
    omega
  · rintro ⟨hfirst, hrest⟩ p hp
    rcases List.prefix_cons_iff.1 hp with rfl | ⟨q, rfl, hq⟩
    · simp
    · have hq' := hrest q hq
      rw [openCount_cons, closeCount_cons]
      omega

theorem NoStrayFrom.mono {d' : Nat} (h : NoStrayFrom d ts) (hd : d ≤ d') : NoStrayFrom d' ts :=
  fun p hp ↦ Nat.le_trans (h p hp) (by omega)

theorem NoStrayFrom.of_prefix {pre : List Token} (h : NoStrayFrom d ts) (hp : pre <+: ts) :
    NoStrayFrom d pre :=
  fun p hq ↦ h p (hq.trans hp)

theorem NoStrayFrom.closeCount_le (h : NoStrayFrom d ts) : closeCount ts ≤ d + openCount ts :=
  h ts (List.prefix_refl ts)

theorem NoStrayFrom.append {a b : List Token} (ha : NoStrayFrom d a)
    (hb : NoStrayFrom (d + openCount a - closeCount a) b) : NoStrayFrom d (a ++ b) := by
  induction a generalizing d with
  | nil => simpa using hb
  | cons t a ih =>
    obtain ⟨hfirst, hrest⟩ := noStrayFrom_cons.1 ha
    refine noStrayFrom_cons.2 ⟨hfirst, ih hrest ?_⟩
    have hdepth : d + openCount [t] - closeCount [t] + openCount a - closeCount a =
        d + openCount (t :: a) - closeCount (t :: a) := by
      have := hrest.closeCount_le
      rw [openCount_cons t a, closeCount_cons t a]
      omega
    rwa [hdepth]

end NoStray

section Balanced

theorem balanced_nil : Balanced [] := ⟨noStrayFrom_nil 0, rfl⟩

theorem Balanced.append {a b : List Token} (ha : Balanced a) (hb : Balanced b) :
    Balanced (a ++ b) := by
  refine ⟨ha.noStray.append ?_, by simp [ha.settled, hb.settled]⟩
  rw [ha.settled, Nat.zero_add, Nat.sub_self]
  exact hb.noStray

theorem balanced_atom {t : Token} (ht : t.IsAtom) : Balanced [t] := by
  obtain ⟨ho, hc⟩ := ht.counts
  refine ⟨noStrayFrom_cons.2 ⟨by omega, ?_⟩, by rw [ho, hc]⟩
  exact noStrayFrom_nil _

theorem Balanced.wrap {o c : Token} {mid : List Token} (h : Balanced mid)
    (ho : o.kind = .openParen) (hc : c.kind = .closeParen) : Balanced (o :: (mid ++ [c])) := by
  obtain ⟨hoo, hoc⟩ := counts_openParen ho
  obtain ⟨hco, hcc⟩ := counts_closeParen hc
  refine ⟨noStrayFrom_cons.2 ⟨by omega, ?_⟩, ?_⟩
  · rw [hoo, hoc]
    refine (h.noStray.mono (Nat.zero_le _)).append ?_
    rw [h.settled, Nat.add_sub_cancel]
    exact noStrayFrom_cons.2 ⟨by omega, noStrayFrom_nil _⟩
  · rw [openCount_cons, closeCount_cons, openCount_append, closeCount_append, h.settled]
    omega

end Balanced

theorem InOrder.sublist {ts ts' : List Token} (h : InOrder ts) (hs : ts'.Sublist ts) :
    InOrder ts' :=
  ⟨fun t ht ↦ h.1 t (hs.subset ht), h.2.sublist hs⟩

end Token

open Token

namespace Node

/-- `Flattens join ns ts`: the expressions `ns`, written out token by token, are the tokens `ts`.
An atom is its one token and keeps the token's span, and it is an integer exactly when the
token's text reads as one; a list is its opening parenthesis, its elements and its closing
parenthesis, and its span is `join` of the spans of the two parentheses. -/
inductive Flattens (join : Span → Span → Span) : List Node → List Token → Prop
  | nil : Flattens join [] []
  | int {t : Token} {n : Int64} {ns : List Node} {ts : List Token} : t.IsAtom →
      readInt64? t.text = some n → Flattens join ns ts →
      Flattens join (.int n t.span :: ns) (t :: ts)
  | atom {t : Token} {ns : List Node} {ts : List Token} : t.IsAtom → readInt64? t.text = none →
      Flattens join ns ts → Flattens join (.atom t.text t.span :: ns) (t :: ts)
  | list {o c : Token} {items ns : List Node} {mid ts : List Token} : o.kind = .openParen →
      c.kind = .closeParen → Flattens join items mid → Flattens join ns ts →
      Flattens join (.list items (join o.span c.span) :: ns) (o :: (mid ++ c :: ts))

section Flattens

variable {join : Span → Span → Span}

theorem Flattens.append {a b : List Node} {x y : List Token} (ha : Flattens join a x)
    (hb : Flattens join b y) : Flattens join (a ++ b) (x ++ y) := by
  induction ha with
  | nil => exact hb
  | int ht hn _ ih => exact .int ht hn ih
  | atom ht hn _ ih => exact .atom ht hn ih
  | @list o c items ns mid ts ho hc hmid _ _ ih =>
    rw [List.cons_append, List.cons_append, List.append_assoc, List.cons_append]
    exact .list ho hc hmid ih

theorem flattens_ofAtomToken {t : Token} (ht : t.IsAtom) : Flattens join [ofAtomToken t] [t] := by
  unfold ofAtomToken
  split
  · rename_i n hn
    exact .int ht hn .nil
  · rename_i hn
    exact .atom ht hn .nil

theorem Flattens.balanced {ns : List Node} {ts : List Token} (h : Flattens join ns ts) :
    Balanced ts := by
  induction h with
  | nil => exact balanced_nil
  | int ht _ _ ih => exact (balanced_atom ht).append ih
  | atom ht _ _ ih => exact (balanced_atom ht).append ih
  | list ho hc _ _ ihmid ih =>
    simpa using (ihmid.wrap ho hc).append ih

theorem Flattens.rejoin {join' : Span → Span → Span}
    (hj : ∀ a b : Span, a.start ≤ a.stop → a.stop ≤ b.start → b.start ≤ b.stop →
      join a b = join' a b)
    {ns : List Node} {ts : List Token} (h : Flattens join ns ts) (hts : InOrder ts) :
    Flattens join' ns ts := by
  induction h with
  | nil => exact .nil
  | int ht hn _ ih => exact .int ht hn (ih (hts.sublist (List.sublist_cons_self _ _)))
  | atom ht hn _ ih => exact .atom ht hn (ih (hts.sublist (List.sublist_cons_self _ _)))
  | @list o c items ns mid ts ho hc _ _ ihmid ih =>
    have hmid : InOrder mid :=
      hts.sublist ((List.sublist_append_left mid (c :: ts)).cons o)
    have hrest : InOrder ts :=
      hts.sublist (((List.sublist_cons_self c ts).trans
        (List.sublist_append_right mid _)).cons o)
    -- the opening parenthesis ends before the closing one begins
    have hoc : o.span.stop ≤ c.span.start :=
      List.rel_of_pairwise_cons hts.2 (by simp)
    rw [hj o.span c.span (hts.1 o (by simp)) hoc (hts.1 c (by simp))]
    exact .list ho hc (ihmid hmid) (ih hrest)

end Flattens

def placeAll : List Node → List OpenList → List Node → List OpenList × List Node
  | [], opened, done => (opened, done)
  | n :: ns, opened, done => placeAll ns (place n opened done).1 (place n opened done).2

theorem placeAll_open (ns : List Node) (o : Span) (items : List Node) (rest : List OpenList)
    (done : List Node) :
    placeAll ns ((o, items) :: rest) done = ((o, ns.reverse ++ items) :: rest, done) := by
  induction ns generalizing items with
  | nil => rfl
  | cons n ns ih => simp [placeAll, place, ih]

theorem placeAll_top (ns : List Node) (done : List Node) :
    placeAll ns [] done = ([], ns.reverse ++ done) := by
  induction ns generalizing done with
  | nil => rfl
  | cons n ns ih => simp [placeAll, place, ih]

theorem build_flattens {ns : List Node} {ts : List Token} (h : Flattens Span.merge ns ts) :
    ∀ (opened : List OpenList) (done : List Node) (rest : List Token),
      build opened done (ts ++ rest) =
        build (placeAll ns opened done).1 (placeAll ns opened done).2 rest := by
  induction h with
  | nil => intro opened done rest; rfl
  | @int t n ns ts ht hn _ ih =>
    intro opened done rest
    have hatom : ofAtomToken t = .int n t.span := by simp [ofAtomToken, hn]
    rw [List.cons_append, build_atom _ _ ht.1 ht.2, hatom]
    exact ih _ _ rest
  | @atom t ns ts ht hn _ ih =>
    intro opened done rest
    have hatom : ofAtomToken t = .atom t.text t.span := by simp [ofAtomToken, hn]
    rw [List.cons_append, build_atom _ _ ht.1 ht.2, hatom]
    exact ih _ _ rest
  | @list o c items ns mid ts ho hc _ _ ihmid ih =>
    intro opened done rest
    -- the opening parenthesis pushes a list, its elements fill it, and the closing one ends it
    rw [List.cons_append, build_openParen _ _ ho, List.append_assoc, ihmid, placeAll_open,
      List.append_nil, List.cons_append, build_closeParen_cons _ _ hc, List.reverse_reverse]
    exact ih _ _ rest

/-- `ReadSoFar opened done pre`: having read the tokens `pre`, the reader holds the lists
`opened` open, the innermost first, and the expressions `done` finished, the last first. The
finished expressions flatten to the tokens before the outermost open list, and each open list
holds the expressions between its opening parenthesis and the next open list. -/
inductive ReadSoFar : List OpenList → List Node → List Token → Prop
  | top {done : List Node} {pre : List Token} : Flattens Span.merge done.reverse pre →
      ReadSoFar [] done pre
  | push {opened : List OpenList} {done items : List Node} {pre mid : List Token} {o : Token} :
      ReadSoFar opened done pre → o.kind = .openParen → Flattens Span.merge items.reverse mid →
      ReadSoFar ((o.span, items) :: opened) done (pre ++ o :: mid)

theorem ReadSoFar.start : ReadSoFar [] [] [] := .top .nil

theorem ReadSoFar.place {opened : List OpenList} {done : List Node} {pre : List Token}
    (h : ReadSoFar opened done pre) {n : Node} {ts : List Token}
    (hn : Flattens Span.merge [n] ts) :
    ReadSoFar (Node.place n opened done).1 (Node.place n opened done).2 (pre ++ ts) := by
  cases h with
  | top hdone =>
    simp only [Node.place]
    refine .top ?_
    rw [List.reverse_cons]
    exact hdone.append hn
  | push hrest ho hitems =>
    simp only [Node.place]
    rw [List.append_assoc, List.cons_append]
    refine .push hrest ho ?_
    rw [List.reverse_cons]
    exact hitems.append hn

theorem build_read {ts : List Token} :
    ∀ {opened : List OpenList} {done : List Node} {pre : List Token}, ReadSoFar opened done pre →
      NoStrayFrom opened.length ts → ∀ rest, ∃ opened' done',
        build opened done (ts ++ rest) = build opened' done' rest ∧
        ReadSoFar opened' done' (pre ++ ts) ∧
        opened'.length + closeCount ts = opened.length + openCount ts := by
  induction ts with
  | nil => intro opened done pre h _ rest; exact ⟨opened, done, rfl, by simpa using h, rfl⟩
  | cons t ts ih =>
    intro opened done pre h hstray rest
    obtain ⟨hfirst, hrest⟩ := noStrayFrom_cons.1 hstray
    rw [openCount_cons, closeCount_cons, List.cons_append]
    by_cases ho : t.kind = .openParen
    · -- an opening parenthesis pushes an empty list
      obtain ⟨hot, hct⟩ := counts_openParen ho
      rw [hot, hct] at hrest ⊢
      have hpush : ReadSoFar ((t.span, []) :: opened) done (pre ++ [t]) := .push h ho .nil
      obtain ⟨opened', done', hb, hs, hlen⟩ := ih hpush (by simpa using hrest) rest
      refine ⟨opened', done', by rw [build_openParen _ _ ho, hb], by simpa using hs, ?_⟩
      simp only [List.length_cons] at hlen
      omega
    by_cases hc : t.kind = .closeParen
    · -- a closing parenthesis ends the innermost open list, which `hfirst` says there is
      obtain ⟨hot, hct⟩ := counts_closeParen hc
      rw [hot, hct] at hfirst hrest ⊢
      cases h with
      | top _ => simp at hfirst
      | @push opened done items pre₀ mid o hs₀ hop hitems =>
        have hlist : Flattens Span.merge [.list items.reverse (o.span.merge t.span)]
            (o :: (mid ++ [t])) := .list hop hc hitems .nil
        have hread := hs₀.place hlist
        have hlen₀ := place_length (.list items.reverse (o.span.merge t.span)) opened done
        obtain ⟨opened', done', hb, hs, hlen⟩ := ih hread (by
          rw [hlen₀]; simpa using hrest) rest
        refine ⟨opened', done', by rw [build_closeParen_cons _ _ hc, hb], by simpa using hs, ?_⟩
        simp only [List.length_cons] at hlen ⊢
        omega
    · -- any other token is an atom, placed where the reader stands
      have ht : t.IsAtom := ⟨ho, hc⟩
      obtain ⟨hot, hct⟩ := ht.counts
      rw [hot, hct] at hrest ⊢
      have hread := h.place (flattens_ofAtomToken ht)
      have hlen₀ := place_length (ofAtomToken t) opened done
      obtain ⟨opened', done', hb, hs, hlen⟩ := ih hread (by rw [hlen₀]; simpa using hrest) rest
      refine ⟨opened', done', by rw [build_atom _ _ ho hc, hb], by simpa using hs, ?_⟩
      omega

theorem exists_first_stray {d : Nat} {ts : List Token} (h : ¬ NoStrayFrom d ts) :
    ∃ pre t post, ts = pre ++ t :: post ∧ t.kind = .closeParen ∧ NoStrayFrom d pre ∧
      closeCount pre = d + openCount pre := by
  induction ts generalizing d with
  | nil => exact absurd (noStrayFrom_nil d) h
  | cons t ts ih =>
    by_cases hfirst : closeCount [t] ≤ d + openCount [t]
    · -- the first token is fine, so the stray parenthesis comes later
      have hrest : ¬ NoStrayFrom (d + openCount [t] - closeCount [t]) ts :=
        fun hr ↦ h (noStrayFrom_cons.2 ⟨hfirst, hr⟩)
      obtain ⟨pre, t', post, rfl, hc, hpre, hcount⟩ := ih hrest
      refine ⟨t :: pre, t', post, rfl, hc, noStrayFrom_cons.2 ⟨hfirst, hpre⟩, ?_⟩
      rw [openCount_cons, closeCount_cons]
      omega
    · -- the first token closes a list at depth zero
      by_cases hc : t.kind = .closeParen
      · obtain ⟨hot, hct⟩ := counts_closeParen hc
        have hd : d = 0 := by omega
        refine ⟨[], t, ts, rfl, hc, noStrayFrom_nil d, by simp [hd]⟩
      · simp [closeCount, hc] at hfirst

theorem build_stray_close {pre post : List Token} {t : Token} (hc : t.kind = .closeParen)
    (hpre : Balanced pre) : build [] [] (pre ++ t :: post) = .error (.unbalancedClose t.span) := by
  obtain ⟨opened', done', hb, -, hlen⟩ := build_read ReadSoFar.start hpre.noStray (t :: post)
  have hempty : opened' = [] := by
    rw [← List.length_eq_zero_iff]
    have := hpre.settled
    simp only [List.length_nil] at hlen
    omega
  rw [hb, hempty, build_closeParen_nil _ _ hc]

theorem build_balanced {ts : List Token} (h : Balanced ts) :
    ∃ done : List Node, build [] [] ts = .ok done.reverse ∧ Flattens Span.merge done.reverse ts := by
  obtain ⟨opened', done', hb, hs, hlen⟩ := build_read ReadSoFar.start h.noStray []
  have hempty : opened' = [] := by
    rw [← List.length_eq_zero_iff]
    have := h.settled
    simp only [List.length_nil] at hlen
    omega
  subst hempty
  cases hs with
  | top hdone => exact ⟨done', by simpa [build] using hb, by simpa using hdone⟩

theorem exists_innermost_open {ts : List Token} (h : NoStrayFrom 0 ts)
    (hne : closeCount ts ≠ openCount ts) :
    ∃ pre t post, ts = pre ++ t :: post ∧ t.kind = .openParen ∧ Balanced post := by
  obtain ⟨opened', done', -, hs, hlen⟩ := build_read ReadSoFar.start h []
  have hle := h.closeCount_le
  cases hs with
  | top _ => simp only [List.length_nil] at hlen; omega
  | @push opened done items pre mid o _ ho hitems =>
    exact ⟨pre, o, mid, rfl, ho, hitems.balanced⟩

theorem build_innermost_open {pre post : List Token} {t : Token} (ho : t.kind = .openParen)
    (hpost : Balanced post) (h : NoStrayFrom 0 (pre ++ t :: post)) :
    build [] [] (pre ++ t :: post) = .error (.unbalancedParen t.span) := by
  obtain ⟨opened', done', hb, -, -⟩ :=
    build_read ReadSoFar.start (h.of_prefix (List.prefix_append pre _)) (t :: post)
  obtain ⟨items, -, hitems⟩ := build_balanced hpost
  have hpost' := build_flattens hitems ((t.span, []) :: opened') done' []
  rw [List.append_nil, placeAll_open] at hpost'
  rw [hb, build_openParen _ _ ho, hpost']
  rfl

end Node

open Node

section Outcomes

variable {ts : List Token}

theorem ofTokens_fails_at_stray (hs : ¬ NoStrayFrom 0 ts) :
    ∃ pre t post, ts = pre ++ t :: post ∧ t.kind = .closeParen ∧ Balanced pre ∧
      ofTokens ts = .error (.unbalancedClose t.span) := by
  obtain ⟨pre, t, post, rfl, hc, hpre, hcount⟩ := exists_first_stray hs
  have hbal : Balanced pre := ⟨hpre, by simpa using hcount⟩
  exact ⟨pre, t, post, rfl, hc, hbal, build_stray_close hc hbal⟩

theorem ofTokens_fails_at_open (hs : NoStrayFrom 0 ts) (hnb : ¬ Balanced ts) :
    ∃ pre t post, ts = pre ++ t :: post ∧ t.kind = .openParen ∧ Balanced post ∧
      ofTokens ts = .error (.unbalancedParen t.span) := by
  obtain ⟨pre, t, post, rfl, ho, hpost⟩ := exists_innermost_open hs (fun hset ↦ hnb ⟨hs, hset⟩)
  exact ⟨pre, t, post, rfl, ho, hpost, build_innermost_open ho hpost hs⟩

theorem ofTokens_ok_iff_balanced : (∃ p, ofTokens ts = .ok p) ↔ Balanced ts := by
  refine ⟨fun ⟨p, hp⟩ ↦ Classical.byContradiction fun hnb ↦ ?_, fun h ↦ ?_⟩
  · -- an unbalanced sequence fails one way or the other
    by_cases hs : NoStrayFrom 0 ts
    · obtain ⟨_, _, _, _, _, _, he⟩ := ofTokens_fails_at_open hs hnb
      rw [hp] at he
      cases he
    · obtain ⟨_, _, _, _, _, _, he⟩ := ofTokens_fails_at_stray hs
      rw [hp] at he
      cases he
  · obtain ⟨done, hb, -⟩ := build_balanced h
    exact ⟨_, hb⟩

theorem ofTokens_ok_iff_flattens (p : List Node) :
    ofTokens ts = .ok p ↔ Flattens Span.merge p ts := by
  refine ⟨fun hp ↦ ?_, fun hf ↦ ?_⟩
  · obtain ⟨done, hb, hdone⟩ := build_balanced (ofTokens_ok_iff_balanced.1 ⟨p, hp⟩)
    rw [ofTokens, hb] at hp
    cases hp
    exact hdone
  · have h := build_flattens hf [] [] []
    rw [List.append_nil, placeAll_top, List.append_nil] at h
    rw [ofTokens, h]
    simp [build]

theorem ofTokens_unbalancedClose_iff (sp : Span) :
    ofTokens ts = .error (.unbalancedClose sp) ↔
      ∃ pre t post, ts = pre ++ t :: post ∧ t.kind = .closeParen ∧ Balanced pre ∧ t.span = sp := by
  refine ⟨fun he ↦ ?_, ?_⟩
  · by_cases hs : NoStrayFrom 0 ts
    · -- with no stray parenthesis the sequence is unbalanced, so it fails at an open list
      have hnb : ¬ Balanced ts := fun h ↦ by
        obtain ⟨p, hp⟩ := ofTokens_ok_iff_balanced.2 h
        rw [hp] at he
        cases he
      obtain ⟨_, _, _, _, _, _, he'⟩ := ofTokens_fails_at_open hs hnb
      rw [he] at he'
      cases he'
    · obtain ⟨pre, t, post, hts, hc, hpre, he'⟩ := ofTokens_fails_at_stray hs
      rw [he] at he'
      cases he'
      exact ⟨pre, t, post, hts, hc, hpre, rfl⟩
  · rintro ⟨pre, t, post, rfl, hc, hpre, rfl⟩
    exact build_stray_close hc hpre

theorem ofTokens_unbalancedParen_iff (sp : Span) :
    ofTokens ts = .error (.unbalancedParen sp) ↔ NoStrayFrom 0 ts ∧
      ∃ pre t post, ts = pre ++ t :: post ∧ t.kind = .openParen ∧ Balanced post ∧ t.span = sp := by
  refine ⟨fun he ↦ ?_, ?_⟩
  · by_cases hs : NoStrayFrom 0 ts
    · have hnb : ¬ Balanced ts := fun h ↦ by
        obtain ⟨p, hp⟩ := ofTokens_ok_iff_balanced.2 h
        rw [hp] at he
        cases he
      obtain ⟨pre, t, post, hts, ho, hpost, he'⟩ := ofTokens_fails_at_open hs hnb
      rw [he] at he'
      cases he'
      exact ⟨hs, pre, t, post, hts, ho, hpost, rfl⟩
    · -- a stray parenthesis makes the reader fail there instead
      obtain ⟨_, _, _, _, _, _, he'⟩ := ofTokens_fails_at_stray hs
      rw [he] at he'
      cases he'
  · rintro ⟨hs, pre, t, post, rfl, ho, hpost, rfl⟩
    exact build_innermost_open ho hpost hs

theorem ofTokens_ok_iff_flattens_fromTo (hord : InOrder ts) (p : List Node) :
    ofTokens ts = .ok p ↔ Flattens Span.fromTo p ts := by
  rw [ofTokens_ok_iff_flattens p]
  exact ⟨fun h ↦ h.rejoin (fun a b ha hab hb ↦ Span.merge_eq_fromTo ha hab hb) hord,
    fun h ↦ h.rejoin (fun a b ha hab hb ↦ (Span.merge_eq_fromTo ha hab hb).symm) hord⟩

end Outcomes

/-- The reader accepts exactly the balanced token sequences and reads from one the unique forest
that flattens back to it: atoms keep their token's span and are integers exactly when their text
reads as one, and a list spans both its parentheses, from the opening one's start to the closing
one's end when the tokens are in order. On any other sequence it stops at the first closing
parenthesis that closes nothing, if there is one, and otherwise at the opening parenthesis of the
innermost list left open; it never reports a lexing fault. -/
theorem ofTokens_reads_balanced (ts : List Token) :
    (∀ p, ofTokens ts = .ok p ↔ Flattens Span.merge p ts) ∧
    (InOrder ts → ∀ p, ofTokens ts = .ok p ↔ Flattens Span.fromTo p ts) ∧
    ((∃ p, ofTokens ts = .ok p) ↔ Balanced ts) ∧
    (∀ sp, ofTokens ts = .error (.unbalancedClose sp) ↔
      ∃ pre t post, ts = pre ++ t :: post ∧ t.kind = .closeParen ∧ Balanced pre ∧ t.span = sp) ∧
    (∀ sp, ofTokens ts = .error (.unbalancedParen sp) ↔ NoStrayFrom 0 ts ∧
      ∃ pre t post, ts = pre ++ t :: post ∧ t.kind = .openParen ∧ Balanced post ∧ t.span = sp) ∧
    ∀ e, ofTokens ts ≠ .error (.lex e) :=
  ⟨ofTokens_ok_iff_flattens, ofTokens_ok_iff_flattens_fromTo, ofTokens_ok_iff_balanced,
    ofTokens_unbalancedClose_iff, ofTokens_unbalancedParen_iff, build_ne_lex ts [] []⟩

theorem ofTokens_list_spans_parens :
    InOrder [⟨.openParen, "(", ⟨0, 1⟩⟩, ⟨.word, "a", ⟨1, 2⟩⟩, ⟨.word, "7", ⟨3, 4⟩⟩,
        ⟨.closeParen, ")", ⟨4, 5⟩⟩] ∧
      Flattens Span.fromTo [.list [.atom "a" ⟨1, 2⟩, .int 7 ⟨3, 4⟩] ⟨0, 5⟩]
        [⟨.openParen, "(", ⟨0, 1⟩⟩, ⟨.word, "a", ⟨1, 2⟩⟩, ⟨.word, "7", ⟨3, 4⟩⟩,
          ⟨.closeParen, ")", ⟨4, 5⟩⟩] :=
  have hord : InOrder [⟨.openParen, "(", ⟨0, 1⟩⟩, ⟨.word, "a", ⟨1, 2⟩⟩, ⟨.word, "7", ⟨3, 4⟩⟩,
      ⟨.closeParen, ")", ⟨4, 5⟩⟩] := by decide
  ⟨hord, ((ofTokens_reads_balanced _).2.1 hord _).1 rfl⟩

end WordLang

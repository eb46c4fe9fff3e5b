import Mathlib.Data.List.Basic
import Mathlib.Data.Option.Basic

/-!
# Machines driven by labels

A *machine* is a partial step function.  A label says what happens next: which
party moves, and every choice that the party does not make itself (a message
that arrives, the branch a scheduler takes, the outcome of a system call).
`next s l = none` says that `l` cannot happen in `s`.  So a run is a list of
labels, and everything here is computable.

*Runs.*  `exec` runs a list of labels, and `Reaches` says that some run gets from
one state to another.  `Visits P` says that every state on the
way satisfies `P`, and `Meets G` says that every step on the way is taken from
a state and under a label that satisfy `G`.  `Ascends R` relates every state on
the way to all later ones.

*Rules.*  `visits_invariant` and `visits_of_meets` are the induction over a run.
`visits_iff_meets` is its sharp form: when a step keeps `P` exactly if it
satisfies `G`, the runs that stay inside `P` are the runs whose steps satisfy
`G`.  `ascends_of_meets` is the rule for what only grows.  `exec_rel` is the
simulation of one machine by another.  `collect_open` and `collect_ledger` are
the induction for histories: when every step balances what it puts out against
what falls due, so does the whole run.  `not_inevitable` is the rule for runs
that need not end: an invariant that some step keeps.
-/

universe u v w

namespace Foundations

/-- A partial step function over the states `σ` and the labels `ℓ`. -/
structure Machine (σ : Type u) (ℓ : Type v) where
  /-- The state after a label, if the label is possible. -/
  next : σ → ℓ → Option σ

namespace Machine

variable {σ : Type u} {ℓ : Type v} {ω : Type w} (M : Machine σ ℓ)

/-! ## Runs -/

/-- The state after the labels of a list, in order. -/
def exec : σ → List ℓ → Option σ
  | s, [] => some s
  | s, l :: ls => (M.next s l).bind fun s' => exec s' ls

theorem exec_cons (s : σ) (l : ℓ) (ls : List ℓ) :
    M.exec s (l :: ls) = (M.next s l).bind fun s' => M.exec s' ls := rfl

/-- A run splits at its first label. -/
theorem exec_cons_eq_some {s s'' : σ} {l : ℓ} {ls : List ℓ} :
    M.exec s (l :: ls) = some s'' ↔ ∃ s', M.next s l = some s' ∧ M.exec s' ls = some s'' := by
  rw [exec_cons, Option.bind_eq_some_iff]

/-- Runs compose. -/
theorem exec_append {s s' : σ} {ls : List ℓ} (h : M.exec s ls = some s') (ls' : List ℓ) :
    M.exec s (ls ++ ls') = M.exec s' ls' := by
  induction ls generalizing s with
  | nil =>
      cases h
      rfl
  | cons l ls ih =>
      obtain ⟨s₁, hl, hrest⟩ := M.exec_cons_eq_some.mp h
      rw [List.cons_append, exec_cons, hl, Option.bind_some]
      exact ih hrest

/-- A run splits anywhere. -/
theorem exec_append_eq_some {s s'' : σ} {ls ls' : List ℓ} :
    M.exec s (ls ++ ls') = some s'' ↔ ∃ s', M.exec s ls = some s' ∧ M.exec s' ls' = some s'' := by
  constructor
  · intro h
    induction ls generalizing s with
    | nil => exact ⟨s, rfl, h⟩
    | cons l ls ih =>
        obtain ⟨s₁, hl, hrest⟩ := M.exec_cons_eq_some.mp h
        obtain ⟨s', hrun, hrun'⟩ := ih hrest
        exact ⟨s', M.exec_cons_eq_some.mpr ⟨s₁, hl, hrun⟩, hrun'⟩
  · rintro ⟨s', hrun, hrun'⟩
    rw [M.exec_append hrun, hrun']

/-- Every state of a run satisfies `P`, the first and the last included. -/
def Visits (P : σ → Prop) : σ → List ℓ → Prop
  | s, [] => P s
  | s, l :: ls => P s ∧ ∀ s', M.next s l = some s' → Visits P s' ls

/-- Every step of a run is taken where `G` holds. -/
def Meets (G : σ → ℓ → Prop) : σ → List ℓ → Prop
  | _, [] => True
  | s, l :: ls => ∀ s', M.next s l = some s' → G s l ∧ Meets G s' ls

theorem Visits.head {P : σ → Prop} {s : σ} {ls : List ℓ} (h : M.Visits P s ls) : P s := by
  cases ls with
  | nil => exact h
  | cons l ls => exact h.1

/-- The state a run ends in is one of the states it visits. -/
theorem Visits.last {P : σ → Prop} {s s' : σ} {ls : List ℓ} (h : M.Visits P s ls)
    (hrun : M.exec s ls = some s') : P s' := by
  induction ls generalizing s with
  | nil =>
      cases hrun
      exact h
  | cons l ls ih =>
      obtain ⟨s₁, hl, hrest⟩ := M.exec_cons_eq_some.mp hrun
      exact ih (h.2 s₁ hl) hrest

/-- The states of a run are those that its parts end in. -/
theorem visits_iff_exec {P : σ → Prop} {s : σ} {ls : List ℓ} :
    M.Visits P s ls ↔ ∀ ls₁ ls₂ s', ls = ls₁ ++ ls₂ → M.exec s ls₁ = some s' → P s' := by
  induction ls generalizing s with
  | nil =>
      constructor
      · intro h ls₁ ls₂ s' hsplit hrun
        obtain ⟨rfl, -⟩ := List.append_eq_nil_iff.mp hsplit.symm
        cases hrun
        exact h
      · exact fun h => h [] [] s rfl rfl
  | cons l ls ih =>
      constructor
      · rintro ⟨hs, hrest⟩ ls₁ ls₂ s' hsplit hrun
        cases ls₁ with
        | nil =>
            cases hrun
            exact hs
        | cons l₁ ls₁ =>
            obtain ⟨rfl, rfl⟩ := List.cons.inj hsplit
            obtain ⟨s₁, hl, hrun'⟩ := M.exec_cons_eq_some.mp hrun
            exact ih.mp (hrest s₁ hl) ls₁ ls₂ s' rfl hrun'
      · intro h
        refine ⟨h [] (l :: ls) s rfl rfl, ?_⟩
        intro s₁ hl
        refine ih.mpr fun ls₁ ls₂ s' hsplit hrun => ?_
        exact h (l :: ls₁) ls₂ s' (by rw [hsplit, List.cons_append])
          (M.exec_cons_eq_some.mpr ⟨s₁, hl, hrun⟩)

/-- What does not hold at the start of a run and holds at its end, a step brings about. -/
theorem exists_step {P : σ → Prop} {s s' : σ} {ls : List ℓ} (hrun : M.exec s ls = some s')
    (hs : ¬ P s) (hs' : P s') :
    ∃ ls₁ l ls₂ s₁ s₂, ls = ls₁ ++ l :: ls₂ ∧ M.exec s ls₁ = some s₁ ∧ M.next s₁ l = some s₂ ∧
      M.exec s₂ ls₂ = some s' ∧ ¬ P s₁ ∧ P s₂ := by
  induction ls generalizing s with
  | nil =>
      cases hrun
      exact absurd hs' hs
  | cons l ls ih =>
      obtain ⟨s₀, hl, hrest⟩ := M.exec_cons_eq_some.mp hrun
      by_cases hs₀ : P s₀
      · exact ⟨[], l, ls, s, s₀, rfl, rfl, hl, hrest, hs, hs₀⟩
      · obtain ⟨ls₁, l', ls₂, s₁, s₂, rfl, hbefore, hstep⟩ := ih hrest hs₀
        exact ⟨l :: ls₁, l', ls₂, s₁, s₂, rfl, M.exec_cons_eq_some.mpr ⟨s₀, hl, hbefore⟩, hstep⟩

/-! ## Invariants -/

/-- A property that every step keeps holds in every state of a run. -/
theorem visits_invariant {I : σ → Prop}
    (hstep : ∀ s l s', I s → M.next s l = some s' → I s')
    {s : σ} (ls : List ℓ) (hI : I s) : M.Visits I s ls := by
  induction ls generalizing s with
  | nil => exact hI
  | cons l ls ih => exact ⟨hI, fun s' hl => ih (hstep s l s' hI hl)⟩

/-- A property that every step keeps holds at the end of every run. -/
theorem exec_invariant {I : σ → Prop}
    (hstep : ∀ s l s', I s → M.next s l = some s' → I s')
    {s s' : σ} {ls : List ℓ} (hI : I s) (hrun : M.exec s ls = some s') : I s' :=
  (M.visits_invariant hstep ls hI).last M hrun

/-- A property that every step satisfying `G` keeps holds in every state of a
run whose steps satisfy `G`. -/
theorem visits_of_meets {I : σ → Prop} {G : σ → ℓ → Prop}
    (hstep : ∀ s l s', I s → G s l → M.next s l = some s' → I s')
    {s : σ} {ls : List ℓ} (hI : I s) (hG : M.Meets G s ls) : M.Visits I s ls := by
  induction ls generalizing s with
  | nil => exact hI
  | cons l ls ih =>
      refine ⟨hI, ?_⟩
      intro s' hl
      obtain ⟨hg, hrest⟩ := hG s' hl
      exact ih (hstep s l s' hI hg hl) hrest

/-- A condition on labels alone is met step by step. -/
theorem meets_of_forall {G : ℓ → Prop} {ls : List ℓ} (h : ∀ l ∈ ls, G l) (s : σ) :
    M.Meets (fun _ l => G l) s ls := by
  induction ls generalizing s with
  | nil => trivial
  | cons l ls ih =>
      intro s' _
      exact ⟨h l (List.mem_cons_self ..), ih (fun l' hl' => h l' (List.mem_cons_of_mem _ hl')) s'⟩

/-- A condition that every possible step satisfies is met. -/
theorem meets_of_next {G : σ → ℓ → Prop} (h : ∀ s l s', M.next s l = some s' → G s l) (s : σ)
    (ls : List ℓ) : M.Meets G s ls := by
  induction ls generalizing s with
  | nil => trivial
  | cons l ls ih => exact fun s' hl => ⟨h s l s' hl, ih s'⟩

/-- Conditions that agree on the possible steps are met by the same runs. -/
theorem meets_congr {G G' : σ → ℓ → Prop}
    (h : ∀ s l s', M.next s l = some s' → (G s l ↔ G' s l)) (s : σ) (ls : List ℓ) :
    M.Meets G s ls ↔ M.Meets G' s ls := by
  induction ls generalizing s with
  | nil => exact Iff.rfl
  | cons l ls ih =>
      exact forall_congr' fun s' => forall_congr' fun hl => and_congr (h s l s' hl) (ih s')

/-- The step after a part of a run is one of those that meet the condition. -/
theorem Meets.step {G : σ → ℓ → Prop} {s s₁ s' : σ} {ls ls' : List ℓ} {l : ℓ}
    (h : M.Meets G s (ls ++ l :: ls')) (hrun : M.exec s ls = some s₁)
    (hl : M.next s₁ l = some s') : G s₁ l := by
  induction ls generalizing s with
  | nil =>
      cases hrun
      exact (h s' hl).1
  | cons l₀ ls ih =>
      obtain ⟨s₂, hl₀, hrest⟩ := M.exec_cons_eq_some.mp hrun
      exact ih (h s₂ hl₀).2 hrest

theorem Visits.mono {P Q : σ → Prop} (hPQ : ∀ s, P s → Q s) {s : σ} {ls : List ℓ}
    (h : M.Visits P s ls) : M.Visits Q s ls := by
  induction ls generalizing s with
  | nil => exact hPQ s h
  | cons l ls ih => exact ⟨hPQ s h.1, fun s' hl => ih (h.2 s' hl)⟩

/-- A property that no step repairs holds in every state of a run when it holds at the
end. -/
theorem visits_iff_last {P : σ → Prop} (hstep : ∀ s l s', M.next s l = some s' → P s' → P s)
    {s s' : σ} {ls : List ℓ} (hrun : M.exec s ls = some s') : M.Visits P s ls ↔ P s' := by
  refine ⟨fun h => h.last M hrun, fun h => ?_⟩
  induction ls generalizing s with
  | nil =>
      cases hrun
      exact h
  | cons l ls ih =>
      obtain ⟨s₁, hl, hrest⟩ := M.exec_cons_eq_some.mp hrun
      have hvisits := ih hrest
      refine ⟨hstep s l s₁ hl hvisits.head, ?_⟩
      intro s₂ hl₂
      obtain rfl : s₁ = s₂ := Option.some.inj (hl.symm.trans hl₂)
      exact hvisits

/-- The sharp form of the invariant rule.  `J` holds in any case, and inside
`J` a step from `P` stays in `P` exactly when it satisfies `G`. -/
theorem visits_iff_meets {J P : σ → Prop} {G : σ → ℓ → Prop}
    (hJ : ∀ s l s', J s → M.next s l = some s' → J s')
    (hP : ∀ s l s', J s → P s → M.next s l = some s' → (P s' ↔ G s l))
    {s : σ} {ls : List ℓ} (hJs : J s) (hPs : P s) : M.Visits P s ls ↔ M.Meets G s ls := by
  induction ls generalizing s with
  | nil => exact ⟨fun _ => trivial, fun _ => hPs⟩
  | cons l ls ih =>
      constructor
      · intro hv s' hl
        have hPs' : P s' := (hv.2 s' hl).head
        exact ⟨(hP s l s' hJs hPs hl).mp hPs',
          (ih (hJ s l s' hJs hl) hPs').mp (hv.2 s' hl)⟩
      · intro hm
        refine ⟨hPs, ?_⟩
        intro s' hl
        obtain ⟨hg, hrest⟩ := hm s' hl
        exact (ih (hJ s l s' hJs hl) ((hP s l s' hJs hPs hl).mpr hg)).mpr hrest

/-- Every state of a run is related to all later ones. -/
def Ascends (R : σ → σ → Prop) (s : σ) (ls : List ℓ) : Prop :=
  ∀ ls₁ ls₂ s₁, ls = ls₁ ++ ls₂ → M.exec s ls₁ = some s₁ → M.Visits (R s₁) s₁ ls₂

/-- A preorder that every step satisfying `G` ascends is ascended by the runs
whose steps satisfy `G`. -/
theorem ascends_of_meets {I : σ → Prop} {G : σ → ℓ → Prop} {R : σ → σ → Prop}
    (hrefl : ∀ s, R s s) (htrans : ∀ a b c, R a b → R b c → R a c)
    (hstep : ∀ s l s', I s → G s l → M.next s l = some s' → I s' ∧ R s s')
    {s : σ} {ls : List ℓ} (hI : I s) (hG : M.Meets G s ls) : M.Ascends R s ls := by
  intro ls₁ ls₂ s₁ hsplit hrun
  subst hsplit
  induction ls₁ generalizing s with
  | nil =>
      cases hrun
      have hkeep : ∀ s l s', I s ∧ R s₁ s → G s l → M.next s l = some s' → I s' ∧ R s₁ s' := by
        intro s l s' h hg hl
        obtain ⟨hI', hR⟩ := hstep s l s' h.1 hg hl
        exact ⟨hI', htrans s₁ s s' h.2 hR⟩
      exact (M.visits_of_meets hkeep ⟨hI, hrefl s₁⟩ hG).mono M fun _ h => h.2
  | cons l ls₁ ih =>
      obtain ⟨s', hl, hrest⟩ := M.exec_cons_eq_some.mp hrun
      obtain ⟨hg, hGrest⟩ := hG s' hl
      exact ih (hstep s l s' hI hg hl).1 hrest hGrest

/-! ## Reachability -/

/-- Some run gets from one state to the other. -/
def Reaches (s s' : σ) : Prop := ∃ ls, M.exec s ls = some s'

theorem Reaches.refl (s : σ) : M.Reaches s s := ⟨[], rfl⟩

theorem Reaches.head {s s₁ s' : σ} {l : ℓ} (hl : M.next s l = some s₁) (h : M.Reaches s₁ s') :
    M.Reaches s s' := by
  obtain ⟨ls, hrun⟩ := h
  exact ⟨l :: ls, M.exec_cons_eq_some.mpr ⟨s₁, hl, hrun⟩⟩

/-- A property that every step keeps holds in every state that is reached. -/
theorem Reaches.invariant {I : σ → Prop} (hstep : ∀ s l s', I s → M.next s l = some s' → I s')
    {s s' : σ} (h : M.Reaches s s') (hI : I s) : I s' := by
  obtain ⟨ls, hrun⟩ := h
  exact M.exec_invariant hstep hI hrun

theorem Reaches.trans {s s₁ s' : σ} (h : M.Reaches s s₁) (h' : M.Reaches s₁ s') :
    M.Reaches s s' := by
  obtain ⟨ls, hrun⟩ := h
  obtain ⟨ls', hrun'⟩ := h'
  exact ⟨ls ++ ls', (M.exec_append hrun ls').trans hrun'⟩

/-! ## Simulation -/

/-- Two machines that keep a relation step by step, and take the same steps,
keep it over a run, and take the same runs. -/
theorem exec_rel {τ : Type w} {N : Machine τ ℓ} {R : σ → τ → Prop}
    (hstep : ∀ s t l, R s t → Option.Rel R (M.next s l) (N.next t l))
    {s : σ} {t : τ} (h : R s t) (ls : List ℓ) : Option.Rel R (M.exec s ls) (N.exec t ls) := by
  induction ls generalizing s t with
  | nil => exact .some h
  | cons l ls ih =>
      have hnext := hstep s t l h
      rw [exec_cons, exec_cons]
      generalize M.next s l = s' at hnext ⊢
      generalize N.next t l = t' at hnext ⊢
      cases hnext with
      | none => exact .none
      | some h' => exact ih h'

/-- A machine whose states are another's with more in them takes the same runs. -/
theorem exec_map {τ : Type w} {N : Machine τ ℓ} {f : σ → τ}
    (hstep : ∀ s l, (M.next s l).map f = N.next (f s) l) (s : σ) (ls : List ℓ) :
    (M.exec s ls).map f = N.exec (f s) ls := by
  induction ls generalizing s with
  | nil => rfl
  | cons l ls ih =>
      rw [exec_cons, exec_cons, ← hstep s l]
      cases M.next s l with
      | none => rfl
      | some s' => exact ih s'

/-! ## Histories -/

/-- What the steps of a run yield, in order. -/
def collect (f : σ → ℓ → List ω) : σ → List ℓ → List ω
  | _, [] => []
  | s, l :: ls =>
      match M.next s l with
      | none => []
      | some s' => f s l ++ collect f s' ls

theorem collect_cons {f : σ → ℓ → List ω} {s s' : σ} {l : ℓ} (hl : M.next s l = some s')
    (ls : List ℓ) : M.collect f s (l :: ls) = f s l ++ M.collect f s' ls := by
  simp only [collect, hl]

/-- The history of the parts. -/
theorem flatMap_collect {δ : Type w} (f : σ → ℓ → List ω) (g : ω → List δ) (s : σ) (ls : List ℓ) :
    (M.collect f s ls).flatMap g = M.collect (fun s l => (f s l).flatMap g) s ls := by
  induction ls generalizing s with
  | nil => rfl
  | cons l ls ih =>
      simp only [collect]
      split
      next => rfl
      next s₁ hl => rw [List.flatMap_append, ih s₁]

theorem filterMap_collect_eq {δ : Type w} (f : σ → ℓ → List ω) (g : ω → Option δ) (s : σ)
    (ls : List ℓ) :
    (M.collect f s ls).filterMap g = M.collect (fun s l => (f s l).filterMap g) s ls := by
  simp only [List.filterMap_eq_flatMap_toList, M.flatMap_collect]

/-- The history of a run that the labels alone decide. -/
theorem collect_flatMap {p : ℓ → List ω} {s s' : σ} {ls : List ℓ} (hrun : M.exec s ls = some s') :
    M.collect (fun _ l => p l) s ls = ls.flatMap p := by
  induction ls generalizing s with
  | nil => rfl
  | cons l ls ih =>
      obtain ⟨s₁, hl, hrest⟩ := M.exec_cons_eq_some.mp hrun
      rw [M.collect_cons hl, ih hrest, List.flatMap_cons]

theorem collect_labels {p : ℓ → Option ω} {s s' : σ} {ls : List ℓ} (hrun : M.exec s ls = some s') :
    M.collect (fun _ l => (p l).toList) s ls = ls.filterMap p := by
  rw [M.collect_flatMap hrun, List.filterMap_eq_flatMap_toList]

/-- A part of the history that the labels alone decide. -/
theorem filterMap_collect {δ : Type w} {f : σ → ℓ → List ω} {g : ω → Option δ} {p : ℓ → Option δ}
    (h : ∀ s l, (f s l).filterMap g = (p l).toList) {s s' : σ} {ls : List ℓ}
    (hrun : M.exec s ls = some s') : (M.collect f s ls).filterMap g = ls.filterMap p := by
  rw [filterMap_collect_eq]
  simp only [h]
  exact M.collect_labels hrun

/-- A part of what the steps yield is a part of the history. -/
theorem collect_sublist {f g : σ → ℓ → List ω} (h : ∀ s l, (f s l).Sublist (g s l)) (s : σ)
    (ls : List ℓ) : (M.collect f s ls).Sublist (M.collect g s ls) := by
  induction ls generalizing s with
  | nil => exact List.Sublist.refl _
  | cons l ls ih =>
      simp only [collect]
      split
      next => exact List.Sublist.refl _
      next s₁ _ => exact (h s l).append (ih s₁)

/-- The history only grows. -/
theorem prefix_collect (f : σ → ℓ → List ω) (s : σ) {ls ls' : List ℓ} (h : ls <+: ls') :
    M.collect f s ls <+: M.collect f s ls' := by
  obtain ⟨rest, rfl⟩ := h
  induction ls generalizing s with
  | nil => exact List.nil_prefix
  | cons l ls ih =>
      rw [List.cons_append]
      simp only [collect]
      split
      next => exact List.prefix_refl _
      next s₁ _ => exact (List.prefix_append_right_inj _).mpr (ih s₁)

/-- Open accounts.  `O s owed` says what may be owed in a state.  When every
step pays (`out`) from what is owed and from what it adds (`script`), and leaves
the rest owed, so does the whole run. -/
theorem collect_open {G : σ → ℓ → Prop} {out script : σ → ℓ → List ω} {O : σ → List ω → Prop}
    (hstep : ∀ s l s' owed, G s l → M.next s l = some s' → O s owed →
      ∃ owed', O s' owed' ∧ out s l ++ owed' = owed ++ script s l)
    {s s' : σ} {ls : List ℓ} {owed : List ω} (hG : M.Meets G s ls) (howed : O s owed)
    (hrun : M.exec s ls = some s') :
    ∃ owed', O s' owed' ∧ M.collect out s ls ++ owed' = owed ++ M.collect script s ls := by
  induction ls generalizing s owed with
  | nil =>
      cases hrun
      exact ⟨owed, howed, (List.append_nil owed).symm⟩
  | cons l ls ih =>
      obtain ⟨s₁, hl, hrest⟩ := M.exec_cons_eq_some.mp hrun
      obtain ⟨hg, hGrest⟩ := hG s₁ hl
      obtain ⟨owed₁, howed₁, hpaid⟩ := hstep s l s₁ owed hg hl howed
      obtain ⟨owed', howed', hrestPaid⟩ := ih hGrest howed₁ hrest
      refine ⟨owed', howed', ?_⟩
      rw [M.collect_cons hl, M.collect_cons hl, List.append_assoc, hrestPaid, ← List.append_assoc,
        hpaid, List.append_assoc]

/-- A ledger.  When every step puts out (`out`) what is due before it, adds
(`script`) to what is due and leaves the rest due, the whole run does. -/
theorem collect_ledger {G : σ → ℓ → Prop} {out script : σ → ℓ → List ω} {due : σ → List ω}
    (hstep : ∀ s l s', G s l → M.next s l = some s' → out s l ++ due s' = due s ++ script s l)
    {s s' : σ} {ls : List ℓ} (hG : M.Meets G s ls) (hrun : M.exec s ls = some s') :
    M.collect out s ls ++ due s' = due s ++ M.collect script s ls := by
  obtain ⟨owed, rfl, hpaid⟩ := M.collect_open (O := fun s owed => owed = due s)
    (fun s l s' owed hg hl howed => ⟨due s', rfl, howed ▸ hstep s l s' hg hl⟩) hG rfl hrun
  exact hpaid

/-- What the steps of a run add to a part of the state that only grows. -/
def growth (M : Machine σ ℓ) (part : σ → List ω) (s : σ) (l : ℓ) : List ω :=
  match M.next s l with
  | none => []
  | some s' => (part s').drop (part s).length

theorem growth_eq {part : σ → List ω} {s s' : σ} {l : ℓ} {added : List ω}
    (hl : M.next s l = some s') (h : part s' = part s ++ added) : M.growth part s l = added := by
  simp only [growth, hl, h, List.drop_left]

/-- A part of the state that only grows is the history of what is added to it. -/
theorem collect_growth {part : σ → List ω}
    (hstep : ∀ s l s', M.next s l = some s' → part s <+: part s')
    {s s' : σ} {ls : List ℓ} (hrun : M.exec s ls = some s') :
    part s' = part s ++ M.collect (M.growth part) s ls := by
  induction ls generalizing s with
  | nil =>
      cases hrun
      exact (List.append_nil _).symm
  | cons l ls ih =>
      obtain ⟨s₁, hl, hrest⟩ := M.exec_cons_eq_some.mp hrun
      obtain ⟨added, hadded⟩ := hstep s l s₁ hl
      rw [M.collect_cons hl, M.growth_eq hl hadded.symm, ih hrest, ← hadded, List.append_assoc]

/-- What is left of an account at the end of a run: what is due, or at most `n`
entries when the run has ended. -/
def Leaves (n : ℕ) (ended : Bool) (due rest : List ω) : Prop :=
  rest.length ≤ n ∧ (ended = false → rest = due)

/-- An account of at most `n` entries that every step balances is balanced over a
run.  The step that ends the run may leave up to `n` entries open for good. -/
theorem collect_account (ended : σ → Bool) (out script : σ → ℓ → List ω) (due : σ → List ω)
    (n : ℕ)
    (hbound : ∀ s, ended s = false → (due s).length ≤ n)
    (hlive : ∀ s l s', ended s = false → M.next s l = some s' → ended s' = false →
      out s l ++ due s' = due s ++ script s l)
    (hend : ∀ s l s', ended s = false → M.next s l = some s' → ended s' = true →
      ∃ rest, rest.length ≤ n ∧ out s l ++ rest = due s ++ script s l)
    (hafter : ∀ s l s', ended s = true → M.next s l = some s' →
      ended s' = true ∧ out s l = [] ∧ script s l = [])
    {s s' : σ} {ls : List ℓ} (hstart : ended s = false) (hrun : M.exec s ls = some s') :
    ∃ rest, Leaves n (ended s') (due s') rest ∧
      M.collect out s ls ++ rest = due s ++ M.collect script s ls := by
  refine M.collect_open (G := fun _ _ => True)
    (O := fun s rest => Leaves n (ended s) (due s) rest) ?_
    (M.meets_of_next (fun _ _ _ _ => trivial) s ls) ⟨hbound s hstart, fun _ => rfl⟩ hrun
  intro s l s' owed _ hl howed
  obtain ⟨hlength, howed⟩ := howed
  cases hs : ended s with
  | true =>
      obtain ⟨hs', hout, hscript⟩ := hafter s l s' hs hl
      refine ⟨owed, ⟨hlength, fun h => ?_⟩, by rw [hout, hscript, List.append_nil, List.nil_append]⟩
      rw [hs'] at h
      cases h
  | false =>
      rw [howed hs]
      cases hs' : ended s' with
      | false => exact ⟨due s', ⟨hbound s' hs', fun _ => rfl⟩, hlive s l s' hs hl hs'⟩
      | true =>
          obtain ⟨rest, hrest, hpaid⟩ := hend s l s' hs hl hs'
          exact ⟨rest, ⟨hrest, nofun⟩, hpaid⟩

end Machine

/-! ## Inevitability -/

/-- However the steps `R` go on from a state, they can go on until they get to
`Q`, and they get there. -/
inductive Inevitable {σ : Type u} (R : σ → σ → Prop) (Q : σ → Prop) : σ → Prop where
  | now {s : σ} (h : Q s) : Inevitable R Q s
  | later {s : σ} (hgo : ∃ s', R s s') (h : ∀ s', R s s' → Inevitable R Q s') : Inevitable R Q s

/-- Steps that can stay inside `I`, and so outside `Q`, need not get to `Q`. -/
theorem not_inevitable {σ : Type u} {R : σ → σ → Prop} {Q I : σ → Prop}
    (hQ : ∀ s, I s → ¬ Q s) (hR : ∀ s, I s → ∃ s', R s s' ∧ I s') {s : σ} (h : I s) :
    ¬ Inevitable R Q s := by
  intro hin
  induction hin with
  | now hq => exact hQ _ h hq
  | later _ _ ih =>
      obtain ⟨s', hs', hI⟩ := hR _ h
      exact ih s' hs' hI

end Foundations

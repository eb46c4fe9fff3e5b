import Mathlib.Data.List.Induction
import MultideviceClient.Foundations.Link

/-!
# Systems made of parts

A *system* is a machine whose state holds the states of several parts, with
queues between them.  This module has what is needed to read the behaviour of the
system off the behaviour of its parts.

*Histories.*  `exec_history` is the induction over a run for a property of the
state and of the labels so far, and `exec_part` for what only grows.
`exec_projects` is the simulation of a system by another one that answers each step
with any number of its own, `exec_yields` adds what the two yield, and in
`exec_simulates` the label decides whether there is an answer.

*Queues.*  What passes a queue comes out in the order in which it went in
(`transfer_flow`).

*Settling.*  Every part and every queue settles an account, up to what it has in
hand (`Settles`).  When what comes out of one part goes into the next one, the
accounts chain (`Settles.trans`), and what may be missing at the end is what all
of them have in hand.
-/

universe u v w x

namespace Foundations

/-! ## Histories -/

namespace Machine

variable {σ : Type u} {ℓ : Type v} {τ : Type w} {κ : Type x} (M : Machine σ ℓ)

/-- A property of the labels so far and of the state, kept by every step, holds at
the end of every run. -/
theorem exec_history {I : List ℓ → σ → Prop} {s s' : σ} {ls : List ℓ} (hstart : I [] s)
    (hstep : ∀ ls s₁ l s₂, I ls s₁ → M.next s₁ l = some s₂ → I (ls ++ [l]) s₂)
    (hrun : M.exec s ls = some s') : I ls s' := by
  induction ls using List.reverseRecOn generalizing s' with
  | nil =>
      cases hrun
      exact hstart
  | append_singleton ls l ih =>
      obtain ⟨s₁, hpre, hlast⟩ := M.exec_append_eq_some.mp hrun
      obtain ⟨s₂, hl, hend⟩ := M.exec_cons_eq_some.mp hlast
      cases hend
      exact hstep ls s₁ l _ (ih hpre) hl

/-- The part of a history that one more label adds to. -/
theorem filterMap_concat (p : ℓ → Option κ) (ls : List ℓ) (l : ℓ) :
    (ls ++ [l]).filterMap p = ls.filterMap p ++ (p l).toList := by
  rw [List.filterMap_append]
  cases hp : p l <;> simp [hp]

/-- A run with one more label. -/
theorem exec_concat {s s₁ s₂ : σ} {ls : List ℓ} {l : ℓ} (hrun : M.exec s ls = some s₁)
    (hl : M.next s₁ l = some s₂) : M.exec s (ls ++ [l]) = some s₂ :=
  M.exec_append_eq_some.mpr ⟨s₁, hrun, M.exec_cons_eq_some.mpr ⟨s₂, hl, rfl⟩⟩

/-- A part of the state that only grows is the history of what the steps add to it. -/
theorem exec_part {ω : Type*} {part : σ → List ω} {added : σ → ℓ → List ω}
    (hstep : ∀ s l s', M.next s l = some s' → part s' = part s ++ added s l)
    {s s' : σ} {ls : List ℓ} (hrun : M.exec s ls = some s') :
    part s' = part s ++ M.collect added s ls := by
  induction ls generalizing s with
  | nil =>
      cases hrun
      exact (List.append_nil _).symm
  | cons l ls ih =>
      obtain ⟨s₁, hl, hrest⟩ := M.exec_cons_eq_some.mp hrun
      rw [M.collect_cons hl, ih hrest, hstep s l s₁ hl, List.append_assoc]

/-- The history of a run that goes on. -/
theorem collect_append {ω : Type*} {f : σ → ℓ → List ω} {s s' : σ} {ls : List ℓ}
    (hrun : M.exec s ls = some s') (ls' : List ℓ) :
    M.collect f s (ls ++ ls') = M.collect f s ls ++ M.collect f s' ls' := by
  induction ls generalizing s with
  | nil =>
      cases hrun
      rfl
  | cons l ls ih =>
      obtain ⟨s₁, hl, hrest⟩ := M.exec_cons_eq_some.mp hrun
      rw [List.cons_append, M.collect_cons hl, M.collect_cons hl, ih hrest, List.append_assoc]

/-- A machine that answers every step with some steps of its own runs along, and yields
over the run what it yields over the answers. -/
theorem exec_yields {ω : Type*} {N : Machine τ κ} {answers : σ → ℓ → List κ}
    {R : σ → τ → Prop} {f : τ → κ → List ω} {yields : σ → ℓ → List ω}
    (hstep : ∀ s t l s', R s t → M.next s l = some s' →
      ∃ t', N.exec t (answers s l) = some t' ∧ R s' t' ∧ N.collect f t (answers s l) = yields s l)
    {s s' : σ} {t : τ} {ls : List ℓ} (h : R s t) (hrun : M.exec s ls = some s') :
    ∃ t', N.exec t (M.collect answers s ls) = some t' ∧ R s' t' ∧
      N.collect f t (M.collect answers s ls) = M.collect yields s ls := by
  induction ls generalizing s t with
  | nil =>
      cases hrun
      exact ⟨t, rfl, h, rfl⟩
  | cons l ls ih =>
      obtain ⟨s₁, hl, hrest⟩ := M.exec_cons_eq_some.mp hrun
      obtain ⟨t₁, hanswers, h₁, hyields⟩ := hstep s t l s₁ h hl
      obtain ⟨t', hexec, h', hrestYields⟩ := ih h₁ hrest
      refine ⟨t', ?_, h', ?_⟩
      · rw [M.collect_cons hl, N.exec_append hanswers]
        exact hexec
      · rw [M.collect_cons hl, M.collect_cons hl, N.collect_append hanswers, hyields, hrestYields]

/-- The same without what it yields. -/
theorem exec_projects {N : Machine τ κ} {answers : σ → ℓ → List κ} {R : σ → τ → Prop}
    (hstep : ∀ s t l s', R s t → M.next s l = some s' →
      ∃ t', N.exec t (answers s l) = some t' ∧ R s' t')
    {s s' : σ} {t : τ} {ls : List ℓ} (h : R s t) (hrun : M.exec s ls = some s') :
    ∃ t', N.exec t (M.collect answers s ls) = some t' ∧ R s' t' := by
  have hstep' : ∀ s t l s', R s t → M.next s l = some s' →
      ∃ t', N.exec t (answers s l) = some t' ∧ R s' t' ∧
        N.collect (fun _ _ => ([] : List Unit)) t (answers s l) = [] := by
    intro s t l s' h hl
    obtain ⟨t', hanswers, h'⟩ := hstep s t l s' h hl
    refine ⟨t', hanswers, h', ?_⟩
    rw [N.collect_flatMap hanswers]
    simp
  obtain ⟨t', hexec, h', -⟩ := M.exec_yields hstep' h hrun
  exact ⟨t', hexec, h'⟩

/-- A machine that answers every step with a step of its own, or with none, as the label
says, runs along. -/
theorem exec_simulates {N : Machine τ κ} {p : ℓ → Option κ} {R : σ → τ → Prop}
    (hstep : ∀ s t l s', R s t → M.next s l = some s' →
      ∃ t', N.exec t (p l).toList = some t' ∧ R s' t')
    {s s' : σ} {t : τ} {ls : List ℓ} (h : R s t) (hrun : M.exec s ls = some s') :
    ∃ t', N.exec t (ls.filterMap p) = some t' ∧ R s' t' := by
  rw [← M.collect_labels hrun]
  exact M.exec_projects hstep h hrun

end Machine

/-! ## Queues -/

section Queues

variable {α β : Type w}

/-- The item that a label puts into the outgoing queue. -/
def Port.puts : Port α β → List α
  | .send a => [a]
  | _ => []

/-- The item that a label takes from the incoming queue. -/
def Port.takes : Port α β → List β
  | .recv b => [b]
  | _ => []

/-- What a label puts in comes last, and what it takes came first. -/
theorem Link.transfer_flow [DecidableEq β] {c : Nat} {out out' : List α} {inc inc' : List β}
    {p : Port α β} (h : Link.transfer c out inc p = some (out', inc')) :
    out' = out ++ p.puts ∧ p.takes ++ inc' = inc := by
  cases p with
  | send a =>
      simp only [Link.transfer, Option.map_eq_some_iff, Link.push_eq_some] at h
      obtain ⟨_, ⟨-, rfl⟩, heq⟩ := h
      cases heq
      exact ⟨rfl, rfl⟩
  | recv b =>
      simp only [Link.transfer, Option.map_eq_some_iff, Link.pop_eq_some] at h
      obtain ⟨_, rfl, heq⟩ := h
      cases heq
      exact ⟨(List.append_nil _).symm, rfl⟩
  | idle =>
      cases h
      exact ⟨(List.append_nil _).symm, rfl⟩

/-- Take the items `as` out of a queue, if they are the oldest ones. -/
def Link.popAll [DecidableEq α] (chan : List α) : List α → Option (List α)
  | [] => some chan
  | a :: as => (Link.pop chan a).bind fun rest => popAll rest as

theorem Link.popAll_eq_some [DecidableEq α] {chan chan' as : List α} :
    Link.popAll chan as = some chan' ↔ chan = as ++ chan' := by
  induction as generalizing chan with
  | nil => simp [popAll]
  | cons a as ih =>
      simp only [popAll, Option.bind_eq_some_iff, Link.pop_eq_some, ih]
      constructor
      · rintro ⟨rest, rfl, rfl⟩
        rfl
      · rintro rfl
        exact ⟨as ++ chan', rfl, rfl⟩

/-- An account of a queue goes on when something is put in. -/
theorem flow_puts {out chan script : List α} (h : out ++ chan = script) (added : List α) :
    out ++ (chan ++ added) = script ++ added := by
  rw [← List.append_assoc, h]

/-- An account of a queue goes on when something is taken out. -/
theorem flow_takes {out chan chan' script taken : List α} (h : out ++ chan = script)
    (htaken : taken ++ chan' = chan) : (out ++ taken) ++ chan' = script := by
  rw [List.append_assoc, htaken, h]

end Queues

/-! ## Settling -/

/-- What was put out settles the script up to at most `n` entries, which are those
that are due, unless the account has been closed. -/
def Settles {ω : Type w} (n : Nat) (closed : Bool) (due out script : List ω) : Prop :=
  ∃ rest, Machine.Leaves n closed due rest ∧ out ++ rest = script

namespace Settles

variable {ω : Type w} {δ : Type x} {m n : Nat} {closed closed' : Bool}
  {due due' out mid script : List ω}

/-- The account of a queue that holds at most `n` entries. -/
theorem of_queue (hroom : due.length ≤ n) (h : out ++ due = script) :
    Settles n closed due out script :=
  ⟨due, ⟨hroom, fun _ => rfl⟩, h⟩

/-- Accounts chain: what the first one puts out is the script of the second one. -/
theorem trans (h : Settles m closed due out mid) (h' : Settles n closed' due' mid script) :
    Settles (m + n) (closed || closed') (due ++ due') out script := by
  obtain ⟨rest, ⟨hlength, hdue⟩, hout⟩ := h
  obtain ⟨rest', ⟨hlength', hdue'⟩, hmid⟩ := h'
  refine ⟨rest ++ rest', ⟨?_, ?_⟩, ?_⟩
  · rw [List.length_append]
    omega
  · intro hopen
    rw [Bool.or_eq_false_iff] at hopen
    rw [hdue hopen.1, hdue' hopen.2]
  · rw [← List.append_assoc, hout, hmid]

/-- A part of the entries is settled with the rest of them. -/
theorem filterMap (f : ω → Option δ) (h : Settles n closed due out script) :
    Settles n closed (due.filterMap f) (out.filterMap f) (script.filterMap f) := by
  obtain ⟨rest, ⟨hlength, hdue⟩, hout⟩ := h
  refine ⟨rest.filterMap f, ⟨?_, ?_⟩, ?_⟩
  · exact Nat.le_trans (List.length_filterMap_le f rest) hlength
  · intro hopen
    rw [hdue hopen]
  · rw [← hout, List.filterMap_append]

/-- A queue goes on with an account: what is taken out of it is settled, and what
waits in it is due. -/
theorem queued (f : δ → Option ω) {taken chan put : List δ}
    (h : Settles m closed due out (taken.filterMap f)) (hflow : taken ++ chan = put)
    (hroom : chan.length ≤ n) :
    Settles (m + n) closed (due ++ chan.filterMap f) out (put.filterMap f) := by
  have hqueue : Settles n false chan taken put := of_queue hroom hflow
  have htrans := h.trans (hqueue.filterMap f)
  rw [Bool.or_false] at htrans
  exact htrans

/-- An account that is closed earlier promises less. -/
theorem closed_mono (h : Settles n closed due out script)
    (hclosed : closed' = false → closed = false) : Settles n closed' due out script := by
  obtain ⟨rest, ⟨hlength, hdue⟩, hout⟩ := h
  exact ⟨rest, ⟨hlength, fun hopen => hdue (hclosed hopen)⟩, hout⟩

/-- What was put out is a part of the script, and never more than the script. -/
theorem prefix_script (h : Settles n closed due out script) : out <+: script := by
  obtain ⟨rest, -, hout⟩ := h
  exact ⟨rest, hout⟩

/-- When nothing is due, everything was put out. -/
theorem eq_script (h : Settles n false [] out script) : out = script := by
  obtain ⟨rest, ⟨-, hdue⟩, hout⟩ := h
  rw [hdue rfl, List.append_nil] at hout
  exact hout

end Settles

end Foundations

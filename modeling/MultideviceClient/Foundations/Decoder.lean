import Mathlib.Data.List.Infix

/-!
# Incremental decoders

A decoder is fed items, in batches of any size, and gives a value whenever it has
enough of them.  What it gives does not change when more items come in.

So only the items matter, and not when they were fed: calls that have ended with nothing
have got everything that any other calls can get out of these items, or out of fewer
(`Runs.prefix_of_idle`).

A program that records its calls may record other calls as well.  `Runs.record` and
`Runs.prefix_of_idle_log` are the rules for such a log.
-/

universe u v w x

namespace Foundations

/-- A decoder of items of the type `α` into values of the type `ι`. -/
structure Decoder (δ : Type u) (α : Type v) (ι : Type w) where
  feed : δ → List α → δ
  /-- The next value, if the decoder has enough items for it. -/
  step : δ → Option (ι × δ)
  feed_nil : ∀ d, feed d [] = d
  feed_append : ∀ d as bs, feed d (as ++ bs) = feed (feed d as) bs
  /-- More items do not change a value that is there. -/
  step_feed : ∀ d i d' as, step d = some (i, d') → step (feed d as) = some (i, feed d' as)

namespace Decoder

variable {δ : Type u} {α : Type v} {ι : Type w} (D : Decoder δ α ι)

/-- The values that a decoder gives one after the other. -/
inductive Gives : δ → List ι → δ → Prop where
  | nil (d : δ) : Gives d [] d
  | cons {d d₁ d' : δ} {i : ι} {is : List ι} (h : D.step d = some (i, d₁))
      (hrest : Gives d₁ is d') : Gives d (i :: is) d'

variable {D} {d d₁ d₂ : δ} {is js : List ι}

namespace Gives

/-- More items do not change the values that are there. -/
theorem feed (h : D.Gives d is d₁) (as : List α) : D.Gives (D.feed d as) is (D.feed d₁ as) := by
  induction h with
  | nil d => exact .nil _
  | cons hstep hrest ih => exact .cons (D.step_feed _ _ _ as hstep) ih

theorem concat {i : ι} (h : D.Gives d is d₁) (hstep : D.step d₁ = some (i, d₂)) :
    D.Gives d (is ++ [i]) d₂ := by
  induction h with
  | nil d => exact .cons hstep (.nil _)
  | cons hfirst hrest ih => exact .cons hfirst (ih hstep)

/-- When the decoder gets stuck, nothing more can be got out of it. -/
theorem prefix_of_stuck (h : D.Gives d is d₁) (h' : D.Gives d js d₂) (hstuck : D.step d₂ = none) :
    is <+: js := by
  induction h generalizing js with
  | nil d => exact List.nil_prefix
  | cons hstep hrest ih =>
      cases h' with
      | nil =>
          rw [hstep] at hstuck
          cases hstuck
      | cons hstep' hrest' =>
          rw [hstep] at hstep'
          cases hstep'
          exact (List.prefix_cons_inj _).mpr (ih hrest')

/-- The same, for a decoder that was fed the same items and more. -/
theorem prefix_of_stuck_of_prefix {as bs : List α} (h : D.Gives (D.feed d as) is d₁)
    (h' : D.Gives (D.feed d bs) js d₂) (hstuck : D.step d₂ = none) (hfed : as <+: bs) :
    is <+: js := by
  obtain ⟨more, rfl⟩ := hfed
  rw [D.feed_append] at h'
  exact (h.feed more).prefix_of_stuck h' hstuck

end Gives

/-! ## Logs -/

/-- A call of a decoder.  One that asks for a value has got it or not. -/
inductive Call (α : Type v) (ι : Type w) where
  | feed (as : List α)
  | poll (i : Option ι)

namespace Call

/-- The items that a call feeds. -/
def fed : Call α ι → List α
  | feed as => as
  | poll _ => []

/-- The value that a call has got. -/
def polled : Call α ι → Option ι
  | feed _ => none
  | poll i => i

end Call

variable (D) in
/-- Calls that were made one after the other, from the first state to the second one. -/
inductive Runs (d : δ) : List (Call α ι) → δ → Prop where
  | nil : Runs d [] d
  | feed {calls : List (Call α ι)} {d₁ : δ} (as : List α) (h : Runs d calls d₁) :
      Runs d (calls ++ [.feed as]) (D.feed d₁ as)
  | poll {calls : List (Call α ι)} {d₁ d₂ : δ} {i : ι} (h : Runs d calls d₁)
      (hstep : D.step d₁ = some (i, d₂)) : Runs d (calls ++ [.poll (some i)]) d₂
  | idle {calls : List (Call α ι)} {d₁ : δ} (h : Runs d calls d₁) (hstuck : D.step d₁ = none) :
      Runs d (calls ++ [.poll none]) d₁

namespace Runs

variable {calls calls' : List (Call α ι)}

/-- The calls have got what the decoder gives for all items at once. -/
theorem gives (h : D.Runs d calls d₁) :
    D.Gives (D.feed d (calls.flatMap Call.fed)) (calls.filterMap Call.polled) d₁ := by
  induction h with
  | nil =>
      rw [List.flatMap_nil, D.feed_nil]
      exact .nil d
  | @feed calls d₁ as h ih =>
      rw [List.flatMap_append, List.flatMap_singleton, D.feed_append, List.filterMap_append]
      show D.Gives _ (calls.filterMap Call.polled ++ []) _
      rw [List.append_nil]
      exact ih.feed as
  | @poll calls d₁ d₂ i h hstep ih =>
      rw [List.flatMap_append, List.flatMap_singleton, List.filterMap_append]
      show D.Gives (D.feed d (calls.flatMap Call.fed ++ [])) _ _
      rw [List.append_nil]
      exact ih.concat hstep
  | @idle calls d₁ h hstuck ih =>
      rw [List.flatMap_append, List.flatMap_singleton, List.filterMap_append]
      show D.Gives (D.feed d (calls.flatMap Call.fed ++ [])) (calls.filterMap Call.polled ++ []) _
      rw [List.append_nil, List.append_nil]
      exact ih

theorem stuck (h : D.Runs d (calls ++ [.poll none]) d₁) : D.step d₁ = none := by
  generalize hcalls : calls ++ [Call.poll none] = all at h
  cases h with
  | nil => simp at hcalls
  | idle h hstuck => exact hstuck
  | feed as h =>
      obtain ⟨-, hlast⟩ := List.append_inj' hcalls rfl
      cases hlast
  | poll h hstep =>
      obtain ⟨-, hlast⟩ := List.append_inj' hcalls rfl
      cases hlast

/-- Calls that have ended with nothing have got everything that others get out of the
same items, or out of fewer. -/
theorem prefix_of_idle (h : D.Runs d calls d₁) (h' : D.Runs d (calls' ++ [.poll none]) d₂)
    (hfed : calls.flatMap Call.fed <+: (calls' ++ [Call.poll none]).flatMap Call.fed) :
    calls.filterMap Call.polled <+: (calls' ++ [Call.poll none]).filterMap Call.polled :=
  h.gives.prefix_of_stuck_of_prefix h'.gives h'.stuck hfed

end Runs

/-! ## Recorded calls -/

variable (D) in
/-- What a recorded call does to the decoder.  One that is no call of it leaves it alone. -/
inductive Performs : Option (Call α ι) → δ → δ → Prop where
  | other (d : δ) : Performs none d d
  | feed (d : δ) (as : List α) : Performs (some (.feed as)) d (D.feed d as)
  | poll {d d' : δ} {i : ι} (h : D.step d = some (i, d')) : Performs (some (.poll (some i))) d d'
  | idle {d : δ} (h : D.step d = none) : Performs (some (.poll none)) d d

/-- A call that succeeds with its record has succeeded. -/
theorem exists_of_map_eq_ok {ε : Type u} {σ : Type v} {τ : Type w} {f : σ → τ} {call : Except ε σ}
    {t : τ} (h : call.map f = .ok t) : ∃ s, call = .ok s ∧ f s = t := by
  cases call with
  | error e => cases h
  | ok s =>
      cases h
      exact ⟨s, rfl, rfl⟩

namespace Runs

variable {κ : Type x} {decoding : κ → Option (Call α ι)} {log log' : List κ} {call : κ}

/-- The log of a run, with one more call. -/
theorem record (h : D.Runs d (log.filterMap decoding) d₁)
    (hcall : D.Performs (decoding call) d₁ d₂) :
    D.Runs d ((log ++ [call]).filterMap decoding) d₂ := by
  rw [List.filterMap_append, List.filterMap_cons, List.filterMap_nil]
  cases hdecoding : decoding call with
  | none =>
      rw [hdecoding] at hcall
      cases hcall
      simpa only [List.append_nil] using h
  | some decoded =>
      rw [hdecoding] at hcall
      cases hcall with
      | feed _ items => exact h.feed items
      | poll hstep => exact h.poll hstep
      | idle hstuck => exact h.idle hstuck

/-- A log that ends with nothing has got everything that another one gets out of the same
items, or out of fewer. -/
theorem prefix_of_idle_log (h : D.Runs d (log.filterMap decoding) d₁)
    (h' : D.Runs d ((log' ++ [call]).filterMap decoding) d₂)
    (hidle : decoding call = some (.poll none))
    (hfed : (log.filterMap decoding).flatMap Call.fed <+:
      ((log' ++ [call]).filterMap decoding).flatMap Call.fed) :
    (log.filterMap decoding).filterMap Call.polled <+:
      ((log' ++ [call]).filterMap decoding).filterMap Call.polled := by
  have hlog : (log' ++ [call]).filterMap decoding = log'.filterMap decoding ++ [.poll none] := by
    rw [List.filterMap_append, List.filterMap_cons, hidle, List.filterMap_nil]
  rw [hlog] at h' hfed ⊢
  exact h.prefix_of_idle h' hfed

end Runs

end Decoder

end Foundations

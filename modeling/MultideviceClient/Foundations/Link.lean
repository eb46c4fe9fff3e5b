import MultideviceClient.Foundations.Machine

/-!
# Two parties joined by two bounded channels

A *party* is a machine whose labels may touch one outgoing and one incoming
channel (`Port`).  A *link* joins two parties by two first-in first-out
channels of one capacity.  A send completes only while its channel has room,
so a party may be suspended in a send.  The link is *deadlocked* when both are,
each on a full channel: neither then receives what the other one has queued.

*Items in flight.*  Sends and receives only move items between a channel and
the hand of a party that is suspended in a send.  So the number of items *in
flight* (in a channel or in a hand) grows only where a party takes up an item
from elsewhere, at an *intake* (`Intakes`).  A deadlock is `2 * c + 2` items in
flight (`Link.deadlocked_iff`).  So the runs without a deadlock are the runs in
which every intake finds at most `2 * c` of them
(`Link.visits_not_deadlocked_iff`).  A run with few intakes is one of them
(`Link.meets_roomFor`).
-/

universe u v w x

namespace Foundations

/-- What a label does to the channels of a party. -/
inductive Port (α : Type w) (β : Type x) where
  /-- It completes the send of an item. -/
  | send (a : α)
  /-- It receives an item. -/
  | recv (b : β)
  /-- It touches neither channel. -/
  | idle

/-- The items a label moves out of the hand of its party. -/
def Port.sent {α : Type w} {β : Type x} : Port α β → Nat
  | .send _ => 1
  | _ => 0

/-- The items a label moves into the hand of its party. -/
def Port.received {α : Type w} {β : Type x} : Port α β → Nat
  | .recv _ => 1
  | _ => 0

/-- A party of a link: it sends `α` and receives `β`. -/
structure Party (σ : Type u) (ℓ : Type v) (α : Type w) (β : Type x) extends Machine σ ℓ where
  /-- The channels a label touches. -/
  port : ℓ → Port α β
  /-- The party is suspended in a send. -/
  sending : σ → Bool

namespace Party

variable {σ : Type u} {ℓ : Type v} {α : Type w} {β : Type x} (A : Party σ ℓ α β)

/-- The number of items in the hand of a party: the one it is sending. -/
def held (s : σ) : Nat := (A.sending s).toNat

end Party

/-- Where a party takes up items from outside its link. -/
structure Intakes {σ : Type u} {ℓ : Type v} {α : Type w} {β : Type x} (A : Party σ ℓ α β) where
  /-- The label takes up an item. -/
  intake : σ → ℓ → Bool
  /-- Only an intake adds to what is in hand. -/
  balance : ∀ s l s', A.next s l = some s' →
    A.held s' + (A.port l).sent ≤ A.held s + (A.port l).received + (intake s l).toNat
  /-- An intake adds an item. -/
  gain : ∀ s l s', A.next s l = some s' → intake s l = true →
    A.held s + (A.port l).received + 1 ≤ A.held s' + (A.port l).sent

/-- The intakes of a party that takes up items only in steps that touch no
channel. -/
def Intakes.ofIdle {σ : Type u} {ℓ : Type v} {α : Type w} {β : Type x} {A : Party σ ℓ α β}
    (intake : σ → ℓ → Bool)
    (h : ∀ s l s', A.next s l = some s' →
      A.port l = .idle ∧ A.sending s = false ∧ A.sending s' = intake s l ∨
        intake s l = false ∧ A.held s' + (A.port l).sent ≤ A.held s + (A.port l).received) :
    Intakes A where
  intake := intake
  balance s l s' hl := by
    rcases h s l s' hl with ⟨hport, -, hs'⟩ | ⟨-, hle⟩
    · rw [Party.held, hs', hport]
      exact Nat.le_add_left ..
    · exact Nat.le_trans hle (Nat.le_add_right ..)
  gain s l s' hl hin := by
    rcases h s l s' hl with ⟨hport, hs, hs'⟩ | ⟨hnot, -⟩
    · rw [Party.held, Party.held, hs, hs', hin, hport]
      exact Nat.le_refl _
    · rw [hnot] at hin
      cases hin

namespace Link

/-- Both parties and both channels. -/
structure State (σ : Type u) (τ : Type v) (α : Type w) (β : Type x) where
  /-- The party that sends `α`. -/
  left : σ
  /-- The party that sends `β`. -/
  right : τ
  /-- What `left` has sent and `right` has not received, oldest first. -/
  toRight : List α
  /-- What `right` has sent and `left` has not received, oldest first. -/
  toLeft : List β

variable {σ τ ℓ κ : Type u} {α β : Type w} [DecidableEq α] [DecidableEq β]

/-- Add an item to a channel of capacity `c`. -/
def push (c : Nat) (chan : List α) (a : α) : Option (List α) :=
  if chan.length < c then some (chan ++ [a]) else none

/-- Take the item `a` out of a channel, if it is the oldest. -/
def pop (chan : List α) (a : α) : Option (List α) :=
  match chan with
  | [] => none
  | a' :: rest => if a' = a then some rest else none

omit [DecidableEq α] in
theorem push_eq_some {c : Nat} {chan chan' : List α} {a : α} :
    push c chan a = some chan' ↔ chan.length < c ∧ chan' = chan ++ [a] := by
  unfold push
  split
  next room => simp [room, eq_comm]
  next full => simp [full]

theorem pop_eq_some {chan chan' : List α} {a : α} :
    pop chan a = some chan' ↔ chan = a :: chan' := by
  cases chan with
  | nil => simp [pop]
  | cons a' rest =>
      unfold pop
      by_cases h : a' = a
      · simp [h]
      · simp [h]

/-- The channels after a label of a party that sends on `out` and receives on
`inc`. -/
def transfer (c : Nat) (out : List α) (inc : List β) : Port α β → Option (List α × List β)
  | .send a => (push c out a).map fun out' => (out', inc)
  | .recv b => (pop inc b).map fun inc' => (out, inc')
  | .idle => some (out, inc)

omit [DecidableEq α] in
/-- The oldest item of a channel can be taken. -/
theorem transfer_recv (c : Nat) (out : List α) {inc rest : List β} {b : β} (h : inc = b :: rest) :
    transfer c out inc (.recv b) = some (out, rest) :=
  Option.map_eq_some_iff.mpr ⟨rest, pop_eq_some.mpr h, rfl⟩

omit [DecidableEq α] in
/-- An item can be added when there is room. -/
theorem transfer_send {c : Nat} {out : List α} (a : α) (inc : List β) (hroom : out.length < c) :
    transfer c out inc (.send a) = some (out ++ [a], inc) :=
  Option.map_eq_some_iff.mpr ⟨out ++ [a], push_eq_some.mpr ⟨hroom, rfl⟩, rfl⟩

omit [DecidableEq α] in
/-- An item is added only when there is room. -/
theorem room_of_transfer {c : Nat} {out : List α} {a : α} {inc : List β}
    {chans : List α × List β} (h : transfer c out inc (.send a) = some chans) : out.length < c := by
  obtain ⟨_, hpush, -⟩ := Option.map_eq_some_iff.mp h
  exact (push_eq_some.mp hpush).1

omit [DecidableEq α] in
/-- What a label does to the lengths of the two channels. -/
theorem transfer_length {c : Nat} {out out' : List α} {inc inc' : List β} {p : Port α β}
    (h : transfer c out inc p = some (out', inc')) :
    out'.length = out.length + p.sent ∧ inc'.length + p.received = inc.length ∧
      (out.length ≤ c → out'.length ≤ c) := by
  cases p with
  | send a =>
      simp only [transfer, Option.map_eq_some_iff, push_eq_some] at h
      obtain ⟨_, ⟨room, rfl⟩, heq⟩ := h
      cases heq
      refine ⟨List.length_append, rfl, ?_⟩
      intro _
      rw [List.length_append, List.length_singleton]
      exact room
  | recv b =>
      simp only [transfer, Option.map_eq_some_iff, pop_eq_some] at h
      obtain ⟨_, rfl, heq⟩ := h
      cases heq
      simp [Port.sent, Port.received]
  | idle =>
      cases h
      simp [Port.sent, Port.received]

/-- The link of two parties by channels of capacity `c`. -/
def machine (A : Party σ ℓ α β) (B : Party τ κ β α) (c : Nat) :
    Machine (State σ τ α β) (ℓ ⊕ κ) where
  next s
    | .inl l =>
        (A.next s.left l).bind fun left =>
          (transfer c s.toRight s.toLeft (A.port l)).map fun chans =>
            { s with left := left, toRight := chans.1, toLeft := chans.2 }
    | .inr k =>
        (B.next s.right k).bind fun right =>
          (transfer c s.toLeft s.toRight (B.port k)).map fun chans =>
            { s with right := right, toLeft := chans.1, toRight := chans.2 }

variable {A : Party σ ℓ α β} {B : Party τ κ β α} {c : Nat}

/-- Everything a step of the left party does. -/
theorem next_inl {s s' : State σ τ α β} {l : ℓ} (h : (machine A B c).next s (.inl l) = some s') :
    ∃ left toRight toLeft, A.next s.left l = some left ∧
      transfer c s.toRight s.toLeft (A.port l) = some (toRight, toLeft) ∧
      s' = ⟨left, s.right, toRight, toLeft⟩ := by
  simp only [machine, Option.bind_eq_some_iff, Option.map_eq_some_iff] at h
  obtain ⟨left, hl, ⟨toRight, toLeft⟩, ht, rfl⟩ := h
  exact ⟨left, toRight, toLeft, hl, ht, rfl⟩

/-- Everything a step of the right party does. -/
theorem next_inr {s s' : State σ τ α β} {k : κ} (h : (machine A B c).next s (.inr k) = some s') :
    ∃ right toRight toLeft, B.next s.right k = some right ∧
      transfer c s.toLeft s.toRight (B.port k) = some (toLeft, toRight) ∧
      s' = ⟨s.left, right, toRight, toLeft⟩ := by
  simp only [machine, Option.bind_eq_some_iff, Option.map_eq_some_iff] at h
  obtain ⟨right, hk, ⟨toLeft, toRight⟩, ht, rfl⟩ := h
  exact ⟨right, toRight, toLeft, hk, ht, rfl⟩

/-- Both parties are suspended in a send on a full channel. -/
def Deadlocked (A : Party σ ℓ α β) (B : Party τ κ β α) (c : Nat) (s : State σ τ α β) : Prop :=
  A.sending s.left = true ∧ c ≤ s.toRight.length ∧
    B.sending s.right = true ∧ c ≤ s.toLeft.length

/-- No channel holds more than its capacity. -/
def Bounded (c : Nat) (s : State σ τ α β) : Prop :=
  s.toRight.length ≤ c ∧ s.toLeft.length ≤ c

theorem Bounded.step {s s' : State σ τ α β} {l : ℓ ⊕ κ} (h : Bounded c s)
    (hl : (machine A B c).next s l = some s') : Bounded c s' := by
  cases l with
  | inl l =>
      obtain ⟨left, toRight, toLeft, -, ht, rfl⟩ := next_inl hl
      obtain ⟨-, hin, hout⟩ := transfer_length ht
      exact ⟨hout h.1, by have := h.2; simp only; omega⟩
  | inr k =>
      obtain ⟨right, toRight, toLeft, -, ht, rfl⟩ := next_inr hl
      obtain ⟨-, hin, hout⟩ := transfer_length ht
      exact ⟨by have := h.1; simp only; omega, hout h.2⟩

/-! ## Items in flight -/

/-- The items in the channels and in the hands of the parties. -/
def inFlight (A : Party σ ℓ α β) (B : Party τ κ β α) (s : State σ τ α β) : Nat :=
  s.toRight.length + s.toLeft.length + A.held s.left + B.held s.right

variable (WA : Intakes A) (WB : Intakes B)

/-- The label takes up an item. -/
def intake (s : State σ τ α β) : ℓ ⊕ κ → Bool
  | .inl l => WA.intake s.left l
  | .inr k => WB.intake s.right k

/-- The step takes up no item unless there is room for it. -/
def RoomFor (c : Nat) (s : State σ τ α β) (l : ℓ ⊕ κ) : Prop :=
  intake WA WB s l = true → inFlight A B s ≤ 2 * c

omit [DecidableEq α] [DecidableEq β] in
/-- A deadlock is two full channels and two full hands. -/
theorem deadlocked_iff {s : State σ τ α β} (hb : Bounded c s) :
    Deadlocked A B c s ↔ 2 * c + 2 ≤ inFlight A B s := by
  obtain ⟨hR, hL⟩ := hb
  simp only [Deadlocked, inFlight, Party.held]
  constructor
  · rintro ⟨hA, hR', hB, hL'⟩
    rw [hA, hB, Bool.toNat_true]
    omega
  · intro hle
    have hleA := Bool.toNat_le (A.sending s.left)
    have hleB := Bool.toNat_le (B.sending s.right)
    refine ⟨Bool.toNat_eq_one.mp ?_, ?_, Bool.toNat_eq_one.mp ?_, ?_⟩ <;> omega

/-- Only an intake adds to what is in flight, and it adds one item. -/
theorem inFlight_step {s s' : State σ τ α β} {l : ℓ ⊕ κ}
    (hl : (machine A B c).next s l = some s') :
    inFlight A B s' ≤ inFlight A B s + (intake WA WB s l).toNat := by
  cases l with
  | inl l =>
      obtain ⟨left, toRight, toLeft, hnext, ht, rfl⟩ := next_inl hl
      obtain ⟨hout, hin, -⟩ := transfer_length ht
      have hbal := WA.balance s.left l left hnext
      simp only [inFlight, intake]
      omega
  | inr k =>
      obtain ⟨right, toRight, toLeft, hnext, ht, rfl⟩ := next_inr hl
      obtain ⟨hout, hin, -⟩ := transfer_length ht
      have hbal := WB.balance s.right k right hnext
      simp only [inFlight, intake]
      omega

/-- An intake adds an item. -/
theorem inFlight_intake {s s' : State σ τ α β} {l : ℓ ⊕ κ}
    (hl : (machine A B c).next s l = some s') (hin : intake WA WB s l = true) :
    inFlight A B s + 1 ≤ inFlight A B s' := by
  cases l with
  | inl l =>
      obtain ⟨left, toRight, toLeft, hnext, ht, rfl⟩ := next_inl hl
      obtain ⟨hout, hrecv, -⟩ := transfer_length ht
      have hgain := WA.gain s.left l left hnext hin
      simp only [inFlight]
      omega
  | inr k =>
      obtain ⟨right, toRight, toLeft, hnext, ht, rfl⟩ := next_inr hl
      obtain ⟨hout, hrecv, -⟩ := transfer_length ht
      have hgain := WB.gain s.right k right hnext hin
      simp only [inFlight]
      omega

/-- The runs without a deadlock are the runs in which every intake finds room. -/
theorem visits_not_deadlocked_iff {s : State σ τ α β} {ls : List (ℓ ⊕ κ)} (hb : Bounded c s)
    (hs : ¬ Deadlocked A B c s) :
    (machine A B c).Visits (fun s => ¬ Deadlocked A B c s) s ls ↔
      (machine A B c).Meets (RoomFor WA WB c) s ls := by
  refine Machine.visits_iff_meets _ (J := Bounded c) (fun s l s' h hl => h.step hl) ?_ hb hs
  intro s l s' hbs hlive hl
  have hstep := inFlight_step WA WB hl
  rw [deadlocked_iff hbs] at hlive
  rw [deadlocked_iff (hbs.step hl)]
  simp only [RoomFor]
  cases hin : intake WA WB s l with
  | false =>
      rw [hin, Bool.toNat_false] at hstep
      exact ⟨fun _ h => absurd h (by simp), fun _ => by omega⟩
  | true =>
      rw [hin, Bool.toNat_true] at hstep
      have hgain := inFlight_intake WA WB hl hin
      exact ⟨fun h _ => by omega, fun h => by have := h rfl; omega⟩

/-- The labels of a run that take up an item. -/
def takenUp (c : Nat) (s : State σ τ α β) (ls : List (ℓ ⊕ κ)) : List (ℓ ⊕ κ) :=
  (machine A B c).collect (fun s l => if intake WA WB s l then [l] else []) s ls

/-- In a run that takes up few items, each of them finds room. -/
theorem meets_roomFor {s : State σ τ α β} {ls : List (ℓ ⊕ κ)}
    (h : inFlight A B s + (takenUp WA WB c s ls).length ≤ 2 * c + 1) :
    (machine A B c).Meets (RoomFor WA WB c) s ls := by
  induction ls generalizing s with
  | nil => trivial
  | cons l ls ih =>
      intro s' hl
      have hstep := inFlight_step WA WB hl
      rw [takenUp, (machine A B c).collect_cons hl, List.length_append] at h
      have hcount : (if intake WA WB s l then [l] else []).length =
          (intake WA WB s l).toNat := by
        cases intake WA WB s l <;> rfl
      rw [hcount] at h
      refine ⟨?_, ih (Nat.le_trans ?_ h)⟩
      · intro hin
        rw [hin, Bool.toNat_true] at h
        omega
      · simp only [takenUp]
        omega

end Link

end Foundations

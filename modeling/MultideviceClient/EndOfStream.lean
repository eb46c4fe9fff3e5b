import MultideviceClient.Csp
import MultideviceClient.Foundations.Machine

/-!
# The end of the TCP stream

The chat server closes the connection.  From then on the stream is always
readable and every `try_read` gives `Ok(0)`, which `try_receive` turns into no
bytes.

*The loop spins.*  No bytes are no news for the protocol.  So with no complete
frame left the loop goes from `select!` to its top and back, and never returns
(`end_notNoticed`).

*What ends it.*  Only the frames that are still buffered can: one of them fails
to decode, carries a state update, or asks for an echo that cannot be made
(`Breaks`).  This is the exact condition (`end_noticed_iff`).
-/

namespace MultideviceClient

open Foundations

variable {P : CspProtocol}

/-! ## What the frames lead to -/

/-- The frames that are buffered end the loop, starting with the next
instruction. -/
inductive CspProtocol.Breaks (P : CspProtocol) : Option CspInstruction → P.State → Prop where
  | pollFails {s : P.State} {error : String} (h : P.poll s = .error error) : Breaks P none s
  | polled {s s' : P.State} {instruction : CspInstruction}
      (h : P.poll s = .ok (some instruction, s')) (hrest : Breaks P (some instruction) s') :
      Breaks P none s
  | stateUpdate {s : P.State} {instruction : CspInstruction}
      (h : instruction.stateUpdate.isSome = true) : Breaks P (some instruction) s
  | echoFails {s : P.State} {instruction : CspInstruction} {payload : Bytes} {error : String}
      (hupdate : instruction.stateUpdate = none)
      (h : instruction.incomingPayload = some (.echoRequest payload))
      (hcreate : P.createPayload s (.echoResponse payload) = .error error) :
      Breaks P (some instruction) s
  | echoed {s s' : P.State} {instruction echo : CspInstruction} {payload : Bytes}
      (hupdate : instruction.stateUpdate = none)
      (h : instruction.incomingPayload = some (.echoRequest payload))
      (hcreate : P.createPayload s (.echoResponse payload) = .ok (echo, s'))
      (hrest : Breaks P (some echo) s') : Breaks P (some instruction) s
  | processed {s : P.State} {instruction : CspInstruction}
      (hupdate : instruction.stateUpdate = none)
      (h : ∀ payload, instruction.incomingPayload ≠ some (.echoRequest payload))
      (hrest : Breaks P none s) : Breaks P (some instruction) s

namespace CspProtocol.Breaks

variable {s s' : P.State} {instruction echo : CspInstruction} {payload : Bytes}

/-- An instruction without an echo request leaves it to the frames after it. -/
theorem processed_iff (hupdate : instruction.stateUpdate = none)
    (h : ∀ payload, instruction.incomingPayload ≠ some (.echoRequest payload)) :
    P.Breaks (some instruction) s ↔ P.Breaks none s := by
  refine ⟨fun hbreaks => ?_, .processed hupdate h⟩
  cases hbreaks with
  | stateUpdate h' =>
      rw [hupdate] at h'
      cases h'
  | echoFails _ h' _ => exact (h _ h').elim
  | echoed _ h' _ _ => exact (h _ h').elim
  | processed _ _ hrest => exact hrest

/-- An echo request leaves it to its response. -/
theorem echoed_iff (hupdate : instruction.stateUpdate = none)
    (h : instruction.incomingPayload = some (.echoRequest payload))
    (hcreate : P.createPayload s (.echoResponse payload) = .ok (echo, s')) :
    P.Breaks (some instruction) s ↔ P.Breaks (some echo) s' := by
  refine ⟨fun hbreaks => ?_, .echoed hupdate h hcreate⟩
  cases hbreaks with
  | stateUpdate h' =>
      rw [hupdate] at h'
      cases h'
  | echoFails _ h' hcreate' =>
      rw [h] at h'
      cases h'
      rw [hcreate] at hcreate'
      cases hcreate'
  | echoed _ h' hcreate' hrest =>
      rw [h] at h'
      cases h'
      rw [hcreate] at hcreate'
      cases hcreate'
      exact hrest
  | processed _ h' _ => exact (h' _ h).elim

/-- A protocol with a frame leaves it to that frame. -/
theorem polled_iff (h : P.poll s = .ok (some instruction, s')) :
    P.Breaks none s ↔ P.Breaks (some instruction) s' := by
  refine ⟨fun hbreaks => ?_, .polled h⟩
  cases hbreaks with
  | pollFails h' =>
      rw [h] at h'
      cases h'
  | polled h' hrest =>
      rw [h] at h'
      cases h'
      exact hrest

/-- A protocol without a frame breaks nothing. -/
theorem not_idle (h : P.poll s = .ok (none, s')) : ¬ P.Breaks none s := by
  intro hbreaks
  cases hbreaks with
  | pollFails h' =>
      rw [h] at h'
      cases h'
  | polled h' hrest =>
      rw [h] at h'
      cases h'

end CspProtocol.Breaks

/-- Without a complete frame, an empty chunk is no news. -/
def CspProtocol.Idles (P : CspProtocol) : Prop :=
  ∀ s s', P.poll s = .ok (none, s') → P.addChunks s' [] = .ok s' ∧ P.poll s' = .ok (none, s')

/-- What can end a suspension when the stream has ended, apart from an outgoing
payload. -/
def CspLabel.atEnd : CspLabel → Bool
  | .readable .closed => true
  | .readable _ => false
  | .recvOutgoing _ => false
  | _ => true

namespace CspRunner

/-- A step after the end of the stream, with the payloads that are left in
`queues.outgoing`. -/
inductive EndStep : CspRunner P × List OutgoingPayloadForCspE2e →
    CspRunner P × List OutgoingPayloadForCspE2e → Prop where
  | own {self self' : CspRunner P} {l : CspLabel} {queue : List OutgoingPayloadForCspE2e}
      (hl : l.atEnd = true) (h : self.next l = some self') : EndStep (self, queue) (self', queue)
  | recv {self self' : CspRunner P} {payload : OutgoingPayloadForCspE2e}
      {queue : List OutgoingPayloadForCspE2e}
      (h : self.next (.recvOutgoing (some payload)) = some self') :
      EndStep (self, payload :: queue) (self', queue)

/-- `run_payload_flow` has returned. -/
def HasReturned (self : CspRunner P) : Prop := ∃ result, self.pc = .returned result

/-- The loop returns, whatever the `select!` chooses. -/
def Noticed (self : CspRunner P) (queue : List OutgoingPayloadForCspE2e) : Prop :=
  Inevitable EndStep (fun s => s.1.HasReturned) (self, queue)

/-- The frames that are buffered end the loop. -/
def Breaks (self : CspRunner P) : Prop :=
  match self.pc with
  | .top nextInstruction => P.Breaks nextInstruction self.protocol
  | .select => False
  | .forward _ _ => P.Breaks none self.protocol
  | .write _ nextInstruction => P.Breaks nextInstruction self.protocol
  | .returned _ => True

/-- In `select!` the protocol has no complete frame, and an empty chunk is no
news. -/
def Settled (self : CspRunner P) : Prop :=
  self.pc = .select → P.poll self.protocol = .ok (none, self.protocol) ∧
    P.addChunks self.protocol [] = .ok self.protocol

/-! ## Steps -/

theorem breaks_finish (protocol : P.State) (frame : Option Bytes)
    (nextInstruction : Option CspInstruction) :
    Breaks ⟨protocol, finish frame nextInstruction⟩ ↔ P.Breaks nextInstruction protocol := by
  cases frame <;> rfl

/-- Processing an instruction decides nothing. -/
theorem breaks_process (self : CspRunner P) (instruction : CspInstruction) :
    (self.process instruction).Breaks ↔ P.Breaks (some instruction) self.protocol := by
  cases hupdate : instruction.stateUpdate with
  | some stateUpdate =>
      simp only [process, hupdate, Option.isSome_some, if_true]
      exact ⟨fun _ => .stateUpdate (by rw [hupdate]; rfl), fun _ => trivial⟩
  | none =>
      simp only [process, hupdate, Option.isSome_none, Bool.false_eq_true, if_false]
      split
      next payload h =>
          split
          next error hcreate => exact ⟨fun _ => .echoFails hupdate h hcreate, fun _ => trivial⟩
          next echo protocol hcreate =>
              rw [breaks_finish, CspProtocol.Breaks.echoed_iff hupdate h hcreate]
      next payload h =>
          rw [CspProtocol.Breaks.processed_iff hupdate (by rw [h]; nofun)]
          rfl
      next payload h =>
          rw [CspProtocol.Breaks.processed_iff hupdate (by rw [h]; nofun)]
          rfl
      next hecho hmessage hack =>
          rw [breaks_finish, CspProtocol.Breaks.processed_iff hupdate hecho]

/-- Nor does the way from the top of the loop. -/
theorem breaks_turn (self : CspRunner P) (nextInstruction : Option CspInstruction) :
    (self.turn nextInstruction).Breaks ↔ P.Breaks nextInstruction self.protocol := by
  cases nextInstruction with
  | some instruction => exact self.breaks_process instruction
  | none =>
      simp only [turn]
      split
      next error h => exact ⟨fun _ => .pollFails h, fun _ => trivial⟩
      next protocol h => exact ⟨False.elim, CspProtocol.Breaks.not_idle h⟩
      next instruction protocol h => rw [breaks_process, CspProtocol.Breaks.polled_iff h]

theorem settled_process (self : CspRunner P) (instruction : CspInstruction) :
    (self.process instruction).Settled := by
  have hfinish : ∀ protocol frame nextInstruction,
      Settled (P := P) ⟨protocol, finish frame nextInstruction⟩ := by
    intro protocol frame nextInstruction
    cases frame <;> exact nofun
  simp only [process]
  split
  next => exact nofun
  next =>
      split
      next =>
          split
          next => exact nofun
          next => exact hfinish _ _ _
      next => exact nofun
      next => exact nofun
      next => exact hfinish _ _ _

theorem settled_turn (hidle : P.Idles) (self : CspRunner P)
    (nextInstruction : Option CspInstruction) : (self.turn nextInstruction).Settled := by
  cases nextInstruction with
  | some instruction => exact self.settled_process instruction
  | none =>
      simp only [turn]
      split
      next => exact nofun
      next protocol h =>
          intro _
          obtain ⟨hadd, hpoll⟩ := hidle _ _ h
          exact ⟨hpoll, hadd⟩
      next instruction protocol h => exact settled_process _ instruction

/-- The loop gets to `select!` with nothing to poll only. -/
theorem settled_next (hidle : P.Idles) (self : CspRunner P) (l : CspLabel) (self' : CspRunner P)
    (_ : self.Settled) (h : self.next l = some self') : self'.Settled := by
  cases l with
  | turn =>
      simp only [next] at h
      split at h <;> cases h
      exact self.settled_turn hidle _
  | readable read =>
      simp only [next] at h
      split at h
      next => cases h; exact nofun
      next =>
          split at h
          next => split at h <;> cases h <;> exact nofun
          next => cases h
      next => cases h
  | recvOutgoing payload =>
      simp only [next] at h
      split at h
      next => cases h; exact nofun
      next =>
          split at h <;> cases h
          next => exact nofun
          next instruction protocol _ => exact settled_process _ instruction
      next => cases h
  | sentIncoming payload =>
      simp only [next] at h
      split at h
      next payload' frame hpc =>
          split at h <;> cases h
          cases frame <;> exact nofun
      next => cases h
  | sendFailed =>
      simp only [next] at h
      split at h <;> cases h
      exact nofun
  | written error =>
      simp only [next] at h
      split at h <;> cases h <;> exact nofun

/-! ## The loop that returns -/

theorem noticed_returned {self : CspRunner P} {result : Except String Unit}
    (h : self.pc = .returned result) (queue : List OutgoingPayloadForCspE2e) :
    self.Noticed queue :=
  .now ⟨result, h⟩

/-- From the top of the loop there is one way to go on. -/
theorem noticed_top {self : CspRunner P} {nextInstruction : Option CspInstruction}
    (hpc : self.pc = .top nextInstruction) {queue : List OutgoingPayloadForCspE2e}
    (h : (self.turn nextInstruction).Noticed queue) : self.Noticed queue := by
  have hturn : self.next .turn = some (self.turn nextInstruction) := by
    simp only [next, hpc]
  refine .later ⟨_, .own rfl hturn⟩ fun s' hstep => ?_
  cases hstep with
  | @own _ self' l _ hl hnext =>
      cases l with
      | turn =>
          rw [hturn] at hnext
          cases hnext
          exact h
      | readable read => simp [next, hpc] at hnext
      | recvOutgoing payload => cases hl
      | _ => simp [next, hpc] at hnext
  | recv hnext => simp [next, hpc] at hnext

theorem noticed_write {self : CspRunner P} {frame : Bytes}
    {nextInstruction : Option CspInstruction} (hpc : self.pc = .write frame nextInstruction)
    {queue : List OutgoingPayloadForCspE2e}
    (h : (⟨self.protocol, .top nextInstruction⟩ : CspRunner P).Noticed queue) :
    self.Noticed queue := by
  have hwritten : self.next (.written none) = some ⟨self.protocol, .top nextInstruction⟩ := by
    simp only [next, hpc]
  refine .later ⟨_, .own rfl hwritten⟩ fun s' hstep => ?_
  cases hstep with
  | @own _ self' l _ hl hnext =>
      cases l with
      | written error =>
          cases error with
          | none =>
              rw [hwritten] at hnext
              cases hnext
              exact h
          | some message =>
              simp only [next, hpc] at hnext
              cases hnext
              exact noticed_returned rfl queue
      | recvOutgoing payload => cases hl
      | _ => simp [next, hpc] at hnext
  | recv hnext => simp [next, hpc] at hnext

theorem noticed_finish {protocol : P.State} {frame : Option Bytes}
    {nextInstruction : Option CspInstruction} {queue : List OutgoingPayloadForCspE2e}
    (h : (⟨protocol, .top nextInstruction⟩ : CspRunner P).Noticed queue) :
    (⟨protocol, finish frame nextInstruction⟩ : CspRunner P).Noticed queue := by
  cases frame with
  | none => exact h
  | some frame => exact noticed_write rfl h

theorem noticed_forward {self : CspRunner P} {payload : IncomingPayloadForCspE2e}
    {frame : Option Bytes} (hpc : self.pc = .forward payload frame)
    {queue : List OutgoingPayloadForCspE2e}
    (h : (⟨self.protocol, .top none⟩ : CspRunner P).Noticed queue) : self.Noticed queue := by
  have hsent : self.next (.sentIncoming payload) = some ⟨self.protocol, finish frame none⟩ := by
    simp only [next, hpc, if_true]
  refine .later ⟨_, .own rfl hsent⟩ fun s' hstep => ?_
  cases hstep with
  | @own _ self' l _ hl hnext =>
      cases l with
      | sentIncoming payload' =>
          simp only [next, hpc] at hnext
          split at hnext <;> cases hnext
          exact noticed_finish h
      | sendFailed =>
          simp only [next, hpc] at hnext
          cases hnext
          exact noticed_returned rfl queue
      | recvOutgoing payload => cases hl
      | _ => simp [next, hpc] at hnext
  | recv hnext => simp [next, hpc] at hnext

/-- Frames that break the loop make it return: by induction on the frames. -/
theorem noticed_turn {nextInstruction : Option CspInstruction} {protocol : P.State}
    (h : P.Breaks nextInstruction protocol) (pc : CspPc)
    (queue : List OutgoingPayloadForCspE2e) :
    ((⟨protocol, pc⟩ : CspRunner P).turn nextInstruction).Noticed queue := by
  induction h generalizing pc with
  | pollFails h =>
      simp only [turn, h]
      exact noticed_returned rfl queue
  | polled h _ ih =>
      simp only [turn, h]
      exact ih pc
  | stateUpdate h =>
      simp only [turn, process, h, if_true]
      exact noticed_returned rfl queue
  | echoFails hupdate h hcreate =>
      simp only [turn, process, hupdate, h, hcreate]
      exact noticed_returned rfl queue
  | echoed hupdate h hcreate _ ih =>
      simp only [turn, process, hupdate, h, hcreate]
      exact noticed_finish (noticed_top rfl (ih _))
  | @processed s instruction hupdate h _ ih =>
      have htop : (⟨s, .top none⟩ : CspRunner P).Noticed queue := noticed_top rfl (ih _)
      simp only [turn, process, hupdate, Option.isSome_none, Bool.false_eq_true, if_false]
      split
      next payload hecho => exact (h payload hecho).elim
      next payload _ => exact noticed_forward rfl htop
      next payload _ => exact noticed_forward rfl htop
      next => exact noticed_finish htop

theorem noticed_of_breaks {self : CspRunner P} (h : self.Breaks)
    (queue : List OutgoingPayloadForCspE2e) : self.Noticed queue := by
  simp only [Breaks] at h
  split at h
  next nextInstruction hpc => exact noticed_top hpc (noticed_turn h _ queue)
  next => exact h.elim
  next payload frame hpc => exact noticed_forward hpc (noticed_top rfl (noticed_turn h _ queue))
  next frame nextInstruction hpc =>
      exact noticed_write hpc (noticed_top rfl (noticed_turn h _ queue))
  next result hpc => exact noticed_returned hpc queue

/-! ## The loop that spins -/

/-- A loop that nothing breaks has a step to such a loop. -/
theorem endStep_of_not_breaks (hidle : P.Idles) {self : CspRunner P}
    (hsettled : self.Settled) (h : ¬ self.Breaks) (queue : List OutgoingPayloadForCspE2e) :
    ∃ self' : CspRunner P, EndStep (self, queue) (self', queue) ∧ self'.Settled ∧
      ¬ self'.Breaks := by
  suffices hnext : ∃ l self', CspLabel.atEnd l = true ∧ self.next l = some self' ∧
      ¬ self'.Breaks by
    obtain ⟨l, self', hl, hstep, hbreaks⟩ := hnext
    exact ⟨self', .own hl hstep, self.settled_next hidle l self' hsettled hstep, hbreaks⟩
  simp only [Breaks] at h
  cases hpc : self.pc with
  | top nextInstruction =>
      rw [hpc] at h
      refine ⟨.turn, self.turn nextInstruction, rfl, by simp only [next, hpc], ?_⟩
      rwa [breaks_turn]
  | select =>
      obtain ⟨hpoll, hadd⟩ := hsettled hpc
      refine ⟨.readable .closed, ⟨self.protocol, .top none⟩, rfl, ?_, ?_⟩
      · simp [next, hpc, tryReceive, hadd]
      · exact CspProtocol.Breaks.not_idle hpoll
  | forward payload frame =>
      rw [hpc] at h
      refine ⟨.sentIncoming payload, ⟨self.protocol, finish frame none⟩, rfl, ?_, ?_⟩
      · simp only [next, hpc, if_true]
      · rwa [breaks_finish]
  | write frame nextInstruction =>
      rw [hpc] at h
      exact ⟨.written none, ⟨self.protocol, .top nextInstruction⟩, rfl, by simp only [next, hpc], h⟩
  | returned result =>
      rw [hpc] at h
      exact (h trivial).elim

end CspRunner

/-- The payload flow as a machine. -/
def cspMachine (P : CspProtocol) : Machine (CspRunner P) CspLabel where
  next := CspRunner.next

/-- After the end of the stream the loop returns, whatever the `select!` chooses,
exactly when the frames that are buffered end it. -/
theorem end_noticed_iff (hidle : P.Idles) (protocol : P.State) {self : CspRunner P}
    (hreach : (cspMachine P).Reaches ⟨protocol, .top none⟩ self)
    (queue : List OutgoingPayloadForCspE2e) : self.Noticed queue ↔ self.Breaks := by
  have hsettled : self.Settled :=
    hreach.invariant _ (fun s l s' hI hl => s.settled_next hidle l s' hI hl) nofun
  refine ⟨fun hnoticed => ?_, fun h => CspRunner.noticed_of_breaks h queue⟩
  by_contra hbreaks
  refine not_inevitable (I := fun s => s.1.Settled ∧ ¬ s.1.Breaks) ?_ ?_ ⟨hsettled, hbreaks⟩
    hnoticed
  · rintro ⟨s, queue⟩ ⟨-, h⟩ ⟨result, hpc⟩
    refine h ?_
    simp only [CspRunner.Breaks]
    rw [hpc]
    trivial
  · rintro ⟨s, queue⟩ ⟨hs, h⟩
    obtain ⟨s', hstep, hs', h'⟩ := CspRunner.endStep_of_not_breaks hidle hs h queue
    exact ⟨(s', queue), hstep, hs', h'⟩

/-! ### A server that closes after a message -/

theorem CspProtocol.sample_idles : CspProtocol.sample.Idles := by
  intro buffer buffer' h
  have hbuffer : buffer' = buffer := by
    simp only [CspProtocol.sample] at h
    split at h
    next => cases h; rfl
    next =>
        split at h <;> cases h
        rfl
  subst hbuffer
  exact ⟨congrArg Except.ok (List.append_nil buffer'), h⟩

/-- The message is forwarded, and then the loop spins. -/
theorem end_noticed_iff_message :
    ¬ (⟨[1, 7], .top none⟩ : CspRunner .sample).Noticed [.unblockIncomingMessages] := by
  rw [end_noticed_iff CspProtocol.sample_idles [1, 7] (.refl _ _)]
  intro hbreaks
  have hframe : CspProtocol.sample.Breaks
      (some ⟨none, some (.messageWithMetadataBox ⟨[7]⟩), none⟩) [] :=
    (CspProtocol.Breaks.polled_iff rfl).mp hbreaks
  have hrest : CspProtocol.sample.Breaks none [] :=
    (CspProtocol.Breaks.processed_iff rfl fun payload h => by cases h).mp hframe
  exact CspProtocol.Breaks.not_idle rfl hrest

/-- With nothing left to process the loop steps back to itself. -/
theorem end_notNoticed :
    ∃ s, (cspMachine .sample).exec ⟨[], .top none⟩ [.turn] = some s ∧
      (cspMachine .sample).exec s [.readable .closed, .turn] = some s ∧ ¬ s.Noticed [] := by
  refine ⟨⟨[], .select⟩, rfl, rfl, ?_⟩
  refine not_inevitable (I := fun s => s = (⟨[], .select⟩, []) ∨ s = (⟨[], .top none⟩, [])) ?_ ?_
    (Or.inl rfl)
  · rintro s hs ⟨result, hpc⟩
    rcases hs with rfl | rfl <;> cases hpc
  · rintro s hs
    rcases hs with rfl | rfl
    · exact ⟨(⟨[], .top none⟩, []), .own (l := .readable .closed) rfl rfl, Or.inr rfl⟩
    · exact ⟨(⟨[], .select⟩, []), .own (l := .turn) rfl rfl, Or.inl rfl⟩

end MultideviceClient

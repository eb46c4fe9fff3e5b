import MultideviceClient.Delivery
import MultideviceClient.Foundations.Decoder

/-!
# The mediator connection decodes

As for the chat server, what `poll` returns is relied on to depend on the datagrams so far
only (`D2mProtocol.Decodes`), and a connection that waits in its `select!` has forwarded
everything that any other run can make of the same datagrams, or of fewer
(`forwards_mono`).  A ping keeps the connection in the `select!`, and calls nothing.
-/

namespace MultideviceClient

open Foundations

variable {Q : D2mProtocol}

/-! ## Calls of the mediator's protocol -/

/-- The calls of the protocol keep a property of its state. -/
structure D2mProtocol.Keeps (Q : D2mProtocol) (I : Q.State → Prop) : Prop where
  poll : ∀ s r s', I s → Q.poll s = .ok (r, s') → I s'
  addDatagrams : ∀ s datagrams s', I s → Q.addDatagrams s datagrams = .ok s' → I s'
  createPayload : ∀ s payload r s', I s → Q.createPayload s payload = .ok (r, s') → I s'

namespace D2mRunner

variable {I : Q.State → Prop}

theorem protocol_process (self : D2mRunner Q) (instruction : D2mInstruction) :
    (self.process instruction).protocol = self.protocol := by
  simp only [process]
  split
  next => rfl
  next => cases instruction.incomingPayload <;> rfl

theorem keeps_turn (h : Q.Keeps I) {self : D2mRunner Q} (hself : I self.protocol) :
    I self.turn.protocol := by
  simp only [turn]
  cases hpoll : Q.poll self.protocol with
  | error message => exact hself
  | ok r =>
      obtain ⟨instruction, protocol⟩ := r
      have hprotocol := h.poll _ _ _ hself hpoll
      cases instruction with
      | none => exact hprotocol
      | some instruction =>
          rw [protocol_process]
          exact hprotocol

theorem keeps_next (h : Q.Keeps I) {self self' : D2mRunner Q} {l : D2mLabel}
    (hself : I self.protocol) (hl : self.next l = some self') : I self'.protocol := by
  cases l with
  | turn =>
      simp only [next] at hl
      split at hl <;> cases hl
      exact keeps_turn h hself
  | received message =>
      simp only [next] at hl
      split at hl <;> cases hl
      cases message with
      | binary bytes =>
          simp only [receive]
          cases hadd : Q.addDatagrams self.protocol [bytes] with
          | error message => exact hself
          | ok protocol => exact h.addDatagrams _ _ _ hself hadd
      | _ => exact hself
  | recvOutgoing payload =>
      simp only [next] at hl
      split at hl
      next =>
          split at hl <;> cases hl
          next => exact hself
          next instruction protocol hcreate =>
              rw [protocol_process]
              exact h.createPayload _ _ _ _ hself hcreate
      next => cases hl
  | sentIncoming payload =>
      simp only [next] at hl
      split at hl
      next =>
          split at hl <;> cases hl
          exact hself
      next => cases hl
  | _ =>
      simp only [next] at hl
      split at hl <;> cases hl <;> exact hself

end D2mRunner

namespace D2mSession

variable {I : Q.State → Prop}

theorem protocol_processHandshake (self : D2mSession Q) (instruction : D2mInstruction) :
    (self.processHandshake instruction).protocol = self.protocol := by
  simp only [processHandshake]
  split
  next => rfl
  next => cases instruction.outgoingDatagram <;> rfl

theorem keeps_addDatagram (h : Q.Keeps I) {self : D2mSession Q} (hself : I self.protocol)
    (datagram : Bytes) : I (self.addDatagram datagram).protocol := by
  simp only [addDatagram]
  cases hadd : Q.addDatagrams self.protocol [datagram] with
  | error message => exact hself
  | ok protocol =>
      have hprotocol := h.addDatagrams _ _ _ hself hadd
      simp only
      cases hpoll : Q.poll protocol with
      | error message => exact hprotocol
      | ok r =>
          obtain ⟨instruction, protocol'⟩ := r
          have hprotocol' := h.poll _ _ _ hprotocol hpoll
          cases instruction with
          | none => exact hprotocol'
          | some instruction =>
              simp only
              rw [protocol_processHandshake]
              exact hprotocol'

/-- What the calls of the protocol keep holds along every run. -/
theorem keeps_next (h : Q.Keeps I) {self self' : D2mSession Q} {l : D2mSessionLabel}
    (hself : I self.protocol) (hl : self.next l = some self') : I self'.protocol := by
  cases l with
  | handshake l =>
      simp only [next] at hl
      split at hl
      next pc _ =>
          cases l with
          | received message =>
              simp only [nextHandshake] at hl
              split at hl <;> cases hl
              cases message with
              | binary bytes => exact keeps_addDatagram h hself bytes
              | _ => exact hself
          | _ =>
              simp only [nextHandshake] at hl
              split at hl <;> cases hl <;> exact hself
      next => cases hl
  | payload l =>
      simp only [next] at hl
      split at hl
      next pc _ =>
          obtain ⟨runner, hrunner, rfl⟩ := Option.map_eq_some_iff.mp hl
          have hkept : I (D2mRunner.mk self.protocol pc).protocol := hself
          exact D2mRunner.keeps_next h hkept hrunner
      next => cases hl
  | shutdown error =>
      simp only [next] at hl
      split at hl <;> cases hl <;> exact hself

end D2mSession

/-- The protocol decodes its input.  The decoder, which `view` finds in its state, does not
mind what is created. -/
structure D2mProtocol.Decodes {δ : Type} (Q : D2mProtocol) (D : Decoder δ Bytes D2mInstruction)
    (view : Q.State → δ) : Prop where
  poll : ∀ s instruction s', Q.poll s = .ok (some instruction, s') →
    D.step (view s) = some (instruction, view s')
  idle : ∀ s s', Q.poll s = .ok (none, s') → D.step (view s) = none ∧ view s' = view s
  addDatagrams : ∀ s datagrams s', Q.addDatagrams s datagrams = .ok s' →
    view s' = D.feed (view s) datagrams
  createPayload : ∀ s payload r s', Q.createPayload s payload = .ok (r, s') → view s' = view s

namespace D2mCall

/-- The call of the decoder. -/
def decoding : D2mCall → Option (Decoder.Call Bytes D2mInstruction)
  | .addDatagrams datagrams => some (.feed datagrams)
  | .poll instruction => some (.poll instruction)
  | .createPayload _ _ => none

theorem flatMap_fed (calls : List D2mCall) :
    (calls.filterMap decoding).flatMap Decoder.Call.fed = calls.flatMap given := by
  induction calls with
  | nil => rfl
  | cons call calls ih =>
      cases call with
      | addDatagrams datagrams => exact congrArg (datagrams ++ ·) ih
      | _ => exact ih

/-- The payloads that `poll` returns are those of its instructions. -/
theorem flatMap_polled (calls : List D2mCall) :
    ((calls.filterMap decoding).filterMap Decoder.Call.polled).filterMap
      D2mInstruction.incomingPayload = calls.flatMap polled := by
  rw [List.filterMap_filterMap, List.filterMap_filterMap, List.filterMap_eq_flatMap_toList]
  refine List.flatMap_congr fun call _ => ?_
  cases call with
  | poll instruction => cases instruction <;> rfl
  | _ => rfl

end D2mCall

namespace D2mProtocol.Decodes

variable {δ : Type} {D : Decoder δ Bytes D2mInstruction} {view : Q.State → δ}

theorem performs_poll (h : Q.Decodes D view) {s s' : Q.State}
    {instruction : Option D2mInstruction} (hpoll : Q.poll s = .ok (instruction, s')) :
    D.Performs (some (.poll instruction)) (view s) (view s') := by
  cases instruction with
  | none =>
      obtain ⟨hstuck, hview⟩ := h.idle s s' hpoll
      rw [hview]
      exact .idle hstuck
  | some instruction => exact .poll (h.poll s instruction s' hpoll)

/-- The recorded calls are calls of the decoder. -/
theorem keeps_runs (h : Q.Decodes D view) (d : δ) :
    Q.recorded.Keeps fun s => D.Runs d (s.2.filterMap D2mCall.decoding) (view s.1) := by
  constructor
  · intro s r s' hruns hpoll
    obtain ⟨⟨instruction, s₁⟩, hstep, heq⟩ := Decoder.exists_of_map_eq_ok hpoll
    cases heq
    exact hruns.record (h.performs_poll hstep)
  · intro s datagrams s' hruns hadd
    obtain ⟨s₁, hstep, rfl⟩ := Decoder.exists_of_map_eq_ok hadd
    refine hruns.record ?_
    rw [h.addDatagrams s.1 datagrams s₁ hstep]
    exact .feed (view s.1) datagrams
  · intro s payload r s' hruns hcreate
    obtain ⟨⟨instruction, s₁⟩, hstep, heq⟩ := Decoder.exists_of_map_eq_ok hcreate
    cases heq
    refine hruns.record ?_
    rw [h.createPayload s.1 payload instruction s₁ hstep]
    exact .other (view s.1)

end D2mProtocol.Decodes

/-! ## What the mediator connection forwards -/

theorem D2mRunner.Processed.ne_select {instruction : D2mInstruction} {pc : D2mPc}
    (h : D2mRunner.Processed instruction pc) (pong : Option Bytes) : pc ≠ .select pong := by
  cases h with
  | quiet h => cases instruction.outgoingDatagram <;> exact nofun
  | _ => exact nofun

/-- A `poll` that returns nothing leads to the `select!`, and pings stay there. -/
theorem D2mRunner.Moves.polls_none {pc pc' : D2mPc} {l : D2mLabel} {calls : List D2mCall}
    (h : D2mRunner.Moves Q pc l calls pc') {pong : Option Bytes} (hpc' : pc' = .select pong) :
    calls = [.poll none] ∨ calls = [] ∧ ∃ pong', pc = .select pong' := by
  cases h with
  | idle => exact Or.inl rfl
  | receiveGoesOn h => exact Or.inr ⟨rfl, none, rfl⟩
  | @pongFed pong => exact Or.inr ⟨rfl, some pong, rfl⟩
  | poll h => exact (h.ne_select pong hpc').elim
  | create hcreate h => exact (h.ne_select pong hpc').elim
  | @sent payload datagram => cases datagram <;> cases hpc'
  | _ => cases hpc'

namespace D2mSession

variable {l : D2mSessionLabel} {calls : List D2mCall} {pc pc' : D2mSessionPc}

theorem afterInstruction_ne_select (stateUpdate : Option D2mStateUpdate) (pong : Option Bytes) :
    afterInstruction stateUpdate ≠ .payload (.select pong) := by
  intro h
  simp only [afterInstruction] at h
  split at h <;> cases h

/-- A `poll` that returns nothing leads to the `select!`, and pings stay there. -/
theorem Moves.polls_none (h : Moves Q pc l calls pc') {pong : Option Bytes}
    (hpc' : pc' = .payload (.select pong)) :
    calls = [.poll none] ∨ calls = [] ∧ ∃ pong', pc = .payload (.select pong') := by
  cases h with
  | binary h =>
      cases h with
      | noDatagram hdatagram => exact (afterInstruction_ne_select _ pong hpc').elim
      | _ => cases hpc'
  | sent => exact (afterInstruction_ne_select _ pong hpc').elim
  | payload h =>
      cases hpc'
      rcases h.polls_none rfl with hcalls | ⟨hcalls, pong', rfl⟩
      · exact Or.inl hcalls
      · exact Or.inr ⟨hcalls, pong', rfl⟩
  | _ => cases hpc'

/-- A datagram of the handshake makes one `poll` at most, and when the handshake goes on,
its instruction carries no payload. -/
theorem forwardable_addDatagram (self : D2mSession Q.recorded) (bytes : Bytes) :
    ∃ calls, (self.addDatagram bytes).protocol.2 = self.protocol.2 ++ calls ∧
      (calls.flatMap D2mCall.forwardable).length ≤ 1 ∧
      ((self.addDatagram bytes).pc.hasEnded = false →
        calls.flatMap D2mCall.forwardable = []) := by
  simp only [addDatagram, D2mProtocol.recorded]
  cases Q.addDatagrams self.protocol.1 [bytes] with
  | error message => exact ⟨[], (List.append_nil _).symm, Nat.zero_le 1, fun _ => rfl⟩
  | ok protocol =>
      simp only [Except.map]
      cases Q.poll protocol with
      | error message => exact ⟨[.addDatagrams [bytes]], rfl, Nat.zero_le 1, fun _ => rfl⟩
      | ok r =>
          obtain ⟨instruction, protocol⟩ := r
          refine ⟨[.addDatagrams [bytes], .poll instruction], ?_, ?_, ?_⟩
          · cases instruction with
            | none => exact List.append_assoc ..
            | some instruction =>
                simp only
                rw [protocol_processHandshake]
                exact List.append_assoc ..
          · rw [List.flatMap_cons, List.flatMap_singleton]
            exact Option.length_toList_le
          · intro hlive
            rw [List.flatMap_cons, List.flatMap_singleton]
            cases instruction with
            | none => rfl
            | some instruction =>
                simp only [processHandshake] at hlive
                cases hpayload : instruction.incomingPayload with
                | some payload =>
                    rw [hpayload] at hlive
                    cases hlive
                | none =>
                    show [] ++ instruction.incomingPayload.toList = []
                    rw [hpayload]
                    rfl

/-- The same, for every step of the handshake. -/
theorem forwardable_handshake {self self' : D2mSession Q.recorded} {l : D2mHandshakeLabel}
    (hl : self.next (.handshake l) = some self') :
    ((self.newCalls (.handshake l)).flatMap D2mCall.forwardable).length ≤ 1 ∧
      (self'.pc.hasEnded = false →
        (self.newCalls (.handshake l)).flatMap D2mCall.forwardable = []) := by
  cases hpc : self.pc with
  | handshake pc =>
      obtain ⟨hcalls, hmoves, -⟩ := newCalls_of_next hl
      rw [hpc] at hmoves
      replace hmoves := hmoves rfl
      generalize self.newCalls (.handshake l) = calls at hcalls hmoves ⊢
      generalize hpc' : self'.pc = pc' at hmoves ⊢
      cases hmoves with
      | @binary bytes calls pc' h =>
          simp only [next, hpc, nextHandshake, receive, Option.some.injEq] at hl
          subst hl
          obtain ⟨calls', hcalls', hlength, hnone⟩ := self.forwardable_addDatagram bytes
          have heq : calls' = calls := List.append_cancel_left (hcalls'.symm.trans hcalls)
          rw [← heq, ← hpc']
          exact ⟨hlength, hnone⟩
      | _ => exact ⟨Nat.zero_le 1, fun _ => rfl⟩
  | _ =>
      simp only [next, hpc] at hl
      cases hl

variable {protocol : Q.State} {self self' : D2mSession Q.recorded} {ls : List D2mSessionLabel}

theorem Moves.not_shutdown {error : Option String} : ¬ Moves Q pc (.shutdown error) calls pc' := by
  intro h
  cases h

theorem Moves.dueForward_handshake {l : D2mHandshakeLabel}
    (h : Moves Q pc (.handshake l) calls pc') : pc.dueForward = [] := by
  cases h <;> rfl

/-- What `poll` returns is sent to the driver, also what it returns in the handshake. -/
theorem polled_settled (hcreates : Q.CreatesDatagrams)
    (hrun : (machine Q.recorded).exec (startRecorded protocol) ls = some self) :
    Settles 1 self.pc.hasEnded self.pc.dueForward (sentOn D2mSessionLabel.port ls)
      (self.recordedCalls.flatMap D2mCall.polled) := by
  have hmade := made_exec hrun rfl
  have hpolled : self.recordedCalls.flatMap D2mCall.polled =
      self.recordedCalls.flatMap D2mCall.forwardable := by
    refine List.flatMap_congr fun call hcall => ?_
    cases call with
    | createPayload payload instruction =>
        have hnone := hcreates payload instruction (hmade payload instruction hcall)
        show [] = instruction.incomingPayload.toList
        rw [hnone]
        rfl
    | _ => rfl
  have hcalls : self.recordedCalls = (startRecorded protocol).callsOf ls := recordedCalls_exec hrun
  rw [hpolled, sentOn_port, hcalls, callsOf, (machine Q.recorded).flatMap_collect,
    ← (machine Q.recorded).collect_flatMap hrun]
  refine (machine Q.recorded).collect_account (fun s => s.pc.hasEnded) (fun _ l => l.forwarded)
    (fun s l => (s.newCalls l).flatMap D2mCall.forwardable) (fun s => s.pc.dueForward) 1
    (fun s _ => length_dueForward s.pc) ?_ ?_ ?_ rfl hrun
  · intro s l s' hs hl hs'
    have hmoves := (newCalls_of_next hl).2.1 hs
    have hforwards := hmoves.forwards hs'
    cases l with
    | payload l => exact hforwards
    | handshake l =>
        rw [(forwardable_handshake hl).2 hs']
        exact hforwards
    | shutdown error => exact (Moves.not_shutdown hmoves).elim
  · intro s l s' hs hl hs'
    have hmoves := (newCalls_of_next hl).2.1 hs
    cases l with
    | payload l => exact hmoves.forwards_end hs'
    | handshake l =>
        refine ⟨_, (forwardable_handshake hl).1, ?_⟩
        rw [hmoves.dueForward_handshake]
        rfl
    | shutdown error => exact (Moves.not_shutdown hmoves).elim
  · intro s l s' hs hl
    obtain ⟨hnew, hs', error, rfl⟩ := (newCalls_of_next hl).2.2 hs
    rw [hnew]
    exact ⟨hs', rfl, rfl⟩

/-- In the `select!`, the last call was a `poll` that returned nothing. -/
theorem idle_exec (hrun : (machine Q.recorded).exec (startRecorded protocol) ls = some self)
    {pong : Option Bytes} (hpc : self.pc = .payload (.select pong)) :
    ∃ calls, self.recordedCalls = calls ++ [.poll none] := by
  refine (machine Q.recorded).exec_invariant (I := fun s => ∀ pong,
    s.pc = .payload (.select pong) → ∃ calls, s.recordedCalls = calls ++ [.poll none]) ?_
    (fun pong h => by cases h) hrun pong hpc
  intro s l s' ih hl pong hpc'
  obtain ⟨hcalls, hlive, hended⟩ := newCalls_of_next hl
  cases hs : s.pc.hasEnded with
  | false =>
      rcases (hlive hs).polls_none hpc' with hnew | ⟨hnew, pong', hpc⟩
      · rw [hnew] at hcalls
        exact ⟨s.recordedCalls, hcalls⟩
      · rw [hcalls, hnew, List.append_nil]
        exact ih pong' hpc
  | true =>
      have hs' := (hended hs).2.1
      rw [hpc'] at hs'
      cases hs'

/-- The datagrams that the protocol has been given. -/
theorem given_settled (hrun : (machine Q.recorded).exec (startRecorded protocol) ls = some self) :
    Settles 1 self.pc.hasEnded [] (self.recordedCalls.flatMap D2mCall.given)
      (ls.flatMap D2mSessionLabel.datagramsRead) := by
  have hcalls : self.recordedCalls = (startRecorded protocol).callsOf ls := recordedCalls_exec hrun
  rw [hcalls, callsOf, (machine Q.recorded).flatMap_collect,
    ← (machine Q.recorded).collect_flatMap hrun]
  exact account_exec 1 (fun _ => []) (fun _ _ calls => calls.flatMap D2mCall.given)
    (fun _ l _ => l.datagramsRead) (fun _ => Nat.zero_le 1) Moves.given Moves.given_end
    (fun _ _ => ⟨rfl, rfl⟩) rfl hrun

variable {δ : Type} {D : Decoder δ Bytes D2mInstruction} {view : Q.State → δ}

/-- The calls of a run are calls of the decoder. -/
theorem runs_exec (hdecodes : Q.Decodes D view)
    (hrun : (machine Q.recorded).exec (startRecorded protocol) ls = some self) :
    D.Runs (view protocol) (self.recordedCalls.filterMap D2mCall.decoding)
      (view self.protocol.1) := by
  refine (machine Q.recorded).exec_invariant (I := fun s => D.Runs (view protocol)
    (s.recordedCalls.filterMap D2mCall.decoding) (view s.protocol.1)) ?_ .nil hrun
  intro s l s' hs hl
  exact keeps_next (hdecodes.keeps_runs (view protocol)) hs hl

/-- A connection that waits in its `select!` has forwarded everything that another one
forwards that has read the same datagrams, or fewer. -/
theorem forwards_mono (hdecodes : Q.Decodes D view) (hcreates : Q.CreatesDatagrams)
    {self self' : D2mSession Q} {ls ls' : List D2mSessionLabel} {pong : Option Bytes}
    (hrun : (machine Q).exec (start protocol) ls = some self)
    (hrun' : (machine Q).exec (start protocol) ls' = some self')
    (hselect : self'.pc = .payload (.select pong))
    (hread : ls.flatMap D2mSessionLabel.datagramsRead <+:
      ls'.flatMap D2mSessionLabel.datagramsRead) :
    sentOn D2mSessionLabel.port ls <+: sentOn D2mSessionLabel.port ls' := by
  obtain ⟨s, hs, -⟩ := exec_recorded hrun
  obtain ⟨s', hs', rfl⟩ := exec_recorded hrun'
  replace hselect : s'.pc = .payload (.select pong) := hselect
  have hgiven : (s.recordedCalls.filterMap D2mCall.decoding).flatMap Decoder.Call.fed <+:
      (s'.recordedCalls.filterMap D2mCall.decoding).flatMap Decoder.Call.fed := by
    have hall := given_settled hs'
    rw [hselect] at hall
    rw [D2mCall.flatMap_fed, D2mCall.flatMap_fed, hall.eq_script]
    exact (given_settled hs).prefix_script.trans hread
  have hsent := polled_settled hcreates hs'
  rw [hselect] at hsent
  have hpolled : s.recordedCalls.flatMap D2mCall.polled <+:
      s'.recordedCalls.flatMap D2mCall.polled := by
    obtain ⟨calls, hcalls⟩ := idle_exec hs' hselect
    have hruns' := runs_exec hdecodes hs'
    rw [hcalls] at hruns' hgiven
    have hprefix := (runs_exec hdecodes hs).prefix_of_idle_log hruns' rfl hgiven
    rw [← hcalls] at hprefix
    have hforwardable := hprefix.filterMap D2mInstruction.incomingPayload
    rwa [D2mCall.flatMap_polled, D2mCall.flatMap_polled] at hforwardable
  rw [hsent.eq_script]
  exact (polled_settled hcreates hs).prefix_script.trans hpolled

end D2mSession

/-! ### A login -/

/-- What a datagram gives does not depend on those after it. -/
theorem D2mProtocol.sampleLogin_poll_cons (loggedIn : Bool) (datagram : Bytes) :
    ∃ instruction, ∀ rest, D2mProtocol.sampleLogin.poll (loggedIn, datagram :: rest) =
      .ok (some instruction, (true, rest)) := by
  cases loggedIn with
  | false => exact ⟨_, fun rest => rfl⟩
  | true => exact ⟨_, fun rest => rfl⟩

/-- The datagrams of the login and those after it. -/
def D2mProtocol.loginDecoder : Decoder (Bool × List Bytes) Bytes D2mInstruction where
  feed s datagrams := (s.1, s.2 ++ datagrams)
  step s :=
    match D2mProtocol.sampleLogin.poll s with
    | .ok (some instruction, s') => some (instruction, s')
    | _ => none
  feed_nil s := by rw [List.append_nil]
  feed_append s datagrams datagrams' := by rw [List.append_assoc]
  step_feed s instruction s' more h := by
    obtain ⟨loggedIn, datagrams⟩ := s
    cases datagrams with
    | nil => cases h
    | cons datagram datagrams =>
        obtain ⟨instruction', hpoll⟩ := D2mProtocol.sampleLogin_poll_cons loggedIn datagram
        rw [hpoll] at h
        cases h
        rw [List.cons_append, hpoll]

theorem D2mProtocol.sampleLogin_decodes :
    D2mProtocol.sampleLogin.Decodes D2mProtocol.loginDecoder id where
  poll s instruction s' h := by
    simp only [D2mProtocol.loginDecoder, id]
    rw [h]
  idle s s' h := by
    obtain ⟨loggedIn, datagrams⟩ := s
    cases datagrams with
    | nil =>
        cases h
        exact ⟨rfl, rfl⟩
    | cons datagram datagrams =>
        obtain ⟨instruction, hpoll⟩ := D2mProtocol.sampleLogin_poll_cons loggedIn datagram
        rw [hpoll] at h
        cases h
  addDatagrams s datagrams s' h := by
    cases h
    rfl
  createPayload s payload r s' h := by
    cases h
    rfl

end MultideviceClient

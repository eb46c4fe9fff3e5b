import MultideviceClient.Delivery
import MultideviceClient.Foundations.Decoder

/-!
# The chat server connection decodes

libthreema is relied on to decode incrementally: what `poll` returns depends on the bytes
so far, and not on how they were cut, nor on the payloads that were created in between
(`CspProtocol.Decodes`).

The calls that a run makes of the protocol are then calls of a decoder (`runs_exec`), and
the connection waits in its `select!` only after a `poll` that returned nothing
(`idle_exec`).  So a connection that waits has forwarded everything that any other run
can make of the same bytes, or of fewer (`forwards_mono`).
-/

namespace MultideviceClient

open Foundations

variable {P : CspProtocol}

/-! ## Calls of the chat server's protocol -/

/-- The calls of the protocol keep a property of its state. -/
structure CspProtocol.Keeps (P : CspProtocol) (I : P.State → Prop) : Prop where
  poll : ∀ s r s', I s → P.poll s = .ok (r, s') → I s'
  addChunks : ∀ s bytes s', I s → P.addChunks s bytes = .ok s' → I s'
  createPayload : ∀ s payload r s', I s → P.createPayload s payload = .ok (r, s') → I s'

namespace CspRunner

variable {I : P.State → Prop}

theorem keeps_process (h : P.Keeps I) (self : CspRunner P) (hself : I self.protocol)
    (instruction : CspInstruction) : I (self.process instruction).protocol := by
  simp only [process]
  split
  next => exact hself
  next =>
      split
      next payload _ =>
          cases hcreate : P.createPayload self.protocol (.echoResponse payload) with
          | error message => exact hself
          | ok r => exact h.createPayload _ _ r.1 r.2 hself hcreate
      all_goals exact hself

theorem keeps_turn (h : P.Keeps I) {self : CspRunner P} (hself : I self.protocol)
    (instruction : Option CspInstruction) : I (self.turn instruction).protocol := by
  cases instruction with
  | some instruction => exact keeps_process h self hself instruction
  | none =>
      simp only [turn]
      cases hpoll : P.poll self.protocol with
      | error message => exact hself
      | ok r =>
          obtain ⟨instruction, protocol⟩ := r
          have hprotocol := h.poll _ _ _ hself hpoll
          cases instruction with
          | none => exact hprotocol
          | some instruction =>
              exact keeps_process h { self with protocol := protocol } hprotocol instruction

theorem keeps_next (h : P.Keeps I) (self : CspRunner P) {self' : CspRunner P} {l : CspLabel}
    (hself : I self.protocol) (hl : self.next l = some self') : I self'.protocol := by
  cases l with
  | turn =>
      simp only [next] at hl
      split at hl <;> cases hl
      exact keeps_turn h hself _
  | readable read =>
      simp only [next] at hl
      split at hl
      next =>
          cases hl
          exact hself
      next bytes _ _ =>
          split at hl
          next =>
              split at hl <;> cases hl
              next => exact hself
              next protocol hadd => exact h.addChunks _ _ _ hself hadd
          next => cases hl
      next => cases hl
  | recvOutgoing payload =>
      simp only [next] at hl
      split at hl
      next =>
          cases hl
          exact hself
      next =>
          split at hl <;> cases hl
          next => exact hself
          next instruction protocol hcreate =>
              exact keeps_process h { self with protocol := protocol }
                (h.createPayload _ _ _ _ hself hcreate) instruction
      next => cases hl
  | sentIncoming payload =>
      simp only [next] at hl
      split at hl
      next =>
          split at hl <;> cases hl
          exact hself
      next => cases hl
  | sendFailed =>
      simp only [next] at hl
      split at hl <;> cases hl
      exact hself
  | written error =>
      simp only [next] at hl
      split at hl <;> cases hl
      next => exact hself
      next => exact hself

end CspRunner

namespace CspSession

variable {I : P.State → Prop}

theorem keeps_processHandshake (self : CspSession P) (hself : I self.protocol)
    (instruction : CspInstruction) : I (self.processHandshake instruction).protocol := by
  simp only [processHandshake]
  split
  next => exact hself
  next => cases instruction.outgoingFrame <;> exact hself

theorem keeps_addChunk (h : P.Keeps I) {self : CspSession P} (hself : I self.protocol)
    (bytes : Bytes) : I (self.addChunk bytes).protocol := by
  simp only [addChunk]
  cases hadd : P.addChunks self.protocol bytes with
  | error message => exact hself
  | ok protocol =>
      have hprotocol := h.addChunks _ _ _ hself hadd
      simp only
      cases hpoll : P.poll protocol with
      | error message => exact hprotocol
      | ok r =>
          obtain ⟨instruction, protocol'⟩ := r
          have hprotocol' := h.poll _ _ _ hprotocol hpoll
          cases instruction with
          | none => exact hprotocol'
          | some instruction =>
              exact keeps_processHandshake { self with protocol := protocol' } hprotocol'
                instruction

theorem keeps_nextHandshake (h : P.Keeps I) {self self' : CspSession P} {pc : CspHandshakePc}
    {l : CspHandshakeLabel} (hself : I self.protocol) (hl : self.nextHandshake pc l = some self') :
    I self'.protocol := by
  cases l with
  | turn =>
      simp only [nextHandshake] at hl
      split at hl <;> cases hl
      simp only [receiveRequired]
      split
      next => exact hself
      next => exact keeps_addChunk h hself []
      next => exact hself
  | read result =>
      simp only [nextHandshake] at hl
      split at hl
      next =>
          cases hl
          exact hself
      next =>
          simp only [readExact] at hl
          split at hl
          next =>
              cases hl
              exact hself
          next =>
              split at hl
              next =>
                  cases hl
                  exact hself
              next =>
                  split at hl <;> cases hl
                  exact hself
      next => cases hl
  | tryReadBuf read =>
      simp only [nextHandshake] at hl
      split at hl <;> cases hl
      next buffer =>
          cases read with
          | bytes bytes => exact keeps_addChunk h hself _
          | wouldBlock => exact keeps_addChunk h hself _
          | _ => exact hself
  | written error =>
      simp only [nextHandshake] at hl
      split at hl <;> cases hl <;> exact hself

/-- What the calls of the protocol keep holds along every run. -/
theorem keeps_next (h : P.Keeps I) {self self' : CspSession P} {l : CspSessionLabel}
    (hself : I self.protocol) (hl : self.next l = some self') : I self'.protocol := by
  cases l with
  | handshake l =>
      simp only [next] at hl
      split at hl
      next pc _ => exact keeps_nextHandshake h hself hl
      next => cases hl
  | payload l =>
      simp only [next] at hl
      split at hl
      next pc _ =>
          obtain ⟨runner, hrunner, rfl⟩ := Option.map_eq_some_iff.mp hl
          exact CspRunner.keeps_next h ⟨self.protocol, pc⟩ hself hrunner
      next => cases hl
  | shutdown error =>
      simp only [next] at hl
      split at hl <;> cases hl <;> exact hself

end CspSession

/-! ## What `poll` returns -/

/-- The protocol decodes its input.  The decoder, which `view` finds in its state, does not
mind what is created. -/
structure CspProtocol.Decodes {δ : Type} (P : CspProtocol) (D : Decoder δ UInt8 CspInstruction)
    (view : P.State → δ) : Prop where
  poll : ∀ s instruction s', P.poll s = .ok (some instruction, s') →
    D.step (view s) = some (instruction, view s')
  idle : ∀ s s', P.poll s = .ok (none, s') → D.step (view s) = none ∧ view s' = view s
  addChunks : ∀ s bytes s', P.addChunks s bytes = .ok s' → view s' = D.feed (view s) bytes
  createPayload : ∀ s payload r s', P.createPayload s payload = .ok (r, s') → view s' = view s

namespace CspCall

/-- The call of the decoder. -/
def decoding : CspCall → Option (Decoder.Call UInt8 CspInstruction)
  | .addChunks bytes => some (.feed bytes)
  | .poll instruction => some (.poll instruction)
  | .createPayload _ _ => none

theorem flatMap_fed (calls : List CspCall) :
    (calls.filterMap decoding).flatMap Decoder.Call.fed = (calls.filterMap chunk).flatten := by
  induction calls with
  | nil => rfl
  | cons call calls ih =>
      cases call with
      | addChunks bytes => exact congrArg (bytes ++ ·) ih
      | _ => exact ih

/-- The payloads that `poll` returns are those of its instructions. -/
theorem filterMap_polled (calls : List CspCall) :
    ((calls.filterMap decoding).filterMap Decoder.Call.polled).filterMap
      CspInstruction.forwardable = calls.filterMap polled := by
  rw [List.filterMap_filterMap, List.filterMap_filterMap]
  refine List.filterMap_congr fun call _ => ?_
  cases call with
  | poll instruction => cases instruction <;> rfl
  | _ => rfl

end CspCall

namespace CspProtocol.Decodes

variable {δ : Type} {D : Decoder δ UInt8 CspInstruction} {view : P.State → δ}

theorem performs_poll (h : P.Decodes D view) {s s' : P.State}
    {instruction : Option CspInstruction} (hpoll : P.poll s = .ok (instruction, s')) :
    D.Performs (some (.poll instruction)) (view s) (view s') := by
  cases instruction with
  | none =>
      obtain ⟨hstuck, hview⟩ := h.idle s s' hpoll
      rw [hview]
      exact .idle hstuck
  | some instruction => exact .poll (h.poll s instruction s' hpoll)

/-- The recorded calls are calls of the decoder. -/
theorem keeps_runs (h : P.Decodes D view) (d : δ) :
    P.recorded.Keeps fun s => D.Runs d (s.2.filterMap CspCall.decoding) (view s.1) := by
  constructor
  · intro s r s' hruns hpoll
    obtain ⟨⟨instruction, s₁⟩, hstep, heq⟩ := Decoder.exists_of_map_eq_ok hpoll
    cases heq
    exact hruns.record (h.performs_poll hstep)
  · intro s bytes s' hruns hadd
    obtain ⟨s₁, hstep, rfl⟩ := Decoder.exists_of_map_eq_ok hadd
    refine hruns.record ?_
    rw [h.addChunks s.1 bytes s₁ hstep]
    exact .feed (view s.1) bytes
  · intro s payload r s' hruns hcreate
    obtain ⟨⟨instruction, s₁⟩, hstep, heq⟩ := Decoder.exists_of_map_eq_ok hcreate
    cases heq
    refine hruns.record ?_
    rw [h.createPayload s.1 payload instruction s₁ hstep]
    exact .other (view s.1)

end CspProtocol.Decodes

/-! ## What the chat server connection forwards -/

theorem CspRunner.Processed.ne_select {instruction : CspInstruction} {calls : List CspCall}
    {pc : CspPc} (h : CspRunner.Processed P instruction calls pc) : pc ≠ .select := by
  have hfinish : ∀ frame next, CspRunner.finish frame next ≠ .select := by
    intro frame next
    cases frame <;> exact nofun
  cases h with
  | echoed h hcreate => exact hfinish _ _
  | quiet hecho hforward => exact hfinish _ _
  | _ => exact nofun

/-- Only a `poll` that returns nothing leads to the `select!`. -/
theorem CspRunner.Moves.polls_none {pc pc' : CspPc} {l : CspLabel} {calls : List CspCall}
    (h : CspRunner.Moves P pc l calls pc') (hpc' : pc' = .select) : calls = [.poll none] := by
  cases h with
  | process h => exact (h.ne_select hpc').elim
  | poll h => exact (h.ne_select hpc').elim
  | create hcreate h => exact (h.ne_select hpc').elim
  | idle => rfl
  | @sent payload frame => cases frame <;> cases hpc'
  | _ => cases hpc'

namespace CspSession

variable {l : CspSessionLabel} {calls : List CspCall} {pc pc' : CspSessionPc} {dropped : Bytes}

/-- An instruction of the handshake that goes on carries no payload. -/
theorem ChunkAdded.forwardable {bytes : Bytes} (h : ChunkAdded bytes calls pc dropped)
    (hlive : pc.hasEnded = false) : calls.filterMap CspCall.forwardable = [] := by
  have hquiet : ∀ {instruction : CspInstruction}, instruction.incomingPayload = none →
      [CspCall.addChunks bytes, .poll (some instruction)].filterMap CspCall.forwardable = [] := by
    intro instruction h
    rw [CspCall.filterMap_forwardable_cons, CspCall.filterMap_forwardable_cons]
    show instruction.forwardable.toList ++ [] = []
    rw [CspInstruction.forwardable, h]
    rfl
  cases h with
  | idle => rfl
  | frame h hframe => exact hquiet h
  | noFrame h hframe => exact hquiet h
  | _ => cases hlive

theorem ChunkAdded.length_forwardable {bytes : Bytes} (h : ChunkAdded bytes calls pc dropped) :
    (calls.filterMap CspCall.forwardable).length ≤ 1 := by
  have hone : ∀ instruction : CspInstruction,
      ([CspCall.addChunks bytes, .poll (some instruction)].filterMap
        CspCall.forwardable).length ≤ 1 := by
    intro instruction
    rw [CspCall.filterMap_forwardable_cons, CspCall.filterMap_forwardable_cons]
    show (instruction.forwardable.toList ++ []).length ≤ 1
    rw [List.append_nil]
    exact Option.length_toList_le
  cases h with
  | unexpected => exact hone _
  | frame h hframe => exact hone _
  | noFrame h hframe => exact hone _
  | _ => exact Nat.zero_le 1

theorem Moves.forwards_all (h : Moves P pc l calls pc' dropped) (hlive : pc'.hasEnded = false) :
    l.forwarded ++ pc'.dueForward = pc.dueForward ++ calls.filterMap CspCall.forwardable := by
  have hforwards := h.forwards hlive
  cases h with
  | noLength h =>
      rw [h.forwardable hlive]
      exact hforwards
  | tryRead hread h =>
      rw [h.forwardable hlive]
      exact hforwards
  | _ => exact hforwards

/-- When the flows return, at most one payload has not been forwarded. -/
theorem Moves.forwards_all_end (h : Moves P pc l calls pc' dropped) (hend : pc'.hasEnded = true) :
    ∃ rest : List IncomingPayloadForCspE2e, rest.length ≤ 1 ∧
      l.forwarded ++ rest = pc.dueForward ++ calls.filterMap CspCall.forwardable := by
  have hforwards := h.forwards_end hend
  cases h with
  | noLength h => exact ⟨_, h.length_forwardable, rfl⟩
  | tryRead hread h => exact ⟨_, h.length_forwardable, rfl⟩
  | _ => exact hforwards

variable {protocol : P.State} {clientHello : Bytes} {self self' : CspSession P.recorded}
  {ls : List CspSessionLabel}

/-- What `poll` returns is sent to the driver, also what it returns in the handshake. -/
theorem polled_settled (hcreates : P.CreatesFrames)
    (hrun : (machine P.recorded).exec (startRecorded protocol clientHello) ls = some self) :
    Settles 1 self.pc.hasEnded self.pc.dueForward (sentOn CspSessionLabel.port ls)
      (self.calls.filterMap CspCall.polled) := by
  have hmade := made_exec hrun rfl
  have hpolled : self.calls.filterMap CspCall.polled =
      self.calls.filterMap CspCall.forwardable := by
    refine List.filterMap_congr fun call hcall => ?_
    cases call with
    | createPayload payload instruction =>
        have hnone := hcreates payload instruction (hmade payload instruction hcall)
        show none = instruction.forwardable
        rw [CspInstruction.forwardable, hnone]
    | _ => rfl
  have hcalls := calls_exec hrun
  rw [show (startRecorded protocol clientHello).calls = [] from rfl, List.nil_append] at hcalls
  rw [hpolled, sentOn_port, hcalls, (machine P.recorded).filterMap_collect_eq,
    ← (machine P.recorded).collect_flatMap hrun]
  exact account_exec 1 CspSessionPc.dueForward (fun _ l _ => l.forwarded)
    (fun _ _ calls => calls.filterMap CspCall.forwardable) length_dueForward
    Moves.forwards_all Moves.forwards_all_end (fun _ _ => ⟨rfl, rfl⟩) rfl hrun

theorem afterInstruction_ne_select (stateUpdate : Option CspStateUpdate) :
    afterInstruction stateUpdate ≠ .payload .select := by
  intro h
  simp only [afterInstruction] at h
  split at h <;> cases h

/-- Only a `poll` that returns nothing leads to the `select!`. -/
theorem Moves.polls_none (h : Moves P pc l calls pc' dropped) (hpc' : pc' = .payload .select) :
    calls = [.poll none] := by
  have hadded : ∀ {bytes : Bytes} {calls : List CspCall},
      ¬ ChunkAdded bytes calls (.payload .select) dropped := by
    intro bytes calls h
    generalize hpc : CspSessionPc.payload .select = pc at h
    cases h with
    | noFrame h hframe => exact afterInstruction_ne_select _ hpc.symm
    | _ => cases hpc
  cases h with
  | frameSent => exact (afterInstruction_ne_select _ hpc').elim
  | noLength h =>
      rw [hpc'] at h
      exact (hadded h).elim
  | tryRead hread h =>
      rw [hpc'] at h
      exact (hadded h).elim
  | payload h =>
      cases hpc'
      exact h.polls_none rfl
  | _ => cases hpc'

/-- In the `select!`, the last call was a `poll` that returned nothing. -/
theorem idle_exec (hrun : (machine P.recorded).exec (startRecorded protocol clientHello) ls =
      some self) (hpc : self.pc = .payload .select) :
    ∃ calls, self.calls = calls ++ [.poll none] := by
  refine (machine P.recorded).exec_invariant (I := fun s => s.pc = .payload .select →
    ∃ calls, s.calls = calls ++ [.poll none]) ?_ (fun h => by cases h) hrun hpc
  intro s l s' _ hl hpc'
  obtain ⟨hcalls, hlive, hended⟩ := newCalls_of_next hl
  cases hs : s.pc.hasEnded with
  | false =>
      rw [(hlive hs).polls_none hpc'] at hcalls
      exact ⟨s.calls, hcalls⟩
  | true =>
      have hs' := (hended hs).2.1
      rw [hpc'] at hs'
      cases hs'

/-- The bytes that the protocol has been given. -/
theorem chunks_exec
    (hrun : (machine P.recorded).exec (startRecorded protocol clientHello) ls = some self) :
    (self.calls.filterMap CspCall.chunk).flatten ++ self.inHand =
      ls.flatMap CspSessionLabel.bytesRead := by
  have hbytes := bytes_exec hrun
  have hcalls := calls_exec hrun
  rw [show (startRecorded protocol clientHello).calls = [] from rfl, List.nil_append] at hcalls
  rw [hcalls]
  exact hbytes

variable {δ : Type} {D : Decoder δ UInt8 CspInstruction} {view : P.State → δ}

/-- The calls of a run are calls of the decoder. -/
theorem runs_exec (hdecodes : P.Decodes D view)
    (hrun : (machine P.recorded).exec (startRecorded protocol clientHello) ls = some self) :
    D.Runs (view protocol) (self.calls.filterMap CspCall.decoding) (view self.protocol.1) := by
  refine (machine P.recorded).exec_invariant (I := fun s =>
    D.Runs (view protocol) (s.calls.filterMap CspCall.decoding) (view s.protocol.1)) ?_ .nil hrun
  intro s l s' hs hl
  exact keeps_next (hdecodes.keeps_runs (view protocol)) hs hl

/-- A connection that waits in its `select!` has forwarded everything that another one
forwards that has read the same bytes, or fewer. -/
theorem forwards_mono (hdecodes : P.Decodes D view) (hcreates : P.CreatesFrames)
    {clientHello' : Bytes} {self self' : CspSession P} {ls ls' : List CspSessionLabel}
    (hrun : (machine P).exec (start protocol clientHello) ls = some self)
    (hrun' : (machine P).exec (start protocol clientHello') ls' = some self')
    (hselect : self'.pc = .payload .select)
    (hread : ls.flatMap CspSessionLabel.bytesRead <+: ls'.flatMap CspSessionLabel.bytesRead) :
    sentOn CspSessionLabel.port ls <+: sentOn CspSessionLabel.port ls' := by
  obtain ⟨s, hs, -⟩ := exec_recorded hrun
  obtain ⟨s', hs', rfl⟩ := exec_recorded hrun'
  replace hselect : s'.pc = .payload .select := hselect
  -- In the `select!` nothing is in hand, and nothing waits to be forwarded.
  have hgiven : (s.calls.filterMap CspCall.decoding).flatMap Decoder.Call.fed <+:
      (s'.calls.filterMap CspCall.decoding).flatMap Decoder.Call.fed := by
    have hall := chunks_exec hs'
    rw [show s'.inHand = [] by simp [inHand, hselect, CspSessionPc.hasEnded, CspPc.hasReturned,
      CspSessionPc.buffer], List.append_nil] at hall
    rw [CspCall.flatMap_fed, CspCall.flatMap_fed, hall]
    exact List.IsPrefix.trans ⟨_, chunks_exec hs⟩ hread
  have hsent := polled_settled hcreates hs'
  rw [hselect] at hsent
  have hpolled : s.calls.filterMap CspCall.polled <+: s'.calls.filterMap CspCall.polled := by
    obtain ⟨calls, hcalls⟩ := idle_exec hs' hselect
    have hruns' := runs_exec hdecodes hs'
    rw [hcalls] at hruns' hgiven
    have hprefix := (runs_exec hdecodes hs).prefix_of_idle_log hruns' rfl hgiven
    rw [← hcalls] at hprefix
    have hforwardable := hprefix.filterMap CspInstruction.forwardable
    rwa [CspCall.filterMap_polled, CspCall.filterMap_polled] at hforwardable
  rw [hsent.eq_script]
  exact (polled_settled hcreates hs).prefix_script.trans hpolled

end CspSession

/-! ### A login -/

theorem CspProtocol.sample_poll_append {buffer rest : Bytes} {instruction : CspInstruction}
    (h : CspProtocol.sample.poll buffer = .ok (some instruction, rest)) (bytes : Bytes) :
    CspProtocol.sample.poll (buffer ++ bytes) = .ok (some instruction, rest ++ bytes) := by
  cases buffer with
  | nil => cases h
  | cons length buffer =>
      simp only [CspProtocol.sample] at h ⊢
      split at h
      next => cases h
      next hlength =>
          cases h
          rw [List.cons_append]
          simp only [List.length_append]
          rw [if_neg (by omega), List.take_append_of_le_length (by omega),
            List.drop_append_of_le_length (by omega)]

theorem CspProtocol.sampleLogin_poll_append {s s' : Bool × Bytes} {instruction : CspInstruction}
    (h : CspProtocol.sampleLogin.poll s = .ok (some instruction, s')) (bytes : Bytes) :
    CspProtocol.sampleLogin.poll (s.1, s.2 ++ bytes) =
      .ok (some instruction, (s'.1, s'.2 ++ bytes)) := by
  obtain ⟨loggedIn, buffer⟩ := s
  simp only [CspProtocol.sampleLogin] at h ⊢
  split at h
  next => cases h
  next => cases h
  next instruction' rest hpoll =>
      rw [CspProtocol.sample_poll_append hpoll bytes]
      split at h
      next =>
          cases h
          rfl
      next hpayload =>
          cases h
          simp only [hpayload]
      next hother =>
          cases h
          simp only

/-- The frames of the login and of the messages after it. -/
def CspProtocol.loginDecoder : Decoder (Bool × Bytes) UInt8 CspInstruction where
  feed s bytes := (s.1, s.2 ++ bytes)
  step s :=
    match CspProtocol.sampleLogin.poll s with
    | .ok (some instruction, s') => some (instruction, s')
    | _ => none
  feed_nil s := by rw [List.append_nil]
  feed_append s bytes bytes' := by rw [List.append_assoc]
  step_feed s instruction s' bytes h := by
    split at h
    next instruction' s₁ hpoll =>
        cases h
        rw [CspProtocol.sampleLogin_poll_append hpoll bytes]
    next => cases h

theorem CspProtocol.sampleLogin_poll_none {s s' : Bool × Bytes}
    (h : CspProtocol.sampleLogin.poll s = .ok (none, s')) : s' = s := by
  obtain ⟨loggedIn, buffer⟩ := s
  simp only [CspProtocol.sampleLogin] at h
  split at h
  next => cases h
  next rest hpoll =>
      cases h
      cases buffer with
      | nil =>
          cases hpoll
          rfl
      | cons length buffer =>
          simp only [CspProtocol.sample] at hpoll
          split at hpoll <;> cases hpoll
          rfl
  next => split at h <;> cases h

theorem CspProtocol.sampleLogin_decodes :
    CspProtocol.sampleLogin.Decodes CspProtocol.loginDecoder id where
  poll s instruction s' h := by
    simp only [CspProtocol.loginDecoder, id]
    rw [h]
  idle s s' h := by
    refine ⟨?_, CspProtocol.sampleLogin_poll_none h⟩
    simp only [CspProtocol.loginDecoder, id]
    rw [h]
  addChunks s bytes s' h := by
    cases h
    rfl
  createPayload s payload r s' h := by
    cases h
    rfl

end MultideviceClient

import MultideviceClient.CspDecoding
import MultideviceClient.D2mDecoding

/-!
# What the servers decide

The connections interleave with the driver, TCP cuts the bytes of the chat server as it
likes, and a `select!` takes any of its branches.  None of this has an influence on what
the driver receives from either server (`inputs_decide`).
-/

namespace MultideviceClient

open Foundations

variable {P : CspProtocol} {Q : D2mProtocol} {L : Libthreema}

namespace ClientLabel

/-- The bytes that the chat server connection reads. -/
def bytesRead : ClientLabel → Bytes
  | .csp l => l.bytesRead
  | _ => []

/-- The datagrams that the mediator connection reads. -/
def datagramsRead : ClientLabel → List Bytes
  | .d2m l => l.datagramsRead
  | _ => []

theorem flatMap_bytesRead (ls : List ClientLabel) :
    (ls.filterMap ofCsp).flatMap CspSessionLabel.bytesRead = ls.flatMap bytesRead := by
  induction ls with
  | nil => rfl
  | cons l ls ih =>
      cases l with
      | csp l => exact congrArg (l.bytesRead ++ ·) ih
      | _ => exact ih

theorem flatMap_datagramsRead (ls : List ClientLabel) :
    (ls.filterMap ofD2m).flatMap D2mSessionLabel.datagramsRead = ls.flatMap datagramsRead := by
  induction ls with
  | nil => rfl
  | cons l ls ih =>
      cases l with
      | d2m l => exact congrArg (l.datagramsRead ++ ·) ih
      | _ => exact ih

end ClientLabel

namespace Client

variable {δ ε : Type} {D : Decoder δ UInt8 CspInstruction} {E : Decoder ε Bytes D2mInstruction}
  {cspView : P.State → δ} {d2mView : Q.State → ε} {parts parts' : ClientParts P Q L}
  {ls ls' : List ClientLabel} {client client' : Client P Q L} {tasks : ClientTasks P Q L}

/-- What the servers have sent decides what the driver receives from either of them,
however the bytes are cut and the branches are interleaved: when the connections of a
client have read everything and wait, a client that has read as much or less has received
a part of what is received, or waits to be received, there. -/
theorem inputs_decide (hcsp : P.Decodes D cspView) (hd2m : Q.Decodes E d2mView)
    (hframes : P.CreatesFrames) (hdatagrams : Q.CreatesDatagrams)
    (hcspProtocol : parts'.cspProtocol = parts.cspProtocol)
    (hd2mProtocol : parts'.d2mProtocol = parts.d2mProtocol)
    (hrun : (machine P Q L).exec (start parts) ls = some client)
    (hrun' : (machine P Q L).exec (start parts') ls' = some client')
    (hphase : client'.phase = .running tasks) (hcspSelect : tasks.csp.pc = .payload .select)
    {pong : Option Bytes} (hd2mSelect : tasks.d2m.pc = .payload (.select pong))
    (hbytes : ls.flatMap ClientLabel.bytesRead <+: ls'.flatMap ClientLabel.bytesRead)
    (hread : ls.flatMap ClientLabel.datagramsRead <+: ls'.flatMap ClientLabel.datagramsRead) :
    receivedOn DriverLabel.cspPort (ls.filterMap ClientLabel.ofDriver) <+:
        receivedOn DriverLabel.cspPort (ls'.filterMap ClientLabel.ofDriver) ++ tasks.cspIncoming ∧
      receivedOn DriverLabel.d2mPort (ls.filterMap ClientLabel.ofDriver) <+:
        receivedOn DriverLabel.d2mPort (ls'.filterMap ClientLabel.ofDriver) ++
          tasks.d2mIncoming := by
  obtain ⟨branches, htracks⟩ := tracks_exec hrun
  obtain ⟨branches', htracks'⟩ := tracks_exec hrun'
  obtain rfl := htracks'.running tasks hphase
  have hwired := htracks.wired
  have hwired' := htracks'.wired
  have hcspRun' := hwired'.csp
  have hd2mRun' := hwired'.d2m
  rw [hcspProtocol] at hcspRun'
  rw [hd2mProtocol] at hd2mRun'
  rw [← ClientLabel.flatMap_bytesRead, ← ClientLabel.flatMap_bytesRead] at hbytes
  rw [← ClientLabel.flatMap_datagramsRead, ← ClientLabel.flatMap_datagramsRead] at hread
  rw [hwired'.cspIncoming, hwired'.d2mIncoming]
  constructor
  · exact List.IsPrefix.trans ⟨_, hwired.cspIncoming⟩
      (CspSession.forwards_mono hcsp hframes hwired.csp hcspRun' hcspSelect hbytes)
  · exact List.IsPrefix.trans ⟨_, hwired.d2mIncoming⟩
      (D2mSession.forwards_mono hd2m hdatagrams hwired.d2m hd2mRun' hd2mSelect hread)

/-- A client that takes every envelope for nothing. -/
def streams : ClientParts .sampleLogin .sampleLogin (.sample fun _ => .ok ⟨none⟩) where
  stateDir := "."
  deviceGroupKey := ()
  contactStore := .sample _
  contacts := ∅
  cspProtocol := (false, [])
  clientHello := [42]
  d2mProtocol := (false, [])

/-- Two messages come in one read, after a reflected payload.  The connections wait. -/
def waits : List ClientLabel :=
  setsUp ++ .connectedD2m (.ok true) :: handshakes ++
    [.d2m (.payload .turn), .d2m (.payload (.received (.binary [7]))), .d2m (.payload .turn),
      .d2m (.payload (.sentIncoming (.reflected 7 []))), .d2m (.payload .turn),
      .driver (.recvD2m (some (.reflected 7 []))), .driver (.sentD2m (.reflectedAck 7)),
      .csp (.payload .turn), .csp (.payload (.readable (.bytes [1, 5, 1, 6]))),
      .csp (.payload .turn), .csp (.payload (.sentIncoming (.message ⟨[5]⟩))),
      .driver (.recvCsp (some (.message ⟨[5]⟩))), .csp (.payload .turn),
      .csp (.payload (.sentIncoming (.message ⟨[6]⟩))), .csp (.payload .turn)]

/-- The first message is cut into two reads, and received before the reflected payload. -/
def cuts : List ClientLabel :=
  setsUp ++ .connectedD2m (.ok true) :: handshakes ++
    [.csp (.payload .turn), .csp (.payload (.readable (.bytes [1]))), .csp (.payload .turn),
      .csp (.payload (.readable (.bytes [5]))), .csp (.payload .turn),
      .csp (.payload (.sentIncoming (.message ⟨[5]⟩))),
      .driver (.recvCsp (some (.message ⟨[5]⟩))), .d2m (.payload .turn),
      .d2m (.payload (.received (.binary [7]))), .d2m (.payload .turn),
      .d2m (.payload (.sentIncoming (.reflected 7 [])))]

theorem inputs_decide_cuts :
    receivedOn DriverLabel.cspPort (cuts.filterMap ClientLabel.ofDriver) <+:
        receivedOn DriverLabel.cspPort (waits.filterMap ClientLabel.ofDriver) ++
          [.message ⟨[6]⟩] ∧
      receivedOn DriverLabel.d2mPort (cuts.filterMap ClientLabel.ofDriver) <+:
        receivedOn DriverLabel.d2mPort (waits.filterMap ClientLabel.ofDriver) := by
  have hframes : CspProtocol.sampleLogin.CreatesFrames := by
    rintro payload instruction ⟨s, s', h⟩
    cases h
    rfl
  have hdatagrams : D2mProtocol.sampleLogin.CreatesDatagrams := by
    rintro payload instruction ⟨s, s', h⟩
    cases h
    rfl
  obtain ⟨client, hrun⟩ : ∃ client, (machine _ _ _).exec (start streams) cuts = some client :=
    ⟨_, rfl⟩
  obtain ⟨client', hrun', tasks, hphase, hcsp, hd2m, hcspIncoming, hd2mIncoming⟩ :
      ∃ client', (machine _ _ _).exec (start streams) waits = some client' ∧
        ∃ tasks, client'.phase = .running tasks ∧ tasks.csp.pc = .payload .select ∧
          tasks.d2m.pc = .payload (.select none) ∧
          tasks.cspIncoming = [.message ⟨[6]⟩] ∧ tasks.d2mIncoming = [] :=
    ⟨_, rfl, _, rfl, rfl, rfl, rfl, rfl⟩
  have h := inputs_decide CspProtocol.sampleLogin_decodes D2mProtocol.sampleLogin_decodes hframes
    hdatagrams rfl rfl hrun hrun' hphase hcsp hd2m (by decide) (by decide)
  rw [hcspIncoming, hd2mIncoming, List.append_nil] at h
  exact h

end Client

end MultideviceClient

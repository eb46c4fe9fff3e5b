import MultideviceClient.Unsolicited

/-!
# The driver against the mediator

Here the driver runs against the mediator as the device-to-mediator protocol
describes it: one transaction lock, first-in first-out delivery both ways, and
requests handled in order.  Other devices take and release the lock, and the
mediator interleaves reflected payloads, promotions and the dry notice anywhere.

*The task.*  libthreema's tasks are opaque, but not arbitrary: `TaskPhase` says
which instruction a task may give next.  A transaction that was begun is
committed or aborted, and a rejected one waits for the end of the other
transaction before it is tried again.

*Replies.*  `inTransit` lists the replies that are under way, those in the queue
to the driver and those that the queued requests will get.
-/

namespace MultideviceClient

open Foundations

variable {L : Libthreema}

/-! ## The mediator -/

/-- The holder of the transaction lock. -/
inductive Lock where
  | free
  /-- This device. -/
  | driver
  /-- Another device. -/
  | other
deriving DecidableEq, Repr

/-- Which request a reply answers. -/
inductive Request where
  | beginTransaction
  | commitTransaction
  | reflect (reflectId : UInt32)
deriving DecidableEq, Repr

/-- The request that a payload answers. -/
def D2mIncomingPayload.answers : D2mIncomingPayload → Option Request
  | .beginTransactionAck => some .beginTransaction
  | .transactionRejected _ _ => some .beginTransaction
  | .commitTransactionAck => some .commitTransaction
  | .reflectAck reflectId => some (.reflect reflectId)
  | _ => none

/-- The request that a payload makes, if it is one that gets a reply. -/
def D2mOutgoingPayload.request : D2mOutgoingPayload → Option Request
  | .beginTransaction _ _ => some .beginTransaction
  | .commitTransaction => some .commitTransaction
  | .reflect ephemeral reflectId _ => if ephemeral then none else some (.reflect reflectId)
  | .reflectedAck _ => none

/-- What the mediator makes of a payload.  A rejection names a transaction of its
choice. -/
def Lock.handle (lock : Lock) (deviceId : UInt64) (encryptedScope : Bytes) :
    D2mOutgoingPayload → Lock × List D2mIncomingPayload
  | .beginTransaction _ _ =>
      if lock = .free then (.driver, [.beginTransactionAck])
      else (lock, [.transactionRejected deviceId encryptedScope])
  | .commitTransaction => (if lock = .driver then .free else lock, [.commitTransactionAck])
  | .reflect ephemeral reflectId _ => (lock, if ephemeral then [] else [.reflectAck reflectId])
  | .reflectedAck _ => (lock, [])

/-! ## The task -/

/-- Where a task is with its transaction. -/
inductive TaskPhase where
  /-- No transaction. -/
  | idle
  /-- It has been asked for. -/
  | begun
  /-- It was rejected. -/
  | rejected
  /-- It is to be asked for again. -/
  | retry
  /-- It was granted. -/
  | holding
  /-- It is being committed or aborted. -/
  | closing
deriving DecidableEq, Repr

/-- The phase after an instruction, if the phase allows it. -/
def TaskPhase.poll : TaskPhase → IncomingMessageLoop → Option TaskPhase
  | .idle, .fetchSender => some .idle
  | .idle, .reflectMessage _ => some .idle
  | .idle, .done _ => some .idle
  | .idle, .contacts _ (.beginTransaction (.beginTransaction _ _)) => some .begun
  | .rejected, .contacts _ (.beginTransaction .transactionRejected) => some .retry
  | .retry, .contacts _ (.beginTransaction (.beginTransaction _ _)) => some .begun
  | .holding, .contacts _ (.beginTransaction .abortTransaction) => some .closing
  | .holding, .contacts _ (.reflectAndCommitTransaction _) => some .closing
  | _, _ => none

/-- The phase after a response. -/
def TaskPhase.response : TaskPhase → IncomingMessageResponse → TaskPhase
  | _, .contacts _ (.beginTransactionReply .beginTransactionAck) => .holding
  | _, .contacts _ (.beginTransactionReply (.transactionRejected _ _)) => .rejected
  | _, .contacts _ .abortTransactionResponse => .idle
  | _, .contacts _ (.commitTransactionResponse _) => .idle
  | phase, .fetchSender => phase
  | phase, .reflectMessage _ => phase

/-- The ids that the mediator acknowledges. -/
def reflectIds (messages : List ReflectPayload) : List UInt32 :=
  (messages.filter fun message => !message.ephemeral).map ReflectPayload.id

/-- The ids of the messages that an instruction reflects. -/
def IncomingMessageLoop.reflectIds : IncomingMessageLoop → List UInt32
  | .contacts _ (.reflectAndCommitTransaction messages) => MultideviceClient.reflectIds messages
  | .reflectMessage messages => MultideviceClient.reflectIds messages
  | _ => []

/-! ## The system -/

/-- What the driver and the mediator exchange: the task's phase, the two queues
and the lock. -/
structure Exchange where
  phase : TaskPhase
  /-- The ids of the messages that the last instruction reflects. -/
  reflectIds : List UInt32
  /-- Oldest first. -/
  toMediator : List D2mOutgoingPayload
  /-- Oldest first. -/
  toDriver : List D2mIncomingPayload
  lock : Lock

/-- The driver against the mediator. -/
structure Mediated (L : Libthreema) extends Exchange where
  driver : Driver L

/-- What the mediator does, and the other devices. -/
inductive MediatorLabel where
  /-- The mediator handles the oldest request. -/
  | handle (deviceId : UInt64) (encryptedScope : Bytes)
  /-- Another device begins a transaction. -/
  | otherBegins
  /-- The transaction of another device ends. -/
  | otherEnds (deviceId : UInt64) (encryptedScope : Bytes)
  /-- The mediator sends a payload on its own account. -/
  | sends (payload : D2mIncomingPayload)
deriving DecidableEq, Repr

namespace Exchange

/-- The step of the mediator. -/
def next (s : Exchange) : MediatorLabel → Option Exchange
  | .handle deviceId encryptedScope =>
      match s.toMediator with
      | [] => none
      | payload :: toMediator =>
          let handled := s.lock.handle deviceId encryptedScope payload
          some { s with
            toMediator := toMediator
            toDriver := s.toDriver ++ handled.2
            lock := handled.1 }
  | .otherBegins => if s.lock = .free then some { s with lock := .other } else none
  | .otherEnds deviceId encryptedScope =>
      if s.lock = .other then
        some { s with
          toDriver := s.toDriver ++ [.transactionEnded deviceId encryptedScope]
          lock := .free }
      else none
  | .sends payload =>
      if payload.unsolicited then some { s with toDriver := s.toDriver ++ [payload] } else none

/-- The task's part in a step of a driver at `pc`. -/
def conduct (s : Exchange) (pc : DriverPc) : DriverLabel → Option Exchange
  | .polled (.ok loop) =>
      (s.phase.poll loop).map fun phase => { s with phase := phase, reflectIds := loop.reflectIds }
  | .responded none =>
      match pc with
      | .respond response => some { s with phase := s.phase.response response }
      | _ => none
  | _ => some s

/-- The queues after a step of the driver. -/
def transfer (s : Exchange) : DriverLabel → Option Exchange
  | .sentD2m payload => some { s with toMediator := s.toMediator ++ [payload] }
  | .recvD2m (some payload) =>
      (Link.pop s.toDriver payload).map fun toDriver => { s with toDriver := toDriver }
  | _ => some s

/-- The requests whose replies are under way, in the order of the replies. -/
def inTransit (s : Exchange) : List Request :=
  s.toDriver.filterMap D2mIncomingPayload.answers ++
    s.toMediator.filterMap D2mOutgoingPayload.request

end Exchange

namespace Mediated

/-- The step of a label. -/
def next (s : Mediated L) : DriverLabel ⊕ MediatorLabel → Option (Mediated L)
  | .inl l =>
      (s.driver.next l).bind fun driver =>
        (s.conduct s.driver.pc l).bind fun exchange =>
          (exchange.transfer l).map fun exchange => { exchange with driver := driver }
  | .inr l => (s.toExchange.next l).map fun exchange => { exchange with driver := s.driver }

/-- The driver against the mediator. -/
def machine (L : Libthreema) : Machine (Mediated L) (DriverLabel ⊕ MediatorLabel) where
  next := next

/-- The start: nothing is under way, and nobody holds the lock. -/
def start (driver : Driver L) : Mediated L where
  driver := driver
  phase := .idle
  reflectIds := []
  toMediator := []
  toDriver := []
  lock := .free

end Mediated

end MultideviceClient

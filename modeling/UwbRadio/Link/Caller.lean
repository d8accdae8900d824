import UwbRadio.Deadline
import UwbRadio.Link.Basic

/-!
The caller's side of a transaction, as the points at which it may have to wait.

A caller takes the gate, silences the radio if an earlier transaction was left
unfinished, reserves a buffer if it expects a frame, starts the hardware and waits
for the event side. Its time runs from the first moment it has to wait for a buffer
or for the end. `Link.callerStep` goes from one point to the next; between two
points nothing interrupts it.
-/

namespace UwbRadio

inductive CallerPoint
  /-- Waiting for the gate. From the next point on the caller holds it. -/
  | gate
  | silenceLock
  | silencing (accesses : List Access)
  | reserving (frame : Bytes) (deadline : Deadline)
  | startLock (frame : Bytes) (deadline : Deadline)
  | starting (accesses : List Access) (deadline : Deadline)
  | checking (deadline : Deadline)
  | cancelling (accesses : List Access)
  | waiting (deadline : Deadline)
  deriving DecidableEq

namespace CallerPoint

def deadline? : CallerPoint → Option Deadline
  | .reserving _ deadline | .waiting deadline => some deadline
  | _ => none

end CallerPoint

namespace Mode

def deadline : Mode → Deadline
  | .blocking => .never
  | .timeout milliseconds => .delay milliseconds

end Mode

def silenceAccesses : List Access :=
  [.write Register.systemControl Bits.transceiverOff,
    .write Register.systemStatus Bits.engineEvents]

def receiveTimeoutAccesses (timeout : UInt16) : List Access :=
  [.write Register.receiveTimeout timeout.toUInt64,
    .modify Register.systemConfig
      (if timeout = 0 then ~~~Bits.receiveTimeoutEnable else ~~~0)
      (if timeout = 0 then 0 else Bits.receiveTimeoutEnable)]

/-- The transmit control bits of a frame, and those it replaces. -/
def transmitControlAccess (request : Request) (frame : Bytes) : Access :=
  .modify Register.transmitControl
    (~~~(Bits.frameLength ||| Bits.rangingFrame ||| Bits.transmitOffset))
    (UInt64.ofNat (frame.length + checkSequenceLength) |||
      (if request.ranging then Bits.rangingFrame else 0))

def transmitAccesses (request : Request) (frame : Bytes) : List Access :=
  .load Register.transmitBuffer frame ::
    transmitControlAccess request frame ::
    if request.waitForResponse then
      receiveTimeoutAccesses request.responseTimeout ++
        [.write Register.systemControl (Bits.transmitStart ||| Bits.waitForResponse)]
    else
      [.write Register.systemControl Bits.transmitStart]

def receiveAccesses (timeout : UInt16) : List Access :=
  receiveTimeoutAccesses timeout ++ [.write Register.systemControl Bits.receiveEnable]

def cancelAccesses : List Access :=
  [.write Register.systemControl Bits.transceiverOff,
    .write Register.systemStatus Bits.halfPeriodWarning]

namespace Exchange

def accesses (exchange : Exchange) (frame : Bytes) : List Access :=
  match exchange with
  | .send request => transmitAccesses request frame
  | .receive _ timeout => receiveAccesses timeout

/-- The phase in which the transaction begins. A reception always has a buffer. -/
def initialPhase (exchange : Exchange) (slot : Option Slot) : Phase :=
  match exchange, slot with
  | .receive _ _, some slot => .waitingResponse slot
  | _, slot => .sending slot

end Exchange

abbrev CallerTurn (slots size : Nat) :=
  Turn (Link slots size) CallerPoint (Except (Error BusFault) Status)

namespace Link

variable {slots size : Nat}

def finishCall (link : Link slots size) (result : Except (Error BusFault) Status) :
    CallerTurn slots size :=
  .done link.releaseGate result

def startExchange (link : Link slots size) (exchange : Exchange) (slot : Option Slot)
    (frame : Bytes) (deadline : Deadline) : CallerTurn slots size :=
  .next (link.beginTransaction (exchange.initialPhase slot) exchange.counted)
    (.startLock frame deadline)

def prepare (link : Link slots size) (exchange : Exchange) : CallerTurn slots size :=
  let deadline := exchange.mode.deadline
  match exchange with
  | .receive _ _ => .next link (.reserving [] deadline)
  | .send request =>
      match encodeFrame (List.replicate maxFrameLength 0) (link.nextHeader request.destination)
          request.payload with
      | .error error => link.finishCall (.error error)
      | .ok (length, buffer) =>
          let frame := buffer.take length
          if request.waitForResponse then
            .next link (.reserving frame deadline)
          else
            link.startExchange exchange none frame deadline

def failStart (link : Link slots size) (exchange : Exchange) (error : Error BusFault) :
    CallerTurn slots size :=
  (link.releaseRegisters.abort error exchange.counted).finishCall (.error error)

def callerStep (link : Link slots size) (self : TaskId) (exchange : Exchange) :
    CallerPoint → CallerTurn slots size
  | .gate =>
      if link.gate.isFree then
        let held := { link with gate := Lock.heldBy self }
        if link.phase.unfinished then
          .next held.discardPhase .silenceLock
        else
          held.discardPhase.prepare exchange
      else
        .wait
  | .silenceLock =>
      if link.registers.isFree then
        .next { link with registers := Lock.heldBy self } (.silencing silenceAccesses)
      else
        .wait
  | .silencing accesses =>
      if link.bus.stalled then
        .wait
      else
        match link.perform (Access.advance accesses) with
        | (.error error, link) => link.releaseRegisters.finishCall (.error error)
        | (.ok [], link) => link.releaseRegisters.prepare exchange
        | (.ok rest, link) => .next link (.silencing rest)
  | .reserving frame deadline =>
      match link.pool.reserve with
      | (some slot, pool) =>
          { link with pool }.startExchange exchange (some slot) frame deadline
      | (none, pool) =>
          let link := { link with pool }
          let now := link.bus.clock
          if deadline.reached now then
            link.starve.finishCall (.error .requestTimeout)
          else if deadline.started now = deadline then
            .wait
          else
            .next link (.reserving frame (deadline.started now))
  | .startLock frame deadline =>
      if link.registers.isFree then
        .next { link with registers := Lock.heldBy self }
          (.starting (exchange.accesses frame) deadline)
      else
        .wait
  | .starting accesses deadline =>
      if link.bus.stalled then
        .wait
      else
        match link.perform (Access.advance accesses) with
        | (.error error, link) => link.failStart exchange error
        | (.ok [], link) =>
            match exchange with
            | .send _ => .next link (.checking deadline)
            | .receive _ _ => .next link.releaseRegisters (.waiting deadline)
        | (.ok rest, link) => .next link (.starting rest deadline)
  | .checking deadline =>
      if link.bus.stalled then
        .wait
      else
        match link.perform Register.systemStatus.read with
        | (.error error, link) => link.failStart exchange error
        | (.ok status, link) =>
            if status &&& Bits.halfPeriodWarning = 0 then
              .next link.releaseRegisters (.waiting deadline)
            else
              .next link (.cancelling cancelAccesses)
  | .cancelling accesses =>
      if link.bus.stalled then
        .wait
      else
        match link.perform (Access.advance accesses) with
        | (.error error, link) => link.failStart exchange error
        | (.ok [], link) => link.failStart exchange .transmitFault
        | (.ok rest, link) => .next link (.cancelling rest)
  | .waiting deadline =>
      let now := link.bus.clock
      if link.completion then
        let woken := { link with completion := false }
        match woken.takeFinished with
        | some (outcome, link) =>
            let (result, link) := link.conclude outcome exchange.counted
            link.finishCall result
        | none => .next woken (.waiting deadline)
      else if deadline.reached now then
        let (outcome, link) := link.abandon
        let (result, link) := link.conclude outcome exchange.counted
        link.finishCall result
      else if deadline.started now = deadline then
        .wait
      else
        .next link (.waiting (deadline.started now))

end Link

end UwbRadio

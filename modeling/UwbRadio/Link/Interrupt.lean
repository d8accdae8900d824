import UwbRadio.Link.Basic

/-!
The event side of a link, as the points at which it may have to wait.

Serving an interrupt reads the pending events and clears just those, then feeds
them in. A single event can also be fed in directly. Only a received frame takes
more than a moment: it is copied from the device into the buffer of the transaction
and handed over if the caller is still there.
-/

namespace UwbRadio

inductive InterruptPoint
  | event (event : Event)
  | statusLock
  | readStatus
  | clearStatus (pending : UInt64)
  | copyLock (slot : Slot)
  | readLength (slot : Slot)
  | bufferLock (slot : Slot) (length : Nat)
  | readFrame (slot : Slot) (length : Nat)
  | handover (slot : Slot)
  deriving DecidableEq

namespace InterruptPoint

def slot? : InterruptPoint → Option Slot
  | .copyLock slot | .readLength slot | .bufferLock slot _ | .readFrame slot _ | .handover slot =>
      some slot
  | .event _ | .statusLock | .readStatus | .clearStatus _ => none

end InterruptPoint

def pendingIn (pending family : UInt64) : Bool :=
  pending &&& family != 0

/-- The end of a reception that the pending events tell: a good frame comes before
an error and an error before a timeout. -/
def receptionEvent? (pending : UInt64) : Option Event :=
  if pendingIn pending Bits.frameGood then some .received
  else if pendingIn pending Bits.receiveErrors then some .receiveError
  else if pendingIn pending Bits.receiveTimeouts then some .receiveTimeout
  else none

def receivedLength (info : UInt64) : Nat :=
  (info &&& Bits.receivedLength).toNat - checkSequenceLength

abbrev InterruptTurn (slots size : Nat) :=
  Turn (Link slots size) InterruptPoint (Except (Error BusFault) Unit)

namespace Link

variable {slots size : Nat}

def feed (link : Link slots size) (event : Event) : InterruptTurn slots size :=
  match link.observe event with
  | (.nothing, link) => .done link (.ok ())
  | (.signal, link) => .done link.signal (.ok ())
  | (.copy slot, link) => .next link (.copyLock slot)
  | (.release slot, link) => .done (link.releaseSlot slot).signal (.ok ())
  | (.drain slot, link) => .done (link.releaseSlot? slot) (.ok ())
  | (.spurious, link) => .done link (.ok ())

def feedPending (link : Link slots size) (pending : UInt64) : InterruptTurn slots size :=
  let reception := fun (link : Link slots size) =>
    match receptionEvent? pending with
    | some event => link.feed event
    | none => .done link (.ok ())
  if pendingIn pending Bits.frameSent then
    match link.feed .sent with
    | .done link (.ok ()) => reception link
    | other => other
  else
    reception link

/-- A copy has ended: with a frame for the link, with one that is not, or with an
error. If its transaction is over, only the buffer is given back. -/
def endCopy (link : Link slots size) (slot : Slot) (copied : Except (Error BusFault) Bool) :
    InterruptTurn slots size :=
  let outcome : Outcome := match copied with
    | .ok true => .completed
    | _ => .receiveFault
  let result := copied.map fun _ => ()
  match link.finishCopy outcome with
  | (false, link) => .done (link.releaseSlot slot) result
  | (true, link) =>
      let link := link.signal
      match copied with
      | .ok true =>
          match link.handler with
          | .transfer => .next link (.handover slot)
          | .ranging => .done (link.enqueue slot) result
          | .ping => .done (link.releaseSlot slot) result
      | _ => .done (link.releaseSlot slot) result

def acceptFrame (link : Link slots size) (slot : Slot) (length : Nat) (bytes : Bytes) :
    InterruptTurn slots size :=
  let link := link.releaseRegisters
  let pool := link.pool.setLock slot Lock.free
  match pool.buffer? slot with
  | none => { link with pool }.endCopy slot (.ok false)
  | some buffer =>
      let buffer := buffer.load bytes
      match decodeFrame? buffer.contents with
      | none => { link with pool := pool.setBuffer slot buffer }.endCopy slot (.ok false)
      | some frame =>
          let pool := pool.setBuffer slot (buffer.advance (length - frame.payload.length))
          { link with pool }.endCopy slot (.ok true)

def interruptStep (link : Link slots size) (self : TaskId) :
    InterruptPoint → InterruptTurn slots size
  | .event event => link.feed event
  | .statusLock =>
      if link.registers.isFree then
        .next { link with registers := Lock.heldBy self } .readStatus
      else
        .wait
  | .readStatus =>
      if link.bus.stalled then
        .wait
      else
        match link.perform Register.systemStatus.read with
        | (.error error, link) => .done link.releaseRegisters (.error error)
        | (.ok status, link) =>
            let pending := status &&& Bits.engineEvents
            if pending = 0 then
              .done link.releaseRegisters (.ok ())
            else
              .next link (.clearStatus pending)
  | .clearStatus pending =>
      if link.bus.stalled then
        .wait
      else
        match link.perform (Register.systemStatus.write pending) with
        | (.error error, link) => .done link.releaseRegisters (.error error)
        | (.ok (), link) => link.releaseRegisters.feedPending pending
  | .copyLock slot =>
      if link.registers.isFree then
        .next { link with registers := Lock.heldBy self } (.readLength slot)
      else
        .wait
  | .readLength slot =>
      if link.bus.stalled then
        .wait
      else
        match link.perform Register.receiveInfo.read with
        | (.error error, link) => link.releaseRegisters.endCopy slot (.error error)
        | (.ok info, link) => .next link (.bufferLock slot (receivedLength info))
  | .bufferLock slot length =>
      if link.pool.accessible slot then
        match (link.pool.buffer? slot).bind fun buffer => buffer.claim? length with
        | none => link.releaseRegisters.endCopy slot (.ok false)
        | some buffer =>
            let pool := (link.pool.setBuffer slot buffer).setLock slot (Lock.heldBy self)
            .next { link with pool } (.readFrame slot length)
      else
        .wait
  | .readFrame slot length =>
      if link.bus.stalled then
        .wait
      else
        match link.perform (Register.receiveBuffer.readPart 0 length) with
        | (.error error, link) =>
            let pool := link.pool.setLock slot Lock.free
            { link with pool }.releaseRegisters.endCopy slot (.error error)
        | (.ok bytes, link) => link.acceptFrame slot length bytes
  | .handover slot =>
      if link.pool.accessible slot then
        .done (link.deliver slot) (.ok ())
      else
        .wait

end Link

end UwbRadio

import UwbRadio.Pool
import UwbRadio.Status

/-!
The phase of a transaction, which is all that the caller and the event side know
of each other, and what each hardware event makes of it.

`Phase.onEvent` is the table of the transitions. An event of a transaction that
its caller has left is drained: it ends what is left and changes nothing else.
-/

namespace UwbRadio

inductive Event
  | sent
  | received
  | receiveTimeout
  | receiveError
  deriving DecidableEq

inductive TransactionState
  | idle
  | sending
  | waitingResponse
  | completed
  | timedOut
  | faulted
  deriving DecidableEq

def TransactionState.name : TransactionState → String
  | .idle => "Idle"
  | .sending => "Sending"
  | .waitingResponse => "WaitingResponse"
  | .completed => "Completed"
  | .timedOut => "TimedOut"
  | .faulted => "Faulted"

inductive Outcome
  | completed
  | receiveTimeout
  | receiveFault
  | requestTimeout
  deriving DecidableEq

def Outcome.state : Outcome → TransactionState
  | .completed => .completed
  | .receiveTimeout | .requestTimeout => .timedOut
  | .receiveFault => .faulted

/-- A transaction that expects a frame holds the buffer for it until the frame is
copied or the transaction has ended. -/
inductive Phase
  | idle
  | sending (slot : Option Slot)
  | waitingResponse (slot : Slot)
  | delivering
  | finished (outcome : Outcome)
  /-- The caller has left; the hardware has not finished. -/
  | abandoned (slot : Option Slot)
  deriving DecidableEq

namespace Phase

def slot? : Phase → Option Slot
  | .sending slot | .abandoned slot => slot
  | .waitingResponse slot => some slot
  | .idle | .delivering | .finished _ => none

def unfinished : Phase → Bool
  | .idle | .finished _ => false
  | _ => true

end Phase

inductive Reaction
  | nothing
  | signal
  | copy (slot : Slot)
  | release (slot : Slot)
  | drain (slot : Option Slot)
  | spurious
  deriving DecidableEq

namespace Phase

def onEvent : Event → Phase → Phase × Status × Reaction
  | .sent, .sending none => (.finished .completed, .empty, .signal)
  | .sent, .sending (some slot) => (.waitingResponse slot, .empty, .nothing)
  | .sent, .abandoned none => (.idle, .empty, .drain none)
  | .sent, .abandoned (some slot) => (.abandoned (some slot), .empty, .nothing)
  | .received, .sending (some slot) => (.delivering, .empty, .copy slot)
  | .received, .waitingResponse slot => (.delivering, .empty, .copy slot)
  | .receiveTimeout, .sending (some slot) =>
      (.finished .receiveTimeout, .receiveTimeout, .release slot)
  | .receiveTimeout, .waitingResponse slot =>
      (.finished .receiveTimeout, .receiveTimeout, .release slot)
  | .receiveError, .sending (some slot) =>
      (.finished .receiveFault, .receiveError, .release slot)
  | .receiveError, .waitingResponse slot =>
      (.finished .receiveFault, .receiveError, .release slot)
  | .received, .abandoned slot => (.idle, .empty, .drain slot)
  | .receiveTimeout, .abandoned slot => (.idle, .empty, .drain slot)
  | .receiveError, .abandoned slot => (.idle, .empty, .drain slot)
  | _, phase => (phase, .empty, .spurious)

end Phase

end UwbRadio

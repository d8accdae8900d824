import UwbRadio.Device
import UwbRadio.Frame.Basic
import UwbRadio.Link.Phase
import UwbRadio.Link.Request
import UwbRadio.Ranging.Queue

/-!
A link: a ready device with the state that its callers and its event side share.

One caller at a time holds the gate and runs a transaction; the event side feeds
in what the hardware reports. They meet in the phase and in the completion flag.
The functions here are the pieces of the two sides that nothing interrupts. How
the pieces follow each other is in `Link.Caller` and `Link.Interrupt`.
-/

namespace UwbRadio

inductive Handler
  | transfer
  | ranging
  | ping
  deriving DecidableEq

structure Link (slots size : Nat) where
  bus : Bus
  registers : Lock
  gate : Lock
  completion : Bool
  status : Status
  phase : Phase
  sequence : UInt8
  last : TransactionState
  pool : Pool slots size
  handler : Handler
  queue : Ranging.Queue slots
  delivered : List Bytes
  info : DeviceInfo
  config : LinkConfig

/-- How a step of a task turned out, from a point `point` to the result `result`. -/
inductive Turn (state point result : Type)
  | wait
  | next (state : state) (point : point)
  | done (state : state) (result : result)

namespace Link

variable {slots size : Nat}

def ofDevice (slots size : Nat) (device : Device .ready) (config : LinkConfig) (handler : Handler) :
    Except (Error BusFault × Device .ready) (Link slots size) :=
  match device.perform DeviceOperation.enableInterrupts with
  | (.error error, device) => .error (error, device)
  | (.ok (), device) => .ok {
      bus := device.bus
      registers := Lock.free
      gate := Lock.free
      completion := false
      status := Status.initialized
      phase := .idle
      sequence := device.sequence
      last := .idle
      pool := Pool.empty slots size
      handler
      queue := {}
      delivered := []
      info := device.info
      config }

def toDevice (link : Link slots size) : Device .ready :=
  let device : Device .ready :=
    { bus := link.bus, sequence := link.sequence, info := link.info }
  (device.perform DeviceOperation.disableInterrupts).2

def state (link : Link slots size) : TransactionState :=
  match link.phase with
  | .sending _ => .sending
  | .waitingResponse _ | .delivering => .waitingResponse
  | .finished outcome => outcome.state
  | .idle | .abandoned _ => link.last

def controlMode (link : Link slots size) : Mode :=
  .timeout link.config.requestTimeout

def pingRequest (link : Link slots size) (destination : UInt16) : Request :=
  (((Request.ofPayload []).to destination).withMode link.controlMode).expectResponse
    link.config.responseTimeout

def nextHeader (link : Link slots size) (destination : Option UInt16) : LinkHeader :=
  { sequence := link.sequence
    panId := link.info.panId
    source := link.info.shortAddress
    destination }

def perform {α : Type} (link : Link slots size) (operation : RegisterOperation α) :
    Except (Error BusFault) α × Link slots size :=
  let (result, bus) := operation.perform link.bus
  (result.mapError Error.bus, { link with bus })

def releaseRegisters (link : Link slots size) : Link slots size :=
  { link with registers := Lock.free }

def releaseGate (link : Link slots size) : Link slots size :=
  { link with gate := Lock.free }

def releaseSlot (link : Link slots size) (slot : Slot) : Link slots size :=
  { link with pool := link.pool.release slot }

def releaseSlot? (link : Link slots size) (slot : Option Slot) : Link slots size :=
  match slot with
  | some slot => link.releaseSlot slot
  | none => link

def without (link : Link slots size) (task : TaskId) : Link slots size :=
  { link with
    registers := link.registers.without task
    gate := link.gate.without task
    pool := link.pool.without task }

/-! ### The caller's side -/

/-- Forget the phase that an earlier caller left, and give back its buffer. -/
def discardPhase (link : Link slots size) : Link slots size :=
  { link with phase := .idle }.releaseSlot? link.phase.slot?

def beginTransaction (link : Link slots size) (phase : Phase) (counted : Bool) :
    Link slots size :=
  { link with
    completion := false
    status := link.status.remove Status.faults
    phase
    sequence := if counted then link.sequence + 1 else link.sequence }

def starve (link : Link slots size) : Link slots size :=
  { link with
    status := (link.status.remove Status.faults).insert Status.requestTimeout
    last := .timedOut }

def takeFinished (link : Link slots size) : Option (Outcome × Link slots size) :=
  match link.phase with
  | .finished outcome => some (outcome, { link with phase := .idle })
  | _ => none

/-- The caller's time is over. A transaction that finished at the same moment counts
as finished, any other is left to the event side. -/
def abandon (link : Link slots size) : Outcome × Link slots size :=
  match link.phase with
  | .finished outcome => (outcome, { link with phase := .idle })
  | phase =>
      (.requestTimeout, { link with
        phase := .abandoned phase.slot?
        status := link.status.insert Status.requestTimeout })

/-- The transaction could not be started. After a transmit fault the hardware is
idle; after any other error it may not be, so the phase remains as abandoned. -/
def abort (link : Link slots size) (error : Error BusFault) (counted : Bool) : Link slots size :=
  let stopped := { link with
    sequence := if counted then link.sequence - 1 else link.sequence
    last := .faulted }
  match error with
  | .transmitFault =>
      { stopped with phase := .idle, status := link.status.insert Status.startError }.releaseSlot?
        link.phase.slot?
  | _ => { stopped with phase := .abandoned link.phase.slot? }

/-- The result of a transaction that was started. A failed one gives its sequence
number back. -/
def conclude (link : Link slots size) (outcome : Outcome) (counted : Bool) :
    Except (Error BusFault) Status × Link slots size :=
  let link := { link with last := outcome.state }
  let undone := { link with sequence := if counted then link.sequence - 1 else link.sequence }
  match outcome with
  | .completed => (.ok link.status, link)
  | .receiveTimeout => (.error .receiveTimeout, undone)
  | .receiveFault => (.error .receiveFault, undone)
  | .requestTimeout => (.error .requestTimeout, undone)

/-! ### The event side -/

def observe (link : Link slots size) (event : Event) : Reaction × Link slots size :=
  let (phase, flags, reaction) := link.phase.onEvent event
  (reaction, { link with phase, status := link.status.insert flags })

def signal (link : Link slots size) : Link slots size :=
  { link with completion := true }

/-- The end of copying a received frame: whether the frame still belongs to the
transaction, which has finished then. A copy whose caller has left finishes an
abandoned transaction without a buffer; any other transaction is none of its
business. -/
def finishCopy (link : Link slots size) (outcome : Outcome) : Bool × Link slots size :=
  match link.phase with
  | .delivering =>
      let status :=
        if outcome = .completed then link.status else link.status.insert Status.receiveError
      (true, { link with phase := .finished outcome, status })
  | .abandoned none => (false, { link with phase := .idle })
  | _ => (false, link)

def deliver (link : Link slots size) (slot : Slot) : Link slots size :=
  { link with delivered := link.pool.contents slot :: link.delivered }.releaseSlot slot

def enqueue (link : Link slots size) (slot : Slot) : Link slots size :=
  match link.queue.push? ⟨slot⟩ with
  | some queue => { link with queue }
  | none => link.releaseSlot slot

end Link

end UwbRadio

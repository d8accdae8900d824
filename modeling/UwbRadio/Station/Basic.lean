import UwbRadio.Station.Task

/-!
A station: a link, the ranging session on it, the tasks that use them, and what the
application itself holds. The functions here are the actions of the application,
none of which has to wait.
-/

namespace UwbRadio

open Ranging (Session)

/-- A packet that waits to be sent. `claimed` is the length it is said to have. -/
structure Packet where
  data : Bytes
  claimed : Nat
  deriving DecidableEq

namespace Packet

def capacity : Nat := maxFrameLength

def payload (packet : Packet) : Bytes :=
  (packet.data.take capacity ++
    List.replicate (capacity - packet.data.length) 0).take packet.claimed

end Packet

structure Station (slots size capacity : Nat) where
  link : Link slots size
  session : Option (Session capacity)
  tasks : List (TaskId × Task)
  held : List Slot
  outbound : List Packet
  finished : List (TaskId × Nat × TaskResult)

structure Snapshot where
  state : TransactionState
  status : Status
  sequence : UInt8
  outstanding : Nat
  queueEnabled : Bool
  session : Option (Bool × Bool × Status)
  deriving DecidableEq

namespace Station

variable {slots size capacity : Nat}

def ofLink (link : Link slots size) : Station slots size capacity :=
  { link, session := none, tasks := [], held := [], outbound := [], finished := [] }

def snapshot (station : Station slots size capacity) : Snapshot :=
  { state := station.link.state
    status := station.link.status
    sequence := station.link.sequence
    outstanding := station.link.pool.outstanding
    queueEnabled := station.link.queue.enabled
    session := station.session.map fun session =>
      (session.running, session.valid, session.faults) }

def now (station : Station slots size capacity) : Nat :=
  station.link.bus.clock

def passedOn (station : Station slots size capacity) : List Bytes :=
  (station.session.bind fun session => session.downstream).getD []

def submit (station : Station slots size capacity) (id : TaskId) (task : Task) :
    Station slots size capacity :=
  { station with tasks := station.tasks ++ [(id, task)] }

def task? (station : Station slots size capacity) (id : TaskId) : Option Task :=
  station.tasks.lookup id

def removeTask (station : Station slots size capacity) (id : TaskId) :
    Station slots size capacity :=
  { station with tasks := station.tasks.filter fun entry => entry.1 != id }

/-- Drop a task. Its locks are free; a buffer that only it knew of is not. -/
def cancel (station : Station slots size capacity) (id : TaskId) : Station slots size capacity :=
  { station.removeTask id with link := station.link.without id }

def cancelAll (station : Station slots size capacity) : Station slots size capacity :=
  station.tasks.foldl (fun station entry => station.cancel entry.1) station

def holds (station : Station slots size capacity) (index : Nat) : Bool :=
  station.held.contains ⟨index⟩

def keep (station : Station slots size capacity) (slot : Slot) : Station slots size capacity :=
  { station with held := slot :: station.held.erase slot }

def drop (station : Station slots size capacity) (slot : Slot) : Station slots size capacity :=
  { station with held := station.held.erase slot }

def tryReserve (station : Station slots size capacity) :
    Option Slot × Station slots size capacity :=
  match station.link.pool.tryReserve with
  | (some slot, pool) => (some slot, { station with link := { station.link with pool } }.keep slot)
  | (none, pool) => (none, { station with link := { station.link with pool } })

def releaseHeld (station : Station slots size capacity) (slot : Slot) :
    Station slots size capacity :=
  { station with link := station.link.releaseSlot slot }.drop slot

def popQueued (station : Station slots size capacity) :
    Option Slot × Station slots size capacity :=
  match station.link.queue.pop? with
  | none => (none, station)
  | some (item, queue) =>
      (some item.slot, { station with link := { station.link with queue } }.keep item.slot)

def pushHeld (station : Station slots size capacity) (slot : Slot) :
    Bool × Station slots size capacity :=
  match station.link.queue.push? ⟨slot⟩ with
  | some queue => (true, { station with link := { station.link with queue } }.drop slot)
  | none => (false, station)

def processHeld (station : Station slots size capacity) (id : TaskId) (slot : Slot) :
    Station slots size capacity :=
  (station.drop slot).submit id (.process (.buffer ⟨slot⟩))

def offer (station : Station slots size capacity) (packet : Packet) :
    Station slots size capacity :=
  { station with outbound := station.outbound ++ [packet] }

def onBus (station : Station slots size capacity) (alter : Bus → Bus) :
    Station slots size capacity :=
  { station with link := { station.link with bus := alter station.link.bus } }

def onSession (station : Station slots size capacity)
    (alter : Session capacity → Session capacity) : Station slots size capacity :=
  { station with session := station.session.map alter }

def setPostprocess (station : Station slots size capacity) (enabled : Bool) :
    Station slots size capacity :=
  { station with
    link := { station.link with queue := station.link.queue.setEnabled enabled } }

/-- Make a session. The queue takes over its setting, also if the station has a
session already and keeps that one. -/
def addSession (station : Station slots size capacity) (session : Session capacity) :
    Bool × Station slots size capacity :=
  let station := station.setPostprocess session.config.postprocess
  match station.session with
  | none => (true, { station with session := some session })
  | some _ => (false, station)

end Station

end UwbRadio

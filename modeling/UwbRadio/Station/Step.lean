import UwbRadio.Station.Basic

/-!
One step of one task. Every run of a station is made of such steps, of the actions
of the application, of tasks being dropped and of changes of the bus and its clock.
-/

namespace UwbRadio

open Ranging (LinkedSession)

namespace Station

variable {slots size capacity : Nat}

def takePacket (station : Station slots size capacity) (destination : Option UInt16) :
    Turn (Station slots size capacity) Task TaskResult :=
  match station.outbound with
  | [] => .done station (.exchanged (.ok none))
  | packet :: rest =>
      let station := { station with outbound := rest }
      if packet.claimed > Packet.capacity then
        .done station (.exchanged (.error (.bufferTooSmall packet.claimed)))
      else
        let request := (Request.ofPayload packet.payload).withMode station.link.controlMode
        .next station (.send { request with destination })

def setLinked (station : Station slots size capacity)
    (linked : LinkedSession slots size capacity) : Station slots size capacity :=
  { station with link := linked.link, session := some linked.session }

def sessionTurn {point result : Type} (station : Station slots size capacity)
    (turn : LinkedSession slots size capacity →
      Turn (LinkedSession slots size capacity) point result)
    (task : point → Task) (finish : result → TaskResult) :
    Turn (Station slots size capacity) Task TaskResult :=
  match station.session with
  | none => .wait
  | some session =>
      match turn { link := station.link, session } with
      | .wait => .wait
      | .next linked point => .next (station.setLinked linked) (task point)
      | .done linked result => .done (station.setLinked linked) (finish result)

def turn (station : Station slots size capacity) (id : TaskId) :
    Task → Turn (Station slots size capacity) Task TaskResult
  | .exchange exchange point =>
      match station.link.callerStep id exchange point with
      | .wait => .wait
      | .next link point => .next { station with link } (.exchange exchange point)
      | .done link result => .done { station with link } (.exchanged (result.map some))
  | .outbound destination => station.takePacket destination
  | .interrupt point =>
      match station.link.interruptStep id point with
      | .wait => .wait
      | .next link point => .next { station with link } (.interrupt point)
      | .done link result => .done { station with link } (.handled result)
  | .reserve =>
      match station.link.pool.reserve with
      | (some slot, pool) =>
          .done { station with link := { station.link with pool } } (.reserved slot)
      | (none, _) => .wait
  | .tick point =>
      station.sessionTurn (fun linked => linked.tickStep id point) .tick .exchanged
  | .schedule point =>
      station.sessionTurn (fun linked => linked.scheduleStep id point) .schedule
        (fun never => nomatch never)
  | .process point =>
      station.sessionTurn (fun linked => linked.processStep point) .process .processed

def replaceTask (station : Station slots size capacity) (id : TaskId) (task : Task) :
    Station slots size capacity :=
  { station with
    tasks := station.tasks.map fun entry => if entry.1 = id then (id, task) else entry }

def finishTask (station : Station slots size capacity) (id : TaskId) (result : TaskResult) :
    Station slots size capacity :=
  let station := { station.removeTask id with
    finished := (id, station.now, result) :: station.finished }
  match result with
  | .reserved slot => station.keep slot
  | _ => station

def step? (station : Station slots size capacity) (id : TaskId) :
    Option (Station slots size capacity) :=
  match station.task? id with
  | none => none
  | some task =>
      match station.turn id task with
      | .wait => none
      | .next station task => some (station.replaceTask id task)
      | .done station result => some (station.finishTask id result)

end Station

end UwbRadio

import UwbRadio.Link.Interrupt
import UwbRadio.Ranging.Session

/-!
The tasks of a station: calls that are under way, each at the point it has reached.
-/

namespace UwbRadio

open Ranging (TickPoint SchedulePoint ProcessPoint Pair)

inductive Task
  | exchange (exchange : Exchange) (point : CallerPoint)
  | outbound (destination : Option UInt16)
  | interrupt (point : InterruptPoint)
  | reserve
  | tick (point : TickPoint)
  | schedule (point : SchedulePoint)
  | process (point : ProcessPoint)
  deriving DecidableEq

namespace Task

def send (request : Request) : Task := .exchange (.send request) .gate

def receive (mode : Mode) (timeout : UInt16) : Task := .exchange (.receive mode timeout) .gate

def serveInterrupt : Task := .interrupt .statusLock

def feed (event : Event) : Task := .interrupt (.event event)

def wakeTime? (task : Task) : Option Nat :=
  let deadline := match task with
    | .exchange _ point => point.deadline?
    | .tick point => point.deadline?
    | .schedule point => point.deadline?
    | .outbound _ | .interrupt _ | .reserve | .process _ => none
  deadline.bind Deadline.time?

end Task

inductive TaskResult
  | exchanged (result : Except (Error BusFault) (Option Status))
  | handled (result : Except (Error BusFault) Unit)
  | reserved (slot : Slot)
  | processed (result : Except (Error BusFault) (Option Pair))

end UwbRadio

import UwbRadio.Station.Step

/-!
A station left to itself. A task is polled by letting it go on until it has to wait;
in a round all tasks are polled, the oldest first; and rounds follow each other
until one of them changes nothing that can be seen from outside.

Time passes from one delay to the next that is waited for, and the station settles
at each.
-/

namespace UwbRadio

namespace Station

variable {slots size capacity : Nat}

def poll (id : TaskId) : Nat → Station slots size capacity → Station slots size capacity
  | 0, station => station
  | budget + 1, station =>
      match station.step? id with
      | none => station
      | some next => poll id budget next

/-- Far more steps than a task takes without waiting. Only a schedule without any
delay, which never waits, comes to the end of it. -/
def pollBudget : Nat := 1000000

def round (station : Station slots size capacity) : Station slots size capacity :=
  (station.tasks.map Prod.fst).foldl (fun station id => poll id pollBudget station) station

/-- Whether nothing that can be seen from outside is different: no task has ended,
the bus was silent, and the station looks the same. -/
def looksLike (before after : Station slots size capacity) : Bool :=
  before.finished.length == after.finished.length &&
    before.link.bus.trace.length == after.link.bus.trace.length &&
    before.snapshot == after.snapshot

def settleWithin : Nat → Station slots size capacity → Station slots size capacity
  | 0, station => station
  | budget + 1, station =>
      let next := station.round
      if station.looksLike next then next else settleWithin budget next

def roundBudget : Nat := 1000000

def settle (station : Station slots size capacity) : Station slots size capacity :=
  settleWithin roundBudget station

def nextWake? (station : Station slots size capacity) : Option Nat :=
  (station.tasks.filterMap fun entry => entry.2.wakeTime?).min?

def setClock (station : Station slots size capacity) (time : Nat) :
    Station slots size capacity :=
  station.onBus fun bus => { bus with clock := time }

def passUntil (target : Nat) : Nat → Station slots size capacity → Station slots size capacity
  | 0, station => station.setClock target
  | budget + 1, station =>
      match station.nextWake? with
      | none => station.setClock target
      | some time =>
          if time ≤ target then
            passUntil target budget (station.setClock time).settle
          else
            station.setClock target

/-- Let so many milliseconds pass. Every delay that is waited for ends later than
now, so there are at most as many ends as milliseconds. -/
def advance (station : Station slots size capacity) (milliseconds : Nat) :
    Station slots size capacity :=
  passUntil (station.now + milliseconds) milliseconds station.settle

def toDevice (station : Station slots size capacity) : Device .ready :=
  (station.cancelAll.onBus fun bus => { bus with stall := none }).link.toDevice

end Station

end UwbRadio

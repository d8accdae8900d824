import UwbRadio.Clock
import UwbRadio.Link.Caller
import UwbRadio.Ranging.Message
import UwbRadio.Ranging.Table

/-!
The ranging schedule of a master node. Each tick asks the first node of the next
pair to range against the second; the answers are queued by the event side and
processed later, one at a time. The schedule can be stopped and started at any
time; a request under way runs to its end.

Ticks, the schedule that issues them and the processing of answers are given as
the points at which they may have to wait.
-/

namespace UwbRadio.Ranging

structure Session (capacity : Nat) where
  config : RangingConfig
  table : Table capacity
  running : Bool
  index : Nat
  valid : Bool
  faults : Status
  /-- Set by a start. Of the schedules that wait for a start, the first to look takes
  it; the others wait on, though the session runs. -/
  armed : Bool
  estimator : Duration → Range
  downstream : Option (List Bytes)

namespace Session

variable {capacity : Nat}

def ofTable (table : Table capacity) (config : RangingConfig) (estimator : Duration → Range)
    (downstream : Option (List Bytes)) : Session capacity :=
  { config
    table
    running := false
    index := 0
    valid := false
    faults := Status.empty
    armed := false
    estimator
    downstream }

def start (session : Session capacity) : Session capacity :=
  { session with index := 0, valid := false, running := true, armed := true }

def stop (session : Session capacity) : Session capacity :=
  { session with running := false }

def nextPair? (session : Session capacity) : Option Pair :=
  session.table.pairs[session.index % max session.table.size 1]?

def requestMessage (session : Session capacity) (pair : Pair) : Message :=
  Message.request session.table.master pair.first pair.second

def nextRequest? (session : Session capacity) : Option Request :=
  session.nextPair?.map fun pair =>
    let payload := (session.requestMessage pair).encode .little
    ((((Request.ofPayload payload).to pair.first).withMode
      (.timeout session.config.requestTimeout)).expectResponse
        session.config.responseTimeout).asRanging

/-- A request has ended: it is the next pair's turn, whatever came of it. -/
def endTick (session : Session capacity) (flags : Status) : Session capacity :=
  { session with
    index := (session.index + 1) % max session.table.size 1
    faults := flags.faultsOf }

def process (session : Session capacity) (payload : Bytes) :
    Except (Error BusFault) (Option Pair) × Session capacity :=
  match Message.read .little payload 0 with
  | .error error => (.error (.frame error), session)
  | .ok (message, _) =>
      if message.code ≠ Message.responseCode then
        (.ok none, session)
      else
        let range := session.estimator (Duration.ofTicks message.timeOfFlight)
        match session.table.update message.first message.second range with
        | none => (.ok none, session)
        | some (pair, table) =>
            (.ok (some pair), { session with
              table
              valid := true
              downstream := session.downstream.map fun passed => payload :: passed })

end Session

inductive TickPoint
  | begin
  | asking (request : Request) (point : CallerPoint)
  deriving DecidableEq

inductive SchedulePoint
  | begin
  | stopped
  | firstDelay (deadline : Deadline)
  | asking (request : Request) (point : CallerPoint)
  | period (deadline : Deadline)
  deriving DecidableEq

inductive ProcessPoint
  | pop
  | buffer (item : WorkItem)
  deriving DecidableEq

namespace TickPoint

def deadline? : TickPoint → Option Deadline
  | .begin => none
  | .asking _ point => point.deadline?

end TickPoint

namespace SchedulePoint

def deadline? : SchedulePoint → Option Deadline
  | .begin | .stopped => none
  | .firstDelay deadline | .period deadline => some deadline
  | .asking _ point => point.deadline?

end SchedulePoint

structure LinkedSession (slots size capacity : Nat) where
  link : Link slots size
  session : Session capacity

namespace LinkedSession

variable {slots size capacity : Nat}

def ask (linked : LinkedSession slots size capacity) (self : TaskId) (request : Request)
    (point : CallerPoint) :
    Turn (LinkedSession slots size capacity) CallerPoint (Except (Error BusFault) Status) :=
  match linked.link.callerStep self (.send request) point with
  | .wait => .wait
  | .next link point => .next { linked with link } point
  | .done link result =>
      let flags := match result with
        | .ok status => status
        | .error _ => link.status
      .done { link, session := linked.session.endTick flags } result

def tickStep (linked : LinkedSession slots size capacity) (self : TaskId) :
    TickPoint →
      Turn (LinkedSession slots size capacity) TickPoint (Except (Error BusFault) (Option Status))
  | .begin =>
      match linked.session.nextRequest? with
      | none => .done linked (.ok none)
      | some request => .next linked (.asking request .gate)
  | .asking request point =>
      match linked.ask self request point with
      | .wait => .wait
      | .next linked point => .next linked (.asking request point)
      | .done linked result => .done linked (result.map some)

def afterDelay (session : Session capacity) : SchedulePoint :=
  if session.running then
    match session.nextRequest? with
    | none => .period (.delay session.config.period)
    | some request => .asking request .gate
  else
    .stopped

/-- One step of the schedule. It never ends. A schedule that waits for a start does
not see that the session runs before it has taken one. -/
def scheduleStep (linked : LinkedSession slots size capacity) (self : TaskId) :
    SchedulePoint → Turn (LinkedSession slots size capacity) SchedulePoint Empty
  | .begin =>
      if linked.session.running then
        .next linked (.firstDelay (.delay linked.session.config.firstDelay))
      else
        .next linked .stopped
  | .stopped =>
      if linked.session.armed then
        .next { linked with session := { linked.session with armed := false } } .begin
      else
        .wait
  | .firstDelay deadline =>
      let now := linked.link.bus.clock
      if deadline.reached now then
        .next linked (afterDelay linked.session)
      else if deadline.started now = deadline then
        .wait
      else
        .next linked (.firstDelay (deadline.started now))
  | .asking request point =>
      match linked.ask self request point with
      | .wait => .wait
      | .next linked point => .next linked (.asking request point)
      | .done linked _ => .next linked (.period (.delay linked.session.config.period))
  | .period deadline =>
      let now := linked.link.bus.clock
      if deadline.reached now then
        .next linked (afterDelay linked.session)
      else if deadline.started now = deadline then
        .wait
      else
        .next linked (.period (deadline.started now))

/-- One step of processing an answer. Its buffer is free before anything is made of
the bytes. -/
def processStep (linked : LinkedSession slots size capacity) :
    ProcessPoint →
      Turn (LinkedSession slots size capacity) ProcessPoint (Except (Error BusFault) (Option Pair))
  | .pop =>
      match linked.link.queue.pop? with
      | none => .wait
      | some (item, queue) =>
          .next { linked with link := { linked.link with queue } } (.buffer item)
  | .buffer item =>
      if linked.link.pool.accessible item.slot then
        let payload := linked.link.pool.contents item.slot
        let link := linked.link.releaseSlot item.slot
        let (result, session) := linked.session.process payload
        .done { link, session } result
      else
        .wait

end LinkedSession

end UwbRadio.Ranging

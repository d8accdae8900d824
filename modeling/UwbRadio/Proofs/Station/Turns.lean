import UwbRadio.Station.Step

/-!
What one step of a task does to the station, as a relation with a constructor for each way
that it can turn out. `turn_turns` is the only place that opens the step functions of the
tasks. What a step is for the link, for the session or for the other tasks is read off the
relation.
-/

namespace UwbRadio

open Ranging (LinkedSession Session WorkItem)

namespace Ranging.LinkedSession

variable {slots size capacity : Nat}

/-- The flags of which a session takes note when its request returns. -/
def flagsOf (link : Link slots size) : Except (Error BusFault) Status → Status
  | .ok status => status
  | .error _ => link.status

/-- How a step of a request of the session turns out. -/
inductive AskTurns (linked : LinkedSession slots size capacity) (id : TaskId)
    (request : Request) (point : CallerPoint) :
    Turn (LinkedSession slots size capacity) CallerPoint (Except (Error BusFault) Status) → Prop
  | wait : AskTurns linked id request point .wait
  | next {link later}
      (stepped : linked.link.callerStep id (.send request) point = .next link later) :
      AskTurns linked id request point (.next { linked with link } later)
  | done {link result}
      (stepped : linked.link.callerStep id (.send request) point = .done link result) :
      AskTurns linked id request point
        (.done { link, session := linked.session.endTick (flagsOf link result) } result)

theorem ask_turns (linked : LinkedSession slots size capacity) (id : TaskId) (request : Request)
    (point : CallerPoint) : AskTurns linked id request point (linked.ask id request point) := by
  rw [ask]
  split
  · exact .wait
  · rename_i stepped
    exact .next stepped
  · rename_i stepped
    exact .done stepped

end Ranging.LinkedSession

namespace Station

variable {slots size capacity : Nat}

/-- How one step of a task turns out. A task of the session waits as long as there is none. -/
inductive Turns (station : Station slots size capacity) (id : TaskId) :
    Task → Turn (Station slots size capacity) Task TaskResult → Prop
  | wait {task} : Turns station id task .wait
  | call {exchange point link later}
      (stepped : station.link.callerStep id exchange point = .next link later) :
      Turns station id (.exchange exchange point)
        (.next { station with link } (.exchange exchange later))
  | returned {exchange point link result}
      (stepped : station.link.callerStep id exchange point = .done link result) :
      Turns station id (.exchange exchange point)
        (.done { station with link } (.exchanged (result.map some)))
  | event {point link later}
      (stepped : station.link.interruptStep id point = .next link later) :
      Turns station id (.interrupt point) (.next { station with link } (.interrupt later))
  | handled {point link result}
      (stepped : station.link.interruptStep id point = .done link result) :
      Turns station id (.interrupt point) (.done { station with link } (.handled result))
  | reserved {slot pool} (reserved : station.link.pool.reserve = (some slot, pool)) :
      Turns station id .reserve
        (.done { station with link := { station.link with pool } } (.reserved slot))
  | nothingToSend {destination} (empty : station.outbound = []) :
      Turns station id (.outbound destination) (.done station (.exchanged (.ok none)))
  | overlong {destination packet rest} (queued : station.outbound = packet :: rest)
      (overlong : Packet.capacity < packet.claimed) :
      Turns station id (.outbound destination)
        (.done { station with outbound := rest }
          (.exchanged (.error (.bufferTooSmall packet.claimed))))
  | takesPacket {destination packet rest} (queued : station.outbound = packet :: rest)
      (fits : packet.claimed ≤ Packet.capacity) :
      Turns station id (.outbound destination)
        (.next { station with outbound := rest }
          (.send { (Request.ofPayload packet.payload).withMode station.link.controlMode with
            destination }))
  | idleTick {session} (opened : station.session = some session)
      (unpaired : session.nextRequest? = none) :
      Turns station id (.tick .begin)
        (.done (station.setLinked ⟨station.link, session⟩) (.exchanged (.ok none)))
  | tickBegins {session request} (opened : station.session = some session)
      (turn : session.nextRequest? = some request) :
      Turns station id (.tick .begin)
        (.next (station.setLinked ⟨station.link, session⟩) (.tick (.asking request .gate)))
  | tickAsks {session request point link later} (opened : station.session = some session)
      (stepped : station.link.callerStep id (.send request) point = .next link later) :
      Turns station id (.tick (.asking request point))
        (.next (station.setLinked ⟨link, session⟩) (.tick (.asking request later)))
  | tickEnds {session request point link result} (opened : station.session = some session)
      (stepped : station.link.callerStep id (.send request) point = .done link result) :
      Turns station id (.tick (.asking request point))
        (.done (station.setLinked
            ⟨link, session.endTick (LinkedSession.flagsOf link result)⟩)
          (.exchanged (result.map some)))
  | scheduled {session} (opened : station.session = some session)
      (running : session.running = true) :
      Turns station id (.schedule .begin)
        (.next (station.setLinked ⟨station.link, session⟩)
          (.schedule (.firstDelay (.delay session.config.firstDelay))))
  | stopped {session} (opened : station.session = some session)
      (resting : session.running = false) :
      Turns station id (.schedule .begin)
        (.next (station.setLinked ⟨station.link, session⟩) (.schedule .stopped))
  | restarted {session} (opened : station.session = some session)
      (armed : session.armed = true) :
      Turns station id (.schedule .stopped)
        (.next (station.setLinked ⟨station.link, { session with armed := false }⟩)
          (.schedule .begin))
  | firstDelay {session deadline} (opened : station.session = some session) :
      Turns station id (.schedule (.firstDelay deadline))
        (.next (station.setLinked ⟨station.link, session⟩)
          (.schedule (.firstDelay (deadline.started station.link.bus.clock))))
  | firstDelayOver {session deadline} (opened : station.session = some session)
      (elapsed : deadline.reached station.link.bus.clock = true) :
      Turns station id (.schedule (.firstDelay deadline))
        (.next (station.setLinked ⟨station.link, session⟩)
          (.schedule (LinkedSession.afterDelay session)))
  | scheduleAsks {session request point link later} (opened : station.session = some session)
      (stepped : station.link.callerStep id (.send request) point = .next link later) :
      Turns station id (.schedule (.asking request point))
        (.next (station.setLinked ⟨link, session⟩) (.schedule (.asking request later)))
  | scheduleEnds {session request point link result} (opened : station.session = some session)
      (stepped : station.link.callerStep id (.send request) point = .done link result) :
      Turns station id (.schedule (.asking request point))
        (.next (station.setLinked
            ⟨link, session.endTick (LinkedSession.flagsOf link result)⟩)
          (.schedule (.period (.delay session.config.period))))
  | period {session deadline} (opened : station.session = some session) :
      Turns station id (.schedule (.period deadline))
        (.next (station.setLinked ⟨station.link, session⟩)
          (.schedule (.period (deadline.started station.link.bus.clock))))
  | periodOver {session deadline} (opened : station.session = some session)
      (elapsed : deadline.reached station.link.bus.clock = true) :
      Turns station id (.schedule (.period deadline))
        (.next (station.setLinked ⟨station.link, session⟩)
          (.schedule (LinkedSession.afterDelay session)))
  | popped {session item queue} (opened : station.session = some session)
      (popped : station.link.queue.pop? = some (item, queue)) :
      Turns station id (.process .pop)
        (.next (station.setLinked ⟨{ station.link with queue }, session⟩)
          (.process (.buffer item)))
  | processed {session item} (opened : station.session = some session)
      (free : station.link.pool.accessible item.slot = true) :
      Turns station id (.process (.buffer item))
        (.done (station.setLinked ⟨station.link.releaseSlot item.slot,
            (session.process (station.link.pool.contents item.slot)).2⟩)
          (.processed (session.process (station.link.pool.contents item.slot)).1))

theorem tick_turns {station : Station slots size capacity} {session : Session capacity}
    (opened : station.session = some session) (id : TaskId) (point : Ranging.TickPoint) :
    station.Turns id (.tick point) (station.turn id (.tick point)) := by
  simp only [turn, sessionTurn, opened]
  cases point with
  | begin =>
      rw [LinkedSession.tickStep]
      cases turn : session.nextRequest? with
      | none => exact .idleTick opened turn
      | some request => exact .tickBegins opened turn
  | asking request point =>
      have turns := LinkedSession.ask_turns ⟨station.link, session⟩ id request point
      rw [LinkedSession.tickStep]
      generalize LinkedSession.ask _ id request point = asked at turns ⊢
      cases turns with
      | wait => exact .wait
      | next stepped => exact .tickAsks opened stepped
      | done stepped => exact .tickEnds opened stepped

theorem schedule_turns {station : Station slots size capacity} {session : Session capacity}
    (opened : station.session = some session) (id : TaskId) (point : Ranging.SchedulePoint) :
    station.Turns id (.schedule point) (station.turn id (.schedule point)) := by
  simp only [turn, sessionTurn, opened]
  cases point with
  | begin =>
      rw [LinkedSession.scheduleStep]
      cases running : session.running with
      | true => exact .scheduled opened running
      | false => exact .stopped opened running
  | stopped =>
      rw [LinkedSession.scheduleStep]
      cases armed : session.armed with
      | true => exact .restarted opened armed
      | false => exact .wait
  | firstDelay deadline =>
      rw [LinkedSession.scheduleStep]
      dsimp only
      by_cases elapsed : deadline.reached station.link.bus.clock = true
      · rw [if_pos elapsed]
        exact .firstDelayOver opened elapsed
      · rw [if_neg elapsed]
        by_cases started : deadline.started station.link.bus.clock = deadline
        · rw [if_pos started]
          exact .wait
        · rw [if_neg started]
          exact .firstDelay opened
  | asking request point =>
      have turns := LinkedSession.ask_turns ⟨station.link, session⟩ id request point
      rw [LinkedSession.scheduleStep]
      generalize LinkedSession.ask _ id request point = asked at turns ⊢
      cases turns with
      | wait => exact .wait
      | next stepped => exact .scheduleAsks opened stepped
      | done stepped => exact .scheduleEnds opened stepped
  | period deadline =>
      rw [LinkedSession.scheduleStep]
      dsimp only
      by_cases elapsed : deadline.reached station.link.bus.clock = true
      · rw [if_pos elapsed]
        exact .periodOver opened elapsed
      · rw [if_neg elapsed]
        by_cases started : deadline.started station.link.bus.clock = deadline
        · rw [if_pos started]
          exact .wait
        · rw [if_neg started]
          exact .period opened

theorem process_turns {station : Station slots size capacity} {session : Session capacity}
    (opened : station.session = some session) (id : TaskId) (point : Ranging.ProcessPoint) :
    station.Turns id (.process point) (station.turn id (.process point)) := by
  simp only [turn, sessionTurn, opened]
  cases point with
  | pop =>
      rw [LinkedSession.processStep]
      cases popped : station.link.queue.pop? with
      | none => exact .wait
      | some taken => exact .popped opened popped
  | buffer item =>
      rw [LinkedSession.processStep]
      dsimp only
      by_cases free : station.link.pool.accessible item.slot = true
      · rw [if_pos free]
        exact .processed opened free
      · rw [if_neg free]
        exact .wait

theorem sessionTurn_of_none {station : Station slots size capacity} {point result : Type}
    {turn : LinkedSession slots size capacity →
      Turn (LinkedSession slots size capacity) point result}
    {task : point → Task} {finish : result → TaskResult} (none : station.session = none) :
    station.sessionTurn turn task finish = .wait := by
  rw [sessionTurn, none]

theorem turn_turns (station : Station slots size capacity) (id : TaskId) (task : Task) :
    station.Turns id task (station.turn id task) := by
  cases task with
  | exchange exchange point =>
      rw [turn]
      cases stepped : station.link.callerStep id exchange point with
      | wait => exact .wait
      | next link later => exact .call stepped
      | done link result => exact .returned stepped
  | outbound destination =>
      rw [turn, takePacket]
      cases queued : station.outbound with
      | nil => exact .nothingToSend queued
      | cons packet rest =>
          dsimp only
          by_cases overlong : packet.claimed > Packet.capacity
          · rw [if_pos overlong]
            exact .overlong queued overlong
          · rw [if_neg overlong]
            exact .takesPacket queued (Nat.le_of_not_lt overlong)
  | interrupt point =>
      rw [turn]
      cases stepped : station.link.interruptStep id point with
      | wait => exact .wait
      | next link later => exact .event stepped
      | done link result => exact .handled stepped
  | reserve =>
      rw [turn]
      cases reserved : station.link.pool.reserve with
      | mk slot pool =>
          cases slot with
          | none => exact .wait
          | some slot => exact .reserved reserved
  | tick point =>
      cases opened : station.session with
      | none => rw [turn, sessionTurn_of_none opened]; exact .wait
      | some session => exact tick_turns opened id point
  | schedule point =>
      cases opened : station.session with
      | none => rw [turn, sessionTurn_of_none opened]; exact .wait
      | some session => exact schedule_turns opened id point
  | process point =>
      cases opened : station.session with
      | none => rw [turn, sessionTurn_of_none opened]; exact .wait
      | some session => exact process_turns opened id point

theorem turns_of_eq {station : Station slots size capacity} {id : TaskId} {task : Task}
    {turned : Turn (Station slots size capacity) Task TaskResult}
    (stepped : station.turn id task = turned) : station.Turns id task turned := by
  rw [← stepped]
  exact station.turn_turns id task

end Station

end UwbRadio

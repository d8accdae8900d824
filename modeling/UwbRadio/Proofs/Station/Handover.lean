import UwbRadio.Proofs.Frame.RoundTrip
import UwbRadio.Proofs.Link.Handover
import UwbRadio.Proofs.Station.LateCopy
import UwbRadio.Proofs.Station.Reading

/-!
Each response is handed over once. From the begin of a transaction to the begin of the
next one, a record is kept of the frames that copies have accepted, wherever the copies
come from, of those that went to the queue, and of what the call has returned. A
transaction accepts one frame at most, and exactly one if it expects one and returns
without an error.
-/

namespace UwbRadio

open Ranging (Queue)

def Ranging.Queue.isOpen {capacity : Nat} (queue : Queue capacity) : Bool :=
  queue.enabled && decide (queue.items.length < capacity)

theorem Ranging.Queue.offered {capacity : Nat} (queue : Queue capacity) (item : Ranging.WorkItem) :
    ((queue.push? item).getD queue != queue) = queue.isOpen := by
  have same : queue.isOpen = decide (queue.enabled = true ∧ queue.items.length < capacity) := by
    rw [isOpen, Bool.decide_and, Bool.decide_eq_true]
  rw [same, push?]
  split
  · rename_i open_
    have longer : { queue with items := queue.items ++ [item] } ≠ queue := by
      intro equal
      have lengths := congrArg (fun queue => queue.items.length) equal
      simp at lengths
    rw [Option.getD_some, decide_eq_true open_]
    exact bne_iff_ne.mpr longer
  · rename_i closed
    rw [Option.getD_none, decide_eq_false closed]
    exact bne_self_eq_false queue

structure Handed where
  accepted : Nat := 0
  queued : Nat := 0
  refused : Nat := 0
  result : Option (Except (Error BusFault) Status) := none

namespace Task

variable {slots size : Nat}

def accepts (link : Link slots size) : Task → Bool
  | .interrupt point => link.accepts point
  | _ => false

def hands : Task → Bool
  | .interrupt point => point.hands
  | _ => false

theorem accepts_of_no_event {task : Task} (noEvent : task.servesEvents = false)
    (link : Link slots size) : task.accepts link = false := by
  cases task with
  | interrupt => cases noEvent
  | _ => rfl

theorem hands_of_slot? {task : Task} (quiet : task.servesEvents = true → task.slot? = none) :
    task.hands = false := by
  cases task with
  | interrupt point =>
      have empty := quiet rfl
      cases point with
      | handover => cases empty
      | _ => rfl
  | _ => rfl

theorem hands_of_no_event {task : Task} (noEvent : task.servesEvents = false) :
    task.hands = false :=
  hands_of_slot? fun event => absurd (noEvent.symm.trans event) Bool.false_ne_true

end Task

structure Passes {slots size : Nat} (link : Link slots size) (task : Task)
    (after : Link slots size) (next : Option Task) : Prop where
  handler : after.handler = link.handler
  delivered : after.delivered.length + (next.any Task.hands).toNat =
    link.delivered.length + task.hands.toNat +
      (task.accepts link && link.handler == .transfer).toNat
  queue : task.servesEvents = true →
    if task.accepts link && link.handler == .ranging
    then ∃ slot, after.queue = (link.queue.push? ⟨slot⟩).getD link.queue
    else after.queue = link.queue

/-- Only the event side hands frames over. -/
theorem Effect.keeps_delivered {slots size : Nat} {link after : Link slots size} {id : TaskId}
    {task : Task} {next : Option Task} {given : Option Slot}
    (effect : Effect link id task after next given) (noEvent : task.servesEvents = false) :
    after.handler = link.handler ∧ after.delivered = link.delivered := by
  cases effect.part with
  | call calls stepped =>
      have kept : link.SparesHandler after := (Link.callerTurns_of_eq stepped).sparesHandler
      exact ⟨kept.handler, kept.delivered⟩
  | returned calls stepped =>
      have kept : link.SparesHandler after := (Link.callerTurns_of_eq stepped).sparesHandler
      exact ⟨kept.handler, kept.delivered⟩
  | event => cases noEvent
  | handled => cases noEvent
  | aside _ _ _ linkAfter => rw [linkAfter]; exact ⟨rfl, rfl⟩

theorem Effect.passes {slots size : Nat} {link after : Link slots size} {id : TaskId}
    {task : Task} {next : Option Task} {given : Option Slot}
    (effect : Effect link id task after next given)
    (claims : ∀ point, task = .interrupt point → link.ClaimedAt id point) :
    Passes link task after next := by
  cases serves : task.servesEvents with
  | false =>
      have spared := effect.keeps_delivered serves
      have idle : next.any Task.hands = false := by
        cases next with
        | none => rfl
        | some other =>
            cases other with
            | interrupt point => exact absurd rfl (effect.next_idle serves point)
            | _ => rfl
      refine ⟨spared.1, ?_, fun event => ?_⟩
      · rw [spared.2, idle, Task.hands_of_no_event serves, Task.accepts_of_no_event serves]
        rfl
      · rw [serves] at event
        cases event
  | true =>
      cases task with
      | interrupt point =>
          have own := claims point rfl
          rcases effect.of_interrupt with ⟨later, rfl, turns⟩ | ⟨result, rfl, turns⟩
          · have hands := turns.handsOver own
            exact ⟨hands.handler, hands.delivered, fun _ => hands.queue⟩
          · have hands := turns.handsOver own
            exact ⟨hands.handler, hands.delivered, fun _ => hands.queue⟩
      | _ => cases serves

namespace Station

variable {slots size capacity : Nat} {station after : Station slots size capacity}

def beginsNone : Rule slots size capacity
  | station, .step id =>
      !((station.step? id).any fun after => after.begun id && !station.begun id)
  | _, .cancel _ => false
  | _, _ => true

/-- With its next step the task ends the copy of a frame that is accepted. -/
def accepts (station : Station slots size capacity) (id : TaskId) : Bool :=
  (station.task? id).any fun task => task.accepts station.link

def queues (station after : Station slots size capacity) (id : TaskId) : Bool :=
  (station.task? id).any fun task => task.servesEvents && after.link.queue != station.link.queue

def refuses (station : Station slots size capacity) (id : TaskId) : Bool :=
  station.accepts id && station.link.handler == .ranging && !station.link.queue.isOpen

/-- How many frames have been accepted for the sink and are not there yet. -/
def handing (station : Station slots size capacity) : Nat :=
  station.tasks.countP fun entry => entry.2.hands

def handOver (caller : TaskId) (handed : Handed) (station : Station slots size capacity)
    (move : Move capacity) (after : Station slots size capacity) : Handed :=
  match move with
  | .step id =>
      { accepted := handed.accepted + (station.accepts id).toNat
        queued := handed.queued + (station.queues after id).toNat
        refused := handed.refused + (station.refuses id).toNat
        result := if id = caller ∧ station.begun caller = true
          then (station.returns? caller).map fun returned => returned.2
          else handed.result }
  | _ => handed

theorem handOver_of_no_step {move : Move capacity} (other : ∀ id, move ≠ .step id)
    (caller : TaskId) (handed : Handed) : handOver caller handed station move after = handed := by
  cases move with
  | step id => exact absurd rfl (other id)
  | _ => rfl

def handedIn (station : Station slots size capacity) (caller : TaskId)
    (moves : List (Move capacity)) : Handed :=
  recordOf (handOver caller) moves {} station

/-- Everything accepted has been delivered, or a task is at it, or it was queued, or the
queue was closed. -/
structure Passing (first station : Station slots size capacity) (handed : Handed) : Prop where
  handler : station.link.handler = first.link.handler
  delivered : station.link.delivered.length + station.handing =
    first.link.delivered.length + first.handing +
      if first.link.handler = .transfer then handed.accepted else 0
  queued : handed.queued + handed.refused =
    if first.link.handler = .ranging then handed.accepted else 0

theorem handing_split (front back : List (TaskId × Task)) (id : TaskId) (task : Option Task) :
    (front ++ entryOf id task ++ back).countP (fun entry => entry.2.hands) =
      (front ++ back).countP (fun entry => entry.2.hands) + (task.any Task.hands).toNat := by
  cases task with
  | none => simp [entryOf]
  | some task =>
      cases hands : task.hands with
      | true =>
          simp [entryOf, hands]
          omega
      | false => simp [entryOf, hands]

variable {first : Station slots size capacity} {handed : Handed} {caller : TaskId}

/-- What is accepted for ranging is queued or refused, and nothing else is queued. -/
theorem queued_or_refused {id : TaskId} {task : Task} {next : Option Task}
    (found : station.task? id = some task)
    (passes : Passes station.link task after.link next) :
    (station.queues after id).toNat + (station.refuses id).toNat =
      (station.accepts id && station.link.handler == .ranging).toNat := by
  have queues : station.queues after id =
      (task.servesEvents && after.link.queue != station.link.queue) := by
    rw [Station.queues, found, Option.any_some]
  have accepts : station.accepts id = task.accepts station.link := by
    rw [Station.accepts, found, Option.any_some]
  rw [queues, refuses, accepts]
  cases serves : task.servesEvents with
  | false =>
      rw [Task.accepts_of_no_event serves]
      rfl
  | true =>
      have queue := passes.queue serves
      cases ranges : (task.accepts station.link && station.link.handler == .ranging) with
      | false =>
          rw [ranges] at queue
          have same : after.link.queue = station.link.queue := queue
          rw [same, bne_self_eq_false]
          rfl
      | true =>
          rw [ranges] at queue
          obtain ⟨slot, pushed⟩ := queue
          rw [pushed, Ranging.Queue.offered]
          cases station.link.queue.isOpen <;> rfl

theorem Passing.step {id : TaskId} {task : Task} {next : Option Task} {given : Option Slot}
    {front back : List (TaskId × Task)} (passing : first.Passing station handed)
    (claiming : station.Claiming)
    (stepped : station.StepEffect id after task next given front back) :
    first.Passing after (handOver caller handed station (.step id) after) := by
  have found : station.task? id = some task := stepped.renames.before
  have passes := stepped.effect.passes fun point serves =>
    claiming.claims id point (serves ▸ found)
  have accepts : station.accepts id = task.accepts station.link := by
    rw [Station.accepts, found, Option.any_some]
  have before : station.handing =
      (front ++ back).countP (fun entry => entry.2.hands) + task.hands.toNat := by
    rw [handing, stepped.tasksBefore, List.append_cons]
    exact handing_split front back id (some task)
  have later : after.handing =
      (front ++ back).countP (fun entry => entry.2.hands) + (next.any Task.hands).toNat := by
    rw [handing, stepped.tasksAfter]
    exact handing_split front back id next
  constructor
  · exact passes.handler.trans passing.handler
  · have delivered := passes.delivered
    have sofar := passing.delivered
    rw [passing.handler] at delivered
    simp only [handOver, accepts]
    by_cases transfers : first.link.handler = .transfer
    · simp only [transfers, beq_self_eq_true, Bool.and_true, if_true] at delivered sofar ⊢
      omega
    · have other : (first.link.handler == .transfer) = false := beq_eq_false_iff_ne.mpr transfers
      simp only [other, Bool.and_false, Bool.toNat_false, if_neg transfers] at delivered sofar ⊢
      omega
  · have split := queued_or_refused found passes
    have sofar := passing.queued
    rw [passing.handler] at split
    simp only [handOver]
    by_cases ranges : first.link.handler = .ranging
    · simp only [ranges, beq_self_eq_true, Bool.and_true, if_true] at split sofar ⊢
      omega
    · have other : (first.link.handler == .ranging) = false := beq_eq_false_iff_ne.mpr ranges
      simp only [other, Bool.and_false, Bool.toNat_false, if_neg ranges] at split sofar ⊢
      omega

theorem Passing.move {move : Move capacity} (passing : first.Passing station handed)
    (claiming : station.Claiming) (allowed : beginsNone station move = true)
    (moved : station.move? move = some after) :
    first.Passing after (handOver caller handed station move after) := by
  have aside (noStep : ∀ id, move ≠ .step id)
      (kept : after.link.handler = station.link.handler ∧
        after.link.delivered = station.link.delivered)
      (still : after.handing = station.handing) :
      first.Passing after (handOver caller handed station move after) := by
    rw [handOver_of_no_step noStep]
    refine ⟨kept.1.trans passing.handler, ?_, passing.queued⟩
    rw [kept.2, still]
    exact passing.delivered
  cases move?_moved claiming.orderly.distinct moved with
  | step stepped => exact passing.step claiming stepped
  | cancel => cases allowed
  | submit unknown starts linkAfter tasksAfter =>
      have silent := Task.hands_of_slot? fun _ => Task.slot?_of_starts starts
      refine aside nofun ?_ ?_
      · rw [linkAfter]
        exact ⟨rfl, rfl⟩
      · rw [handing, handing, tasksAfter, List.countP_append, List.countP_singleton, silent]
        rfl
  | process unknown has linkAfter tasksAfter =>
      refine aside nofun ?_ ?_
      · rw [linkAfter]
        exact ⟨rfl, rfl⟩
      · rw [handing, handing, tasksAfter, List.countP_append, List.countP_singleton]
        rfl
  | action noTask acted tasksAfter =>
      obtain ⟨bus, pool, queue, linkAfter⟩ := acted.frame
      refine aside (Move.ne_step_of_noTask noTask) ?_ ?_
      · rw [linkAfter]
        exact ⟨rfl, rfl⟩
      · rw [handing, handing, tasksAfter]

/-! ### How many frames -/

/-- How many frames the transaction of `caller` has accepted: as its phase has it while
the caller is there, as what it returned has it afterwards. -/
inductive Counting (station : Station slots size capacity) (caller : TaskId) (answered : Bool)
    (handed : Handed) : Prop
  | present {exchange point} (calls : station.call? caller = some (exchange, point))
      (begun : point.begun = true) (counts : station.link.phase.Counts answered handed.accepted)
      (unended : handed.result = none) : Counting station caller answered handed
  | gone (gone : station.link.phase.underWay = false)
      (bound : handed.accepted ≤ answered.toNat)
      (fits : ∀ result outcome, handed.result = some result →
        Outcome.of? result = some outcome → handed.accepted = outcome.accepts answered) :
      Counting station caller answered handed

theorem begun_of_call? {id : TaskId} {exchange : Exchange} {point : CallerPoint}
    (calls : station.call? id = some (exchange, point)) : station.begun id = point.begun := by
  obtain ⟨task, found, calls⟩ := Option.bind_eq_some_iff.mp calls
  rw [Station.begun, found, Option.any_some, calls, Option.any_some]

theorem Orderly.unbegun_of_over (orderly : station.Orderly)
    (gone : station.link.phase.underWay = false) (id : TaskId) : station.begun id = false := by
  apply Bool.eq_false_iff.mpr
  intro begun
  obtain ⟨task, exchange, point, found, calls, begun⟩ := call_of_begun begun
  rw [(orderly.admits_task found calls).underWay begun] at gone
  cases gone

variable {answered : Bool}

theorem Counting.le (counting : station.Counting caller answered handed) :
    handed.accepted ≤ answered.toNat := by
  cases counting with
  | present calls begun counts unended => exact Phase.counts_le_one counts
  | gone gone bound fits => exact bound

theorem Counting.returned {result : Except (Error BusFault) Status} {outcome : Outcome}
    (counting : station.Counting caller answered handed) (returned : handed.result = some result)
    (tells : Outcome.of? result = some outcome) :
    handed.accepted = outcome.accepts answered := by
  cases counting with
  | present calls begun counts unended =>
      rw [unended] at returned
      cases returned
  | gone gone bound fits => exact fits result outcome returned tells

theorem Counting.aside {later : Handed} (counting : station.Counting caller answered handed)
    (phase : after.link.phase = station.link.phase)
    (stays : ∀ exchange point, station.call? caller = some (exchange, point) →
      point.begun = true → after.call? caller = some (exchange, point))
    (accepted : later.accepted = handed.accepted) (result : later.result = handed.result) :
    after.Counting caller answered later := by
  cases counting with
  | present calls begun counts unended =>
      refine .present (stays _ _ calls begun) begun ?_ (result.trans unended)
      rw [phase, accepted]
      exact counts
  | gone gone bound fits =>
      refine .gone ?_ ?_ ?_
      · rw [phase]
        exact gone
      · rw [accepted]
        exact bound
      · rw [accepted, result]
        exact fits

theorem Counting.event_steps {id : TaskId} {point : InterruptPoint} {next : Option Task}
    {turn : InterruptTurn slots size} (counting : station.Counting caller answered handed)
    (claiming : station.Claiming) (turns : Link.InterruptTurns station.link id point turn)
    (reached : turn.after? = some after.link)
    (renames : station.Renames after id (some (.interrupt point)) next) :
    after.Counting caller answered (handOver caller handed station (.step id) after) := by
  have unbegun : station.begun id = false := by
    rw [begun, renames.before]
    rfl
  have accepts : station.accepts id = station.link.accepts point := by
    rw [Station.accepts, renames.before]
    rfl
  have result : (handOver caller handed station (.step id) after).result = handed.result := by
    refine if_neg ?_
    rintro ⟨rfl, begun⟩
    rw [unbegun] at begun
    cases begun
  have accepted : (handOver caller handed station (.step id) after).accepted =
      handed.accepted + (station.link.accepts point).toNat := by
    rw [← accepts]
    rfl
  cases counting with
  | present calls begun counts unended =>
      have apart : caller ≠ id := by
        rintro rfl
        rw [begun_of_call? calls, begun] at unbegun
        cases unbegun
      refine .present ((renames.stay_call apart).trans calls) begun ?_ (result.trans unended)
      rw [accepted]
      exact (turns.counts (claiming.claims id point renames.before) counts).holds reached
  | gone gone bound fits =>
      rw [Link.accepts_of_over gone] at accepted
      refine .gone ((turns.stays_over gone).holds reached) ?_ ?_
      · rw [accepted]
        exact bound
      · rw [accepted, result]
        exact fits

section caller

variable {id : TaskId} {task : Task} {next : Option Task} {given : Option Slot}
  {exchange : Exchange} {point : CallerPoint}

theorem accepts_of_call (found : station.task? id = some task)
    (calls : task.call? = some (exchange, point)) : station.accepts id = false := by
  rw [Station.accepts, found]
  exact Task.accepts_of_no_event (Task.no_event_of_call? calls) station.link

theorem Counting.caller_steps (effect : Effect station.link caller task after.link next given)
    (renames : station.Renames after caller (some task) next)
    (calls : task.call? = some (exchange, point)) (begun : point.begun = true)
    (counts : station.link.phase.Counts answered handed.accepted) :
    after.Counting caller answered (handOver caller handed station (.step caller) after) := by
  have asks := (call?_of_task renames.before).trans calls
  have accepted : (handOver caller handed station (.step caller) after).accepted =
      handed.accepted := by
    rw [handOver, accepts_of_call renames.before calls]
    rfl
  have noted : (handOver caller handed station (.step caller) after).result =
      (station.returns? caller).map fun returned => returned.2 :=
    if_pos ⟨rfl, (begun_of_call? asks).trans begun⟩
  rcases effect.of_call_step calls with ⟨other, later, rfl, goesOn, stepped⟩ |
    ⟨result, rests, stepped⟩
  · have turns := Link.callerTurns_of_eq stepped
    refine .present ((call?_of_task renames.later).trans goesOn) (turns.begun_stays begun) ?_ ?_
    · rw [accepted, turns.same_phase begun]
      exact counts
    · rw [noted, returns?_of_next asks stepped]
      rfl
  · have turns := Link.callerTurns_of_eq stepped
    obtain ⟨gone, fits⟩ := turns.concludes begun counts
    refine .gone gone ?_ ?_
    · rw [accepted]
      exact Phase.counts_le_one counts
    · rw [accepted, noted, returns?_of_done asks stepped]
      rintro _ outcome ⟨⟩
      exact fits outcome

theorem Counting.call_steps (counting : station.Counting caller answered handed)
    (claiming : station.Claiming)
    (unopened : after.begun id = true → station.begun id = true)
    (effect : Effect station.link id task after.link next given)
    (renames : station.Renames after id (some task) next)
    (calls : task.call? = some (exchange, point)) :
    after.Counting caller answered (handOver caller handed station (.step id) after) := by
  have asks := (call?_of_task renames.before).trans calls
  cases counting with
  | present mine begun counts unended =>
      have alone {turn : CallerTurn slots size}
          (turns : Link.CallerTurns station.link id exchange point turn) (moves : turn ≠ .wait) :
          id = caller := by
        by_cases same : id = caller
        · exact same
        · rw [claiming.orderly.others_wait asks turns moves caller _ _ (Ne.symm same) mine] at begun
          cases begun
      have same : id = caller := by
        rcases effect.of_call calls with ⟨_, _, _, _, turns⟩ | ⟨_, _, turns⟩
        · exact alone turns nofun
        · exact alone turns nofun
      subst same
      rw [asks] at mine
      cases mine
      exact caller_steps effect renames calls begun counts
  | gone gone bound fits =>
      have unbegun := claiming.orderly.unbegun_of_over gone
      have before : point.begun = false := (begun_of_call? asks).symm.trans (unbegun id)
      have accepted : (handOver caller handed station (.step id) after).accepted =
          handed.accepted := by
        rw [handOver, accepts_of_call renames.before calls]
        rfl
      have result : (handOver caller handed station (.step id) after).result = handed.result := by
        refine if_neg ?_
        rintro ⟨_, begun⟩
        rw [unbegun caller] at begun
        cases begun
      have stays : after.link.phase.underWay = false := by
        rcases effect.of_call calls with ⟨other, later, rfl, goesOn, turns⟩ | ⟨_, _, turns⟩
        · refine turns.stays_over before ?_ gone
          rintro _ _ ⟨⟩
          apply Bool.eq_false_iff.mpr
          intro begun
          have asks := (call?_of_task renames.later).trans goesOn
          have opened := unopened ((begun_of_call? asks).trans begun)
          rw [unbegun id] at opened
          cases opened
        · refine turns.stays_over before ?_ gone
          intro _ _ same
          cases same
      refine .gone stays ?_ ?_
      · rw [accepted]
        exact bound
      · rw [accepted, result]
        exact fits

end caller

theorem Counting.move {move : Move capacity} (counting : station.Counting caller answered handed)
    (claiming : station.Claiming) (allowed : beginsNone station move = true)
    (moved : station.move? move = some after) :
    after.Counting caller answered (handOver caller handed station move after) := by
  cases claiming.orderly.happens moved with
  | @step id task next given effect renames =>
      have unopened (begun : after.begun id = true) : station.begun id = true := by
        have stepped : station.step? id = some after := moved
        rw [beginsNone, stepped, Option.any_some, begun] at allowed
        simpa using allowed
      cases effect.part with
      | call calls => exact counting.call_steps claiming unopened effect renames calls
      | returned calls => exact counting.call_steps claiming unopened effect renames calls
      | event stepped =>
          exact counting.event_steps claiming (Link.interruptTurns_of_eq stepped) rfl renames
      | handled stepped =>
          exact counting.event_steps claiming (Link.interruptTurns_of_eq stepped) rfl renames
      | aside noCall noEvent outside linkAfter =>
          have silent : station.call? id = none := (call?_of_task renames.before).trans noCall
          have idle : station.accepts id = false := by
            rw [Station.accepts, renames.before]
            exact Task.accepts_of_no_event noEvent station.link
          refine counting.aside (by rw [linkAfter]) ?_ ?_ ?_
          · intro exchange point calls _
            have apart : caller ≠ id := by
              rintro rfl
              rw [silent] at calls
              cases calls
            exact (renames.stay_call apart).trans calls
          · rw [handOver, idle]
            rfl
          · refine if_neg ?_
            rintro ⟨rfl, begun⟩
            obtain ⟨task, exchange, point, found, calls, _⟩ := call_of_begun begun
            rw [(call?_of_task found).trans calls] at silent
            cases silent
  | cancel => cases allowed
  | @call move id task names outside quiet linkAfter renames =>
      rw [handOver_of_no_step (Move.ne_step_of_names names)]
      refine counting.aside (by rw [linkAfter]) ?_ rfl rfl
      intro exchange point calls _
      have apart : caller ≠ id := by
        rintro rfl
        rw [call?, renames.before] at calls
        cases calls
      exact (renames.stay_call apart).trans calls
  | action noTask acted same =>
      obtain ⟨bus, pool, queue, linkAfter⟩ := acted.frame
      rw [handOver_of_no_step (Move.ne_step_of_noTask noTask)]
      refine counting.aside (by rw [linkAfter]) ?_ rfl rfl
      intro exchange point calls _
      rw [call?, same]
      exact calls

theorem Claiming.counting {preparing : Station slots size capacity} {exchange : Exchange}
    {point : CallerPoint} (claiming : preparing.Claiming) (expecting : preparing.Expecting)
    (unbegun : preparing.begun caller = false) (begins : preparing.step? caller = some first)
    (calls : first.call? caller = some (exchange, point)) (begun : point.begun = true) :
    first.Counting caller exchange.needsBuffer {} := by
  obtain ⟨slot, phase, _, needs⟩ := claiming.orderly.opens expecting unbegun begins calls begun
  refine .present calls begun ?_ rfl
  rw [phase]
  exact Phase.counts_initialPhase exchange needs

/-- From the begin of a transaction to the begin of the next one, with no task dropped,
it accepts one frame at most, and none if it has no response: exactly one if it returns
without an error, and none if there was no frame for it in time. What it accepts goes to
the sink, or is offered to the queue, by the handler, and no other frame does. -/
theorem response_handed_over_once {opened preparing started station :
      Station slots size capacity} {rule : Rule slots size capacity} {caller : TaskId}
    {exchange : Exchange} {point : CallerPoint} {earlier moves : List (Move capacity)}
    (fresh : opened.Fresh) (reached : run? rule earlier opened = some preparing)
    (unbegun : preparing.begun caller = false) (begins : preparing.step? caller = some started)
    (calls : started.call? caller = some (exchange, point)) (begun : point.begun = true)
    (ran : run? beginsNone moves started = some station) :
    (started.handedIn caller moves).accepted ≤ 1 ∧
    (exchange.needsBuffer = false → (started.handedIn caller moves).accepted = 0) ∧
    (∀ status, (started.handedIn caller moves).result = some (.ok status) →
      exchange.needsBuffer = true → (started.handedIn caller moves).accepted = 1) ∧
    (∀ error, (started.handedIn caller moves).result = some (.error error) →
      error = .receiveTimeout ∨ error = .receiveFault ∨ error = .requestTimeout →
        (started.handedIn caller moves).accepted = 0) ∧
    station.link.delivered.length + station.handing =
      started.link.delivered.length + started.handing +
        (if started.link.handler = .transfer then (started.handedIn caller moves).accepted else 0) ∧
    (started.handedIn caller moves).queued + (started.handedIn caller moves).refused =
      if started.link.handler = .ranging then (started.handedIn caller moves).accepted else 0 := by
  obtain ⟨before, expecting⟩ := claiming_and_expecting_of_run fresh reached
  have moved : preparing.move? (.step caller) = some started := begins
  have claiming := before.move moved
  have counting := before.counting expecting unbegun begins calls begun
  have nothing : started.Passing started {} := by
    refine ⟨rfl, ?_, ?_⟩
    · split <;> rfl
    · split <;> rfl
  obtain ⟨_, counting, passing⟩ : station.Claiming ∧
      station.Counting caller exchange.needsBuffer (started.handedIn caller moves) ∧
      started.Passing station (started.handedIn caller moves) :=
    run?_invariant (handOver caller)
      (fun handed station => station.Claiming ∧
        station.Counting caller exchange.needsBuffer handed ∧ started.Passing station handed)
      (fun _ _ _ _ holds allowed moved => ⟨holds.1.move moved,
        holds.2.1.move holds.1 allowed moved, holds.2.2.move holds.1 allowed moved⟩)
      moves {} ⟨claiming, counting, nothing⟩ ran
  refine ⟨?_, ?_, ?_, ?_, passing.delivered, passing.queued⟩
  · exact Nat.le_trans counting.le (Bool.toNat_le _)
  · intro unanswered
    have bound := counting.le
    rw [unanswered] at bound
    exact Nat.le_zero.mp bound
  · intro status returned answered
    have accepted := counting.returned returned rfl
    rw [answered] at accepted
    exact accepted
  · rintro error returned (rfl | rfl | rfl)
    · exact counting.returned returned rfl
    · exact counting.returned returned rfl
    · exact counting.returned returned rfl

def arriving : Bytes :=
  LinkHeader.frame { sequence := 7, panId := 0x1234, source := 1, destination := some 2 } [1, 2, 3]

def leftInCopy : List (Move capacity) :=
  [.submit 1 (.receive (.timeout 10) 0)] ++ List.replicate 8 (.step 1) ++
    [.submit 2 (.feed .received), .step 2, .disturb (.pass 10), .step 1,
      .submit 3 (.receive (.timeout 10) 0)] ++ List.replicate 4 (.step 3)

/-- The second reception is told of a frame as well. The old copy and its own both end
with a frame, the old one first. -/
def copiedTwice : List (Move capacity) :=
  List.replicate 5 (.step 3) ++
    [.submit 4 (.feed .received), .step 4,
      .disturb (.registers (RegisterFile.powerUp.receive arriving))] ++
    List.replicate 5 (.step 2) ++ [.step 3] ++ List.replicate 4 (.step 4)

theorem old_copy_hands_over_once :
    ∃ opened preparing started station : Station 2 127 0,
      opened.Fresh ∧ run? dropsNothing leftInCopy opened = some preparing ∧
      preparing.step? 3 = some started ∧ (started.copying? 2).isSome = true ∧
      run? beginsNone copiedTwice started = some station ∧ station.tasks = [] ∧
      (∃ status, (started.handedIn 3 copiedTwice).result = some (.ok status)) ∧
      (started.handedIn 3 copiedTwice).accepted = 1 ∧ station.link.delivered.length = 1 := by
  have evaluated : (do
      let opened : Station 2 127 0 ← open? Device.unused {} .transfer
      let preparing ← run? dropsNothing leftInCopy opened
      let started ← preparing.step? 3
      let station ← run? beginsNone copiedTwice started
      let result ← (started.handedIn 3 copiedTwice).result
      return (preparing.begun 3, started.call? 3, (started.copying? 2).isSome,
        started.link.handler, started.link.delivered.length, started.handing, station.tasks,
        result.toOption.isSome)) =
      some (false, some (.receive (.timeout 10) 0, .startLock [] (.delay 10)), true,
        .transfer, 0, 0, [], true) := by
    cbv
  obtain ⟨opened, isOpen, evaluated⟩ := Option.bind_eq_some_iff.mp evaluated
  obtain ⟨preparing, reached, evaluated⟩ := Option.bind_eq_some_iff.mp evaluated
  obtain ⟨started, begins, evaluated⟩ := Option.bind_eq_some_iff.mp evaluated
  obtain ⟨station, ran, evaluated⟩ := Option.bind_eq_some_iff.mp evaluated
  obtain ⟨result, returned, evaluated⟩ := Option.bind_eq_some_iff.mp evaluated
  have seen := Option.some.inj evaluated
  simp only [Prod.mk.injEq] at seen
  obtain ⟨unbegun, calls, copies, transfers, delivered, handing, gone, succeeded⟩ := seen
  cases result with
  | error => cases succeeded
  | ok status =>
      have fresh := fresh_of_open? isOpen
      obtain ⟨_, _, once, _, sink, _⟩ :=
        response_handed_over_once fresh reached unbegun begins calls rfl ran
      have accepted := once status returned rfl
      have idle : station.handing = 0 := by rw [Station.handing, gone, List.countP_nil]
      rw [delivered, handing, idle, if_pos transfers, accepted] at sink
      exact ⟨opened, preparing, started, station, fresh, reached, begins, copies, ran, gone,
        ⟨status, returned⟩, accepted, sink⟩

end Station

end UwbRadio

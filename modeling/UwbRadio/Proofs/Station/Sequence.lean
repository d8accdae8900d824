import Mathlib
import UwbRadio.Proofs.Link.Sequence
import UwbRadio.Proofs.Station.Calls
import UwbRadio.Proofs.Station.Writes

/-!
The sequence counter over a run. Whatever callers, events and faults do, as long as no
send is dropped once it has begun, the counter is ahead of its first value by the sends
that have succeeded, and by one more while a send is under way.

`SendLog` records a run: the counter at which each call got the gate, the frame it has
loaded since, and the frames of the sends that succeeded.
-/

namespace UwbRadio

namespace Station

variable {slots size capacity : Nat}

def sends (station : Station slots size capacity) (id : TaskId) : Bool :=
  (station.call? id).any fun call => call.1.counted && call.2.begun

def loads (earlier station : Station slots size capacity) : Option Bytes :=
  (earlier.wrote station).findSome? Written.frame?

def keepsSends : Rule slots size capacity
  | station, .cancel id => !station.sends id
  | _, _ => true

end Station

structure SendLog where
  /-- The counter when the task got the gate. -/
  entered : TaskId → UInt8
  loaded : TaskId → Option Bytes
  sent : List (Option Bytes)

namespace SendLog

variable {slots size capacity : Nat}

def empty : SendLog := ⟨fun _ => 0, fun _ => none, []⟩

def enter (log : SendLog) (station : Station slots size capacity) (id : TaskId) : SendLog :=
  if (station.call? id).any fun call => call.2 == .gate then
    { log with
      entered := fun other => if other = id then station.link.sequence else log.entered other
      loaded := fun other => if other = id then none else log.loaded other }
  else
    log

def succeed (log : SendLog) (station : Station slots size capacity) (id : TaskId) : SendLog :=
  match station.returns? id with
  | some (.send _, .ok _) => { log with sent := log.loaded id :: log.sent }
  | _ => log

def load (log : SendLog) (id : TaskId) (frame : Option Bytes) : SendLog :=
  { log with
    loaded := fun other => if other = id then frame.or (log.loaded id) else log.loaded other }

def note (log : SendLog) (station : Station slots size capacity) :
    Move capacity → Station slots size capacity → SendLog
  | .step id, after => ((log.enter station id).succeed station id).load id (station.loads after)
  | _, _ => log

/-- What the counter has come to by the sends that have succeeded. -/
def total (log : SendLog) (initial : UInt8) : UInt8 :=
  initial + UInt8.ofNat log.sent.length

/-- The frames carry consecutive numbers, the earliest the initial one. -/
def Consecutive (initial : UInt8) : List (Option Bytes) → Prop
  | [] => True
  | frame :: earlier =>
      frame.bind frameNumber? = some (initial + UInt8.ofNat earlier.length) ∧
        Consecutive initial earlier

variable {log : SendLog} {station after : Station slots size capacity} {id : TaskId}

@[simp] theorem enter_sent (log : SendLog) (station : Station slots size capacity) (id : TaskId) :
    (log.enter station id).sent = log.sent := by
  unfold enter
  split <;> rfl

@[simp] theorem succeed_entered (log : SendLog) (station : Station slots size capacity)
    (id : TaskId) : (log.succeed station id).entered = log.entered := by
  unfold succeed
  split <;> rfl

theorem enter_gate {exchange : Exchange} (log : SendLog)
    (calls : station.call? id = some (exchange, .gate)) :
    (log.enter station id).entered id = station.link.sequence ∧
      (log.enter station id).loaded id = none := by
  unfold enter
  rw [calls]
  exact ⟨if_pos rfl, if_pos rfl⟩

theorem enter_past {exchange : Exchange} {point : CallerPoint}
    (calls : station.call? id = some (exchange, point)) (past : point ≠ .gate) :
    log.enter station id = log := by
  unfold enter
  rw [calls]
  exact if_neg fun atGate => past (eq_of_beq atGate)

theorem load_own (log : SendLog) (id : TaskId) (frame : Option Bytes) :
    (log.load id frame).loaded id = frame.or (log.loaded id) :=
  if_pos rfl

theorem load_other {other : TaskId} (log : SendLog) (apart : other ≠ id) (frame : Option Bytes) :
    (log.load id frame).loaded other = log.loaded other :=
  if_neg apart

theorem succeed_returned {exchange : Exchange} {result : Except (Error BusFault) Status}
    (log : SendLog) (returns : station.returns? id = some (exchange, result)) (initial : UInt8) :
    (log.succeed station id).total initial = log.total initial + gain exchange result ∧
      (Consecutive initial log.sent →
        (result.isOk = true →
          Link.HasLoaded (log.total initial) exchange (log.loaded id)) →
        Consecutive initial (log.succeed station id).sent) := by
  unfold succeed
  rw [returns]
  cases exchange with
  | receive mode timeout => exact ⟨(UInt8.add_zero _).symm, fun kept _ => kept⟩
  | send request =>
      cases result with
      | error fault => exact ⟨(UInt8.add_zero _).symm, fun kept _ => kept⟩
      | ok status =>
          constructor
          · have one : gain (.send request) (.ok status) = 1 := rfl
            rw [one, total, total, List.length_cons, UInt8.ofNat_add, UInt8.add_assoc]
            rfl
          · intro kept has
            exact ⟨has rfl rfl, kept⟩

theorem succeed_unreturned (unreturned : station.returns? id = none) :
    log.succeed station id = log := by
  unfold succeed
  rw [unreturned]

end SendLog

namespace Station

variable {slots size capacity : Nat} {station after : Station slots size capacity} {log : SendLog}
  {initial : UInt8} {id : TaskId}

theorem sends_congr (same : after.call? id = station.call? id) :
    after.sends id = station.sends id := by
  rw [sends, sends, same]

theorem sends_of_absent (absent : station.task? id = none) : station.sends id = false := by
  rw [sends, call?, absent]
  rfl

theorem lead_of_sends {exchange : Exchange} {point : CallerPoint}
    (calls : station.call? id = some (exchange, point)) (idle : station.sends id = false) :
    lead exchange point = 0 := by
  rw [sends, calls, Option.any_some] at idle
  rw [lead, idle]
  rfl

end Station

theorem Task.loads_nothing {task : Task} (noCall : task.call? = none) :
    task.writing?.bind Written.frame? = none := by
  cases serves : task.servesEvents with
  | false => rw [Task.writing?_of_neither noCall serves]; rfl
  | true =>
      cases task with
      | interrupt point =>
          cases point with
          | clearStatus pending => exact Link.clearing_loads_nothing pending
          | _ => rfl
      | _ => cases serves

namespace Station

variable {slots size capacity : Nat} {station after : Station slots size capacity} {log : SendLog}
  {initial : UInt8} {id : TaskId}

/-- What holds of a call past the gate, by the record. -/
structure Follows (initial : UInt8) (log : SendLog) (station : Station slots size capacity)
    (id : TaskId) (exchange : Exchange) (point : CallerPoint) : Prop where
  entered : log.entered id = log.total initial
  ahead : station.link.sequence = log.total initial + lead exchange point
  carries : Link.Carries (log.total initial) exchange (log.loaded id) point

structure Numbered (initial : UInt8) (log : SendLog) (station : Station slots size capacity) :
    Prop where
  orderly : station.Orderly
  consecutive : SendLog.Consecutive initial log.sent
  calls : ∀ id exchange point, station.call? id = some (exchange, point) → point ≠ .gate →
    station.Follows initial log id exchange point
  settled : (∀ id, station.sends id = false) → station.link.sequence = log.total initial

section caller

variable {exchange : Exchange} {point : CallerPoint} {turn : CallerTurn slots size}

theorem Numbered.follows (numbered : station.Numbered initial log)
    (calls : station.call? id = some (exchange, point))
    (turns : Link.CallerTurns station.link id exchange point turn) (moves : turn ≠ .wait) :
    station.Follows initial (log.enter station id) id exchange point := by
  by_cases atGate : point = .gate
  · subst atGate
    obtain ⟨entered, _⟩ := SendLog.enter_gate log calls
    have idle (other : TaskId) : station.sends other = false := by
      cases asks : station.call? other with
      | none => rw [sends, asks]; rfl
      | some call =>
          obtain ⟨transaction, at_⟩ := call
          have waits : at_ = .gate := by
            by_cases same : other = id
            · subst same
              rw [calls] at asks
              cases asks
              rfl
            · exact numbered.orderly.others_wait calls turns moves other transaction at_ same asks
          rw [sends, asks, waits]
          exact Bool.and_false _
    have settled := numbered.settled idle
    constructor
    · rw [entered, SendLog.total, SendLog.enter_sent]
      exact settled
    · rw [SendLog.total, SendLog.enter_sent, lead_before exchange rfl, UInt8.add_zero]
      exact settled
    · trivial
  · rw [SendLog.enter_past calls atGate]
    exact numbered.calls id exchange point calls atGate

theorem loads_of_next {later : CallerPoint}
    (turns : Link.CallerTurns station.link id exchange point (.next after.link later)) :
    station.loads after = point.frame? := by
  rw [loads, wrote_eq turns.next_written, CallerPoint.frame?]
  cases point.writing? with
  | none => rfl
  | some write =>
      rw [Option.toList_some, List.findSome?_singleton]
      rfl

theorem Numbered.goes_on {later : CallerPoint} {first second : Option Task}
    (numbered : station.Numbered initial log) (orderly : after.Orderly)
    (calls : station.call? id = some (exchange, point))
    (stepped : station.link.callerStep id exchange point = .next after.link later)
    (renames : station.Renames after id first second)
    (goesOn : after.call? id = some (exchange, later)) :
    after.Numbered initial (log.note station (.step id) after) := by
  have turns := Link.callerTurns_of_eq stepped
  have follows := numbered.follows calls turns nofun
  have counted : after.link.sequence = log.total initial + lead exchange later := by
    have ahead := turns.counts follows.ahead
    rw [SendLog.total, SendLog.enter_sent] at ahead
    exact ahead
  rw [SendLog.note, SendLog.succeed_unreturned (returns?_of_next calls stepped),
    loads_of_next turns]
  refine ⟨orderly, ?_, ?_, ?_⟩
  · rw [SendLog.load, SendLog.enter_sent]
    exact numbered.consecutive
  · intro other transaction at_ asks past
    by_cases same : other = id
    · subst same
      rw [goesOn] at asks
      cases asks
      have carried := turns.carries follows.ahead follows.carries
      refine ⟨follows.entered, turns.counts follows.ahead, ?_⟩
      rw [SendLog.load_own]
      exact carried
    · rw [renames.stay_call same] at asks
      have waits := numbered.orderly.others_wait calls turns nofun other transaction at_ same asks
      exact absurd waits past
  · intro idle
    rw [lead_of_sends goesOn (idle id), UInt8.add_zero] at counted
    rw [SendLog.total, SendLog.load, SendLog.enter_sent]
    exact counted

theorem Numbered.returns {result : Except (Error BusFault) Status} {first second : Option Task}
    (numbered : station.Numbered initial log) (orderly : after.Orderly)
    (calls : station.call? id = some (exchange, point))
    (stepped : station.link.callerStep id exchange point = .done after.link result)
    (renames : station.Renames after id first second) (gone : after.call? id = none) :
    after.Numbered initial (log.note station (.step id) after) := by
  have turns := Link.callerTurns_of_eq stepped
  have follows := numbered.follows calls turns nofun
  obtain ⟨total, consecutive⟩ :=
    SendLog.succeed_returned (log.enter station id) (returns?_of_done calls stepped) initial
  refine ⟨orderly, ?_, ?_, ?_⟩
  · apply consecutive
    · rw [SendLog.enter_sent]
      exact numbered.consecutive
    · intro succeeds
      exact turns.has_loaded succeeds follows.carries
  · intro other transaction at_ asks past
    by_cases same : other = id
    · subst same
      rw [gone] at asks
      cases asks
    · rw [renames.stay_call same] at asks
      have waits := numbered.orderly.others_wait calls turns nofun other transaction at_ same asks
      exact absurd waits past
  · intro _
    have counted := turns.counts follows.ahead
    exact counted.trans total.symm

end caller

/-- A move that is no caller's: nobody gets past the gate by it, and those who are past
it see no change. -/
theorem Numbered.frame {later : SendLog} (numbered : station.Numbered initial log)
    (orderly : after.Orderly) (sequence : after.link.sequence = station.link.sequence)
    (entered : later.entered = log.entered) (sent : later.sent = log.sent)
    (calls : ∀ id exchange point, after.call? id = some (exchange, point) → point ≠ .gate →
      station.call? id = some (exchange, point) ∧ later.loaded id = log.loaded id)
    (sends : ∀ id, after.sends id = false → station.sends id = false) :
    after.Numbered initial later := by
  have total : later.total initial = log.total initial := by
    rw [SendLog.total, SendLog.total, sent]
  refine ⟨orderly, ?_, ?_, ?_⟩
  · rw [sent]
    exact numbered.consecutive
  · intro id exchange point asks past
    obtain ⟨asked, loaded⟩ := calls id exchange point asks past
    have follows := numbered.calls id exchange point asked past
    constructor
    · rw [entered, total]
      exact follows.entered
    · rw [sequence, total]
      exact follows.ahead
    · rw [loaded, total]
      exact follows.carries
  · intro idle
    rw [sequence, total]
    exact numbered.settled fun id => sends id (idle id)

theorem Numbered.renamed {later : SendLog} {first second : Option Task}
    (numbered : station.Numbered initial log) (orderly : after.Orderly)
    (renames : station.Renames after id first second) (idle : station.sends id = false)
    (outside : ∀ task ∈ second, task.Outside)
    (sequence : after.link.sequence = station.link.sequence)
    (entered : later.entered = log.entered) (sent : later.sent = log.sent)
    (loaded : ∀ other, other ≠ id → later.loaded other = log.loaded other) :
    after.Numbered initial later := by
  refine numbered.frame orderly sequence entered sent ?_ ?_
  · intro other exchange point asks past
    by_cases same : other = id
    · subst same
      obtain ⟨task, found, asks⟩ := Option.bind_eq_some_iff.mp asks
      have member : task ∈ second := renames.later.symm.trans found
      exact absurd (outside task member exchange point asks) past
    · rw [renames.stay_call same] at asks
      exact ⟨asks, loaded other same⟩
  · intro other later
    by_cases same : other = id
    · subst same
      exact idle
    · rw [← sends_congr (renames.stay_call same)]
      exact later

theorem Numbered.move {move : Move capacity} (numbered : station.Numbered initial log)
    (allowed : keepsSends station move = true) (moved : station.move? move = some after) :
    after.Numbered initial (log.note station move after) := by
  have orderly := numbered.orderly.move moved
  cases numbered.orderly.happens moved with
  | @step id task next given effect renames =>
      have own := call?_of_task renames.before
      cases calls : task.call? with
      | some call =>
          obtain ⟨exchange, point⟩ := call
          rw [calls] at own
          rcases effect.of_call_step calls with ⟨other, later, rfl, goesOn, stepped⟩ |
            ⟨result, rests, stepped⟩
          · have goesOn := (call?_of_task renames.later).trans goesOn
            exact numbered.goes_on orderly own stepped renames goesOn
          · refine numbered.returns orderly own stepped renames ?_
            rw [call?, renames.later]
            cases next with
            | none => rfl
            | some other => exact rests other rfl
      | none =>
          rw [calls] at own
          have unreturned : station.returns? id = none := by
            rw [returns?, own, Option.bind_none]
          have unentered : log.enter station id = log := by
            unfold SendLog.enter
            rw [own]
            rfl
          have idle : station.sends id = false := by
            rw [sends, own]
            rfl
          rw [SendLog.note, unentered, SendLog.succeed_unreturned unreturned]
          exact numbered.renamed orderly renames idle (effect.next_outside calls)
            (effect.sparesCaller calls).sequence rfl rfl fun other apart => log.load_other apart _
  | @cancel id task linkAfter renames =>
      have dropped : station.sends id = false := by simpa [keepsSends] using allowed
      exact numbered.renamed orderly renames dropped (by intro task absent; cases absent)
        (by rw [linkAfter]; rfl) rfl rfl fun _ _ => rfl
  | @call move id task names outside quiet linkAfter renames =>
      have unnoted : log.note station move after = log := by
        cases move with
        | step => cases names
        | _ => rfl
      rw [unnoted]
      exact numbered.renamed orderly renames (sends_of_absent renames.before)
        (by rintro task ⟨⟩; exact outside) (by rw [linkAfter]) rfl rfl fun _ _ => rfl
  | @action move noTask acted same =>
      have unnoted : log.note station move after = log := by
        cases move with
        | step => cases noTask
        | _ => rfl
      obtain ⟨bus, pool, queue, linkAfter⟩ := acted.frame
      have sameCall (other : TaskId) : after.call? other = station.call? other := by
        rw [call?, call?, same]
      rw [unnoted]
      refine numbered.frame orderly (by rw [linkAfter]) rfl rfl ?_ ?_
      · intro other exchange point asks past
        rw [sameCall] at asks
        exact ⟨asks, rfl⟩
      · intro other idle
        rw [← sends_congr (sameCall other)]
        exact idle

theorem numbered_of_fresh (fresh : station.Fresh) :
    station.Numbered station.link.sequence .empty := by
  have orderly := orderly_of_fresh fresh
  obtain ⟨device, config, handler, link, _, rfl⟩ := fresh
  refine ⟨orderly, trivial, ?_, ?_⟩
  · intro id exchange point calls
    cases calls
  · intro _
    exact (UInt8.add_zero _).symm

theorem Numbered.return_leaves {exchange : Exchange} {result : Except (Error BusFault) Status}
    (numbered : station.Numbered initial log) (moved : station.move? (.step id) = some after)
    (returns : station.returns? id = some (exchange, result)) :
    after.link.sequence =
      (log.note station (.step id) after).entered id + gain exchange result := by
  obtain ⟨⟨transaction, point⟩, calls, returned⟩ := Option.bind_eq_some_iff.mp returns
  rcases numbered.orderly.caller_steps calls moved with ⟨later, stepped⟩ | ⟨ended, stepped⟩
  · rw [stepped] at returned
    cases returned
  · rw [stepped] at returned
    cases returned
    have turns := Link.callerTurns_of_eq stepped
    have follows := numbered.follows calls turns nofun
    have counted : _ = _ := turns.counts follows.ahead
    rw [counted, ← follows.entered, SendLog.note, SendLog.load, SendLog.succeed_entered]

/-- Whatever is loaded is loaded by a send, and carries the number that the counter had
when the send got the gate. -/
theorem Numbered.frame_numbered {move : Move capacity} (numbered : station.Numbered initial log)
    (moved : station.move? move = some after) :
    ∀ write ∈ station.wrote after, ∀ frame ∈ write.frame?, ∃ id request point,
      move = .step id ∧ station.call? id = some (.send request, point) ∧
        frameNumber? frame = some ((log.note station move after).entered id) := by
  intro write wrote frame loads
  rcases numbered.orderly.writes moved with same | ⟨id, task, rfl, found, written⟩
  · have nothing : station.wrote after = [] := wrote_eq same
    rw [nothing] at wrote
    cases wrote
  · rw [wrote_eq written, Option.mem_toList] at wrote
    have loading : task.writing?.bind Written.frame? = some frame := by
      rw [wrote]
      exact loads
    cases calling : task.call? with
    | none =>
        rw [Task.loads_nothing calling] at loading
        cases loading
    | some call =>
        obtain ⟨exchange, point⟩ := call
        have calls := (call?_of_task found).trans calling
        have follows : station.Follows initial (log.enter station id) id exchange point := by
          rcases numbered.orderly.caller_steps calls moved with ⟨later, stepped⟩ | ⟨result, stepped⟩
          · exact numbered.follows calls (Link.callerTurns_of_eq stepped) nofun
          · exact numbered.follows calls (Link.callerTurns_of_eq stepped) nofun
        rw [Task.writing?_of_call? calling] at loading
        obtain ⟨counted, carries⟩ := follows.carries.frame_number frame loading
        cases exchange with
        | receive mode timeout => cases counted
        | send request =>
            refine ⟨id, request, point, rfl, calls, ?_⟩
            rw [carries, ← follows.entered, SendLog.note, SendLog.load, SendLog.succeed_entered]

/-- The sequence counter, in every run in which no send is dropped once it has begun.
Each call leaves the counter as it found it at the gate, or one further if it is a send
that succeeds, and a send loads no frame but with the number that it found there. So
while no send is under way the counter has moved on by the sends that have succeeded,
and their frames carry consecutive numbers. -/
theorem sequence_counts_successful_sends {opened before after : Station slots size capacity}
    {moves : List (Move capacity)} {last : Move capacity} (fresh : opened.Fresh)
    (ran : run? keepsSends moves opened = some before) (moved : before.move? last = some after) :
    let initial := opened.link.sequence
    let log := recordOf SendLog.note moves .empty opened
    let entered := (log.note before last after).entered
    (∀ id exchange result, last = .step id → before.returns? id = some (exchange, result) →
      after.link.sequence = entered id + gain exchange result) ∧
    (∀ write ∈ before.wrote after, ∀ frame ∈ write.frame?, ∃ id request point,
      last = .step id ∧ before.call? id = some (.send request, point) ∧
        frameNumber? frame = some (entered id)) ∧
    ((∀ id, before.sends id = false) →
      before.link.sequence = initial + UInt8.ofNat log.sent.length) ∧
    SendLog.Consecutive initial log.sent := by
  intro initial log entered
  have numbered : before.Numbered initial log :=
    run?_invariant SendLog.note (fun log station => station.Numbered initial log)
      (fun _ _ _ _ numbered allowed moved => numbered.move allowed moved) moves .empty
      (numbered_of_fresh fresh) ran
  refine ⟨?_, numbered.frame_numbered moved, numbered.settled, numbered.consecutive⟩
  intro id exchange result same returns
  subst same
  exact numbered.return_leaves moved returns

/-- A frame is sent while another call waits, then a start fails, and then the call that
waited sends its frame after silencing the radio. -/
def sendsTwice : List (Move capacity) :=
  [.submit 1 (.send (Request.ofPayload [0x68, 0x69])),
    .submit 2 (.send (Request.ofPayload [0x6f])),
    .step 1, .step 1, .step 1, .step 1, .step 1, .step 1, .step 1,
    .submit 3 (.feed .sent), .step 3, .step 1,
    .disturb (.faults ⟨0, 1⟩), .submit 4 (.send (Request.ofPayload [])), .step 4, .step 4, .step 4,
    .step 2, .step 2, .step 2, .step 2, .step 2, .step 2, .step 2, .step 2, .step 2, .step 2,
    .submit 5 (.feed .sent), .step 5]

/-- The second success counts on from the first, the failure between them does not. -/
theorem second_success_counts_on :
    ∃ opened before after : Station 2 127 0, ∃ log : SendLog,
      opened.Fresh ∧ run? keepsSends sendsTwice opened = some before ∧
      before.move? (.step 2) = some after ∧
      log = recordOf SendLog.note sendsTwice .empty opened ∧ log.sent.length = 1 ∧
      SendLog.Consecutive opened.link.sequence log.sent ∧
      after.link.sequence = (log.note before (.step 2) after).entered 2 + 1 := by
  have evaluated : (do
      let opened : Station 2 127 0 ← open? Device.unused {} .transfer
      let before ← run? keepsSends sendsTwice opened
      let after ← before.move? (.step 2)
      let (exchange, result) ← before.returns? 2
      return (gain exchange result,
        (recordOf SendLog.note sendsTwice .empty opened).sent.length)) = some (1, 1) := by
    cbv
  obtain ⟨opened, isOpen, evaluated⟩ := Option.bind_eq_some_iff.mp evaluated
  obtain ⟨before, ran, evaluated⟩ := Option.bind_eq_some_iff.mp evaluated
  obtain ⟨after, moved, evaluated⟩ := Option.bind_eq_some_iff.mp evaluated
  obtain ⟨⟨exchange, result⟩, returns, evaluated⟩ := Option.bind_eq_some_iff.mp evaluated
  have seen := Option.some.inj evaluated
  simp only [Prod.mk.injEq] at seen
  obtain ⟨gained, succeeded⟩ := seen
  have fresh := fresh_of_open? isOpen
  obtain ⟨leaves, _, _, consecutive⟩ := sequence_counts_successful_sends fresh ran moved
  have left := leaves 2 exchange result rfl returns
  rw [gained] at left
  exact ⟨opened, before, after, _, fresh, ran, moved, rfl, succeeded, consecutive, left⟩

end Station

end UwbRadio

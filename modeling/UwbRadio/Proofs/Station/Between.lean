import UwbRadio.Proofs.Station.Sequence

/-!
Between two transactions. Whatever is dropped, a call past the gate finds the counter
where it was at the gate, and one further if it is a send that has begun. As long as no
transaction begins the counter stays where it is, whoever comes past the gate and fails,
is dropped or has to wait, and the next transaction to begin takes just this number.
-/

namespace UwbRadio

namespace Link

variable {slots size : Nat} {link after : Link slots size} {exchange : Exchange} {id : TaskId}
  {point later : CallerPoint}

theorem CallerTurns.fails_before {result : Except (Error BusFault) Status}
    (turns : CallerTurns link id exchange point (.done after result))
    (before : point.begun = false) : ∃ error, result = .error error := by
  have refused {middle : Link slots size}
      (prepared : Preparation middle exchange (.done after result)) :
      ∃ error, result = .error error := by
    cases prepared with
    | refused => exact ⟨_, rfl⟩
  cases turns with
  | enter free settled prepared => exact refused prepared
  | silenceFailed => exact ⟨_, rfl⟩
  | silenced performed prepared => exact refused prepared
  | starved => exact ⟨_, rfl⟩
  | _ => cases before

theorem CallerTurns.begins_at_startLock
    (turns : CallerTurns link id exchange point (.next after later))
    (before : point.begun = false) (begun : later.begun = true) :
    ∃ frame deadline, later = .startLock frame deadline := by
  have sends {middle : Link slots size}
      (prepared : Preparation middle exchange (.next after later)) :
      ∃ frame deadline, later = .startLock frame deadline := by
    cases prepared with
    | receive => cases begun
    | reserve => cases begun
    | begin => exact ⟨_, _, rfl⟩
  cases turns with
  | enter free settled prepared => exact sends prepared
  | silenced performed prepared => exact sends prepared
  | begin => exact ⟨_, _, rfl⟩
  | silence => cases begun
  | silenceLock => cases begun
  | silencing => cases begun
  | reserving => cases begun
  | _ => cases before

end Link

namespace Station

variable {slots size capacity : Nat} {station after : Station slots size capacity}

/-- What a move comes to for the calls past the gate: one of them goes on or returns
while all others wait at the gate, or none moves and the counter stays. -/
inductive CallMove (station after : Station slots size capacity) (move : Move capacity) : Prop
  | goesOn {id exchange point later} (steps : move = .step id)
      (calls : station.call? id = some (exchange, point))
      (stepped : station.link.callerStep id exchange point = .next after.link later)
      (asks : after.call? id = some (exchange, later))
      (others : ∀ other transaction at_, other ≠ id →
        after.call? other = some (transaction, at_) → at_ = .gate) : CallMove station after move
  | returns {id exchange point result} (steps : move = .step id)
      (calls : station.call? id = some (exchange, point))
      (stepped : station.link.callerStep id exchange point = .done after.link result)
      (others : ∀ other transaction at_,
        after.call? other = some (transaction, at_) → at_ = .gate) : CallMove station after move
  | aside (idle : ∀ id, move = .step id → station.call? id = none)
      (sequence : after.link.sequence = station.link.sequence)
      (stay : ∀ id exchange point, after.call? id = some (exchange, point) →
        point = .gate ∨ station.call? id = some (exchange, point)) : CallMove station after move

theorem Renames.calls_stay {id : TaskId} {first second : Option Task}
    (renames : station.Renames after id first second) (outside : ∀ task ∈ second, task.Outside) :
    ∀ other exchange point, after.call? other = some (exchange, point) →
      point = .gate ∨ station.call? other = some (exchange, point) := by
  intro other exchange point calls
  by_cases same : other = id
  · subst same
    obtain ⟨task, found, calls⟩ := Option.bind_eq_some_iff.mp calls
    rw [renames.later] at found
    exact .inl (outside task found exchange point calls)
  · rw [renames.stay_call same] at calls
    exact .inr calls

theorem Orderly.call_move {move : Move capacity} (orderly : station.Orderly)
    (moved : station.move? move = some after) : station.CallMove after move := by
  cases orderly.happens moved with
  | @step id task next given effect renames =>
      have own := call?_of_task renames.before
      cases calls : task.call? with
      | some call =>
          obtain ⟨exchange, point⟩ := call
          rw [calls] at own
          have wait {turn : CallerTurn slots size}
              (turned : station.link.callerStep id exchange point = turn) (moves : turn ≠ .wait)
              (other : TaskId) (transaction : Exchange) (at_ : CallerPoint) (apart : other ≠ id)
              (asks : after.call? other = some (transaction, at_)) : at_ = .gate := by
            rw [renames.stay_call apart] at asks
            exact orderly.others_wait own (Link.callerTurns_of_eq turned) moves other _ _ apart asks
          rcases effect.of_call_step calls with ⟨other, later, rfl, goesOn, stepped⟩ |
            ⟨result, rests, stepped⟩
          · exact .goesOn rfl own stepped ((call?_of_task renames.later).trans goesOn)
              (wait stepped nofun)
          · refine .returns rfl own stepped ?_
            intro other transaction at_ asks
            have apart := (renames.call_elsewhere rests asks).1
            exact wait stepped nofun other transaction at_ apart asks
      | none =>
          refine .aside ?_ (effect.sparesCaller calls).sequence
            (renames.calls_stay (effect.next_outside calls))
          rintro other same
          cases same
          exact own.trans calls
  | @cancel id task linkAfter renames =>
      exact .aside nofun (by rw [linkAfter]; rfl) (renames.calls_stay nofun)
  | @call move id task names outside quiet linkAfter renames =>
      refine .aside ?_ (by rw [linkAfter]) (renames.calls_stay (by rintro task ⟨⟩; exact outside))
      rintro other rfl
      cases names
  | @action move noTask acted same =>
      obtain ⟨bus, pool, queue, linkAfter⟩ := acted.frame
      refine .aside ?_ (by rw [linkAfter]) ?_
      · rintro other rfl
        cases noTask
      · intro other exchange point calls
        rw [call?, same] at calls
        exact .inr calls

theorem begun_eq (station : Station slots size capacity) (id : TaskId) :
    station.begun id = (station.call? id).any fun call => call.2.begun := by
  rw [begun, call?]
  cases station.task? id <;> rfl

theorem begun_of_call {id : TaskId} {exchange : Exchange} {point : CallerPoint}
    (calls : station.call? id = some (exchange, point)) : station.begun id = point.begun := by
  rw [begun_eq, calls, Option.any_some]

/-- The step with which a transaction begins is one of its caller, and all others wait at the
gate. -/
theorem Orderly.opened {id : TaskId} {exchange : Exchange} {point : CallerPoint}
    (orderly : station.Orderly) (unbegun : station.begun id = false)
    (stepped : station.step? id = some after)
    (calls : after.call? id = some (exchange, point)) (begun : point.begun = true) :
    ∃ earlier, station.call? id = some (exchange, earlier) ∧ earlier.begun = false ∧
      Link.CallerTurns station.link id exchange earlier (.next after.link point) ∧
      ∀ other transaction at_, other ≠ id →
        after.call? other = some (transaction, at_) → at_ = .gate := by
  have moved : station.move? (.step id) = some after := stepped
  cases orderly.call_move moved with
  | @goesOn mover transaction earlier later steps asked turned asks others =>
      cases steps
      rw [calls] at asks
      cases asks
      exact ⟨earlier, asked, (begun_of_call asked).symm.trans unbegun,
        Link.callerTurns_of_eq turned, others⟩
  | returns steps asked turned others =>
      rw [others id exchange point calls] at begun
      cases begun
  | aside idle sequence stay =>
      rcases stay id exchange point calls with atGate | before
      · rw [atGate] at begun
        cases begun
      · rw [idle id rfl] at before
        cases before

variable {log : SendLog} {number : UInt8}

/-- The counter of a call past the gate is the one that it found there, and one more if
it is a send that has begun. Its frame carries the number that it found. -/
structure Counted (log : SendLog) (station : Station slots size capacity) : Prop where
  orderly : station.Orderly
  ahead : ∀ id exchange point, station.call? id = some (exchange, point) → point ≠ .gate →
    station.link.sequence = log.entered id + lead exchange point
  carries : ∀ id exchange point, station.call? id = some (exchange, point) →
    ∃ loaded, Link.Carries (log.entered id) exchange loaded point

theorem note_entered (log : SendLog) (station after : Station slots size capacity) (id : TaskId) :
    (log.note station (.step id) after).entered = (log.enter station id).entered := by
  rw [SendLog.note, SendLog.load, SendLog.succeed_entered]

theorem note_aside {move : Move capacity}
    (idle : ∀ id, move = .step id → station.call? id = none) :
    (log.note station move after).entered = log.entered := by
  cases move with
  | step id =>
      rw [note_entered, SendLog.enter, idle id rfl]
      rfl
  | _ => rfl

theorem Counted.entered {id : TaskId} {exchange : Exchange} {point : CallerPoint}
    (counted : station.Counted log) (calls : station.call? id = some (exchange, point)) :
    station.link.sequence = (log.enter station id).entered id + lead exchange point ∧
      ∃ loaded, Link.Carries ((log.enter station id).entered id) exchange loaded point := by
  by_cases atGate : point = .gate
  · subst atGate
    rw [(SendLog.enter_gate log calls).1, lead_before exchange rfl, UInt8.add_zero]
    exact ⟨rfl, none, trivial⟩
  · rw [SendLog.enter_past calls atGate]
    exact ⟨counted.ahead id exchange point calls atGate, counted.carries id exchange point calls⟩

theorem Counted.move {move : Move capacity} (counted : station.Counted log)
    (moved : station.move? move = some after) :
    after.Counted (log.note station move after) := by
  have orderly := counted.orderly.move moved
  cases counted.orderly.call_move moved with
  | @goesOn id exchange point later steps calls stepped asks others =>
      subst steps
      obtain ⟨ahead, loaded, carries⟩ := counted.entered calls
      have turns := Link.callerTurns_of_eq stepped
      refine ⟨orderly, ?_, ?_⟩
      · intro other transaction at_ asking past
        by_cases same : other = id
        · subst same
          rw [asks] at asking
          cases asking
          rw [note_entered]
          exact turns.counts ahead
        · exact absurd (others other transaction at_ same asking) past
      · intro other transaction at_ asking
        by_cases same : other = id
        · subst same
          rw [asks] at asking
          cases asking
          rw [note_entered]
          exact ⟨_, turns.carries ahead carries⟩
        · rw [others other transaction at_ same asking]
          exact ⟨none, trivial⟩
  | returns steps calls stepped others =>
      refine ⟨orderly, ?_, ?_⟩
      · intro other transaction at_ asking past
        exact absurd (others other transaction at_ asking) past
      · intro other transaction at_ asking
        rw [others other transaction at_ asking]
        exact ⟨none, trivial⟩
  | aside idle sequence stay =>
      refine ⟨orderly, ?_, ?_⟩
      · intro other transaction at_ asking past
        rcases stay other transaction at_ asking with waits | before
        · exact absurd waits past
        · rw [note_aside idle, sequence]
          exact counted.ahead other transaction at_ before past
      · intro other transaction at_ asking
        rcases stay other transaction at_ asking with rfl | before
        · exact ⟨none, trivial⟩
        · rw [note_aside idle]
          exact counted.carries other transaction at_ before

theorem counted_of_run {opened : Station slots size capacity} {rule : Rule slots size capacity}
    {moves : List (Move capacity)} (fresh : opened.Fresh)
    (ran : run? rule moves opened = some station) :
    station.Counted (recordOf SendLog.note moves .empty opened) := by
  have initially : opened.Counted .empty := by
    have orderly := orderly_of_fresh fresh
    obtain ⟨device, config, handler, link, _, rfl⟩ := fresh
    refine ⟨orderly, ?_, ?_⟩
    · intro id exchange point calls
      cases calls
    · intro id exchange point calls
      cases calls
  exact run?_invariant SendLog.note (fun log station => station.Counted log)
    (fun _ _ _ _ counted _ moved => counted.move moved) moves .empty initially ran

def opens (station : Station slots size capacity) (id : TaskId) : Bool :=
  (station.step? id).any fun after => after.begun id && !station.begun id

/-- No transaction begins. Any task may be dropped. -/
def opensNone : Rule slots size capacity
  | station, .step id => !station.opens id
  | _, _ => true

theorem begun_of_opensNone {id : TaskId} {exchange transaction : Exchange}
    {point later : CallerPoint} (allowed : opensNone station (.step id) = true)
    (moved : station.move? (.step id) = some after)
    (asked : station.call? id = some (exchange, point))
    (asks : after.call? id = some (transaction, later)) (begun : later.begun = true) :
    point.begun = true := by
  have stepped : station.step? id = some after := moved
  rw [opensNone, opens, stepped, Option.any_some, begun_of_call asks, begun_of_call asked,
    begun] at allowed
  simpa using allowed

theorem unbegun_of_opensNone {id : TaskId} {exchange transaction : Exchange}
    {point later : CallerPoint} (allowed : opensNone station (.step id) = true)
    (moved : station.move? (.step id) = some after)
    (asked : station.call? id = some (exchange, point)) (before : point.begun = false)
    (asks : after.call? id = some (transaction, later)) : later.begun = false := by
  cases begun : later.begun with
  | false => rfl
  | true => exact (begun_of_opensNone allowed moved asked asks begun).symm.trans before

/-- No transaction is under way with its caller, the counter has this number, and
whoever is past the gate has made its frame with it. -/
structure Between (number : UInt8) (station : Station slots size capacity) : Prop where
  orderly : station.Orderly
  sequence : station.link.sequence = number
  calls : ∀ id exchange point, station.call? id = some (exchange, point) →
    point.begun = false ∧ ∃ loaded, Link.Carries number exchange loaded point

/-- The transaction of a call has begun with this number: a send has taken it from the
counter, and its frame carries it. -/
structure BeginsWith (number : UInt8) (station : Station slots size capacity)
    (exchange : Exchange) (point : CallerPoint) : Prop where
  counter : station.link.sequence = number + if exchange.counted then 1 else 0
  frame : ∃ frame deadline, point = .startLock frame deadline ∧
    (exchange.counted = true → frameNumber? frame = some number)

theorem Counted.between (counted : station.Counted log)
    (unbegun : ∀ id, station.begun id = false) : station.Between station.link.sequence := by
  refine ⟨counted.orderly, rfl, ?_⟩
  intro id exchange point calls
  have before : point.begun = false := (begun_of_call calls).symm.trans (unbegun id)
  refine ⟨before, ?_⟩
  by_cases atGate : point = .gate
  · rw [atGate]
    exact ⟨none, trivial⟩
  · rw [counted.ahead id exchange point calls atGate, lead_before exchange before, UInt8.add_zero]
    exact counted.carries id exchange point calls

theorem Between.ahead {id : TaskId} {exchange : Exchange} {point : CallerPoint}
    (between : station.Between number) (calls : station.call? id = some (exchange, point)) :
    station.link.sequence = number + lead exchange point := by
  rw [lead_before exchange (between.calls id exchange point calls).1, UInt8.add_zero]
  exact between.sequence

theorem Between.unbegun (between : station.Between number) (id : TaskId) :
    station.begun id = false := by
  cases calls : station.call? id with
  | none => rw [begun_eq, calls, Option.any_none]
  | some call => exact (begun_of_call calls).trans (between.calls id call.1 call.2 calls).1

theorem Between.move {move : Move capacity} (between : station.Between number)
    (allowed : opensNone station move = true) (moved : station.move? move = some after) :
    after.Between number := by
  have orderly := between.orderly.move moved
  have atGate {exchange : Exchange} {point : CallerPoint} (waits : point = .gate) :
      point.begun = false ∧ ∃ loaded, Link.Carries number exchange loaded point := by
    rw [waits]
    exact ⟨rfl, none, trivial⟩
  cases between.orderly.call_move moved with
  | @goesOn id exchange point later steps calls stepped asks others =>
      subst steps
      obtain ⟨before, loaded, carries⟩ := between.calls id exchange point calls
      have turns := Link.callerTurns_of_eq stepped
      have unbegun := unbegun_of_opensNone allowed moved calls before asks
      have counted := turns.counts (between.ahead calls)
      rw [Link.Counts, lead_before exchange unbegun, UInt8.add_zero] at counted
      refine ⟨orderly, counted, ?_⟩
      intro other transaction at_ calling
      by_cases same : other = id
      · subst same
        rw [asks] at calling
        cases calling
        exact ⟨unbegun, _, turns.carries (between.ahead calls) carries⟩
      · exact atGate (others other transaction at_ same calling)
  | returns steps calls stepped others =>
      have turns := Link.callerTurns_of_eq stepped
      obtain ⟨error, rfl⟩ := turns.fails_before (between.calls _ _ _ calls).1
      have counted := turns.counts (between.ahead calls)
      rw [Link.Counts, gain_error, UInt8.add_zero] at counted
      exact ⟨orderly, counted, fun other transaction at_ calling =>
        atGate (others other transaction at_ calling)⟩
  | aside idle sequence stay =>
      refine ⟨orderly, sequence.trans between.sequence, ?_⟩
      intro other transaction at_ calling
      rcases stay other transaction at_ calling with waits | before
      · exact atGate waits
      · exact between.calls other transaction at_ before

theorem Between.run {moves : List (Move capacity)} (between : station.Between number)
    (ran : run? opensNone moves station = some after) : after.Between number :=
  run?_keeps (Between number) (fun _ _ _ between allowed moved => between.move allowed moved)
    between ran

theorem Between.begins {id : TaskId} {exchange : Exchange} {point : CallerPoint}
    (between : station.Between number) (stepped : station.step? id = some after)
    (calls : after.call? id = some (exchange, point)) (begun : point.begun = true) :
    after.BeginsWith number exchange point := by
  obtain ⟨earlier, asked, before, turns, _⟩ :=
    between.orderly.opened (between.unbegun id) stepped calls begun
  obtain ⟨_, loaded, carries⟩ := between.calls id exchange earlier asked
  have counted := turns.counts (between.ahead asked)
  rw [Link.Counts, lead_begun exchange begun] at counted
  obtain ⟨frame, deadline, rfl⟩ := turns.begins_at_startLock before begun
  exact ⟨counted, frame, deadline, rfl, turns.carries (between.ahead asked) carries⟩

/-! ### While a transaction is under way -/

section

variable {id : TaskId} {exchange : Exchange}

/-- No transaction is under way with its caller but this one, begun with the number. -/
structure Running (number : UInt8) (id : TaskId) (exchange : Exchange)
    (station : Station slots size capacity) : Prop where
  orderly : station.Orderly
  alone : ∀ other transaction point, station.call? other = some (transaction, point) →
    point.begun = true → other = id ∧ transaction = exchange ∧
      station.link.sequence = number + if exchange.counted then 1 else 0

theorem Orderly.running {point : CallerPoint} (orderly : station.Orderly)
    (unbegun : station.begun id = false) (stepped : station.step? id = some after)
    (asks : after.call? id = some (exchange, point)) (begun : point.begun = true) :
    after.Running station.link.sequence id exchange := by
  have moved : station.move? (.step id) = some after := stepped
  obtain ⟨earlier, asked, before, turns, others⟩ := orderly.opened unbegun stepped asks begun
  refine ⟨orderly.move moved, ?_⟩
  intro other transaction at_ calls running
  by_cases same : other = id
  · subst same
    rw [asks] at calls
    cases calls
    have ahead : station.link.sequence = station.link.sequence + lead exchange earlier := by
      rw [lead_before exchange before, UInt8.add_zero]
    have counted := turns.counts ahead
    rw [Link.Counts, lead_begun exchange begun] at counted
    exact ⟨rfl, rfl, counted⟩
  · rw [others other transaction at_ same calls] at running
    cases running

theorem Running.move {move : Move capacity} (running : station.Running number id exchange)
    (allowed : opensNone station move = true) (moved : station.move? move = some after) :
    after.Running number id exchange := by
  refine ⟨running.orderly.move moved, ?_⟩
  intro other transaction at_ calls begun
  cases running.orderly.callFrom moved calls with
  | gate atGate =>
      rw [atGate] at begun
      cases begun
  | @step earlier steps asked turns =>
      subst steps
      have before := begun_of_opensNone allowed moved asked calls begun
      obtain ⟨mine, kind, sequence⟩ := running.alone other _ earlier asked before
      have ahead : station.link.sequence = number + lead transaction earlier := by
        rw [lead_begun transaction before, kind]
        exact sequence
      have counted := turns.counts ahead
      rw [Link.Counts, lead_begun transaction begun, kind] at counted
      exact ⟨mine, kind, counted⟩
  | stay unmoved before =>
      obtain ⟨mine, kind, sequence⟩ := running.alone other transaction at_ before begun
      have past : at_ ≠ .gate := by
        rintro rfl
        cases begun
      exact ⟨mine, kind,
        (running.orderly.keeps_sequence moved unmoved before past).trans sequence⟩

end

end Station

end UwbRadio

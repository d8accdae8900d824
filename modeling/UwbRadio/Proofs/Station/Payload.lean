import UwbRadio.Proofs.Link.Payload
import UwbRadio.Proofs.Station.Queue

/-!
Payloads are not mixed up. A record is kept of what goes over the bus: which length each
copy was told, and which frame it has then read and had accepted. Whatever happens
between, the bytes that are taken to the sink or processed as an answer are those of the
frame that was accepted into the buffer, and answers leave the queue in the order in
which their frames were accepted.
-/

namespace UwbRadio

open Ranging (Session)

/-- What a reserved buffer is known to have in it. -/
inductive Load
  | accepted (task : TaskId) (payload : Bytes)
  | supplied
  deriving DecidableEq

/-- The frames of a run, as they went over the bus, and where they have gone. -/
structure Cargo where
  told : TaskId → Nat := fun _ => 0
  /-- What has come into each buffer since it was reserved, if anything has. -/
  loaded : Slot → Option Load := fun _ => none
  /-- The buffers that came to the queue and those that were taken from it, each with what
  was in it then, the oldest first. -/
  joined : List (Slot × Option Load) := []
  left : List (Slot × Option Load) := []
  /-- The payloads that have been taken to the sink by the tasks that had accepted them,
  latest first. -/
  delivered : List Bytes := []

namespace Station

variable {slots size capacity : Nat} {station after : Station slots size capacity}

def readsLength (station : Station slots size capacity) (id : TaskId) : Bool :=
  match station.task? id with
  | some (.interrupt (.readLength _)) => true
  | _ => false

/-- The length of a frame as the transaction before this has read it. -/
def lengthRead? (station : Station slots size capacity) : Option Nat :=
  (station.link.bus.lastRead? Register.receiveInfo).map fun bytes =>
    receivedLength (UInt64.ofNat (Bytes.fromLittleEndian bytes))

def frameRead? (station : Station slots size capacity) (length : Nat) : Option LinkFrame :=
  (station.link.bus.lastRead? Register.receiveBuffer).bind fun bytes =>
    decodeFrame? (bytes.take length)

end Station

namespace Cargo

variable {slots size capacity : Nat}

def tell (cargo : Cargo) (station : Station slots size capacity) (move : Move capacity)
    (after : Station slots size capacity) (id : TaskId) : Nat :=
  match move with
  | .step mover =>
      if mover = id ∧ station.readsLength id = true then after.lengthRead?.getD (cargo.told id)
      else cargo.told id
  | _ => cargo.told id

def load (cargo : Cargo) (station : Station slots size capacity) (move : Move capacity)
    (after : Station slots size capacity) (slot : Slot) : Option Load :=
  match move with
  | .step id =>
      if station.accepted? id = some slot then
        (after.frameRead? (cargo.told id)).map fun frame => .accepted id frame.payload
      else
        cargo.loaded slot
  | .push other | .process _ other =>
      if other = slot then (cargo.loaded slot).or (some .supplied) else cargo.loaded slot
  | _ => cargo.loaded slot

/-- The payload that the task takes to the sink: only one that it has accepted itself. -/
def handing (cargo : Cargo) (station : Station slots size capacity) (move : Move capacity) :
    Option Bytes :=
  match move with
  | .step id =>
      match station.task? id with
      | some (.interrupt (.handover slot)) =>
          match cargo.loaded slot with
          | some (.accepted who payload) => if who = id then some payload else none
          | _ => none
      | _ => none
  | _ => none

/-- The record after a move. What a buffer held is forgotten with its release. -/
def note (cargo : Cargo) (station : Station slots size capacity) (move : Move capacity)
    (after : Station slots size capacity) : Cargo :=
  let loaded := fun slot : Slot =>
    if after.link.pool.isOwned slot.index then cargo.load station move after slot else none
  { told := cargo.tell station move after
    loaded
    joined := cargo.joined ++ (station.joining move).toList.map fun slot => (slot, loaded slot)
    left := cargo.left ++
      (station.leaving move after).toList.map fun slot => (slot, loaded slot)
    delivered := (cargo.handing station move).toList ++ cargo.delivered }

end Cargo

namespace Station

variable {slots size capacity : Nat} {station after : Station slots size capacity}
  {cargo : Cargo} {lost : List Slot} {id : TaskId} {slot : Slot} {payload : Bytes}

def cargoOf (station : Station slots size capacity) (moves : List (Move capacity)) : Cargo :=
  recordOf Cargo.note moves {} station

/-- The buffer holds the payload, and no copy will write to it. -/
structure Stows (station : Station slots size capacity) (slot : Slot) (payload : Bytes) :
    Prop where
  owned : station.link.pool.isOwned slot.index = true
  contents : station.link.pool.contents slot = payload
  unphased : station.link.phase.slot? ≠ some slot
  uncopied : ∀ id point, station.task? id = some (.interrupt point) → point.copies? ≠ some slot

/-- Only the event side changes bytes, and only in the buffer that it copies into. -/
theorem Stows.step (stows : station.Stows slot payload) (claiming : station.Claiming)
    (stepped : station.step? id = some after)
    (owned : after.link.pool.isOwned slot.index = true) : after.Stows slot payload := by
  obtain ⟨task, next, given, effect, renames⟩ := claiming.orderly.step_task stepped
  have uncopied (new : ∀ point, next = some (.interrupt point) → point.copies? ≠ some slot) :
      ∀ other point, after.task? other = some (.interrupt point) → point.copies? ≠ some slot := by
    intro other point found
    by_cases same : other = id
    · subst same
      rw [renames.later] at found
      exact new point found
    · rw [renames.stay other same] at found
      exact stows.uncopied other point found
  cases serves : task.servesEvents with
  | false =>
      have unphased : after.link.phase.slot? ≠ some slot := by
        have caller {exchange : Exchange} {point : CallerPoint}
            (turned : after.link.phase.slot? = some slot →
              station.link.phase.slot? = some slot ∨
                station.link.pool.isOwned slot.index = false) :
            after.link.phase.slot? ≠ some slot := by
          intro holds
          rcases turned holds with held | free
          · exact stows.unphased held
          · rw [stows.owned] at free
            cases free
        cases effect.part with
        | @call _ _ exchange point _ _ _ step =>
            exact @caller exchange point (Link.callerTurns_of_eq step).phase_slot
        | @returned _ _ exchange point _ _ _ step =>
            exact @caller exchange point (Link.callerTurns_of_eq step).phase_slot
        | event => cases serves
        | handled => cases serves
        | aside _ _ _ linkAfter => rw [linkAfter]; exact stows.unphased
      refine ⟨owned, ?_, unphased, uncopied ?_⟩
      · rw [(effect.sameBytes serves).contents slot]
        exact stows.contents
      · intro point becomes
        exact (effect.next_idle serves point becomes).elim
  | true =>
      cases task with
      | interrupt point =>
          have apart := stows.uncopied id point renames.before
          rcases effect.of_interrupt with ⟨later, rfl, turns⟩ | ⟨result, rfl, turns⟩
          · have kept : _ = _ := turns.contents_elsewhere apart
            refine ⟨owned, kept.trans stows.contents,
              fun holds => stows.unphased (turns.phase_slot holds), uncopied ?_⟩
            rintro point ⟨⟩ copies
            rcases turns.copies copies with own | phased
            · exact apart own
            · exact stows.unphased phased
          · have kept : _ = _ := turns.contents_elsewhere apart
            exact ⟨owned, kept.trans stows.contents,
              fun holds => stows.unphased (turns.phase_slot holds), uncopied nofun⟩
      | _ => cases serves

theorem Stows.move {move : Move capacity} (stows : station.Stows slot payload)
    (claiming : station.Claiming) (moved : station.move? move = some after)
    (owned : after.link.pool.isOwned slot.index = true) : after.Stows slot payload := by
  cases claiming.orderly.happens moved with
  | step effect renames => exact stows.step claiming moved owned
  | @cancel id task linkAfter renames =>
      refine ⟨owned, ?_, ?_, ?_⟩
      · rw [linkAfter]; exact stows.contents
      · rw [linkAfter]; exact stows.unphased
      · intro other point found
        refine stows.uncopied other point ?_
        by_cases same : other = id
        · subst same
          rw [renames.later] at found
          cases found
        · rw [renames.stay other same] at found
          exact found
  | @call move id task names outside quiet linkAfter renames =>
      refine ⟨owned, ?_, ?_, ?_⟩
      · rw [linkAfter]; exact stows.contents
      · rw [linkAfter]; exact stows.unphased
      · intro other point found copies
        by_cases same : other = id
        · subst same
          rw [renames.later] at found
          cases found
          have held := InterruptPoint.slot?_of_copies? copies
          have empty : point.slot? = none := quiet rfl
          rw [empty] at held
          cases held
        · rw [renames.stay other same] at found
          exact stows.uncopied other point found copies
  | action noTask acted same =>
      obtain ⟨bus, pool, queue, linkAfter⟩ := acted.frame
      refine ⟨owned, ?_, ?_, ?_⟩
      · rw [acted.sameBytes.contents slot]; exact stows.contents
      · rw [linkAfter]; exact stows.unphased
      · intro other point found
        rw [same] at found
        exact stows.uncopied other point found

/-- When a frame is accepted, its payload is in the buffer and stays there. -/
theorem Balances.stows (balances : station.Balances lost) (claiming : station.Claiming)
    (told : ∀ point length, station.task? id = some (.interrupt point) →
      point.length? = some length → cargo.told id = length)
    (accepted : station.accepted? id = some slot) (stepped : station.step? id = some after)
    (owned : after.link.pool.isOwned slot.index = true) :
    ∃ frame, after.frameRead? (cargo.told id) = some frame ∧ after.Stows slot frame.payload := by
  obtain ⟨length, found, accepts⟩ := accepted?_eq_some accepted
  have own := claiming.claims id _ found
  obtain ⟨task, next, given, effect, renames⟩ := claiming.orderly.step_task stepped
  have same : task = .interrupt (.readFrame slot length) :=
    Option.some.inj (renames.before.symm.trans found)
  subst same
  have others : ∀ other point, other ≠ id → after.task? other = some (.interrupt point) →
      point.copies? ≠ some slot := by
    intro other point apart present copies
    rw [renames.stay other apart] at present
    exact (balances.alone found rfl).2.2 other _ apart present
      (InterruptPoint.slot?_of_copies? copies)
  have loaded {turn : InterruptTurn slots size}
      (turns : Link.InterruptTurns station.link id (.readFrame slot length) turn)
      (reached : turn.after? = some after.link)
      (itself : ∀ point, next = some (.interrupt point) → point.copies? ≠ some slot) :
      ∃ frame, after.frameRead? (cargo.told id) = some frame ∧
        after.Stows slot frame.payload := by
    obtain ⟨bytes, frame, performed, decoded, contents, phase, _⟩ :=
      (turns.loads own accepts).holds reached
    have read := Register.readPart_lastRead? rfl performed
    have fits := Register.readPart_length performed
    have unphased : after.link.phase.slot? ≠ some slot := by
      rw [phase]
      exact (Option.some_ne_none slot).symm
    refine ⟨frame, ?_, owned, contents, unphased, ?_⟩
    · rw [frameRead?, read, Option.bind_some, told _ length found rfl, ← fits, List.take_length]
      exact decoded
    · intro other point present
      by_cases same : other = id
      · subst same
        rw [renames.later] at present
        exact itself point present
      · exact others other point same present
  rcases effect.of_interrupt with ⟨later, rfl, turns⟩ | ⟨result, rfl, turns⟩
  · refine loaded turns rfl ?_
    rintro point ⟨⟩ copies
    rcases turns.copy_goes rfl own with waits | ⟨_, _, _, _, _, refused⟩ |
      ⟨_, _, ⟨_, goes⟩ | ⟨refused, _⟩⟩
    · cases waits
    · rw [accepts] at refused
      cases refused
    · cases goes
      cases copies
    · rw [accepts] at refused
      cases refused
  · exact loaded turns rfl nofun

/-! ### The record of a run -/

/-- The record has what there is: the lengths that the copies know, the payloads in the
buffers, those that are on their way to the sink or are there, and the queue. -/
structure Carrying (station : Station slots size capacity) (cargo : Cargo) : Prop where
  balances : ∃ lost, station.Balances lost
  claiming : station.Claiming
  told : ∀ id point length, station.task? id = some (.interrupt point) →
    point.length? = some length → cargo.told id = length
  stows : ∀ slot who payload, cargo.loaded slot = some (.accepted who payload) →
    station.Stows slot payload
  hands : ∀ id slot, station.task? id = some (.interrupt (.handover slot)) →
    ∃ payload, cargo.loaded slot = some (.accepted id payload)
  order : cargo.joined =
    cargo.left ++ station.queued.map fun slot => (slot, cargo.loaded slot)
  arrived : ∀ entry ∈ cargo.joined, entry.2.isSome = true
  processed : ∀ id item, station.task? id = some (.process (.buffer item)) →
    (cargo.loaded item.slot).isSome = true
  delivered : station.link.delivered = cargo.delivered

theorem carrying_of_fresh (fresh : station.Fresh) : station.Carrying {} := by
  have queueing := queueing_of_fresh fresh
  refine ⟨queueing.balances, queueing.claiming, ?_, nofun, ?_, ?_, nofun, ?_, ?_⟩
  · obtain ⟨device, config, handler, link, _, rfl⟩ := fresh
    intro id point length found
    cases found
  · obtain ⟨device, config, handler, link, _, rfl⟩ := fresh
    intro id slot found
    cases found
  · have empty : [] = [] ++ station.queued := queueing.order
    rw [List.nil_append] at empty
    rw [← empty]
    rfl
  · obtain ⟨device, config, handler, link, _, rfl⟩ := fresh
    intro id item found
    cases found
  · obtain ⟨bus, sequence, info, config, handler, rfl⟩ := fresh.eq_ofLink
    rfl

theorem Cargo.tell_unstepped {move : Move capacity} (unstepped : move ≠ .step id) :
    cargo.tell station move after id = cargo.told id := by
  cases move with
  | step other => exact if_neg fun both => unstepped (congrArg Move.step both.1)
  | _ => rfl

theorem Carrying.told_move {move : Move capacity} (carrying : station.Carrying cargo)
    (moved : station.move? move = some after) :
    ∀ id point length, after.task? id = some (.interrupt point) → point.length? = some length →
      cargo.tell station move after id = length := by
  intro id point length found knows
  cases carrying.claiming.orderly.comesFrom moved found with
  | name names absent new =>
      rcases new with starts | ⟨_, impossible⟩
      · rw [InterruptPoint.length?_of_slot? (Task.slot?_of_starts starts)] at knows
        cases knows
      · cases impossible
  | @step earlier given mine before effect =>
      subst mine
      obtain ⟨at_, rfl, turns⟩ := effect.to_interrupt
      rcases turns.lengths knows with knew | ⟨slot, bytes, rfl, read, rfl⟩
      · rw [← carrying.told id at_ length before knew]
        refine if_neg fun both => ?_
        have reads := both.2
        rw [readsLength, before] at reads
        cases at_ with
        | readLength => cases knew
        | _ => cases reads
      · have reads : station.readsLength id = true := by rw [readsLength, before]
        rw [Cargo.tell, if_pos ⟨rfl, reads⟩, lengthRead?, read]
        rfl
  | stay unmoved before =>
      rw [Cargo.tell_unstepped unmoved]
      exact carrying.told id point length before knows

theorem Cargo.note_loaded {move : Move capacity}
    (owned : after.link.pool.isOwned slot.index = true) :
    (cargo.note station move after).loaded slot = cargo.load station move after slot :=
  if_pos owned

theorem Cargo.load_kept {move : Move capacity} {load : Load}
    (loaded : cargo.loaded slot = some load)
    (unaccepted : ∀ id, move = .step id → station.accepted? id ≠ some slot) :
    cargo.load station move after slot = some load := by
  have supplied (other : Slot) : (if other = slot then (cargo.loaded slot).or (some .supplied)
      else cargo.loaded slot) = some load := by
    rw [loaded, Option.some_or, ite_self]
  cases move with
  | step id => exact (if_neg (unaccepted id rfl)).trans loaded
  | push other => exact supplied other
  | process id other => exact supplied other
  | _ => exact loaded

theorem Carrying.stows_move {move : Move capacity} (carrying : station.Carrying cargo)
    (moved : station.move? move = some after) {who : TaskId}
    (loaded : (cargo.note station move after).loaded slot = some (.accepted who payload)) :
    after.Stows slot payload := by
  obtain ⟨lost, balances⟩ := carrying.balances
  have loads : (if after.link.pool.isOwned slot.index = true then
      cargo.load station move after slot else none) = some (.accepted who payload) := loaded
  rw [Option.ite_none_right_eq_some] at loads
  obtain ⟨owned, loads⟩ := loads
  have earlier (before : cargo.loaded slot = some (.accepted who payload)) :
      after.Stows slot payload :=
    (carrying.stows slot who payload before).move carrying.claiming moved owned
  have supplied (other : Slot) (given : (if other = slot then
      (cargo.loaded slot).or (some .supplied) else cargo.loaded slot) =
        some (.accepted who payload)) : after.Stows slot payload := by
    split at given
    · rcases Option.or_eq_some_iff.mp given with before | ⟨_, new⟩
      · exact earlier before
      · cases new
    · exact earlier given
  cases move with
  | step id =>
      simp only [Cargo.load] at loads
      split at loads
      · rename_i accepted
        obtain ⟨frame, read, stows⟩ := balances.stows carrying.claiming (carrying.told id)
          accepted moved owned
        rw [read] at loads
        cases loads
        exact stows
      · exact earlier loads
  | push other => exact supplied other loads
  | process id other => exact supplied other loads
  | _ => exact earlier loads

theorem Carrying.note_accepted (carrying : station.Carrying cargo)
    (stepped : station.step? id = some after)
    (owned : after.link.pool.isOwned slot.index = true)
    (accepted : station.accepted? id = some slot) :
    ∃ payload, (cargo.note station (.step id) after).loaded slot =
      some (.accepted id payload) := by
  obtain ⟨lost, balances⟩ := carrying.balances
  obtain ⟨frame, read, _⟩ := balances.stows carrying.claiming (carrying.told id) accepted
    stepped owned
  refine ⟨frame.payload, ?_⟩
  rw [Cargo.note_loaded owned, Cargo.load, if_pos accepted, read]
  rfl

theorem Carrying.note_in_hand {move : Move capacity} {task : Task} {load : Load}
    (carrying : station.Carrying cargo) (moved : station.move? move = some after)
    (before : station.task? id = some task) (holds : task.slot? = some slot)
    (idle : ∀ length, task ≠ .interrupt (.readFrame slot length))
    (loaded : cargo.loaded slot = some load) (later : after.task? id = some task) :
    (cargo.note station move after).loaded slot = some load := by
  obtain ⟨lost, balances⟩ := carrying.balances
  have owned := (balances.move moved).owned (.inr (.inr (mem_inHands (mem_tasks later) holds)))
  rw [Cargo.note_loaded owned]
  refine Cargo.load_kept loaded ?_
  rintro mover rfl accepted
  obtain ⟨length, copying, _⟩ := accepted?_eq_some accepted
  by_cases same : mover = id
  · subst same
    exact idle length (Option.some.inj (before.symm.trans copying))
  · exact (balances.alone before holds).2.2 mover _ same copying rfl

theorem Carrying.hands_move {move : Move capacity} (carrying : station.Carrying cargo)
    (moved : station.move? move = some after) :
    ∀ id slot, after.task? id = some (.interrupt (.handover slot)) →
      ∃ payload, (cargo.note station move after).loaded slot = some (.accepted id payload) := by
  obtain ⟨lost, balances⟩ := carrying.balances
  intro id slot found
  cases carrying.claiming.orderly.comesFrom moved found with
  | name names absent new =>
      rcases new with starts | ⟨_, impossible⟩
      · cases starts
      · cases impossible
  | @step earlier given mine before effect =>
      subst mine
      obtain ⟨point, rfl, turns⟩ := effect.to_interrupt
      obtain ⟨accepts, copies⟩ := turns.hands (carrying.claiming.claims id point before) rfl
      have held := (balances.move moved).owned (.inr (.inr (mem_inHands (mem_tasks found) rfl)))
      refine carrying.note_accepted moved held ?_
      have accepts : (Task.interrupt point).accepts station.link = true := accepts
      rw [accepted?_of_accepts before, if_pos accepts]
      exact InterruptPoint.slot?_of_copies? copies
  | stay unmoved before =>
      obtain ⟨payload, loaded⟩ := carrying.hands id slot before
      exact ⟨payload, carrying.note_in_hand moved before rfl nofun loaded found⟩

theorem holder_of_leaving {move : Move capacity} (moved : station.move? move = some after)
    (leaves : station.leaving move after = some slot) :
    slot ∈ after.held ∨ slot ∈ inHands after.tasks := by
  cases move with
  | step id =>
      simp only [leaving, Option.ite_none_right_eq_some] at leaves
      obtain ⟨_, leaves⟩ := leaves
      obtain ⟨task, found, holds⟩ := Option.bind_eq_some_iff.mp leaves
      exact .inr (mem_inHands (mem_tasks found) holds)
  | pop =>
      cases moved
      have popped : station.popQueued.1 = some slot := leaves
      unfold popQueued at popped ⊢
      split at popped
      · cases popped
      · cases popped
        exact .inl List.mem_cons_self
  | _ => cases leaves

theorem Carrying.queued_loaded (carrying : station.Carrying cargo)
    (waits : slot ∈ station.queued) : ∃ load, cargo.loaded slot = some load := by
  have noted : (slot, cargo.loaded slot) ∈ cargo.joined := by
    rw [carrying.order]
    exact List.mem_append_right _ (List.mem_map_of_mem waits)
  exact Option.isSome_iff_exists.mp (carrying.arrived _ noted)

theorem Balances.owned_of_queue {move : Move capacity} (balances : station.Balances lost)
    (claiming : station.Claiming) (moved : station.move? move = some after)
    (through : slot ∈ station.queued ++ (station.joining move).toList) :
    after.link.pool.isOwned slot.index = true := by
  have later := balances.move moved
  rw [← balances.queue_move claiming moved] at through
  rcases List.mem_append.mp through with leaves | waits
  · exact later.owned (.inr (holder_of_leaving moved (Option.mem_toList.mp leaves)))
  · exact later.owned (.inl (List.mem_append_right _ waits))

theorem Carrying.note_queued {move : Move capacity} (carrying : station.Carrying cargo)
    (moved : station.move? move = some after) (waits : slot ∈ station.queued) :
    (cargo.note station move after).loaded slot = cargo.loaded slot := by
  obtain ⟨lost, balances⟩ := carrying.balances
  obtain ⟨load, loaded⟩ := carrying.queued_loaded waits
  have owned := balances.owned_of_queue carrying.claiming moved (List.mem_append_left _ waits)
  rw [Cargo.note_loaded owned, loaded]
  refine Cargo.load_kept loaded ?_
  rintro id rfl accepted
  obtain ⟨length, found, _⟩ := accepted?_eq_some accepted
  exact (balances.room found rfl).2 waits

theorem Carrying.order_move {move : Move capacity} (carrying : station.Carrying cargo)
    (moved : station.move? move = some after) :
    (cargo.note station move after).joined = (cargo.note station move after).left ++
      after.queued.map fun slot => (slot, (cargo.note station move after).loaded slot) := by
  obtain ⟨lost, balances⟩ := carrying.balances
  have law := balances.queue_move carrying.claiming moved
  generalize now : (cargo.note station move after).loaded = loaded
  have same : station.queued.map (fun slot => (slot, cargo.loaded slot)) =
      station.queued.map fun slot => (slot, loaded slot) := by
    apply List.map_congr_left
    intro slot waits
    rw [← now, carrying.note_queued moved waits]
  have joined : (cargo.note station move after).joined = cargo.joined ++
      (station.joining move).toList.map fun slot => (slot, loaded slot) := by
    rw [← now]
    rfl
  have left : (cargo.note station move after).left = cargo.left ++
      (station.leaving move after).toList.map fun slot => (slot, loaded slot) := by
    rw [← now]
    rfl
  rw [joined, left, carrying.order, same, List.append_assoc, List.append_assoc,
    ← List.map_append, ← List.map_append, law]

theorem Carrying.arrived_move {move : Move capacity} (carrying : station.Carrying cargo)
    (moved : station.move? move = some after) :
    ∀ entry ∈ (cargo.note station move after).joined, entry.2.isSome = true := by
  obtain ⟨lost, balances⟩ := carrying.balances
  intro entry member
  rcases List.mem_append.mp member with early | new
  · exact carrying.arrived entry early
  · obtain ⟨slot, joins, rfl⟩ := List.mem_map.mp new
    have owned := balances.owned_of_queue carrying.claiming moved (List.mem_append_right _ joins)
    have joins := Option.mem_toList.mp joins
    dsimp only
    cases move with
    | step id =>
        simp only [joining, Option.ite_none_right_eq_some] at joins
        obtain ⟨payload, loaded⟩ := carrying.note_accepted moved owned joins.2
        have noted : (cargo.note station (.step id) after).loaded slot =
            some (.accepted id payload) := loaded
        rw [Cargo.note_loaded owned] at noted
        rw [if_pos owned, noted]
        rfl
    | push pushed =>
        simp only [joining, Option.ite_none_right_eq_some] at joins
        rw [if_pos owned, Cargo.load, if_pos (Option.some.inj joins.2)]
        exact Option.isSome_or.trans (Bool.or_true _)
    | _ => cases joins

theorem Carrying.processed_move {move : Move capacity} (carrying : station.Carrying cargo)
    (moved : station.move? move = some after) :
    ∀ id item, after.task? id = some (.process (.buffer item)) →
      ((cargo.note station move after).loaded item.slot).isSome = true := by
  obtain ⟨lost, balances⟩ := carrying.balances
  intro id item found
  have held := (balances.move moved).owned (.inr (.inr (mem_inHands (mem_tasks found) rfl)))
  cases carrying.claiming.orderly.comesFrom moved found with
  | name names absent new =>
      rcases named_task moved names absent found with ⟨_, starts⟩ | ⟨slot, rfl, taken⟩
      · cases starts
      · cases taken
        rw [Cargo.note_loaded held, Cargo.load, if_pos rfl]
        exact Option.isSome_or.trans (Bool.or_true _)
  | @step earlier given mine before effect =>
      subst mine
      cases effect with
      | call _ _ goesOn => cases goesOn
      | returned _ _ rests => cases (rests _ rfl).2.1
      | @popped item queue _ popped _ =>
          have waits : item.slot ∈ station.queued := by
            unfold Ranging.Queue.pop? at popped
            split at popped
            · cases popped
            · rename_i first rest items
              cases popped
              rw [queued, items]
              exact List.mem_cons_self
          obtain ⟨load, loaded⟩ := carrying.queued_loaded waits
          rw [carrying.note_queued moved waits, loaded]
          rfl
      | quiet _ _ _ rests => cases (rests _ rfl).2.1
  | stay unmoved before =>
      obtain ⟨load, loaded⟩ := Option.isSome_iff_exists.mp (carrying.processed id item before)
      have idle (length : Nat) :
          Task.process (.buffer item) ≠ .interrupt (.readFrame item.slot length) := by
        intro same
        cases same
      rw [carrying.note_in_hand moved before rfl idle loaded found]
      rfl

theorem Cargo.handing_of_silent {task : Task} (found : station.task? id = some task)
    (silent : task.hands = false) : cargo.handing station (.step id) = none := by
  unfold Cargo.handing
  dsimp only
  rw [found]
  cases task with
  | interrupt point =>
      cases point with
      | handover slot => cases silent
      | _ => rfl
  | _ => rfl

theorem Cargo.handing_of_handover (found : station.task? id = some (.interrupt (.handover slot)))
    (loaded : cargo.loaded slot = some (.accepted id payload)) :
    cargo.handing station (.step id) = some payload := by
  unfold Cargo.handing
  dsimp only
  rw [found]
  dsimp only
  rw [loaded]
  exact if_pos rfl

theorem Cargo.handing_unstepped {move : Move capacity} (unstepped : ∀ id, move ≠ .step id) :
    cargo.handing station move = none := by
  cases move with
  | step id => exact absurd rfl (unstepped id)
  | _ => rfl

theorem Carrying.delivered_move {move : Move capacity} (carrying : station.Carrying cargo)
    (moved : station.move? move = some after) :
    after.link.delivered = (cargo.note station move after).delivered := by
  have nothing (silent : cargo.handing station move = none)
      (same : after.link.delivered = station.link.delivered) :
      after.link.delivered = (cargo.note station move after).delivered := by
    have noted : (cargo.note station move after).delivered =
        (cargo.handing station move).toList ++ cargo.delivered := rfl
    rw [noted, silent, same]
    exact carrying.delivered
  cases carrying.claiming.orderly.happens moved with
  | @step id task next given effect renames =>
      cases serves : task.servesEvents with
      | false =>
          have silent := Task.hands_of_no_event serves
          exact nothing (Cargo.handing_of_silent renames.before silent)
            (effect.keeps_delivered serves).2
      | true =>
          cases task with
          | interrupt point =>
              have delivers : after.link.delivered =
                  (station.link.handing? point).toList ++ station.link.delivered := by
                rcases effect.of_interrupt with ⟨later, _, turns⟩ | ⟨result, _, turns⟩
                · exact turns.delivers
                · exact turns.delivers
              cases point with
              | handover slot =>
                  obtain ⟨payload, loaded⟩ := carrying.hands id slot renames.before
                  have handing := Cargo.handing_of_handover renames.before loaded
                  have noted : (cargo.note station (.step id) after).delivered =
                      (cargo.handing station (.step id)).toList ++ cargo.delivered := rfl
                  rw [noted, handing, delivers, carrying.delivered, Link.handing?,
                    (carrying.stows slot id payload loaded).contents]
              | _ => exact nothing (Cargo.handing_of_silent renames.before rfl) delivers
          | _ => cases serves
  | cancel linkAfter => exact nothing rfl (by rw [linkAfter]; rfl)
  | @call move id task names _ _ linkAfter =>
      exact nothing (Cargo.handing_unstepped (Move.ne_step_of_names names)) (by rw [linkAfter])
  | action noTask acted =>
      obtain ⟨bus, pool, queue, linkAfter⟩ := acted.frame
      exact nothing (Cargo.handing_unstepped (Move.ne_step_of_noTask noTask)) (by rw [linkAfter])

theorem Carrying.move {move : Move capacity} (carrying : station.Carrying cargo)
    (moved : station.move? move = some after) :
    after.Carrying (cargo.note station move after) where
  balances := by
    obtain ⟨lost, balances⟩ := carrying.balances
    exact ⟨_, balances.move moved⟩
  claiming := carrying.claiming.move moved
  told := carrying.told_move moved
  stows _ _ _ loaded := carrying.stows_move moved loaded
  hands := carrying.hands_move moved
  order := carrying.order_move moved
  arrived := carrying.arrived_move moved
  processed := carrying.processed_move moved
  delivered := carrying.delivered_move moved

def answered (station : Station slots size capacity) (id : TaskId) (item : Ranging.WorkItem)
    (session : Session capacity) : Station slots size capacity :=
  let (result, session) := session.process (station.link.pool.contents item.slot)
  (station.setLinked { link := station.link.releaseSlot item.slot, session }).finishTask id
    (.processed result)

theorem step?_process {item : Ranging.WorkItem} {session : Session capacity}
    (found : station.task? id = some (.process (.buffer item)))
    (opened : station.session = some session) :
    station.step? id =
      if station.link.pool.accessible item.slot then some (station.answered id item session)
      else none := by
  unfold step?
  rw [found]
  simp only [turn, sessionTurn, opened, Ranging.LinkedSession.processStep]
  by_cases free : station.link.pool.accessible item.slot = true
  · simp only [free, if_true]
    rfl
  · simp only [free]
    rfl

theorem processes {item : Ranging.WorkItem} {session : Session capacity}
    (found : station.task? id = some (.process (.buffer item)))
    (opened : station.session = some session) (stepped : station.step? id = some after) :
    after.session = some (session.process (station.link.pool.contents item.slot)).2 ∧
      after.finished.head? = some (id, station.now,
        .processed (session.process (station.link.pool.contents item.slot)).1) := by
  rw [step?_process found opened] at stepped
  split at stepped
  · cases stepped
    exact ⟨rfl, rfl⟩
  · cases stepped

/-- What is delivered to the sink are the payloads of the frames that the delivering tasks
have accepted, as they went over the bus. What is processed of a buffer is the payload of
the frame accepted into it, unless the application has supplied the buffer. And whatever
comes to the queue, each answer with its payload, leaves it in the same order. -/
theorem payloads_stay_with_their_frames {rule : Rule slots size capacity}
    {reached : Station slots size capacity} {moves : List (Move capacity)}
    (fresh : station.Fresh) (ran : run? rule moves station = some reached) :
    reached.link.delivered = (station.cargoOf moves).delivered ∧
    (∀ id slot, reached.task? id = some (.interrupt (.handover slot)) →
      ∃ payload, (station.cargoOf moves).loaded slot = some (.accepted id payload)) ∧
    (∀ id item session after, reached.task? id = some (.process (.buffer item)) →
      reached.session = some session → reached.step? id = some after →
        (station.cargoOf moves).loaded item.slot = some .supplied ∨
        ∃ who payload,
          (station.cargoOf moves).loaded item.slot = some (.accepted who payload) ∧
          after.session = some (session.process payload).2 ∧
          after.finished.head? =
            some (id, reached.now, .processed (session.process payload).1)) ∧
    (∀ slot who payload, (station.cargoOf moves).loaded slot = some (.accepted who payload) →
      reached.link.pool.contents slot = payload) ∧
    (station.cargoOf moves).joined = (station.cargoOf moves).left ++
      reached.queued.map (fun slot => (slot, (station.cargoOf moves).loaded slot)) ∧
    ∀ entry ∈ (station.cargoOf moves).joined, entry.2.isSome = true := by
  have carrying : reached.Carrying (station.cargoOf moves) :=
    run?_invariant Cargo.note (fun cargo station => station.Carrying cargo)
      (fun _ _ _ _ carrying _ moved => carrying.move moved) moves {} (carrying_of_fresh fresh) ran
  refine ⟨carrying.delivered, carrying.hands, ?_,
    fun slot who payload loaded => (carrying.stows slot who payload loaded).contents,
    carrying.order, carrying.arrived⟩
  intro id item session after found opened stepped
  obtain ⟨load, loaded⟩ := Option.isSome_iff_exists.mp (carrying.processed id item found)
  cases load with
  | supplied => exact .inl loaded
  | accepted who payload =>
      have done := processes found opened stepped
      rw [(carrying.stows item.slot who payload loaded).contents] at done
      exact .inr ⟨who, payload, loaded, done⟩

def arrivingNext : Bytes :=
  LinkHeader.frame { sequence := 8, panId := 0x1234, source := 1, destination := some 2 } [4, 5]

/-- An answer is taken out of the queue, and while it is held the next one comes in. -/
def differentAnswers : List (Move 0) :=
  [[.disturb (.registers (RegisterFile.powerUp.receive arriving))], hears 1 2,
    [.step 2, .step 1, .pop, .disturb (.registers (RegisterFile.powerUp.receive arrivingNext))],
    hears 3 4, [.step 4]].flatten

theorem answers_keep_their_payloads :
    ∃ station reached : Station 2 127 0,
      station.Fresh ∧ run? dropsNothing differentAnswers station = some reached ∧
        reached.held = [⟨0⟩] ∧ reached.link.pool.contents ⟨0⟩ = [1, 2, 3] ∧
        (station.cargoOf differentAnswers).left ++
            reached.queued.map (fun slot =>
              (slot, (station.cargoOf differentAnswers).loaded slot)) =
          [(⟨0⟩, some (.accepted 2 [1, 2, 3])), (⟨1⟩, some (.accepted 4 [4, 5]))] := by
  have evaluated : (do
      let station : Station 2 127 0 ← open? Device.unused {} .ranging
      let reached ← run? dropsNothing differentAnswers station
      let cargo := station.cargoOf differentAnswers
      return (reached.held, cargo.loaded ⟨0⟩, cargo.joined)) =
      some ([⟨0⟩], some (.accepted 2 [1, 2, 3]), [(⟨0⟩, some (.accepted 2 [1, 2, 3])),
        (⟨1⟩, some (.accepted 4 [4, 5]))]) := by
    decide +kernel
  obtain ⟨station, opened, evaluated⟩ := Option.bind_eq_some_iff.mp evaluated
  obtain ⟨reached, ran, evaluated⟩ := Option.bind_eq_some_iff.mp evaluated
  have seen := Option.some.inj evaluated
  simp only [Prod.mk.injEq] at seen
  obtain ⟨held, loaded, joined⟩ := seen
  have fresh := fresh_of_open? opened
  obtain ⟨_, _, _, contents, order, _⟩ := payloads_stay_with_their_frames fresh ran
  exact ⟨station, reached, fresh, ran, held, contents ⟨0⟩ 2 [1, 2, 3] loaded,
    order.symm.trans joined⟩

end Station

end UwbRadio

import UwbRadio.Proofs.Link.Writes
import UwbRadio.Proofs.Station.Tasks

/-!
Who writes to the device. A move writes at most once, and what it writes is what the
task that moves was about to write.
-/

namespace UwbRadio

def Task.writing? (task : Task) : Option Written :=
  match task with
  | .interrupt point => point.writing?
  | task => task.call?.bind fun call => call.2.writing?

theorem Task.writing?_of_call? {task : Task} {exchange : Exchange} {point : CallerPoint}
    (calls : task.call? = some (exchange, point)) : task.writing? = point.writing? := by
  cases task with
  | interrupt => cases calls
  | _ => exact congrArg (fun found => found.bind fun call => call.2.writing?) calls

theorem Task.writing?_of_neither {task : Task} (noCall : task.call? = none)
    (noEvent : task.servesEvents = false) : task.writing? = none := by
  cases task with
  | interrupt => cases noEvent
  | _ => exact congrArg (fun found => found.bind fun call => call.2.writing?) noCall

theorem Disturbance.alter_written (disturbance : Disturbance) (bus : Bus) :
    (disturbance.alter bus).written = bus.written := by
  cases disturbance <;> rfl

theorem Effect.writes {slots size : Nat} {link after : Link slots size} {id : TaskId}
    {task : Task} {next : Option Task} {given : Option Slot}
    (effect : Effect link id task after next given) : link.Writes after task.writing? := by
  cases effect.part with
  | call calls stepped =>
      rw [Task.writing?_of_call? calls]
      exact (Link.callerTurns_of_eq stepped).writes
  | returned calls stepped =>
      rw [Task.writing?_of_call? calls]
      exact (Link.callerTurns_of_eq stepped).writes
  | event stepped => exact (Link.interruptTurns_of_eq stepped).writes
  | handled stepped => exact (Link.interruptTurns_of_eq stepped).writes
  | aside _ _ _ linkAfter => exact .inl (by rw [linkAfter])

theorem Action.written_eq {slots size : Nat} {link after : Link slots size}
    {held later : List Slot} (action : Action link held after later) :
    after.bus.written = link.bus.written := by
  cases action with
  | disturbed disturbance => exact disturbance.alter_written link.bus
  | _ => rfl

namespace Station

variable {slots size capacity : Nat} {station after : Station slots size capacity}

theorem Orderly.writes {move : Move capacity} (orderly : station.Orderly)
    (moved : station.move? move = some after) :
    after.link.bus.written = station.link.bus.written ∨
      ∃ id task, move = .step id ∧ station.task? id = some task ∧
        after.link.bus.written = task.writing?.toList ++ station.link.bus.written := by
  cases orderly.happens moved with
  | @step id task next given effect renames =>
      rcases effect.writes with same | written
      · exact .inl same
      · exact .inr ⟨id, task, rfl, renames.before, written⟩
  | cancel linkAfter => exact .inl (by rw [linkAfter]; rfl)
  | call names outside quiet linkAfter => exact .inl (by rw [linkAfter])
  | action noTask acted => exact .inl acted.written_eq

/-- Whoever steps has written what it was about to write. -/
theorem Orderly.wrote {id : TaskId} {write : Written} (orderly : station.Orderly)
    (moved : station.move? (.step id) = some after)
    (written : after.link.bus.written = write :: station.link.bus.written) :
    ∃ task, station.task? id = some task ∧ task.writing? = some write := by
  rcases orderly.writes moved with same | ⟨mover, task, stepped, found, wrote⟩
  · rw [same] at written
    exact absurd (congrArg List.length written) (by simp)
  · cases stepped
    rw [wrote] at written
    refine ⟨task, found, ?_⟩
    have own : task.writing?.toList = [write] := List.append_cancel_right written
    exact Option.toList_eq_singleton_iff.mp own

/-- What has been written between the two stations, latest first. -/
def wrote (earlier station : Station slots size capacity) : List Written :=
  station.link.bus.written.take
    (station.link.bus.written.length - earlier.link.bus.written.length)

theorem wrote_eq {earlier : Station slots size capacity} {writes : List Written}
    (written : station.link.bus.written = writes ++ earlier.link.bus.written) :
    earlier.wrote station = writes := by
  rw [wrote, written, List.length_append, Nat.add_sub_cancel, List.take_left]

/-- Between the two stations these writes went through, latest first. -/
def WrittenSince (earlier station : Station slots size capacity) (writes : List Written) : Prop :=
  station.link.bus.written = writes ++ earlier.link.bus.written

theorem WrittenSince.move {earlier : Station slots size capacity} {writes : List Written}
    {move : Move capacity} (since : WrittenSince earlier station writes)
    (orderly : station.Orderly) (moved : station.move? move = some after) :
    ∃ new, WrittenSince earlier after (new ++ writes) := by
  rcases orderly.writes moved with same | ⟨id, task, _, _, written⟩
  · exact ⟨[], same.trans since⟩
  · refine ⟨task.writing?.toList, ?_⟩
    rw [WrittenSince, written, since, List.append_assoc]

theorem exists_cons_of_tail {writes before : List Written} {holds : Written → Bool}
    (first : writes.head?.any holds = true) (rest : writes.tail = before) :
    ∃ write, writes = write :: before ∧ holds write = true := by
  cases writes with
  | nil => cases first
  | cons write others => exact ⟨write, by rw [← rest]; rfl, first⟩

end Station

end UwbRadio

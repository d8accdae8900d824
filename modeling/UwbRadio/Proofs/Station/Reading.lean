import UwbRadio.Proofs.Link.Reading
import UwbRadio.Proofs.Station.Calls

/-!
Every copy that reads a frame has the buffer to itself, in every run, with any calls,
copies and events besides, and whatever is dropped.
-/

namespace UwbRadio

theorem Effect.sameBytes {slots size : Nat} {link after : Link slots size} {id : TaskId}
    {task : Task} {next : Option Task} {given : Option Slot}
    (effect : Effect link id task after next given) (noEvent : task.servesEvents = false) :
    link.pool.SameBytes after.pool := by
  cases effect with
  | call calls stepped => exact (Link.callerTurns_of_eq stepped).sameBytes
  | returned calls stepped => exact (Link.callerTurns_of_eq stepped).sameBytes
  | event => cases noEvent
  | handled => cases noEvent
  | reserved reserved linkAfter =>
      rw [linkAfter]
      exact (Pool.attempts_of_reserve reserved).sameBytes
  | popped popped linkAfter => rw [linkAfter]; exact ⟨rfl, rfl⟩
  | processed free linkAfter =>
      rw [linkAfter]
      exact Pool.sameBytes_release link.pool _
  | quiet _ _ _ _ linkAfter => rw [linkAfter]; exact ⟨rfl, rfl⟩

theorem Action.sameBytes {slots size : Nat} {link after : Link slots size}
    {held later : List Slot} (action : Action link held after later) :
    link.pool.SameBytes after.pool := by
  have reserves {found : Option Slot} {pool : Pool slots size}
      (reserved : link.pool.tryReserve = (found, pool)) : link.pool.SameBytes pool :=
    (Pool.attempts_of_tryReserve reserved).sameBytes
  cases action with
  | reserved reserved => exact reserves reserved
  | exhausted exhausted => exact reserves exhausted
  | released => exact Pool.sameBytes_release link.pool _
  | _ => exact ⟨rfl, rfl⟩

theorem Link.Claimed.without {slots size : Nat} {link : Link slots size} {id owner : TaskId}
    {slot : Slot} {length : Nat} (claimed : link.Claimed owner slot length) (apart : id ≠ owner) :
    (link.without id).Claimed owner slot length where
  locked := by
    have mapped : (link.without id).pool.locks[slot.index]? =
        link.pool.locks[slot.index]?.map fun lock => lock.without id :=
      Vector.getElem?_map
    rw [mapped, claimed.locked, Option.map_some]
    have other : (Lock.heldBy owner).holder ≠ some id :=
      fun same => apart (Option.some.inj same).symm
    exact congrArg some (if_neg other)
  claimed := claimed.claimed

theorem Link.ClaimedAt.without {slots size : Nat} {link : Link slots size} {id owner : TaskId}
    {point : InterruptPoint} (claimed : link.ClaimedAt owner point) (apart : id ≠ owner) :
    (link.without id).ClaimedAt owner point := by
  cases point with
  | readFrame slot length => exact Link.Claimed.without claimed apart
  | _ => trivial

theorem Link.InterruptTurns.keeps_claims {slots size : Nat} {link : Link slots size}
    {id owner : TaskId} {point other : InterruptPoint} {turn : InterruptTurn slots size}
    (turns : Link.InterruptTurns link id point turn) (apart : id ≠ owner)
    (own : link.ClaimedAt id point) (claimed : link.ClaimedAt owner other) :
    turn.Leaves fun after => after.ClaimedAt owner other := by
  cases other with
  | readFrame slot length => exact turns.keeps_claimed apart own claimed
  | _ => cases turn <;> trivial

namespace Station

variable {slots size capacity : Nat} {station after : Station slots size capacity}

structure Claiming (station : Station slots size capacity) : Prop where
  orderly : station.Orderly
  claims : ∀ id point, station.task? id = some (.interrupt point) →
    station.link.ClaimedAt id point

theorem claiming_of_fresh (fresh : station.Fresh) : station.Claiming := by
  refine ⟨orderly_of_fresh fresh, ?_⟩
  obtain ⟨device, config, handler, link, _, rfl⟩ := fresh
  intro id point found
  cases found

theorem Claiming.move {move : Move capacity} (claiming : station.Claiming)
    (moved : station.move? move = some after) : after.Claiming := by
  refine ⟨claiming.orderly.move moved, ?_⟩
  have stays {id : TaskId} {first second : Option Task}
      (renames : station.Renames after id first second)
      (new : ∀ point, second = some (.interrupt point) → after.link.ClaimedAt id point)
      (kept : ∀ owner point, id ≠ owner → station.link.ClaimedAt owner point →
        after.link.ClaimedAt owner point) :
      ∀ owner point, after.task? owner = some (.interrupt point) →
        after.link.ClaimedAt owner point := by
    intro owner point found
    by_cases same : owner = id
    · subst same
      rw [renames.later] at found
      exact new point found
    · rw [renames.stay owner same] at found
      exact kept owner point (fun equal => same equal.symm) (claiming.claims owner point found)
  cases claiming.orderly.happens moved with
  | @step id task next given effect renames =>
      cases serves : task.servesEvents with
      | false =>
          have same := effect.sameBytes serves
          refine stays renames ?_ fun owner point _ claimed => claimed.same same
          intro point becomes
          exact (effect.next_idle serves point becomes).elim
      | true =>
          cases task with
          | interrupt before =>
              have own := claiming.claims id before renames.before
              rcases effect.of_interrupt with ⟨later, rfl, turns⟩ | ⟨result, rfl, turns⟩
              · refine stays renames ?_ fun owner point apart => turns.keeps_claims apart own
                rintro point ⟨⟩
                exact turns.claims
              · exact stays renames nofun fun owner point apart => turns.keeps_claims apart own
          | _ => cases serves
  | @cancel id task linkAfter renames =>
      refine stays renames nofun ?_
      intro owner point apart claimed
      rw [linkAfter]
      exact claimed.without apart
  | @call move id task names outside quiet linkAfter renames =>
      rw [linkAfter] at stays ⊢
      refine stays renames ?_ fun owner point _ claimed => claimed
      rintro point ⟨⟩
      exact Link.claimedAt_of_slot? (quiet rfl)
  | action noTask acted same =>
      intro owner point found
      rw [same] at found
      exact (claiming.claims owner point found).same acted.sameBytes

theorem claiming_and_expecting_of_run {opened : Station slots size capacity}
    {rule : Rule slots size capacity} {moves : List (Move capacity)} (fresh : opened.Fresh)
    (reached : run? rule moves opened = some station) : station.Claiming ∧ station.Expecting :=
  run?_keeps (fun station => station.Claiming ∧ station.Expecting)
    (fun _ _ _ both _ moved => ⟨both.1.move moved, Expecting.move both.1.orderly both.2 moved⟩)
    ⟨claiming_of_fresh fresh, expecting_of_fresh fresh⟩ reached

end Station

end UwbRadio

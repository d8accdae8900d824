import UwbRadio.Proofs.Pool.Permits
import UwbRadio.Proofs.Ranging.Answer
import UwbRadio.Proofs.Station.Locks
import UwbRadio.Proofs.Station.Payload
import UwbRadio.Proofs.Station.Poll

/-!
The processing of an answer, from the buffer that it comes in. It takes one step: the
buffer is given back, and the session makes what it can of the bytes. In a run nothing
keeps it waiting.
-/

namespace UwbRadio

open Ranging (LinkedSession Message Pair Session WorkItem)

namespace Station

variable {slots size capacity : Nat} {station after : Station slots size capacity} {id : TaskId}
  {item : WorkItem} {session : Session capacity}

/-- An answer is processed in one step, which gives its buffer back whatever the bytes are,
and ends the call. In a run the buffer is reserved and nobody has locked it, so that the
step can be made, and afterwards nobody has it. -/
theorem answer_is_processed (found : station.task? id = some (.process (.buffer item)))
    (opened : station.session = some session) :
    (station.link.pool.accessible item.slot = false → station.step? id = none) ∧
    (station.link.pool.accessible item.slot = true →
      ∃ after result later,
        station.step? id = some after ∧ after.task? id = none ∧
        after.finished = (id, station.now, .processed result) :: station.finished ∧
        after.session = some later ∧ after.link = station.link.releaseSlot item.slot ∧
        (∀ index, after.link.pool.isOwned index =
          (station.link.pool.isOwned index && index != item.slot.index)) ∧
        (station.link.pool.isOwned item.slot.index = true →
          after.link.pool.outstanding + 1 = station.link.pool.outstanding) ∧
        session.Answered (station.link.pool.contents item.slot)
          (Message.decode .little (station.link.pool.contents item.slot)) result later) ∧
    ∀ (rule : Rule slots size capacity) (moves : List (Move capacity))
      (beginning : Station slots size capacity), beginning.Fresh →
      run? rule moves beginning = some station →
        station.link.pool.accessible item.slot = true ∧
        station.link.pool.isOwned item.slot.index = true ∧
        ∀ after, station.step? id = some after → item.slot ∉ after.holders := by
  have step := step?_process found opened
  refine ⟨?_, ?_, ?_⟩
  · intro locked
    rw [step, locked]
    rfl
  · intro free
    rw [free, if_pos rfl] at step
    refine ⟨_, _, _, step, task?_finishTask _ id _, rfl, rfl, rfl, ?_, ?_,
      session.process_answered _⟩
    · exact station.link.pool.isOwned_release item.slot
    · exact Pool.outstanding_release
  · intro rule moves beginning fresh ran
    have sound := (sound_of_fresh fresh).run ran
    have free := sound.accessible found rfl rfl
    obtain ⟨lost, balances⟩ := sound.balances
    refine ⟨free, balances.owned (.inr (.inr (mem_inHands (mem_tasks found) rfl))), ?_⟩
    intro after stepped held
    have moved : station.move? (.step id) = some after := stepped
    have later : after.Balances lost := balances.move moved
    have owned : after.link.pool.isOwned item.slot.index = true := by
      refine later.owned ?_
      rcases List.mem_append.mp held with claimed | elsewhere
      · exact .inl claimed
      · exact .inr (List.mem_append.mp elsewhere).symm
    rw [step, free, if_pos rfl] at stepped
    cases stepped
    have freed := station.link.pool.isOwned_release item.slot item.slot.index
    rw [bne_self_eq_false, Bool.and_false] at freed
    exact Bool.noConfusion (freed.symm.trans owned)

def answerOfSecond : Bytes :=
  Message.encode ⟨Message.responseCode, 5, 2, 1, 300⟩ .little

def takesAnswer : List (Move 1) :=
  [[.openSession ⟨5, 3, Ranging.pairsOf [1, 2]⟩ {} (fun time => ⟨time.ticks.toUInt32⟩) true,
      .disturb (.registers (RegisterFile.powerUp.receive
        (LinkHeader.frame { sequence := 7, panId := 0x1234, source := 2, destination := some 5 }
          answerOfSecond))),
      .submit 1 (.receive .blocking 0)],
    List.replicate 7 (.step 1), [.submit 2 (.feed .received)], List.replicate 5 (.step 2),
    [.submit 3 (.process .pop), .step 3]].flatten

theorem answer_of_second_is_processed :
    ∃ opened before after : Station 2 127 1, ∃ session,
      opened.Fresh ∧ run? dropsNothing takesAnswer opened = some before ∧
      before.task? 3 = some (.process (.buffer ⟨⟨0⟩⟩)) ∧ before.session = some session ∧
      before.link.pool.contents ⟨0⟩ = answerOfSecond ∧ before.step? 3 = some after ∧
      after.finished =
        (3, before.now, .processed (.ok (some ⟨1, 2, some ⟨300⟩⟩))) :: before.finished ∧
      after.link.pool.isOwned 0 = false ∧
      after.session.map (fun session => (session.table.pairs, session.valid)) =
        some ([⟨1, 2, some ⟨300⟩⟩], true) := by
  have evaluated : (do
      let opened : Station 2 127 1 ← open? Device.unused {} .ranging
      let before ← run? dropsNothing takesAnswer opened
      let session ← before.session
      return (before.task? 3, before.link.pool.contents ⟨0⟩, session.table.pairs,
        session.estimator (Duration.ofTicks 300))) =
      some (some (.process (.buffer ⟨⟨0⟩⟩)), answerOfSecond, [⟨1, 2, none⟩], ⟨300⟩) := by
    decide +kernel
  obtain ⟨opened, isOpen, evaluated⟩ := Option.bind_eq_some_iff.mp evaluated
  obtain ⟨before, ran, evaluated⟩ := Option.bind_eq_some_iff.mp evaluated
  obtain ⟨session, has, evaluated⟩ := Option.bind_eq_some_iff.mp evaluated
  have seen := Option.some.inj evaluated
  simp only [Prod.mk.injEq] at seen
  obtain ⟨found, contents, pairs, estimated⟩ := seen
  have fresh := fresh_of_open? isOpen
  obtain ⟨_, processed, inRun⟩ := answer_is_processed found has
  obtain ⟨free, owned, _⟩ := inRun dropsNothing takesAnswer opened fresh ran
  obtain ⟨after, result, later, stepped, _, finished, isLater, _, owns, _, answered⟩ :=
    processed free
  rw [contents] at answered
  obtain ⟨place, pair, updated, there, _, _, isUpdated, rfl, rfl⟩ :=
    answered.stored (by decide) (by decide)
      ⟨⟨1, 2, none⟩, pairs ▸ List.mem_singleton_self _, by decide⟩
  rw [pairs] at there
  obtain ⟨rfl, rfl⟩ : place = 0 ∧ pair = ⟨1, 2, none⟩ := by
    cases place with
    | zero => exact ⟨rfl, (Option.some.inj there).symm⟩
    | succ place => cases there
  have isTime : (Message.decode .little answerOfSecond).timeOfFlight = 300 := by decide
  rw [isTime, estimated] at isUpdated
  refine ⟨opened, before, after, session, fresh, ran, found, has, contents, stepped, ?_, ?_, ?_⟩
  · rw [finished, isUpdated]
  · rw [owns]
    exact Bool.and_false _
  · rw [isLater, Option.map_some, pairs, isUpdated]
    rfl

end Station

end UwbRadio
